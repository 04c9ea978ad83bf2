import Mathlib.Data.Nat.Notation
import Mathlib.Tactic.Common

set_option relaxedAutoImplicit false
set_option autoImplicit false

/-!
# Table views

A table view asks its data source for the number of rows when it reloads, and remembers the
answer: it renders and offers for tapping exactly these rows until the next reload, whatever
the backing list does in between. A tapped row becomes the selected one; a reload clears the
selection.

## Main definitions

* `TableView` — the remembered row count and the selected row.
* `TableView.reloadData`, `TableView.select` — a reload, and a tap on a row.
* `TableView.Backed` — every offered row is in range of the list.
-/

/-- A table view. -/
structure TableView where
  /-- The number of rows at the last reload. -/
  rows : ℕ
  /-- The row selected since. -/
  selected : Option ℕ
deriving DecidableEq

namespace TableView

/-- A table view before its first reload. -/
def unloaded : TableView := ⟨0, none⟩

/-- The table reloads over a list of length `n`. -/
def reloadData (n : ℕ) : TableView := ⟨n, none⟩

/-- The user taps row `row`. -/
def select (t : TableView) (row : ℕ) : TableView := { t with selected := some row }

/-- Every offered row is in range of a backing list of length `n`. -/
def Backed (t : TableView) (n : ℕ) : Prop := t.rows ≤ n

instance (t : TableView) (n : ℕ) : Decidable (t.Backed n) := inferInstanceAs (Decidable (_ ≤ _))

@[simp] lemma backed_reloadData {m n : ℕ} : (reloadData m).Backed n ↔ m ≤ n := Iff.rfl

@[simp] lemma backed_select {t : TableView} {row n : ℕ} :
    (t.select row).Backed n ↔ t.Backed n := Iff.rfl

@[simp] lemma backed_zero {t : TableView} : t.Backed 0 ↔ t.rows = 0 := Nat.le_zero

@[simp] lemma selected_reloadData (n : ℕ) : (reloadData n).selected = none := rfl

@[simp] lemma selected_select (t : TableView) (row : ℕ) :
    (t.select row).selected = some row := rfl

/-- An offered row of a backed table is in range. -/
lemma Backed.lt {t : TableView} {row n : ℕ} (h : t.Backed n) (hrow : row < t.rows) :
    row < n := by
  have hle : t.rows ≤ n := h
  omega

end TableView

import Mathlib.Logic.Function.Basic
import Mathlib.Logic.Relation
import Mathlib.Order.Basic
import Mathlib.Tactic.Common

set_option relaxedAutoImplicit false
set_option autoImplicit false

/-!
# A map in memory and its durable copy

A program works on a map in memory. An edit changes the map, a commit makes the edited map durable,
and a crash replaces it by what can be restored from the durable copy. If the values are ordered,
and neither an edit nor a restoration takes a value back, then no value of the durable copy goes
back either, over any number of crashes.

## Main definitions

* `Copies` — the map in memory and its durable copy.
* `Copies.Move` — an edit, a commit or a crash.
* `Copies.Below` — every value of one map has become a later one in another.

## Main results

* `Copies.below_of_moves` — no value of the durable copy is lost or goes back.
-/

variable {κ α : Type*}

/-- A map in memory and its durable copy. -/
structure Copies (κ α : Type*) where
  /-- The map in memory. -/
  volatile : κ → Option α
  /-- Its durable copy. -/
  durable : κ → Option α

namespace Copies

/-- One move, for the edits `edit` of the map and what `restore` makes of a durable value. -/
inductive Move (edit : (κ → Option α) → (κ → Option α) → Prop) (restore : α → α) :
    Copies κ α → Copies κ α → Prop where
  /-- The map is edited. -/
  | edit {c : Copies κ α} {m : κ → Option α} (h : edit c.volatile m) :
      Move edit restore c ⟨m, c.durable⟩
  /-- The map is edited and made durable. -/
  | commit {c : Copies κ α} {m : κ → Option α} (h : edit c.volatile m) : Move edit restore c ⟨m, m⟩
  /-- The map is lost, and restored from the durable copy. -/
  | crash {c : Copies κ α} :
      Move edit restore c ⟨fun k => (c.durable k).map restore, c.durable⟩

/-- The map without values, not yet made durable. -/
def empty : Copies κ α := ⟨fun _ => none, fun _ => none⟩

section Order

variable [Preorder α]

/-- Every value of `m` has become a later one in `m'`. -/
def Below (m m' : κ → Option α) : Prop := ∀ k, ∀ a ∈ m k, ∃ b ∈ m' k, a ≤ b

lemma Below.refl (m : κ → Option α) : Below m m := fun _ a ha => ⟨a, ha, le_refl a⟩

lemma Below.trans {m m' m'' : κ → Option α} (h : Below m m') (h' : Below m' m'') :
    Below m m'' := by
  intro k a ha
  obtain ⟨b, hb, hab⟩ := h k a ha
  obtain ⟨c, hc, hbc⟩ := h' k b hb
  exact ⟨c, hc, hab.trans hbc⟩

/-- A new value may be set for a key that has none, or a later one. -/
lemma Below.update [DecidableEq κ] {m : κ → Option α} {k : κ} {b : α} (h : ∀ a ∈ m k, a ≤ b) :
    Below m (Function.update m k (some b)) := by
  intro j a ha
  by_cases hj : j = k
  · subst hj
    exact ⟨b, by simp, h a ha⟩
  · exact ⟨a, by simpa [hj] using ha, le_refl a⟩

/-- **No value of the durable copy is lost or goes back.** If no edit takes a value back, and no
restoration does, then along the moves the durable copy stays below the map in memory, and every
value that is durable at some time is so at every later one, the same or a later one.

**Proof sketch.** Induction on the moves. The map in memory is above the durable copy, so a commit
replaces the latter by a map above it; a crash leaves it. -/
theorem below_of_moves {edit : (κ → Option α) → (κ → Option α) → Prop} {restore : α → α}
    (hedit : ∀ m m', edit m m' → Below m m') (hrestore : ∀ a, a ≤ restore a) {c c' : Copies κ α}
    (hc : Below c.durable c.volatile) (h : Relation.ReflTransGen (Move edit restore) c c') :
    Below c.durable c'.durable ∧ Below c'.durable c'.volatile := by
  induction h with
  | refl => exact ⟨.refl _, hc⟩
  | tail _ hmove ih =>
    obtain ⟨hdur, hvol⟩ := ih
    cases hmove with
    | edit h => exact ⟨hdur, hvol.trans (hedit _ _ h)⟩
    | commit h => exact ⟨hdur.trans (hvol.trans (hedit _ _ h)), .refl _⟩
    | crash =>
      refine ⟨hdur, fun k a ha => ⟨restore a, ?_, hrestore a⟩⟩
      show Option.map restore _ = _
      rw [Option.mem_def.mp ha]
      rfl

end Order

end Copies

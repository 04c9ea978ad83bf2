import Mathlib.Data.List.Nodup
import Mathlib.Tactic.Common

set_option relaxedAutoImplicit false
set_option autoImplicit false

/-!
# Lists without repetitions

A set whose members have an order, kept as a list without repetitions, with the operation that
takes a member out if it is there and appends it if it is not.

## Main definitions

* `UniqueList` — a list without repetitions.
* `UniqueList.toggle` — take a member out, or append it.
* `UniqueList.others` — the members other than one, in their order.

## Main results

* `UniqueList.others_toggle` — a toggle leaves the other members and their order.
* `UniqueList.self_mem_toggle`, `UniqueList.mem_toggle_of_ne` — the members after a toggle.
* `UniqueList.mem_toggle_toggle` — two toggles leave the members.
-/

/-- A list without repetitions. -/
structure UniqueList (α : Type*) where
  toList : List α
  nodup : toList.Nodup

namespace UniqueList

variable {α : Type*}

instance : Membership α (UniqueList α) := ⟨fun s a => a ∈ s.toList⟩

@[simp] lemma mem_toList {s : UniqueList α} {a : α} : a ∈ s.toList ↔ a ∈ s := Iff.rfl

variable [DecidableEq α]

instance (s : UniqueList α) (a : α) : Decidable (a ∈ s) :=
  inferInstanceAs (Decidable (a ∈ s.toList))

/-- The list after a toggle of `a`. -/
def toggleList (a : α) (l : List α) : List α :=
  if a ∈ l then l.filter (· ≠ a) else l ++ [a]

/-- A toggle repeats nothing: a member is appended only if it is not there. -/
lemma nodup_toggleList (a : α) {l : List α} (hl : l.Nodup) : (toggleList a l).Nodup := by
  unfold toggleList
  by_cases ha : a ∈ l
  · rw [if_pos ha]
    exact hl.filter _
  · rw [if_neg ha]
    apply hl.append (List.nodup_singleton a)
    exact List.disjoint_singleton.mpr ha

/-- Take `a` out if it is a member, and append it if it is not. -/
def toggle (a : α) (s : UniqueList α) : UniqueList α :=
  ⟨toggleList a s.toList, nodup_toggleList a s.nodup⟩

lemma toList_toggle_of_mem {a : α} {s : UniqueList α} (h : a ∈ s) :
    (s.toggle a).toList = s.toList.filter (· ≠ a) := if_pos h

lemma toList_toggle_of_notMem {a : α} {s : UniqueList α} (h : a ∉ s) :
    (s.toggle a).toList = s.toList ++ [a] := if_neg h

/-- The members other than `a`, in their order. -/
def others (a : α) (s : UniqueList α) : List α := s.toList.filter (· ≠ a)

lemma mem_others {a b : α} {s : UniqueList α} : b ∈ s.others a ↔ b ∈ s ∧ b ≠ a := by
  simp [others]

/-- A toggle leaves the other members and their order. -/
lemma others_toggle (a : α) (s : UniqueList α) : (s.toggle a).others a = s.others a := by
  unfold others
  by_cases ha : a ∈ s
  · rw [toList_toggle_of_mem ha, List.filter_filter]
    simp
  · rw [toList_toggle_of_notMem ha, List.filter_append]
    simp

/-- A toggle takes its member out or in. -/
lemma self_mem_toggle {a : α} {s : UniqueList α} : a ∈ s.toggle a ↔ a ∉ s := by
  by_cases ha : a ∈ s
  · rw [← mem_toList, toList_toggle_of_mem ha]
    simpa using ha
  · rw [← mem_toList, toList_toggle_of_notMem ha]
    simpa using ha

/-- A toggle keeps the other members. -/
lemma mem_toggle_of_ne {a b : α} {s : UniqueList α} (h : b ≠ a) : b ∈ s.toggle a ↔ b ∈ s := by
  have hothers : b ∈ (s.toggle a).others a ↔ b ∈ s.others a := by rw [others_toggle]
  rw [mem_others, mem_others] at hothers
  simpa [h] using hothers

/-- Two toggles leave the members. -/
lemma mem_toggle_toggle {a b : α} {s : UniqueList α} :
    b ∈ (s.toggle a).toggle a ↔ b ∈ s := by
  by_cases h : b = a
  · rw [h, self_mem_toggle, self_mem_toggle, not_not]
  · rw [mem_toggle_of_ne h, mem_toggle_of_ne h]

end UniqueList

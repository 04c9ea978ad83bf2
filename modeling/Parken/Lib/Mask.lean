import Mathlib.Data.List.Basic
import Mathlib.Data.List.TakeWhile
import Mathlib.Tactic.Common

set_option relaxedAutoImplicit false
set_option autoImplicit false

/-!
# Masks

A mask is a line of places, some fixed and some to be filled by a symbol of a class. Filling a mask
from a text goes through both from the left: a fixed place is written as it is, a hole takes the
next symbol of its class and skips those that are not, and the filling ends with the mask or with
the text.

## Main definitions

* `Slot`, `Mask` — a place, and a line of places.
* `Mask.fill` — a text written into a mask.
* `Mask.kept` — the symbols of the text that fill a hole.
* `Mask.Fits` — a text is the beginning of an instance of the mask.

## Main results

* `Mask.fits_fill` — a filling is the beginning of an instance.
* `Mask.filter_fill` — where a class tells the holes from the fixed places, the symbols of the class
  in a filling are those kept.
* `Mask.kept_kept` — keeping is idempotent.
* `Mask.kept_eq_take` — a mask whose holes are of one class keeps the first symbols of the class, as
  many as there are holes.
* `Mask.Fits.eq_fill_append` — what fits such a mask is a filling, but for fixed places at its end.
-/

/-- A place of a mask. -/
inductive Slot (α : Type*) where
  /-- A fixed symbol. -/
  | literal (c : α)
  /-- A symbol of a class. -/
  | hole (p : α → Bool)

/-- A line of places. -/
abbrev Mask (α : Type*) := List (Slot α)

/-- The symbol may stand in the place. -/
def Slot.Accepts {α : Type*} : Slot α → α → Prop
  | .literal c, a => a = c
  | .hole p, a => p a = true

namespace Mask

variable {α : Type*}

/-- The text written into the mask. -/
def fill : Mask α → List α → List α
  | [], _ => []
  | .literal c :: m, t => if t.isEmpty then [] else c :: fill m t
  | .hole p :: m, t =>
    match t.dropWhile fun a => !p a with
    | [] => []
    | a :: t => a :: fill m t

/-- The symbols of the text that fill a hole of the mask. -/
def kept : Mask α → List α → List α
  | [], _ => []
  | .literal _ :: m, t => kept m t
  | .hole p :: m, t =>
    match t.dropWhile fun a => !p a with
    | [] => []
    | a :: t => a :: kept m t

/-- The text is the beginning of an instance of the mask. -/
def Fits : Mask α → List α → Prop
  | _, [] => True
  | [], _ :: _ => False
  | s :: m, a :: x => s.Accepts a ∧ Fits m x

/-- The number of holes. -/
def holes : Mask α → ℕ
  | [] => 0
  | .literal _ :: m => holes m
  | .hole _ :: m => holes m + 1

/-- A mask with a hole in it has some. -/
lemma holes_ne_zero {m : Mask α} {p : α → Bool} (h : .hole p ∈ m) : m.holes ≠ 0 := by
  induction m with
  | nil => simp at h
  | cons s m ih =>
    cases s with
    | literal c => exact ih (by simpa using h)
    | hole q => exact Nat.succ_ne_zero _

/-! ## Filling -/

@[simp] lemma fill_nil_left (t : List α) : fill [] t = [] := rfl

@[simp] lemma fill_nil (m : Mask α) : fill m [] = [] := by
  rcases m with _ | ⟨_ | _, _⟩ <;> rfl

@[simp] lemma kept_nil (m : Mask α) : kept m [] = [] := by
  induction m with
  | nil => rfl
  | cons s m ih =>
    cases s with
    | literal c => exact ih
    | hole p => rfl

@[simp] lemma fill_literal_cons (c : α) (m : Mask α) (a : α) (t : List α) :
    fill (.literal c :: m) (a :: t) = c :: fill m (a :: t) := rfl

@[simp] lemma kept_literal (c : α) (m : Mask α) (t : List α) :
    kept (.literal c :: m) t = kept m t := rfl

/-- A hole takes the next symbol, or skips it. -/
lemma fill_hole_cons (p : α → Bool) (m : Mask α) (a : α) (t : List α) :
    fill (.hole p :: m) (a :: t) = if p a then a :: fill m t else fill (.hole p :: m) t := by
  cases h : p a <;> simp [fill, h]

lemma kept_hole_cons (p : α → Bool) (m : Mask α) (a : α) (t : List α) :
    kept (.hole p :: m) (a :: t) = if p a then a :: kept m t else kept (.hole p :: m) t := by
  cases h : p a <;> simp [kept, h]

@[simp] lemma fits_nil (m : Mask α) : Fits m [] := by cases m <;> trivial

/-- Nothing longer than the mask fits it. -/
lemma Fits.length_le {m : Mask α} {x : List α} (h : m.Fits x) : x.length ≤ m.length := by
  induction x generalizing m with
  | nil => simp
  | cons a x ih =>
    cases m with
    | nil => exact absurd h id
    | cons s m =>
      have hle := ih h.2
      simp only [List.length_cons]
      omega

/-- **A filling is the beginning of an instance of the mask.** -/
theorem fits_fill (m : Mask α) (t : List α) : m.Fits (m.fill t) := by
  induction m generalizing t with
  | nil => trivial
  | cons s m ih =>
    induction t with
    | nil => simp
    | cons a t iht =>
      cases s with
      | literal c => exact ⟨rfl, ih (a :: t)⟩
      | hole p =>
        rw [fill_hole_cons]
        split_ifs with hp
        · exact ⟨hp, ih t⟩
        · exact iht

/-! ## The symbols kept -/

/-- The symbols kept are symbols of the text, in their order. -/
lemma kept_sublist (m : Mask α) (t : List α) : (m.kept t).Sublist t := by
  induction m generalizing t with
  | nil => exact List.nil_sublist t
  | cons s m ih =>
    cases s with
    | literal c => exact ih t
    | hole p =>
      induction t with
      | nil => simp
      | cons a t iht =>
        rw [kept_hole_cons]
        split_ifs
        · exact (ih t).cons_cons a
        · exact iht.cons a

/-- Let a class hold of no fixed place, and of every symbol of the text that a hole takes. Then the
symbols of the class in a filling are those kept.

**Proof sketch.** Induction on the mask, and inside a hole on the text it skips. -/
theorem filter_fill {q : α → Bool} {m : Mask α} (hlit : ∀ c, .literal c ∈ m → q c = false)
    {t : List α} (hhole : ∀ p, .hole p ∈ m → ∀ a ∈ t, p a = true → q a = true) :
    (m.fill t).filter q = m.kept t := by
  induction m generalizing t with
  | nil => rfl
  | cons s m ih =>
    have hlit' : ∀ c, .literal c ∈ m → q c = false := fun c hc => hlit c (List.mem_cons_of_mem _ hc)
    have ih' : ∀ {t' : List α}, t'.Sublist t → (fill m t').filter q = kept m t' := fun hsub =>
      ih hlit' fun p hp a ha => hhole p (List.mem_cons_of_mem _ hp) a (hsub.subset ha)
    cases s with
    | literal c =>
      cases t with
      | nil => simp
      | cons a t =>
        have hc : q c = false := hlit c (by simp)
        rw [fill_literal_cons, List.filter_cons_of_neg (by simp [hc]), ih' (.refl _), kept_literal]
    | hole p =>
      have hp : ∀ a ∈ t, p a = true → q a = true := hhole p (by simp)
      clear hhole
      induction t with
      | nil => simp
      | cons a t iht =>
        rw [fill_hole_cons, kept_hole_cons]
        split_ifs with ha
        · have hq : q a = true := hp a (by simp) ha
          rw [List.filter_cons_of_pos hq, ih' (List.sublist_cons_self a t)]
        · exact iht (fun hsub => ih' (hsub.cons a)) fun b hb => hp b (List.mem_cons_of_mem _ hb)

/-- **Keeping is idempotent.** What fills a hole fills it again. -/
theorem kept_kept (m : Mask α) (t : List α) : m.kept (m.kept t) = m.kept t := by
  induction m generalizing t with
  | nil => rfl
  | cons s m ih =>
    cases s with
    | literal c => exact ih t
    | hole p =>
      induction t with
      | nil => simp
      | cons a t iht =>
        rw [kept_hole_cons]
        split_ifs with ha
        · rw [kept_hole_cons, if_pos ha, ih]
        · exact iht

/-! ## Holes of one class -/

/-- Every hole of the mask is of class `p`, and no fixed symbol is. -/
structure OfClass (p : α → Bool) (m : Mask α) : Prop where
  literal : ∀ c, .literal c ∈ m → p c = false
  hole : ∀ q, .hole q ∈ m → q = p

lemma OfClass.tail {p : α → Bool} {s : Slot α} {m : Mask α} (h : OfClass p (s :: m)) :
    OfClass p m :=
  ⟨fun c hc => h.literal c (List.mem_cons_of_mem _ hc),
    fun q hq => h.hole q (List.mem_cons_of_mem _ hq)⟩

/-- The symbols of the class in a filling are those kept. -/
lemma OfClass.filter_fill {p : α → Bool} {m : Mask α} (h : OfClass p m) (t : List α) :
    (m.fill t).filter p = m.kept t :=
  Mask.filter_fill h.literal fun q hq a _ ha => by rwa [h.hole q hq] at ha

/-- **A mask with holes of one class keeps the first symbols of the class**, as many as it has
holes. -/
theorem kept_eq_take {p : α → Bool} {m : Mask α} (h : OfClass p m) (t : List α) :
    m.kept t = (t.filter p).take m.holes := by
  induction m generalizing t with
  | nil => simp [kept, holes]
  | cons s m ih =>
    cases s with
    | literal c => exact ih h.tail t
    | hole q =>
      obtain rfl : q = p := h.hole q (by simp)
      induction t with
      | nil => simp
      | cons a t iht =>
        rw [kept_hole_cons]
        split_ifs with ha
        · rw [List.filter_cons_of_pos ha, holes, List.take_succ_cons, ih h.tail]
        · rw [List.filter_cons_of_neg ha, iht]

/-- **What fits is a filling, but for fixed places at its end.** A text that fits a mask with holes
of one class is the filling with its symbols of the class, followed by symbols that are not of the
class. -/
theorem Fits.eq_fill_append {p : α → Bool} {m : Mask α} (hm : OfClass p m) {x : List α}
    (h : m.Fits x) : ∃ l, x = m.fill (x.filter p) ++ l ∧ ∀ a ∈ l, p a = false := by
  induction x generalizing m with
  | nil => exact ⟨[], by simp, by simp⟩
  | cons a x ih =>
    cases m with
    | nil => exact absurd h id
    | cons s m =>
      obtain ⟨l, hx, hl⟩ := ih hm.tail h.2
      cases s with
      | literal c =>
        have hac : a = c := h.1
        have hpa : p a = false := hac ▸ hm.literal c (by simp)
        rw [List.filter_cons_of_neg (by simp [hpa])]
        cases hf : x.filter p with
        | nil =>
          -- only fixed places are left
          refine ⟨a :: x, by simp, fun b hb => ?_⟩
          rcases List.mem_cons.mp hb with rfl | hb
          · exact hpa
          · have hnot := List.filter_eq_nil_iff.mp hf b hb
            simpa using hnot
        | cons b y =>
          rw [hf] at hx
          refine ⟨l, ?_, hl⟩
          rw [fill_literal_cons, List.cons_append, ← hx, hac]
      | hole q =>
        have hpa : p a = true := by
          have hq : q a = true := h.1
          rwa [hm.hole q (by simp)] at hq
        refine ⟨l, ?_, hl⟩
        rw [List.filter_cons_of_pos hpa, fill_hole_cons, hm.hole q (by simp), if_pos hpa,
          List.cons_append, ← hx]

/-- Symbols of the class beyond the holes do not show in a mask that ends with a hole. -/
lemma OfClass.fill_take {p : α → Bool} {m : Mask α} (hm : OfClass p m) {q : α → Bool}
    (hlast : m.getLast? = some (.hole q)) {d : List α} (hd : ∀ a ∈ d, p a = true) :
    m.fill (d.take m.holes) = m.fill d := by
  induction m generalizing d with
  | nil => rfl
  | cons s m ih =>
    cases d with
    | nil => simp
    | cons a d =>
      cases s with
      | literal c =>
        cases m with
        | nil => simp at hlast
        | cons s' m' =>
          rw [List.getLast?_cons_cons] at hlast
          have hfill := ih hm.tail hlast hd
          rw [holes]
          obtain ⟨n, hn⟩ : ∃ n, holes (s' :: m') = n + 1 :=
            Nat.exists_eq_succ_of_ne_zero (holes_ne_zero (List.mem_of_getLast? hlast))
          rw [hn, List.take_succ_cons] at hfill ⊢
          rw [fill_literal_cons, fill_literal_cons, hfill]
      | hole r =>
        obtain rfl : r = p := hm.hole r (by simp)
        have ha : r a = true := hd a (by simp)
        rw [holes, List.take_succ_cons, fill_hole_cons, fill_hole_cons, if_pos ha, if_pos ha]
        cases m with
        | nil => rfl
        | cons s' m' =>
          rw [List.getLast?_cons_cons] at hlast
          rw [ih hm.tail hlast fun b hb => hd b (List.mem_cons_of_mem _ hb)]

/-- The last place written, while the symbols do not exceed the holes, is the hole of the last
symbol. -/
lemma OfClass.exists_fill_concat {p : α → Bool} {m : Mask α} (hm : OfClass p m) {d : List α} {a : α}
    (hd : ∀ b ∈ d, p b = true) (ha : p a = true) (hle : (d ++ [a]).length ≤ m.holes) :
    ∃ y, m.fill (d ++ [a]) = y ++ [a] := by
  induction m generalizing d with
  | nil => simp [holes] at hle
  | cons s m ih =>
    cases s with
    | literal c =>
      obtain ⟨y, hy⟩ := ih hm.tail hd hle
      have hcons : fill (.literal c :: m) (d ++ [a]) = c :: fill m (d ++ [a]) := by
        cases d <;> rfl
      exact ⟨c :: y, by rw [hcons, hy, List.cons_append]⟩
    | hole q =>
      obtain rfl : q = p := hm.hole q (by simp)
      cases d with
      | nil => exact ⟨[], by simp [fill_hole_cons, ha]⟩
      | cons b d =>
        have hb : q b = true := hd b (by simp)
        have hle' : (d ++ [a]).length ≤ holes m := by
          simp only [holes, List.cons_append, List.length_cons] at hle
          omega
        obtain ⟨y, hy⟩ := ih hm.tail (fun e he => hd e (List.mem_cons_of_mem _ he)) hle'
        refine ⟨b :: y, ?_⟩
        rw [List.cons_append, fill_hole_cons, if_pos hb, hy, List.cons_append]

end Mask

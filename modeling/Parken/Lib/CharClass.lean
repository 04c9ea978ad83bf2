import Mathlib.Computability.RegularExpressions
import Mathlib.Tactic.Common

set_option relaxedAutoImplicit false
set_option autoImplicit false

/-!
# Classes of characters in regular expressions

A class `[…]` matches one of its characters. Repeated, it matches the words over the class whose
length is in the bounds.

## Main definitions

* `RegularExpression.ofList` — a class.
* `RegularExpression.oneOrMore`, `RegularExpression.repeated` — `P+` and `P{m,n}`.

## Main results

* `RegularExpression.mem_oneOrMore_ofList`, `RegularExpression.mem_repeated_ofList` — what a
  repeated class matches.
-/

namespace RegularExpression

variable {α : Type*}

/-- The class of the characters listed. -/
def ofList (l : List α) : RegularExpression α := l.foldr (fun a P => char a + P) 0

/-- `P+`. -/
def oneOrMore (P : RegularExpression α) : RegularExpression α := P * P.star

/-- `P{m,n}`. -/
def repeated (P : RegularExpression α) (m n : ℕ) : RegularExpression α := P ^ m * (1 + P) ^ (n - m)

/-- A class matches one of its characters. -/
lemma mem_ofList {l : List α} {w : List α} : w ∈ (ofList l).matches' ↔ ∃ a ∈ l, w = [a] := by
  induction l with
  | nil => simp [ofList]
  | cons b l ih =>
    have hsplit : (ofList (b :: l)).matches' = {[b]} + (ofList l).matches' := rfl
    rw [hsplit, Language.mem_add, ih]
    constructor
    · rintro (rfl | ⟨a, ha, rfl⟩)
      · exact ⟨b, by simp, rfl⟩
      · exact ⟨a, by simp [ha], rfl⟩
    · rintro ⟨a, ha, rfl⟩
      rcases List.mem_cons.mp ha with rfl | ha
      · exact .inl rfl
      · exact .inr ⟨a, ha, rfl⟩

/-- Words that are matched one character at a time. -/
lemma flatten_ofList {l : List α} {L : List (List α)}
    (hL : ∀ y ∈ L, y ∈ (ofList l).matches') :
    L.flatten.length = L.length ∧ ∀ a ∈ L.flatten, a ∈ l := by
  induction L with
  | nil => simp
  | cons y L ih =>
    obtain ⟨a, ha, rfl⟩ := mem_ofList.mp (hL y (by simp))
    obtain ⟨hlen, hmem⟩ := ih fun z hz => hL z (by simp [hz])
    refine ⟨by simp [hlen], fun b hb => ?_⟩
    rcases List.mem_append.mp hb with hb | hb
    · rwa [List.mem_singleton.mp hb]
    · exact hmem b hb

/-- A word over a class is matched one character at a time. -/
lemma exists_flatten_ofList {l w : List α} (hw : ∀ a ∈ w, a ∈ l) :
    ∃ L : List (List α), w = L.flatten ∧ L.length = w.length ∧
      ∀ y ∈ L, y ∈ (ofList l).matches' := by
  refine ⟨w.map fun a => [a], ?_, by simp, fun y hy => ?_⟩
  · induction w with
    | nil => rfl
    | cons a w ih => simp [← ih fun b hb => hw b (by simp [hb])]
  · obtain ⟨a, ha, rfl⟩ := List.mem_map.mp hy
    exact mem_ofList.mpr ⟨a, hw a ha, rfl⟩

/-- A class so many times. -/
lemma mem_pow_ofList {l w : List α} {n : ℕ} :
    w ∈ (ofList l ^ n).matches' ↔ w.length = n ∧ ∀ a ∈ w, a ∈ l := by
  rw [matches'_pow, Language.mem_pow]
  constructor
  · rintro ⟨L, rfl, rfl, hL⟩
    exact flatten_ofList hL
  · rintro ⟨rfl, hw⟩
    exact exists_flatten_ofList hw

/-- **A class once or more.** -/
theorem mem_oneOrMore_ofList {l w : List α} :
    w ∈ (ofList l).oneOrMore.matches' ↔ w ≠ [] ∧ ∀ a ∈ w, a ∈ l := by
  rw [oneOrMore, matches'_mul, matches'_star, Language.mem_mul]
  constructor
  · rintro ⟨u, hu, v, hv, rfl⟩
    obtain ⟨a, ha, rfl⟩ := mem_ofList.mp hu
    obtain ⟨L, rfl, hL⟩ := Language.mem_kstar.mp hv
    refine ⟨by simp, fun b hb => ?_⟩
    rcases List.mem_append.mp hb with hb | hb
    · rwa [List.mem_singleton.mp hb]
    · exact (flatten_ofList hL).2 b hb
  · rintro ⟨hne, hw⟩
    obtain ⟨a, v, rfl⟩ := List.exists_cons_of_ne_nil hne
    have hv : ∀ b ∈ v, b ∈ l := fun b hb => hw b (by simp [hb])
    obtain ⟨L, hv, -, hL⟩ := exists_flatten_ofList hv
    exact ⟨[a], mem_ofList.mpr ⟨a, hw a (by simp), rfl⟩, v, Language.mem_kstar.mpr ⟨L, hv, hL⟩, rfl⟩

/-- A class at most so many times. -/
lemma mem_pow_one_add_ofList {l w : List α} {n : ℕ} :
    w ∈ ((1 + ofList l) ^ n).matches' ↔ w.length ≤ n ∧ ∀ a ∈ w, a ∈ l := by
  rw [matches'_pow]
  induction n generalizing w with
  | zero =>
    rw [pow_zero, Language.mem_one]
    constructor
    · rintro rfl
      simp
    · rintro ⟨hle, -⟩
      exact List.length_eq_zero_iff.mp (by omega)
  | succ n ih =>
    rw [pow_succ', Language.mem_mul]
    constructor
    · rintro ⟨u, hu, v, hv, rfl⟩
      obtain ⟨hle, hv⟩ := ih.mp hv
      rw [matches'_add, Language.mem_add] at hu
      rcases hu with hu | hu
      · rw [matches'_epsilon, Language.mem_one] at hu
        subst hu
        exact ⟨by simp only [List.nil_append]; omega, hv⟩
      · obtain ⟨a, ha, rfl⟩ := mem_ofList.mp hu
        refine ⟨by simp only [List.cons_append, List.nil_append, List.length_cons]; omega, ?_⟩
        intro b hb
        rcases List.mem_append.mp hb with hb | hb
        · rwa [List.mem_singleton.mp hb]
        · exact hv b hb
    · rintro ⟨hle, hw⟩
      cases w with
      | nil => exact ⟨[], .inl rfl, [], ih.mpr ⟨by simp, by simp⟩, rfl⟩
      | cons a v =>
        have hv : v.length ≤ n := by simpa using hle
        exact ⟨[a], .inr (mem_ofList.mpr ⟨a, hw a (by simp), rfl⟩), v,
          ih.mpr ⟨hv, fun b hb => hw b (by simp [hb])⟩, rfl⟩

/-- **A class between `m` and `n` times.** -/
theorem mem_repeated_ofList {l w : List α} {m n : ℕ} (hmn : m ≤ n) :
    w ∈ ((ofList l).repeated m n).matches' ↔
      m ≤ w.length ∧ w.length ≤ n ∧ ∀ a ∈ w, a ∈ l := by
  rw [repeated, matches'_mul, Language.mem_mul]
  constructor
  · rintro ⟨u, hu, v, hv, rfl⟩
    obtain ⟨hulen, hu⟩ := mem_pow_ofList.mp hu
    obtain ⟨hvlen, hv⟩ := mem_pow_one_add_ofList.mp hv
    rw [List.length_append]
    refine ⟨by omega, by omega, fun a ha => ?_⟩
    rcases List.mem_append.mp ha with ha | ha
    · exact hu a ha
    · exact hv a ha
  · rintro ⟨hm, hn, hw⟩
    have hu : (w.take m).length = m ∧ ∀ a ∈ w.take m, a ∈ l :=
      ⟨List.length_take_of_le hm, fun a ha => hw a (List.mem_of_mem_take ha)⟩
    have hv : (w.drop m).length ≤ n - m ∧ ∀ a ∈ w.drop m, a ∈ l :=
      ⟨by rw [List.length_drop]; omega, fun a ha => hw a (List.mem_of_mem_drop ha)⟩
    exact ⟨_, mem_pow_ofList.mpr hu, _, mem_pow_one_add_ofList.mpr hv, List.take_append_drop m w⟩

end RegularExpression

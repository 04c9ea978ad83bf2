import Mathlib.Algebra.Field.Rat
import Mathlib.Data.Nat.Digits.Defs
import Mathlib.Data.List.TakeDrop
import Mathlib.Tactic.Ring
import Parken.Lib.Double

set_option relaxedAutoImplicit false
set_option autoImplicit false

/-!
# Decimal numerals

The texts people write for decimal numbers: an optional sign, digits with at most one separator
among them, and an optional power of ten. Which characters separate the whole part from the
fraction is left open: a point, a comma, or either.

## Main definitions

* `Numeral.Sign`, `Numeral.Mantissa`, `Numeral.Exponent` — the parts of a numeral.
* `Numeral.Denotes` — a text is a numeral of a number.

## Main results

* `Double.parse_of_denotes` — a numeral with a point is converted to the double of its number.
* `Double.denotes_point_or_parse_none` — the conversion refuses a numeral with a comma.
-/

namespace Numeral

/-- The number a list of digits denotes. -/
def value (ds : List Char) : ℕ := Nat.ofDigits 10 (ds.map Double.digitValue).reverse

/-- Every character is a decimal digit. -/
def Digits (ds : List Char) : Prop := ∀ c ∈ ds, c.isDigit = true

/-- An optional sign, and the factor it stands for. -/
inductive Sign : List Char → ℤ → Prop where
  | none : Sign [] 1
  | plus : Sign ['+'] 1
  | minus : Sign ['-'] (-1)

/-- Digits with at most one separator among them, and at least one digit. -/
inductive Mantissa (separators : List Char) : List Char → ℚ → Prop where
  /-- A whole number. -/
  | whole {ds : List Char} (h : Digits ds) (hne : ds ≠ []) : Mantissa separators ds (value ds)
  /-- A whole part, a separator and a fraction, not both empty. -/
  | fraction {whole fraction : List Char} {c : Char} (hc : c ∈ separators) (hw : Digits whole)
      (hf : Digits fraction) (hne : whole ++ fraction ≠ []) :
      Mantissa separators (whole ++ c :: fraction)
        (value (whole ++ fraction) / 10 ^ fraction.length)

/-- An optional power of ten. -/
inductive Exponent : List Char → ℤ → Prop where
  | none : Exponent [] 0
  | some {mark : Char} {s ds : List Char} {σ : ℤ} (hm : mark = 'e' ∨ mark = 'E') (hs : Sign s σ)
      (h : Digits ds) (hne : ds ≠ []) : Exponent (mark :: (s ++ ds)) (σ * value ds)

/-- The text is a numeral of `q`, with one of `separators` before its fraction. -/
def Denotes (separators : List Char) (text : String) (q : ℚ) : Prop :=
  ∃ s m x : List Char, ∃ σ e : ℤ, ∃ v : ℚ, text.toList = s ++ (m ++ x) ∧ Sign s σ ∧
    Mantissa separators m v ∧ Exponent x e ∧ q = σ * (v * 10 ^ e)

/-! ### The parts of a numeral -/

/-- More separators, more numerals. -/
lemma Denotes.mono {separators separators' : List Char} (h : separators ⊆ separators')
    {text : String} {q : ℚ} (hd : Denotes separators text q) : Denotes separators' text q := by
  obtain ⟨s, m, x, σ, e, v, htext, hs, hm, hx, hq⟩ := hd
  refine ⟨s, m, x, σ, e, v, htext, hs, ?_, hx, hq⟩
  cases hm with
  | whole hd hne => exact .whole hd hne
  | fraction hc hw hf hne => exact .fraction (h hc) hw hf hne

end Numeral

namespace Double

open Numeral

/-- Digit by digit from the left, or by weights from the right. -/
lemma ofDigits_eq_value (ds : List Char) : ofDigits 10 ds = value ds := by
  rw [value, Nat.ofDigits_eq_foldr, List.foldr_reverse, List.foldl_map]
  unfold ofDigits
  congr 1
  funext n c
  simp only [Nat.cast_id]
  ring

/-- A digit has no lower case of its own. -/
lemma toLower_of_isDigit {c : Char} (h : c.isDigit = true) : c.toLower = c := by
  simp only [Char.isDigit, Bool.and_eq_true, decide_eq_true_eq] at h
  unfold Char.toLower
  rw [dif_neg]
  intro h'
  have := h.2
  simp only [UInt32.le_iff_toNat_le] at h h'
  simp at h h'
  omega

lemma map_toLower_of_digits {ds : List Char} (h : Digits ds) : ds.map Char.toLower = ds :=
  (List.map_congr_left fun c hc => toLower_of_isDigit (h c hc)).trans (List.map_id ds)

/-- The digits at the front of a text, up to a character that is none. -/
lemma span_digits {ds cs : List Char} (h : Digits ds) (hcs : ∀ c ∈ cs.head?, c.isDigit = false) :
    (ds ++ cs).span Char.isDigit = (ds, cs) := by
  rw [List.span_eq_takeWhile_dropWhile, List.takeWhile_append_of_pos h,
    List.dropWhile_append_of_pos h]
  cases cs with
  | nil => simp
  | cons c cs => simp [hcs c rfl]

/-- The sign at the front of a text. -/
lemma sign_append {s cs : List Char} {σ : ℤ} (hs : Sign s σ)
    (hcs : ∀ c ∈ cs.head?, c ≠ '-' ∧ c ≠ '+') : sign (s ++ cs) = (decide (σ = -1), cs) := by
  cases hs with
  | plus => rfl
  | minus => rfl
  | none =>
    cases cs with
    | nil => rfl
    | cons c cs =>
      obtain ⟨hm, hp⟩ := hcs c rfl
      simp only [List.nil_append]
      unfold sign
      split
      next h => exact absurd (List.cons.inj h).1 hm
      next h => exact absurd (List.cons.inj h).1 hp
      next => rfl

/-- A power of ten, in lower case, is an exponent. -/
lemma exponent_of_exponent {x : List Char} {e : ℤ} (hx : Exponent x e) :
    exponent ['e'] (x.map Char.toLower) = some e := by
  cases hx with
  | none => rfl
  | @some mark s ds σ hm hs h hne =>
    have hmark : mark.toLower = 'e' := by rcases hm with rfl | rfl <;> rfl
    have hsign : (s ++ ds).map Char.toLower = s ++ ds := by
      rw [List.map_append, map_toLower_of_digits h]
      cases hs <;> rfl
    have hds : ∀ c ∈ ds.head?, c ≠ '-' ∧ c ≠ '+' := by
      intro c hc
      have := h c (List.mem_of_head? hc)
      constructor <;> rintro rfl <;> simp at this
    have hall : ds.all Char.isDigit = true := List.all_eq_true.mpr h
    simp only [List.map_cons, hmark, hsign, exponent, sign_append hs hds, List.mem_singleton,
      true_and, hall, and_true, ofDigits_eq_value]
    rw [if_pos hne]
    cases hs <;> simp

/-- A power of ten, in lower case, starts with its mark. -/
lemma head_exponent {x : List Char} {e : ℤ} (hx : Exponent x e) :
    ∀ c ∈ (x.map Char.toLower).head?, c = 'e' := by
  cases hx with
  | none => simp
  | some hm hs h hne => rcases hm with rfl | rfl <;> simp

/-- A mantissa with a point and a power of ten are an unsigned number. -/
lemma significand_of_mantissa {m x : List Char} {v : ℚ} {e : ℤ} (hm : Mantissa ['.'] m v)
    (hx : Exponent x e) :
    significand 10 Char.isDigit ['e'] 10 (m ++ x.map Char.toLower) = some (v * 10 ^ e) := by
  have hhead := head_exponent hx
  have hdigit : ∀ c ∈ (x.map Char.toLower).head?, c.isDigit = false := by
    intro c hc
    rw [hhead c hc]
    rfl
  have hexp := exponent_of_exponent hx
  generalize x.map Char.toLower = cs at hhead hdigit hexp
  cases hm with
  | whole hd hne =>
    have hspan := span_digits hd hdigit
    unfold significand
    simp only [hspan]
    split
    next => exact absurd (hhead '.' rfl) (by decide)
    next => simp [hne, hexp, ofDigits_eq_value]
  | @fraction whole fraction c hc hw hf hne =>
    obtain rfl := List.mem_singleton.mp hc
    have hpoint : ∀ c ∈ ('.' :: (fraction ++ cs)).head?, c.isDigit = false := by simp
    have hspan := span_digits hw hpoint
    have hspan' := span_digits hf hdigit
    unfold significand
    simp only [List.append_assoc, List.cons_append, hspan, hspan', hexp]
    have hne' : ¬ (whole = [] ∧ fraction = []) := by simpa using hne
    simp [hne', ofDigits_eq_value]

/-- Digits and a comma are no unsigned number. -/
lemma significand_comma {whole : List Char} (hw : Digits whole) (cs : List Char) :
    significand 10 Char.isDigit ['e'] 10 (whole ++ ',' :: cs) = none := by
  have hcomma : ∀ c ∈ (',' :: cs).head?, c.isDigit = false := by simp
  have hspan := span_digits hw hcomma
  unfold significand
  simp only [hspan, exponent]
  simp

/-- The characters of an unsigned numeral in lower case. -/
lemma mem_numeral {separators m x : List Char} {v : ℚ} {e : ℤ} (hsep : separators ⊆ ['.', ','])
    (hm : Mantissa separators m v) (hx : Exponent x e) :
    ∀ c ∈ m ++ x.map Char.toLower, c.isDigit = true ∨ c ∈ ['.', ',', 'e', '+', '-'] := by
  have hmantissa : ∀ c ∈ m, c.isDigit = true ∨ c ∈ ['.', ',', 'e', '+', '-'] := by
    cases hm with
    | whole hd hne => exact fun c hc => .inl (hd c hc)
    | fraction hc hw hf hne =>
      intro d hd
      rcases List.mem_append.mp hd with hd | hd
      · exact .inl (hw d hd)
      · rcases List.mem_cons.mp hd with rfl | hd
        · exact .inr (List.mem_append_left ['e', '+', '-'] (hsep hc))
        · exact .inl (hf d hd)
  intro c hc
  rcases List.mem_append.mp hc with hc | hc
  · exact hmantissa c hc
  · cases hx with
    | none => cases hc
    | @some mark s ds σ hmark hs h hne =>
      rw [List.map_cons, List.map_append, map_toLower_of_digits h] at hc
      rcases List.mem_cons.mp hc with rfl | hc
      · exact .inr (by rcases hmark with rfl | rfl <;> decide)
      · rcases List.mem_append.mp hc with hc | hc
        · exact .inr (by cases hs <;> simp_all)
        · exact .inl (h c hc)

/-- A mantissa starts with a digit or a separator, so with no sign. -/
lemma head_mantissa {separators m x : List Char} {v : ℚ} (hsep : separators ⊆ ['.', ','])
    (hm : Mantissa separators m v) : ∀ c ∈ (m ++ x).head?, c ≠ '-' ∧ c ≠ '+' := by
  have hdigit (c : Char) (hc : c.isDigit = true) : c ≠ '-' ∧ c ≠ '+' := by
    constructor <;> rintro rfl <;> simp at hc
  have hdigits {ds cs : List Char} (h : Digits ds) (hne : ds ≠ []) :
      ∀ c ∈ (ds ++ cs).head?, c ≠ '-' ∧ c ≠ '+' := by
    obtain ⟨d, ds, rfl⟩ := List.exists_cons_of_ne_nil hne
    rintro c ⟨⟩
    exact hdigit d (h d (by simp))
  cases hm with
  | whole hd hne => exact hdigits hd hne
  | @fraction whole fraction c hc hw hf hne =>
    by_cases hwhole : whole = []
    · subst hwhole
      rintro d ⟨⟩
      have := hsep hc
      constructor <;> rintro rfl <;> simp at this
    · rw [List.append_assoc]
      exact hdigits hw hwhole

/-- The conversion of a numeral is that of its unsigned part, in lower case. -/
lemma parse_numeral {separators : List Char} (hsep : separators ⊆ ['.', ',']) {text : String}
    {s m x : List Char} {σ e : ℤ} {v : ℚ} (htext : text.toList = s ++ (m ++ x)) (hs : Sign s σ)
    (hm : Mantissa separators m v) (hx : Exponent x e) :
    parse text = (significand 10 Char.isDigit ['e'] 10 (m ++ x.map Char.toLower)).map fun q =>
      ofRat (if σ = -1 then -q else q) := by
  have hmem := mem_numeral hsep hm hx
  have hlower : (m ++ x).map Char.toLower = m ++ x.map Char.toLower := by
    rw [List.map_append]
    congr 1
    cases hm with
    | whole hd hne => exact map_toLower_of_digits hd
    | fraction hc hw hf hne =>
      rw [List.map_append, List.map_cons, map_toLower_of_digits hw, map_toLower_of_digits hf]
      have := hsep hc
      simp only [List.mem_cons, List.not_mem_nil, or_false] at this
      rcases this with rfl | rfl <;> rfl
  -- a numeral has no letter but that of its exponent
  have hletter (c : Char) (hc : c.isDigit = false) (hc' : c ∉ ['.', ',', 'e', '+', '-']) :
      c ∉ m ++ x.map Char.toLower := by
    intro h
    rcases hmem c h with h | h
    · simp [hc] at h
    · exact hc' h
  have hi := hletter 'i' (by decide) (by decide)
  have hn := hletter 'n' (by decide) (by decide)
  have hhex := hletter 'x' (by decide) (by decide)
  unfold parse
  rw [htext, sign_append hs (head_mantissa hsep hm)]
  simp only [hlower]
  generalize m ++ x.map Char.toLower = lower at hi hn hhex
  rw [if_neg, if_neg]
  · split
    next => simp at hhex
    next => simp
  · rintro rfl
    simp at hn
  · rintro (rfl | rfl) <;> simp at hi

/-- **A numeral with a point is converted to the double of its number.** -/
theorem parse_of_denotes {text : String} {q : ℚ} (h : Denotes ['.'] text q) :
    parse text = some (ofRat q) := by
  obtain ⟨s, m, x, σ, e, v, htext, hs, hm, hx, rfl⟩ := h
  rw [parse_numeral (by simp) htext hs hm hx, significand_of_mantissa hm hx]
  cases hs <;> simp

/-- **A numeral with a comma is refused.** -/
theorem denotes_point_or_parse_none {text : String} {q : ℚ} (h : Denotes ['.', ','] text q) :
    Denotes ['.'] text q ∨ parse text = none := by
  obtain ⟨s, m, x, σ, e, v, htext, hs, hm, hx, rfl⟩ := h
  have hparse := parse_numeral (List.Subset.refl _) htext hs hm hx
  cases hm with
  | whole hd hne => exact .inl ⟨s, m, x, σ, e, _, htext, hs, .whole hd hne, hx, rfl⟩
  | @fraction whole fraction c hc hw hf hne =>
    obtain rfl | rfl : c = '.' ∨ c = ',' := by simpa using hc
    · exact .inl ⟨s, _, x, σ, e, _, htext, hs, .fraction (by simp) hw hf hne, hx, rfl⟩
    · rw [List.append_assoc, List.cons_append, significand_comma hw] at hparse
      exact .inr hparse

end Double

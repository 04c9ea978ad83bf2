import Mathlib.Algebra.Order.Field.Power
import Mathlib.Data.Int.Log
import Mathlib.Data.Rat.Floor
import Mathlib.Tactic.Linarith
import Mathlib.Tactic.Ring

set_option relaxedAutoImplicit false
set_option autoImplicit false

/-!
# Rounding to a floating-point format

A binary floating-point format has the numbers `m * 2 ^ e` whose significand `m` fits its precision
and whose exponent `e` is not below a least one; how large a number may be is left to its users.
Rounding takes the unit in the last place of a rational and goes to the nearest multiple of it, to
the even one of two.

## Main definitions

* `Rounding.roundEven` — the nearest integer.
* `Rounding.Format`, `Rounding.Format.Representable` — a format and its numbers.
* `Rounding.Format.round` — rounding to a format.
* `Rounding.Format.Nearest` — a number of the format nearest to a rational.

## Main results

* `Rounding.Format.nearest_round` — rounding yields a number of the format, and none is nearer.
* `Rounding.Format.Nearest.eq_self` — a number of the format is nearest only to itself.
-/

namespace Rounding

/-- The integer nearest to a rational, the even one of two. -/
def roundEven (x : ℚ) : ℤ :=
  if x - ⌊x⌋ < 1 / 2 then ⌊x⌋
  else if 1 / 2 < x - ⌊x⌋ then ⌊x⌋ + 1
  else if ⌊x⌋ % 2 = 0 then ⌊x⌋ else ⌊x⌋ + 1

/-- It is one of the two integers around the rational, and not the farther one. -/
lemma roundEven_eq (x : ℚ) :
    (roundEven x = ⌊x⌋ ∧ x - ⌊x⌋ ≤ 1 / 2) ∨ (roundEven x = ⌊x⌋ + 1 ∧ 1 / 2 ≤ x - ⌊x⌋) := by
  unfold roundEven
  split_ifs with hlt hgt heven
  · exact .inl ⟨rfl, hlt.le⟩
  · exact .inr ⟨rfl, hgt.le⟩
  · exact .inl ⟨rfl, not_lt.mp hgt⟩
  · exact .inr ⟨rfl, not_lt.mp hlt⟩

/-- No integer is nearer. -/
theorem abs_roundEven_sub_le (x : ℚ) (n : ℤ) : |(roundEven x : ℚ) - x| ≤ |(n : ℚ) - x| := by
  have hfloor : (⌊x⌋ : ℚ) ≤ x := Int.floor_le x
  have hlt : x < ⌊x⌋ + 1 := Int.lt_floor_add_one x
  -- an integer is on one side of the rational
  have hn : x - ⌊x⌋ ≤ |(n : ℚ) - x| ∨ ⌊x⌋ + 1 - x ≤ |(n : ℚ) - x| := by
    rcases le_or_gt n ⌊x⌋ with h | h
    · have hq : (n : ℚ) ≤ ⌊x⌋ := by exact_mod_cast h
      exact .inl (le_abs.mpr (.inr (by linarith)))
    · have hq : (⌊x⌋ : ℚ) + 1 ≤ n := by exact_mod_cast h
      exact .inr (le_abs.mpr (.inl (by linarith)))
  obtain ⟨heq, hhalf⟩ | ⟨heq, hhalf⟩ := roundEven_eq x
  · have habs : |(roundEven x : ℚ) - x| = x - ⌊x⌋ := by
      rw [heq, abs_sub_comm, abs_of_nonneg (by linarith)]
    rcases hn with hn | hn <;> linarith
  · have habs : |(roundEven x : ℚ) - x| = ⌊x⌋ + 1 - x := by
      rw [heq, Int.cast_add, Int.cast_one, abs_of_nonneg (by linarith)]
    rcases hn with hn | hn <;> linarith

/-- Rounding does not pass an integer above. -/
lemma roundEven_le {x : ℚ} {n : ℤ} (h : x ≤ n) : roundEven x ≤ n := by
  by_contra hlt
  have hgt : (n : ℚ) < roundEven x := by exact_mod_cast not_le.mp hlt
  have hnear := abs_roundEven_sub_le x n
  rw [abs_of_nonneg (by linarith), abs_of_nonneg (by linarith)] at hnear
  linarith

/-- Nor an integer below. -/
lemma le_roundEven {x : ℚ} {n : ℤ} (h : (n : ℚ) ≤ x) : n ≤ roundEven x := by
  by_contra hlt
  have hgt : (roundEven x : ℚ) < n := by exact_mod_cast not_le.mp hlt
  have hnear := abs_roundEven_sub_le x n
  rw [abs_of_nonpos (by linarith), abs_of_nonpos (by linarith)] at hnear
  linarith

/-- A binary floating-point format. -/
structure Format where
  /-- The number of bits of a significand. -/
  precision : ℕ
  precision_pos : 0 < precision
  /-- The least exponent. -/
  emin : ℤ

namespace Format

variable (f : Format)

/-- A number of the format. -/
def Representable (q : ℚ) : Prop :=
  ∃ m e : ℤ, |m| < 2 ^ f.precision ∧ f.emin ≤ e ∧ q = m * 2 ^ e

/-- The exponent of the unit in the last place of a rational. -/
def exponent (q : ℚ) : ℤ := max f.emin (Int.log 2 |q| + 1 - f.precision)

/-- A rational rounded to the format. -/
def round (q : ℚ) : ℚ := roundEven (q / 2 ^ f.exponent q) * 2 ^ f.exponent q

/-- A number of the format to which no other is nearer. -/
structure Nearest (q r : ℚ) : Prop where
  representable : f.Representable r
  nearest : ∀ x, f.Representable x → |r - q| ≤ |x - q|

variable {f} {q : ℚ}

/-- A rational is less than its significand allows. -/
lemma abs_lt_zpow (f : Format) (q : ℚ) : |q| < 2 ^ (f.exponent q + f.precision) := by
  have hlog : |q| < 2 ^ (Int.log 2 |q| + 1) := by
    exact_mod_cast Int.lt_zpow_succ_log_self (b := 2) (by norm_num) |q|
  have hle : Int.log 2 |q| + 1 ≤ f.exponent q + f.precision := by
    have := le_max_right f.emin (Int.log 2 |q| + 1 - f.precision)
    unfold exponent
    omega
  exact hlog.trans_le (zpow_le_zpow_right₀ (by norm_num) hle)

/-- Rounding yields a number of the format. -/
theorem representable_round (f : Format) (q : ℚ) : f.Representable (f.round q) := by
  set e := f.exponent q with he
  set m := roundEven (q / 2 ^ e) with hm
  have hpos : (0 : ℚ) < 2 ^ e := by positivity
  have hemin : f.emin ≤ e := le_max_left _ _
  have habs : |q / 2 ^ e| < ((2 ^ f.precision : ℤ) : ℚ) := by
    rw [abs_div, abs_of_pos hpos, div_lt_iff₀ hpos]
    have hlt := abs_lt_zpow f q
    rw [← he, zpow_add₀ (by norm_num), zpow_natCast, mul_comm] at hlt
    exact_mod_cast hlt
  obtain ⟨hlow, hhigh⟩ := abs_lt.mp habs
  have hle : |m| ≤ 2 ^ f.precision := by
    refine abs_le.mpr ⟨?_, roundEven_le hhigh.le⟩
    exact le_roundEven (by push_cast at hlow ⊢; exact hlow.le)
  rcases hle.lt_or_eq with hlt | heq
  · exact ⟨m, e, hlt, hemin, rfl⟩
  · -- a significand with one bit too many is half as large in the next exponent
    obtain ⟨p, hp⟩ := Nat.exists_eq_add_one.mpr f.precision_pos
    have hsucc : (2 : ℚ) ^ (e + 1) = 2 ^ e * 2 := zpow_add_one₀ (by norm_num) e
    have hround : f.round q = m * 2 ^ e := rfl
    have hhalf : (2 : ℤ) ^ p < 2 ^ f.precision := by
      rw [hp]
      exact pow_lt_pow_right₀ (by norm_num) (Nat.lt_succ_self p)
    rw [hp, pow_succ] at heq
    rcases eq_or_eq_neg_of_abs_eq heq with h | h
    · refine ⟨2 ^ p, e + 1, by rwa [abs_of_nonneg (by positivity)], by omega, ?_⟩
      rw [hround, h, hsucc]
      push_cast
      ring
    · refine ⟨-2 ^ p, e + 1, by rwa [abs_neg, abs_of_nonneg (by positivity)], by omega, ?_⟩
      rw [hround, h, hsucc]
      push_cast
      ring

/-- No multiple of the unit in the last place is nearer. -/
lemma abs_round_sub_le_mul (f : Format) (q : ℚ) (n : ℤ) :
    |f.round q - q| ≤ |n * 2 ^ f.exponent q - q| := by
  have hpos : (0 : ℚ) < 2 ^ f.exponent q := by positivity
  have hscale : ∀ k : ℤ, |k * 2 ^ f.exponent q - q| =
      |(k : ℚ) - q / 2 ^ f.exponent q| * 2 ^ f.exponent q := by
    intro k
    rw [← abs_of_pos hpos, ← abs_mul, abs_of_pos hpos, sub_mul, div_mul_cancel₀ _ hpos.ne']
  rw [round, hscale, hscale]
  exact mul_le_mul_of_nonneg_right (abs_roundEven_sub_le _ n) hpos.le

/-- Above the least exponent the unit goes by the size of the rational. -/
lemma exponent_eq_of_emin_lt (h : f.emin < f.exponent q) :
    f.exponent q = Int.log 2 |q| + 1 - f.precision := by
  unfold exponent at h ⊢
  omega

/-- A number of the format with a smaller exponent is below the binade of the rational. -/
lemma abs_mul_zpow_le {m e : ℤ} (hm : |m| < 2 ^ f.precision) (hemin : f.emin ≤ e)
    (he : e < f.exponent q) : |(m : ℚ) * 2 ^ e| ≤ 2 ^ Int.log 2 |q| := by
  have hexp := exponent_eq_of_emin_lt (hemin.trans_lt he)
  have hmq : |(m : ℚ)| ≤ 2 ^ f.precision := by exact_mod_cast hm.le
  calc |(m : ℚ) * 2 ^ e| = |(m : ℚ)| * 2 ^ e := by
        rw [abs_mul, abs_of_pos (by positivity : (0 : ℚ) < 2 ^ e)]
    _ ≤ 2 ^ f.precision * 2 ^ e := by gcongr
    _ = 2 ^ (f.precision + e) := by rw [zpow_add₀ (by norm_num), zpow_natCast]
    _ ≤ 2 ^ Int.log 2 |q| := zpow_le_zpow_right₀ (by norm_num) (by omega)

/-- Nothing below the binade of the rational is nearer: the power of two that starts the binade,
with the sign of the rational, is as near, and a multiple of the unit in the last place. -/
lemma abs_round_sub_le_of_abs_le {x : ℚ} (hq : q ≠ 0) (h : f.emin < f.exponent q)
    (hx : |x| ≤ 2 ^ Int.log 2 |q|) : |f.round q - q| ≤ |x - q| := by
  have hexp := exponent_eq_of_emin_lt h
  obtain ⟨p, hp⟩ := Nat.exists_eq_add_one.mpr f.precision_pos
  have hstart : ((2 ^ p : ℤ) : ℚ) * 2 ^ f.exponent q = 2 ^ Int.log 2 |q| := by
    rw [show Int.log 2 |q| = p + f.exponent q by omega, zpow_add₀ (by norm_num), zpow_natCast]
    push_cast
    rfl
  have hself : (2 : ℚ) ^ Int.log 2 |q| ≤ |q| := by
    exact_mod_cast Int.zpow_log_le_self (b := 2) (by norm_num) (abs_pos.mpr hq)
  obtain ⟨hlow, hhigh⟩ := abs_le.mp hx
  set b := (2 : ℚ) ^ Int.log 2 |q|
  rcases lt_or_gt_of_ne hq with hneg | hpos
  · have habs := abs_of_neg hneg
    have hnear := abs_round_sub_le_mul f q (-2 ^ p)
    have hdist : |-b - q| = -b - q := abs_of_nonneg (by linarith)
    rw [Int.cast_neg, neg_mul, hstart, hdist] at hnear
    exact hnear.trans (le_abs.mpr (.inl (by linarith)))
  · have habs := abs_of_pos hpos
    have hnear := abs_round_sub_le_mul f q (2 ^ p)
    have hdist : |b - q| = -(b - q) := abs_of_nonpos (by linarith)
    rw [hstart, hdist] at hnear
    exact hnear.trans (le_abs.mpr (.inr (by linarith)))

/-- **Rounding is to nearest.** No number of the format is nearer to a rational than the one it is
rounded to.

**Proof sketch.** A number of the format is a multiple of the unit in the last place, or has a
smaller exponent. Then it is below the power of two that starts the binade of the rational, which
is a multiple of the unit and at least as near. -/
theorem nearest_round (f : Format) (q : ℚ) : f.Nearest q (f.round q) := by
  refine ⟨representable_round f q, ?_⟩
  rintro x ⟨m, e, hm, hemin, rfl⟩
  rcases le_or_gt (f.exponent q) e with hle | hlt
  · obtain ⟨k, hk⟩ := Int.eq_ofNat_of_zero_le (sub_nonneg.mpr hle)
    have hmul : (m : ℚ) * 2 ^ e = (m * 2 ^ k : ℤ) * 2 ^ f.exponent q := by
      rw [show e = k + f.exponent q by omega, zpow_add₀ (by norm_num), zpow_natCast]
      push_cast
      ring
    rw [hmul]
    exact abs_round_sub_le_mul f q _
  · by_cases hq : q = 0
    · have hzero := abs_round_sub_le_mul f q 0
      rw [Int.cast_zero, zero_mul, hq, sub_self, abs_zero] at hzero
      rw [hq]
      exact hzero.trans (abs_nonneg _)
    · exact abs_round_sub_le_of_abs_le hq (hemin.trans_lt hlt) (abs_mul_zpow_le hm hemin hlt)

/-- The numbers of the format are not rounded. -/
lemma Nearest.eq_self {r : ℚ} (h : f.Nearest q r) (hq : f.Representable q) : r = q := by
  have hzero : |r - q| ≤ |q - q| := h.nearest q hq
  rw [sub_self, abs_zero] at hzero
  exact sub_eq_zero.mp (abs_eq_zero.mp (hzero.antisymm (abs_nonneg _)))

end Format

end Rounding

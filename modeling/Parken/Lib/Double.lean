import Mathlib.Data.Rat.Defs
import Mathlib.Algebra.Order.Ring.Rat
import Mathlib.Tactic.Common
import Parken.Lib.Rounding

set_option relaxedAutoImplicit false
set_option autoImplicit false

/-!
# Doubles

Floating-point numbers of 64 bits with their special values: a finite number, an infinity, or not a
number. A literal and a product are rounded to the nearest double, the even one of two, and are
infinities from a magnitude on. The sign of a zero and the payload of what is not a number are not
kept.

## Main definitions

* `Double` — the values.
* `Double.binary64`, `Double.ofRat` — the format, and rounding to it.
* `Double.mul`, `Double.lt`, `Double.AtLeast` — product and comparisons.
* `Double.parse` — the conversion of a text, `none` where it is not a number.

## Main results

* `Double.nearest_mul` — a product is the double nearest to the exact one.
-/

/-- A floating-point value. -/
inductive Double where
  /-- A finite number. -/
  | finite (q : ℚ)
  /-- An infinity, negative if `negative`. -/
  | infinity (negative : Bool)
  /-- Not a number. -/
  | nan
deriving DecidableEq

namespace Double

/-- The natural number `n`. -/
def ofNat (n : ℕ) : Double := .finite n

/-- The format of the finite doubles. -/
def binary64 : Rounding.Format := ⟨53, by decide, -1074⟩

/-- The magnitude from which a number is rounded to an infinity: the middle between the largest
double and the power of two after it. -/
def limit : ℚ := 2 ^ 1024 - 2 ^ 970

/-- The double of a rational. -/
def ofRat (q : ℚ) : Double :=
  if limit ≤ q then .infinity false
  else if q ≤ -limit then .infinity true
  else .finite (binary64.round q)

lemma ofRat_eq_finite_iff {q r : ℚ} :
    ofRat q = .finite r ↔ r = binary64.round q ∧ -limit < q ∧ q < limit := by
  unfold ofRat
  split_ifs with hge hle
  · exact iff_of_false (by simp) fun h => absurd hge (not_le.mpr h.2.2)
  · exact iff_of_false (by simp) fun h => absurd hle (not_le.mpr h.2.1)
  · rw [Double.finite.injEq]
    exact ⟨fun h => ⟨h.symm, not_le.mp hle, not_le.mp hge⟩, fun h => h.1.symm⟩

/-- The product of two doubles. -/
def mul : Double → Double → Double
  | .nan, _ | _, .nan => .nan
  | .finite a, .finite b => ofRat (a * b)
  | .finite a, .infinity n | .infinity n, .finite a =>
    if a = 0 then .nan else .infinity (n != decide (a < 0))
  | .infinity m, .infinity n => .infinity (m != n)

/-- The comparison `<`. Nothing is less than, or greater than, `nan`. -/
def lt : Double → Double → Bool
  | .nan, _ | _, .nan => false
  | .finite a, .finite b => decide (a < b)
  | .finite _, .infinity n => !n
  | .infinity n, .finite _ => n
  | .infinity m, .infinity n => m && !n

/-- A finite number not below `n`. -/
def AtLeast (n : ℕ) (d : Double) : Prop := ∃ q : ℚ, d = .finite q ∧ (n : ℚ) ≤ q

lemma atLeast_ofNat {n m : ℕ} : (ofNat m).AtLeast n ↔ n ≤ m := by
  constructor
  · rintro ⟨q, hq, hle⟩
    obtain rfl := Double.finite.inj hq
    exact_mod_cast hle
  · intro h
    exact ⟨m, rfl, by exact_mod_cast h⟩

/-- A number of nothing is nothing. -/
lemma finite_mul_zero (q : ℚ) : (finite q).mul (ofNat 0) = finite 0 := by
  have hzero : ofRat 0 = finite 0 := by decide +kernel
  simp [mul, ofNat, hzero]

/-- **Products are rounded to nearest.** A product of finite numbers below the limit is the double
nearest to the exact product. -/
theorem nearest_mul {a b : ℚ} (h : |a * b| < limit) :
    ∃ r, (finite a).mul (finite b) = finite r ∧ binary64.Nearest (a * b) r :=
  ⟨binary64.round (a * b), ofRat_eq_finite_iff.mpr ⟨rfl, abs_lt.mp h⟩,
    binary64.nearest_round (a * b)⟩

-- a tenth three times, which is not the double of three tenths
example : (ofRat (1 / 10)).mul (ofNat 3) = finite (5404319552844596 / 2 ^ 54) ∧
    ofRat (3 / 10) = finite (5404319552844595 / 2 ^ 54) := by decide +kernel

/-! ## Conversion of texts -/

/-- The value of a digit in base 16, which is its value in base 10 for the decimal digits. -/
def digitValue (c : Char) : ℕ :=
  if c.isDigit then c.toNat - '0'.toNat
  else if 'a' ≤ c ∧ c ≤ 'f' then c.toNat - 'a'.toNat + 10 else c.toNat - 'A'.toNat + 10

/-- A hexadecimal digit. -/
def isHexDigit (c : Char) : Bool :=
  c.isDigit || decide ('a' ≤ c ∧ c ≤ 'f') || decide ('A' ≤ c ∧ c ≤ 'F')

/-- The natural number a list of digits denotes in a base. -/
def ofDigits (base : ℕ) (ds : List Char) : ℕ :=
  ds.foldl (fun n c => n * base + digitValue c) 0

/-- An optional sign, and whether it is a minus. -/
def sign : List Char → Bool × List Char
  | '-' :: cs => (true, cs)
  | '+' :: cs => (false, cs)
  | cs => (false, cs)

/-- The exponent after the significand: absent, or one of the `marks` and a signed decimal
number up to the end. -/
def exponent (marks : List Char) : List Char → Option ℤ
  | [] => some 0
  | c :: cs =>
    let (negative, ds) := sign cs
    if c ∈ marks ∧ ds ≠ [] ∧ ds.all Char.isDigit then
      some (if negative then -(ofDigits 10 ds : ℤ) else ofDigits 10 ds)
    else none

/-- An unsigned number: digits with at most one point among them, at least one digit, and an
exponent with base `scale`. A digit after the point counts `1 / base`. -/
def significand (base : ℕ) (isDigit : Char → Bool) (marks : List Char) (scale : ℚ)
    (cs : List Char) : Option ℚ :=
  let (whole, rest) := cs.span isDigit
  let (fraction, rest) := match rest with
    | '.' :: rest => rest.span isDigit
    | rest => ([], rest)
  if whole = [] ∧ fraction = [] then none
  else (exponent marks rest).map fun e =>
    (ofDigits base (whole ++ fraction) : ℚ) / (base : ℚ) ^ fraction.length * scale ^ e

/-- The conversion of a text to a number: an optional sign, then `inf`, `infinity` or `nan` in
any case, a hexadecimal number after `0x`, or a decimal number, and nothing else. -/
def parse (text : String) : Option Double :=
  let (negative, cs) := sign text.toList
  let lower := cs.map Char.toLower
  let signed (q : ℚ) : Double := ofRat (if negative then -q else q)
  if lower = "inf".toList ∨ lower = "infinity".toList then some (.infinity negative)
  else if lower = "nan".toList then some .nan
  else match lower with
    | '0' :: 'x' :: hex => (significand 16 isHexDigit ['p'] 2 hex).map signed
    | ds => (significand 10 Char.isDigit ['e'] 10 ds).map signed

example : parse "12.50" = some (.finite (25 / 2)) ∧ parse "12,50" = none := by decide +kernel

end Double

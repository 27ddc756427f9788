import FieldLink.Proofs.Numeric.Widening
import Mathlib.Algebra.Order.Floor.Ring
import Mathlib.Algebra.Order.Ring.Rat
import Mathlib.Data.Rat.Floor
import Mathlib.Order.WithBot
import Mathlib.Tactic.FieldSimp
import Mathlib.Tactic.Positivity

/-!
# Exact values of binary numbers

`Binary.rational` is the value that an interchange format gives to a finite pattern: sign, exponent
and fraction, with the exponent counted from the bias.  It is the count of units that the arithmetic
works with, over the units in one (`rational_eq`), so cutting off the fraction of a number is cutting
off that of its value (`truncate_eq`).  `Binary.exact` adds the infinities and sets the patterns apart
that are not numbers; a conversion to a finer format keeps it (`exact_convert`).
-/

namespace FieldLink

/-- The rationals and the two infinities. -/
abbrev Extended := WithBot (WithTop ℚ)

/-- A rational without its fraction. -/
def towardZero (q : ℚ) : Int := if 0 ≤ q then ⌊q⌋ else ⌈q⌉

namespace BinaryFormat

variable {f : BinaryFormat}

/-- The exponent bits of one. -/
def bias (f : BinaryFormat) : Nat := f.exponents / 2 - 1

/-- The value that exponent and fraction bits stand for in a finite number. -/
def rational (f : BinaryFormat) (exponent fraction : Nat) : ℚ :=
  if exponent = 0 then (fraction / f.fractions : ℚ) * 2 ^ (1 - f.bias : ℤ)
  else (1 + fraction / f.fractions : ℚ) * 2 ^ (exponent - f.bias : ℤ)

/-- The least exponent scales as the units in one do. -/
theorem unitsPerOne_eq (wide : 4 ≤ f.exponents) :
    (2 : ℚ) ^ (1 - f.bias : ℤ) = f.fractions / f.unitsPerOne := by
  have fractions : (f.fractions : ℚ) ≠ 0 := Nat.cast_ne_zero.2 f.fractions_pos.ne'
  have exponent : (1 - f.bias : ℤ) = -((f.exponents / 2 - 2 : ℕ) : ℤ) := by
    unfold bias
    omega
  rw [exponent, zpow_neg, zpow_natCast, unitsPerOne, Nat.shiftLeft_eq]
  push_cast
  field_simp

theorem rational_eq (wide : 4 ≤ f.exponents) (m : Nat) :
    f.rational (m / f.fractions) (m % f.fractions) = f.units m / f.unitsPerOne := by
  have fractions : (f.fractions : ℚ) ≠ 0 := Nat.cast_ne_zero.2 f.fractions_pos.ne'
  have pos := f.fractions_pos
  rcases f.magnitude_cases m with small | ⟨exponent, fraction, small, rfl⟩
  · rw [Nat.div_eq_of_lt small, Nat.mod_eq_of_lt small, units_of_lt small, rational, if_pos rfl,
      unitsPerOne_eq wide]
    field_simp
  · have scale : (2 : ℚ) ^ ((exponent + 1 : ℕ) - f.bias : ℤ) =
        2 ^ exponent * 2 ^ (1 - f.bias : ℤ) := by
      rw [← zpow_natCast, ← zpow_add₀ two_ne_zero]
      congr 1
      push_cast
      ring
    rw [exponent_normal small, fraction_normal small, units_normal small, rational,
      if_neg (Nat.succ_ne_zero _), scale, unitsPerOne_eq wide]
    push_cast
    field_simp

end BinaryFormat

namespace Binary

open BinaryFormat

variable {f g : BinaryFormat} {k : Nat} {x : Binary f}

/-! ## Finite numbers -/

/-- The value of a finite number. -/
def rational (x : Binary f) : ℚ :=
  (if x.negative then -1 else 1) *
    f.rational (x.magnitude / f.fractions) (x.magnitude % f.fractions)

theorem rational_eq (wide : 4 ≤ f.exponents) (x : Binary f) :
    x.rational = (if x.negative then -1 else 1) * (f.units x.magnitude / f.unitsPerOne : ℚ) := by
  rw [rational, BinaryFormat.rational_eq wide]

theorem rational_of_isZero (wide : 4 ≤ f.exponents) (zero : x.isZero) : x.rational = 0 := by
  have magnitude : x.magnitude = 0 := of_decide_eq_true zero
  rw [rational_eq wide, magnitude, units_of_lt f.fractions_pos, Nat.cast_zero, zero_div, mul_zero]

/-- The fraction of a number is cut off with that of its value. -/
theorem truncate_eq (wide : 4 ≤ f.exponents) (x : Binary f) :
    x.truncate = towardZero x.rational := by
  have whole : (f.units x.magnitude : ℤ) / f.unitsPerOne =
      ⌊(f.units x.magnitude / f.unitsPerOne : ℚ)⌋ := (Rat.floor_natCast_div_natCast _ _).symm
  have nonneg : (0 : ℚ) ≤ f.units x.magnitude / f.unitsPerOne := by positivity
  rw [rational_eq wide, truncate, whole, towardZero]
  generalize (f.units x.magnitude / f.unitsPerOne : ℚ) = q at nonneg
  cases x.negative with
  | false => simp [nonneg]
  | true =>
    rcases nonneg.eq_or_lt with rfl | pos
    · simp
    · have below : ¬(0 : ℚ) ≤ -q := by
        rw [not_le]
        exact neg_lt_zero.2 pos
      simp [below, Int.ceil_neg]

/-! ## All numbers -/

/-- The exact value of a number; a pattern that is not a number has none. -/
def exact (x : Binary f) : Option Extended :=
  if x.isNaN then none
  else if x.isInfinite then some (if x.negative then ⊥ else ⊤)
  else some ((x.rational : WithTop ℚ) : Extended)

theorem exact_of_finite (finite : x.magnitude < f.infinity) :
    x.exact = some ((x.rational : WithTop ℚ) : Extended) := by
  have number : x.isNaN = false := decide_eq_false (by omega)
  have not_infinite : x.isInfinite = false := decide_eq_false (by omega)
  simp [exact, number, not_infinite]

theorem isNaN_infinite (negative : Bool) : (infinite negative : Binary f).isNaN = false := by
  simp [infinite, isNaN]

theorem isInfinite_infinite (negative : Bool) : (infinite negative : Binary f).isInfinite := by
  simp [infinite, isInfinite]

theorem exact_infinite (negative : Bool) :
    (infinite negative : Binary f).exact = some (if negative then ⊥ else ⊤) := by
  rw [exact, isNaN_infinite, isInfinite_infinite]
  rfl

/-- The quiet bit keeps a pattern that is not a number apart from infinity, whatever its payload. -/
theorem isNaN_nan (fractional : 0 < f.fractionBits) (negative : Bool) (payload : Nat) :
    (nan negative payload : Binary f).isNaN := by
  obtain ⟨bits, bits_eq⟩ := Nat.exists_eq_succ_of_ne_zero fractional.ne'
  have half : f.fractions / 2 = 2 ^ bits := by
    rw [fractions_eq_two_pow, bits_eq, Nat.pow_succ, Nat.mul_div_cancel _ (by decide)]
  have quiet : ((payload ||| f.fractions / 2) % f.fractions).testBit bits := by
    rw [half, fractions_eq_two_pow, bits_eq, Nat.testBit_mod_two_pow, Nat.testBit_or,
      Nat.testBit_two_pow_self]
    simp
  have pos : 0 < (payload ||| f.fractions / 2) % f.fractions := by
    rw [Nat.pos_iff_ne_zero]
    intro zero
    simp [zero] at quiet
  exact decide_eq_true (Nat.lt_add_of_pos_right pos)

theorem exact_nan (fractional : 0 < f.fractionBits) (negative : Bool) (payload : Nat) :
    (nan negative payload : Binary f).exact = none := by
  simp [exact, isNaN_nan fractional]

theorem rational_convert (refines : Refines f g k) (wide : 4 ≤ f.exponents)
    (wide' : 4 ≤ g.exponents) (finite : x.magnitude < f.infinity) :
    (x.convert : Binary g).magnitude < g.infinity ∧ (x.convert : Binary g).rational = x.rational := by
  obtain ⟨m, finite', value⟩ := refines.exists_units_eq finite
  have widened : f.units x.magnitude * g.unitsPerOne = g.units m * f.unitsPerOne := by
    rw [value, refines.unitsPerOne]
    ring
  have ones : (f.unitsPerOne : ℚ) ≠ 0 := Nat.cast_ne_zero.2 f.unitsPerOne_pos.ne'
  have ones' : (g.unitsPerOne : ℚ) ≠ 0 := Nat.cast_ne_zero.2 g.unitsPerOne_pos.ne'
  have quotients : (g.units m / g.unitsPerOne : ℚ) = f.units x.magnitude / f.unitsPerOne := by
    rw [div_eq_div_iff ones' ones]
    exact_mod_cast widened.symm
  rw [convert_of_finite finite, ofRatio_of_eq_units x.negative f.unitsPerOne_pos finite' widened]
  refine ⟨finite', ?_⟩
  rw [rational_eq wide', rational_eq wide, quotients]

/-- A conversion to a finer format keeps the exact value. -/
theorem exact_convert (refines : Refines f g k) (wide : 4 ≤ f.exponents) (wide' : 4 ≤ g.exponents)
    (fractional : 0 < g.fractionBits) (x : Binary f) : (x.convert : Binary g).exact = x.exact := by
  cases number : x.isNaN with
  | true =>
    have converted : (x.convert : Binary g).exact = none := by
      simp only [convert, number, if_true, exact_nan fractional]
    rw [converted, exact, number]
    rfl
  | false =>
    cases infinite : x.isInfinite with
    | true =>
      rw [convert_of_isInfinite infinite, exact_infinite]
      simp [exact, number, infinite]
    | false =>
      have finite := magnitude_lt_infinity number infinite
      obtain ⟨finite', value⟩ := rational_convert refines wide wide' finite
      rw [exact_of_finite finite, exact_of_finite finite', value]

end Binary

end FieldLink

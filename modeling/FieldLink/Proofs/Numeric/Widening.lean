import FieldLink.Numeric.Binary
import Mathlib.Tactic.Ring

/-!
# Widening

Rounding gives a magnitude back whose value it is asked for (`nearest_of_eq_units`).  When each value
of a format is one of a wider format as well (`Refines`), a number that is converted to the wider
format and back is therefore what it was (`convert_convert`).
-/

namespace FieldLink

namespace BinaryFormat

variable {f g : BinaryFormat} {k m u : Nat}

/-! ## Values of magnitudes -/

theorem fractions_eq_two_pow (f : BinaryFormat) : f.fractions = 2 ^ f.fractionBits :=
  Nat.one_shiftLeft _

theorem units_of_lt (small : m < f.fractions) : f.units m = m := if_pos small

theorem exponent_normal {exponent fraction : Nat} (small : fraction < f.fractions) :
    (exponent * f.fractions + fraction) / f.fractions = exponent := by
  rw [Nat.mul_comm, Nat.mul_add_div f.fractions_pos, Nat.div_eq_of_lt small, Nat.add_zero]

theorem fraction_normal {exponent fraction : Nat} (small : fraction < f.fractions) :
    (exponent * f.fractions + fraction) % f.fractions = fraction := by
  rw [Nat.mul_comm, Nat.mul_add_mod, Nat.mod_eq_of_lt small]

/-- The value of a magnitude with the given exponent and fraction. -/
theorem units_normal {exponent fraction : Nat} (small : fraction < f.fractions) :
    f.units ((exponent + 1) * f.fractions + fraction) = (f.fractions + fraction) * 2 ^ exponent := by
  have large : ¬(exponent + 1) * f.fractions + fraction < f.fractions := by
    rw [Nat.succ_mul]
    omega
  rw [units, if_neg large, exponent_normal small, fraction_normal small, Nat.shiftLeft_eq,
    Nat.add_sub_cancel]

/-- A magnitude is subnormal, or has an exponent and a fraction. -/
theorem magnitude_cases (f : BinaryFormat) (m : Nat) :
    m < f.fractions ∨ ∃ exponent fraction, fraction < f.fractions ∧
      m = (exponent + 1) * f.fractions + fraction := by
  rcases Nat.lt_or_ge m f.fractions with small | large
  · exact .inl small
  · have pos := f.fractions_pos
    have quotient : 0 < m / f.fractions := Nat.div_pos large pos
    refine .inr ⟨m / f.fractions - 1, m % f.fractions, Nat.mod_lt _ pos, ?_⟩
    rw [Nat.sub_add_cancel quotient, Nat.div_add_mod']

/-- The value of the next magnitude; where the fraction runs over, the exponent grows by one. -/
theorem units_normal_succ {exponent fraction : Nat} (small : fraction < f.fractions) :
    f.units ((exponent + 1) * f.fractions + fraction + 1) =
      (f.fractions + fraction + 1) * 2 ^ exponent := by
  rcases Nat.lt_or_ge (fraction + 1) f.fractions with small' | large
  · rw [Nat.add_assoc, units_normal small', Nat.add_assoc]
  · have border : (exponent + 1) * f.fractions + fraction + 1 =
        (exponent + 1 + 1) * f.fractions + 0 := by
      rw [Nat.succ_mul (exponent + 1)]
      omega
    have double : f.fractions + fraction + 1 = f.fractions * 2 := by omega
    rw [border, units_normal f.fractions_pos, double, Nat.pow_succ, Nat.add_zero, Nat.mul_assoc,
      Nat.mul_comm 2]

theorem units_lt_units_succ (f : BinaryFormat) (m : Nat) : f.units m < f.units (m + 1) := by
  have pos := f.fractions_pos
  rcases f.magnitude_cases m with small | ⟨exponent, fraction, small, rfl⟩
  · rw [units_of_lt small]
    rcases Nat.lt_or_ge (m + 1) f.fractions with small' | large
    · rw [units_of_lt small']
      omega
    · have border : m + 1 = (0 + 1) * f.fractions + 0 := by omega
      rw [border, units_normal pos]
      omega
  · rw [units_normal small, units_normal_succ small]
    exact Nat.mul_lt_mul_of_pos_right (by omega) (Nat.two_pow_pos _)

theorem units_lt_two_pow (f : BinaryFormat) (m : Nat) :
    f.units m < 2 ^ (f.fractionBits + m / f.fractions) := by
  rcases f.magnitude_cases m with small | ⟨exponent, fraction, small, rfl⟩
  · rw [units_of_lt small, Nat.div_eq_of_lt small, Nat.add_zero, ← fractions_eq_two_pow]
    exact small
  · rw [units_normal small, exponent_normal small, Nat.pow_add, ← fractions_eq_two_pow, Nat.pow_succ,
      Nat.mul_comm (2 ^ exponent), ← Nat.mul_assoc]
    exact Nat.mul_lt_mul_of_pos_right (by omega) (Nat.two_pow_pos _)

/-! ## Magnitudes of values -/

theorem floor_of_lt (small : u < f.fractions) : f.floor u = u := if_pos small

/-- The magnitude of a value whose leading bits are given. -/
theorem floor_normal {exponent leading : Nat} (least : f.fractions ≤ leading)
    (greatest : leading < 2 * f.fractions) (cut : u / 2 ^ exponent = leading) :
    f.floor u = exponent * f.fractions + leading := by
  have scale : 0 < 2 ^ exponent := Nat.two_pow_pos _
  have pos := f.fractions_pos
  have lower : f.fractions * 2 ^ exponent ≤ u := by
    rw [← Nat.le_div_iff_mul_le scale, cut]
    exact least
  have upper : u < 2 * f.fractions * 2 ^ exponent := by
    rw [← Nat.div_lt_iff_lt_mul scale, cut]
    exact greatest
  have large : ¬u < f.fractions :=
    Nat.not_lt.2 (le_trans (Nat.le_mul_of_pos_right _ scale) lower)
  have log : u.log2 = f.fractionBits + exponent := by
    rw [Nat.log2_eq_iff (by omega)]
    refine ⟨?_, ?_⟩
    · rw [Nat.pow_add, ← fractions_eq_two_pow]
      exact lower
    · rw [Nat.pow_succ, Nat.pow_add, ← fractions_eq_two_pow, Nat.mul_comm, ← Nat.mul_assoc]
      exact upper
  simp only [floor, if_neg large, log, Nat.add_sub_cancel_left, Nat.shiftRight_eq_div_pow, cut]

theorem floor_units (f : BinaryFormat) (m : Nat) : f.floor (f.units m) = m := by
  rcases f.magnitude_cases m with small | ⟨exponent, fraction, small, rfl⟩
  · rw [units_of_lt small, floor_of_lt small]
  · have cut : (f.fractions + fraction) * 2 ^ exponent / 2 ^ exponent = f.fractions + fraction :=
      Nat.mul_div_cancel _ (Nat.two_pow_pos _)
    rw [units_normal small, floor_normal (by omega) (by omega) cut, Nat.succ_mul]
    omega

theorem units_floor_normal {exponent leading : Nat} (least : f.fractions ≤ leading)
    (greatest : leading < 2 * f.fractions) :
    f.units (f.floor (leading * 2 ^ exponent)) = leading * 2 ^ exponent := by
  have magnitude : exponent * f.fractions + leading =
      (exponent + 1) * f.fractions + (leading - f.fractions) := by
    rw [Nat.succ_mul]
    omega
  have cut : leading * 2 ^ exponent / 2 ^ exponent = leading :=
    Nat.mul_div_cancel _ (Nat.two_pow_pos _)
  rw [floor_normal least greatest cut, magnitude, units_normal (by omega),
    Nat.add_sub_cancel' least]

/-- What the leading bits alone make up is the value of a magnitude. -/
theorem units_floor {exponent leading : Nat} (greatest : leading < 2 * f.fractions) :
    f.units (f.floor (leading * 2 ^ exponent)) = leading * 2 ^ exponent := by
  induction exponent generalizing leading with
  | zero =>
    rcases Nat.lt_or_ge leading f.fractions with small | large
    · rw [Nat.pow_zero, Nat.mul_one, floor_of_lt small, units_of_lt small]
    · exact units_floor_normal large greatest
  | succ exponent ih =>
    rcases Nat.lt_or_ge leading f.fractions with small | large
    · have shifted : leading * 2 ^ (exponent + 1) = 2 * leading * 2 ^ exponent := by ring
      rw [shifted]
      exact ih (by omega)
    · exact units_floor_normal large greatest

/-- The leading bits of a count of units, and the count of bits behind them. -/
theorem exists_leading (large : f.fractions ≤ u) :
    ∃ shift, f.fractions ≤ u / 2 ^ shift ∧ u / 2 ^ shift < 2 * f.fractions := by
  have pos := f.fractions_pos
  have log : f.fractionBits ≤ u.log2 := by
    rw [Nat.le_log2 (by omega), ← fractions_eq_two_pow]
    exact large
  obtain ⟨shift, log_eq⟩ := Nat.exists_eq_add_of_le log
  refine ⟨shift, ?_, ?_⟩
  · rw [Nat.le_div_iff_mul_le (Nat.two_pow_pos _), fractions_eq_two_pow, ← Nat.pow_add, ← log_eq]
    exact Nat.log2_self_le (by omega)
  · rw [Nat.div_lt_iff_lt_mul (Nat.two_pow_pos _), fractions_eq_two_pow]
    calc u < 2 ^ (u.log2 + 1) := Nat.lt_log2_self
      _ = 2 * 2 ^ f.fractionBits * 2 ^ shift := by
        rw [log_eq]
        ring

theorem floor_lt_infinity (finite : 2 ≤ f.exponents)
    (room : u < 2 ^ (f.fractionBits + f.exponents - 2)) : f.floor u < f.infinity := by
  rcases Nat.lt_or_ge u f.fractions with small | large
  · have one : 1 * f.fractions ≤ f.infinity := Nat.mul_le_mul_right _ (by omega)
    rw [floor_of_lt small]
    omega
  · obtain ⟨shift, least, greatest⟩ := exists_leading large
    have lower : 2 ^ (f.fractionBits + shift) ≤ u := by
      rw [Nat.pow_add, ← fractions_eq_two_pow, ← Nat.le_div_iff_mul_le (Nat.two_pow_pos _)]
      exact least
    have exponent := (Nat.pow_lt_pow_iff_right (by decide : 1 < 2)).1 (lower.trans_lt room)
    have exponents : (shift + 2) * f.fractions ≤ f.infinity :=
      Nat.mul_le_mul_right _ (by omega)
    rw [floor_normal least greatest rfl]
    rw [Nat.add_mul] at exponents
    omega

/-! ## Rounding -/

/-- The value of a finite magnitude rounds to that magnitude. -/
theorem nearest_of_eq_units {num den : Nat} (pos : 0 < den) (finite : m < f.infinity)
    (value : num * f.unitsPerOne = f.units m * den) : f.nearest num den = m := by
  have below : f.floor (num * f.unitsPerOne / den) = m := by
    rw [value, Nat.mul_div_cancel _ pos, floor_units]
  have lower : 2 * (num * f.unitsPerOne) < (f.units m + f.units (m + 1)) * den := by
    rw [value, ← Nat.mul_assoc]
    have next := f.units_lt_units_succ m
    exact Nat.mul_lt_mul_of_pos_right (by omega) pos
  simp only [nearest, below, if_neg (Nat.not_le.2 finite), if_pos lower]

/-! ## Finer formats -/

/-- Each finite value of the format `f` is one of the format `g`, whose units are finer by the factor
`2 ^ k`. -/
structure Refines (f g : BinaryFormat) (k : Nat) : Prop where
  unitsPerOne : g.unitsPerOne = f.unitsPerOne * 2 ^ k
  fractionBits : f.fractionBits ≤ g.fractionBits
  exponents : 2 ≤ g.exponents
  room : f.fractionBits + f.exponents + k ≤ g.fractionBits + g.exponents

theorem single_refines_double : Refines single double 925 := by
  refine ⟨?_, by decide, by decide, by decide⟩
  have narrow : single.exponents / 2 - 2 = 126 := by decide
  have wide : double.exponents / 2 - 2 = 1022 := by decide
  simp only [unitsPerOne, narrow, wide, fractions_eq_two_pow, Nat.shiftLeft_eq, ← Nat.pow_add]
  exact congrArg (2 ^ ·) (by decide)

theorem unitsPerOne_pos (f : BinaryFormat) : 0 < f.unitsPerOne := by
  rw [unitsPerOne, Nat.shiftLeft_eq]
  exact Nat.mul_pos f.fractions_pos (Nat.two_pow_pos _)

theorem Refines.fractions_le (refines : Refines f g k) : f.fractions ≤ g.fractions := by
  rw [fractions_eq_two_pow, fractions_eq_two_pow]
  exact Nat.pow_le_pow_right (by decide) refines.fractionBits

/-- A finite value of the coarser format is that of a finite magnitude of the finer one. -/
theorem Refines.exists_units_eq (refines : Refines f g k) (finite : m < f.infinity) :
    ∃ m', m' < g.infinity ∧ g.units m' = f.units m * 2 ^ k := by
  refine ⟨g.floor (f.units m * 2 ^ k), floor_lt_infinity refines.exponents ?_, ?_⟩
  · have exponent : m / f.fractions < f.exponents - 1 :=
      Nat.div_lt_of_lt_mul (by rw [Nat.mul_comm]; exact finite)
    have room := refines.room
    have bound := f.units_lt_two_pow m
    generalize m / f.fractions = e at exponent bound
    calc f.units m * 2 ^ k < 2 ^ (f.fractionBits + e) * 2 ^ k :=
        Nat.mul_lt_mul_of_pos_right bound (Nat.two_pow_pos _)
      _ = 2 ^ (f.fractionBits + e + k) := (Nat.pow_add ..).symm
      _ ≤ 2 ^ (g.fractionBits + g.exponents - 2) := Nat.pow_le_pow_right (by decide) (by omega)
  · have le := refines.fractions_le
    rcases f.magnitude_cases m with small | ⟨exponent, fraction, small, rfl⟩
    · rw [units_of_lt small]
      exact units_floor (by omega)
    · rw [units_normal small, Nat.mul_assoc, ← Nat.pow_add]
      exact units_floor (by omega)

end BinaryFormat

/-! ## Conversions -/

namespace Binary

open BinaryFormat

variable {f g : BinaryFormat} {k : Nat}

theorem magnitude_lt_infinity {x : Binary f} (number : x.isNaN = false)
    (finite : x.isInfinite = false) : x.magnitude < f.infinity := by
  simp only [isNaN, decide_eq_false_iff_not] at number
  simp only [isInfinite, decide_eq_false_iff_not] at finite
  omega

theorem convert_of_isInfinite {x : Binary f} (isInfinite : x.isInfinite) :
    (x.convert : Binary g) = infinite x.negative := by
  have number : x.isNaN = false := by
    simp only [Binary.isInfinite, decide_eq_true_eq] at isInfinite
    simp [isNaN, isInfinite]
  simp [convert, number, isInfinite]

theorem convert_of_finite {x : Binary f} (finite : x.magnitude < f.infinity) :
    (x.convert : Binary g) = ofRatio x.negative (f.units x.magnitude) f.unitsPerOne := by
  have number : x.isNaN = false := decide_eq_false (by omega)
  have not_infinite : x.isInfinite = false := decide_eq_false (by omega)
  simp [convert, number, not_infinite]

theorem ofRatio_of_eq_units {num den m : Nat} (negative : Bool) (pos : 0 < den)
    (finite : m < f.infinity) (value : num * f.unitsPerOne = f.units m * den) :
    (ofRatio negative num den : Binary f) = ⟨negative, m, finite.trans f.infinity_lt⟩ := by
  simp only [ofRatio, nearest_of_eq_units pos finite value]

/-- A number that is converted to a finer format and back is what it was. -/
theorem convert_convert (refines : Refines f g k) {x : Binary f} (number : x.isNaN = false) :
    (x.convert : Binary g).convert = x := by
  obtain ⟨negative, m, bound⟩ := x
  by_cases infinite : m = f.infinity
  · subst infinite
    rw [convert_of_isInfinite (g := g) (decide_eq_true rfl),
      convert_of_isInfinite (decide_eq_true rfl)]
    rfl
  · have finite : m < f.infinity := magnitude_lt_infinity number (decide_eq_false infinite)
    obtain ⟨m', finite', value⟩ := refines.exists_units_eq finite
    have widened : f.units m * g.unitsPerOne = g.units m' * f.unitsPerOne := by
      rw [value, refines.unitsPerOne]
      ring
    have narrowed : g.units m' * f.unitsPerOne = f.units m * g.unitsPerOne := widened.symm
    rw [convert_of_finite (g := g) finite,
      ofRatio_of_eq_units negative f.unitsPerOne_pos finite' widened, convert_of_finite finite',
      ofRatio_of_eq_units negative g.unitsPerOne_pos finite narrowed]

end Binary

end FieldLink

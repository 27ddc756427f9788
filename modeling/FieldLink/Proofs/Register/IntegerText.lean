import FieldLink.Proofs.Numeric.Literal
import FieldLink.Proofs.Register.Monotone

/-!
# Integers that are written as text

Text that denotes an integer is taken for that integer, or for the double nearest to it where it has
too many digits (`ofText_integerText`).  The two come to the same thing for each type (`toValue?_wide`): a
double that far out lies beyond all integer types and is not zero.  So a text is written as its
integer is, however long it is (`encode_integerText`).
-/

namespace FieldLink

/-! ## Far out -/

namespace Binary

/-- The power of two that ends the integers that text is taken for. -/
def wideEnd : Double := ofBits .double 0x47E0000000000000

theorem rational_wideEnd : wideEnd.rational = ((2 ^ 127 : Int) : ℚ) := by
  have positive : wideEnd.negative = false := by decide +kernel
  have units : (BinaryFormat.double.units wideEnd.magnitude : Int) =
      2 ^ 127 * BinaryFormat.double.unitsPerOne := by decide +kernel
  have ones : (BinaryFormat.double.unitsPerOne : ℚ) ≠ 0 :=
    Nat.cast_ne_zero.2 BinaryFormat.double.unitsPerOne_pos.ne'
  rw [rational_eq (by decide), positive, if_neg Bool.false_ne_true, one_mul, div_eq_iff ones]
  exact_mod_cast units

theorem isNearest_wideEnd : wideEnd.IsNearest ((2 ^ 127 : Int) : ℚ) := by
  rw [← rational_wideEnd]
  exact isNearest_rational (by decide +kernel)

variable {i : Int}

theorem rational_wideEnd_le (beyond : 2 ^ 127 ≤ i) : wideEnd.rational ≤ (ofInt i : Double).rational :=
  isNearest_wideEnd.mono (by decide) (isNearest_ofInt (by decide) i) (Int.cast_le.2 beyond)

theorem rational_le_opposite_wideEnd (beyond : i ≤ -2 ^ 127) :
    (ofInt i : Double).rational ≤ wideEnd.opposite.rational := by
  have border : (i : ℚ) ≤ -((2 ^ 127 : Int) : ℚ) := by
    rw [← Int.cast_neg]
    exact Int.cast_le.2 beyond
  exact (isNearest_ofInt (by decide) i).mono (by decide) isNearest_wideEnd.opposite border

end Binary

theorem IntegerType.fit_wideEnd (t : IntegerType) :
    t.fit Binary.wideEnd.exact = t.maximum ∧ t.fit Binary.wideEnd.opposite.exact = t.minimum := by
  rw [fit_double, fit_double]
  cases t <;> decide +kernel

/-! ## Numbers in text -/

namespace Number

variable {i : Int}

theorem beyond_of_inWideRange (out : inWideRange i = false) : 2 ^ 127 ≤ i ∨ i ≤ -2 ^ 127 := by
  have bound : (wideBound : Int) = 2 ^ 127 := by decide
  rw [inWideRange, bound, Bool.and_eq_false_iff, decide_eq_false_iff_not, decide_eq_false_iff_not]
    at out
  omega

/-- An integer that is too long for an integer type lies as far out when it is rounded. -/
theorem toBounded_far (out : inWideRange i = false) (t : IntegerType) :
    (real (.ofInt i)).toBounded t = (integer i).toBounded t := by
  have number := (Binary.isNearest_ofInt (f := .double) (by decide) i).isNaN
  have few : -2 ^ 127 ≤ t.minimum ∧ t.maximum ≤ 2 ^ 127 := by cases t <;> decide
  have within := t.fit_within (Binary.ofInt i : Double).exact
  simp only [toBounded, IntegerType.clamp, ← t.fit_double, Bounded.mk.injEq]
  rcases beyond_of_inWideRange out with beyond | beyond
  · obtain ⟨a, b, exact, exact', le⟩ := Binary.exact_mono (by decide) Binary.isNearest_wideEnd.isNaN
      number (Binary.rational_wideEnd_le beyond)
    have fits := t.fit_mono le
    rw [← exact, ← exact', t.fit_wideEnd.1] at fits
    omega
  · obtain ⟨a, b, exact, exact', le⟩ := Binary.exact_mono (by decide) number
      Binary.isNearest_wideEnd.opposite.isNaN (Binary.rational_le_opposite_wideEnd beyond)
    have fits := t.fit_mono le
    rw [← exact, ← exact', t.fit_wideEnd.2] at fits
    omega

theorem toBool_far (out : inWideRange i = false) :
    (real (.ofInt i)).toBool = (integer i).toBool := by
  have positive : 0 < Binary.wideEnd.rational := by
    rw [Binary.rational_wideEnd]
    norm_num
  have nonzero : (Binary.ofInt i : Double).isZero = false := by
    rw [Bool.eq_false_iff]
    intro zero
    have value := Binary.rational_of_isZero (by decide) zero
    rcases beyond_of_inWideRange out with beyond | beyond
    · have le := Binary.rational_wideEnd_le beyond
      linarith
    · have le := Binary.rational_le_opposite_wideEnd beyond
      rw [Binary.rational_opposite] at le
      linarith
  have some_value : i ≠ 0 := by
    rcases beyond_of_inWideRange out with beyond | beyond <;> omega
  simp [toBool, nonzero, some_value]

/-- Which of the two ways a text was taken does not show in a value of any type. -/
theorem toValue?_wide (i : Int) (t : ValueType) :
    (if inWideRange i then integer i else real (.ofInt i)).toValue? t = (integer i).toValue? t := by
  cases within : inWideRange i with
  | true => rfl
  | false =>
    cases t with
    | bool => exact congrArg (some ∘ Value.bool) (toBool_far within)
    | integer t => exact congrArg (some ∘ Value.integer t) (toBounded_far within t)
    | float32 | float64 | string => rfl

theorem ofText_integerText (s : IntegerText) : ofText s.text =
    .ok (if inWideRange s.value then integer s.value else real (.ofInt s.value)) := by
  cases within : inWideRange s.value with
  | true => simp [ofText, s.trim_toList_text, s.readInteger?_chars, within, Option.filter]
  | false =>
    have nonzero : s.value ≠ 0 := by
      rcases beyond_of_inWideRange within with beyond | beyond <;> omega
    simp [ofText, s.trim_toList_text, s.readInteger?_chars, within, s.read?_chars,
      s.toDouble_scaled nonzero, Option.filter]

end Number

/-! ## Registers -/

/-- A text that is a decimal integer, however long and with any blanks around it, is written as that
integer: clamped into an integer type; as a truth value, by whether it is zero; in double precision, as
the number nearest to it, where infinities are taken from half a step behind the greatest finite number
on and zero is positive; in single precision, as what that double rounds to.  So it takes the same
registers as an integer value that it is equal to. -/
theorem encode_integerText (s : IntegerText) :
    (∀ t : IntegerType, ∃ i : Bounded t, i.val = max t.minimum (min t.maximum s.value) ∧
      encode (.text s.text) (.integer t) = .ok (Value.integer t i).toRegisters) ∧
    encode (.text s.text) .bool = .ok (Value.bool (s.value ≠ 0)).toRegisters ∧
    (∃ (d : Double) (r : Single) (e : Extended),
      encode (.text s.text) .float64 = .ok (Value.float64 d).toRegisters ∧
      encode (.text s.text) .float32 = .ok (Value.float32 r).toRegisters ∧
      d.IsNearest s.value ∧ (d.isInfinite ↔ 2 ^ 1024 - 2 ^ 970 ≤ s.value.natAbs) ∧
      d.negative = decide (s.value < 0) ∧
      d.exact = some e ∧ r.Rounds e ∧ r.negative = d.negative) ∧
    ∀ (t : IntegerType) (i : Bounded t), i.val = s.value →
      ∀ t', encode (.text s.text) t' = encode (.integer t i) t' := by
  have number : Number.ofValue (.text s.text) = .ok _ := Number.ofText_integerText s
  have nearest := Binary.isNearest_ofInt (f := .double) (by decide) s.value
  obtain ⟨e, exact⟩ := Binary.exists_exact nearest.isNaN
  have written : ∀ {t : ValueType} {v : Value}, (Number.integer s.value).toValue? t = some v →
      encode (.text s.text) t = .ok v.toRegisters := fun taken =>
    (encode_of_toValue? number ((Number.toValue?_wide _ _).trans taken)).1
  refine ⟨fun t => ⟨t.clamp s.value, rfl, written rfl⟩, written rfl, ?_, fun t i same t' => ?_⟩
  · exact ⟨Binary.ofInt s.value, (Binary.ofInt s.value : Double).convert, e, written rfl, written rfl,
      nearest, Binary.isInfinite_ofInt_iff _, rfl, exact,
      Binary.rounds_convert (by decide) (by decide) exact, Binary.negative_convert _⟩
  · refine encode_congr number rfl ?_
    rw [same]
    exact Number.toValue?_wide _ _

/-- The least integer of 64 bits with leading zeros and blanks. -/
def leastText : IntegerText where
  before := [' ', '\u00A0']
  sign := .minus
  digits := "0009223372036854775808".toList
  after := ['\n']
  isBlank_before := List.all_eq_true.1 rfl
  isDigit := List.all_eq_true.1 (by decide +kernel)
  digits_ne_nil := by decide +kernel
  isBlank_after := List.all_eq_true.1 rfl

/-- The text of the least integer of 64 bits is written in single precision as the integer is. -/
theorem encode_integerText_least :
    leastText.text = " \u00A0-0009223372036854775808\n" ∧ leastText.value = -2 ^ 63 ∧
      encode (.text leastText.text) .float32 =
        encode (.integer .int64 (IntegerType.clamp .int64 (-2 ^ 63))) .float32 := by
  have value : leastText.value = -2 ^ 63 := by decide +kernel
  refine ⟨by decide +kernel, value, ?_⟩
  exact (encode_integerText leastText).2.2.2 .int64 _ (by rw [value]; decide +kernel) .float32

end FieldLink

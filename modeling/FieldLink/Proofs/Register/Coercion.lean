import FieldLink.Proofs.Numeric.Exact
import FieldLink.Proofs.Register.RoundTrip

/-!
# Integers in registers

What a value leaves in the registers of an integer type is a matter of its exact value alone: the
fraction is cut off and what lies outside the type goes to its nearer end
(`decode_encode_integer`).  A type of one byte has a whole register, and the wider type reads the same
integer from there, so the byte is extended with its sign if it has one.
-/

namespace FieldLink

namespace Value

/-- The exact value of a truth value or number.  Text, and a pattern that is not a number, have
none. -/
def exact : Value → Option Extended
  | bool b => some (((if b then 1 else 0 : ℚ) : WithTop ℚ) : Extended)
  | integer _ i => some (((i.val : ℚ) : WithTop ℚ) : Extended)
  | float32 x => x.exact
  | float64 x => x.exact
  | text _ => none

theorem exact_bool (b : Bool) : (bool b).exact =
    some ((((if b then 1 else 0 : Int) : ℚ) : WithTop ℚ) : Extended) := by
  cases b <;> rfl

end Value

namespace IntegerType

/-- The integer of the type that an exact value is cut off and clamped to; zero, if there is none. -/
def fit (t : IntegerType) : Option Extended → Int
  | none => 0
  | some ⊥ => t.minimum
  | some ⊤ => t.maximum
  | some ((q : ℚ) : WithTop ℚ) => max t.minimum (min t.maximum (towardZero q))

/-- The type that takes all that the registers of a type can hold for an integer. -/
def registerType : IntegerType → IntegerType
  | int8 => int16
  | uint8 => uint16
  | t => t

theorem towardZero_intCast (i : Int) : towardZero i = i := by
  unfold towardZero
  split <;> simp

theorem fit_rational (t : IntegerType) (q : ℚ) :
    t.fit (some ((q : WithTop ℚ) : Extended)) = max t.minimum (min t.maximum (towardZero q)) :=
  rfl

/-- A double is fitted into a type as its exact value is. -/
theorem fit_double (t : IntegerType) (x : Double) :
    t.fit x.exact = x.saturate t.minimum t.maximum := by
  cases number : x.isNaN with
  | true =>
    simp only [Binary.exact, Binary.saturate, number, if_true]
    rfl
  | false =>
    cases infinite : x.isInfinite with
    | true =>
      simp only [Binary.exact, Binary.saturate, number, infinite, if_true]
      cases x.negative <;> rfl
    | false =>
      have finite := Binary.magnitude_lt_infinity number infinite
      rw [Binary.exact_of_finite finite, fit_rational, ← Binary.truncate_eq (by decide)]
      simp [Binary.saturate, number, infinite]

theorem fit_within (t : IntegerType) (x : Option Extended) :
    t.minimum ≤ t.fit x ∧ t.fit x ≤ t.maximum := by
  have order := t.minimum_le_maximum
  have zero : t.minimum ≤ 0 ∧ 0 ≤ t.maximum := by cases t <;> decide
  match x with
  | none => exact zero
  | some ⊥ => exact ⟨le_rfl, order⟩
  | some ⊤ => exact ⟨order, le_rfl⟩
  | some ((q : ℚ) : WithTop ℚ) =>
    rw [fit_rational]
    omega

/-- An integer within a type is its own clamped value. -/
theorem clamp_of_within {t : IntegerType} {i : Int} (within : t.minimum ≤ i ∧ i ≤ t.maximum) :
    (t.clamp i).val = i := by
  simp only [clamp]
  omega

end IntegerType

/-- A number is taken for the integer that the exact value of its source fits. -/
theorem Number.val_toBounded {v : Value} (numeric : v.type ≠ .string) (t : IntegerType) :
    ∃ n, Number.ofValue v = .ok n ∧ (n.toBounded t).val = t.fit v.exact := by
  cases v with
  | text s => exact absurd rfl numeric
  | bool b =>
    refine ⟨_, rfl, ?_⟩
    rw [Value.exact_bool, IntegerType.fit_rational, IntegerType.towardZero_intCast]
    rfl
  | integer u i =>
    refine ⟨_, rfl, ?_⟩
    rw [Value.exact, IntegerType.fit_rational, IntegerType.towardZero_intCast]
    rfl
  | float32 x =>
    refine ⟨_, rfl, ?_⟩
    have same : (x.convert : Double).exact = x.exact :=
      Binary.exact_convert BinaryFormat.single_refines_double (by decide) (by decide) (by decide) x
    rw [Value.exact, ← same, IntegerType.fit_double, Number.toBounded, IntegerType.clamp_of_within]
    rw [← IntegerType.fit_double]
    exact t.fit_within _
  | float64 x =>
    refine ⟨_, rfl, ?_⟩
    rw [Value.exact, IntegerType.fit_double, Number.toBounded, IntegerType.clamp_of_within]
    rw [← IntegerType.fit_double]
    exact t.fit_within _

/-! ## Registers -/

/-- What is written as an integer type are the registers of one of its integers. -/
theorem exists_of_encode_integer {v : Value} {t : IntegerType} {bytes : List UInt8}
    (written : encode v (.integer t) = .ok bytes) :
    ∃ i : Bounded t, bytes = (Value.integer t i).toRegisters := by
  obtain ⟨w, type, -, rfl⟩ := exists_of_encode_eq_ok written
  cases w with
  | integer u i =>
    obtain rfl : u = t := ValueType.integer.inj type
    exact ⟨i, rfl⟩
  | bool | float32 | float64 | text => cases type

/-- Written as an integer type, a value takes the registers of the integer that it fits. -/
theorem encode_integer {v : Value} (numeric : v.type ≠ .string) (t : IntegerType) :
    ∃ i : Bounded t, i.val = t.fit v.exact ∧
      encode v (.integer t) = .ok (Value.integer t i).toRegisters := by
  obtain ⟨n, of_value, fits⟩ := Number.val_toBounded numeric t
  exact ⟨n.toBounded t, fits, (encode_of_toValue? of_value rfl).1⟩

/-- An integer of a type that does not fill its registers is the same one for the type that does. -/
theorem decode_registerType {t : IntegerType} (i : Bounded t) :
    ∃ j : Bounded t.registerType, j.val = i.val ∧ ∀ rest,
      decode ((Value.integer t i).toRegisters ++ rest) (.integer t.registerType) =
        .ok (.integer t.registerType j) := by
  have within : t.registerType.minimum ≤ i.val ∧ i.val ≤ t.registerType.maximum := by
    obtain ⟨i, least, greatest⟩ := i
    cases t <;> simp [IntegerType.registerType, IntegerType.minimum, IntegerType.maximum,
      IntegerType.signed, IntegerType.size] at least greatest ⊢ <;> omega
  have width : t.registerType.width = t.width := by cases t <;> rfl
  refine ⟨⟨i.val, within.1, within.2⟩, rfl, fun rest => ?_⟩
  have wider : (Value.integer t i).toRegisters =
      (Value.integer t.registerType ⟨i.val, within.1, within.2⟩).toRegisters := by
    simp only [Value.toRegisters, width]
  rw [wider]
  exact decode_toRegisters (v := .integer t.registerType _) (by rintro ⟨⟩) rest

/-- What any value leaves as an integer type is the same integer for the type that takes all. -/
theorem decode_both {v : Value} {t : IntegerType} {bytes : List UInt8}
    (written : encode v (.integer t) = .ok bytes) :
    ∃ (i : Bounded t) (j : Bounded t.registerType), j.val = i.val ∧ ∀ rest,
      decode (bytes ++ rest) (.integer t) = .ok (.integer t i) ∧
        decode (bytes ++ rest) (.integer t.registerType) = .ok (.integer t.registerType j) := by
  obtain ⟨i, rfl⟩ := exists_of_encode_integer written
  obtain ⟨j, same, read⟩ := decode_registerType i
  have registered : (Value.integer t i).type ≠ .string := by rintro ⟨⟩
  exact ⟨i, j, same, fun rest => ⟨decode_toRegisters registered rest, read rest⟩⟩

/-- Each value but text is written as any integer type, and is read back, whatever follows it, as
its exact value without the fraction, clamped into the type: as the nearer end of the type if it is an
infinity, and as zero if it is not a number.  What any value leaves in a register as a type of one
byte is the same integer for the type of two bytes. -/
theorem decode_encode_integer :
    (∀ (v : Value) (t : IntegerType), v.type ≠ .string → ∃ (bytes : List UInt8) (i : Bounded t),
      encode v (.integer t) = .ok bytes ∧ i.val = t.fit v.exact ∧
        ∀ rest, decode (bytes ++ rest) (.integer t) = .ok (.integer t i)) ∧
    (∀ (v : Value) (bytes : List UInt8), encode v (.integer .int8) = .ok bytes →
      ∃ (i : Bounded .int8) (j : Bounded .int16), j.val = i.val ∧ ∀ rest,
        decode (bytes ++ rest) (.integer .int8) = .ok (.integer .int8 i) ∧
          decode (bytes ++ rest) (.integer .int16) = .ok (.integer .int16 j)) ∧
    ∀ (v : Value) (bytes : List UInt8), encode v (.integer .uint8) = .ok bytes →
      ∃ (i : Bounded .uint8) (j : Bounded .uint16), j.val = i.val ∧ ∀ rest,
        decode (bytes ++ rest) (.integer .uint8) = .ok (.integer .uint8 i) ∧
          decode (bytes ++ rest) (.integer .uint16) = .ok (.integer .uint16 j) := by
  refine ⟨fun v t numeric => ?_, fun v bytes written => decode_both written,
    fun v bytes written => decode_both written⟩
  obtain ⟨i, fits, written⟩ := encode_integer numeric t
  have registered : (Value.integer t i).type ≠ .string := by rintro ⟨⟩
  exact ⟨_, i, written, fits, decode_toRegisters registered⟩

/-- Minus 128.9 is cut off to the least integer of one byte, which stays negative in two bytes. -/
theorem decode_encode_integer_least :
    ∃ (bytes : List UInt8) (i : Bounded .int8) (j : Bounded .int16),
      encode (.float64 (.ofBits .double 0xC0601CCCCCCCCCCD)) (.integer .int8) = .ok bytes ∧
        i.val = -128 ∧ j.val = -128 ∧
        decode bytes (.integer .int8) = .ok (.integer .int8 i) ∧
        decode bytes (.integer .int16) = .ok (.integer .int16 j) := by
  have fit : IntegerType.fit .int8
      (Value.float64 (.ofBits .double 0xC0601CCCCCCCCCCD)).exact = -128 := by
    rw [Value.exact, IntegerType.fit_double]
    decide +kernel
  obtain ⟨bytes, i, written, fits, read⟩ := decode_encode_integer.1
    (.float64 (.ofBits .double 0xC0601CCCCCCCCCCD)) .int8 (by rintro ⟨⟩)
  obtain ⟨i', j, same, reads⟩ := decode_encode_integer.2.1 _ bytes written
  have once := read []
  obtain ⟨again, wider⟩ := reads []
  rw [List.append_nil] at once again wider
  obtain rfl : i' = i := by
    rw [again] at once
    injection once with once
    injection once
  exact ⟨bytes, i', j, written, fits.trans fit, same.trans (fits.trans fit), once, wider⟩

end FieldLink

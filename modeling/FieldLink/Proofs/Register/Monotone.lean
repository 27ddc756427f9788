import FieldLink.Proofs.Numeric.Rounding
import FieldLink.Proofs.Register.Coercion

/-!
# The order of coerced values

Each way from a value into registers keeps the order of exact values: cutting off and clamping
(`fit_mono`), rounding to a double (`exists_rounds`), and rounding that double once more.  So two
values of any kinds are read back in their order, whichever of them went through an integer and which
through a double (`decode_encode_mono`).
-/

namespace FieldLink

theorem towardZero_mono {q r : ℚ} (le : q ≤ r) : towardZero q ≤ towardZero r := by
  unfold towardZero
  split_ifs with nonneg nonneg' nonneg'
  · exact Int.floor_le_floor le
  · exact absurd (nonneg.trans le) nonneg'
  · have upper : ⌈q⌉ ≤ 0 := Int.ceil_le.2 (by rw [Int.cast_zero]; exact (not_le.1 nonneg).le)
    exact upper.trans (Int.floor_nonneg.2 nonneg')
  · exact Int.ceil_le_ceil le

/-- Integers of a type are in the order of the exact values that they are taken from. -/
theorem IntegerType.fit_mono (t : IntegerType) {a b : Extended} (le : a ≤ b) :
    t.fit (some a) ≤ t.fit (some b) := by
  match a, b with
  | ⊥, _ => exact (t.fit_within _).1
  | _, ⊤ => exact (t.fit_within _).2
  | ((q : ℚ) : WithTop ℚ), ((r : ℚ) : WithTop ℚ) =>
    have order : q ≤ r := by simpa using le
    have mono := towardZero_mono order
    rw [fit_rational, fit_rational]
    omega

/-! ## The number in a value -/

theorem Value.type_ne_string {v : Value} {e : Extended} (exact : v.exact = some e) :
    v.type ≠ .string := by
  cases v with
  | text s => cases exact
  | bool | integer | float32 | float64 => rintro ⟨⟩

/-- The double that a value is taken for is what its exact value rounds to. -/
theorem Number.exists_rounds {v : Value} {e : Extended} (exact : v.exact = some e) :
    ∃ n, Number.ofValue v = .ok n ∧ n.toDouble.Rounds e := by
  cases v with
  | text s => cases exact
  | bool b =>
    rw [Value.exact_bool] at exact
    obtain rfl := Option.some.inj exact
    exact ⟨_, rfl, Binary.isNearest_ofInt (by decide) _⟩
  | integer t i =>
    obtain rfl := Option.some.inj exact
    exact ⟨_, rfl, Binary.isNearest_ofInt (by decide) i.val⟩
  | float32 x => exact ⟨_, rfl, Binary.rounds_convert (by decide) (by decide) exact⟩
  | float64 x => exact ⟨_, rfl, Binary.rounds_exact exact⟩

/-- Of two values of any kinds, the one with the greater exact value is read back as the greater or the
same, after both were written as an integer type or a format of binary numbers. -/
theorem decode_encode_mono (v w : Value) (a b : Extended) (t : ValueType) (value : v.exact = some a)
    (value' : w.exact = some b) (le : a ≤ b) (numeric : t ≠ .bool) (registered : t ≠ .string) :
    ∃ (bytes bytes' : List UInt8) (v' w' : Value) (a' b' : Extended),
      encode v t = .ok bytes ∧ decode bytes t = .ok v' ∧ v'.exact = some a' ∧
        encode w t = .ok bytes' ∧ decode bytes' t = .ok w' ∧ w'.exact = some b' ∧ a' ≤ b' := by
  obtain ⟨n, number, rounds⟩ := Number.exists_rounds value
  obtain ⟨n', number', rounds'⟩ := Number.exists_rounds value'
  obtain ⟨c, c', double, double', order⟩ := rounds.mono (by decide) rounds' le
  cases t with
  | bool => exact absurd rfl numeric
  | string => exact absurd rfl registered
  | integer t =>
    have fits := t.fit_mono le
    rw [← value, ← value'] at fits
    obtain ⟨i, val, written⟩ := encode_integer (Value.type_ne_string value) t
    obtain ⟨j, val', written'⟩ := encode_integer (Value.type_ne_string value') t
    rw [← val, ← val'] at fits
    exact ⟨_, _, .integer t i, .integer t j, _, _, written, decode_own (by rintro ⟨⟩), rfl, written',
      decode_own (by rintro ⟨⟩), rfl, WithBot.coe_le_coe.2 (WithTop.coe_le_coe.2 (Int.cast_le.2 fits))⟩
  | float32 =>
    have single := Binary.rounds_convert (g := .single) (by decide) (by decide) double
    have single' := Binary.rounds_convert (g := .single) (by decide) (by decide) double'
    obtain ⟨a', b', exact, exact', order'⟩ := single.mono (by decide) single' order
    obtain ⟨written, read⟩ := encode_of_toValue? number (t := .float32) rfl
    obtain ⟨written', read'⟩ := encode_of_toValue? number' (t := .float32) rfl
    exact ⟨_, _, _, _, a', b', written, read, exact, written', read', exact', order'⟩
  | float64 =>
    obtain ⟨written, read⟩ := encode_of_toValue? number (t := .float64) rfl
    obtain ⟨written', read'⟩ := encode_of_toValue? number' (t := .float64) rfl
    exact ⟨_, _, _, _, c, c', written, read, double, written', read', double', order⟩

/-- The greatest integer of 64 bits takes two roundings to single precision, and `1e300` goes to its
infinity. -/
theorem decode_encode_mono_overflow :
    (Value.integer .uint64 (IntegerType.clamp .uint64 (2 ^ 64))).exact =
        some ((((2 ^ 64 - 1 : Int) : ℚ) : WithTop ℚ) : Extended) ∧
      ∃ (bytes bytes' : List UInt8) (v' w' : Value) (a' b' : Extended),
        encode (.integer .uint64 (IntegerType.clamp .uint64 (2 ^ 64))) .float32 = .ok bytes ∧
          decode bytes .float32 = .ok v' ∧ v'.exact = some a' ∧
          encode (.float64 (.ofBits .double 0x7E37E43C8800759C)) .float32 = .ok bytes' ∧
          decode bytes' .float32 = .ok w' ∧ w'.exact = some b' ∧ a' ≤ b' := by
  have value : (Value.integer .uint64 (IntegerType.clamp .uint64 (2 ^ 64))).exact =
      some ((((2 ^ 64 - 1 : Int) : ℚ) : WithTop ℚ) : Extended) := rfl
  have value' := Binary.exact_of_finite (x := Binary.ofBits .double 0x7E37E43C8800759C)
    (by decide +kernel)
  have positive : (Binary.ofBits .double 0x7E37E43C8800759C).negative = false := by decide +kernel
  have units : (2 ^ 64 - 1 : Int) * BinaryFormat.double.unitsPerOne ≤
      BinaryFormat.double.units (Binary.ofBits .double 0x7E37E43C8800759C).magnitude := by
    decide +kernel
  have le : ((2 ^ 64 - 1 : Int) : ℚ) ≤ (Binary.ofBits .double 0x7E37E43C8800759C).rational := by
    rw [Binary.rational_eq (by decide), positive, if_neg Bool.false_ne_true, one_mul,
      le_div_iff₀ (Nat.cast_pos.2 BinaryFormat.double.unitsPerOne_pos)]
    exact_mod_cast units
  exact ⟨value, decode_encode_mono _ _ _ _ .float32 value value'
    (WithBot.coe_le_coe.2 (WithTop.coe_le_coe.2 le)) (by rintro ⟨⟩) (by rintro ⟨⟩)⟩

end FieldLink

import FieldLink.Proofs.Numeric.Widening
import FieldLink.Register.Codec
import Mathlib.Data.List.Induction

/-!
# Values to registers and back

A value that is written as its own type is read back as it was, whatever follows it, and what is read
from registers is written back to the same bytes (`registers_round_trip`).  Written values are the
register bytes of some value of the type (`exists_of_encode_eq_ok`), so both follow from what
`toRegisters` and `ofRaw?` do to each other.
-/

namespace FieldLink

namespace BigEndian

theorem toNat_lt_count (bytes : List UInt8) : toNat bytes < count bytes.length := by
  induction bytes using List.reverseRecOn with
  | nil => decide
  | append_singleton bytes b ih =>
    have byte : b.toNat < 256 := b.toNat_lt
    rw [toNat_append, List.length_append, List.length_singleton, count]
    omega

/-- Writing what was read gives the bytes back. -/
theorem ofNat_toNat (bytes : List UInt8) : ofNat bytes.length (toNat bytes) = bytes := by
  induction bytes using List.reverseRecOn with
  | nil => rfl
  | append_singleton bytes b ih =>
    have byte : b.toNat < 256 := b.toNat_lt
    have upper : (256 * toNat bytes + b.toNat) / 256 = toNat bytes := by omega
    have lower : UInt8.ofNat (256 * toNat bytes + b.toNat) = b := by
      apply UInt8.toNat_inj.1
      rw [UInt8.toNat_ofNat']
      omega
    rw [toNat_append, List.length_append, List.length_singleton, ofNat, upper, lower, ih]

theorem count_pos (width : Nat) : 0 < count width := by
  induction width with
  | zero => decide
  | succ width ih => exact Nat.mul_pos (by decide) ih

theorem toNat_ofNat_of_lt {width n : Nat} (fits : n < count width) : toNat (ofNat width n) = n := by
  rw [toNat_ofNat, Nat.mod_eq_of_lt fits]

end BigEndian

/-! ## Bit patterns -/

namespace Binary

variable {f : BinaryFormat}

theorem toBits_lt (x : Binary f) : x.toBits < 2 * f.magnitudes := by
  have bound := x.magnitude_lt
  unfold toBits
  split <;> omega

theorem ofBits_toBits (x : Binary f) : ofBits f x.toBits = x := by
  obtain ⟨negative, m, bound⟩ := x
  cases negative with
  | false => simp [ofBits, toBits, Nat.div_eq_of_lt bound, Nat.mod_eq_of_lt bound]
  | true =>
    have quotient : (f.magnitudes + m) / f.magnitudes = 1 := by
      rw [Nat.add_div_left _ (by omega), Nat.div_eq_of_lt bound]
    simp [ofBits, toBits, quotient, Nat.mod_eq_of_lt bound]

theorem toBits_ofBits {bits : Nat} (fits : bits < 2 * f.magnitudes) :
    (ofBits f bits).toBits = bits := by
  rcases Nat.lt_or_ge bits f.magnitudes with small | large
  · simp [ofBits, toBits, Nat.div_eq_of_lt small, Nat.mod_eq_of_lt small]
  · obtain ⟨m, rfl⟩ := Nat.exists_eq_add_of_le large
    have bound : m < f.magnitudes := by omega
    have quotient : (f.magnitudes + m) / f.magnitudes = 1 := by
      rw [Nat.add_div_left _ (by omega), Nat.div_eq_of_lt bound]
    simp [ofBits, toBits, quotient, Nat.mod_eq_of_lt bound]

end Binary

/-! ## Integers -/

namespace IntegerType

variable {t : IntegerType}

theorem clamp_val (i : Bounded t) : t.clamp i.val = i := by
  obtain ⟨i, least, greatest⟩ := i
  simp only [clamp, Bounded.mk.injEq]
  omega

theorem size_dvd_count (t : IntegerType) : t.size ∣ BigEndian.count t.width := by
  cases t <;> decide

/-- Two values of a type are the same when they differ by a multiple of the count of values. -/
theorem bounded_ext {i j : Bounded t} (same : i.val % t.size = j.val % t.size) : i = j := by
  obtain ⟨i, least, greatest⟩ := i
  obtain ⟨j, least', greatest'⟩ := j
  simp only [Bounded.mk.injEq]
  cases t <;>
    simp [signed, minimum, maximum, size, UInt8.size, UInt16.size, UInt32.size, UInt64.size]
      at least greatest least' greatest' same <;> omega

theorem val_ofRaw_emod (t : IntegerType) (raw : Nat) :
    (t.ofRaw raw).val % t.size = (raw % t.size : Nat) := by
  unfold ofRaw
  dsimp only
  split
  · rw [Int.bmod_emod, Int.natCast_emod]
  · rw [Int.emod_emod_of_dvd _ (Int.dvd_refl _), Int.natCast_emod]

theorem toNat_ofInt (width : Nat) (i : Int) :
    (BigEndian.toNat (BigEndian.ofInt width i) : Int) = i % BigEndian.count width := by
  have pos := BigEndian.count_pos width
  have lower := Int.emod_nonneg i (b := BigEndian.count width) (by omega)
  have upper := Int.emod_lt_of_pos i (b := BigEndian.count width) (by omega)
  rw [BigEndian.ofInt, BigEndian.toNat_ofNat_of_lt (by omega), Int.toNat_of_nonneg lower]

theorem ofRaw_ofInt (i : Bounded t) :
    t.ofRaw (BigEndian.toNat (BigEndian.ofInt t.width i.val)) = i := by
  have dvd : (t.size : Int) ∣ BigEndian.count t.width := Int.natCast_dvd_natCast.2 t.size_dvd_count
  apply bounded_ext
  rw [val_ofRaw_emod, Int.natCast_emod, toNat_ofInt, Int.emod_emod_of_dvd _ dvd]

/-- A type with as many values as its registers have contents has a value for each of them. -/
theorem ofInt_ofRaw {bytes : List UInt8} (size : t.size = BigEndian.count t.width)
    (width : bytes.length = t.width) :
    BigEndian.ofInt t.width (t.ofRaw (BigEndian.toNat bytes)).val = bytes := by
  have fits := BigEndian.toNat_lt_count bytes
  rw [width, ← size] at fits
  rw [BigEndian.ofInt, ← size, val_ofRaw_emod, Nat.mod_eq_of_lt fits, Int.toNat_natCast, ← width,
    BigEndian.ofNat_toNat]

end IntegerType

/-! ## Values -/

namespace Value

/-- The type of a value. -/
def type : Value → ValueType
  | bool _ => .bool
  | integer t _ => .integer t
  | float32 _ => .float32
  | float64 _ => .float64
  | text _ => .string

/-- Whether a value is of single precision and not a number. -/
def isSingleNaN : Value → Bool
  | float32 x => x.isNaN
  | _ => false

theorem count_single : 2 * BinaryFormat.single.magnitudes = BigEndian.count 4 := by decide

theorem count_double : 2 * BinaryFormat.double.magnitudes = BigEndian.count 8 := by decide

theorem width_toRegisters {v : Value} (registered : v.type ≠ .string) :
    v.type.width? = some v.toRegisters.length := by
  cases v with
  | text s => exact absurd rfl registered
  | bool | integer | float32 | float64 =>
    simp [type, ValueType.width?, toRegisters, BigEndian.ofInt, BigEndian.length_ofNat]

/-- The registers of a value hold that value. -/
theorem ofRaw?_toRegisters {v : Value} (registered : v.type ≠ .string) :
    ofRaw? (BigEndian.toNat v.toRegisters) v.type = some v := by
  cases v with
  | text s => exact absurd rfl registered
  | bool b => cases b <;> rfl
  | integer t i => simp only [type, toRegisters, ofRaw?, IntegerType.ofRaw_ofInt]
  | float32 x =>
    have fits := x.toBits_lt
    rw [count_single] at fits
    simp only [type, toRegisters, ofRaw?, BigEndian.toNat_ofNat_of_lt fits, Binary.ofBits_toBits]
  | float64 x =>
    have fits := x.toBits_lt
    rw [count_double] at fits
    simp only [type, toRegisters, ofRaw?, BigEndian.toNat_ofNat_of_lt fits, Binary.ofBits_toBits]

end Value

/-- Whether a type has a value for each content of its registers. -/
def ValueType.isFull : ValueType → Bool
  | bool | integer .int8 | integer .uint8 | string => false
  | integer .int16 | integer .uint16 | integer .int32 | integer .uint32 | integer .int64
  | integer .uint64 | float32 | float64 => true

theorem ValueType.size_of_isFull {t : IntegerType} (full : (integer t).isFull) :
    t.size = BigEndian.count t.width := by
  cases t with
  | int8 | uint8 => cases full
  | int16 | uint16 | int32 | uint32 | int64 | uint64 => decide

/-- Each content of the registers of a full type is that of a value. -/
theorem Value.exists_toRegisters {t : ValueType} {bytes : List UInt8} (full : t.isFull)
    (width : t.width? = some bytes.length) : ∃ v : Value, v.type = t ∧ v.toRegisters = bytes := by
  have fits := BigEndian.toNat_lt_count bytes
  cases t with
  | bool | string => cases full
  | integer t =>
    refine ⟨.integer t (t.ofRaw (BigEndian.toNat bytes)), rfl, ?_⟩
    exact IntegerType.ofInt_ofRaw (ValueType.size_of_isFull full) (Option.some.inj width).symm
  | float32 =>
    have length : 4 = bytes.length := Option.some.inj width
    rw [← length, ← count_single] at fits
    refine ⟨.float32 (.ofBits .single (BigEndian.toNat bytes)), rfl, ?_⟩
    rw [toRegisters, Binary.toBits_ofBits fits, length, BigEndian.ofNat_toNat]
  | float64 =>
    have length : 8 = bytes.length := Option.some.inj width
    rw [← length, ← count_double] at fits
    refine ⟨.float64 (.ofBits .double (BigEndian.toNat bytes)), rfl, ?_⟩
    rw [toRegisters, Binary.toBits_ofBits fits, length, BigEndian.ofNat_toNat]

/-! ## Writing and reading -/

theorem ValueType.width_eq_ok_iff {t : ValueType} {n : Nat} :
    t.width = .ok n ↔ t.width? = some n := by
  unfold width
  cases t.width? <;> simp

/-- A number that was taken from a value is taken for that value again. -/
theorem Number.exists_toValue?_eq {v : Value} (registered : v.type ≠ .string)
    (number : v.isSingleNaN = false) :
    ∃ n, Number.ofValue v = .ok n ∧ n.toValue? v.type = some v := by
  cases v with
  | text s => exact absurd rfl registered
  | bool b =>
    refine ⟨_, rfl, ?_⟩
    cases b <;> rfl
  | integer t i =>
    refine ⟨_, rfl, ?_⟩
    simp only [Value.type, toValue?, toBounded, IntegerType.clamp_val]
  | float32 x =>
    refine ⟨_, rfl, ?_⟩
    simp only [Value.type, toValue?, toDouble,
      Binary.convert_convert BinaryFormat.single_refines_double number]
  | float64 x => exact ⟨_, rfl, rfl⟩

theorem decode_toRegisters {v : Value} (registered : v.type ≠ .string) (rest : List UInt8) :
    decode (v.toRegisters ++ rest) v.type = .ok v := by
  have width := ValueType.width_eq_ok_iff.2 (Value.width_toRegisters registered)
  have enough : ¬(v.toRegisters ++ rest).length < v.toRegisters.length := by simp
  simp [decode, width, bind, Except.bind, Value.ofRaw?_toRegisters registered]

theorem decode_own {v : Value} (registered : v.type ≠ .string) :
    decode v.toRegisters v.type = .ok v := by
  have read := decode_toRegisters registered []
  rw [List.append_nil] at read
  exact read

theorem Number.type_of_toValue? {n : Number} {t : ValueType} {v : Value}
    (taken : n.toValue? t = some v) : v.type = t ∧ t ≠ .string := by
  cases t with
  | string => cases taken
  | bool | integer | float32 | float64 =>
    obtain rfl := Option.some.inj taken
    exact ⟨rfl, by rintro ⟨⟩⟩

/-- A value is written as the value of the type that the number in it is taken for. -/
theorem encode_of_toValue? {v w : Value} {n : Number} {t : ValueType}
    (number : Number.ofValue v = .ok n) (taken : n.toValue? t = some w) :
    encode v t = .ok w.toRegisters ∧ decode w.toRegisters t = .ok w := by
  obtain ⟨rfl, registered⟩ := Number.type_of_toValue? taken
  have width := ValueType.width_eq_ok_iff.2 (Value.width_toRegisters registered)
  exact ⟨by simp [encode, width, number, taken, bind, Except.bind], decode_own registered⟩

theorem encode_congr {v w : Value} {n m : Number} {t : ValueType} (number : Number.ofValue v = .ok n)
    (number' : Number.ofValue w = .ok m) (same : n.toValue? t = m.toValue? t) :
    encode v t = encode w t := by
  simp [encode, number, number', same, bind, Except.bind]

/-- Written as its own type, a value takes its own registers. -/
theorem encode_type {v : Value} (registered : v.type ≠ .string) (number : v.isSingleNaN = false) :
    encode v v.type = .ok v.toRegisters := by
  obtain ⟨n, of_value, to_value⟩ := Number.exists_toValue?_eq registered number
  exact (encode_of_toValue? of_value to_value).1

/-- What is written as a type are the registers of a value of that type. -/
theorem exists_of_encode_eq_ok {v : Value} {t : ValueType} {bytes : List UInt8}
    (written : encode v t = .ok bytes) :
    ∃ w : Value, w.type = t ∧ t ≠ .string ∧ w.toRegisters = bytes := by
  unfold encode at written
  cases width : t.width with
  | error e => simp [width, bind, Except.bind] at written
  | ok n =>
    cases number : Number.ofValue v with
    | error e => simp [width, number, bind, Except.bind] at written
    | ok n =>
      cases taken : n.toValue? t with
      | none => simp [width, number, taken, bind, Except.bind] at written
      | some w =>
        simp only [width, number, taken, bind, Except.bind, Except.ok.injEq] at written
        obtain ⟨type, registered⟩ := Number.type_of_toValue? taken
        exact ⟨w, type, registered, written⟩

/-- Whether bytes hold a pattern of single precision that is not a number, when they are read as a
type. -/
def holdsSingleNaN (bytes : List UInt8) (t : ValueType) : Bool :=
  t = .float32 && (Binary.ofBits .single (BigEndian.toNat bytes)).isNaN

theorem isSingleNaN_eq {v : Value} : v.isSingleNaN = holdsSingleNaN v.toRegisters v.type := by
  cases v with
  | float32 x =>
    have fits := x.toBits_lt
    rw [Value.count_single] at fits
    simp [Value.isSingleNaN, holdsSingleNaN, Value.type, Value.toRegisters,
      BigEndian.toNat_ofNat_of_lt fits, Binary.ofBits_toBits]
  | _ => rfl

/-- What was written as a type is read, and the value that is read is written alike. -/
theorem encode_decode {v : Value} {t : ValueType} {bytes : List UInt8}
    (written : encode v t = .ok bytes) (number : holdsSingleNaN bytes t = false) :
    ∃ w, decode bytes t = .ok w ∧ encode w t = .ok bytes := by
  obtain ⟨w, rfl, registered, rfl⟩ := exists_of_encode_eq_ok written
  rw [← isSingleNaN_eq] at number
  exact ⟨w, decode_own registered, encode_type registered number⟩

/-- A value of any type but text takes the room of its type, and is read back from there as it was,
whatever follows.  Bytes that were written as a type are written again when they are read as it, and
each content of the registers of a full type is so written.  Patterns of single precision that are
not numbers are left out: the passage through double precision makes them quiet. -/
theorem registers_round_trip :
    (∀ v : Value, v.type ≠ .string → v.isSingleNaN = false →
      ∃ bytes, encode v v.type = .ok bytes ∧ v.type.width = .ok bytes.length ∧
        ∀ rest, decode (bytes ++ rest) v.type = .ok v) ∧
    (∀ (v : Value) (t : ValueType) (bytes : List UInt8), encode v t = .ok bytes →
      holdsSingleNaN bytes t = false → ∃ w, decode bytes t = .ok w ∧ encode w t = .ok bytes) ∧
    ∀ (t : ValueType) (bytes : List UInt8), t.isFull → t.width = .ok bytes.length →
      holdsSingleNaN bytes t = false → ∃ v, encode v t = .ok bytes := by
  refine ⟨fun v registered number => ?_, fun v t bytes => encode_decode,
    fun t bytes full width number => ?_⟩
  · have width := ValueType.width_eq_ok_iff.2 (Value.width_toRegisters registered)
    exact ⟨v.toRegisters, encode_type registered number, width, decode_toRegisters registered⟩
  · obtain ⟨v, rfl, rfl⟩ := Value.exists_toRegisters full (ValueType.width_eq_ok_iff.1 width)
    have registered : v.type ≠ .string := by
      intro text
      rw [text] at full
      cases full
    rw [← isSingleNaN_eq] at number
    exact ⟨v, encode_type registered number⟩

/-- The least negative value of single precision, and the registers of its infinity. -/
theorem registers_round_trip_single :
    (∃ bytes, encode (.float32 (.ofBits .single 0x80000001)) .float32 = .ok bytes ∧
      ∀ rest, decode (bytes ++ rest) .float32 = .ok (.float32 (.ofBits .single 0x80000001))) ∧
    ∃ w, decode [0x7F, 0x80, 0, 0] .float32 = .ok w ∧ encode w .float32 = .ok [0x7F, 0x80, 0, 0] := by
  have least : (Value.float32 (.ofBits .single 0x80000001)).isSingleNaN = false := by
    decide +kernel
  have infinite : holdsSingleNaN [0x7F, 0x80, 0, 0] .float32 = false := by decide +kernel
  obtain ⟨bytes, written, -, read⟩ := registers_round_trip.1 _ (by decide +kernel) least
  obtain ⟨v, infinity⟩ := registers_round_trip.2.2 .float32 [0x7F, 0x80, 0, 0] rfl rfl infinite
  exact ⟨⟨bytes, written, read⟩, registers_round_trip.2.1 v .float32 _ infinity infinite⟩

end FieldLink

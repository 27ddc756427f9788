import FieldLink.Bytes
import FieldLink.Register.Value

/-!
# Values in registers

`encode` writes a value as a type into big-endian register bytes, `decode` reads bytes as a type.
Writing goes through the number in the value, so a value of any type may be written as any other:
integers and doubles go to the nearest value of an integer type, and a number goes to single
precision by way of double precision.
-/

namespace FieldLink

/-- The value of type `t` that a number is taken for.  Text has no registers. -/
def Number.toValue? (number : Number) : ValueType → Option Value
  | .bool => some (.bool number.toBool)
  | .integer t => some (.integer t (number.toBounded t))
  | .float32 => some (.float32 number.toDouble.convert)
  | .float64 => some (.float64 number.toDouble)
  | .string => none

namespace Value

/-- The register bytes of a value of its own type; a value of one byte is extended to a register,
with its sign.  Text has none. -/
def toRegisters : Value → List UInt8
  | bool b => BigEndian.ofNat 2 (if b then 1 else 0)
  | integer t i => BigEndian.ofInt t.width i.val
  | float32 x => BigEndian.ofNat 4 x.toBits
  | float64 x => BigEndian.ofNat 8 x.toBits
  | text _ => []

/-- The value of type `t` with the register content `raw`.  Text has no registers. -/
def ofRaw? (raw : Nat) : ValueType → Option Value
  | .bool => some (.bool (raw ≠ 0))
  | .integer t => some (.integer t (t.ofRaw raw))
  | .float32 => some (.float32 (.ofBits .single raw))
  | .float64 => some (.float64 (.ofBits .double raw))
  | .string => none

end Value

/-- Writes a value as type `t` into register bytes. -/
def encode (value : Value) (t : ValueType) : Except LinkError (List UInt8) := do
  let _ ← t.width
  let number ← Number.ofValue value
  match number.toValue? t with
  | some v => .ok v.toRegisters
  | none => .error (.unsupportedType t.name)

/-- Reads the leading bytes, as many as type `t` takes, as a value of that type. -/
def decode (bytes : List UInt8) (t : ValueType) : Except LinkError Value := do
  let width ← t.width
  if bytes.length < width then
    .error (.invalidParameters
      (t.name ++ " needs " ++ toString width ++ " bytes, got " ++ toString bytes.length))
  else
    match Value.ofRaw? (BigEndian.toNat (bytes.take width)) t with
    | some v => .ok v
    | none => .error (.unsupportedType t.name)

end FieldLink

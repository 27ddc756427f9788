import FieldLink.Error

/-!
# Types of device values

The types that a device value may have, their names, and the room that each takes in registers.  A
register has two bytes and holds one value of 8 or 16 bits; wider values take two or four
registers, and text has no registers at all.
-/

namespace FieldLink

/-- The integer types, by sign and count of bits. -/
inductive IntegerType where
  | int8
  | uint8
  | int16
  | uint16
  | int32
  | uint32
  | int64
  | uint64
  deriving DecidableEq, Repr

namespace IntegerType

/-- The name in configuration and messages. -/
def name : IntegerType → String
  | int8 => "int8"
  | uint8 => "uint8"
  | int16 => "int16"
  | uint16 => "uint16"
  | int32 => "int32"
  | uint32 => "uint32"
  | int64 => "int64"
  | uint64 => "uint64"

/-- Whether the type has negative values. -/
def signed : IntegerType → Bool
  | int8 | int16 | int32 | int64 => true
  | uint8 | uint16 | uint32 | uint64 => false

/-- The count of values. -/
def size : IntegerType → Nat
  | int8 | uint8 => UInt8.size
  | int16 | uint16 => UInt16.size
  | int32 | uint32 => UInt32.size
  | int64 | uint64 => UInt64.size

/-- The count of bytes in registers, which is two for the types of one byte as well. -/
def width : IntegerType → Nat
  | int8 | uint8 | int16 | uint16 => 2
  | int32 | uint32 => 4
  | int64 | uint64 => 8

/-- The least value of the type. -/
def minimum (t : IntegerType) : Int :=
  if t.signed then -(t.size / 2 : Nat) else 0

/-- The greatest value of the type. -/
def maximum (t : IntegerType) : Int :=
  (if t.signed then t.size / 2 else t.size : Nat) - 1

theorem size_pos (t : IntegerType) : 0 < t.size := by
  cases t <;> decide

theorem minimum_le_maximum (t : IntegerType) : t.minimum ≤ t.maximum := by
  cases t <;> decide

end IntegerType

/-- The type of a device value. -/
inductive ValueType where
  | bool
  | integer (t : IntegerType)
  | float32
  | float64
  | string
  deriving DecidableEq, Repr

namespace ValueType

/-- The name in configuration and messages. -/
def name : ValueType → String
  | bool => "bool"
  | integer t => t.name
  | float32 => "float32"
  | float64 => "float64"
  | string => "string"

/-- Every type, once. -/
def all : List ValueType :=
  [bool, integer .int8, integer .uint8, integer .int16, integer .uint16, integer .int32,
    integer .uint32, integer .int64, integer .uint64, float32, float64, string]

/-- The type with the given name. -/
def ofName (name : String) : Except LinkError ValueType :=
  match all.find? fun t => t.name == name with
  | some t => .ok t
  | none => .error (.unsupportedType name)

/-- The count of bytes that a value takes in registers, if it has any. -/
def width? : ValueType → Option Nat
  | bool => some 2
  | integer t => some t.width
  | float32 => some 4
  | float64 => some 8
  | string => none

/-- The count of bytes that a value takes in registers. -/
def width (t : ValueType) : Except LinkError Nat :=
  match t.width? with
  | some n => .ok n
  | none => .error (.unsupportedType t.name)

end ValueType

/-- The registers that hold a count of bits. -/
def registersForBits (bits : Nat) : Nat := (bits + 15) / 16

/-- The bytes that hold a count of bits. -/
def bytesForBits (bits : Nat) : Nat := (bits + 7) / 8

end FieldLink

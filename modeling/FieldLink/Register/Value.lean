import FieldLink.Numeric.Literal
import FieldLink.Register.ValueType
import FieldLink.Text.Blank

/-!
# Device values and the numbers in them

A `Value` carries its type.  To be written as another type it is first taken as a `Number`: an
integer, or a double.  Text is a number if it spells one, or if it is the word for a truth value.
-/

namespace FieldLink

/-- The integers of a type. -/
structure Bounded (t : IntegerType) where
  val : Int
  minimum_le : t.minimum ≤ val
  le_maximum : val ≤ t.maximum
  deriving DecidableEq

namespace IntegerType

/-- The value of the type that is nearest to an integer. -/
def clamp (t : IntegerType) (i : Int) : Bounded t where
  val := max t.minimum (min t.maximum i)
  minimum_le := Int.le_max_left _ _
  le_maximum := Int.max_le.2 ⟨t.minimum_le_maximum, Int.min_le_left _ _⟩

/-- The value that differs from `raw` by a multiple of the count of values. -/
def ofRaw (t : IntegerType) (raw : Nat) : Bounded t where
  val := if t.signed then Int.bmod raw t.size else raw % t.size
  minimum_le := by
    have h := @Int.le_bmod raw t.size t.size_pos
    cases t <;> simp [signed, minimum, size] at h ⊢ <;> omega
  le_maximum := by
    have h := @Int.bmod_lt raw t.size t.size_pos
    cases t <;> simp [signed, maximum, size] at h ⊢ <;> omega

end IntegerType

/-- A typed device value. -/
inductive Value where
  | bool (b : Bool)
  | integer (t : IntegerType) (i : Bounded t)
  | float32 (x : Single)
  | float64 (x : Double)
  /-- Text is no value of a register; it is written only when it spells a number. -/
  | text (s : String)
  deriving DecidableEq

/-- What a value is before it is fitted into a type: an integer or a double. -/
inductive Number where
  | integer (i : Int)
  | real (x : Double)
  deriving DecidableEq

namespace Number

/-- The first natural number that is too large for a signed integer of 128 bits. -/
def wideBound : Nat := 1 <<< 127

/-- The range in which text is taken for an integer; beyond it, it is taken for a double. -/
def inWideRange (i : Int) : Bool := -wideBound ≤ i && i < wideBound

/-- The number that a text spells, blanks at its ends aside. -/
def ofText (s : String) : Except LinkError Number :=
  let cs := Text.trim s.toList
  match (readInteger? cs).filter inWideRange with
  | some i => .ok (integer i)
  | none =>
    match RealLiteral.read? cs with
    | some literal => .ok (real literal.toDouble)
    | none =>
      if cs = "true".toList then .ok (integer 1)
      else if cs = "false".toList then .ok (integer 0)
      else .error (.notNumeric (String.ofList cs))

/-- The number in a value. -/
def ofValue : Value → Except LinkError Number
  | .bool b => .ok (integer (if b then 1 else 0))
  | .integer _ i => .ok (integer i.val)
  | .float32 x => .ok (real x.convert)
  | .float64 x => .ok (real x)
  | .text s => ofText s

/-- The truth value of a number: whether it differs from zero. -/
def toBool : Number → Bool
  | integer i => i ≠ 0
  | real x => !x.isZero

/-- The double nearest to a number. -/
def toDouble : Number → Double
  | integer i => .ofInt i
  | real x => x

/-- The value of an integer type that a number is taken for. -/
def toBounded (t : IntegerType) : Number → Bounded t
  | integer i => t.clamp i
  | real x => t.clamp (x.saturate t.minimum t.maximum)

end Number

end FieldLink

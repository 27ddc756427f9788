import FieldLink.Error

/-!
# Byte orders

A byte order is a word over the letters `A` to `H`, the names of the positions 0 to 7.  Reordering
moves byte `i` to the position that letter `i` of the order names, so `ABCD` changes nothing and
`CDAB` exchanges the two registers of a value of 32 bits.
-/

namespace FieldLink.ByteOrder

/-- What is wrong with an order for a count of bytes. -/
inductive Defect where
  /-- The order has more or fewer bytes of text than there are bytes to move. -/
  | length (letters bytes : Nat)
  /-- A letter that names no position at all. -/
  | foreign (letter : Char)
  /-- A position that is named a second time. -/
  | repeated (letter : Char)
  /-- A position behind the last byte. -/
  | outside (letter : Char) (bytes : Nat)
  deriving DecidableEq, Repr

/-- The sentence that tells a person what is wrong with `order`. -/
def Defect.message (order : String) : Defect → String
  | length letters bytes =>
    "order `" ++ order ++ "` has " ++ toString letters ++ " letters for " ++ toString bytes ++
      " bytes"
  | foreign letter =>
    "`" ++ letter.toString ++ "` in `" ++ order ++ "` is not one of A to H"
  | repeated letter => "`" ++ letter.toString ++ "` appears twice in `" ++ order ++ "`"
  | outside letter bytes =>
    "`" ++ letter.toString ++ "` in `" ++ order ++ "` is outside " ++ toString bytes ++ " bytes"

/-- The position that a letter names. -/
def position? (letter : Char) : Option Nat :=
  if 'A' ≤ letter ∧ letter ≤ 'H' then some (letter.toNat - 'A'.toNat) else none

/-- The positions that the letters name, where `seen` holds those named before. -/
def positions (bytes : Nat) : List Char → List Nat → Except Defect (List Nat)
  | [], _ => .ok []
  | letter :: letters, seen =>
    match position? letter with
    | none => .error (.foreign letter)
    | some p =>
      if bytes ≤ p then .error (.outside letter bytes)
      else if p ∈ seen then .error (.repeated letter)
      else (positions bytes letters (p :: seen)).map (p :: ·)

/-- The bytes with each moved to the position beside it in `targets`. -/
def place (bytes : List UInt8) (targets : List Nat) : List UInt8 :=
  (bytes.zip targets).foldl (fun placed (b, p) => placed.set p b) (List.replicate bytes.length 0)

/-- The positions that the order names, if it names each of the bytes once. -/
def targets (bytes : Nat) (order : String) : Except Defect (List Nat) :=
  if order.utf8ByteSize = bytes then positions bytes order.toList []
  else .error (.length order.utf8ByteSize bytes)

end FieldLink.ByteOrder

namespace FieldLink

/-- Moves each byte to the position that the letter beside it names. -/
def reorder (bytes : List UInt8) (order : String) : Except LinkError (List UInt8) :=
  match ByteOrder.targets bytes.length order with
  | .ok targets => .ok (ByteOrder.place bytes targets)
  | .error defect => .error (.invalidByteOrder (defect.message order))

end FieldLink

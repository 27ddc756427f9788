import FieldLink.Numeric.Binary

/-!
# Numbers in text

Two grammars for a number that a person wrote down.

* `readInteger?`: an optional sign and decimal digits, of any count.
* `RealLiteral.read?`: an optional sign, then digits with an optional point among them and an
  optional power of ten, or the name of an infinity or of not-a-number in any case.

`RealLiteral.toDouble` is the double nearest to the number that a literal denotes.
-/

namespace FieldLink

/-- The number that decimal digits write down. -/
abbrev ofDigits (ds : List Char) : Nat := Nat.ofDigitChars 10 ds 0

/-- Whether a minus sign leads the characters, and what follows the sign, if there is one. -/
def splitSign : List Char → Bool × List Char
  | '-' :: cs => (true, cs)
  | '+' :: cs => (false, cs)
  | cs => (false, cs)

/-- The integer that an optional sign and one or more digits denote. -/
def readInteger? (cs : List Char) : Option Int :=
  let (negative, ds) := splitSign cs
  if ds.isEmpty || !ds.all Char.isDigit then none
  else some (if negative then -ofDigits ds else ofDigits ds)

/-- A real number as it is written down. -/
inductive RealLiteral where
  /-- A named infinity. -/
  | infinity (negative : Bool)
  /-- The name of what is not a number. -/
  | nan (negative : Bool)
  /-- The digits read as one integer, times a power of ten. -/
  | scaled (negative : Bool) (digits : List Char) (exponent : Int)
  deriving DecidableEq, Repr

namespace RealLiteral

/-- The exponent that follows the digits: nothing, or the letter `e` in either case and an
integer. -/
def readExponent? : List Char → Option Int
  | [] => some 0
  | c :: cs => if c = 'e' ∨ c = 'E' then readInteger? cs else none

/-- The unsigned part that is written with digits. -/
def readScaled? (negative : Bool) (cs : List Char) : Option RealLiteral :=
  let whole := cs.takeWhile Char.isDigit
  let afterWhole := cs.dropWhile Char.isDigit
  let afterPoint := match afterWhole with
    | '.' :: r => r
    | _ => []
  let fraction := afterPoint.takeWhile Char.isDigit
  let rest := match afterWhole with
    | '.' :: r => r.dropWhile Char.isDigit
    | r => r
  if whole.isEmpty && fraction.isEmpty then none
  else
    (readExponent? rest).map fun exponent =>
      scaled negative (whole ++ fraction) (exponent - fraction.length)

/-- The literal that the characters spell, if they do. -/
def read? (cs : List Char) : Option RealLiteral :=
  let (negative, rest) := splitSign cs
  let name := String.ofList (rest.map Char.toLower)
  if name = "inf" ∨ name = "infinity" then some (infinity negative)
  else if name = "nan" then some (nan negative)
  else readScaled? negative rest

/-- The double nearest to the number.  Digits that put it above `10 ^ 400` or below `10 ^ -400` are
not multiplied out: such numbers are infinite and zero in double precision. -/
def toDouble : RealLiteral → Double
  | infinity negative => .infinite negative
  | nan negative => .nan negative 0
  | scaled negative digits exponent =>
    let n := ofDigits digits
    if n = 0 then .ofRatio negative 0 1
    else if 400 < exponent then .infinite negative
    else if exponent + digits.length < -400 then .ofRatio negative 0 1
    else .ofRatio negative (n * Nat.pow 10 exponent.toNat) (Nat.pow 10 (-exponent).toNat)

end RealLiteral

end FieldLink

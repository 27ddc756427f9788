import FieldLink.Duration
import FieldLink.Error

/-!
# Framing of serial characters

A serial character is a start bit, its data bits, a parity bit unless there is none, and its stop
bits; each bit takes the time `1 s / baudRate`.  `Framing.transferTime` is the time that a count of
characters takes, cut to whole nanoseconds, for a framing that describes characters at all.
-/

namespace FieldLink

/-- The parity bit of each serial character. -/
inductive Parity where
  /-- No parity bit. -/
  | none
  | even
  | odd
  deriving DecidableEq, Repr

namespace Parity

/-- The letter that stands for a parity. -/
def letter : Parity → String
  | none => "N"
  | even => "E"
  | odd => "O"

/-- The word for a parity. -/
def word : Parity → String
  | none => "None"
  | even => "Even"
  | odd => "Odd"

/-- The parity that a letter or a word names. -/
def ofText (text : String) : Except LinkError Parity :=
  match [none, even, odd].find? fun p => p.letter == text || p.word == text with
  | some p => .ok p
  | .none =>
    .error (.invalidParameters ("parity must be one of N, E or O, got `" ++ text ++ "`"))

/-- The count of parity bits in a character. -/
def bits : Parity → Nat
  | none => 0
  | even | odd => 1

end Parity

/-- How characters are put on a serial line. -/
structure Framing where
  baudRate : UInt32 := 19200
  dataBits : UInt8 := 8
  stopBits : UInt8 := 1
  parity : Parity := .even
  deriving DecidableEq, Repr

namespace Framing

/-- What is said of a count of data bits that no character has. -/
def dataBitsProblem (n : UInt8) : String :=
  "data bits must be 5, 6, 7 or 8, got " ++ toString n.toNat

/-- What is said of a count of stop bits that no character has. -/
def stopBitsProblem (n : UInt8) : String :=
  "stop bits must be 1 or 2, got " ++ toString n.toNat

/-- Whether a character may have the framing's count of data bits. -/
def hasDataBits (f : Framing) : Bool := 5 ≤ f.dataBits && f.dataBits ≤ 8

/-- Whether a character may have the framing's count of stop bits. -/
def hasStopBits (f : Framing) : Bool := 1 ≤ f.stopBits && f.stopBits ≤ 2

/-- The bits of one character, from its start bit to its last stop bit. -/
def bitsPerCharacter (f : Framing) : Nat :=
  1 + f.dataBits.toNat + f.parity.bits + f.stopBits.toNat

/-- The product of two counts, if 128 bits hold it. -/
def product? (m n : Nat) : Option Nat := if m * n < 1 <<< 128 then some (m * n) else none

/-- The nanoseconds that a count of characters takes, cut to a whole number only after all products
are made, if they can be made. -/
def transferNanoseconds? (f : Framing) (characters : UInt64) : Option Nat := do
  let bits ← product? f.bitsPerCharacter characters.toNat
  let scaled ← product? bits 1_000_000_000
  pure (scaled / f.baudRate.toNat)

/-- The least time in which a count of characters moves over the line. -/
def transferTime (f : Framing) (characters : UInt64) : Except LinkError Duration :=
  if f.baudRate = 0 then .error (.invalidParameters "baud rate must be positive")
  else if !f.hasDataBits then .error (.invalidParameters (dataBitsProblem f.dataBits))
  else if !f.hasStopBits then .error (.invalidParameters (stopBitsProblem f.stopBits))
  else if characters = 0 then .error (.invalidParameters "packet size must be positive")
  else
    match (f.transferNanoseconds? characters).bind Duration.ofNanoseconds? with
    | some d => .ok d
    | none => .error .timeoutOverflow

end Framing

end FieldLink

/-!
# Bytes and frames

A `Frame` is the unit of bytes that a link carries; the library never looks inside one.  This file
holds the frame type, its spaced hexadecimal text, and the big-endian reading and writing of
natural numbers that registers are built from: `BigEndian.ofNat` writes a number into a given count
of bytes and drops what does not fit, `BigEndian.toNat` reads any count of bytes.
-/

namespace FieldLink

/-- One opaque unit of bytes on the wire. -/
abbrev Frame := List UInt8

/-- The digit that stands for a number below sixteen, in upper case. -/
def hexDigit (n : Nat) : Char :=
  if n < 10 then Char.ofNat (48 + n) else Char.ofNat (55 + n)

/-- A byte as two upper-case hexadecimal digits. -/
def hexByte (b : UInt8) : List Char :=
  [hexDigit (b.toNat / 16), hexDigit (b.toNat % 16)]

/-- The text of a frame: its bytes as two digits each, one blank between neighbours. -/
def Frame.hexText (frame : Frame) : String :=
  String.ofList ([' '].intercalate (frame.map hexByte))

namespace BigEndian

/-- The number that the bytes write down, the most significant byte first. -/
def toNat (bytes : List UInt8) : Nat :=
  bytes.foldl (fun n b => 256 * n + b.toNat) 0

/-- The `width` bytes of `n`, the most significant first; higher bytes are dropped. -/
def ofNat : Nat → Nat → List UInt8
  | 0, _ => []
  | width + 1, n => ofNat width (n / 256) ++ [UInt8.ofNat n]

/-- How many numbers there are that fit into `width` bytes. -/
def count : Nat → Nat
  | 0 => 1
  | width + 1 => 256 * count width

/-- The `width` bytes of an integer in two's complement. -/
def ofInt (width : Nat) (i : Int) : List UInt8 := ofNat width (i % count width).toNat

theorem length_ofNat (width n : Nat) : (ofNat width n).length = width := by
  induction width generalizing n with
  | zero => rfl
  | succ width ih => simp [ofNat, ih]

theorem toNat_append (bytes : List UInt8) (b : UInt8) :
    toNat (bytes ++ [b]) = 256 * toNat bytes + b.toNat := by
  simp [toNat]

/-- Reading what was written gives the number back, up to the bytes that were dropped. -/
theorem toNat_ofNat (width n : Nat) : toNat (ofNat width n) = n % count width := by
  induction width generalizing n with
  | zero => simp [ofNat, toNat, count, Nat.mod_one]
  | succ width ih =>
    have byte : (UInt8.ofNat n).toNat = n % 256 := by simp
    rw [ofNat, toNat_append, ih, byte, count, Nat.mod_mul, Nat.add_comm]

end BigEndian

end FieldLink

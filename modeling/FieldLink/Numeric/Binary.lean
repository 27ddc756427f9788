/-!
# Binary floating point

A number of a binary interchange format is a sign and a *magnitude*: the exponent and fraction
bits read as one natural number.  Magnitudes are in the order of the values that they stand for,
and each finite value is a whole number of *units*, the smallest positive value of the format, so
all arithmetic here is on naturals.

`BinaryFormat.units` gives the value of a magnitude, `BinaryFormat.floor` is the greatest magnitude whose value
does not exceed a given number of units, and `BinaryFormat.nearest` rounds a quotient: to the nearer of
two neighbouring magnitudes, and to the even one if both are equally near.  The magnitude of
infinity takes part in this as the next power of two, which is where values start to round to it.
-/

namespace FieldLink

/-- A binary interchange format, by the widths of its fraction and its exponent. -/
structure BinaryFormat where
  fractionBits : Nat
  exponentBits : Nat

namespace BinaryFormat

/-- The format of 32 bits. -/
def single : BinaryFormat := ⟨23, 8⟩

/-- The format of 64 bits. -/
def double : BinaryFormat := ⟨52, 11⟩

/-- How many fractions there are. -/
def fractions (f : BinaryFormat) : Nat := 1 <<< f.fractionBits

/-- How many exponents there are. -/
def exponents (f : BinaryFormat) : Nat := 1 <<< f.exponentBits

/-- How many magnitudes there are. -/
def magnitudes (f : BinaryFormat) : Nat := f.exponents * f.fractions

/-- The magnitude of infinity.  Smaller ones are finite, larger ones are not numbers. -/
def infinity (f : BinaryFormat) : Nat := (f.exponents - 1) * f.fractions

/-- How many units make up one. -/
def unitsPerOne (f : BinaryFormat) : Nat := f.fractions <<< (f.exponents / 2 - 2)

/-- The value of a magnitude, in units. -/
def units (f : BinaryFormat) (magnitude : Nat) : Nat :=
  if magnitude < f.fractions then magnitude
  else (f.fractions + magnitude % f.fractions) <<< (magnitude / f.fractions - 1)

/-- The greatest magnitude whose value is at most `u` units. -/
def floor (f : BinaryFormat) (u : Nat) : Nat :=
  if u < f.fractions then u
  else
    let shift := u.log2 - f.fractionBits
    shift * f.fractions + u >>> shift

/-- The magnitude whose value is nearest to `num / den`, the even one of two equally near. -/
def nearest (f : BinaryFormat) (num den : Nat) : Nat :=
  let scaled := num * f.unitsPerOne
  let below := f.floor (scaled / den)
  if f.infinity ≤ below then f.infinity
  else
    let middle := (f.units below + f.units (below + 1)) * den
    if 2 * scaled < middle then below
    else if middle < 2 * scaled then below + 1
    else if below % 2 = 0 then below else below + 1

theorem fractions_pos (f : BinaryFormat) : 0 < f.fractions := by
  rw [fractions, Nat.one_shiftLeft]
  exact Nat.two_pow_pos _

theorem exponents_pos (f : BinaryFormat) : 0 < f.exponents := by
  rw [exponents, Nat.one_shiftLeft]
  exact Nat.two_pow_pos _

theorem infinity_add (f : BinaryFormat) : f.infinity + f.fractions = f.magnitudes := by
  have := f.exponents_pos
  unfold infinity magnitudes
  rw [← Nat.succ_mul]
  congr 1
  omega

theorem infinity_lt (f : BinaryFormat) : f.infinity < f.magnitudes := by
  have := f.infinity_add
  have := f.fractions_pos
  omega

theorem nearest_le (f : BinaryFormat) (num den : Nat) : f.nearest num den ≤ f.infinity := by
  unfold nearest
  dsimp only
  split
  · exact Nat.le_refl _
  · split <;> try split <;> try split
    all_goals omega

end BinaryFormat

/-- A number of a binary interchange format, infinities and not-a-number patterns included. -/
structure Binary (f : BinaryFormat) where
  /-- The sign bit. -/
  negative : Bool
  /-- The exponent and fraction bits as one number. -/
  magnitude : Nat
  magnitude_lt : magnitude < f.magnitudes
  deriving DecidableEq

/-- A number of single precision. -/
abbrev Single := Binary .single

/-- A number of double precision. -/
abbrev Double := Binary .double

namespace Binary

variable {f : BinaryFormat}

/-- The number with the given pattern of bits; higher bits are dropped. -/
def ofBits (f : BinaryFormat) (bits : Nat) : Binary f where
  negative := bits / f.magnitudes % 2 = 1
  magnitude := bits % f.magnitudes
  magnitude_lt := Nat.mod_lt _ (Nat.lt_of_le_of_lt (Nat.zero_le _) f.infinity_lt)

/-- The pattern of bits of a number. -/
def toBits (x : Binary f) : Nat :=
  (if x.negative then f.magnitudes else 0) + x.magnitude

/-- Whether the pattern stands for no number at all. -/
def isNaN (x : Binary f) : Bool := f.infinity < x.magnitude

/-- Whether the number is one of the infinities. -/
def isInfinite (x : Binary f) : Bool := x.magnitude = f.infinity

/-- Whether the number is one of the two zeros. -/
def isZero (x : Binary f) : Bool := x.magnitude = 0

/-- Infinity with the given sign. -/
def infinite (negative : Bool) : Binary f := ⟨negative, f.infinity, f.infinity_lt⟩

/-- The quiet not-a-number pattern that carries `payload` below its quiet bit. -/
def nan (negative : Bool) (payload : Nat) : Binary f where
  negative := negative
  magnitude := f.infinity + (payload ||| f.fractions / 2) % f.fractions
  magnitude_lt := by
    rw [← f.infinity_add]
    exact Nat.add_lt_add_left (Nat.mod_lt _ f.fractions_pos) _

/-- The number nearest to the quotient `num / den` with the given sign. -/
def ofRatio (negative : Bool) (num den : Nat) : Binary f :=
  ⟨negative, f.nearest num den, Nat.lt_of_le_of_lt (f.nearest_le num den) f.infinity_lt⟩

/-- The number nearest to an integer.  Zero is positive. -/
def ofInt (i : Int) : Binary f := ofRatio (decide (i < 0)) i.natAbs 1

/-- The same number in another format, rounded to nearest if it has no exact form there.  What is
not a number stays so, and keeps its sign and the leading bits of its payload. -/
def convert {g : BinaryFormat} (x : Binary f) : Binary g :=
  if x.isNaN then
    nan x.negative ((x.magnitude - f.infinity) * g.fractions / f.fractions)
  else if x.isInfinite then infinite x.negative
  else ofRatio x.negative (f.units x.magnitude) f.unitsPerOne

/-- The integer that is left when the fraction of a finite number is cut off. -/
def truncate (x : Binary f) : Int :=
  let whole : Int := f.units x.magnitude / f.unitsPerOne
  if x.negative then -whole else whole

/-- The integer in `least … greatest` that a number is taken for: its fraction is cut off, what lies
outside goes to the nearer end, and what is not a number goes to zero. -/
def saturate (x : Binary f) (least greatest : Int) : Int :=
  if x.isNaN then 0
  else if x.isInfinite then if x.negative then least else greatest
  else max least (min greatest x.truncate)

end Binary

end FieldLink

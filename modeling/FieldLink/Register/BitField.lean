/-!
# Bit fields of a word

Bit 0 of a word of 64 bits is its lowest.  Bits at or beyond 64 read as zero and are not written,
so a field that runs over the end of the word keeps only its part inside.  Indices have 32 bits, and
counting on from an index stops at the last one.
-/

namespace FieldLink

/-- A word of registers. -/
abbrev Word := BitVec 64

namespace Word

/-- The index that is `offset` places behind `index`, or the last index. -/
def place (index offset : Nat) : Nat := min (index + offset) (UInt32.size - 1)

/-- The bit at `index`, as a word that is 0 or 1. -/
def bit (word : Word) (index : Nat) : Word := if word.getLsbD index then 1 else 0

/-- The word with the bit at `index` made equal to the lowest bit of `val`. -/
def setBit (word : Word) (index : Nat) (val : Word) : Word :=
  if 64 ≤ index then word
  else if val.getLsbD 0 then word ||| BitVec.twoPow 64 index
  else word &&& ~~~BitVec.twoPow 64 index

/-- The field of `len` bits that starts at `index`, moved down to bit 0. -/
def bits (word : Word) (index len : Nat) : Word :=
  (List.range (min len 64)).foldl
    (fun field offset => field ||| (word.bit (place index offset) <<< offset)) 0

/-- The word with the field of `len` bits that starts at `index` made equal to the lowest bits of
`val`.  Offsets of 64 and more would write behind the end of the word. -/
def setBits (word : Word) (index len : Nat) (val : Word) : Word :=
  (List.range (min len 64)).foldl
    (fun word offset => word.setBit (place index offset) (val.bit offset)) word

end Word

end FieldLink

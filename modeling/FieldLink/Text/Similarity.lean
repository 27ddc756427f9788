import FieldLink.Numeric.Binary

/-!
# Similar words

The similarity of two words by the characters that they share: a character matches an equal one of
the other word that is not too far away and not matched before, and matched characters that stand in
another order count less.  The similarity is the mean of three shares, each between none and all:
the matched characters in either word, and the matched characters in the same order.  It is worked
out in double precision, and what each step rounds decides on a word that stands at the limit.
-/

namespace FieldLink.Text

/-- Marks the first unmarked character of the word that equals `c` and stands at a place from `low`
up to but not including `high`, where the word starts at `place`. -/
def claim (c : Char) (low high : Nat) : Nat → List (Char × Bool) → Option (List (Char × Bool))
  | _, [] => none
  | place, (d, marked) :: rest =>
    if low ≤ place ∧ place < high ∧ c = d ∧ marked = false then some ((d, true) :: rest)
    else (claim c low high (place + 1) rest).map ((d, marked) :: ·)

/-- The characters of a word that match, in order, and the other word with its matches marked.  A
match is at most `reach` places away. -/
def claimAll (reach : Nat) : Nat → List Char → List (Char × Bool) → List Char × List (Char × Bool)
  | _, [], other => ([], other)
  | place, c :: cs, other =>
    match claim c (place - reach) (place + reach + 1) 0 other with
    | some other =>
      let (matched, other) := claimAll reach (place + 1) cs other
      (c :: matched, other)
    | none => claimAll reach (place + 1) cs other

/-- The sum of two numbers that are not negative. -/
def plus (x y : Double) : Double :=
  .ofRatio false (BinaryFormat.double.units x.magnitude + BinaryFormat.double.units y.magnitude)
    BinaryFormat.double.unitsPerOne

/-- A third of a number that is not negative. -/
def third (x : Double) : Double :=
  .ofRatio false (BinaryFormat.double.units x.magnitude) (3 * BinaryFormat.double.unitsPerOne)

/-- The similarity of two words. -/
def similarity (a b : String) : Double :=
  let m := a.toList.length
  let n := b.toList.length
  let (matched, other) := claimAll (max m n / 2 - 1) 0 a.toList (b.toList.map (·, false))
  let inOther := (other.filter (·.2)).map (·.1)
  let k := matched.length
  let moved := ((matched.zip inOther).filter fun (c, d) => c ≠ d).length / 2
  if k = 0 then .ofRatio false 0 1
  else third (plus (plus (.ofRatio false k m) (.ofRatio false k n)) (.ofRatio false (k - moved) k))

/-- Whether the similarity of two words is above seven tenths. -/
def areSimilar (a b : String) : Bool :=
  let limit : Double := .ofRatio false 7 10
  limit.magnitude < (similarity a b).magnitude

end FieldLink.Text

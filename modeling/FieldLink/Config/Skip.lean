import FieldLink.Config.Scan

/-!
# Values that are passed over

A configuration may give a value to a field that nobody knows.  The value is passed over, but it
must be well-formed: a number, text, a character, a list, a map, a group in parentheses with or
without names, a bare name, or an option.  Values may be nested to a limited depth; each list and
group takes one level, and so does each of its items.
-/

namespace FieldLink.Config

/-! ## Numbers of any kind -/

/-- The characters of a number with a point or an exponent. -/
def isRealPart (c : Char) : Bool :=
  c.isDigit || c = 'e' || c = 'E' || c = '.' || c = '+' || c = '-' || c = '_'

/-- What follows a number with a point or an exponent, or the name of a number.  Underscores end no
such number but have no place in it either: with one among its characters it is no number. -/
def skipReal (cs : List Char) : Option (List Char) :=
  match ["inf", "+inf", "-inf", "NaN", "+NaN", "-NaN"].findSome? (skipKeyword · cs) with
  | some rest => some rest
  | none =>
    if (RealLiteral.read? (cs.takeWhile isRealPart)).isSome then some (cs.dropWhile isRealPart)
    else none

/-- What follows a whole number that fits into 64 bits, with its sign if it has one. -/
def skipInteger : List Char → Option (List Char)
  | '+' :: cs => (readNatural (UInt64.size / 2) cs).map (·.2)
  | '-' :: cs => (readNatural (UInt64.size / 2 + 1) cs).map (·.2)
  | cs => (readNatural UInt64.size cs).map (·.2)

/-- What follows a number.  It is read as a whole number if nothing in it speaks against that, and
with a point or an exponent if that fails. -/
def skipNumber (cs : List Char) : Option (List Char) :=
  let unsigned := if startsWith (fun c => c = '+' || c = '-') cs then cs.tail else cs
  if (unsigned.takeWhile isNumberPart).length < (unsigned.takeWhile isRealPart).length then
    skipReal cs
  else (skipInteger cs).or (skipReal cs)

/-! ## Values -/

/-- Whether the items of a group, behind its opening parenthesis, have names. -/
def isNamed (cs : List Char) : Option Bool :=
  match readName cs with
  | none => some false
  | some (_, rest) => do
    match ← skipBlank rest with
    | [] => none
    | c :: _ => some (c = ':')

/-- An item that two scans pass over, with a colon between them. -/
def skipPair (key value : List Char → Option (List Char)) (cs : List Char) :
    Option (List Char) := do
  let cs ← key cs
  let cs ← skipBlank cs
  let cs ← skipMark ":" cs
  value cs

/-- A value of any kind.  The fuel is a count of characters that the text does not exceed, and
`depth` is the count of levels that are left. -/
def skipValue : Nat → Nat → List Char → Option (List Char)
  | 0, _, _ => none
  | fuel + 1, depth, cs =>
    let inner : List Char → Option (List Char) :=
      fun cs => if depth < 2 then none else skipValue fuel (depth - 2) cs
    let items (close : Char) (item : List Char → Option (List Char)) (cs : List Char) :
        Option (List Char) :=
      if depth = 0 then none
      else (readItems close (fun cs => (item cs).map ((), ·)) fuel true cs).map (·.2)
    let group (cs : List Char) : Option (List Char) := do
      let cs ← skipBlank cs
      if ← isNamed cs then
        items ')' (skipPair (fun cs => (readName cs).map (·.2)) inner) cs
      else items ')' inner cs
    let content : List Char → Option (List Char) :=
      fun cs => if depth = 0 then none else skipValue fuel (depth - 1) cs
    match ["true", "false", "None", "inf", "-inf", "NaN"].findSome? (skipKeyword · cs) with
    | some rest => some rest
    | none =>
      match skipKeyword "Some" cs with
      | some rest => do
        match ← skipBlank rest with
        | '(' :: rest => do
          let rest ← content (← skipBlank rest)
          let (_, rest) ← readComma rest
          skipWord ")" rest
        | rest => content rest
      | none =>
        match skipWord "()" cs, readName cs with
        | some rest, _ => some rest
        | none, some (_, rest) => do
          match ← skipBlank rest with
          | '(' :: rest => group rest
          | rest => some rest
        | none, none =>
          match cs with
          | '(' :: rest => group rest
          | '[' :: rest => items ']' inner rest
          | '\x7b' :: rest => items '\x7d' (skipPair inner inner) rest
          | '"' :: _ | 'r' :: _ => (readText cs).map (·.2)
          | '\'' :: _ => (readChar cs).map (·.2)
          | '.' :: _ => skipReal cs
          | _ =>
            if startsWith (fun c => c.isDigit || c = '+' || c = '-') cs then skipNumber cs
            else none

end FieldLink.Config

import FieldLink.Numeric.Literal

/-!
# Words of a configuration's text

A `Scan` takes a word off the front of the characters and leaves the rest; it gives nothing if no
such word is there.  This file holds the words: blanks and comments, names, numbers, truth values,
quoted and raw text, and lists of items between brackets.

`readItems` reads items up to a closing bracket, with a comma between neighbours and perhaps one
behind the last.  Its fuel is a count of items that the text cannot exceed, such as its length.
-/

namespace FieldLink.Config

/-- Takes a word off the front of the characters. -/
abbrev Scan (α : Type) := List Char → Option (α × List Char)

/-! ## Blanks -/

/-- The blank characters. -/
def isSpace (c : Char) : Bool := c = ' ' || c = '\t' || c = '\n' || c = '\r'

/-- Where in blanks the characters stand: between comments, in one that ends with its line, or in
one that is closed, inside `depth` others. -/
inductive BlankState where
  | between
  | line
  | block (depth : Nat)

/-- What follows the blanks and comments. -/
def skipBlankFrom : BlankState → List Char → Option (List Char)
  | .between, [] => some []
  | .between, '/' :: '/' :: cs => skipBlankFrom .line cs
  | .between, '/' :: '*' :: cs => skipBlankFrom (.block 0) cs
  | .between, '/' :: _ => none
  | .between, c :: cs => if isSpace c then skipBlankFrom .between cs else some (c :: cs)
  | .line, [] => some []
  | .line, c :: cs => skipBlankFrom (if c = '\n' then .between else .line) cs
  | .block _, [] => none
  | .block 0, '*' :: '/' :: cs => skipBlankFrom .between cs
  | .block (n + 1), '*' :: '/' :: cs => skipBlankFrom (.block n) cs
  | .block n, '/' :: '*' :: cs => skipBlankFrom (.block (n + 1)) cs
  | .block n, _ :: cs => skipBlankFrom (.block n) cs

/-- What follows the blanks and comments at the front. -/
def skipBlank (cs : List Char) : Option (List Char) := skipBlankFrom .between cs

/-- Whether there is a comma, with blanks around it. -/
def readComma : Scan Bool := fun cs => do
  match ← skipBlank cs with
  | ',' :: rest => return (true, ← skipBlank rest)
  | rest => return (false, rest)

/-- What follows the given characters. -/
def skipChars : List Char → List Char → Option (List Char)
  | [], cs => some cs
  | _ :: _, [] => none
  | w :: ws, c :: cs => if w = c then skipChars ws cs else none

/-- What follows the given word. -/
def skipWord (word : String) (cs : List Char) : Option (List Char) := skipChars word.toList cs

/-- What follows the given characters and the blanks behind them. -/
def skipMark (mark : String) (cs : List Char) : Option (List Char) :=
  skipWord mark cs >>= skipBlank

/-- Items up to the closing character, which is taken off as well.  An item must follow a comma or
stand first. -/
def readItems {α : Type} (close : Char) (item : Scan α) : Nat → Bool → Scan (List α)
  | 0, _, _ => none
  | fuel + 1, mayFollow, cs => do
    match ← skipBlank cs with
    | [] => none
    | c :: rest =>
      if c = close then some ([], rest)
      else if mayFollow then do
        let (a, rest) ← item (c :: rest)
        let (comma, rest) ← readComma rest
        let (as, rest) ← readItems close item fuel comma rest
        some (a :: as, rest)
      else none

/-! ## Names -/

/-- The characters that a name starts with. -/
def isNameStart (c : Char) : Bool := c.isAlpha || c = '_'

/-- The characters of a name. -/
def isNamePart (c : Char) : Bool := c.isAlphanum || c = '_'

/-- The characters of a name that is marked as raw. -/
def isRawPart (c : Char) : Bool := isNamePart c || c = '.' || c = '+' || c = '-'

/-- Whether the first character is of a kind. -/
def startsWith (kind : Char → Bool) (cs : List Char) : Bool := cs.head?.any kind

/-- A name.  It must not run into characters that only a raw name has. -/
def readName : Scan String
  | ['r'] => none
  | 'r' :: '"' :: _ => none
  | 'r' :: '#' :: cs =>
    if startsWith isRawPart cs then
      some (String.ofList (cs.takeWhile isRawPart), cs.dropWhile isRawPart)
    else none
  | cs =>
    let rest := cs.dropWhile isNamePart
    if startsWith isNameStart cs && !startsWith isRawPart rest then
      some (String.ofList (cs.takeWhile isNamePart), rest)
    else none

/-- What follows the given word, which no further part of a name must follow. -/
def skipKeyword (word : String) (cs : List Char) : Option (List Char) :=
  (skipWord word cs).filter fun rest => !startsWith isNamePart rest

/-! ## Numbers and truth values -/

/-- The value of a hexadecimal digit. -/
def digitValue? (c : Char) : Option Nat :=
  if c.isDigit then some (c.toNat - '0'.toNat)
  else if 'a' ≤ c ∧ c ≤ 'f' then some (c.toNat - 'a'.toNat + 10)
  else if 'A' ≤ c ∧ c ≤ 'F' then some (c.toNat - 'A'.toNat + 10)
  else none

/-- The number that digits of a base write down. -/
def ofDigitsIn? (base : Nat) (ds : List Char) : Option Nat :=
  ds.foldlM
    (fun n c => do
      let d ← digitValue? c
      if d < base then some (base * n + d) else none) 0

/-- The characters of a whole number behind the mark of its base. -/
def isNumberPart (c : Char) : Bool := (digitValue? c).isSome || c = '_'

/-- The base that the front of a number names, and what follows. -/
def readBase : List Char → Nat × List Char
  | '0' :: 'x' :: cs => (16, cs)
  | '0' :: 'o' :: cs => (8, cs)
  | '0' :: 'b' :: cs => (2, cs)
  | cs => (10, cs)

/-- A whole number below `bound`.  Underscores may stand anywhere but first. -/
def readNatural (bound : Nat) : Scan Nat := fun cs =>
  let (base, cs) := readBase cs
  let digits := cs.takeWhile isNumberPart
  if digits = [] ∨ digits.head? = some '_' then none
  else
    match ofDigitsIn? base (digits.filter (· ≠ '_')) with
    | some n => if n < bound then some (n, cs.dropWhile isNumberPart) else none
    | none => none

/-- A truth value. -/
def readBool : Scan Bool := fun cs =>
  match skipWord "true" cs with
  | some rest => some (true, rest)
  | none => (skipWord "false" cs).map (false, ·)

/-! ## Text -/

/-- The character with the given code point, if there is one. -/
def charOf? (n : Nat) : Option Char := if n.isValidChar then some (Char.ofNat n) else none

/-- The rest of an escape, behind its backslash. -/
def readEscape : Scan Char
  | '\'' :: cs => some ('\'', cs)
  | '"' :: cs => some ('"', cs)
  | '\\' :: cs => some ('\\', cs)
  | 'n' :: cs => some ('\n', cs)
  | 'r' :: cs => some ('\r', cs)
  | 't' :: cs => some ('\t', cs)
  | '0' :: cs => some ('\x00', cs)
  | 'x' :: a :: b :: cs => do
    let n ← ofDigitsIn? 16 [a, b]
    some (Char.ofNat n, cs)
  | 'u' :: '\x7b' :: cs =>
    let digits := cs.takeWhile (· ≠ '\x7d')
    match cs.dropWhile (· ≠ '\x7d') with
    | '\x7d' :: rest =>
      if digits.length = 0 ∨ 6 < digits.length then none
      else do
        let n ← ofDigitsIn? 16 digits
        let c ← charOf? n
        some (c, rest)
    | _ => none
  | _ => none

/-- Text behind its opening quote, up to the closing one.  The fuel is its count of characters. -/
def readQuoted : Nat → Scan (List Char)
  | 0, _ => none
  | _ + 1, [] => none
  | _ + 1, '"' :: cs => some ([], cs)
  | fuel + 1, '\\' :: cs => do
    let (c, cs) ← readEscape cs
    let (text, cs) ← readQuoted fuel cs
    some (c :: text, cs)
  | fuel + 1, c :: cs => do
    let (text, cs) ← readQuoted fuel cs
    some (c :: text, cs)

/-- Characters as they are, up to the given ending. -/
def readUntil (ending : List Char) : Scan (List Char)
  | [] => none
  | c :: cs =>
    match skipChars ending (c :: cs) with
    | some rest => some ([], rest)
    | none => do
      let (text, rest) ← readUntil ending cs
      some (c :: text, rest)

/-- Text between quotes, or raw text: between quotes with equally many number signs outside. -/
def readText : Scan String
  | '"' :: cs => (readQuoted (cs.length + 1) cs).map fun (text, rest) => (String.ofList text, rest)
  | 'r' :: cs =>
    let signs := cs.takeWhile (· = '#')
    match cs.dropWhile (· = '#') with
    | '"' :: cs => (readUntil ('"' :: signs) cs).map fun (text, rest) => (String.ofList text, rest)
    | _ => none
  | _ => none

/-- One character between single quotes. -/
def readChar : Scan Char
  | '\'' :: '\\' :: cs => do
    let (c, cs) ← readEscape cs
    match cs with
    | '\'' :: rest => some (c, rest)
    | _ => none
  | '\'' :: c :: '\'' :: rest => if c = '\'' then none else some (c, rest)
  | _ => none

end FieldLink.Config

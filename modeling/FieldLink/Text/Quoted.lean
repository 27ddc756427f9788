import FieldLink.Text.Seen

/-!
# Quoted text

How text stands between double quotes so that each character of it is seen: some characters have an
escape of their own, and one that is not seen on its own is written as its code point in
hexadecimal digits between braces.
-/

namespace FieldLink.Text

/-- The escape of a character by its code point. -/
def codePointEscape (c : Char) : List Char :=
  ['\\', 'u', '\x7b'] ++ Nat.toDigits 16 c.toNat ++ ['\x7d']

/-- A character as it stands in quoted text.  A single quote is escaped only if asked for. -/
def escapeChar (singleQuote : Bool) (c : Char) : List Char :=
  if c = '\x00' then ['\\', '0']
  else if c = '\t' then ['\\', 't']
  else if c = '\r' then ['\\', 'r']
  else if c = '\n' then ['\\', 'n']
  else if c = '\\' ∨ c = '"' then ['\\', c]
  else if c = '\'' ∧ singleQuote then ['\\', c]
  else if isSeen c then [c]
  else codePointEscape c

/-- Text between double quotes. -/
def quote (singleQuote : Bool) (text : String) : List Char :=
  ['"'] ++ text.toList.flatMap (escapeChar singleQuote) ++ ['"']

/-- A list of texts: each quoted, with single quotes as they are, between brackets. -/
def quoteList (texts : List String) : String :=
  String.ofList (['['] ++ [',', ' '].intercalate (texts.map (quote false)) ++ [']'])

end FieldLink.Text

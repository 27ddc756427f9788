import FieldLink.Numeric.Literal
import FieldLink.Text.Blank
import Mathlib.Data.List.Basic
import Mathlib.Data.List.TakeWhile

/-!
# Integers in text

An integer in text is a sign, if there is one, and decimal digits, with blanks at either end.  Both
grammars for numbers take it: the one for integers gives its value (`readInteger?_chars`), and the one
for reals gives the same digits with no power of ten (`read?_chars`), whose double is that of the
value unless the value is zero (`toDouble_scaled`).
-/

namespace FieldLink

/-- The sign that an integer is written with. -/
inductive Sign where
  | absent
  | plus
  | minus
  deriving DecidableEq

namespace Sign

/-- The characters of a sign. -/
def chars : Sign → List Char
  | absent => []
  | plus => ['+']
  | minus => ['-']

/-- Whether a sign makes what follows negative. -/
def isMinus (s : Sign) : Bool := s = minus

end Sign

/-- A text that is a decimal integer, of any length and with any blanks around it. -/
structure IntegerText where
  before : List Char
  sign : Sign
  digits : List Char
  after : List Char
  isBlank_before : ∀ c ∈ before, Text.isBlank c
  isDigit : ∀ c ∈ digits, c.isDigit
  digits_ne_nil : digits ≠ []
  isBlank_after : ∀ c ∈ after, Text.isBlank c

namespace IntegerText

/-- The characters between the blanks. -/
def chars (s : IntegerText) : List Char := s.sign.chars ++ s.digits

/-- The whole text. -/
def text (s : IntegerText) : String := String.ofList (s.before ++ s.chars ++ s.after)

/-- The integer that the text denotes. -/
def value (s : IntegerText) : Int :=
  if s.sign.isMinus then -ofDigits s.digits else ofDigits s.digits

end IntegerText

/-! ## Blanks -/

namespace Text

theorem dropWhile_isBlank {blanks cs : List Char} (blank : ∀ c ∈ blanks, isBlank c)
    (solid : ∀ c, cs.head? = some c → isBlank c = false) :
    (blanks ++ cs).dropWhile isBlank = cs := by
  rw [List.dropWhile_append_of_pos blank]
  cases cs with
  | nil => rfl
  | cons c cs => rw [List.dropWhile_cons_of_neg (by simp [solid c rfl])]

/-- Blanks around characters that are none are cut off. -/
theorem trim_append {before cs after : List Char} (blank : ∀ c ∈ before, isBlank c)
    (some_chars : cs ≠ []) (solid : ∀ c ∈ cs, isBlank c = false)
    (blank' : ∀ c ∈ after, isBlank c) : trim (before ++ cs ++ after) = cs := by
  have first : ∀ c, (cs ++ after).head? = some c → isBlank c = false := by
    intro c head
    rw [List.head?_append_of_ne_nil _ some_chars] at head
    exact solid c (List.mem_of_head? head)
  have last : ∀ c, cs.reverse.head? = some c → isBlank c = false := fun c head =>
    solid c (List.mem_reverse.1 (List.mem_of_head? head))
  have behind : ∀ c ∈ after.reverse, isBlank c := fun c mem => blank' c (List.mem_reverse.1 mem)
  rw [trim, List.append_assoc, dropWhile_isBlank blank first, List.reverse_append,
    dropWhile_isBlank behind last, List.reverse_reverse]

end Text

/-! ## Digits -/

variable {c : Char} {ds : List Char}

theorem toNat_of_isDigit (digit : c.isDigit) : 48 ≤ c.toNat ∧ c.toNat ≤ 57 := by
  simp only [Char.isDigit, Bool.and_eq_true, decide_eq_true_eq] at digit
  exact digit

theorem isBlank_of_isDigit (digit : c.isDigit) : Text.isBlank c = false := by
  have bounds := toNat_of_isDigit digit
  simp [Text.isBlank]
  omega

theorem toLower_of_isDigit (digit : c.isDigit) : c.toLower = c := by
  have bounds := toNat_of_isDigit digit
  have lower : ¬(c.val ≥ 'A'.val ∧ c.val ≤ 'Z'.val) := by
    rintro ⟨least, -⟩
    have least : 65 ≤ c.toNat := least
    omega
  exact dif_neg lower

/-- Digits spell no name. -/
theorem ofList_digits_ne {name : String} (digits : ∀ c ∈ ds, c.isDigit) (letter : c ∈ name.toList)
    (other : c.isDigit = false) : String.ofList ds ≠ name := by
  rintro rfl
  rw [String.toList_ofList] at letter
  rw [digits c letter] at other
  cases other

theorem splitSign_digits (digits : ∀ c ∈ ds, c.isDigit) : splitSign ds = (false, ds) := by
  unfold splitSign
  split
  · exact absurd (digits _ List.mem_cons_self) (by decide)
  · exact absurd (digits _ List.mem_cons_self) (by decide)
  · rfl

theorem Sign.isBlank_of_mem {s : Sign} (mem : c ∈ s.chars) : Text.isBlank c = false := by
  cases s with
  | absent => cases mem
  | plus =>
    obtain rfl := List.mem_singleton.1 mem
    decide
  | minus =>
    obtain rfl := List.mem_singleton.1 mem
    decide

namespace IntegerText

theorem splitSign_chars (s : IntegerText) : splitSign s.chars = (s.sign.isMinus, s.digits) := by
  rw [chars]
  cases s.sign with
  | absent => exact splitSign_digits s.isDigit
  | plus => rfl
  | minus => rfl

/-- The integer that is read is the value. -/
theorem readInteger?_chars (s : IntegerText) : readInteger? s.chars = some s.value := by
  have some_digits : s.digits.isEmpty = false := List.isEmpty_eq_false_iff.2 s.digits_ne_nil
  have all : s.digits.all Char.isDigit = true := List.all_eq_true.2 s.isDigit
  simp [readInteger?, s.splitSign_chars, some_digits, all, value]

/-- Without a point and a power of ten, a real number is its digits. -/
theorem readScaled?_digits (digits : ∀ c ∈ ds, c.isDigit) (some_digits : ds ≠ []) (negative : Bool) :
    RealLiteral.readScaled? negative ds = some (.scaled negative ds 0) := by
  have whole : ds.takeWhile Char.isDigit = ds := List.takeWhile_eq_self_iff.2 digits
  have rest : ds.dropWhile Char.isDigit = [] := List.dropWhile_eq_nil_iff.2 digits
  simp [RealLiteral.readScaled?, whole, rest, some_digits, RealLiteral.readExponent?]

/-- The real number that is read has the same digits. -/
theorem read?_chars (s : IntegerText) :
    RealLiteral.read? s.chars = some (.scaled s.sign.isMinus s.digits 0) := by
  have lower : s.digits.map Char.toLower = s.digits :=
    (List.map_congr_left fun c mem => toLower_of_isDigit (s.isDigit c mem)).trans (List.map_id _)
  have unnamed : ∀ name : String, 'n' ∈ name.toList → String.ofList s.digits ≠ name :=
    fun name letter => ofList_digits_ne s.isDigit letter (by decide)
  simp only [RealLiteral.read?, s.splitSign_chars, lower, unnamed "inf" (by decide),
    unnamed "infinity" (by decide), unnamed "nan" (by decide), or_self, if_false]
  exact readScaled?_digits s.isDigit s.digits_ne_nil _

/-- Read as a real number, a text takes the double that is nearest to its value. -/
theorem toDouble_scaled (s : IntegerText) (nonzero : s.value ≠ 0) :
    (RealLiteral.scaled s.sign.isMinus s.digits 0).toDouble = Binary.ofInt s.value := by
  have some_value : ofDigits s.digits ≠ 0 := by
    intro zero
    apply nonzero
    simp [value, zero]
  have near : ¬((0 : Int) + s.digits.length < -400) := by omega
  unfold RealLiteral.toDouble
  simp only [some_value, if_false, near, Int.toNat_zero]
  rw [value, Binary.ofInt]
  cases s.sign.isMinus with
  | false =>
    have nonneg : ¬(ofDigits s.digits : Int) < 0 := by omega
    simp [nonneg]
  | true => simp [Nat.pos_iff_ne_zero, some_value]

theorem trim_toList_text (s : IntegerText) : Text.trim s.text.toList = s.chars := by
  rw [text, String.toList_ofList]
  refine Text.trim_append s.isBlank_before ?_ ?_ s.isBlank_after
  · exact List.append_ne_nil_of_right_ne_nil _ s.digits_ne_nil
  · intro c mem
    rcases List.mem_append.1 mem with sign | digit
    · exact s.sign.isBlank_of_mem sign
    · exact isBlank_of_isDigit (s.isDigit c digit)

end IntegerText

end FieldLink

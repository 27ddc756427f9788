import FieldLink.Config.Printer
import FieldLink.Config.Reader
import Mathlib.Data.List.Basic

/-!
# Words that are read as they are written

In a written configuration each value is followed by a comma, and `Reads scan word a` says that
`scan` then takes the value `a` off the front and stops at that comma.  This file gives the law for
the words without parts: numbers, truth values, the names of parities, and quoted text.
-/

namespace FieldLink.Config

/-! ## Blanks -/

/-- Whether a character ends a run of blanks: it is no blank and starts no comment. -/
def isSolid (c : Char) : Bool := !isSpace c && c ≠ '/'

/-- Whether a character can be the first of a value. -/
def isOpening (c : Char) : Bool := isSolid c && c ≠ ')' && c ≠ ']'

variable {α β : Type}

theorem exists_cons_of_startsWith {kind : Char → Bool} {cs : List Char}
    (start : startsWith kind cs = true) : ∃ c rest, cs = c :: rest ∧ kind c = true := by
  cases cs with
  | nil => cases start
  | cons c rest => exact ⟨c, rest, rfl, start⟩

theorem startsWith_append {kind : Char → Bool} {cs : List Char} (start : startsWith kind cs = true)
    (rest : List Char) : startsWith kind (cs ++ rest) = true := by
  obtain ⟨c, cs, rfl, at_front⟩ := exists_cons_of_startsWith start
  exact at_front

theorem startsWith_mono {kind kind' : Char → Bool} {cs : List Char}
    (start : startsWith kind cs = true) (mono : ∀ c, kind c = true → kind' c = true) :
    startsWith kind' cs = true := by
  obtain ⟨c, cs, rfl, at_front⟩ := exists_cons_of_startsWith start
  exact mono c at_front

/-- Characters of a kind are taken up to the first that is not of it. -/
theorem takeWhile_dropWhile_append {kind : Char → Bool} {cs : List Char}
    (inside : ∀ c ∈ cs, kind c = true) {stop : Char} (ends : kind stop = false)
    (rest : List Char) :
    (cs ++ stop :: rest).takeWhile kind = cs ∧
      (cs ++ stop :: rest).dropWhile kind = stop :: rest := by
  rw [List.takeWhile_append_of_pos inside, List.dropWhile_append_of_pos inside,
    List.takeWhile_cons_of_neg (by simp [ends]), List.dropWhile_cons_of_neg (by simp [ends]),
    List.append_nil]
  exact ⟨rfl, rfl⟩

theorem isSolid_of_isOpening {c : Char} (opening : isOpening c = true) : isSolid c = true := by
  simp only [isOpening, Bool.and_eq_true] at opening
  exact opening.1.1

theorem skipBlank_cons {c : Char} (solid : isSolid c = true) (cs : List Char) :
    skipBlank (c :: cs) = some (c :: cs) := by
  simp only [isSolid, Bool.and_eq_true, Bool.not_eq_true', ne_eq, decide_not,
    decide_eq_false_iff_not] at solid
  obtain ⟨no_space, no_comment⟩ := solid
  rw [skipBlank, skipBlankFrom]
  · simp [no_space]
  all_goals simp_all

theorem skipBlank_of_startsWith {cs : List Char} (solid : startsWith isSolid cs = true) :
    skipBlank cs = some cs := by
  obtain ⟨c, cs, rfl, at_front⟩ := exists_cons_of_startsWith solid
  exact skipBlank_cons at_front cs

theorem skipBlank_space {c : Char} (space : isSpace c = true) (cs : List Char) :
    skipBlank (c :: cs) = skipBlank cs := by
  have no_comment : c ≠ '/' := by
    rintro rfl
    cases space
  rw [skipBlank, skipBlankFrom]
  · simp [space, skipBlank]
  all_goals simp_all

theorem skipBlank_newLine (level : Nat) (cs : List Char) :
    skipBlank (newLine level ++ cs) = skipBlank cs := by
  rw [newLine, List.cons_append, skipBlank_space (by decide)]
  induction 4 * level with
  | zero => rfl
  | succ n ih => rw [List.replicate_succ, List.cons_append, skipBlank_space (by decide), ih]

/-! ## The law -/

/-- A scan takes a value off the front of a word that a comma follows, and the value does not look
like the end of a list. -/
structure Reads (scan : Scan α) (word : List Char) (a : α) : Prop where
  opening : startsWith isOpening word = true
  before_comma (rest : List Char) : scan (word ++ ',' :: rest) = some (a, ',' :: rest)

theorem Reads.solid {scan : Scan α} {word : List Char} {a : α} (reads : Reads scan word a)
    (rest : List Char) : startsWith isSolid (word ++ rest) = true :=
  startsWith_append (startsWith_mono reads.opening fun _ => isSolid_of_isOpening) rest

theorem Reads.map {scan : Scan α} {word : List Char} {a : α} (reads : Reads scan word a)
    (f : α → β) : Reads (scan.map f) word (f a) where
  opening := reads.opening
  before_comma rest := by rw [Scan.map, reads.before_comma, Option.map_some]

theorem Reads.filterMap {scan : Scan α} {word : List Char} {a : α} {b : β}
    (reads : Reads scan word a) {f : α → Option β} (made : f a = some b) :
    Reads (scan.filterMap f) word b where
  opening := reads.opening
  before_comma rest := by simp [Scan.filterMap, reads.before_comma, made]

/-! ## Names -/

/-- Whether characters make up a name that needs no mark. -/
def isName (cs : List Char) : Bool := startsWith isNameStart cs && cs.all isNamePart

theorem isNamePart_of_isNameStart {c : Char} (start : isNameStart c = true) :
    isNamePart c = true := by
  simp only [isNameStart, isNamePart, Char.isAlphanum, Bool.or_eq_true, decide_eq_true_eq] at *
  tauto

theorem isOpening_of_isNamePart {c : Char} (part : isNamePart c = true) : isOpening c = true := by
  simp only [isOpening, isSolid, isSpace, Bool.and_eq_true, Bool.not_eq_true', Bool.or_eq_false_iff,
    decide_eq_true_eq, decide_eq_false_iff_not]
  refine ⟨⟨⟨⟨⟨⟨?_, ?_⟩, ?_⟩, ?_⟩, ?_⟩, ?_⟩, ?_⟩ <;> rintro rfl <;> cases part

/-- A name is read up to a character that no name has. -/
theorem readName_append {name : List Char} (is_name : isName name = true) {c : Char}
    (ends : isRawPart c = false) (other : c ≠ '"' ∧ c ≠ '#') (rest : List Char) :
    readName (name ++ c :: rest) = some (String.ofList name, c :: rest) := by
  rw [isName, Bool.and_eq_true, List.all_eq_true] at is_name
  obtain ⟨start, parts⟩ := is_name
  have part_ends : isNamePart c = false := by
    simp only [isRawPart, Bool.or_eq_false_iff] at ends
    exact ends.1.1.1
  obtain ⟨taken, left⟩ := takeWhile_dropWhile_append parts part_ends rest
  have plain : startsWith isRawPart (c :: rest) = false := ends
  -- Neither mark of a raw name or text stands behind a leading `r`.
  have second : ∀ d tail, name ++ c :: rest = 'r' :: d :: tail → d ≠ '"' ∧ d ≠ '#' := by
    intro d tail same
    obtain ⟨a, name, rfl, -⟩ := exists_cons_of_startsWith start
    cases name with
    | nil =>
      obtain ⟨-, rfl, -⟩ : a = 'r' ∧ c = d ∧ rest = tail := by simpa using same
      exact other
    | cons b name =>
      obtain ⟨-, rfl, -⟩ : a = 'r' ∧ b = d ∧ name ++ c :: rest = tail := by simpa using same
      have part : isNamePart b = true := parts b (by simp)
      constructor <;> rintro rfl <;> cases part
  unfold readName
  split
  · next same =>
    have length := congrArg List.length same
    obtain ⟨a, name, rfl, -⟩ := exists_cons_of_startsWith start
    simp at length
  · next same => exact absurd rfl (second _ _ same).1
  · next same => exact absurd rfl (second _ _ same).2
  · rw [taken, left]
    simp [startsWith_append start, plain]

/-! ## Numbers and truth values -/

theorem exists_of_mem_toDigits {base n : Nat} (large : 1 < base) {c : Char}
    (written : c ∈ Nat.toDigits base n) : ∃ d < base, c = d.digitChar := by
  induction n using Nat.strongRecOn with
  | ind n ih =>
    rcases Nat.lt_or_ge n base with small | big
    · rw [Nat.toDigits_of_lt_base small, List.mem_singleton] at written
      exact ⟨n, small, written⟩
    · rw [Nat.toDigits_of_base_le large big, List.mem_append, List.mem_singleton] at written
      rcases written with upper | last
      · exact ih (n / base) (Nat.div_lt_self (by omega) large) upper
      · exact ⟨n % base, Nat.mod_lt _ (by omega), last⟩

theorem digitValue?_digitChar {d : Nat} (digit : d < 16) : digitValue? d.digitChar = some d := by
  decide +revert

theorem ofDigitsIn?_append {base m d : Nat} {ds : List Char} (upper : ofDigitsIn? base ds = some m)
    (small : base ≤ 16) (digit : d < base) :
    ofDigitsIn? base (ds ++ [d.digitChar]) = some (base * m + d) := by
  rw [ofDigitsIn?] at upper
  rw [ofDigitsIn?, List.foldlM_append, upper]
  simp [digitValue?_digitChar (Nat.lt_of_lt_of_le digit small), digit]

/-- The digits of a number denote it. -/
theorem ofDigitsIn?_toDigits {base : Nat} (large : 1 < base) (small : base ≤ 16) (n : Nat) :
    ofDigitsIn? base (Nat.toDigits base n) = some n := by
  induction n using Nat.strongRecOn with
  | ind n ih =>
    rcases Nat.lt_or_ge n base with digit | big
    · have only := ofDigitsIn?_append (rfl : ofDigitsIn? base [] = some 0) small digit
      rwa [Nat.mul_zero, Nat.zero_add, List.nil_append, ← Nat.toDigits_of_lt_base digit] at only
    · have upper := ih (n / base) (Nat.div_lt_self (by omega) large)
      rw [Nat.toDigits_of_base_le large big,
        ofDigitsIn?_append upper small (Nat.mod_lt n (by omega)), Nat.div_add_mod]

theorem isDigit_of_mem_numberText {n : Nat} {c : Char} (written : c ∈ numberText n) :
    c.isDigit = true :=
  Nat.isDigit_of_mem_toDigits (by decide) (by decide) written

theorem isNumberPart_of_isDigit {c : Char} (digit : c.isDigit = true) : isNumberPart c = true := by
  simp [isNumberPart, digitValue?, digit]

theorem numberText_ne_nil (n : Nat) : numberText n ≠ [] := Nat.toDigits_ne_nil

theorem startsWith_numberText (n : Nat) : startsWith Char.isDigit (numberText n) = true := by
  obtain ⟨c, cs, digits⟩ := List.exists_cons_of_ne_nil (numberText_ne_nil n)
  have written : c ∈ numberText n := by
    rw [digits]
    exact List.mem_cons_self
  rw [digits]
  exact isDigit_of_mem_numberText written

/-- What is a digit marks no base. -/
theorem readBase_digits {ds : List Char} (digits : ∀ c ∈ ds, c.isDigit = true) (rest : List Char) :
    readBase (ds ++ ',' :: rest) = (10, ds ++ ',' :: rest) := by
  have second : ∀ d tail, ds ++ ',' :: rest = '0' :: d :: tail → d ≠ 'x' ∧ d ≠ 'o' ∧ d ≠ 'b' := by
    intro d tail same
    have found : d = ',' ∨ d.isDigit = true := by
      match ds, same with
      | [_], same =>
        obtain ⟨-, rfl, -⟩ : _ ∧ ',' = d ∧ _ := by simpa using same
        exact .inl rfl
      | _ :: b :: _, same => exact .inr (digits d (by simp_all))
    refine ⟨?_, ?_, ?_⟩ <;> rintro rfl <;> simp at found
  unfold readBase
  split
  · next same => exact absurd rfl (second _ _ same).1
  · next same => exact absurd rfl (second _ _ same).2.1
  · next same => exact absurd rfl (second _ _ same).2.2
  · rfl

theorem reads_natural {n bound : Nat} (fits : n < bound) :
    Reads (readNatural bound) (numberText n) n where
  opening := by
    refine startsWith_mono (startsWith_numberText n) fun c digit => isOpening_of_isNamePart ?_
    simp [isNamePart, Char.isAlphanum, digit]
  before_comma rest := by
    have digits : ∀ c ∈ numberText n, c.isDigit = true := fun c => isDigit_of_mem_numberText
    have parts : ∀ c ∈ numberText n, isNumberPart c = true :=
      fun c written => isNumberPart_of_isDigit (digits c written)
    obtain ⟨taken, left⟩ := takeWhile_dropWhile_append parts
      (by decide : isNumberPart ',' = false) rest
    have plain : ∀ c ∈ numberText n, c ≠ '_' := by
      intro c written
      rintro rfl
      cases digits _ written
    have first : (numberText n).head? ≠ some '_' :=
      fun head => plain '_' (List.mem_of_mem_head? head) rfl
    have kept : (numberText n).filter (· ≠ '_') = numberText n := by
      apply List.filter_eq_self.2
      simpa using plain
    have value : ofDigitsIn? 10 (numberText n) = some n :=
      ofDigitsIn?_toDigits (by decide) (by decide) n
    simp only [readNatural, readBase_digits digits, taken, left]
    rw [if_neg (by simp [numberText_ne_nil, first]), kept, value]
    simp [fits]

theorem reads_bool (b : Bool) : Reads readBool (boolText b) b where
  opening := by cases b <;> rfl
  before_comma rest := by cases b <;> rfl

theorem reads_parity (p : Parity) : Reads readParity p.word.toList p where
  opening := by cases p <;> rfl
  before_comma rest := by
    have is_name : isName p.word.toList = true := by cases p <;> decide
    rw [readParity, readName_append is_name (by decide) (by decide), String.ofList_toList]
    cases p <;> rfl

/-! ## Quoted text -/

theorem charOf?_toNat (c : Char) : charOf? c.toNat = some c := by
  have valid : c.toNat.isValidChar := c.valid
  rw [charOf?, if_pos valid, Char.ofNat_toNat]

theorem length_toDigits_char (c : Char) :
    0 < (Nat.toDigits 16 c.toNat).length ∧ (Nat.toDigits 16 c.toNat).length ≤ 6 := by
  constructor
  · exact List.length_pos_iff.2 Nat.toDigits_ne_nil
  · rw [Nat.length_toDigits_le_iff (by decide) (by decide)]
    have valid : c.toNat.isValidChar := c.valid
    have bound : c.toNat < 0x110000 := by
      rcases valid with low | ⟨-, high⟩
      · omega
      · exact high
    omega

theorem readEscape_codePoint (c : Char) (rest : List Char) :
    readEscape ('u' :: '\x7b' :: (Nat.toDigits 16 c.toNat ++ '\x7d' :: rest)) =
      some (c, rest) := by
  have digit : ∀ i < 16, decide (i.digitChar ≠ '\x7d') = true := by decide
  have inside : ∀ d ∈ Nat.toDigits 16 c.toNat, decide (d ≠ '\x7d') = true := by
    intro d written
    obtain ⟨i, small, rfl⟩ := exists_of_mem_toDigits (by decide) written
    exact digit i small
  obtain ⟨taken, left⟩ := takeWhile_dropWhile_append inside
    (by decide : decide ('\x7d' ≠ '\x7d') = false) rest
  obtain ⟨some_digits, few_digits⟩ := length_toDigits_char c
  simp only [readEscape, taken, left]
  rw [if_neg (by omega), ofDigitsIn?_toDigits (by decide) (by decide)]
  simp [charOf?_toNat]

section Quoted

variable (singleQuote : Bool)

/-- A character of quoted text stands for itself, or it has an escape that is read as it. -/
theorem escapeChar_cases (c : Char) :
    (Text.escapeChar singleQuote c = [c] ∧ c ≠ '"' ∧ c ≠ '\\') ∨
      ∃ e, Text.escapeChar singleQuote c = '\\' :: e ∧
        ∀ rest, readEscape (e ++ rest) = some (c, rest) := by
  unfold Text.escapeChar
  split_ifs with null tab feed line quote single seen
  · exact .inr ⟨['0'], rfl, fun rest => by rw [null]; rfl⟩
  · exact .inr ⟨['t'], rfl, fun rest => by rw [tab]; rfl⟩
  · exact .inr ⟨['r'], rfl, fun rest => by rw [feed]; rfl⟩
  · exact .inr ⟨['n'], rfl, fun rest => by rw [line]; rfl⟩
  · refine .inr ⟨[c], rfl, fun rest => ?_⟩
    rcases quote with rfl | rfl <;> rfl
  · refine .inr ⟨[c], rfl, fun rest => ?_⟩
    rw [single.1]
    rfl
  · rw [not_or] at quote
    exact .inl ⟨rfl, quote.2, quote.1⟩
  · refine .inr ⟨'u' :: '\x7b' :: (Nat.toDigits 16 c.toNat ++ ['\x7d']), by
      simp [Text.codePointEscape], fun rest => ?_⟩
    simpa using readEscape_codePoint c rest

theorem readQuoted_escapeChar (c : Char) (cs : List Char) (fuel : Nat) :
    readQuoted (fuel + 1) (Text.escapeChar singleQuote c ++ cs) =
      (readQuoted fuel cs).map fun (text, rest) => (c :: text, rest) := by
  rcases escapeChar_cases singleQuote c with ⟨itself, no_quote, no_slash⟩ | ⟨e, escape, read⟩
  · rw [itself, List.singleton_append, readQuoted]
    · cases readQuoted fuel cs <;> rfl
    all_goals assumption
  · rw [escape, List.cons_append, readQuoted, read, Option.bind_eq_bind, Option.bind_some]
    dsimp only
    cases readQuoted fuel cs <;> rfl

/-- The escapes of a text are read as the text, if the fuel exceeds its length. -/
theorem readQuoted_flatMap {text : List Char} {fuel : Nat} (enough : text.length < fuel)
    (rest : List Char) :
    readQuoted fuel (text.flatMap (Text.escapeChar singleQuote) ++ '"' :: rest) =
      some (text, rest) := by
  induction text generalizing fuel with
  | nil =>
    cases fuel with
    | zero => cases enough
    | succ fuel => rfl
  | cons c text ih =>
    cases fuel with
    | zero => cases enough
    | succ fuel =>
      rw [List.flatMap_cons, List.append_assoc, readQuoted_escapeChar,
        ih (Nat.lt_of_succ_lt_succ enough), Option.map_some]

theorem length_le_flatMap_escapeChar (text : List Char) :
    text.length ≤ (text.flatMap (Text.escapeChar singleQuote)).length := by
  induction text with
  | nil => exact Nat.le_refl 0
  | cons c text ih =>
    have one : 1 ≤ (Text.escapeChar singleQuote c).length := by
      rcases escapeChar_cases singleQuote c with ⟨itself, -⟩ | ⟨e, escape, -⟩
      · simp [itself]
      · simp [escape]
    rw [List.flatMap_cons, List.length_append, List.length_cons]
    omega

/-- Quoted text is read as what was quoted, whatever follows it. -/
theorem readText_quote (s : String) (rest : List Char) :
    readText (Text.quote singleQuote s ++ rest) = some (s, rest) := by
  have quoted : Text.quote singleQuote s ++ rest =
      '"' :: (s.toList.flatMap (Text.escapeChar singleQuote) ++ '"' :: rest) := by
    simp [Text.quote]
  have enough := length_le_flatMap_escapeChar singleQuote s.toList
  rw [quoted, readText, readQuoted_flatMap singleQuote (by rw [List.length_append]; omega),
    Option.map_some]
  dsimp only
  rw [String.ofList_toList]

end Quoted

theorem reads_text (s : String) : Reads readText (Text.quote true s) s where
  opening := rfl
  before_comma rest := readText_quote true s (',' :: rest)

end FieldLink.Config

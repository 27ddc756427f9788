import FieldLink.Proofs.Config.Words

/-!
# Lists and records that are read as they are written

Lists and records are written as items on lines of their own between brackets.  If each item obeys
`Reads`, then the items are read up to the bracket (`readItems_of_lines`), and from that follow the
laws for lists, records and options.  Reading items takes fuel, of which the length of the written
text is enough.
-/

namespace FieldLink.Config

variable {α ι : Type}

/-! ## Items -/

/-- Items on lines of their own with the closing character behind them. -/
def lines (level : Nat) (close : Char) (words : List (List Char)) (rest : List Char) : List Char :=
  words.flatMap (fun word => newLine (level + 1) ++ word ++ [',']) ++
    (newLine level ++ close :: rest)

theorem lines_cons (level : Nat) (close : Char) (word : List Char) (words : List (List Char))
    (rest : List Char) :
    lines level close (word :: words) rest =
      newLine (level + 1) ++ (word ++ ',' :: lines level close words rest) := by
  simp [lines]

theorem layOut_cons (level : Nat) (opening close : Char) (word : List Char)
    (words : List (List Char)) (rest : List Char) :
    layOut level opening close (word :: words) ++ rest =
      opening :: lines level close (word :: words) rest := by
  simp [layOut, lines]

theorem layOut_append (level : Nat) (opening close : Char) (words : List (List Char))
    (rest : List Char) :
    ∃ tail, layOut level opening close words ++ rest = opening :: tail ∧
      skipBlank tail = skipBlank (lines level close words rest) := by
  cases words with
  | nil => exact ⟨close :: rest, rfl, (skipBlank_newLine level _).symm⟩
  | cons word words =>
    exact ⟨lines level close (word :: words) rest, layOut_cons level opening close word words rest,
      rfl⟩

section Items

variable {close : Char} {item : Scan α} {word : ι → List Char} {value : ι → α} {items : List ι}

theorem skipBlank_lines (closes : isSolid close = true) (level : Nat) (rest : List Char)
    (reads : ∀ i ∈ items, Reads item (word i) (value i)) :
    ∃ cs, skipBlank (lines level close (items.map word) rest) = some cs ∧
      skipBlank cs = some cs := by
  cases items with
  | nil =>
    have stop := skipBlank_cons closes rest
    exact ⟨close :: rest, (skipBlank_newLine level _).trans stop, stop⟩
  | cons i items =>
    have stop := skipBlank_of_startsWith
      ((reads i List.mem_cons_self).solid (',' :: lines level close (items.map word) rest))
    rw [List.map_cons, lines_cons, skipBlank_newLine]
    exact ⟨_, stop, stop⟩

/-- The items on the lines are read in order, with the fuel for one more than their count. -/
theorem readItems_of_lines (closes : isSolid close = true) (differs : isOpening close = false)
    (level : Nat) (rest : List Char) {fuel : Nat} (enough : items.length < fuel)
    (reads : ∀ i ∈ items, Reads item (word i) (value i)) {cs : List Char}
    (stands : skipBlank cs = skipBlank (lines level close (items.map word) rest)) :
    readItems close item fuel true cs = some (items.map value, rest) := by
  induction items generalizing fuel cs with
  | nil =>
    cases fuel with
    | zero => cases enough
    | succ fuel =>
      rw [List.map_nil, lines, List.flatMap_nil, List.nil_append, skipBlank_newLine,
        skipBlank_cons closes] at stands
      simp [readItems, stands]
  | cons i items ih =>
    cases fuel with
    | zero => cases enough
    | succ fuel =>
      have read := reads i List.mem_cons_self
      have others : ∀ j ∈ items, Reads item (word j) (value j) :=
        fun j later => reads j (List.mem_cons_of_mem i later)
      obtain ⟨next, after, again⟩ := skipBlank_lines closes level rest others
      rw [List.map_cons, lines_cons, skipBlank_newLine,
        skipBlank_of_startsWith (read.solid _)] at stands
      have taken := read.before_comma (lines level close (items.map word) rest)
      obtain ⟨c, cs', first, opening⟩ := exists_cons_of_startsWith read.opening
      have other : c ≠ close := by
        rintro rfl
        rw [differs] at opening
        cases opening
      have comma : readComma (',' :: lines level close (items.map word) rest) =
          some (true, next) := by
        rw [readComma, skipBlank_cons (by decide)]
        simp [after]
      rw [first, List.cons_append] at stands taken
      have left := ih (Nat.lt_of_succ_lt_succ enough) others (again.trans after.symm)
      simp [readItems, stands, other, taken, comma, left]

end Items

/-! ## Fuel -/

theorem length_le_lines (level : Nat) (close : Char) (words : List (List Char)) :
    words.length ≤ (lines level close words []).length ∧
      ∀ word ∈ words, word.length ≤ (lines level close words []).length := by
  induction words with
  | nil => exact ⟨Nat.zero_le _, fun word mem => by cases mem⟩
  | cons word words ih =>
    obtain ⟨count, each⟩ := ih
    have length : (lines level close (word :: words) []).length =
        (newLine (level + 1)).length + (word.length + ((lines level close words []).length + 1)) := by
      rw [lines_cons, List.length_append, List.length_append, List.length_cons]
    rw [length, List.length_cons]
    refine ⟨by omega, fun other mem => ?_⟩
    rcases List.mem_cons.1 mem with rfl | later
    · omega
    · have := each other later
      omega

/-- The text of items is no shorter than their count, and no shorter than any of them. -/
theorem length_le_layOut (level : Nat) (opening close : Char) (words : List (List Char)) :
    words.length ≤ (layOut level opening close words).length ∧
      ∀ word ∈ words, word.length ≤ (layOut level opening close words).length := by
  cases words with
  | nil => exact ⟨Nat.zero_le _, fun word mem => by cases mem⟩
  | cons word words =>
    obtain ⟨count, each⟩ := length_le_lines level close (word :: words)
    have text := layOut_cons level opening close word words []
    rw [List.append_nil] at text
    rw [text, List.length_cons]
    exact ⟨Nat.le_succ_of_le count, fun other mem => Nat.le_succ_of_le (each other mem)⟩

theorem length_lt_of_layOut {level fuel : Nat} {opening close : Char} {word : ι → List Char}
    {items : List ι} (enough : (layOut level opening close (items.map word)).length < fuel) :
    items.length < fuel ∧ ∀ i ∈ items, (word i).length < fuel := by
  obtain ⟨count, each⟩ := length_le_layOut level opening close (items.map word)
  rw [List.length_map] at count
  refine ⟨Nat.lt_of_le_of_lt count enough, fun i mem => ?_⟩
  exact Nat.lt_of_le_of_lt (each _ (List.mem_map_of_mem mem)) enough

/-! ## Lists and options -/

theorem reads_list {item : Scan α} {word : ι → List Char} {value : ι → α} {items : List ι}
    {level fuel : Nat} (enough : (listText level word items).length < fuel)
    (reads : ∀ i ∈ items, (word i).length < fuel → Reads item (word i) (value i)) :
    Reads (readList item fuel) (listText level word items) (items.map value) where
  opening := by
    unfold listText layOut
    split <;> rfl
  before_comma rest := by
    obtain ⟨tail, text, stands⟩ := layOut_append level '[' ']' (items.map word) (',' :: rest)
    obtain ⟨count, each⟩ := length_lt_of_layOut enough
    have read := readItems_of_lines (by decide) (by decide) level (',' :: rest) count
      (fun i mem => reads i mem (each i mem)) stands
    rw [listText, text, readList]
    exact read

theorem reads_list_self {item : Scan α} {word : α → List Char} {items : List α} {level fuel : Nat}
    (enough : (listText level word items).length < fuel)
    (reads : ∀ a ∈ items, (word a).length < fuel → Reads item (word a) a) :
    Reads (readList item fuel) (listText level word items) items := by
  have read : Reads (readList item fuel) (listText level word items) (items.map id) :=
    reads_list enough reads
  rwa [List.map_id] at read

/-- An option is read as it is written, if its content does not start like the words of an option. -/
theorem reads_option {content : Scan α} {word : α → List Char} {o : Option α}
    (reads : ∀ a ∈ o, Reads content (word a) a)
    (plain : ∀ a ∈ o, startsWith (fun c => c ≠ 'N' && c ≠ 'S') (word a) = true) :
    Reads (readOption content) (optionText word o) o := by
  cases o with
  | none => exact ⟨rfl, fun rest => rfl⟩
  | some a =>
    have read := reads a rfl
    obtain ⟨c, cs, first, other⟩ := exists_cons_of_startsWith (plain a rfl)
    rw [Bool.and_eq_true, decide_eq_true_eq, decide_eq_true_eq] at other
    refine ⟨read.opening, fun rest => ?_⟩
    have taken := read.before_comma rest
    have not_none : skipWord "None" (word a ++ ',' :: rest) = none := by
      rw [first]
      exact if_neg other.1.symm
    have not_some : skipWord "Some" (word a ++ ',' :: rest) = none := by
      rw [first]
      exact if_neg other.2.symm
    rw [optionText, readOption, not_none, not_some]
    simp [taken]

/-! ## Records -/

theorem reads_field {name : String} {known : String → Option (Scan α)}
    {unknown : List Char → Option (List Char)} {scan : Scan α} {value : List Char} {a : α}
    (is_name : isName name.toList = true) (is_known : known name = some scan)
    (reads : Reads scan value a) :
    Reads (readField known unknown) (fieldText name value) (some a) where
  opening := by
    rw [isName, Bool.and_eq_true] at is_name
    apply startsWith_append
    apply startsWith_append
    exact startsWith_mono is_name.1 fun _ start =>
      isOpening_of_isNamePart (isNamePart_of_isNameStart start)
  before_comma rest := by
    have text : fieldText name value ++ ',' :: rest =
        name.toList ++ ':' :: ' ' :: (value ++ ',' :: rest) := by
      simp [fieldText]
    have named := readName_append is_name (c := ':') (by decide) (by decide)
      (' ' :: (value ++ ',' :: rest))
    have mark : skipMark ":" (':' :: ' ' :: (value ++ ',' :: rest)) =
        some (value ++ ',' :: rest) := by
      show skipBlank (' ' :: (value ++ ',' :: rest)) = _
      rw [skipBlank_space (by decide), skipBlank_of_startsWith (reads.solid _)]
    rw [text, readField, named, String.ofList_toList]
    simp [skipBlank_cons (c := ':') (by decide), mark, is_known, reads.before_comma]

theorem readRecord_recordText {name : String} {known : String → Option (Scan α)}
    {unknown : List Char → Option (List Char)} {word : α → List Char} {settings : List α}
    {level fuel : Nat} (enough : (recordText level (settings.map word)).length < fuel)
    (reads : ∀ a ∈ settings, (word a).length < fuel →
      Reads (readField known unknown) (word a) (some a))
    (rest : List Char) :
    readRecord name known unknown fuel (recordText level (settings.map word) ++ rest) =
      some (settings, rest) := by
  obtain ⟨tail, text, stands⟩ := layOut_append level '(' ')' (settings.map word) rest
  obtain ⟨count, each⟩ := length_lt_of_layOut enough
  have read := readItems_of_lines (by decide) (by decide) level rest count
    (fun a mem => reads a mem (each a mem)) stands
  have no_name : skipRecordName name ('(' :: tail) = some ('(' :: tail) := rfl
  have bracket : skipWord "(" ('(' :: tail) = some tail := rfl
  rw [recordText, text, readRecord, no_name]
  simp [skipBlank_cons (c := '(') (by decide), bracket, read]

theorem reads_record {name : String} {known : String → Option (Scan α)}
    {unknown : List Char → Option (List Char)} {word : α → List Char} {settings : List α}
    {level fuel : Nat} (enough : (recordText level (settings.map word)).length < fuel)
    (reads : ∀ a ∈ settings, (word a).length < fuel →
      Reads (readField known unknown) (word a) (some a)) :
    Reads (readRecord name known unknown fuel) (recordText level (settings.map word)) settings where
  opening := by
    unfold recordText layOut
    split <;> rfl
  before_comma rest := readRecord_recordText enough reads (',' :: rest)

end FieldLink.Config

import FieldLink.Config.Basic
import FieldLink.Proofs.Text.Quoted
import Mathlib.Data.List.Induction
import Mathlib.Data.List.Nodup
import Mathlib.Data.List.Perm.Basic

/-!
# Valid configurations

A configuration is valid if the options of each link are, and no two links have the same address
(`Config.validate_eq_ok_iff`).  The first link whose options are not valid is told of
(`Config.validateFrom_of_isFirstInvalid`).  If there is none, all addresses that are repeated are
told of, which are a list that is determined by what it holds and by its order
(`Config.listsRepeats_iff`), and by what is printed of it (`Text.quoteList_injective`).
-/

namespace FieldLink.Config

/-! ## Repeated texts -/

section Repeats

variable {texts more repeats : List String} {a b : String} {i j : Nat}

/-- The text `a` stands at `i`, and that is the second time that it comes. -/
def IsSecond (texts : List String) (i : Nat) (a : String) : Prop :=
  texts[i]? = some a ∧ (texts.take i).count a = 1

/-- A list of the texts that come more than once: each of them once, in the order in which they come
for the second time, and nothing else. -/
structure ListsRepeats (texts repeats : List String) : Prop where
  nodup : repeats.Nodup
  mem_iff : ∀ a, a ∈ repeats ↔ 2 ≤ texts.count a
  ordered : repeats.Pairwise fun a b => ∃ i j, IsSecond texts i a ∧ IsSecond texts j b ∧ i < j

theorem IsSecond.lt_length (second : IsSecond texts i a) : i < texts.length :=
  (List.getElem?_eq_some_iff.1 second.1).1

theorem IsSecond.append (more : List String) (second : IsSecond texts i a) :
    IsSecond (texts ++ more) i a := by
  refine ⟨?_, ?_⟩
  · rw [List.getElem?_append_left second.lt_length, second.1]
  · rw [List.take_append_of_le_length (Nat.le_of_lt second.lt_length), second.2]

/-- There is one second time at most: at a later one the text has come twice before. -/
theorem IsSecond.not_lt (first : IsSecond texts i a) (second : IsSecond texts j a) : ¬i < j := by
  intro before
  have again : (texts.take (i + 1)).count a = 2 := by
    rw [List.take_add_one, first.1, List.count_append, first.2]
    simp
  have fewer : (texts.take (i + 1)).count a ≤ (texts.take j).count a :=
    (List.take_prefix_take_left before).sublist.count_le a
  rw [again, second.2] at fewer
  omega

theorem IsSecond.unique (first : IsSecond texts i a) (second : IsSecond texts j a) : i = j :=
  Nat.le_antisymm (Nat.not_lt.1 (second.not_lt first)) (Nat.not_lt.1 (first.not_lt second))

theorem isSecond_concat (once : texts.count a = 1) : IsSecond (texts ++ [a]) texts.length a :=
  ⟨List.getElem?_concat_length, by rw [List.take_left, once]⟩

theorem exists_isSecond (twice : 2 ≤ texts.count a) : ∃ i, IsSecond texts i a := by
  induction texts using List.reverseRec with
  | nil => simp at twice
  | append_singleton texts b ih =>
    -- the second time is an earlier one, or it is the last text
    by_cases already : 2 ≤ texts.count a
    · obtain ⟨i, second⟩ := ih already
      exact ⟨i, second.append [b]⟩
    · have last : b = a ∧ texts.count a = 1 := by
        rw [List.count_append, List.count_singleton] at twice
        split at twice
        · next same => exact ⟨by simpa using same, by omega⟩
        · omega
      obtain ⟨rfl, once⟩ := last
      exact ⟨texts.length, isSecond_concat once⟩

/-- What a list of repeats holds, and its order, determine it. -/
theorem ListsRepeats.unique {others : List String} (first : ListsRepeats texts repeats)
    (second : ListsRepeats texts others) : repeats = others := by
  have perm : repeats.Perm others :=
    (List.perm_ext_iff_of_nodup first.nodup second.nodup).2 fun a =>
      (first.mem_iff a).trans (second.mem_iff a).symm
  refine List.Perm.eq_of_pairwise (fun a b _ _ before after => ?_) first.ordered second.ordered perm
  obtain ⟨i, j, at_a, at_b, lt⟩ := before
  obtain ⟨j', i', at_b', at_a', gt⟩ := after
  rw [at_a.unique at_a', at_b.unique at_b'] at lt
  omega

/-- The search adds a text when it comes for the second time. -/
theorem repeatedIn_concat (before texts : List String) (a : String) :
    repeatedIn before (texts ++ [a]) =
      repeatedIn before texts ++ if before.count a + texts.count a = 1 then [a] else [] := by
  induction texts generalizing before with
  | nil => rfl
  | cons b rest ih =>
    have counts : (b :: before).count a + rest.count a = before.count a + (b :: rest).count a := by
      rw [List.count_cons, List.count_cons]
      omega
    rw [List.cons_append, repeatedIn, repeatedIn, ih, counts]
    split <;> rfl

theorem ListsRepeats.concat (lists : ListsRepeats texts repeats) (a : String) :
    ListsRepeats (texts ++ [a]) (repeats ++ if texts.count a = 1 then [a] else []) := by
  have kept := lists.ordered.imp fun {b c} ⟨i, j, first, second, lt⟩ =>
    (⟨i, j, first.append [a], second.append [a], lt⟩ : ∃ i j, IsSecond (texts ++ [a]) i b ∧
      IsSecond (texts ++ [a]) j c ∧ i < j)
  by_cases once : texts.count a = 1
  · -- the text comes for the second time, behind every other second time
    rw [if_pos once]
    have fresh : a ∉ repeats := by
      rw [lists.mem_iff]
      omega
    refine ⟨?_, fun b => ?_, ?_⟩
    · rw [← List.concat_eq_append]
      exact lists.nodup.concat fresh
    · rw [List.mem_append, List.mem_singleton, lists.mem_iff, List.count_append,
        List.count_singleton]
      by_cases same : b = a
      · subst same
        simp [once]
      · simp [same, Ne.symm same]
    · refine List.pairwise_append.2 ⟨kept, List.pairwise_singleton _ _, fun b member c last => ?_⟩
      obtain rfl := List.mem_singleton.1 last
      obtain ⟨i, second⟩ := exists_isSecond ((lists.mem_iff b).1 member)
      exact ⟨i, texts.length, second.append [c], isSecond_concat once, second.lt_length⟩
  · rw [if_neg once, List.append_nil]
    refine ⟨lists.nodup, fun b => ?_, kept⟩
    rw [lists.mem_iff, List.count_append, List.count_singleton]
    split
    · next same =>
      obtain rfl : a = b := by simpa using same
      omega
    · rfl

theorem listsRepeats_repeatedIn (texts : List String) :
    ListsRepeats texts (repeatedIn [] texts) := by
  induction texts using List.reverseRec with
  | nil => exact ⟨List.nodup_nil, by simp [repeatedIn], .nil⟩
  | append_singleton texts a ih =>
    rw [repeatedIn_concat, List.count_nil, Nat.zero_add]
    exact ih.concat a

theorem listsRepeats_iff : ListsRepeats texts repeats ↔ repeats = repeatedIn [] texts :=
  ⟨fun lists => lists.unique (listsRepeats_repeatedIn texts),
    fun same => same ▸ listsRepeats_repeatedIn texts⟩

/-- Nothing is repeated in a list without duplicates. -/
theorem ListsRepeats.eq_nil_iff (lists : ListsRepeats texts repeats) :
    repeats = [] ↔ texts.Nodup := by
  rw [List.nodup_iff_count_le_one, List.eq_nil_iff_forall_not_mem]
  refine forall_congr' fun a => ?_
  rw [lists.mem_iff]
  omega

end Repeats

/-! ## The check of all links -/

theorem validateFrom_eq_ok_iff (index : Nat) {links : List LinkConfig} :
    validateFrom index links = .ok () ↔ ∀ link ∈ links, link.options.validate = .ok () := by
  induction links generalizing index with
  | nil => simp [validateFrom]
  | cons link rest ih =>
    rw [validateFrom]
    cases valid : link.options.validate with
    | error e => simp [valid]
    | ok u => simp [valid, ih]

/-- The link at `number` is the first whose options are not valid, and `e` is what is wrong with
them. -/
def IsFirstInvalid (links : List LinkConfig) (number : Nat) (e : LinkError) : Prop :=
  (∃ link, links[number]? = some link ∧ link.options.validate = .error e) ∧
    ∀ earlier ∈ links.take number, earlier.options.validate = .ok ()

theorem exists_isFirstInvalid {links : List LinkConfig}
    (invalid : ∃ link ∈ links, link.options.validate ≠ .ok ()) :
    ∃ number e, IsFirstInvalid links number e := by
  induction links with
  | nil => simp at invalid
  | cons link rest ih =>
    cases outcome : link.options.validate with
    | error e => exact ⟨0, e, ⟨link, rfl, outcome⟩, by simp⟩
    | ok u =>
      have later : ∃ other ∈ rest, other.options.validate ≠ .ok () := by
        simpa [outcome] using invalid
      obtain ⟨number, e, refused, earlier⟩ := ih later
      exact ⟨number + 1, e, refused, List.forall_mem_cons.2 ⟨outcome, earlier⟩⟩

/-- The check stops at the first link whose options are not valid, and says where it stands. -/
theorem validateFrom_of_isFirstInvalid (index : Nat) {links : List LinkConfig} {number : Nat}
    {e : LinkError} (first : IsFirstInvalid links number e) :
    validateFrom index links =
      .error (.badConfig ("The link with index " ++ toString (index + number) ++
        " (zero indexed) is not valid. Problem: " ++ e.message)) := by
  induction links generalizing index number with
  | nil =>
    obtain ⟨⟨link, at_number, -⟩, -⟩ := first
    simp at at_number
  | cons head rest ih =>
    obtain ⟨refused, earlier⟩ := first
    cases number with
    | zero =>
      obtain ⟨link, at_number, refused⟩ := refused
      obtain rfl : head = link := by simpa using at_number
      rw [validateFrom, refused]
      rfl
    | succ number =>
      obtain ⟨valid, earlier⟩ := List.forall_mem_cons.1 earlier
      rw [validateFrom, valid, Nat.add_comm number 1, ← Nat.add_assoc]
      exact ih (index + 1) ⟨refused, earlier⟩

/-! ## The check of the addresses -/

theorem validateAddresses_eq_ok_iff {c : Config} :
    c.validateAddresses = .ok () ↔ (c.links.map (·.address)).Nodup := by
  rw [← (listsRepeats_repeatedIn _).eq_nil_iff, validateAddresses, repeatedAddresses]
  split <;> simp [*]

theorem validateAddresses_of_repeats {c : Config} {repeats : List String}
    (lists : ListsRepeats (c.links.map (·.address)) repeats)
    (repeated : ¬(c.links.map (·.address)).Nodup) :
    c.validateAddresses =
      .error (.badConfig ("A port can only be driven by one link. Duplicates: " ++
        Text.quoteList repeats)) := by
  have some := lists.eq_nil_iff.not.2 repeated
  rw [listsRepeats_iff.1 lists] at some ⊢
  exact if_neg some

/-! ## Both checks -/

theorem validate_of_links {c : Config}
    (valid : ∀ link ∈ c.links, link.options.validate = .ok ()) :
    c.validate = c.validateAddresses := by
  rw [validate, (validateFrom_eq_ok_iff 0).2 valid]
  rfl

theorem validate_of_isFirstInvalid {c : Config} {index : Nat} {e : LinkError}
    (first : IsFirstInvalid c.links index e) :
    c.validate =
      .error (.badConfig ("The link with index " ++ toString index ++
        " (zero indexed) is not valid. Problem: " ++ e.message)) := by
  rw [validate, validateFrom_of_isFirstInvalid 0 first, Nat.zero_add]
  rfl

theorem validate_eq_ok_iff {c : Config} :
    c.validate = .ok () ↔
      (∀ link ∈ c.links, link.options.validate = .ok ()) ∧ (c.links.map (·.address)).Nodup := by
  rw [← validateFrom_eq_ok_iff 0, ← validateAddresses_eq_ok_iff, validate]
  cases valid : validateFrom 0 c.links with
  | error e => simp [bind, Except.bind]
  | ok u => simp [bind, Except.bind]

theorem badConfig_of_validate {c : Config} {e : LinkError} (refused : c.validate = .error e) :
    ∃ problem, e = .badConfig problem := by
  by_cases valid : ∀ link ∈ c.links, link.options.validate = .ok ()
  · rw [validate_of_links valid, validateAddresses] at refused
    split at refused
    · cases refused
    · cases refused
      exact ⟨_, rfl⟩
  · have invalid : ∃ link ∈ c.links, link.options.validate ≠ .ok () := by
      simpa only [not_forall, exists_prop] using valid
    obtain ⟨index, e', first⟩ := exists_isFirstInvalid invalid
    rw [validate_of_isFirstInvalid first] at refused
    cases refused
    exact ⟨_, rfl⟩

/-- A configuration passes its check if and only if the options of each link do and the addresses
are pairwise different.  Else it is a bad configuration.  If the options of a link are not valid,
the first such link is told of, with what is wrong with its options, whatever the addresses are.
If the options of all links are valid, the addresses that are repeated are told of, each once, in
the order in which they come for the second time.  The text tells them from any other list, and
plain addresses stand in it as they are, between quotes. -/
theorem validate_tells (c : Config) :
    (c.validate = .ok () ↔
      (∀ link ∈ c.links, link.options.validate = .ok ()) ∧
        (c.links.map (·.address)).Pairwise (· ≠ ·)) ∧
    (∀ e, c.validate = .error e → ∃ problem, e = .badConfig problem) ∧
    ((∃ link ∈ c.links, link.options.validate ≠ .ok ()) →
      (∃ index e, IsFirstInvalid c.links index e) ∧
      ∀ index e, IsFirstInvalid c.links index e →
        c.validate = .error (.badConfig ("The link with index " ++ toString index ++
          " (zero indexed) is not valid. Problem: " ++ e.message))) ∧
    ((∀ link ∈ c.links, link.options.validate = .ok ()) →
      ¬(c.links.map (·.address)).Pairwise (· ≠ ·) →
      (∃ repeats, ListsRepeats (c.links.map (·.address)) repeats) ∧
      ∀ repeats, ListsRepeats (c.links.map (·.address)) repeats →
        c.validate = .error (.badConfig ("A port can only be driven by one link. Duplicates: " ++
          Text.quoteList repeats)) ∧
        (∀ others, Text.quoteList others = Text.quoteList repeats → others = repeats) ∧
        ((∀ a ∈ repeats, a.toList.all Text.isPlain = true) → Text.quoteList repeats =
          "[" ++ ", ".intercalate (repeats.map fun a => "\"" ++ a ++ "\"") ++ "]")) := by
  refine ⟨validate_eq_ok_iff, fun e refused => badConfig_of_validate refused,
    fun invalid => ⟨?_, ?_⟩, fun valid repeated => ⟨?_, ?_⟩⟩
  · exact exists_isFirstInvalid invalid
  · exact fun index e first => validate_of_isFirstInvalid first
  · exact ⟨_, listsRepeats_repeatedIn _⟩
  · intro repeats lists
    rw [validate_of_links valid]
    exact ⟨validateAddresses_of_repeats lists repeated, fun _ same => Text.quoteList_injective same,
      Text.quoteList_of_isPlain⟩

/-- Of two addresses that are repeated the one is told first that is repeated first, and neither is
when the options of a link are not valid. -/
theorem validate_tells_repeated :
    let sound : Config := ⟨["COM1", "COM2", "COM2", "COM1", "COM1"].map ({ address := · })⟩
    let unsound : Config := ⟨sound.links ++ [{ address := "COM1", parity := .none }]⟩
    sound.validate = .error (.badConfig
        "A port can only be driven by one link. Duplicates: [\"COM2\", \"COM1\"]") ∧
      unsound.validate = .error (.badConfig
        ("The link with index 5 (zero indexed) is not valid. Problem: " ++
          "Bad configuration: `COM1`: no parity requires 2 stop bits, got 1")) := by
  intro sound unsound
  have valid : ∀ link ∈ sound.links, link.options.validate = .ok () := by decide
  refine ⟨?_, ?_⟩
  · obtain ⟨told, -, plain⟩ := ((validate_tells sound).2.2.2 valid (by decide)).2 ["COM2", "COM1"]
      (listsRepeats_iff.2 (by decide))
    rw [told, plain (by decide)]
    rfl
  · have first : IsFirstInvalid unsound.links 5
        (.badConfig "`COM1`: no parity requires 2 stop bits, got 1") :=
      ⟨⟨_, rfl, by decide⟩, valid⟩
    have invalid : ∃ link ∈ unsound.links, link.options.validate ≠ .ok () :=
      ⟨{ address := "COM1", parity := .none }, by decide, by decide⟩
    rw [((validate_tells unsound).2.2.1 invalid).2 5 _ first]
    rfl

end FieldLink.Config

import FieldLink.Proofs.Config.Words

/-!
# Printed lists of texts

A printed list determines the texts in it (`Text.quoteList_injective`), as quoted text tells where
it ends: a reader of quoted text takes it off the front.  Texts of plain characters stand in the
list as they are (`Text.quoteList_of_isPlain`).
-/

namespace FieldLink.Text

/-! ## What is printed determines the list -/

/-- Quoted text tells where it ends. -/
theorem quote_append_inj {a b : String} {xs ys : List Char}
    (same : quote false a ++ xs = quote false b ++ ys) : a = b ∧ xs = ys := by
  have read := congrArg Config.readText same
  rw [Config.readText_quote, Config.readText_quote] at read
  simpa using read

/-- The texts of a list behind the first, each behind a comma, up to the bracket. -/
def quotedRest : List String → List Char
  | [] => [']']
  | text :: rest => ',' :: ' ' :: (quote false text ++ quotedRest rest)

theorem intercalate_quote (text : String) (rest : List String) :
    [',', ' '].intercalate ((text :: rest).map (quote false)) ++ [']'] =
      quote false text ++ quotedRest rest := by
  induction rest generalizing text with
  | nil => rw [List.map_singleton, List.intercalate_singleton, quotedRest]
  | cons next rest ih =>
    rw [List.map_cons, List.map_cons, List.intercalate_cons_cons, ← List.map_cons,
      List.append_assoc, ih next, List.append_assoc]
    rfl

theorem toList_quoteList_cons (text : String) (rest : List String) :
    (quoteList (text :: rest)).toList =
      '[' :: (quote false text ++ quotedRest rest) := by
  rw [quoteList, String.toList_ofList, List.append_assoc, intercalate_quote]
  rfl

theorem quotedRest_injective : Function.Injective quotedRest := by
  intro xs ys same
  induction xs generalizing ys with
  | nil =>
    cases ys with
    | nil => rfl
    | cons y ys => simp [quotedRest] at same
  | cons x xs ih =>
    cases ys with
    | nil => simp [quotedRest] at same
    | cons y ys =>
      simp only [quotedRest, List.cons.injEq, true_and] at same
      obtain ⟨rfl, rest⟩ := quote_append_inj same
      rw [ih rest]

/-- What is printed of a list of texts determines the list. -/
theorem quoteList_injective : Function.Injective quoteList := by
  intro xs ys same
  have chars := congrArg String.toList same
  cases xs with
  | nil =>
    cases ys with
    | nil => rfl
    | cons y ys =>
      rw [toList_quoteList_cons] at chars
      simp [quoteList, quote] at chars
  | cons x xs =>
    cases ys with
    | nil =>
      rw [toList_quoteList_cons] at chars
      simp [quoteList, quote] at chars
    | cons y ys =>
      rw [toList_quoteList_cons, toList_quoteList_cons, List.cons.injEq] at chars
      obtain ⟨rfl, rest⟩ := quote_append_inj chars.2
      rw [quotedRest_injective rest]

/-! ## Plain characters -/

/-- Whether a character is a printable one of ASCII and neither a double quote nor a backslash. -/
def isPlain (c : Char) : Bool := 0x20 ≤ c.toNat && c.toNat < 0x7F && c ≠ '"' && c ≠ '\\'

/-- All ranges of unseen characters lie before or behind the printable ones of ASCII. -/
theorem isSeen_of_isPlain {c : Char} (plain : isPlain c = true) : isSeen c = true := by
  have outside : unseenRanges.toList.all (fun r => r.2 < 0x20 || 0x7F ≤ r.1) = true := by
    decide +kernel
  simp only [isPlain, Bool.and_eq_true, decide_eq_true_eq] at plain
  rw [isSeen, ← Array.any_toList, Bool.not_eq_true', List.any_eq_false]
  intro r member
  have apart := List.all_eq_true.1 outside r member
  simp only [Bool.or_eq_true, decide_eq_true_eq] at apart
  simp only [Bool.and_eq_true, decide_eq_true_eq]
  omega

theorem escapeChar_of_isPlain {c : Char} (plain : isPlain c = true) :
    escapeChar false c = [c] := by
  have seen := isSeen_of_isPlain plain
  have others : c ≠ '\x00' ∧ c ≠ '\t' ∧ c ≠ '\r' ∧ c ≠ '\n' := by
    refine ⟨?_, ?_, ?_, ?_⟩ <;> rintro rfl <;> cases plain
  simp only [isPlain, Bool.and_eq_true, decide_eq_true_eq] at plain
  simp [escapeChar, others, plain, seen]

theorem quote_of_isPlain {text : String} (plain : text.toList.all isPlain = true) :
    quote false text = ("\"" ++ text ++ "\"").toList := by
  have itself : text.toList.flatMap (escapeChar false) = text.toList :=
    calc
      _ = text.toList.flatMap fun c => [c] :=
        List.flatMap_congr fun c member => escapeChar_of_isPlain (List.all_eq_true.1 plain c member)
      _ = text.toList := List.flatMap_singleton' text.toList
  rw [quote, itself, String.toList_append, String.toList_append]
  rfl

/-- Texts of plain characters stand between their quotes as they are. -/
theorem quoteList_of_isPlain {texts : List String}
    (plain : ∀ text ∈ texts, text.toList.all isPlain = true) :
    quoteList texts =
      "[" ++ ", ".intercalate (texts.map fun text => "\"" ++ text ++ "\"") ++ "]" := by
  have quoted : texts.map (quote false) =
      (texts.map fun text => "\"" ++ text ++ "\"").map String.toList := by
    rw [List.map_map]
    exact List.map_congr_left fun text member => quote_of_isPlain (plain text member)
  rw [quoteList, quoted, ← String.toList_inj, String.toList_ofList, String.toList_append,
    String.toList_append, String.toList_intercalate]
  rfl

end FieldLink.Text

import Mathlib.Data.List.Basic

/-!
# Lists with one entry changed or added

The calls, the sessions and what is told of them stand in lists, of which a step changes or adds one
entry.  What holds of the others holds on.
-/

namespace FieldLink

variable {α : Type} {as : List α} {a b : α} {i j : Nat} {f : α → α} {p : α → Bool} {P : α → Prop}

/-! ## An entry added -/

theorem getElem?_concat_cases (at_i : (as ++ [a])[i]? = some b) :
    as[i]? = some b ∨ i = as.length ∧ b = a := by
  by_cases before : i < as.length
  · rw [List.getElem?_append_left before] at at_i
    exact .inl at_i
  · have bound := (List.getElem?_eq_some_iff.1 at_i).1
    rw [List.length_append, List.length_singleton] at bound
    obtain rfl : i = as.length := by omega
    rw [List.getElem?_concat_length] at at_i
    exact .inr ⟨rfl, (Option.some.inj at_i).symm⟩

/-- An entry of a longer list is the last one, or an entry of the shorter list. -/
theorem split_concat {before after : List α} (split : as ++ [b] = before ++ a :: after) :
    (as = before ∧ b = a ∧ after = []) ∨
      ∃ rest, after = rest ++ [b] ∧ as = before ++ a :: rest := by
  rcases List.eq_nil_or_concat' after with rfl | ⟨rest, c, rfl⟩
  · obtain ⟨same, ends⟩ := List.append_inj' split rfl
    exact .inl ⟨same, List.singleton_inj.1 ends, rfl⟩
  · rw [← List.cons_append, ← List.append_assoc] at split
    obtain ⟨same, ends⟩ := List.append_inj' split rfl
    exact .inr ⟨rest, by rw [List.singleton_inj.1 ends], same⟩

theorem forall_mem_concat (old : ∀ b ∈ as, P b) (holds : P a) : ∀ b ∈ as ++ [a], P b :=
  List.forall_mem_append.2 ⟨old, List.forall_mem_singleton.2 holds⟩

theorem forall_ne_concat (others : ∀ j b, j ≠ i → as[j]? = some b → P b) (holds : P a) :
    ∀ j b, j ≠ i → (as ++ [a])[j]? = some b → P b := by
  intro j b ne at_j
  rcases getElem?_concat_cases at_j with old | ⟨-, rfl⟩
  · exact others j b ne old
  · exact holds

/-! ## An entry changed -/

theorem getElem?_set_cases (at_j : (as.set i a)[j]? = some b) :
    i = j ∧ b = a ∨ i ≠ j ∧ as[j]? = some b := by
  by_cases own : i = j
  · subst own
    obtain ⟨bound, rfl⟩ := List.getElem?_eq_some_iff.1 at_j
    exact .inl ⟨rfl, List.getElem_set_self _⟩
  · exact .inr ⟨own, (List.getElem?_set_ne own).symm.trans at_j⟩

theorem forall_mem_set_of_ne (others : ∀ j b, j ≠ i → as[j]? = some b → P b) (holds : P a) :
    ∀ b ∈ as.set i a, P b := by
  intro b member
  obtain ⟨j, at_j⟩ := List.mem_iff_getElem?.1 member
  rcases getElem?_set_cases at_j with ⟨-, rfl⟩ | ⟨ne, old⟩
  · exact holds
  · exact others j b ne.symm old

theorem forall_mem_set (old : ∀ b ∈ as, P b) (holds : P a) : ∀ b ∈ as.set i a, P b :=
  forall_mem_set_of_ne (fun _ b _ at_j => old b (List.mem_of_getElem? at_j)) holds

/-- What holds of all entries but one still does when another changes into one of which it holds. -/
theorem forall_ne_set {k : Nat} (others : ∀ j b, j ≠ k → as[j]? = some b → P b) (holds : P a) :
    ∀ j b, j ≠ k → (as.set i a)[j]? = some b → P b := by
  intro j b ne at_j
  rcases getElem?_set_cases at_j with ⟨-, rfl⟩ | ⟨-, old⟩
  · exact holds
  · exact others j b ne old

/-! ## Counting what entries hold -/

theorem countP_one (p : α → Bool) (a : α) : [a].countP p = (p a).toNat := by
  cases holds : p a <;> simp [holds]

/-- An entry takes the place of another, and what it holds counts in its stead. -/
theorem countP_flatMap_set {β : Type} {f : α → List β} {p : β → Bool} (at_i : as[i]? = some a) :
    ((as.set i b).flatMap f).countP p + (f a).countP p =
      (as.flatMap f).countP p + (f b).countP p := by
  induction as generalizing i with
  | nil => cases at_i
  | cons c as ih =>
    cases i with
    | zero =>
      obtain rfl := Option.some.inj at_i
      simp only [List.set_cons_zero, List.flatMap_cons, List.countP_append]
      omega
    | succ i =>
      have rest := ih at_i
      simp only [List.set_cons_succ, List.flatMap_cons, List.countP_append]
      omega

theorem countP_set_add (at_i : as[i]? = some a) :
    (as.set i b).countP p + (p a).toNat = as.countP p + (p b).toNat := by
  have counted := countP_flatMap_set (b := b) (f := fun c => [c]) (p := p) at_i
  rwa [List.flatMap_singleton', List.flatMap_singleton', countP_one, countP_one] at counted

/-! ## An entry changed by a function -/

theorem modify_eq_set_of_getElem? (at_i : as[i]? = some a) : as.modify i f = as.set i (f a) := by
  rw [List.modify_eq_set_getElem?, at_i]
  rfl

theorem modify_of_eq (at_i : as[i]? = some a) (same : f a = a) : as.modify i f = as := by
  obtain ⟨bound, at_i'⟩ := List.getElem?_eq_some_iff.1 at_i
  rw [modify_eq_set_of_getElem? at_i, same, ← at_i', List.set_getElem_self]

theorem modify_concat (f : α → α) (as : List α) (a : α) :
    (as ++ [a]).modify as.length f = as ++ [f a] := by
  induction as with
  | nil => rfl
  | cons b as ih => simp [ih]

/-- A change within the first of two lists leaves the second. -/
theorem modify_append {bs : List α} (first : i < as.length) :
    (as ++ bs).modify i f = as.modify i f ++ bs := by
  have at_i : (as ++ bs)[i]? = some as[i] := by
    rw [List.getElem?_append_left first, List.getElem?_eq_getElem first]
  rw [modify_eq_set_of_getElem? at_i, modify_eq_set_of_getElem? (List.getElem?_eq_getElem first),
    List.set_append_left _ _ first]

/-! ## An entry inserted -/

/-- Whether an entry is changed before one is inserted or after makes no difference. -/
theorem set_insertIdx {number : Nat} (k : Nat) (bound : number ≤ as.length) :
    (as.insertIdx number a).set (if k < number then k else k + 1) b =
      (as.set k b).insertIdx number a := by
  induction number generalizing as k with
  | zero => rfl
  | succ number ih =>
    cases as with
    | nil => exact absurd bound (Nat.not_succ_le_zero _)
    | cons x as =>
      cases k with
      | zero => rfl
      | succ k =>
        have rest := ih k (Nat.le_of_succ_le_succ bound)
        by_cases before : k < number
        · rw [if_pos before] at rest
          rw [if_pos (Nat.succ_lt_succ before)]
          exact congrArg (x :: ·) rest
        · rw [if_neg before] at rest
          rw [if_neg fun h => before (Nat.lt_of_succ_lt_succ h)]
          exact congrArg (x :: ·) rest

theorem getElem?_insertIdx_past (as : List α) (number : Nat) (a : α) (k : Nat) :
    (as.insertIdx number a)[if k < number then k else k + 1]? = as[k]? := by
  by_cases before : k < number
  · rw [if_pos before, List.getElem?_insertIdx_of_lt before]
  · rw [if_neg before, List.getElem?_insertIdx_of_gt (by omega), Nat.add_sub_cancel]

theorem insertIdx_concat {number : Nat} (a b : α) (bound : number ≤ as.length) :
    as.insertIdx number a ++ [b] = (as ++ [b]).insertIdx number a := by
  induction number generalizing as with
  | zero => rfl
  | succ number ih =>
    cases as with
    | nil => exact absurd bound (Nat.not_succ_le_zero _)
    | cons x as => exact congrArg (x :: ·) (ih (Nat.le_of_succ_le_succ bound))

end FieldLink

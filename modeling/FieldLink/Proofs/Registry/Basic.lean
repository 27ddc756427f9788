import FieldLink.Registry
import Mathlib.Data.List.Nodup
import Mathlib.Data.List.Perm.Basic
import Mathlib.Logic.Function.Basic

/-!
# What a registry holds

A registry is a finite map.  What is found under a key is registered there (`get?_eq_some_iff`), a
thing is registered unless there is another under its address (`add_of_notMem`), and the addresses
are those of the things in it, in strictly increasing order (`addresses_perm`,
`addresses_pairwise`).
-/

namespace FieldLink

namespace Registry

variable {α : Type} {address : α → String} {r : Registry address}

theorem get?_eq_some_iff {key : String} {a : α} :
    r.get? key = some a ↔ a ∈ r.entries ∧ address a = key := by
  constructor
  · intro found
    refine ⟨List.mem_of_find?_eq_some found, ?_⟩
    simpa using List.find?_some found
  · rintro ⟨member, rfl⟩
    have known : (r.get? (address a)).isSome := by
      rw [get?, List.find?_isSome]
      exact ⟨a, member, by simp⟩
    obtain ⟨b, found⟩ := Option.isSome_iff_exists.1 known
    have same : address b = address a := by simpa using List.find?_some found
    rw [found, List.inj_on_of_nodup_map r.nodup (List.mem_of_find?_eq_some found) member same]

theorem get?_eq_none_iff {key : String} : r.get? key = none ↔ key ∉ r.entries.map address := by
  simp [get?, List.find?_eq_none]

/-- A thing is registered behind the others if nothing has its address yet. -/
theorem add_of_notMem {a : α} (fresh : address a ∉ r.entries.map address) :
    ∃ r', r.add a = .ok r' ∧ r'.entries = r.entries ++ [a] := by
  rw [add, dif_neg fresh]
  exact ⟨_, rfl, rfl⟩

/-- A thing is taken in behind the others, or refused because its address is in use. -/
theorem add_cases (r : Registry address) (a : α) :
    (address a ∉ r.entries.map address ∧
        ∃ r', r.add a = .ok r' ∧ r'.entries = r.entries ++ [a]) ∨
      (address a ∈ r.entries.map address ∧ r.add a = .error (.alreadyRegistered (address a))) := by
  by_cases known : address a ∈ r.entries.map address
  · exact .inr ⟨known, dif_pos known⟩
  · exact .inl ⟨known, add_of_notMem known⟩

/-- What is taken in is found under its address, and all else as before. -/
theorem get?_of_add {a : α} {r' : Registry address} (fresh : r.get? (address a) = none)
    (entries : r'.entries = r.entries ++ [a]) :
    r'.get? = Function.update r.get? (address a) (some a) := by
  funext key
  rw [get?, entries, List.find?_append]
  by_cases own : key = address a
  · subst own
    rw [Function.update_self, show r.entries.find? (address · = address a) = none from fresh]
    simp
  · rw [Function.update_of_ne own]
    simp [get?, Ne.symm own]

/-- What is removed is not found any more, and all else as before. -/
theorem get?_remove (r : Registry address) (removed : String) :
    (r.remove removed).get? = Function.update r.get? removed none := by
  funext key
  by_cases own : key = removed
  · subst own
    rw [Function.update_self, get?_eq_none_iff]
    simp [remove]
  · rw [Function.update_of_ne own]
    refine Option.ext fun a => ?_
    rw [get?_eq_some_iff, get?_eq_some_iff]
    simp only [remove, List.mem_filter, decide_eq_true_eq, and_assoc, and_congr_right_iff,
      and_iff_right_iff_imp]
    rintro - rfl
    exact own

theorem addresses_perm (r : Registry address) : r.addresses.Perm (r.entries.map address) :=
  List.mergeSort_perm _ _

theorem addresses_pairwise (r : Registry address) : r.addresses.Pairwise (· < ·) := by
  have sorted : r.addresses.Pairwise fun a b => decide (a ≤ b) = true :=
    List.pairwise_mergeSort (fun a b c hab hbc => by
        simp only [decide_eq_true_eq] at *
        exact String.le_trans hab hbc)
      (fun a b => by simpa using String.le_total a b) _
  have nodup : r.addresses.Nodup := r.addresses_perm.nodup_iff.2 r.nodup
  refine (sorted.and nodup).imp fun {a b} ⟨le, ne⟩ => ?_
  rw [decide_eq_true_eq] at le
  by_contra lt
  exact ne (String.le_antisymm le (String.not_lt.1 lt))

end Registry

end FieldLink

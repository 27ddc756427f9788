import FieldLink.Proofs.Lists
import FieldLink.Proofs.Registry.Basic
import Mathlib.Data.List.Induction

/-!
# The history of a registry

A registry is asked for one thing after another, in the order in which its lock lets the requests
in.  What it replies depends on the history of requests and replies alone (`Answers`): a thing is
registered from the request that took it in until its address is given free (`Registered`).  One
request at a time, the history keeps telling what the registry holds (`Reflects.serve`), and so it
does for every sequence of requests (`answers_of_run`).
-/

namespace FieldLink.Registry

/-- What a registry is asked for. -/
inductive Request (α : Type) where
  | add (a : α)
  | get (key : String)
  | remove (key : String)
  | addresses
  | drain

/-- What a registry replies. -/
inductive Reply (α : Type) where
  | added (result : Except LinkError Unit)
  | found (a : Option α)
  | listed (keys : List String)
  | drained (all : List α)

variable {α : Type} {address : α → String}

/-- The reply to a request, and the registry after it. -/
def serve (r : Registry address) : Request α → Reply α × Registry address
  | .add a =>
    match r.add a with
    | .ok r' => (.added (.ok ()), r')
    | .error e => (.added (.error e), r)
  | .get key => (.found (r.get? key), r)
  | .remove key => (.found (r.get? key), r.remove key)
  | .addresses => (.listed r.addresses, r)
  | .drain => (.drained r.drain.1, r.drain.2)

/-- Requests with their replies, the oldest first. -/
abbrev Log (α : Type) := List (Request α × Reply α)

/-- Serves one more request, and takes it down. -/
def record (s : Log α × Registry address) (request : Request α) : Log α × Registry address :=
  (s.1 ++ [(request, (s.2.serve request).1)], (s.2.serve request).2)

/-- Serves requests one after another, where nothing is registered at first. -/
def run (address : α → String) (requests : List (Request α)) : Log α × Registry address :=
  requests.foldl record ([], ⟨[], List.nodup_nil⟩)

/-! ## What the history says -/

/-- The request gives an address free. -/
def Request.Frees (key : String) : Request α → Prop
  | .remove freed => key = freed
  | .drain => True
  | .add _ | .get _ | .addresses => False

/-- The thing was taken in, and its address was not given free since. -/
def Registered (address : α → String) (log : Log α) (a : α) : Prop :=
  ∃ before after, log = before ++ (.add a, .added (.ok ())) :: after ∧
    ∀ entry ∈ after, ¬ entry.1.Frees (address a)

/-- The reply is the right one after a history. -/
def Answers (address : α → String) (log : Log α) : Request α → Reply α → Prop
  | .add a, .added result =>
    (result = .ok () ∧ ∀ b, Registered address log b → address b ≠ address a) ∨
      (result = .error (.alreadyRegistered (address a)) ∧
        ∃ b, Registered address log b ∧ address b = address a)
  | .get key, .found found | .remove key, .found found =>
    ∀ a, found = some a ↔ Registered address log a ∧ address a = key
  | .addresses, .listed keys =>
    keys.Pairwise (· < ·) ∧ ∀ key, key ∈ keys ↔ ∃ a, Registered address log a ∧ address a = key
  | .drain, .drained all => all.Nodup ∧ ∀ a, a ∈ all ↔ Registered address log a
  | _, _ => False

theorem not_registered_nil (a : α) : ¬ Registered address [] a := by
  rintro ⟨before, after, log, -⟩
  exact List.cons_ne_nil _ _ (List.append_eq_nil_iff.1 log.symm).2

/-- One more entry takes a thing in, or leaves it registered unless it gives its address free. -/
theorem registered_concat_iff {log : Log α} {entry : Request α × Reply α} {a : α} :
    Registered address (log ++ [entry]) a ↔
      entry = (.add a, .added (.ok ())) ∨
        (Registered address log a ∧ ¬ entry.1.Frees (address a)) := by
  constructor
  · rintro ⟨before, after, split, kept⟩
    rcases split_concat split with ⟨-, rfl, -⟩ | ⟨rest, rfl, rfl⟩
    · exact .inl rfl
    · refine .inr ⟨⟨before, rest, rfl, fun x mem => kept x ?_⟩, kept entry ?_⟩
      · exact List.mem_append_left _ mem
      · exact List.mem_append_right _ (List.mem_singleton_self _)
  · rintro (rfl | ⟨⟨before, after, rfl, kept⟩, stays⟩)
    · exact ⟨log, [], rfl, fun _ mem => absurd mem List.not_mem_nil⟩
    · refine ⟨before, after ++ [entry], by simp, fun x mem => ?_⟩
      rcases List.mem_append.1 mem with old | new
      · exact kept x old
      · obtain rfl := List.mem_singleton.1 new
        exact stays

/-! ## What one request does -/

/-- The history tells what the registry holds, and each reply was the right one. -/
structure Reflects (log : Log α) (r : Registry address) : Prop where
  mem_iff : ∀ a, a ∈ r.entries ↔ Registered address log a
  answered : ∀ before request reply after, log = before ++ (request, reply) :: after →
    Answers address before request reply

namespace Reflects

variable {log : Log α} {r : Registry address}

theorem get?_iff (reflects : Reflects log r) {key : String} {a : α} :
    r.get? key = some a ↔ Registered address log a ∧ address a = key := by
  rw [get?_eq_some_iff, reflects.mem_iff]

/-- The reply to the next request is the right one. -/
theorem answers (reflects : Reflects log r) (request : Request α) :
    Answers address log request (r.serve request).1 := by
  cases request with
  | add a =>
    rcases r.add_cases a with ⟨fresh, r', added, -⟩ | ⟨known, refused⟩
    · simp only [serve, added]
      refine .inl ⟨rfl, fun b registered same => ?_⟩
      exact fresh (List.mem_map.2 ⟨b, (reflects.mem_iff b).2 registered, same⟩)
    · obtain ⟨b, member, same⟩ := List.mem_map.1 known
      simp only [serve, refused]
      exact .inr ⟨rfl, b, (reflects.mem_iff b).1 member, same⟩
  | get key | remove key => exact fun a => reflects.get?_iff
  | addresses =>
    refine ⟨r.addresses_pairwise, fun key => ?_⟩
    rw [r.addresses_perm.mem_iff, List.mem_map]
    simp only [reflects.mem_iff]
  | drain => exact ⟨r.nodup.of_map, reflects.mem_iff⟩

/-- What is registered after the next request. -/
theorem mem_serve_iff (reflects : Reflects log r) (request : Request α) (a : α) :
    a ∈ (r.serve request).2.entries ↔
      Registered address (log ++ [(request, (r.serve request).1)]) a := by
  rw [registered_concat_iff, ← reflects.mem_iff]
  cases request with
  | add b =>
    rcases r.add_cases b with ⟨-, r', added, entries⟩ | ⟨-, refused⟩
    · have taken : (Request.add b, Reply.added (α := α) (.ok ())) = (.add a, .added (.ok ())) ↔
          a = b := by simp [eq_comm]
      simp only [Registry.serve, added, entries, List.mem_append, List.mem_singleton, taken]
      simp [Request.Frees, Or.comm]
    · simp [serve, refused, Request.Frees]
  | get key | addresses => simp [serve, Request.Frees]
  | remove key => simp [serve, Registry.remove, Request.Frees]
  | drain => simp [serve, Registry.drain, Request.Frees]

/-- A registry that reflects its history does so after one more request. -/
theorem serve (reflects : Reflects log r) (request : Request α) :
    Reflects (log ++ [(request, (r.serve request).1)]) (r.serve request).2 where
  mem_iff := reflects.mem_serve_iff request
  answered before other reply after split := by
    rcases split_concat split with ⟨rfl, same, -⟩ | ⟨rest, -, shorter⟩
    · obtain ⟨rfl, rfl⟩ := Prod.mk.inj same
      exact reflects.answers request
    · exact reflects.answered before other reply rest shorter

end Reflects

/-! ## Histories of any length -/

theorem run_concat (address : α → String) (requests : List (Request α)) (request : Request α) :
    run address (requests ++ [request]) = record (run address requests) request :=
  List.foldl_concat ..

/-- The history has the requests as they were made, each with its reply. -/
theorem map_fst_run (address : α → String) (requests : List (Request α)) :
    (run address requests).1.map Prod.fst = requests := by
  induction requests using List.reverseRecOn with
  | nil => rfl
  | append_singleton requests request ih =>
    rw [run_concat, record, List.map_append, ih, List.map_singleton]

/-- The history of any sequence of requests tells what the registry holds. -/
theorem reflects_run (address : α → String) (requests : List (Request α)) :
    Reflects (run address requests).1 (run address requests).2 := by
  induction requests using List.reverseRecOn with
  | nil =>
    exact
      { mem_iff := fun a => iff_of_false List.not_mem_nil (not_registered_nil a)
        answered := fun before _ _ after split =>
          absurd (List.append_eq_nil_iff.1 split.symm).2 (List.cons_ne_nil _ _) }
  | append_singleton requests request ih =>
    rw [run_concat]
    exact ih.serve request

/-- A free address is taken: what is found there afterwards is the new thing. -/
theorem serve_add_of_none {r : Registry address} {a : α} (free : r.get? (address a) = none) :
    (r.serve (.add a)).1 = .added (.ok ()) ∧
      (r.serve (.add a)).2.get? = Function.update r.get? (address a) (some a) := by
  obtain ⟨r', added, entries⟩ := add_of_notMem (get?_eq_none_iff.1 free)
  simp only [serve, added]
  exact ⟨trivial, get?_of_add free entries⟩

/-- An address in use is refused, and nothing changes. -/
theorem serve_add_of_some {r : Registry address} {a b : α} (used : r.get? (address a) = some b) :
    r.serve (.add a) = (.added (.error (.alreadyRegistered (address a))), r) := by
  have known : address a ∈ r.entries.map address := by
    by_contra fresh
    exact Option.some_ne_none b (used.symm.trans (get?_eq_none_iff.2 fresh))
  have refused : r.add a = .error (.alreadyRegistered (address a)) := dif_pos known
  rw [serve, refused]

/-- A registry is a finite map under the own address of each thing, whatever is asked of it.  Each
request is served in its turn, its reply is the right one after the history before it, and what is
found under an address is what the history says is registered there.  A thing is taken in if its
address is free, and refused otherwise with the registry left as it is.  What is removed leaves its
address free and the others as they are. -/
theorem answers_of_run (address : α → String) (requests : List (Request α)) :
    let log := (run address requests).1
    let r := (run address requests).2
    log.map Prod.fst = requests ∧
    (∀ before request reply after, log = before ++ (request, reply) :: after →
      Answers address before request reply) ∧
    (∀ key a, r.get? key = some a ↔ Registered address log a ∧ address a = key) ∧
    (∀ a, r.get? (address a) = none →
      (r.serve (.add a)).1 = .added (.ok ()) ∧
        (r.serve (.add a)).2.get? = Function.update r.get? (address a) (some a)) ∧
    (∀ a b, r.get? (address a) = some b →
      r.serve (.add a) = (.added (.error (.alreadyRegistered (address a))), r)) ∧
    ∀ key, (r.serve (.remove key)).2.get? = Function.update r.get? key none ∧
      ∀ a, address a = key → ((r.serve (.remove key)).2.serve (.add a)).1 = .added (.ok ()) := by
  intro log r
  have reflects : Reflects log r := reflects_run address requests
  refine ⟨map_fst_run address requests, reflects.answered, fun _ _ => reflects.get?_iff,
    fun _ => serve_add_of_none, fun _ _ => serve_add_of_some,
    fun key => ⟨r.get?_remove key, ?_⟩⟩
  rintro a rfl
  have free := congrFun (r.get?_remove (address a)) (address a)
  rw [Function.update_self] at free
  exact (serve_add_of_none free).1

/-- A second thing under an address is refused until the first is removed.  What is asked for is
then found under its own address, and all that is registered is handed over in the end. -/
theorem answers_of_run_competing :
    let requests : List (Request (String × Nat)) :=
      [.add ("COM2", 1), .add ("COM1", 2), .add ("COM2", 3), .remove "COM2", .add ("COM2", 3),
        .get "COM2", .addresses, .drain, .get "COM2"]
    let replies : List (Reply (String × Nat)) :=
      [.added (.ok ()), .added (.ok ()), .added (.error (.alreadyRegistered "COM2")),
        .found (some ("COM2", 1)), .added (.ok ()), .found (some ("COM2", 3)),
        .listed ["COM1", "COM2"], .drained [("COM1", 2), ("COM2", 3)], .found none]
    (run Prod.fst requests).1 = requests.zip replies ∧
      (∀ a, Registered Prod.fst ((requests.zip replies).take 7) a ↔
        a = ("COM1", 2) ∨ a = ("COM2", 3)) ∧
      ((run Prod.fst requests).2.serve (.add ("COM2", 4))).1 = .added (.ok ()) := by
  intro requests replies
  obtain ⟨served, answered, -, taken, -⟩ := answers_of_run Prod.fst requests
  have sorted : ["COM1", "COM2"].mergeSort (· ≤ ·) = ["COM1", "COM2"] :=
    List.mergeSort_of_pairwise (by decide)
  have replied : (run Prod.fst requests).1.map Prod.snd = replies := by
    -- all but the sorting is evaluated
    show [_, _, _, _, _, _, Reply.listed (["COM1", "COM2"].mergeSort (· ≤ ·)), _, _] = _
    rw [sorted]
    rfl
  have log : (run Prod.fst requests).1 = requests.zip replies := List.zip_of_prod served replied
  have drained := answered ((requests.zip replies).take 7) .drain
    (.drained [("COM1", 2), ("COM2", 3)]) [(.get "COM2", .found none)] log
  refine ⟨log, fun a => ?_, (taken ("COM2", 4) rfl).1⟩
  rw [← drained.2 a, List.mem_cons, List.mem_singleton]

end FieldLink.Registry

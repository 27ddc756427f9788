import FieldLink.Proofs.Link.FrameHandling

/-!
# The ledger

`Ledger` says how the notes of a run and the shelves of its sessions agree: what was accepted into a
session is what its writer took and what is queued, and what the writer took is what was settled and
at most one frame more.  A handling keeps the ledger (`Ledger.handling`), and a session whose writer
is gone gets no more notes (`Handling.of_isDeaf`).
-/

namespace FieldLink

/-- A frame is written when all that were accepted before it are settled. -/
def InTurn (notes : List Note) : Prop :=
  ∀ id frame before, before ++ [.wrote id frame] <+: notes →
    before.filterMap (Note.settled? id) ++ [frame] <+: before.filterMap (Note.accepted? id)

/-- The notes and the shelves of a link with queues of some capacity agree. -/
structure Ledger (capacity : Nat) (shelves : List Shelf) (notes : List Note) : Prop where
  balance : ∀ id shelf, shelves[id]? = some shelf → ∃ hand, shelf.writer.Holds hand ∧
    notes.filterMap (Note.taken? id) = notes.filterMap (Note.settled? id) ++ hand ∧
    notes.filterMap (Note.accepted? id) = notes.filterMap (Note.taken? id) ++ shelf.queue
  /-- There are no notes of sessions to come. -/
  blank : ∀ id, shelves.length ≤ id → ∀ note ∈ notes, note.isOf id = false
  inTurn : InTurn notes
  room : ∀ shelf ∈ shelves, shelf.queue.length ≤ capacity

/-! ## Notes that say nothing of a session -/

namespace Note

theorem accepted?_of_isOf {id : Nat} {note : Note} (other : note.isOf id = false) :
    note.accepted? id = none := by
  cases note <;> simp_all [isOf, accepted?]

theorem taken?_of_isOf {id : Nat} {note : Note} (other : note.isOf id = false) :
    note.taken? id = none := by
  cases note <;> simp_all [isOf, taken?]

theorem wrote?_of_isOf {id : Nat} {note : Note} (other : note.isOf id = false) :
    note.wrote? id = none := by
  cases note <;> simp_all [isOf, wrote?]

theorem settled?_of_isOf {id : Nat} {note : Note} (other : note.isOf id = false) :
    note.settled? id = none := by
  cases note with
  | reported session event =>
    cases session with
    | none => rfl
    | some session =>
      by_cases same : session = id
      · cases settles : event.settled? with
        | none => simp [settled?, settles]
        | some frame => simp [isOf, same, settles] at other
      · simp [settled?, same]
  | _ => rfl

theorem isOf_of_isQuiet {note : Note} (quiet : note.isQuiet) (id : Nat) :
    note.isOf id = false := by
  cases note <;> simp_all [isQuiet, isOf]

end Note

section

variable {id : Nat} {notes new : List Note}

theorem filterMap_accepted?_eq_nil (other : ∀ note ∈ new, note.isOf id = false) :
    new.filterMap (Note.accepted? id) = [] :=
  List.filterMap_eq_nil_iff.2 fun note h => Note.accepted?_of_isOf (other note h)

theorem filterMap_accepted?_append (other : ∀ note ∈ new, note.isOf id = false) :
    (notes ++ new).filterMap (Note.accepted? id) = notes.filterMap (Note.accepted? id) := by
  rw [List.filterMap_append, filterMap_accepted?_eq_nil other, List.append_nil]

theorem filterMap_taken?_eq_nil (other : ∀ note ∈ new, note.isOf id = false) :
    new.filterMap (Note.taken? id) = [] :=
  List.filterMap_eq_nil_iff.2 fun note h => Note.taken?_of_isOf (other note h)

theorem filterMap_taken?_append (other : ∀ note ∈ new, note.isOf id = false) :
    (notes ++ new).filterMap (Note.taken? id) = notes.filterMap (Note.taken? id) := by
  rw [List.filterMap_append, filterMap_taken?_eq_nil other, List.append_nil]

theorem filterMap_settled?_eq_nil (other : ∀ note ∈ new, note.isOf id = false) :
    new.filterMap (Note.settled? id) = [] :=
  List.filterMap_eq_nil_iff.2 fun note h => Note.settled?_of_isOf (other note h)

theorem filterMap_settled?_append (other : ∀ note ∈ new, note.isOf id = false) :
    (notes ++ new).filterMap (Note.settled? id) = notes.filterMap (Note.settled? id) := by
  rw [List.filterMap_append, filterMap_settled?_eq_nil other, List.append_nil]

theorem filterMap_wrote?_eq_nil (other : ∀ note ∈ new, note.isOf id = false) :
    new.filterMap (Note.wrote? id) = [] :=
  List.filterMap_eq_nil_iff.2 fun note h => Note.wrote?_of_isOf (other note h)

theorem filterMap_wrote?_append (other : ∀ note ∈ new, note.isOf id = false) :
    (notes ++ new).filterMap (Note.wrote? id) = notes.filterMap (Note.wrote? id) := by
  rw [List.filterMap_append, filterMap_wrote?_eq_nil other, List.append_nil]

end

/-! ## Keeping the ledger -/

theorem InTurn.concat {notes : List Note} {note : Note} (inTurn : InTurn notes)
    (written : ∀ id frame, note = .wrote id frame →
      notes.filterMap (Note.settled? id) ++ [frame] <+: notes.filterMap (Note.accepted? id)) :
    InTurn (notes ++ [note]) := by
  intro id frame before start
  rcases List.prefix_concat_iff.1 start with eq | start
  · obtain ⟨rfl, last⟩ := List.append_inj' eq rfl
    exact written id frame (List.singleton_inj.1 last).symm
  · exact inTurn id frame before start

theorem InTurn.append {new : List Note} (unwritten : ∀ id frame, .wrote id frame ∉ new) :
    ∀ {notes : List Note}, InTurn notes → InTurn (notes ++ new) := by
  induction new with
  | nil =>
    intro notes inTurn
    rwa [List.append_nil]
  | cons note new ih =>
    intro notes inTurn
    rw [List.append_cons]
    refine ih (fun id frame member => unwritten id frame (.tail _ member))
      (inTurn.concat fun id frame eq => ?_)
    exact absurd (eq ▸ .head _) (unwritten id frame)

namespace Ledger

variable {capacity : Nat} {shelves : List Shelf} {notes new : List Note}

/-- Nothing is noted of frames. -/
theorem quiet (ledger : Ledger capacity shelves notes) (quiet : ∀ note ∈ new, note.isQuiet) :
    Ledger capacity shelves (notes ++ new) where
  balance id shelf at_id := by
    have other : ∀ note ∈ new, note.isOf id = false := fun note h =>
      Note.isOf_of_isQuiet (quiet note h) id
    rw [filterMap_accepted?_append other, filterMap_taken?_append other,
      filterMap_settled?_append other]
    exact ledger.balance id shelf at_id
  blank id late note member := by
    rcases List.mem_append.1 member with old | member
    · exact ledger.blank id late note old
    · exact Note.isOf_of_isQuiet (quiet note member) id
  inTurn := ledger.inTurn.append fun id frame member => by
    simpa [Note.isQuiet] using quiet _ member
  room := ledger.room

/-- One shelf changes, and all that is noted is of its session. -/
theorem put {id : Nat} {shelf shelf' : Shelf} (ledger : Ledger capacity shelves notes)
    (at_id : shelves[id]? = some shelf)
    (apart : ∀ other ≠ id, ∀ note ∈ new, note.isOf other = false) (inTurn : InTurn (notes ++ new))
    (room : shelf'.queue.length ≤ capacity)
    (balance : ∃ hand, shelf'.writer.Holds hand ∧
      (notes ++ new).filterMap (Note.taken? id) =
        (notes ++ new).filterMap (Note.settled? id) ++ hand ∧
      (notes ++ new).filterMap (Note.accepted? id) =
        (notes ++ new).filterMap (Note.taken? id) ++ shelf'.queue) :
    Ledger capacity (shelves.set id shelf') (notes ++ new) where
  balance other shelf'' at_other := by
    rcases eq_or_ne other id with rfl | ne
    · obtain rfl : shelf' = shelf'' := by
        have bound := (List.getElem?_eq_some_iff.1 at_id).1
        simpa [bound] using at_other
      exact balance
    · rw [List.getElem?_set_ne ne.symm] at at_other
      have apart := apart other ne
      rw [filterMap_accepted?_append apart, filterMap_taken?_append apart,
        filterMap_settled?_append apart]
      exact ledger.balance other shelf'' at_other
  blank other late note member := by
    have bound := (List.getElem?_eq_some_iff.1 at_id).1
    rw [List.length_set] at late
    rcases List.mem_append.1 member with old | member
    · exact ledger.blank other late note old
    · exact apart other (by omega) note member
  inTurn := inTurn
  room shelf'' member := by
    rcases List.mem_or_eq_of_mem_set member with old | rfl
    · exact ledger.room shelf'' old
    · exact room

/-- A session is opened. -/
theorem opened {shelf : Shelf} (ledger : Ledger capacity shelves notes) (empty : shelf.queue = [])
    (holds : shelf.writer.Holds []) : Ledger capacity (shelves ++ [shelf]) notes where
  balance id shelf' at_id := by
    rcases getElem?_concat_cases at_id with old | ⟨rfl, rfl⟩
    · exact ledger.balance id shelf' old
    · have blank := ledger.blank shelves.length (Nat.le_refl _)
      refine ⟨[], holds, ?_⟩
      rw [filterMap_accepted?_eq_nil blank, filterMap_taken?_eq_nil blank,
        filterMap_settled?_eq_nil blank, empty]
      exact ⟨rfl, rfl⟩
  blank id late := ledger.blank id (by simp at late; omega)
  inTurn := ledger.inTurn
  room shelf' member := by
    rcases List.mem_append.1 member with old | new
    · exact ledger.room shelf' old
    · rw [List.mem_singleton.1 new, empty]
      exact Nat.zero_le _

/-- What was accepted into a session begins with what was settled and what is in hand. -/
theorem settled_prefix {id : Nat} {shelf : Shelf} {frame : Frame}
    (ledger : Ledger capacity shelves notes) (at_id : shelves[id]? = some shelf)
    (held : ∀ hand, shelf.writer.Holds hand → hand = [frame]) :
    notes.filterMap (Note.settled? id) ++ [frame] <+: notes.filterMap (Note.accepted? id) := by
  obtain ⟨hand, holds, taken, accepted⟩ := ledger.balance id shelf at_id
  rw [accepted, taken, held hand holds]
  exact List.prefix_append _ _

/-- A handling keeps the ledger. -/
theorem handling {shelves' : List Shelf} (ledger : Ledger capacity shelves notes)
    (step : Handling capacity shelves new shelves') : Ledger capacity shelves' (notes ++ new) := by
  cases step with
  | pass quiet => exact ledger.quiet quiet
  | @accept id shelf frame at_id hears room =>
    obtain ⟨hand, holds, taken, accepted⟩ := ledger.balance id shelf at_id
    refine ledger.put at_id ?_ (ledger.inTurn.concat (by simp)) ?_ ⟨hand, holds, ?_, ?_⟩
    · intro other ne note member
      simp_all [Note.isOf, ne.symm]
    · simp only [List.length_append, List.length_singleton]
      omega
    · simpa [List.filterMap_cons, Note.taken?, Note.settled?] using taken
    · simp [Note.taken?, Note.accepted?, accepted]
  | @take id frame queue at_id =>
    obtain ⟨hand, holds, taken, accepted⟩ := ledger.balance id _ at_id
    obtain rfl : hand = [] := holds
    refine ledger.put at_id ?_ (ledger.inTurn.concat (by simp)) ?_ ⟨[frame], rfl, ?_, ?_⟩
    · intro other ne note member
      simp_all [Note.isOf, ne.symm]
    · have room := ledger.room _ (List.mem_of_getElem? at_id)
      simp only [List.length_cons] at room
      show queue.length ≤ capacity
      omega
    · simp [Note.taken?, Note.settled?, taken]
    · simp [Note.taken?, Note.accepted?, accepted]
  | @write id shelf frame phase at_id hears held holds =>
    obtain ⟨hand, before, taken, accepted⟩ := ledger.balance id shelf at_id
    obtain rfl := held hand before
    refine ledger.put at_id ?_ (ledger.inTurn.concat ?_) ?_ ⟨[frame], holds, ?_, ?_⟩
    · intro other ne note member
      simp_all [Note.isOf, ne.symm]
    · rintro _ _ ⟨⟩
      exact ledger.settled_prefix at_id held
    · exact ledger.room shelf (List.mem_of_getElem? at_id)
    · simpa [List.filterMap_cons, Note.taken?, Note.settled?] using taken
    · simpa [List.filterMap_cons, Note.taken?, Note.accepted?] using accepted
  | @settle id shelf frame event at_id hears held settles =>
    obtain ⟨hand, before, taken, accepted⟩ := ledger.balance id shelf at_id
    obtain rfl := held hand before
    refine ledger.put at_id ?_ (ledger.inTurn.concat (by simp)) ?_ ⟨[], rfl, ?_, ?_⟩
    · intro other ne note member
      simp_all [Note.isOf, ne.symm]
    · exact ledger.room shelf (List.mem_of_getElem? at_id)
    · simp [Note.taken?, Note.settled?, taken, settles]
    · simpa [List.filterMap_cons, Note.taken?, Note.accepted?] using accepted
  | @advance _ id shelf phase at_id hears quiet holds =>
    have other : ∀ id, ∀ note ∈ new, note.isOf id = false := fun id note h =>
      Note.isOf_of_isQuiet (quiet note h) id
    obtain ⟨hand, before, taken, accepted⟩ := ledger.balance id shelf at_id
    refine ledger.put at_id (fun id _ => other id) (ledger.quiet quiet).inTurn ?_
      ⟨hand, holds hand before, ?_⟩
    · exact ledger.room shelf (List.mem_of_getElem? at_id)
    · rw [filterMap_accepted?_append (other id), filterMap_taken?_append (other id),
        filterMap_settled?_append (other id)]
      exact ⟨taken, accepted⟩

end Ledger

/-- A session whose writer is gone keeps its shelf, and nothing more is noted of it. -/
theorem Handling.of_isDeaf {capacity id : Nat} {shelves shelves' : List Shelf} {notes : List Note}
    {shelf : Shelf} (step : Handling capacity shelves notes shelves')
    (at_id : shelves[id]? = some shelf) (deaf : shelf.isDeaf) :
    shelves'[id]? = some shelf ∧ ∀ note ∈ notes, note.isOf id = false := by
  have ne_of : ∀ other shelf', shelves[other]? = some shelf' → shelf'.isDeaf = false →
      other ≠ id := by
    rintro other shelf' at_other hears rfl
    rw [at_id] at at_other
    cases at_other
    rw [deaf] at hears
    exact absurd hears (by decide)
  cases step with
  | pass quiet => exact ⟨at_id, fun note h => Note.isOf_of_isQuiet (quiet note h) id⟩
  | advance shelf' at_other served quiet =>
    have ne := ne_of _ _ at_other (Shelf.isDeaf_of_isServed served)
    rw [List.getElem?_set_ne ne]
    exact ⟨at_id, fun note h => Note.isOf_of_isQuiet (quiet note h) id⟩
  | take at_other =>
    have ne := ne_of _ _ at_other rfl
    rw [List.getElem?_set_ne ne]
    exact ⟨at_id, by simp [Note.isOf, ne]⟩
  | accept shelf' frame at_other hears =>
    have ne := ne_of _ _ at_other hears
    rw [List.getElem?_set_ne ne]
    exact ⟨at_id, by simp [Note.isOf, ne]⟩
  | write shelf' at_other served | settle shelf' at_other served =>
    have ne := ne_of _ _ at_other (Shelf.isDeaf_of_isServed served)
    rw [List.getElem?_set_ne ne]
    exact ⟨at_id, by simp [Note.isOf, ne]⟩

theorem Handling.length_eq {capacity : Nat} {shelves shelves' : List Shelf} {notes : List Note}
    (step : Handling capacity shelves notes shelves') : shelves'.length = shelves.length := by
  cases step <;> simp

/-- A writer that was not begun is not begun by a handling. -/
theorem Handling.of_unborn {capacity id : Nat} {shelves shelves' : List Shelf} {notes : List Note}
    {shelf : Shelf} (step : Handling capacity shelves notes shelves')
    (at_id : shelves[id]? = some shelf) (unborn : shelf.writer = .unborn) :
    ∃ shelf', shelves'[id]? = some shelf' ∧ shelf'.writer = .unborn := by
  have ne_of : ∀ other shelf', shelves[other]? = some shelf' → shelf'.isServed → other ≠ id := by
    rintro other shelf' at_other served rfl
    rw [at_id] at at_other
    cases at_other
    simp [Shelf.isServed, unborn] at served
  cases step with
  | pass quiet => exact ⟨shelf, at_id, unborn⟩
  | @accept other shelf' frame at_other =>
    by_cases ne : other = id
    · subst ne
      obtain rfl : shelf = shelf' := by simpa [at_id] using at_other
      have bound := (List.getElem?_eq_some_iff.1 at_id).1
      exact ⟨{ shelf with queue := shelf.queue ++ [frame] }, List.getElem?_set_self bound, unborn⟩
    · exact ⟨shelf, by rwa [List.getElem?_set_ne ne], unborn⟩
  | take at_other =>
    have ne := ne_of _ _ at_other rfl
    exact ⟨shelf, by rwa [List.getElem?_set_ne ne], unborn⟩
  | write shelf' at_other served | settle shelf' at_other served | advance shelf' at_other served =>
    have ne := ne_of _ _ at_other served
    exact ⟨shelf, by rwa [List.getElem?_set_ne ne], unborn⟩

end FieldLink

import FieldLink.Proofs.Link.Ledger
import FieldLink.Proofs.Link.Start

/-!
# Keeping the ledger

Whatever a link's loops and calls do, in any order, the notes and the shelves agree (`Kept.run`).
Only the starts need a second look, since they make the shelves and put the writers to work: the one
that holds on to the current session is alone, and the writer that it is to begin was not begun
(`StartsApart`).
-/

namespace FieldLink

/-! ## Starts that hold on to the current session -/

namespace StartPhase

/-- Whether a start holds on to the current session. -/
def isInside : StartPhase → Bool
  | enter | done _ | broken => false
  | _ => true

/-- The session whose writer a start is to begin. -/
def unbegun? : StartPhase → Option Nat
  | forgetFailure id | clear id | count id | plug id | accept id | launch .reader id
  | launch .writer id => some id
  | _ => none

theorem isInside_of_unbegun? {phase : StartPhase} {id : Nat} (unbegun : phase.unbegun? = some id) :
    phase.isInside := by
  cases phase <;> first | rfl | cases unbegun

end StartPhase

/-- One start at most holds on to the current session, and it is to begin an unborn writer. -/
structure StartsApart {σ : Type} (s : Scene σ) : Prop where
  locked : ∀ (i : Nat) (phase : StartPhase), s.calls[i]? = some (Call.start phase) →
    phase.isInside → s.link.locked
  alone : ∀ (i j : Nat) (phase phase' : StartPhase), s.calls[i]? = some (Call.start phase) →
    s.calls[j]? = some (Call.start phase') → phase.isInside → phase'.isInside → i = j
  next : ∀ (i id : Nat), s.calls[i]? = some (Call.start (.makeQueue id)) →
    id = s.link.shelves.length
  unbegun : ∀ (i : Nat) (phase : StartPhase) (id : Nat), s.calls[i]? = some (Call.start phase) →
    phase.unbegun? = some id → ∃ shelf, s.link.shelves[id]? = some shelf ∧ shelf.writer = .unborn

namespace Link

variable {σ : Type}

/-- What one step of a start does to the shelves. -/
theorem shelves_startStep (T : Transport σ) (phase : StartPhase) (l : Link σ) :
    (l.startStep T phase).2.shelves =
      match phase with
      | .makeQueue _ =>
        if maxQueueCapacity < l.options.queueCapacity.toNat then l.shelves
        else l.shelves ++ [⟨[], .unborn⟩]
      | .launch .writer id => l.shelves.modify id fun shelf => { shelf with writer := .look }
      | _ => l.shelves := by
  cases phase with
  | makeQueue id =>
    simp only [startStep]
    split
    · rfl
    · simp [shelves, Session.shelf]
  | launch loop id =>
    cases loop with
    | reader | poller => exact shelves_update id _ l fun _ => rfl
    | writer => exact shelves_update_eq_modify l fun _ => rfl
  | enter => simp only [startStep]; split <;> rfl
  | check =>
    obtain ⟨state, same⟩ := l.startStep_check T
    rw [same]
    rfl
  | openUp => simp only [startStep]; cases T.openWith l.options l.device <;> rfl
  | discard | refuse | forgetFailure | clear | count | plug | accept | store | report | leave
    | done | broken => rfl

theorem options_startStep (T : Transport σ) (phase : StartPhase) (l : Link σ) :
    (l.startStep T phase).2.options = l.options := by
  cases phase with
  | makeQueue id | enter => simp only [startStep]; split <;> rfl
  | check =>
    obtain ⟨state, same⟩ := l.startStep_check T
    rw [same]
  | openUp => simp only [startStep]; cases T.openWith l.options l.device <;> rfl
  | discard | refuse | forgetFailure | clear | count | plug | accept | launch | store | report
    | leave | done | broken => rfl

end Link

namespace StartsApart

variable {σ : Type} {s s' : Scene σ}

/-- A step of anything but a start. -/
theorem keep (apart : StartsApart s)
    (calls : ∀ (j : Nat) (phase : StartPhase), s'.calls[j]? = some (Call.start phase) →
      s.calls[j]? = some (Call.start phase) ∨ phase = .enter)
    (locked : s'.link.locked = s.link.locked)
    (length : s'.link.shelves.length = s.link.shelves.length)
    (unborn : ∀ (id : Nat) (shelf : Shelf), s.link.shelves[id]? = some shelf →
      shelf.writer = .unborn →
        ∃ shelf', s'.link.shelves[id]? = some shelf' ∧ shelf'.writer = .unborn) :
    StartsApart s' := by
  have old : ∀ (j : Nat) (phase : StartPhase), s'.calls[j]? = some (Call.start phase) →
      phase.isInside → s.calls[j]? = some (Call.start phase) := by
    intro j phase at_j inside
    rcases calls j phase at_j with h | rfl
    · exact h
    · cases inside
  refine ⟨?_, ?_, ?_, ?_⟩
  · intro j phase at_j inside
    rw [locked]
    exact apart.locked j phase (old j phase at_j inside) inside
  · intro i j phase phase' at_i at_j inside inside'
    exact apart.alone i j phase phase' (old i phase at_i inside) (old j phase' at_j inside') inside
      inside'
  · intro j id at_j
    rw [length]
    exact apart.next j id (old j _ at_j rfl)
  · intro j phase id at_j unbegun
    have inside := StartPhase.isInside_of_unbegun? unbegun
    obtain ⟨shelf, at_id, writer⟩ := apart.unbegun j phase id (old j phase at_j inside) unbegun
    exact unborn id shelf at_id writer

/-- A step of a start that holds on to the current session, or gets hold of it. -/
theorem move {i : Nat} {phase phase' : StartPhase} {link : Link σ} {notes : List Note}
    (apart : StartsApart s) (at_i : s.calls[i]? = some (Call.start phase))
    (enters : phase.isInside ∨ s.link.locked = false) (locked : phase'.isInside → link.locked)
    (next : ∀ id, phase' = .makeQueue id → id = link.shelves.length)
    (unbegun : ∀ id, phase'.unbegun? = some id →
      ∃ shelf, link.shelves[id]? = some shelf ∧ shelf.writer = .unborn) :
    StartsApart { link, calls := s.calls.set i (.start phase'), notes } := by
  have bound := (List.getElem?_eq_some_iff.1 at_i).1
  have inside_eq : ∀ (j : Nat) (other : StartPhase),
      (s.calls.set i (.start phase'))[j]? = some (Call.start other) → other.isInside →
        j = i ∧ other = phase' := by
    intro j other at_j inside
    rcases getElem?_set_cases at_j with ⟨rfl, same⟩ | ⟨own, at_j⟩
    · exact ⟨rfl, Call.start.inj same⟩
    · rcases enters with h | h
      · exact absurd (apart.alone i j phase other at_i at_j h inside) own
      · have held := apart.locked j other at_j inside
        rw [h] at held
        cases held
  refine ⟨?_, ?_, ?_, ?_⟩
  · intro j other at_j inside
    obtain ⟨-, rfl⟩ := inside_eq j other at_j inside
    exact locked inside
  · intro j k other other' at_j at_k inside inside'
    rw [(inside_eq j other at_j inside).1, (inside_eq k other' at_k inside').1]
  · intro j id at_j
    exact next id (inside_eq j _ at_j rfl).2.symm
  · intro j other id at_j h
    have inside := StartPhase.isInside_of_unbegun? h
    obtain ⟨-, rfl⟩ := inside_eq j other at_j inside
    exact unbegun id h

end StartsApart

/-! ## What one action does to the shelves -/

/-- A handling, or the step of a start that makes a shelf or puts its writer to work. -/
inductive Turnover (capacity : Nat) : List Shelf → List Note → List Shelf → Prop
  | handling {shelves shelves' : List Shelf} {notes : List Note}
      (step : Handling capacity shelves notes shelves') : Turnover capacity shelves notes shelves'
  | open (shelves : List Shelf) : Turnover capacity shelves [] (shelves ++ [⟨[], .unborn⟩])
  | launch {shelves : List Shelf} {id : Nat} {queue : List Frame}
      (at_id : shelves[id]? = some ⟨queue, .unborn⟩) :
      Turnover capacity shelves [] (shelves.set id ⟨queue, .look⟩)

theorem Ledger.turnover {capacity : Nat} {shelves shelves' : List Shelf} {notes new : List Note}
    (ledger : Ledger capacity shelves notes) (step : Turnover capacity shelves new shelves') :
    Ledger capacity shelves' (notes ++ new) := by
  cases step with
  | handling step => exact ledger.handling step
  | «open» =>
    rw [List.append_nil]
    exact ledger.opened rfl rfl
  | @launch id queue at_id =>
    obtain ⟨hand, holds, taken, accepted⟩ := ledger.balance id _ at_id
    refine ledger.put at_id (by rintro _ _ _ ⟨⟩) ?_ ?_ ⟨hand, holds, ?_, ?_⟩
    · rw [List.append_nil]
      exact ledger.inTurn
    · exact ledger.room ⟨queue, .unborn⟩ (List.mem_of_getElem? at_id)
    · rw [List.append_nil]
      exact taken
    · rw [List.append_nil]
      exact accepted

theorem Turnover.of_isDeaf {capacity id : Nat} {shelves shelves' : List Shelf} {notes : List Note}
    {shelf : Shelf} (step : Turnover capacity shelves notes shelves')
    (at_id : shelves[id]? = some shelf) (deaf : shelf.isDeaf) :
    shelves'[id]? = some shelf ∧ ∀ note ∈ notes, note.isOf id = false := by
  cases step with
  | handling step => exact step.of_isDeaf at_id deaf
  | «open» =>
    rw [List.getElem?_append_left (List.getElem?_eq_some_iff.1 at_id).1]
    exact ⟨at_id, by rintro _ ⟨⟩⟩
  | @launch other queue at_other =>
    have ne : other ≠ id := by
      rintro rfl
      rw [at_other] at at_id
      cases at_id
      cases deaf
    rw [List.getElem?_set_ne ne]
    exact ⟨at_id, by rintro _ ⟨⟩⟩

namespace Scene

variable {σ : Type}

/-- A step of a start makes a shelf, puts a writer to work, or leaves the shelves as they are. -/
theorem turnover_startStep (T : Transport σ) {i : Nat} {phase : StartPhase} {s : Scene σ}
    (starts : StartsApart s) (at_i : s.calls[i]? = some (Call.start phase)) :
    Turnover s.link.options.queueCapacity.toNat s.link.shelves
      (phase.events.map (.reported none)) (s.link.startStep T phase).2.shelves := by
  have still : ∀ events : List LinkEvent, (∀ event ∈ events, event.settled? = none) →
      Turnover s.link.options.queueCapacity.toNat s.link.shelves (events.map (.reported none))
        s.link.shelves := by
    intro events traffic
    refine .handling (.pass fun note member => ?_)
    obtain ⟨event, reported, rfl⟩ := List.mem_map.1 member
    simp [Note.isQuiet, traffic event reported]
  rw [Link.shelves_startStep]
  cases phase with
  | makeQueue id =>
    simp only
    split
    · exact still [] (by rintro _ ⟨⟩)
    · exact .open _
  | launch loop id =>
    cases loop with
    | reader | poller => exact still [] (by rintro _ ⟨⟩)
    | writer =>
      obtain ⟨⟨queue, writer⟩, at_id, rfl⟩ := starts.unbegun i _ id at_i rfl
      simp only
      rw [modify_eq_set_of_getElem? at_id]
      exact .launch at_id
  | report => exact still [.opened] (by simp [LinkEvent.settled?])
  | enter | check | discard | openUp | refuse | forgetFailure | clear | count | plug | accept
    | store | leave | done | broken => exact still [] (by rintro _ ⟨⟩)

theorem isStart_step (T : Transport σ) {c : Call} {phase : StartPhase} (l : Link σ)
    (is_start : (c.step T l).1 = .start phase) : ∃ before, c = .start before := by
  cases c with
  | start before => exact ⟨before, rfl⟩
  | send | close => cases is_start
  | stopPolling returned =>
    cases returned with
    | true => cases is_start
    | false =>
      simp only [Call.step] at is_start
      split at is_start <;> cases is_start

theorem act_call (T : Transport σ) {number : Nat} {s : Scene σ} {c : Call}
    (at_number : s.calls[number]? = some c) :
    s.act T (.call number) =
      { link := (c.step T s.link).2
        calls := s.calls.set number (c.step T s.link).1
        notes := s.notes ++
          (c.notes s.link ++ Link.eventNotes none s.link (c.step T s.link).2) } := by
  simp [act, at_number]

theorem act_reader (T : Transport σ) {s : Scene σ} {id : Nat} {x : Session}
    (at_id : s.link.sessions[id]? = some x) :
    (s.act T (.loop ⟨id, .reader⟩)).link = s.link.readerStep T id x := by
  simp only [act, Link.step, at_id]

theorem act_writer (T : Transport σ) {s : Scene σ} {id : Nat} {x : Session}
    (at_id : s.link.sessions[id]? = some x) :
    (s.act T (.loop ⟨id, .writer⟩)).link = s.link.writerStep T id x := by
  simp only [act, Link.step, at_id]

theorem act_poller (T : Transport σ) {s : Scene σ} {id : Nat} {x : Session}
    (at_id : s.link.sessions[id]? = some x) :
    (s.act T (.loop ⟨id, .poller⟩)).link = s.link.pollerStep id x := by
  simp only [act, Link.step, at_id]

/-- The loops of a session that was not made do nothing. -/
theorem act_loop_of_none (T : Transport σ) {s : Scene σ} {p : Place}
    (at_id : s.link.sessions[p.session]? = none) : (s.act T (.loop p)).link = s.link := by
  simp only [act, Link.step, at_id]

/-- What an action notes, and what it does to the shelves. -/
theorem act_turnover (T : Transport σ) {s : Scene σ} (starts : StartsApart s) (a : Action σ) :
    ∃ new, (s.act T a).notes = s.notes ++ new ∧
      Turnover s.link.options.queueCapacity.toNat s.link.shelves new (s.act T a).link.shelves := by
  have still : ∃ new, s.notes = s.notes ++ new ∧
      Turnover s.link.options.queueCapacity.toNat s.link.shelves new s.link.shelves :=
    ⟨[], (List.append_nil _).symm, .handling (.pass (by rintro _ ⟨⟩))⟩
  cases a with
  | loop p => exact ⟨_, rfl, .handling (s.link.handling_step T p)⟩
  | call number =>
    cases at_number : s.calls[number]? with
    | none =>
      simp only [act, at_number]
      exact still
    | some c =>
      rw [act_call T at_number]
      refine ⟨_, rfl, ?_⟩
      by_cases is_start : ∃ phase, c = .start phase
      · obtain ⟨phase, rfl⟩ := is_start
        simp only [Call.notes, List.nil_append, Call.step,
          Link.eventNotes_of_append none (Link.events_startStep T phase s.link)]
        exact turnover_startStep T starts at_number
      · exact .handling (Link.handling_call T s.link fun phase h => is_start ⟨phase, h⟩)
  | make | device | clock | command | callback => exact still

theorem startsApart_start (T : Transport σ) {i : Nat} {phase : StartPhase} {s : Scene σ}
    {notes : List Note} (starts : StartsApart s) (at_i : s.calls[i]? = some (Call.start phase)) :
    StartsApart {
      link := (s.link.startStep T phase).2
      calls := s.calls.set i (.start (s.link.startStep T phase).1)
      notes } := by
  have begun : ∀ id, phase.unbegun? = some id →
      ∃ shelf, s.link.shelves[id]? = some shelf ∧ shelf.writer = .unborn :=
    fun id => starts.unbegun i phase id at_i
  have locked : phase.isInside → s.link.locked := starts.locked i phase at_i
  have same : StartsApart { link := s.link, calls := s.calls.set i (.start phase), notes } := by
    obtain ⟨bound, at_i⟩ := List.getElem?_eq_some_iff.1 at_i
    rw [← at_i, List.set_getElem_self]
    exact starts.keep (fun j phase h => .inl h) rfl rfl fun id shelf at_id unborn =>
      ⟨shelf, at_id, unborn⟩
  cases phase with
  | enter =>
    simp only [Link.startStep]
    split
    · exact same
    · rename_i free
      exact starts.move at_i (.inr (by simpa using free)) (fun _ => rfl) (by rintro _ ⟨⟩)
        (by rintro _ ⟨⟩)
  | check =>
    simp only [Link.startStep]
    split
    · exact starts.move at_i (.inl rfl) (fun _ => locked rfl) (by rintro _ ⟨⟩) (by rintro _ ⟨⟩)
    · cases s.link.options.validate with
      | error e =>
        exact starts.move at_i (.inl rfl) (fun _ => locked rfl) (by rintro _ ⟨⟩) (by rintro _ ⟨⟩)
      | ok =>
        exact starts.move at_i (.inl rfl) (fun _ => locked rfl) (by rintro _ ⟨⟩) (by rintro _ ⟨⟩)
  | openUp =>
    simp only [Link.startStep]
    cases T.openWith s.link.options s.link.device with
    | error e =>
      exact starts.move at_i (.inl rfl) (fun _ => locked rfl) (by rintro _ ⟨⟩) (by rintro _ ⟨⟩)
    | ok device =>
      refine starts.move at_i (.inl rfl) (fun _ => locked rfl) ?_ (by rintro _ ⟨⟩)
      rintro _ ⟨⟩
      exact (List.length_map _).symm
  | makeQueue id =>
    have next := starts.next i id at_i
    simp only [Link.startStep]
    split
    · exact starts.move at_i (.inl rfl) (by rintro ⟨⟩) (by rintro _ ⟨⟩) (by rintro _ ⟨⟩)
    · -- the shelf that is made is the one that the start goes on with
      refine starts.move at_i (.inl rfl) (fun _ => locked rfl) (by rintro _ ⟨⟩) ?_
      rintro _ ⟨⟩
      refine ⟨⟨[], .unborn⟩, ?_, rfl⟩
      rw [next]
      simp [Link.shelves, Session.shelf]
  | launch loop id =>
    have shelves := Link.shelves_startStep T (.launch loop id) s.link
    cases loop with
    | reader =>
      refine starts.move at_i (.inl rfl) (fun _ => locked rfl) (by rintro _ ⟨⟩) ?_
      rw [shelves]
      exact begun
    | writer =>
      refine starts.move at_i (.inl rfl) (fun _ => locked rfl) ?_ ?_
      · intro id h
        simp only [Link.startStep, Link.afterLaunch] at h
        split at h <;> cases h
      · intro id h
        simp only [Link.startStep, Link.afterLaunch] at h
        split at h <;> cases h
    | poller =>
      exact starts.move at_i (.inl rfl) (fun _ => locked rfl) (by rintro _ ⟨⟩) (by rintro _ ⟨⟩)
  | leave result =>
    exact starts.move at_i (.inl rfl) (by rintro ⟨⟩) (by rintro _ ⟨⟩) (by rintro _ ⟨⟩)
  | discard | refuse | forgetFailure | clear | count | plug | accept | store | report =>
    refine starts.move at_i (.inl rfl) (fun _ => locked rfl) ?_ ?_
    · rintro _ ⟨⟩
    · exact fun id h => begun id h
  | done | broken => exact same

/-- The starts stay apart, whatever happens. -/
theorem startsApart_act (T : Transport σ) {s : Scene σ} (starts : StartsApart s) (a : Action σ) :
    StartsApart (s.act T a) := by
  cases a with
  | loop p =>
    have step := s.link.handling_step T p
    have same := (s.loopStep_act T p).same
    exact starts.keep (fun j phase h => .inl h) same.2.1 step.length_eq fun id shelf at_id unborn =>
      step.of_unborn at_id unborn
  | call number =>
    cases at_number : s.calls[number]? with
    | none =>
      simp only [act, at_number]
      exact starts
    | some c =>
      by_cases is_start : ∃ phase, c = .start phase
      · obtain ⟨phase, rfl⟩ := is_start
        rw [act_call T at_number]
        exact startsApart_start T starts at_number
      · have step := Link.handling_call T s.link fun phase h => is_start ⟨phase, h⟩
        have same := (s.callStep_act T number fun phase h => by
          rw [at_number] at h
          exact absurd ⟨phase, Option.some.inj h⟩ is_start).same
        refine starts.keep ?_ same.2 ?_ ?_
        · intro j phase at_j
          rw [act_call T at_number] at at_j
          rcases getElem?_set_cases at_j with ⟨-, same⟩ | ⟨-, old⟩
          · exact absurd (isStart_step T s.link same.symm) is_start
          · exact .inl old
        · rw [act_call T at_number]
          exact step.length_eq
        · intro id shelf at_id unborn
          rw [act_call T at_number]
          exact step.of_unborn at_id unborn
  | make request =>
    refine starts.keep ?_ rfl rfl fun id shelf at_id unborn => ⟨shelf, at_id, unborn⟩
    intro j phase at_j
    have at_j : (s.calls ++ [request.call])[j]? = some (Call.start phase) := at_j
    rcases getElem?_concat_cases at_j with older | ⟨-, is_start⟩
    · exact .inl older
    · cases request with
      | start => exact .inr (Call.start.inj is_start)
      | send | stopPolling | close => cases is_start
  | device | clock | command | callback =>
    exact starts.keep (fun j phase h => .inl h) rfl rfl fun id shelf at_id unborn =>
      ⟨shelf, at_id, unborn⟩

end Scene

/-! ## The events that are noted -/

namespace Link

variable {σ : Type}

theorem filterMap_event?_eventNotes {before after : Link σ} (session : Option Nat)
    (later : before.events <+: after.events) :
    before.events ++ (eventNotes session before after).filterMap Note.event? = after.events := by
  obtain ⟨new, later⟩ := later
  have noted : (new.map (Note.reported session)).filterMap Note.event? = new := by
    rw [List.filterMap_map]
    exact List.filterMap_some
  rw [eventNotes_of_append session later.symm, noted, later]

theorem filterMap_accepted?_eventNotes (id : Nat) (session : Option Nat) (before after : Link σ) :
    (eventNotes session before after).filterMap (Note.accepted? id) = [] := by
  rw [List.filterMap_eq_nil_iff]
  rintro note member
  obtain ⟨event, -, rfl⟩ := List.mem_map.1 member
  rfl

theorem filterMap_event?_offerNotes (frame : Frame) (l : Link σ) :
    (l.offerNotes frame).filterMap Note.event? = [] := by
  cases taker : l.taker? frame <;> simp [offerNotes, taker, Note.event?]

theorem filterMap_event?_sendNotes (frame : Frame) (phase : SendPhase) (l : Link σ) :
    (l.sendNotes frame phase).filterMap Note.event? = [] := by
  cases phase with
  | queue => exact l.filterMap_event?_offerNotes frame
  | mark | restore | done => rfl

theorem filterMap_event?_failNotes (id : Nat) (phase : FailPhase) :
    (failNotes id phase).filterMap Note.event? = [] := by
  cases phase <;> rfl

theorem filterMap_event?_loopNotes (p : Place) (l : Link σ) :
    (l.loopNotes p).filterMap Note.event? = [] := by
  unfold loopNotes
  cases l.sessions[p.session]? with
  | none => rfl
  | some s =>
    cases p.loop with
    | reader =>
      simp only [readerNotes]
      split
      · exact l.filterMap_event?_sendNotes _ _
      · exact filterMap_event?_failNotes _ _
      · rfl
    | writer =>
      simp only [writerNotes]
      split
      · cases s.queue <;> rfl
      · rfl
      · rfl
      · exact filterMap_event?_failNotes _ _
      · rfl
    | poller =>
      simp only [pollerNotes]
      split
      · rename_i cycle _
        cases cycle.left with
        | nil => rfl
        | cons command left => simpa using l.filterMap_event?_offerNotes command
      · rfl

end Link

namespace Scene

variable {σ : Type}

theorem events_act (T : Transport σ) {s : Scene σ}
    (noted : s.link.events = s.notes.filterMap Note.event?) (a : Action σ) :
    (s.act T a).link.events = (s.act T a).notes.filterMap Note.event? := by
  cases a with
  | loop p =>
    have later : s.link.events <+: (s.link.step T p).events := (s.loopStep_act T p).events
    simp only [act, List.filterMap_append, Link.filterMap_event?_loopNotes, List.nil_append, ← noted]
    exact (Link.filterMap_event?_eventNotes _ later).symm
  | call number =>
    cases at_number : s.calls[number]? with
    | none => simpa only [act, at_number] using noted
    | some c =>
      have none : (c.notes s.link).filterMap Note.event? = [] := by
        cases c with
        | send frame phase => exact s.link.filterMap_event?_sendNotes frame phase
        | start | stopPolling | close => rfl
      have later : s.link.events <+: (c.step T s.link).2.events := by
        by_cases is_start : ∃ phase, c = .start phase
        · obtain ⟨phase, rfl⟩ := is_start
          exact ⟨_, (Link.events_startStep T phase s.link).symm⟩
        · have step := (s.callStep_act T number fun phase h => by
            rw [at_number] at h
            exact absurd ⟨phase, Option.some.inj h⟩ is_start).events
          rw [act_call T at_number] at step
          exact step
      simp only [act_call T at_number, List.filterMap_append, none, List.nil_append, ← noted]
      exact (Link.filterMap_event?_eventNotes _ later).symm
  | make | device | clock | command | callback => exact noted

/-! ## Whole runs -/

/-- The books are kept. -/
structure Kept (capacity : Nat) (s : Scene σ) : Prop where
  capacity_eq : s.link.options.queueCapacity.toNat = capacity
  ledger : Ledger capacity s.link.shelves s.notes
  starts : StartsApart s
  events : s.link.events = s.notes.filterMap Note.event?

theorem kept_fresh (options : LinkOptions) (device : σ) (now : Nat) :
    Kept options.queueCapacity.toNat (fresh options device now) where
  capacity_eq := rfl
  ledger := by
    refine ⟨by rintro _ _ ⟨⟩, by rintro _ _ _ ⟨⟩, ?_, by rintro _ ⟨⟩⟩
    intro id frame before start
    exact absurd (List.prefix_nil.1 start) (by simp)
  starts := ⟨by rintro _ _ ⟨⟩, by rintro _ _ _ _ ⟨⟩, by rintro _ _ ⟨⟩, by rintro _ _ _ ⟨⟩⟩
  events := rfl

theorem options_act (T : Transport σ) (s : Scene σ) (a : Action σ) :
    (s.act T a).link.options = s.link.options := by
  cases a with
  | loop p => exact (s.loopStep_act T p).same.1
  | call number =>
    cases at_number : s.calls[number]? with
    | none => simp only [act, at_number]
    | some c =>
      by_cases is_start : ∃ phase, c = .start phase
      · obtain ⟨phase, rfl⟩ := is_start
        rw [act_call T at_number]
        exact Link.options_startStep T phase s.link
      · exact (s.callStep_act T number fun phase h => by
          rw [at_number] at h
          exact absurd ⟨phase, Option.some.inj h⟩ is_start).same.1
  | make | device | clock | command | callback => rfl

theorem Kept.act {capacity : Nat} {s : Scene σ} (kept : Kept capacity s) (T : Transport σ)
    (a : Action σ) : Kept capacity (s.act T a) := by
  obtain ⟨new, notes, turnover⟩ := act_turnover T kept.starts a
  rw [kept.capacity_eq] at turnover
  refine ⟨?_, ?_, startsApart_act T kept.starts a, events_act T kept.events a⟩
  · rw [options_act]
    exact kept.capacity_eq
  · rw [notes]
    exact kept.ledger.turnover turnover

theorem Kept.run {capacity : Nat} {s : Scene σ} (kept : Kept capacity s) (T : Transport σ)
    (actions : List (Action σ)) : Kept capacity (s.run T actions) := by
  induction actions generalizing s with
  | nil => exact kept
  | cons a actions ih => exact ih (kept.act T a)

/-- When the writer of a session is gone, its shelf stays as it is, and no more is noted of it. -/
theorem Kept.run_of_isDeaf {capacity id : Nat} {s : Scene σ} {shelf : Shelf}
    (kept : Kept capacity s) (T : Transport σ) (actions : List (Action σ))
    (at_id : s.link.shelves[id]? = some shelf) (deaf : shelf.isDeaf) :
    (s.run T actions).link.shelves[id]? = some shelf ∧
      ∃ new, (s.run T actions).notes = s.notes ++ new ∧ ∀ note ∈ new, note.isOf id = false := by
  induction actions generalizing s with
  | nil => exact ⟨at_id, [], (List.append_nil _).symm, by rintro _ ⟨⟩⟩
  | cons a actions ih =>
    obtain ⟨first, notes, turnover⟩ := act_turnover T kept.starts a
    obtain ⟨at_id, apart⟩ := turnover.of_isDeaf at_id deaf
    obtain ⟨at_end, rest, notes', apart'⟩ := ih (kept.act T a) at_id
    refine ⟨at_end, first ++ rest, ?_, ?_⟩
    · rw [← List.append_assoc, ← notes]
      exact notes'
    · intro note member
      rcases List.mem_append.1 member with h | h
      · exact apart note h
      · exact apart' note h

end Scene

end FieldLink

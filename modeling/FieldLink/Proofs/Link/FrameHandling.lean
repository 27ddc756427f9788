import FieldLink.Proofs.Link.StepWrites
import FieldLink.Proofs.Lists

/-!
# How a session holds and handles its frames

A shelf is what a session holds of the frames it was given: its queue, and the writer's phase with
the frame in hand.  `Handling` lists all that one step of a loop or a call can do to the shelves of
a link, with the notes that go with it (`handling_step`, `handling_call`), and `Ledger` says how the
notes and the shelves agree: what was accepted is what was taken and what is queued, and what was
taken is what was settled and at most one frame more.
-/

namespace FieldLink

/-- What a session holds of the frames that it was given. -/
structure Shelf where
  queue : List Frame
  writer : WriterPhase

/-- The shelf of a session. -/
def Session.shelf (s : Session) : Shelf := ⟨s.queue, s.writer⟩

/-- The shelves of all sessions. -/
def Link.shelves {σ : Type} (l : Link σ) : List Shelf := l.sessions.map Session.shelf

/-- Whether nothing is taken off the shelf any more. -/
def Shelf.isDeaf (s : Shelf) : Bool :=
  match s.writer with
  | .gone _ => true
  | _ => false

/-- Whether a writer takes frames off the shelf. -/
def Shelf.isServed (s : Shelf) : Bool :=
  match s.writer with
  | .unborn | .gone _ => false
  | _ => true

theorem Shelf.isDeaf_of_isServed {s : Shelf} (served : s.isServed) : s.isDeaf = false := by
  unfold isServed at served
  unfold isDeaf
  cases writer : s.writer <;> simp_all

/-- Whether the frames that were taken and not settled may be `hand` in a phase. -/
def WriterPhase.Holds (hand : List Frame) : WriterPhase → Prop
  | attempt frame _ | write frame _ | stalled frame _ _ _ | flush frame _ _
  | draining frame _ _ _ | report frame | clear frame | drop frame => hand = [frame]
  | unborn | look | take => hand = []
  | _ => hand.length ≤ 1

theorem WriterPhase.Holds.length_le {hand : List Frame} {phase : WriterPhase}
    (h : phase.Holds hand) : hand.length ≤ 1 := by
  cases phase <;> simp only [WriterPhase.Holds] at h <;> first | exact h | simp [h]

theorem WriterPhase.holds_fail (hand : List Frame) (next : Option FailPhase) :
    (next.elim shutdown fail).Holds hand ↔ hand.length ≤ 1 := by
  cases next <;> rfl

theorem WriterPhase.holds_leave (hand : List Frame) (next : Option LeavePhase)
    (result : Option Failure) :
    (next.elim (gone result) (leave · result)).Holds hand ↔ hand.length ≤ 1 := by
  cases next <;> rfl

/-- A note that says nothing of frames. -/
def Note.isQuiet : Note → Bool
  | failed _ => true
  | reported _ event => event.settled?.isNone
  | _ => false

/-- The session whose frames a note is about. -/
def Note.isOf (id : Nat) : Note → Bool
  | accepted session _ | taken session _ | wrote session _ => session = id
  | reported session event => session = some id && event.settled?.isSome
  | failed _ => false

/-- What one step does to the shelves of a link with queues of some capacity: the shelves before,
the notes of the step, and the shelves after. -/
inductive Handling (capacity : Nat) : List Shelf → List Note → List Shelf → Prop
  | pass {shelves : List Shelf} {notes : List Note} (quiet : ∀ note ∈ notes, note.isQuiet) :
      Handling capacity shelves notes shelves
  | accept {shelves : List Shelf} {id : Nat} (shelf : Shelf) (frame : Frame)
      (at_id : shelves[id]? = some shelf) (hears : shelf.isDeaf = false)
      (room : shelf.queue.length < capacity) :
      Handling capacity shelves [.accepted id frame]
        (shelves.set id { shelf with queue := shelf.queue ++ [frame] })
  | take {shelves : List Shelf} {id : Nat} {frame : Frame} {queue : List Frame}
      (at_id : shelves[id]? = some ⟨frame :: queue, .take⟩) :
      Handling capacity shelves [.taken id frame] (shelves.set id ⟨queue, .attempt frame 1⟩)
  | write {shelves : List Shelf} {id : Nat} (shelf : Shelf) {frame : Frame} {phase : WriterPhase}
      (at_id : shelves[id]? = some shelf) (served : shelf.isServed)
      (held : ∀ hand, shelf.writer.Holds hand → hand = [frame]) (holds : phase.Holds [frame]) :
      Handling capacity shelves [.wrote id frame] (shelves.set id { shelf with writer := phase })
  | settle {shelves : List Shelf} {id : Nat} (shelf : Shelf) {frame : Frame} {event : LinkEvent}
      (at_id : shelves[id]? = some shelf) (served : shelf.isServed)
      (held : ∀ hand, shelf.writer.Holds hand → hand = [frame])
      (settles : event.settled? = some frame) :
      Handling capacity shelves [.reported (some id) event]
        (shelves.set id { shelf with writer := .look })
  | advance {shelves : List Shelf} {notes : List Note} {id : Nat} (shelf : Shelf)
      {phase : WriterPhase} (at_id : shelves[id]? = some shelf) (served : shelf.isServed)
      (quiet : ∀ note ∈ notes, note.isQuiet)
      (holds : ∀ hand, shelf.writer.Holds hand → phase.Holds hand) :
      Handling capacity shelves notes (shelves.set id { shelf with writer := phase })

/-- What one step of a close reports. -/
def ClosePhase.events : ClosePhase → List LinkEvent
  | report _ fatal => [.closed fatal]
  | _ => []

/-! ## What a step does to the shelves -/

namespace Link

variable {σ : Type}

theorem shelves_update_eq_modify {id : Nat} {f : Session → Session} {g : Shelf → Shelf} (l : Link σ)
    (same : ∀ x, (f x).shelf = g x.shelf) :
    (l.update id f).shelves = l.shelves.modify id g := by
  apply List.ext_getElem?
  intro i
  simp only [shelves, update, List.getElem?_map, List.getElem?_modify]
  cases l.sessions[i]? with
  | none => rfl
  | some x => by_cases h : id = i <;> simp [h, same]

theorem shelves_update (k : Nat) (f : Session → Session) (l : Link σ)
    (same : ∀ x, (f x).shelf = x.shelf) : (l.update k f).shelves = l.shelves := by
  rw [shelves_update_eq_modify (g := id) l same, List.modify_id]

theorem update_update (id : Nat) (f g : Session → Session) (l : Link σ) :
    (l.update id f).update id g = l.update id (g ∘ f) :=
  congrArg (fun sessions => { l with sessions }) (List.modify_modify_eq f g id l.sessions)

theorem shelves_update_eq_set {id : Nat} {f : Session → Session} {l : Link σ} {x : Session}
    (at_id : l.sessions[id]? = some x) :
    (l.update id f).shelves = l.shelves.set id (f x).shelf := by
  simp only [shelves, update, modify_eq_set_of_getElem? at_id, List.map_set]

@[simp] theorem shelves_readerTo (id : Nat) (phase : ReaderPhase) (l : Link σ) :
    (l.readerTo id phase).shelves = l.shelves := shelves_update _ _ _ fun _ => rfl

@[simp] theorem shelves_pollerTo (id : Nat) (phase : PollerPhase) (l : Link σ) :
    (l.pollerTo id phase).shelves = l.shelves := shelves_update _ _ _ fun _ => rfl

theorem shelves_writerTo {id : Nat} {l : Link σ} {shelf : Shelf} (phase : WriterPhase)
    (at_id : l.shelves[id]? = some shelf) :
    (l.writerTo id phase).shelves = l.shelves.set id { shelf with writer := phase } := by
  obtain ⟨x, found, rfl⟩ : ∃ x, l.sessions[id]? = some x ∧ x.shelf = shelf := by
    simpa [shelves] using at_id
  exact shelves_update_eq_set found

theorem shelf_at {id : Nat} {l : Link σ} {x : Session} (at_id : l.sessions[id]? = some x) :
    l.shelves[id]? = some x.shelf := by
  simp [shelves, at_id]

@[simp] theorem eventNotes_readerTo (session : Option Nat) (id : Nat) (phase : ReaderPhase)
    (l l' : Link σ) : eventNotes session l (l'.readerTo id phase) = eventNotes session l l' := rfl

@[simp] theorem eventNotes_pollerTo (session : Option Nat) (id : Nat) (phase : PollerPhase)
    (l l' : Link σ) : eventNotes session l (l'.pollerTo id phase) = eventNotes session l l' := rfl

theorem eventNotes_of_append {l l' : Link σ} {events : List LinkEvent} (session : Option Nat)
    (appended : l'.events = l.events ++ events) :
    eventNotes session l l' = events.map (.reported session) := by
  simp [eventNotes, appended]

theorem eventNotes_of_eq {l l' : Link σ} (session : Option Nat) (same : l'.events = l.events) :
    eventNotes session l l' = [] := by
  simp [eventNotes, same]

/-! ## Handling -/

/-- A step that leaves the shelves as they are and reports no frame as dealt with. -/
theorem handling_same {capacity : Nat} {l l' : Link σ} {notes : List Note}
    (events : List LinkEvent) (session : Option Nat) (shelves : l'.shelves = l.shelves)
    (appended : l'.events = l.events ++ events) (quiet : ∀ note ∈ notes, note.isQuiet)
    (traffic : ∀ event ∈ events, event.settled? = none) :
    Handling capacity l.shelves (notes ++ eventNotes session l l') l'.shelves := by
  rw [shelves, eventNotes_of_append session appended]
  refine .pass fun note h => ?_
  rcases List.mem_append.1 h with h | h
  · exact quiet note h
  · obtain ⟨event, member, rfl⟩ := List.mem_map.1 h
    simp [Note.isQuiet, traffic event member]

theorem isQuiet_failNotes (id : Nat) (phase : FailPhase) :
    ∀ note ∈ failNotes id phase, note.isQuiet := by
  cases phase <;> simp [failNotes, Note.isQuiet]

/-- A frame that is offered is accepted by the session that accepts frames, or by none. -/
theorem handling_offer (frame : Frame) (session : Option Nat) (l : Link σ) :
    Handling l.options.queueCapacity.toNat l.shelves
      (l.offerNotes frame ++ eventNotes session l (l.enqueue frame).2)
      (l.enqueue frame).2.shelves := by
  rcases l.enqueue_cases frame with
    ⟨e, result, none⟩ | ⟨id, x, -, at_id, hears, room, result, taker⟩
  · rw [result, offerNotes, none]
    exact handling_same [] session rfl (List.append_nil _).symm (by simp) (by simp)
  · have notes : l.offerNotes frame = [.accepted id frame] := by simp [offerNotes, taker]
    have events : eventNotes session l (l.enqueue frame).2 = [] :=
      eventNotes_of_eq session (by rw [result]; rfl)
    rw [events, notes, result, List.append_nil, shelves_update_eq_set at_id]
    exact .accept x.shelf frame (shelf_at at_id) hears room

theorem handling_send (frame : Frame) (phase : SendPhase) (session : Option Nat) (l : Link σ) :
    Handling l.options.queueCapacity.toNat l.shelves
      (l.sendNotes frame phase ++ eventNotes session l (l.sendStep frame phase).2)
      (l.sendStep frame phase).2.shelves := by
  cases phase with
  | mark | restore | done =>
    exact handling_same [] session rfl (List.append_nil _).symm (by simp [sendNotes]) (by simp)
  | queue before =>
    rw [sendStep_queue]
    exact l.handling_offer frame session

theorem shelves_dropHalf (T : Transport σ) (id : Nat) (drop : Session → Session) (l : Link σ)
    (same : ∀ x, (drop x).shelf = x.shelf) : (l.dropHalf T id drop).shelves = l.shelves := by
  obtain ⟨device, eq⟩ := dropHalf_eq T id drop l
  rw [eq]
  exact shelves_update id drop l same

@[simp] theorem events_dropHalf (T : Transport σ) (id : Nat) (drop : Session → Session)
    (l : Link σ) : (l.dropHalf T id drop).events = l.events := by
  obtain ⟨device, eq⟩ := dropHalf_eq T id drop l
  rw [eq]
  rfl

theorem shelves_failStep (id : Nat) (phase : FailPhase) (l : Link σ) :
    (l.failStep id phase).2.shelves = l.shelves := by
  cases phase with
  | mark | unplug => rfl
  | close => simp only [failStep]; split <;> rfl
  | cancel => exact shelves_update id _ l fun _ => rfl

@[simp] theorem events_failStep (id : Nat) (phase : FailPhase) (l : Link σ) :
    (l.failStep id phase).2.events = l.events := by
  obtain ⟨sessions, state, outbox, failed, same⟩ := l.failStep_writes id phase
  rw [same]

theorem shelves_leaveStep (phase : LeavePhase) (l : Link σ) :
    (l.leaveStep phase).2.shelves = l.shelves := by
  obtain ⟨state, liveLoops, events, same⟩ := l.leaveStep_writes phase
  rw [same]
  rfl

/-- What is reported in one step of leaving. -/
theorem events_leaveStep (phase : LeavePhase) (l : Link σ) :
    (l.leaveStep phase).2.events =
      l.events ++ (if phase = .report then [.closed true] else []) := by
  cases phase with
  | count | judge => simp [leaveStep]
  | report => simp [leaveStep, emit]
  | finish => simp only [leaveStep]; split <;> simp

theorem settled?_leaveEvents (phase : LeavePhase) :
    ∀ event ∈ (if phase = .report then [LinkEvent.closed true] else []),
      event.settled? = none := by
  cases phase <;> simp [LinkEvent.settled?]

/-- A step that does not touch the shelves and reports nothing. -/
theorem handling_still {capacity : Nat} {l l' : Link σ} {notes : List Note} (session : Option Nat)
    (shelves : l'.shelves = l.shelves) (events : l'.events = l.events)
    (quiet : ∀ note ∈ notes, note.isQuiet) :
    Handling capacity l.shelves (notes ++ eventNotes session l l') l'.shelves :=
  handling_same [] session shelves (events.trans (List.append_nil _).symm) quiet (by simp)

theorem handling_reader (T : Transport σ) (id : Nat) (s : Session) (l : Link σ) :
    Handling l.options.queueCapacity.toNat l.shelves
      (l.readerNotes id s ++ eventNotes (some id) l (l.readerStep T id s))
      (l.readerStep T id s).shelves := by
  unfold readerNotes readerStep
  cases s.reader with
  | unborn | gone => exact handling_still _ rfl rfl (by simp)
  | look | read | clear => exact handling_still _ (shelves_readerTo id _ _) rfl (by simp)
  | deliver chunk =>
    cases callback : l.callback with
    | none => exact handling_still _ (shelves_readerTo id _ _) rfl (by simp)
    | some c =>
      obtain ⟨tag, replies⟩ := c
      cases replies <;> exact handling_still _ (shelves_readerTo id _ _) rfl (by simp)
  | reply chunk tag answer phase =>
    have sent := l.handling_send answer phase (some id)
    cases phase with
    | done => exact handling_still _ (shelves_readerTo id _ _) rfl (by simp [sendNotes])
    | mark | queue | restore => simpa only [shelves_readerTo, eventNotes_readerTo] using sent
  | report chunk =>
    exact handling_same [.received chunk] _ (shelves_readerTo id _ _) rfl (by simp)
      (by simp [LinkEvent.settled?])
  | fail phase =>
    exact handling_still _ ((shelves_readerTo id _ _).trans (l.shelves_failStep id phase))
      (l.events_failStep id phase) (isQuiet_failNotes id phase)
  | release =>
    exact handling_still _
      ((shelves_readerTo id _ _).trans (l.shelves_dropHalf T id _ fun _ => rfl))
      (l.events_dropHalf T id _) (by simp)
  | leave phase =>
    exact handling_same _ _ ((shelves_readerTo id _ _).trans (l.shelves_leaveStep phase))
      (l.events_leaveStep phase) (by simp) (settled?_leaveEvents phase)

theorem handling_poller (id : Nat) (s : Session) (l : Link σ) :
    Handling l.options.queueCapacity.toNat l.shelves
      (l.pollerNotes s ++ eventNotes (some id) l (l.pollerStep id s))
      (l.pollerStep id s).shelves := by
  unfold pollerNotes pollerStep
  cases s.poller with
  | unborn | gone | broken => exact handling_still _ rfl rfl (by simp)
  | begin | wait | copy | look | ask | settle =>
    exact handling_still _ (shelves_pollerTo id _ _) rfl (by simp)
  | offer cycle =>
    cases left : cycle.left with
    | nil =>
      simp only [left]
      exact handling_still _ (shelves_pollerTo id _ _) rfl (by simp)
    | cons command rest =>
      have offered := l.handling_offer command (some id)
      simp only [left, List.head?_cons, Option.toList_some, List.flatMap_cons, List.flatMap_nil,
        List.append_nil]
      rcases result : l.enqueue command with ⟨e | _, l'⟩
      · rw [result] at offered
        cases e <;> simpa only [shelves_pollerTo, eventNotes_pollerTo] using offered
      · rw [result] at offered
        simpa only [shelves_pollerTo, eventNotes_pollerTo] using offered
  | report cycle =>
    exact handling_same [.polled cycle.offered cycle.skipped (l.now - cycle.started)] _
      (shelves_pollerTo id _ _) rfl (by simp) (by simp [LinkEvent.settled?])
  | leave phase =>
    exact handling_same _ _ ((shelves_pollerTo id _ _).trans (l.shelves_leaveStep phase))
      (l.events_leaveStep phase) (by simp) (settled?_leaveEvents phase)

/-- A step that takes the writer to a phase in which it holds what it held, and reports no frame as
dealt with. -/
theorem handling_advance {capacity id : Nat} {l l' : Link σ} {x : Session} {phase : WriterPhase}
    {notes : List Note} {events : List LinkEvent} (at_id : l.sessions[id]? = some x)
    (served : x.shelf.isServed) (shelves : l'.shelves = l.shelves)
    (appended : l'.events = l.events ++ events) (quiet : ∀ note ∈ notes, note.isQuiet)
    (traffic : ∀ event ∈ events, event.settled? = none)
    (holds : ∀ hand, x.writer.Holds hand → phase.Holds hand) :
    Handling capacity l.shelves (notes ++ eventNotes (some id) l (l'.writerTo id phase))
      (l'.writerTo id phase).shelves := by
  have found : l'.shelves[id]? = some x.shelf := by rw [shelves, shelf_at at_id]
  have noted : eventNotes (some id) l (l'.writerTo id phase) = events.map (.reported (some id)) :=
    eventNotes_of_append _ appended
  rw [shelves_writerTo phase found, shelves, noted]
  refine .advance x.shelf (shelf_at at_id) served (fun note h => ?_) holds
  rcases List.mem_append.1 h with h | h
  · exact quiet note h
  · obtain ⟨event, member, rfl⟩ := List.mem_map.1 h
    simp [Note.isQuiet, traffic event member]

/-- A step that reports the frame in hand as dealt with and takes the writer to its next look. -/
theorem handling_settle {capacity id : Nat} {l l' : Link σ} {x : Session} {frame : Frame}
    {event : LinkEvent} (at_id : l.sessions[id]? = some x) (served : x.shelf.isServed)
    (held : ∀ hand, x.writer.Holds hand → hand = [frame]) (settles : event.settled? = some frame)
    (shelves : l'.shelves = l.shelves) (appended : l'.events = l.events ++ [event]) :
    Handling capacity l.shelves ([] ++ eventNotes (some id) l (l'.writerTo id .look))
      (l'.writerTo id .look).shelves := by
  have found : l'.shelves[id]? = some x.shelf := by rw [shelves, shelf_at at_id]
  have noted : eventNotes (some id) l (l'.writerTo id .look) = [.reported (some id) event] :=
    eventNotes_of_append _ appended
  rw [shelves_writerTo _ found, shelves, noted]
  exact .settle x.shelf (shelf_at at_id) served held settles

theorem holds_writerAfter (T : Transport σ) (frame : Frame) (count : Nat) (f : Failure)
    (l : Link σ) : (l.writerAfter T frame count f).Holds [frame] := by
  unfold writerAfter
  cases T.classify l.device f <;> simp [WriterPhase.Holds]

/-- A call to write a frame leaves the frame in hand. -/
theorem handling_writeStep {capacity id : Nat} (T : Transport σ) {l : Link σ} {x : Session}
    {frame : Frame} (count deadline : Nat) (at_id : l.sessions[id]? = some x)
    (served : x.shelf.isServed) (held : ∀ hand, x.writer.Holds hand → hand = [frame]) :
    Handling capacity l.shelves
      ([.wrote id frame] ++ eventNotes (some id) l (l.writeStep T id frame count deadline))
      (l.writeStep T id frame count deadline).shelves := by
  have none : eventNotes (some id) l (l.writeStep T id frame count deadline) = [] :=
    eventNotes_of_eq _ rfl
  rw [none, List.append_nil]
  unfold writeStep
  generalize T.write frame l.now l.device = result
  obtain ⟨answer, device⟩ := result
  have found : ({ l with device } : Link σ).shelves[id]? = some x.shelf := shelf_at at_id
  simp only [shelves_writerTo _ found]
  refine .write x.shelf found served held ?_
  cases answer with
  | waiting resume =>
    show WriterPhase.Holds [frame] (if Timer.hasFired deadline l.now then _ else _)
    split <;> simp [WriterPhase.Holds]
  | failed f => exact holds_writerAfter T frame count f _
  | done n =>
    show WriterPhase.Holds [frame] (if n < frame.length then _ else _)
    split
    · exact holds_writerAfter T frame count _ _
    · simp [WriterPhase.Holds]

theorem handling_flushStep {capacity id : Nat} (T : Transport σ) {l : Link σ} {x : Session}
    {frame : Frame} (count deadline : Nat) (at_id : l.sessions[id]? = some x)
    (served : x.shelf.isServed) (held : ∀ hand, x.writer.Holds hand → hand = [frame]) :
    Handling capacity l.shelves
      ([] ++ eventNotes (some id) l (l.flushStep T id frame count deadline))
      (l.flushStep T id frame count deadline).shelves := by
  unfold flushStep
  generalize T.flush l.now l.device = result
  obtain ⟨answer, device⟩ := result
  refine handling_advance at_id served rfl (List.append_nil _).symm
    (by simp) (by simp) fun hand h => ?_
  rw [held hand h]
  cases answer with
  | waiting resume =>
    show WriterPhase.Holds [frame] (if Timer.hasFired deadline l.now then _ else _)
    split <;> simp [WriterPhase.Holds]
  | failed f => exact holds_writerAfter T frame count f _
  | done => simp [WriterPhase.Holds]

theorem handling_shutdownStep {capacity id : Nat} (T : Transport σ) {l : Link σ} {x : Session}
    (deadline : Nat) (at_id : l.sessions[id]? = some x) (served : x.shelf.isServed) :
    Handling capacity l.shelves
      ([] ++ eventNotes (some id) l (l.shutdownStep T id deadline))
      (l.shutdownStep T id deadline).shelves := by
  unfold shutdownStep
  generalize T.shutdown l.now l.device = result
  obtain ⟨answer, device⟩ := result
  refine handling_advance at_id served rfl (List.append_nil _).symm
    (by simp) (by simp) fun hand h => ?_
  have short := h.length_le
  cases answer with
  | waiting resume =>
    show WriterPhase.Holds hand (if Timer.hasFired deadline l.now then _ else _)
    split <;> exact short
  | failed | done => exact short

theorem handling_writer (T : Transport σ) {id : Nat} {s : Session} {l : Link σ}
    (at_id : l.sessions[id]? = some s) :
    Handling l.options.queueCapacity.toNat l.shelves
      (writerNotes id s ++ eventNotes (some id) l (l.writerStep T id s))
      (l.writerStep T id s).shelves := by
  unfold writerNotes writerStep
  have found := shelf_at at_id
  have nothing : l.events = l.events ++ [] := (List.append_nil _).symm
  have served : ∀ phase, s.writer = phase → Shelf.isServed ⟨s.queue, phase⟩ →
      s.shelf.isServed := by
    rintro phase rfl h
    exact h
  cases writer : s.writer with
  | unborn | gone => exact handling_still _ rfl rfl (by simp)
  | look =>
    refine handling_advance at_id (served _ writer rfl) rfl nothing (by simp) (by simp)
      fun hand h => ?_
    rw [writer] at h
    have empty : hand = [] := h
    split <;> simp [WriterPhase.Holds, empty]
  | take =>
    cases queued : s.queue with
    | nil =>
      refine handling_advance at_id (served _ writer rfl) rfl nothing (by simp) (by simp)
        fun hand h => ?_
      rw [writer] at h
      have empty : hand = [] := h
      split <;> simp [WriterPhase.Holds, empty]
    | cons frame queue =>
      have shelf : l.shelves[id]? = some ⟨frame :: queue, .take⟩ := by
        rw [found, Session.shelf, queued, writer]
      have moved : ((l.update id fun s => { s with queue }).writerTo id
          (.attempt frame 1)).shelves = l.shelves.set id ⟨queue, .attempt frame 1⟩ := by
        rw [writerTo, update_update, shelves_update_eq_set at_id]
        rfl
      simp only [List.head?_cons, Option.toList_some, List.map_cons, List.map_nil]
      rw [moved, eventNotes_of_eq _ (by rfl), List.append_nil]
      exact .take shelf
  | attempt frame count =>
    refine handling_advance at_id (served _ writer rfl) rfl nothing (by simp) (by simp)
      fun hand h => ?_
    rw [writer] at h
    have hand_eq : hand = [frame] := h
    split
    · exact hand_eq
    · split <;> simp [WriterPhase.Holds, hand_eq]
  | write frame count | stalled frame count deadline =>
    refine handling_writeStep T _ _ at_id (served _ writer rfl) fun hand h => ?_
    rw [writer] at h
    exact h
  | flush frame count deadline | draining frame count deadline =>
    refine handling_flushStep T _ _ at_id (served _ writer rfl) fun hand h => ?_
    rw [writer] at h
    exact h
  | clear frame =>
    refine handling_advance at_id (served _ writer rfl) rfl nothing (by simp) (by simp)
      fun hand h => ?_
    rw [writer] at h
    exact h
  | report frame | drop frame =>
    refine handling_settle at_id (served _ writer rfl) (fun hand h => ?_) rfl rfl rfl
    rw [writer] at h
    exact h
  | fail phase =>
    refine handling_advance at_id (served _ writer rfl) (l.shelves_failStep id phase)
      ((l.events_failStep id phase).trans nothing) (isQuiet_failNotes id phase) (by simp)
      fun hand h => ?_
    exact (WriterPhase.holds_fail hand _).2 h.length_le
  | shutdown | ending =>
    exact handling_shutdownStep T _ at_id (served _ writer rfl)
  | release result =>
    refine handling_advance at_id (served _ writer rfl)
      (l.shelves_dropHalf T id _ fun _ => rfl) ((l.events_dropHalf T id _).trans nothing) (by simp)
      (by simp) fun hand h => h.length_le
  | leave phase result =>
    refine handling_advance at_id (served _ writer rfl) (l.shelves_leaveStep phase)
      (l.events_leaveStep phase) (by simp) (settled?_leaveEvents phase) fun hand h => ?_
    exact (WriterPhase.holds_leave hand _ result).2 h.length_le

/-- What one step of a loop does to the shelves. -/
theorem handling_step (T : Transport σ) (p : Place) (l : Link σ) :
    Handling l.options.queueCapacity.toNat l.shelves
      (l.loopNotes p ++ eventNotes (some p.session) l (l.step T p)) (l.step T p).shelves := by
  obtain ⟨id, loop⟩ := p
  unfold loopNotes step
  cases at_id : l.sessions[id]? with
  | none => exact handling_still _ rfl rfl (by simp)
  | some s =>
    cases loop with
    | reader => exact l.handling_reader T id s
    | writer => exact handling_writer T at_id
    | poller => exact l.handling_poller id s

theorem shelves_cancelPolling (l : Link σ) : l.cancelPolling.shelves = l.shelves := by
  unfold cancelPolling
  cases l.current with
  | none => rfl
  | some id => exact shelves_update id _ l fun _ => rfl

theorem events_cancelPolling (l : Link σ) : l.cancelPolling.events = l.events := by
  obtain ⟨sessions, same⟩ := l.cancelPolling_writes
  rw [same]

theorem shelves_closeStep (phase : ClosePhase) (l : Link σ) :
    (l.closeStep phase).2.shelves = l.shelves := by
  cases phase with
  | stopPolling =>
    simp only [closeStep]
    split
    · rfl
    · exact l.shelves_cancelPolling
  | take =>
    obtain ⟨current, same⟩ := l.closeStep_take
    rw [same]
    rfl
  | mark id | join id => simp only [closeStep]; split <;> rfl
  | cancel id => exact shelves_update id _ l fun _ => rfl
  | unplug | judge | finish | clear | report | done => rfl

theorem events_closeStep (phase : ClosePhase) (l : Link σ) :
    (l.closeStep phase).2.events = l.events ++ phase.events := by
  cases phase with
  | report => rfl
  | stopPolling =>
    simp only [closeStep, ClosePhase.events, List.append_nil]
    split
    · rfl
    · exact l.events_cancelPolling
  | take =>
    obtain ⟨current, same⟩ := l.closeStep_take
    rw [same]
    exact (List.append_nil _).symm
  | mark id | join id =>
    simp only [closeStep, ClosePhase.events, List.append_nil]
    split <;> rfl
  | unplug | cancel | judge | finish | clear | done => exact (List.append_nil _).symm

/-- What one step of a call other than a start does to the shelves. -/
theorem handling_call (T : Transport σ) {c : Call} (l : Link σ)
    (other : ∀ phase, c ≠ .start phase) :
    Handling l.options.queueCapacity.toNat l.shelves
      (c.notes l ++ eventNotes none l (c.step T l).2) (c.step T l).2.shelves := by
  cases c with
  | start phase => exact absurd rfl (other phase)
  | send frame phase => exact l.handling_send frame phase none
  | stopPolling returned =>
    cases returned with
    | true => exact handling_still _ rfl rfl (by simp [Call.notes])
    | false =>
      simp only [Call.step]
      split
      · exact handling_still _ rfl rfl (by simp [Call.notes])
      · exact handling_still _ l.shelves_cancelPolling l.events_cancelPolling (by simp [Call.notes])
  | close phase =>
    refine handling_same _ none (l.shelves_closeStep phase) (l.events_closeStep phase)
      (by simp [Call.notes]) fun event member => ?_
    cases phase <;> simp_all [ClosePhase.events, LinkEvent.settled?]

end Link

end FieldLink

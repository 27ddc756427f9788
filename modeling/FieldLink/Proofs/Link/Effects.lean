import FieldLink.Proofs.Link.Phases

/-!
# Effects

What a step does to the device, what it reports, and which frames it takes.  The device changes only
when a loop makes a call on the transport or lets its half of it go, when a start opens it, and when
it is changed from outside; each of the phases in which something is reported reports one event
(`Scene.events_act_eq`), and most kinds of event are those of one kind of loop
(`Scene.loop_of_mem_eventsOf`).
-/

namespace FieldLink

/-- The loop that reports such an event, unless calls report it, or any loop. -/
def LinkEvent.loop? : LinkEvent → Option Loop
  | received _ => some .reader
  | sent _ | dropped _ _ => some .writer
  | polled _ _ _ => some .poller
  | opened | closed _ => none

/-- The frame that a writer takes in its next step. -/
def Session.takes (x : Session) : List Frame :=
  match x.writer with
  | .take => x.queue.head?.toList
  | _ => []

theorem Session.takes_append_drop (x : Session) :
    x.takes ++ x.queue.drop x.takes.length = x.queue := by
  unfold takes
  cases x.writer with
  | take => cases x.queue <;> rfl
  | _ => rfl

theorem Session.takes_of_ne {x : Session} (other : x.writer ≠ .take) : x.takes = [] := by
  unfold takes
  split
  · exact absurd ‹_› other
  · rfl

/-- What a loop reports that leaves. -/
def LeavePhase.events : LeavePhase → List LinkEvent
  | report => [.closed true]
  | _ => []

/-- What one step of a reader reports. -/
def ReaderPhase.events : ReaderPhase → List LinkEvent
  | report chunk => [.received chunk]
  | leave phase => phase.events
  | _ => []

/-- What one step of a writer reports that drops a frame after so many attempts. -/
def WriterPhase.events (attempts : Nat) : WriterPhase → List LinkEvent
  | report frame => [.sent frame]
  | drop frame => [.dropped frame attempts]
  | leave phase _ => phase.events
  | _ => []

/-- What one step of a poller reports at the given time. -/
def PollerPhase.events (now : Nat) : PollerPhase → List LinkEvent
  | report cycle => [.polled cycle.offered cycle.skipped (now - cycle.started)]
  | leave phase => phase.events
  | _ => []

/-- What one step of a call reports. -/
def Call.events : Call → List LinkEvent
  | start phase => phase.events
  | close phase => phase.events
  | _ => []

namespace Link

variable {σ : Type}

/-! ## The device -/

theorem device_sendStep (frame : Frame) (phase : SendPhase) (l : Link σ) :
    (l.sendStep frame phase).2.device = l.device := by
  obtain ⟨sessions, sending, same⟩ := l.sendStep_writes frame phase
  rw [same]

theorem device_failStep (id : Nat) (phase : FailPhase) (l : Link σ) :
    (l.failStep id phase).2.device = l.device := by
  obtain ⟨sessions, state, outbox, failed, same⟩ := l.failStep_writes id phase
  rw [same]

theorem device_leaveStep (phase : LeavePhase) (l : Link σ) :
    (l.leaveStep phase).2.device = l.device := by
  obtain ⟨state, liveLoops, events, same⟩ := l.leaveStep_writes phase
  rw [same]

/-- Letting a half of the transport go gives the device up, or leaves it as it is. -/
theorem device_dropHalf (T : Transport σ) (id : Nat) (drop : Session → Session) (l : Link σ) :
    (l.dropHalf T id drop).device = l.device ∨
      (l.dropHalf T id drop).device = T.release l.device := by
  simp only [dropHalf]
  split
  · split
    · exact .inl rfl
    · exact .inr rfl
  · exact .inl rfl

theorem device_readerStep (T : Transport σ) (id : Nat) (x : Session) (l : Link σ) :
    (l.readerStep T id x).device =
      match x.reader with
      | .read => (T.read packetSize.toNat l.now l.device).2
      | .release => (l.dropHalf T id fun s => { s with readHalf := false }).device
      | _ => l.device := by
  unfold readerStep
  cases x.reader with
  | deliver chunk =>
    cases l.callback with
    | none => rfl
    | some c =>
      obtain ⟨tag, replies⟩ := c
      cases replies <;> rfl
  | reply chunk tag answer phase =>
    cases phase with
    | done => rfl
    | mark => exact l.device_sendStep answer .mark
    | queue before => exact l.device_sendStep answer (.queue before)
    | restore before e => exact l.device_sendStep answer (.restore before e)
  | fail phase => exact l.device_failStep id phase
  | leave phase => exact l.device_leaveStep phase
  | unborn | look | read | clear | report | release | gone => rfl

theorem device_writerStep (T : Transport σ) (id : Nat) (x : Session) (l : Link σ) :
    (l.writerStep T id x).device =
      match x.writer with
      | .write frame _ | .stalled frame _ _ _ => (T.write frame l.now l.device).2
      | .flush _ _ _ | .draining _ _ _ _ => (T.flush l.now l.device).2
      | .shutdown | .ending _ _ => (T.shutdown l.now l.device).2
      | .release _ => (l.dropHalf T id fun s => { s with writeHalf := false }).device
      | _ => l.device := by
  unfold writerStep
  cases x.writer with
  | take => cases x.queue <;> rfl
  | fail phase => exact l.device_failStep id phase
  | leave phase => exact l.device_leaveStep phase
  | _ => rfl

theorem device_pollerStep (id : Nat) (x : Session) (l : Link σ) :
    (l.pollerStep id x).device = l.device := by
  obtain ⟨sessions, state, liveLoops, events, same⟩ := l.pollerStep_writes id x
  rw [same]

theorem device_startStep (T : Transport σ) (phase : StartPhase) (l : Link σ) :
    (l.startStep T phase).2.device =
      match phase with
      | .openUp => (T.openWith l.options l.device).toOption.getD l.device
      | .makeQueue _ =>
        if maxQueueCapacity < l.options.queueCapacity.toNat then T.release l.device else l.device
      | _ => l.device := by
  cases phase with
  | enter | makeQueue => simp only [startStep]; split <;> rfl
  | check =>
    obtain ⟨state, same⟩ := l.startStep_check T
    rw [same]
  | openUp => simp only [startStep]; cases T.openWith l.options l.device <;> rfl
  | _ => rfl

theorem device_cancelPolling (l : Link σ) : l.cancelPolling.device = l.device := by
  obtain ⟨sessions, same⟩ := l.cancelPolling_writes
  rw [same]

theorem device_closeStep (phase : ClosePhase) (l : Link σ) :
    (l.closeStep phase).2.device = l.device := by
  obtain ⟨sessions, state, outbox, current, sending, events, same⟩ := l.closeStep_writes phase
  rw [same]

/-- Of all calls only a start touches the device. -/
theorem device_callStep (T : Transport σ) {c : Call} (l : Link σ)
    (other : ∀ phase, c ≠ .start phase) : (c.step T l).2.device = l.device := by
  cases c with
  | start phase => exact absurd rfl (other phase)
  | send frame phase => exact l.device_sendStep frame phase
  | close phase => exact l.device_closeStep phase
  | stopPolling returned =>
    cases returned with
    | true => rfl
    | false =>
      simp only [Call.step]
      split
      · rfl
      · exact l.device_cancelPolling

/-! ## The events -/

theorem events_sendStep (frame : Frame) (phase : SendPhase) (l : Link σ) :
    (l.sendStep frame phase).2.events = l.events := by
  obtain ⟨sessions, sending, same⟩ := l.sendStep_writes frame phase
  rw [same]

theorem events_leaveStep_eq (phase : LeavePhase) (l : Link σ) :
    (l.leaveStep phase).2.events = l.events ++ phase.events := by
  rw [events_leaveStep]
  cases phase <;> rfl

theorem events_readerStep (T : Transport σ) (id : Nat) (x : Session) (l : Link σ) :
    (l.readerStep T id x).events = l.events ++ x.reader.events := by
  unfold readerStep
  cases x.reader with
  | deliver chunk =>
    simp only [ReaderPhase.events, List.append_nil]
    cases l.callback with
    | none => rfl
    | some c =>
      obtain ⟨tag, replies⟩ := c
      cases replies <;> rfl
  | reply chunk tag answer phase =>
    simp only [ReaderPhase.events, List.append_nil]
    cases phase with
    | done => rfl
    | mark => exact l.events_sendStep answer .mark
    | queue before => exact l.events_sendStep answer (.queue before)
    | restore before e => exact l.events_sendStep answer (.restore before e)
  | fail phase => exact (l.events_failStep id phase).trans (List.append_nil _).symm
  | release => exact (l.events_dropHalf T id _).trans (List.append_nil _).symm
  | leave phase => exact l.events_leaveStep_eq phase
  | report chunk => rfl
  | unborn | look | read | clear | gone => exact (List.append_nil _).symm

theorem events_writerStep (T : Transport σ) (id : Nat) (x : Session) (l : Link σ) :
    (l.writerStep T id x).events = l.events ++ x.writer.events l.options.retries.toNat := by
  unfold writerStep
  cases x.writer with
  | take =>
    simp only [WriterPhase.events, List.append_nil]
    cases x.queue <;> rfl
  | fail phase => exact (l.events_failStep id phase).trans (List.append_nil _).symm
  | release result => exact (l.events_dropHalf T id _).trans (List.append_nil _).symm
  | leave phase result => exact l.events_leaveStep_eq phase
  | report | drop => rfl
  | _ => exact (List.append_nil _).symm

theorem events_pollerStep (id : Nat) (x : Session) (l : Link σ) :
    (l.pollerStep id x).events = l.events ++ x.poller.events l.now := by
  cases poller : x.poller with
  | offer cycle =>
    obtain ⟨sessions, same⟩ := l.pollerStep_offer_writes poller id
    rw [same]
    exact (List.append_nil _).symm
  | leave phase =>
    simp only [pollerStep, poller]
    exact l.events_leaveStep_eq phase
  | report =>
    simp only [pollerStep, poller]
    rfl
  | _ =>
    simp only [pollerStep, poller]
    exact (List.append_nil _).symm

theorem events_callStep (T : Transport σ) (c : Call) (l : Link σ) :
    (c.step T l).2.events = l.events ++ c.events := by
  cases c with
  | start phase => exact l.events_startStep T phase
  | send frame phase => exact (l.events_sendStep frame phase).trans (List.append_nil _).symm
  | close phase => exact l.events_closeStep phase
  | stopPolling returned =>
    simp only [Call.events, List.append_nil]
    cases returned with
    | true => rfl
    | false =>
      simp only [Call.step]
      split
      · rfl
      · exact l.events_cancelPolling

/-- The events that say of a frame that it was sent or dropped. -/
def settlements {σ : Type} (l : Link σ) : List LinkEvent := l.events.filter (·.settled?.isSome)

/-! ## The frames that are taken -/

theorem filterMap_taken?_eventNotes (id : Nat) (session : Option Nat) (before after : Link σ) :
    (eventNotes session before after).filterMap (Note.taken? id) = [] := by
  unfold eventNotes
  induction after.events.drop before.events.length with
  | nil => rfl
  | cons event events ih => exact ih

theorem filterMap_taken?_offerNotes (id : Nat) (frame : Frame) (l : Link σ) :
    (l.offerNotes frame).filterMap (Note.taken? id) = [] := by
  unfold offerNotes
  cases l.taker? frame <;> rfl

theorem filterMap_taken?_sendNotes (id : Nat) (frame : Frame) (phase : SendPhase) (l : Link σ) :
    (l.sendNotes frame phase).filterMap (Note.taken? id) = [] := by
  cases phase with
  | queue => exact l.filterMap_taken?_offerNotes id frame
  | mark | restore | done => rfl

theorem filterMap_taken?_writerNotes (id k : Nat) (x : Session) :
    (writerNotes k x).filterMap (Note.taken? id) = if k = id then x.takes else [] := by
  unfold writerNotes Session.takes
  cases x.writer with
  | take => cases x.queue <;> by_cases own : k = id <;> simp [Note.taken?, own]
  | fail phase => cases phase <;> simp [failNotes, Note.taken?]
  | _ => simp [Note.taken?]

/-- Only a writer takes frames. -/
theorem filterMap_taken?_loopNotes (id : Nat) {p : Place} (ne : p ≠ ⟨id, .writer⟩) (l : Link σ) :
    (l.loopNotes p).filterMap (Note.taken? id) = [] := by
  obtain ⟨k, loop⟩ := p
  unfold loopNotes
  cases l.sessions[k]? with
  | none => rfl
  | some x =>
    cases loop with
    | reader =>
      show (l.readerNotes k x).filterMap _ = []
      unfold readerNotes
      cases x.reader with
      | reply chunk tag answer phase => exact l.filterMap_taken?_sendNotes id answer phase
      | fail phase => cases phase <;> rfl
      | _ => rfl
    | writer =>
      have other : k ≠ id := by
        rintro rfl
        exact ne rfl
      show (writerNotes k x).filterMap _ = []
      rw [filterMap_taken?_writerNotes, if_neg other]
    | poller =>
      show (l.pollerNotes x).filterMap _ = []
      unfold pollerNotes
      cases x.poller with
      | offer cycle =>
        cases left : cycle.left with
        | nil => simp [left]
        | cons command rest => simpa [left] using l.filterMap_taken?_offerNotes id command
      | _ => rfl

end Link

namespace Scene

variable {σ : Type}

/-- What an action reports. -/
def eventsOf : Action σ → Scene σ → List LinkEvent
  | .loop ⟨id, .reader⟩, s => s.link.sessions[id]?.toList.flatMap (·.reader.events)
  | .loop ⟨id, .writer⟩, s =>
    s.link.sessions[id]?.toList.flatMap (·.writer.events s.link.options.retries.toNat)
  | .loop ⟨id, .poller⟩, s => s.link.sessions[id]?.toList.flatMap (·.poller.events s.link.now)
  | .call number, s => s.calls[number]?.toList.flatMap Call.events
  | _, _ => []

/-- What an action reports comes behind what was reported before. -/
theorem events_act_eq (T : Transport σ) (a : Action σ) (s : Scene σ) :
    (s.act T a).link.events = s.link.events ++ eventsOf a s := by
  cases a with
  | loop p =>
    obtain ⟨id, loop⟩ := p
    cases at_id : s.link.sessions[id]? with
    | none => cases loop <;> simp [act, Link.step, eventsOf, at_id]
    | some x =>
      cases loop with
      | reader => simpa [act_reader T at_id, eventsOf, at_id] using s.link.events_readerStep T id x
      | writer => simpa [act_writer T at_id, eventsOf, at_id] using s.link.events_writerStep T id x
      | poller => simpa [act_poller T at_id, eventsOf, at_id] using s.link.events_pollerStep id x
  | call number =>
    cases at_number : s.calls[number]? with
    | none => simp [act, eventsOf, at_number]
    | some c => simpa [act, eventsOf, at_number] using s.link.events_callStep T c
  | make | device | clock | command | callback => exact (List.append_nil _).symm

/-- An event that only one kind of loop reports was reported by such a loop. -/
theorem loop_of_mem_eventsOf {a : Action σ} {s : Scene σ} {event : LinkEvent} {loop : Loop}
    (member : event ∈ eventsOf a s) (reports : event.loop? = some loop) :
    ∃ id, a = .loop ⟨id, loop⟩ := by
  have leave (phase : LeavePhase) : event ∉ phase.events := by
    intro member
    cases phase with
    | report => rw [List.mem_singleton.1 member] at reports; cases reports
    | count | judge | finish => cases member
  cases a with
  | loop p =>
    obtain ⟨id, other⟩ := p
    refine ⟨id, ?_⟩
    suffices same : event.loop? = some other by rw [Option.some.inj (reports.symm.trans same)]
    cases other with
    | reader =>
      obtain ⟨x, -, member⟩ := List.mem_flatMap.1 member
      cases reader : x.reader with
      | leave phase => rw [reader] at member; exact absurd member (leave phase)
      | report chunk => rw [reader] at member; rw [List.mem_singleton.1 member]; rfl
      | _ => rw [reader] at member; cases member
    | writer =>
      obtain ⟨x, -, member⟩ := List.mem_flatMap.1 member
      cases writer : x.writer with
      | leave phase => rw [writer] at member; exact absurd member (leave phase)
      | report | drop => rw [writer] at member; rw [List.mem_singleton.1 member]; rfl
      | _ => rw [writer] at member; cases member
    | poller =>
      obtain ⟨x, -, member⟩ := List.mem_flatMap.1 member
      cases poller : x.poller with
      | leave phase => rw [poller] at member; exact absurd member (leave phase)
      | report cycle => rw [poller] at member; rw [List.mem_singleton.1 member]; rfl
      | _ => rw [poller] at member; cases member
  | call number =>
    obtain ⟨c, -, member⟩ := List.mem_flatMap.1 member
    cases c with
    | start phase =>
      cases phase with
      | report => rw [List.mem_singleton.1 member] at reports; cases reports
      | _ => cases member
    | close phase =>
      cases phase with
      | report => rw [List.mem_singleton.1 member] at reports; cases reports
      | _ => cases member
    | send | stopPolling => cases member
  | make | device | clock | command | callback => cases member

variable {s : Scene σ} {a : Action σ} {id : Nat}

theorem taken_act_of_ne (T : Transport σ) (ne : a ≠ .loop ⟨id, .writer⟩) :
    (s.act T a).taken id = s.taken id := by
  cases a with
  | loop p =>
    have noted := s.link.filterMap_taken?_loopNotes id (p := p) (by rintro rfl; exact ne rfl)
    simp only [act, taken, List.filterMap_append, noted, Link.filterMap_taken?_eventNotes,
      List.append_nil]
  | call number =>
    cases at_number : s.calls[number]? with
    | none => simp only [act, at_number]
    | some c =>
      have noted : (c.notes s.link).filterMap (Note.taken? id) = [] := by
        cases c with
        | send frame phase => exact s.link.filterMap_taken?_sendNotes id frame phase
        | start | stopPolling | close => rfl
      simp only [act_call T at_number, taken, List.filterMap_append, noted,
        Link.filterMap_taken?_eventNotes, List.append_nil]
  | make | device | clock | command | callback => rfl

theorem taken_act_writer (T : Transport σ) {x : Session} (at_id : s.link.sessions[id]? = some x) :
    (s.act T (.loop ⟨id, .writer⟩)).taken id = s.taken id ++ x.takes := by
  have noted := Link.filterMap_taken?_writerNotes id id x
  rw [if_pos rfl] at noted
  simp only [act, taken, Link.loopNotes, at_id, List.filterMap_append, noted,
    Link.filterMap_taken?_eventNotes, List.append_nil]

/-- Only writers tell what became of frames. -/
theorem settlements_act_of_ne (T : Transport σ) (ne : ∀ k, a ≠ .loop ⟨k, .writer⟩) :
    (s.act T a).link.settlements = s.link.settlements := by
  have silent : (eventsOf a s).filter (·.settled?.isSome) = [] := by
    refine List.filter_eq_nil_iff.2 fun event member => ?_
    cases event with
    | sent | dropped =>
      obtain ⟨k, writer⟩ := loop_of_mem_eventsOf member rfl
      exact absurd writer (ne k)
    | _ => simp [LinkEvent.settled?]
  rw [Link.settlements, events_act_eq, List.filter_append, silent, List.append_nil]
  rfl

end Scene

end FieldLink

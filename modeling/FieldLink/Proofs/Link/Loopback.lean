import FieldLink.Proofs.Link.Devices
import FieldLink.Proofs.Link.Serial

/-!
# A link that hears itself

A device in memory can give back what is written to it.  On such a device, and if nothing else is
put there to read or to go wrong, a link receives what it has written, byte for byte, in chunks of
its own (`received_of_loopback`).  A frame without bytes is the exception: what is given back for it
is read as the end of all data (`empty_frame_ends_session`).
-/

namespace FieldLink

/-! ## A device that gives back what is written -/

/-- The bytes of something that is to be read. -/
def ReadEvent.bytes : ReadEvent → Frame
  | data bytes => bytes
  | failure _ | endOfStream => []

namespace Device

/-- The bytes that are still to be read. -/
def unread (d : Device) : Frame := d.reads.flatMap ReadEvent.bytes

/-- Writes are accepted and given back, and there is nothing to read but bytes. -/
structure Loops (d : Device) : Prop where
  loopback : d.loopback = true
  script : d.script = []
  ready : d.stalledUntil = 0
  clean : d.flushFailure = none
  reads : ∀ event ∈ d.reads, ∃ b bytes, event = .data (b :: bytes)

variable {d d' : Device}

theorem Loops.of_alike (loops : d.Loops) (alike : d.Alike d') : d'.Loops where
  loopback := alike.loopback.trans loops.loopback
  script := alike.script.trans loops.script
  ready := alike.stalledUntil.elim (·.trans loops.ready) id
  clean := alike.flushFailure.elim (·.trans loops.clean) id
  reads := alike.reads ▸ loops.reads

theorem Alike.unread (alike : d.Alike d') : d'.unread = d.unread := by
  rw [Device.unread, alike.reads, Device.unread]

/-- A read waits, or takes the first bytes that are to be read. -/
theorem Loops.read (loops : d.Loops) (room : Nat) :
    d.read (room + 1) = (.waiting none, d) ∨
      ∃ b bytes d', d.read (room + 1) = (.done (b :: bytes), d') ∧ d'.Loops ∧
        d.unread = b :: bytes ++ d'.unread ∧ d'.written = d.written := by
  unfold Device.read
  rcases reads : d.reads with _ | ⟨event, rest⟩
  · exact .inl rfl
  · obtain ⟨b, bytes, rfl⟩ := loops.reads event (by simp [reads])
    refine .inr ⟨b, bytes.take room, _, rfl, ⟨loops.loopback, loops.script, loops.ready,
      loops.clean, ?_⟩, ?_, rfl⟩
    · intro event member
      have old : ∀ event ∈ rest, ∃ b bytes, event = .data (b :: bytes) :=
        fun event member => loops.reads event (by simp [reads, member])
      simp only [List.drop_succ_cons] at member
      split at member
      · exact old event member
      · rename_i some_left
        rcases List.mem_cons.1 member with rfl | member
        · obtain ⟨c, more, eq⟩ := List.exists_cons_of_ne_nil some_left
          exact ⟨c, more, by rw [eq]⟩
        · exact old event member
    · simp only [unread, reads, List.flatMap_cons, ReadEvent.bytes, List.drop_succ_cons,
        List.cons_append]
      split
      · rename_i none_left
        rw [List.take_of_length_le (List.drop_eq_nil_iff.1 none_left)]
      · rw [List.flatMap_cons, ReadEvent.bytes, ← List.append_assoc, List.take_append_drop]

/-- A read for a link waits, or takes the first bytes that are to be read. -/
theorem Loops.read_packet (loops : d.Loops) (now : Nat) :
    transport.read packetSize.toNat now d = (.waiting none, d) ∨
      ∃ b bytes d', transport.read packetSize.toNat now d = (.done (b :: bytes), d') ∧ d'.Loops ∧
        d.unread = b :: bytes ++ d'.unread ∧ d'.written = d.written :=
  loops.read 14

/-- A write is accepted, and given back. -/
theorem Loops.write (loops : d.Loops) (frame : Frame) (now : Nat) :
    (d.write frame now).1 = .done frame.length ∧
      (d.write frame now).2.written = d.written ++ [frame] ∧
      (d.write frame now).2.unread = d.unread ++ frame ∧
      (frame ≠ [] → (d.write frame now).2.Loops) := by
  have free : d.stallEnd? now = none := by simp [stallEnd?, loops.ready]
  simp only [Device.write, free, loops.script, follow, takeAll, loops.loopback, if_true]
  refine ⟨trivial, trivial, by simp [unread, ReadEvent.bytes], fun some_bytes => ?_⟩
  refine ⟨rfl, rfl, loops.ready, loops.clean, fun event member => ?_⟩
  rcases List.mem_append.1 member with old | new
  · exact loops.reads event old
  · obtain ⟨b, bytes, rfl⟩ := List.exists_cons_of_ne_nil some_bytes
    exact ⟨b, bytes, List.mem_singleton.1 new⟩

theorem Loops.flush (loops : d.Loops) : d.flush = (.done (), d) := by
  simp [Device.flush, loops.clean]

end Device

/-! ## What is under way from the device to the application -/

/-- The chunk that a reader has read and not reported yet. -/
def ReaderPhase.hand : ReaderPhase → Frame
  | deliver chunk | reply chunk _ _ _ | clear chunk | report chunk => chunk
  | _ => []

/-- Whether a reader is about to take a chunk into its hand, or to give one away. -/
def ReaderPhase.carries : ReaderPhase → Bool
  | read | report _ => true
  | _ => false

/-- The chunk that was received. -/
def LinkEvent.received? : LinkEvent → Option Frame
  | received chunk => some chunk
  | _ => none

theorem ReaderPhase.received_events {phase : ReaderPhase} (carries : phase.carries = false) :
    phase.events.filterMap LinkEvent.received? = [] := by
  cases phase with
  | read | report => cases carries
  | leave phase => cases phase <;> rfl
  | _ => rfl

/-- Neither the reader nor the writer gives the session up. -/
structure Session.Whole (x : Session) : Prop where
  reader : ∀ phase, x.reader ≠ .fail phase
  writer : ∀ phase, x.writer ≠ .fail phase

namespace Link

variable {σ : Type}

/-- The chunks that were received, in order. -/
def received (l : Link σ) : List Frame := l.events.filterMap LinkEvent.received?

/-- The chunk that the reader of the latest session has read and not reported yet. -/
def hand (l : Link σ) : Frame := (l.sessions.getLast?.map (·.reader.hand)).getD []

theorem hand_of_latest {l : Link σ} {id : Nat} {x : Session} (at_id : l.sessions[id]? = some x)
    (latest : id + 1 = l.sessions.length) : l.hand = x.reader.hand := by
  rw [hand, List.getLast?_eq_getElem?, ← latest, Nat.add_sub_cancel, at_id]
  rfl

theorem hand_of_none {l : Link σ} (free : ∀ x ∈ l.sessions, x.reader.hand = []) : l.hand = [] := by
  unfold hand
  cases last : l.sessions.getLast? with
  | none => rfl
  | some x => exact free x (List.mem_of_getLast? last)

/-- The last session is at the end of the list. -/
theorem exists_latest {l : Link σ} (some_session : l.sessions ≠ []) :
    ∃ id x, l.sessions[id]? = some x ∧ id + 1 = l.sessions.length := by
  have bound := List.length_pos_iff.2 some_session
  exact ⟨l.sessions.length - 1, _, List.getElem?_eq_getElem (by omega), by omega⟩

theorem reader_of_isOver {x : Session} (finished : x.standing.isOver) : x.reader = .gone := by
  simp only [Standing.isOver, Bool.and_eq_true, decide_eq_true_eq] at finished
  have gone : x.reader.stage = .gone := finished.1.1
  cases reader : x.reader <;> rw [reader] at gone <;> first | rfl | cases gone

theorem hand_of_rests {x : Session} (rests : x.reader.rests) : x.reader.hand = [] := by
  cases reader : x.reader <;> rw [reader] at rests <;> first | rfl | cases rests

/-! ## The loops on such a device -/

theorem readerNext_of_read {σ : Type} (T : Transport σ) (id : Nat) {x : Session} (l : Link σ)
    (reader : x.reader = .read) :
    l.readerNext T id x =
      ({ l with device := (T.read packetSize.toNat l.now l.device).2 } : Link σ).readerAfter T
        (T.read packetSize.toNat l.now l.device).1 := by
  simp only [readerNext, reader]

/-- What a reader has in its hand stays there, unless it reads or reports. -/
theorem hand_readerNext {σ : Type} (T : Transport σ) (id : Nat) {x : Session} (l : Link σ)
    (carries : x.reader.carries = false) : (l.readerNext T id x).hand = x.reader.hand := by
  unfold readerNext
  cases reader : x.reader with
  | read | report => rw [reader] at carries; cases carries
  | look => simp only; split <;> rfl
  | deliver chunk => rcases l.callback with _ | ⟨tag, _ | ⟨answer, replies⟩⟩ <;> rfl
  | reply chunk tag answer phase => cases phase <;> rfl
  | fail phase => simp only; cases (l.failStep id phase).1 <;> rfl
  | leave phase => simp only; cases (l.leaveStep phase).1 <;> rfl
  | unborn | clear | release | gone => rfl

/-- A reader that finds a chunk without bytes takes it for the end of all data. -/
theorem readerNext_of_empty (id : Nat) {x : Session} {l : Link Device} {rest : List ReadEvent}
    (reader : x.reader = .read) (reads : l.device.reads = .data [] :: rest) :
    l.readerNext Device.transport id x = .fail .mark := by
  rw [readerNext_of_read Device.transport id l reader]
  simp [Device.transport, Device.read, reads, readerAfter]

/-- A reader that finds bytes or nothing goes on. -/
theorem readerNext_ne_fail {id : Nat} {x : Session} {l : Link Device} (loops : l.device.Loops)
    (whole : ∀ phase, x.reader ≠ .fail phase) (phase : FailPhase) :
    l.readerNext Device.transport id x ≠ .fail phase := by
  unfold readerNext
  cases reader : x.reader with
  | fail old => exact absurd reader (whole old)
  | look => simp only; split <;> rintro ⟨⟩
  | read =>
    rcases loops.read_packet l.now with waiting | ⟨b, bytes, d', done, -⟩
    · simp only [waiting]
      rintro ⟨⟩
    · simp only [done]
      rintro ⟨⟩
  | deliver chunk =>
    rcases callback : l.callback with _ | ⟨tag, _ | ⟨answer, replies⟩⟩ <;> rintro ⟨⟩
  | reply chunk tag answer phase => cases phase <;> rintro ⟨⟩
  | leave phase => simp only; cases (l.leaveStep phase).1 <;> rintro ⟨⟩
  | unborn | clear | report | release | gone => rintro ⟨⟩

/-- A writer whose frames are accepted goes on. -/
theorem writerNext_ne_fail {id : Nat} {x : Session} {l : Link Device} (loops : l.device.Loops)
    (whole : ∀ phase, x.writer ≠ .fail phase) (phase : FailPhase) :
    l.writerNext Device.transport id x ≠ .fail phase := by
  have write (frame : Frame) (count deadline : Nat) :
      l.writeNext Device.transport frame count deadline = .flush frame count deadline := by
    obtain ⟨accepted, -⟩ := loops.write frame l.now
    simp [writeNext, Device.transport, accepted]
  have flush (frame : Frame) (count deadline : Nat) :
      l.flushNext Device.transport frame count deadline = .report frame := by
    simp [flushNext, Device.transport, loops.flush]
  have shutdown (deadline : Nat) : l.shutdownNext Device.transport deadline ≠ .fail phase := by
    unfold shutdownNext
    split
    · split <;> rintro ⟨⟩
    · rintro ⟨⟩
    · rintro ⟨⟩
  unfold writerNext
  cases writer : x.writer with
  | fail old => exact absurd writer (whole old)
  | look => simp only; split <;> rintro ⟨⟩
  | take =>
    cases x.queue with
    | cons => rintro ⟨⟩
    | nil => simp only; split <;> rintro ⟨⟩
  | attempt frame count =>
    simp only
    split
    · rintro ⟨⟩
    · split <;> rintro ⟨⟩
  | write | stalled => simp only [write]; rintro ⟨⟩
  | flush | draining => simp only [flush]; rintro ⟨⟩
  | shutdown | ending => exact shutdown _
  | leave phase result => simp only; cases (l.leaveStep phase).1 <;> rintro ⟨⟩
  | unborn | report | clear | drop | release | gone => rintro ⟨⟩

/-! ## What was written and what was received -/

/-- The device gives back what is written, and all that was written was received, is in the hand of
the reader, or is still to be read. -/
structure Balanced (l : Link Device) : Prop where
  loops : l.device.Loops
  written : l.device.written.flatten = l.received.flatten ++ l.hand ++ l.device.unread

end Link

namespace Scene

variable {σ : Type} {T : Transport σ} {s : Scene σ} {a : Action σ}

/-- The readers of earlier sessions have ended. -/
theorem reader_of_past {id : Nat} {x : Session} (serial : s.outline.Serial)
    (at_id : s.link.sessions[id]? = some x) (past : id + 1 ≠ s.link.sessions.length) :
    x.reader = .gone := by
  have bound := (List.getElem?_eq_some_iff.1 at_id).1
  refine Link.reader_of_isOver (serial.past id _ (Link.standing_at at_id) ?_)
  simp only [outline, Link.outline, List.length_map]
  omega

/-- The reader of the latest session goes on with the chunk in its hand. -/
theorem hand_act_reader (T : Transport σ) {id : Nat} {x : Session}
    (at_id : s.link.sessions[id]? = some x) (latest : id + 1 = s.link.sessions.length) :
    (s.act T (.loop ⟨id, .reader⟩)).link.hand = (s.link.readerNext T id x).hand := by
  obtain ⟨x', at_id', passes⟩ := passes_act T (.loop ⟨id, .reader⟩) at_id
  have length : (s.act T (.loop ⟨id, .reader⟩)).link.sessions.length = s.link.sessions.length := by
    have same := (s.link.handling_step T ⟨id, .reader⟩).length_eq
    simp only [Link.shelves, List.length_map] at same
    exact same
  rw [Link.hand_of_latest at_id' (latest.trans length.symm), passes.reader rfl]

/-- When the latest session stays the latest, its reader keeps what it has in its hand while others
act that do not begin it. -/
theorem hand_act_of_length (T : Transport σ)
    (ne : ∀ id, id + 1 = s.link.sessions.length → a ≠ .loop ⟨id, .reader⟩)
    (length : (s.act T a).link.sessions.length = s.link.sessions.length)
    (unbegun : ∀ id, ¬s.Begins a .reader id) : (s.act T a).link.hand = s.link.hand := by
  by_cases some_session : s.link.sessions = []
  · have none : (s.act T a).link.sessions = [] := by
      rw [← List.length_eq_zero_iff, length, some_session, List.length_nil]
    rw [Link.hand, Link.hand, none, some_session]
  · obtain ⟨id, x, at_id, latest⟩ := Link.exists_latest some_session
    obtain ⟨x', at_id', passes⟩ := passes_act T a at_id
    have same := (passes.reader_of_ne (ne id latest)).resolve_right fun h => unbegun id h.1
    rw [Link.hand_of_latest at_id latest, Link.hand_of_latest at_id' (latest.trans length.symm), same]

/-- The reader of the latest session is begun with nothing in its hand, as it had before. -/
theorem hand_act_launch (T : Transport σ) {number id : Nat} (serial : s.outline.Serial)
    (at_number : s.calls[number]? = some (.start (.launch .reader id))) :
    (s.act T (.call number)).link.hand = s.link.hand := by
  have sessions : (s.act T (.call number)).link.sessions =
      (s.link.update id fun x => { x with reader := .look }).sessions := by
    rw [act_call T at_number]
    exact Link.sessions_startStep T (.launch .reader id) s.link
  have length : (s.act T (.call number)).link.sessions.length = s.link.sessions.length := by
    rw [sessions]
    simp [Link.update]
  obtain ⟨-, -, -, latest, unread⟩ := serial.reign.of_reigns at_number rfl
  replace latest : id + 1 = s.link.sessions.length := by
    simpa [Outline.Latest, outline, Link.outline] using latest
  obtain ⟨x, at_id⟩ : ∃ x, s.link.sessions[id]? = some x :=
    ⟨_, List.getElem?_eq_getElem (by omega)⟩
  have unborn : x.reader.stage = .unborn := unread x.standing (Link.standing_at at_id)
  have empty : x.reader.hand = [] := by
    cases reader : x.reader <;> rw [reader] at unborn <;> first | rfl | cases unborn
  have at_id' : (s.act T (.call number)).link.sessions[id]? = some { x with reader := .look } := by
    rw [sessions]
    exact Link.session_update at_id
  rw [Link.hand_of_latest at_id latest, empty,
    Link.hand_of_latest at_id' (latest.trans length.symm)]
  rfl

/-- A session is made when no reader has a chunk in its hand, and its reader has none. -/
theorem hand_act_makeQueue (T : Transport σ) {number id : Nat} (serial : s.outline.Serial)
    (at_number : s.calls[number]? = some (.start (.makeQueue id))) :
    (s.act T (.call number)).link.hand = s.link.hand := by
  obtain ⟨-, -, -, spent, -⟩ := serial.reign.of_reigns at_number rfl
  have free : s.link.hand = [] := by
    refine Link.hand_of_none fun x member => ?_
    rw [Link.reader_of_isOver (spent _ (List.mem_map_of_mem member))]
    rfl
  have sessions := Link.sessions_startStep T (.makeQueue id) s.link
  rw [act_call T at_number, free, Link.hand]
  simp only [Call.step, sessions]
  split
  · exact free
  · rw [List.getLast?_concat]
    rfl

/-- What the reader of the latest session has in its hand it keeps while others act. -/
theorem hand_act_of_ne (T : Transport σ) (serial : s.outline.Serial)
    (ne : ∀ id, id + 1 = s.link.sessions.length → a ≠ .loop ⟨id, .reader⟩) :
    (s.act T a).link.hand = s.link.hand := by
  cases a with
  | loop p =>
    have length := (s.link.handling_step T p).length_eq
    simp only [Link.shelves, List.length_map] at length
    exact hand_act_of_length T ne length (by rintro _ ⟨_, ⟨⟩, _⟩)
  | make | device | clock | command | callback => rfl
  | call number =>
    cases at_number : s.calls[number]? with
    | none => simp only [act, at_number]
    | some c =>
      have stays (other : ∀ id, c ≠ .start (.launch .reader id))
          (length : (c.step T s.link).2.sessions.length = s.link.sessions.length) :
          (s.act T (.call number)).link.hand = s.link.hand := by
        refine hand_act_of_length T ne ?_ ?_
        · rw [act_call T at_number, length]
        · rintro id ⟨n, ⟨⟩, at_n⟩
          exact other id (Option.some.inj (at_number.symm.trans at_n))
      by_cases is_start : ∃ phase, c = .start phase
      · obtain ⟨phase, rfl⟩ := is_start
        have sessions := Link.sessions_startStep T phase s.link
        cases phase with
        | makeQueue id => exact hand_act_makeQueue T serial at_number
        | launch loop id =>
          cases loop with
          | reader => exact hand_act_launch T serial at_number
          | writer | poller =>
            refine stays (by rintro _ ⟨⟩) ?_
            rw [Call.step, sessions]
            simp [Link.launch, Link.update]
        | _ => exact stays (by rintro _ ⟨⟩) (by rw [Call.step, sessions])
      · have spares := Link.spares_callStep T s.link fun phase h => is_start ⟨phase, h⟩
        exact stays (fun id h => is_start ⟨_, h⟩) spares.length

/-! ## Every byte in its place -/

theorem received_act (T : Transport σ) (a : Action σ) (s : Scene σ) :
    (s.act T a).link.received =
      s.link.received ++ (eventsOf a s).filterMap LinkEvent.received? := by
  rw [Link.received, events_act_eq, List.filterMap_append]
  rfl

/-- Only readers report chunks. -/
theorem received_act_of_ne (T : Transport σ) (ne : ∀ id, a ≠ .loop ⟨id, .reader⟩) :
    (s.act T a).link.received = s.link.received := by
  have silent : (eventsOf a s).filterMap LinkEvent.received? = [] := by
    refine List.filterMap_eq_nil_iff.2 fun event member => ?_
    cases event with
    | received chunk =>
      obtain ⟨id, reader⟩ := loop_of_mem_eventsOf member rfl
      exact absurd reader (ne id)
    | _ => rfl
  rw [received_act, silent, List.append_nil]

/-- What was received, with what is in the hand of the reader, stays the same until more is read. -/
theorem received_hand_act (T : Transport σ) (serial : s.outline.Serial)
    (unread : ∀ id x, a = .loop ⟨id, .reader⟩ → s.link.sessions[id]? = some x →
      x.reader ≠ .read) :
    (s.act T a).link.received.flatten ++ (s.act T a).link.hand =
      s.link.received.flatten ++ s.link.hand := by
  by_cases reads : ∃ id x, a = .loop ⟨id, .reader⟩ ∧ s.link.sessions[id]? = some x ∧
      id + 1 = s.link.sessions.length
  · obtain ⟨id, x, rfl, at_id, latest⟩ := reads
    have received : (s.act T (.loop ⟨id, .reader⟩)).link.received =
        s.link.received ++ x.reader.events.filterMap LinkEvent.received? := by
      rw [received_act]
      simp [eventsOf, at_id]
    rw [received, hand_act_reader T at_id latest, Link.hand_of_latest at_id latest]
    cases carries : x.reader.carries with
    | false =>
      rw [ReaderPhase.received_events carries, List.append_nil, Link.hand_readerNext T id _ carries]
    | true =>
      cases reader : x.reader with
      | read => exact absurd reader (unread id x rfl at_id)
      | report chunk =>
        simp [ReaderPhase.events, LinkEvent.received?, Link.readerNext, reader, ReaderPhase.hand]
      | _ => rw [reader] at carries; cases carries
  · have silent : (s.act T a).link.received = s.link.received := by
      by_cases reader : ∃ id, a = .loop ⟨id, .reader⟩
      · obtain ⟨id, rfl⟩ := reader
        rw [received_act]
        cases at_id : s.link.sessions[id]? with
        | none => simp [eventsOf, at_id]
        | some x =>
          have gone := reader_of_past serial at_id fun latest => reads ⟨id, x, rfl, at_id, latest⟩
          simp [eventsOf, at_id, gone, ReaderPhase.events]
      · exact received_act_of_ne T fun id same => reader ⟨id, same⟩
    rw [silent, hand_act_of_ne T serial]
    rintro id latest rfl
    exact reads ⟨id, _, rfl, List.getElem?_eq_getElem (by omega), latest⟩

/-! ## Nothing is given up -/

/-- As long as no loop gives its session up, nobody is noted to have done so. -/
theorem faults_act_of_whole (T : Transport σ) (a : Action σ)
    (whole : ∀ x ∈ s.link.sessions, x.Whole) : (s.act T a).outline.faults = s.outline.faults := by
  cases a with
  | loop p =>
    generalize after : (s.act T (.loop p)).outline = o
    have step := after ▸ s.loopStep_act T p
    cases step with
    | mark y at_id at_stage =>
      obtain ⟨x, at_x, rfl⟩ := Link.session_at at_id
      have own := whole x (List.mem_of_getElem? at_x)
      obtain ⟨id, loop⟩ := p
      cases loop with
      | reader =>
        have at_stage : x.reader.stage = .failing .mark := at_stage
        cases reader : x.reader <;> rw [reader] at at_stage <;> try cases at_stage
        exact absurd reader (own.reader _)
      | writer =>
        have at_stage : x.writer.stage = .failing .mark := at_stage
        cases writer : x.writer <;> rw [writer] at at_stage <;> try cases at_stage
        exact absurd writer (own.writer _)
      | poller =>
        have at_stage : x.poller.stage = .failing .mark := at_stage
        cases poller : x.poller <;> rw [poller] at at_stage <;> cases at_stage
    | _ => rfl
  | call number =>
    cases at_number : s.calls[number]? with
    | none => simp only [act, at_number]
    | some c =>
      simp only [outline, act, at_number, List.filterMap_append, filterMap_fault?_eventNotes,
        Call.faults_notes, List.append_nil]
      rfl
  | make | device | clock | command | callback => rfl

variable {s : Scene Device} {a : Action Device}

/-- On a device that gives back what is written, no loop begins to give its session up. -/
theorem whole_act (loops : s.link.device.Loops) (whole : ∀ x ∈ s.link.sessions, x.Whole) :
    ∀ x ∈ (s.act Device.transport a).link.sessions, x.Whole := by
  intro x' member
  obtain ⟨id, at_id'⟩ := List.mem_iff_getElem?.1 member
  obtain ⟨x, at_id, passes⟩ | ⟨-, rfl⟩ := session_act_cases Device.transport a at_id'
  · have own := whole x (List.mem_of_getElem? at_id)
    refine ⟨fun phase => ?_, fun phase => ?_⟩
    · by_cases acts : a = .loop ⟨id, .reader⟩
      · rw [passes.reader acts]
        exact Link.readerNext_ne_fail loops (own.reader) phase
      · obtain same | ⟨-, new⟩ := passes.reader_of_ne acts
        · rw [same]
          exact own.reader phase
        · rw [new]
          rintro ⟨⟩
    · by_cases acts : a = .loop ⟨id, .writer⟩
      · rw [passes.writer acts]
        exact Link.writerNext_ne_fail loops (own.writer) phase
      · obtain same | ⟨-, new⟩ := passes.writer_of_ne acts
        · rw [same]
          exact own.writer phase
        · rw [new]
          rintro ⟨⟩
  · exact ⟨by rintro _ ⟨⟩, by rintro _ ⟨⟩⟩

/-- The reader takes a chunk in its hand. -/
theorem balanced_act_read {id : Nat} {x : Session} (serial : s.outline.Serial)
    (balanced : s.link.Balanced) (at_id : s.link.sessions[id]? = some x)
    (reader : x.reader = .read) :
    (s.act Device.transport (.loop ⟨id, .reader⟩)).link.Balanced := by
  have latest : id + 1 = s.link.sessions.length := by
    by_contra past
    cases reader.symm.trans (reader_of_past serial at_id past)
  have device := device_act_read at_id reader
  have hand := hand_act_reader Device.transport at_id latest
  rw [Link.readerNext_of_read Device.transport id s.link reader] at hand
  have before := Link.hand_of_latest at_id latest
  rw [reader] at before
  have received : (s.act Device.transport (.loop ⟨id, .reader⟩)).link.received =
      s.link.received := by
    rw [received_act]
    simp [eventsOf, at_id, reader, ReaderPhase.events]
  rcases balanced.loops.read_packet s.link.now with waiting | ⟨b, bytes, d', done, loops, unread,
    written⟩
  · simp only [waiting] at device hand
    exact ⟨device ▸ balanced.loops, by rw [device, balanced.written, received, hand, before]; rfl⟩
  · simp only [done] at device hand
    refine ⟨device ▸ loops, ?_⟩
    rw [device, written, balanced.written, unread, received, hand, before]
    simp [Link.readerAfter, ReaderPhase.hand]

/-- The writer puts a frame to where it is to be read, or waits until it is there. -/
theorem balanced_act_writer {id : Nat} {x : Session} (serial : s.outline.Serial)
    (balanced : s.link.Balanced) (at_id : s.link.sessions[id]? = some x)
    (uses : x.writer.usesDevice)
    (full : [] ∉ (s.act Device.transport (.loop ⟨id, .writer⟩)).link.device.written) :
    (s.act Device.transport (.loop ⟨id, .writer⟩)).link.Balanced := by
  have held := received_hand_act Device.transport (a := .loop ⟨id, .writer⟩) serial (by rintro _ _ ⟨⟩)
  have device : (s.act Device.transport (.loop ⟨id, .writer⟩)).link.device =
      (s.link.writerStep Device.transport id x).device := by
    rw [act_writer Device.transport at_id]
  rw [Link.device_writerStep] at device
  have write {frame : Frame}
      (device : (s.act Device.transport (.loop ⟨id, .writer⟩)).link.device =
        (s.link.device.write frame s.link.now).2) :
      (s.act Device.transport (.loop ⟨id, .writer⟩)).link.Balanced := by
    obtain ⟨-, written, unread, loops⟩ := balanced.loops.write frame s.link.now
    rw [device, written] at full
    refine ⟨device ▸ loops fun none => full (by simp [none]), ?_⟩
    rw [device, written, unread, held, List.flatten_append, balanced.written]
    simp
  have flush (device : (s.act Device.transport (.loop ⟨id, .writer⟩)).link.device =
        s.link.device.flush.2) :
      (s.act Device.transport (.loop ⟨id, .writer⟩)).link.Balanced := by
    rw [balanced.loops.flush] at device
    exact ⟨device ▸ balanced.loops, by rw [device, held, balanced.written]⟩
  cases writer : x.writer with
  | write | stalled =>
    rw [writer] at device
    exact write device
  | flush | draining =>
    rw [writer] at device
    exact flush device
  | _ => rw [writer] at uses; cases uses

/-- A step takes bytes from the writer to where they are to be read, from there to the reader, or
from the reader to the application. -/
theorem balanced_act (serial : s.outline.Serial) (balanced : s.link.Balanced)
    (calm : ∀ d, a ≠ .device d) (full : [] ∉ (s.act Device.transport a).link.device.written) :
    (s.act Device.transport a).link.Balanced := by
  by_cases reads : ∃ id x, a = .loop ⟨id, .reader⟩ ∧ s.link.sessions[id]? = some x ∧
      x.reader = .read
  · obtain ⟨id, x, rfl, at_id, reader⟩ := reads
    exact balanced_act_read serial balanced at_id reader
  · obtain h | ⟨id, x, rfl, at_id, uses⟩ | alike := device_act_cases s calm
    · exact absurd h reads
    · exact balanced_act_writer serial balanced at_id uses full
    · have held := received_hand_act Device.transport (a := a) serial fun id x same at_id reader =>
        reads ⟨id, x, same, at_id, reader⟩
      exact ⟨balanced.loops.of_alike alike,
        by rw [alike.written, held, alike.unread, balanced.written]⟩

/-! ## Runs -/

/-- A link on a device that gives back what is written, of which no session was given up. -/
structure Looping (s : Scene Device) : Prop where
  serial : s.outline.Serial
  clement : s.outline.Clement
  kept : s.outline.faults = []
  whole : ∀ x ∈ s.link.sessions, x.Whole
  balanced : s.link.Balanced

theorem looping_fresh (options : LinkOptions) {device : Device} (now : Nat) (loops : device.Loops)
    (unread : device.reads = []) (unwritten : device.written = []) :
    (fresh options device now).Looping where
  serial := serial_fresh options device now
  clement := clement_fresh options device now
  kept := rfl
  whole := by rintro _ ⟨⟩
  balanced := by
    refine ⟨loops, ?_⟩
    have none : device.unread = [] := by rw [Device.unread, unread]; rfl
    show device.written.flatten = [] ++ [] ++ device.unread
    rw [unwritten, none]
    rfl

theorem Looping.act (looping : s.Looping) (calm : ∀ d, a ≠ .device d)
    (full : [] ∉ (s.act Device.transport a).link.device.written) :
    (s.act Device.transport a).Looping := by
  have kept := (faults_act_of_whole Device.transport a looping.whole).trans looping.kept
  exact ⟨serial_act Device.transport a looping.serial kept,
    clement_act Device.transport a looping.serial looping.clement, kept,
    whole_act looping.balanced.loops looping.whole,
    balanced_act looping.serial looping.balanced calm full⟩

theorem Looping.run {actions : List (Action Device)} (looping : s.Looping)
    (calm : ∀ a ∈ actions, ∀ d, a ≠ .device d)
    (full : [] ∉ (s.run Device.transport actions).link.device.written) :
    (s.run Device.transport actions).Looping := by
  induction actions generalizing s with
  | nil => exact looping
  | cons a actions ih =>
    have calm_rest : ∀ b ∈ actions, ∀ d, b ≠ .device d := fun b member =>
      calm b (List.mem_cons_of_mem a member)
    refine ih (looping.act (calm a List.mem_cons_self) fun empty => full ?_) calm_rest full
    exact (written_run _ calm_rest).subset empty

/-- A link on a device that gives back what is written, where nothing else is to be read and nothing
is to go wrong, and where no empty frame was written, whatever is called and however the loops
interleave:

* No session fails.
* The bytes that were received are the first of those that were written.  The rest are in the hand
  of the reader or still to be read, in this order.
* All bytes that were written were received when there are none to be read and the readers rest. -/
theorem received_of_loopback (options : LinkOptions) (device : Device) (now : Nat)
    (actions : List (Action Device)) (loops : device.Loops) (unread : device.reads = [])
    (unwritten : device.written = []) (calm : ∀ a ∈ actions, ∀ d, a ≠ .device d)
    (reached : (fresh options device now).run Device.transport actions = s)
    (full : [] ∉ s.link.device.written) :
    ((∀ id, .failed id ∉ s.notes) ∧ s.link.failed = false ∧ .closed true ∉ s.link.events) ∧
    s.link.received.flatten <+: s.link.device.written.flatten ∧
    s.link.device.written.flatten =
      s.link.received.flatten ++ s.link.hand ++ s.link.device.unread ∧
    (s.link.device.reads = [] → (∀ x ∈ s.link.sessions, x.reader.rests) →
      s.link.received.flatten = s.link.device.written.flatten) := by
  subst reached
  have looping := (looping_fresh options now loops unread unwritten).run calm full
  have written := looping.balanced.written
  refine ⟨⟨fun id failed => ?_, looping.serial.failed, looping.clement.silent⟩, ?_, written,
    fun none rest => ?_⟩
  · have fault := mem_faults_iff.2 failed
    rw [looping.kept] at fault
    cases fault
  · rw [written, List.append_assoc]
    exact List.prefix_append _ _
  · have free := Link.hand_of_none fun x member => Link.hand_of_rests (rest x member)
    rw [written, free, Device.unread, none]
    simp

/-- A link that hears itself sends a frame, which its writer writes and its reader reads. -/
def echo (frame : Frame) : Scene Device :=
  (fresh rehearsed { loopback := true } 0).run Device.transport <|
    .make .start :: List.replicate 16 (.call 0) ++
      .make (.send frame) :: List.replicate 2 (.call 1) ++
      List.replicate 6 (.loop ⟨0, .writer⟩) ++ List.replicate 10 (.loop ⟨0, .reader⟩)

/-- A frame that does not fit into one chunk is received in two. -/
theorem received_of_loopback_twice :
    (echo (List.replicate 16 7)).link.received = [List.replicate 15 7, [7]] ∧
      (echo (List.replicate 16 7)).link.received.flatten =
        (echo (List.replicate 16 7)).link.device.written.flatten := by
  obtain ⟨-, -, -, all⟩ := received_of_loopback rehearsed { loopback := true } 0 _
    ⟨rfl, rfl, rfl, rfl, by rintro _ ⟨⟩⟩ rfl rfl (by rintro _ member _ rfl; simp at member)
    (s := echo (List.replicate 16 7)) rfl (by decide +kernel)
  exact ⟨by decide +kernel, all (by decide +kernel) (by decide +kernel)⟩

/-- An empty frame is accepted and written, and what is given back for it ends the session. -/
theorem empty_frame_ends_session :
    (echo []).link.device.written = [[]] ∧ (echo []).link.received = [] ∧
      (echo []).link.failed = true := by
  decide +kernel

end Scene

end FieldLink

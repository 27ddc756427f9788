import FieldLink.Proofs.Link.SessionEnd

/-!
# After the end of a session

What a session still does once it is to end.  A `Deed` is what others feel of a session: a call on
its transport, a call of the receive callback, or an event; no step calls on the transport without
a deed (`Link.step_congr`).  A loop may stand just past its last look when its session is cancelled,
so it still has a budget of deeds; every step pays for its own, and no step adds to a budget
(`deeds_after_end`).
-/

namespace FieldLink

/-- What a session does that is felt outside of the link. -/
inductive Deed where
  /-- Begins to read a chunk. -/
  | read
  /-- Begins to write a frame. -/
  | write (frame : Frame)
  /-- Begins to wait until what was written is on the wire. -/
  | flush
  /-- Begins to end the writing. -/
  | shutdown
  /-- Makes a call again that had no answer yet. -/
  | again
  /-- Lets its half of the transport go. -/
  | release
  /-- Hands a chunk to the receive callback. -/
  | deliver (chunk : Frame)
  /-- Reports an event. -/
  | report (event : LinkEvent)
  deriving DecidableEq, Repr

namespace Deed

/-- Whether a write is begun. -/
def isWrite : Deed → Bool
  | write _ => true
  | _ => false

/-- Whether a chunk is handed to the receive callback. -/
def isDelivery : Deed → Bool
  | deliver _ => true
  | _ => false

/-- Whether the transport is made use of. -/
def isCall : Deed → Bool
  | deliver _ | report _ => false
  | _ => true

end Deed

namespace Link

variable {σ : Type}

/-- What is felt of a step of a reader, its events apart. -/
def readerDeeds (s : Session) (l : Link σ) : List Deed :=
  match s.reader with
  | .read => [.read]
  | .deliver chunk => if l.callback.isSome then [.deliver chunk] else []
  | .release => [.release]
  | _ => []

/-- What is felt of a step of a writer, its events apart. -/
def writerDeeds (s : Session) : List Deed :=
  match s.writer with
  | .write frame _ => [.write frame]
  | .flush _ _ _ => [.flush]
  | .shutdown => [.shutdown]
  | .stalled _ _ _ _ | .draining _ _ _ _ | .ending _ _ => [.again]
  | .release _ => [.release]
  | _ => []

/-- What is felt of a step of a loop, its events apart. -/
def callsOf (p : Place) (l : Link σ) : List Deed :=
  match l.sessions[p.session]? with
  | none => []
  | some s =>
    match p.loop with
    | .reader => l.readerDeeds s
    | .writer => writerDeeds s
    | .poller => []

/-- What is felt of a step of a loop. -/
def loopDeeds (T : Transport σ) (p : Place) (l : Link σ) : List Deed :=
  l.callsOf p ++ ((l.step T p).events.drop l.events.length).map .report

/-- A step that makes no call on the transport is the same for every transport. -/
theorem step_congr (T T' : Transport σ) {p : Place} {l : Link σ}
    (idle : ∀ deed ∈ l.callsOf p, deed.isCall = false) : l.step T p = l.step T' p := by
  obtain ⟨id, loop⟩ := p
  unfold callsOf at idle
  unfold step
  cases at_id : l.sessions[id]? with
  | none => rfl
  | some s =>
    simp only [at_id] at idle
    cases loop with
    | reader =>
      simp only [readerDeeds] at idle
      simp only [readerStep]
      cases reader : s.reader with
      | read | release => simp [reader, Deed.isCall] at idle
      | reply chunk tag answer phase => cases phase <;> rfl
      | _ => rfl
    | writer =>
      simp only [writerDeeds] at idle
      simp only [writerStep]
      cases writer : s.writer with
      | write | stalled | flush | draining | shutdown | ending | release =>
        simp [writer, Deed.isCall] at idle
      | _ => rfl
    | poller => rfl

/-- Whether the writer of the session `s` is about to meet a fatal fault. -/
def meetsFatal (T : Transport σ) (s : Session) (l : Link σ) : Prop :=
  match s.writer with
  | .write frame _ | .stalled frame _ _ _ =>
    let (answer, device) := T.write frame l.now l.device
    (∃ f, answer = .failed f ∧ T.classify device f = .fatal) ∨
      ∃ n, answer = .done n ∧ n < frame.length ∧ T.classify device (shortWrite n frame) = .fatal
  | .flush _ _ _ | .draining _ _ _ _ =>
    let (answer, device) := T.flush l.now l.device
    ∃ f, answer = .failed f ∧ T.classify device f = .fatal
  | _ => False

end Link

/-! ## Budgets -/

/-- How many reads a cancelled reader may still begin. -/
def ReaderPhase.readsLeft : ReaderPhase → Nat
  | read => 1
  | _ => 0

/-- How many chunks a cancelled reader may still hand to the receive callback. -/
def ReaderPhase.deliveriesLeft : ReaderPhase → Nat
  | read | deliver _ => 1
  | _ => 0

/-- How many writes a cancelled writer may still begin. -/
def WriterPhase.writesLeft : WriterPhase → Nat
  | write _ _ => 1
  | _ => 0

/-- How many flushes a cancelled writer may still begin. -/
def WriterPhase.flushesLeft : WriterPhase → Nat
  | write _ _ | stalled _ _ _ _ | flush _ _ _ => 1
  | _ => 0

/-- Whether the writer has stopped to take frames. -/
def WriterPhase.hasEnded : WriterPhase → Bool
  | fail _ | shutdown | ending _ _ | release _ | leave _ _ | gone _ => true
  | _ => false

theorem ReaderPhase.left_le_one (phase : ReaderPhase) :
    phase.readsLeft ≤ 1 ∧ phase.deliveriesLeft ≤ 1 := by
  cases phase <;> simp [readsLeft, deliveriesLeft]

theorem WriterPhase.left_le_one (phase : WriterPhase) :
    phase.writesLeft ≤ 1 ∧ phase.flushesLeft ≤ 1 := by
  cases phase <;> simp [writesLeft, flushesLeft]

namespace Link

variable {σ : Type} {x : Session}

theorem left_readerAfter (T : Transport σ) (answer : Answer Frame) (l : Link σ) :
    (l.readerAfter T answer).readsLeft = 0 ∧ (l.readerAfter T answer).deliveriesLeft ≤ 1 := by
  refine ⟨?_, (ReaderPhase.left_le_one _).2⟩
  unfold readerAfter
  repeat' split
  all_goals rfl

/-- A cancelled reader begins no read but the one that it is about to begin. -/
theorem spends_reads (T : Transport σ) (id : Nat) (l : Link σ) (cancelled : x.cancelled) :
    (l.readerDeeds x).count .read + (l.readerNext T id x).readsLeft ≤ x.reader.readsLeft := by
  unfold readerDeeds readerNext
  cases reader : x.reader with
  | look => simp [cancelled, ReaderPhase.readsLeft]
  | read => exact Nat.add_le_add_left (Nat.le_of_eq (left_readerAfter T _ _).1) 1
  | deliver chunk => simp only; split <;> split <;> simp [ReaderPhase.readsLeft]
  | reply chunk tag answer phase => cases phase <;> simp [ReaderPhase.readsLeft]
  | fail phase => cases phase <;> simp [failStep, ReaderPhase.readsLeft]
  | leave phase =>
    simp only
    cases (l.leaveStep phase).1 <;> simp [ReaderPhase.readsLeft]
  | unborn | clear | report | release | gone => simp [ReaderPhase.readsLeft]

/-- A cancelled reader hands over no chunk but the one that it holds or is about to read. -/
theorem spends_deliveries (T : Transport σ) (id : Nat) (l : Link σ) (cancelled : x.cancelled) :
    (l.readerDeeds x).countP Deed.isDelivery + (l.readerNext T id x).deliveriesLeft ≤
      x.reader.deliveriesLeft := by
  unfold readerDeeds readerNext
  cases reader : x.reader with
  | look => simp [cancelled, ReaderPhase.deliveriesLeft]
  | read => exact Nat.add_le_add_left (left_readerAfter T _ _).2 0
  | deliver chunk =>
    simp only
    split <;> split <;> simp [ReaderPhase.deliveriesLeft, Deed.isDelivery]
  | reply chunk tag answer phase => cases phase <;> simp [ReaderPhase.deliveriesLeft]
  | fail phase => cases phase <;> simp [failStep, ReaderPhase.deliveriesLeft]
  | leave phase =>
    simp only
    cases (l.leaveStep phase).1 <;> simp [ReaderPhase.deliveriesLeft]
  | unborn | clear | report | release | gone => simp [ReaderPhase.deliveriesLeft, Deed.isDelivery]

theorem countP_isWrite_readerDeeds (s : Session) (l : Link σ) :
    (l.readerDeeds s).countP Deed.isWrite = 0 := by
  unfold readerDeeds
  repeat' split
  all_goals rfl

/-- What a writer does after an attempt, it does without a budget. -/
theorem left_writerAfter (T : Transport σ) (frame : Frame) (count : Nat) (f : Failure)
    (l : Link σ) : (l.writerAfter T frame count f).writesLeft = 0 ∧
      (l.writerAfter T frame count f).flushesLeft = 0 := by
  unfold writerAfter
  cases T.classify l.device f <;> exact ⟨rfl, rfl⟩

theorem left_writeNext (T : Transport σ) (frame : Frame) (count deadline : Nat) (l : Link σ) :
    (l.writeNext T frame count deadline).writesLeft = 0 := by
  unfold writeNext
  simp only
  split
  · split <;> rfl
  · exact (left_writerAfter T frame count _ _).1
  · split
    · exact (left_writerAfter T frame count _ _).1
    · rfl

theorem left_flushNext (T : Transport σ) (frame : Frame) (count deadline : Nat) (l : Link σ) :
    (l.flushNext T frame count deadline).writesLeft = 0 ∧
      (l.flushNext T frame count deadline).flushesLeft = 0 := by
  unfold flushNext
  simp only
  split
  · split <;> exact ⟨rfl, rfl⟩
  · exact left_writerAfter T frame count _ _
  · exact ⟨rfl, rfl⟩

theorem left_shutdownNext (T : Transport σ) (deadline : Nat) (l : Link σ) :
    (l.shutdownNext T deadline).writesLeft = 0 ∧ (l.shutdownNext T deadline).flushesLeft = 0 := by
  unfold shutdownNext
  split
  · split <;> exact ⟨rfl, rfl⟩
  · exact ⟨rfl, rfl⟩
  · exact ⟨rfl, rfl⟩

/-- A cancelled writer begins no write but the one that it is about to begin. -/
theorem spends_writes (T : Transport σ) (id : Nat) (l : Link σ) (cancelled : x.cancelled) :
    (writerDeeds x).countP Deed.isWrite + (l.writerNext T id x).writesLeft ≤
      x.writer.writesLeft := by
  unfold writerDeeds writerNext
  cases writer : x.writer with
  | look => simp [cancelled, WriterPhase.writesLeft]
  | take =>
    simp only
    split
    · simp [WriterPhase.writesLeft]
    · split <;> simp [WriterPhase.writesLeft]
  | attempt frame count =>
    simp only [cancelled, if_true]
    split <;> simp [WriterPhase.writesLeft]
  | write frame count =>
    exact Nat.add_le_add_left (Nat.le_of_eq (left_writeNext T frame count _ l)) 1
  | stalled frame count deadline =>
    exact Nat.add_le_add_left (Nat.le_of_eq (left_writeNext T frame count _ l)) 0
  | flush frame count deadline | draining frame count deadline =>
    exact Nat.add_le_add_left (Nat.le_of_eq (left_flushNext T frame count _ l).1) 0
  | shutdown | ending =>
    exact Nat.add_le_add_left (Nat.le_of_eq (left_shutdownNext T _ l).1) 0
  | fail phase => cases phase <;> simp [failStep, WriterPhase.writesLeft]
  | leave phase result =>
    simp only
    cases (l.leaveStep phase).1 <;> simp [WriterPhase.writesLeft]
  | unborn | report | clear | drop | release | gone => simp [WriterPhase.writesLeft, Deed.isWrite]

/-- A cancelled writer begins no flush but that of the write that it has begun or is to begin. -/
theorem spends_flushes (T : Transport σ) (id : Nat) (l : Link σ) (cancelled : x.cancelled) :
    (writerDeeds x).count .flush + (l.writerNext T id x).flushesLeft ≤ x.writer.flushesLeft := by
  unfold writerDeeds writerNext
  cases writer : x.writer with
  | look => simp [cancelled, WriterPhase.flushesLeft]
  | take =>
    simp only
    split
    · simp [WriterPhase.flushesLeft]
    · split <;> simp [WriterPhase.flushesLeft]
  | attempt frame count =>
    simp only [cancelled, if_true]
    split <;> simp [WriterPhase.flushesLeft]
  | write frame count | stalled frame count deadline =>
    exact Nat.add_le_add_left (WriterPhase.left_le_one _).2 0
  | flush frame count deadline =>
    exact Nat.add_le_add_left (Nat.le_of_eq (left_flushNext T frame count _ l).2) 1
  | draining frame count deadline =>
    exact Nat.add_le_add_left (Nat.le_of_eq (left_flushNext T frame count _ l).2) 0
  | shutdown | ending =>
    exact Nat.add_le_add_left (Nat.le_of_eq (left_shutdownNext T _ l).2) 0
  | fail phase => cases phase <;> simp [failStep, WriterPhase.flushesLeft]
  | leave phase result =>
    simp only
    cases (l.leaveStep phase).1 <;> simp [WriterPhase.flushesLeft]
  | unborn | report | clear | drop | release | gone => simp [WriterPhase.flushesLeft]

/-- A writer that has ended stays so, and begins no write. -/
theorem hasEnded_writerNext (T : Transport σ) (id : Nat) (l : Link σ) (ended : x.writer.hasEnded) :
    (writerDeeds x).countP Deed.isWrite = 0 ∧ (l.writerNext T id x).hasEnded := by
  unfold writerDeeds writerNext
  cases writer : x.writer with
  | fail phase => cases phase <;> simp [failStep, WriterPhase.hasEnded]
  | shutdown | ending =>
    simp only [shutdownNext]
    refine ⟨rfl, ?_⟩
    repeat' split
    all_goals rfl
  | leave phase result =>
    simp only
    cases (l.leaveStep phase).1 <;> simp [WriterPhase.hasEnded]
  | release | gone => simp [WriterPhase.hasEnded, Deed.isWrite]
  | _ =>
    rw [writer] at ended
    cases ended

/-- A writer that meets a fatal fault gives its session up. -/
theorem writerNext_of_meetsFatal {T : Transport σ} {id : Nat} {l : Link σ}
    (fatal : l.meetsFatal T x) : l.writerNext T id x = .fail .mark := by
  unfold meetsFatal at fatal
  unfold writerNext
  cases writer : x.writer with
  | write frame count | stalled frame count deadline =>
    simp only [writer] at fatal
    simp only [writeNext]
    rcases fatal with ⟨f, failed, fatal⟩ | ⟨n, short, lt, fatal⟩
    · simp [failed, writerAfter, fatal]
    · simp [short, lt, writerAfter, fatal]
  | flush frame count deadline | draining frame count deadline =>
    simp only [writer] at fatal
    obtain ⟨f, failed, fatal⟩ := fatal
    simp [flushNext, failed, writerAfter, fatal]
  | _ => simp [writer] at fatal

end Link

/-! ## Whole runs -/

namespace Scene

variable {σ : Type} {T : Transport σ} {s : Scene σ} {id : Nat}

/-- What is felt of an action of a session. -/
def deedsOf (T : Transport σ) (id : Nat) : Action σ → Scene σ → List Deed
  | .loop p, s => if p.session = id then s.link.loopDeeds T p else []
  | _, _ => []

/-- What is felt of a session in a run. -/
def deeds (T : Transport σ) (id : Nat) (actions : List (Action σ)) (s : Scene σ) : List Deed :=
  trace T (deedsOf T id) actions s

/-- A session is there, and is cancelled. -/
def Cancelled (id : Nat) (s : Scene σ) : Prop :=
  ∃ x, s.link.sessions[id]? = some x ∧ x.cancelled

theorem cancelled_act (cancelled : s.Cancelled id) (a : Action σ) :
    (s.act T a).Cancelled id := by
  obtain ⟨x, at_id, cancelled⟩ := cancelled
  obtain ⟨x', at_id', passes⟩ := passes_act T a at_id
  exact ⟨x', at_id', passes.cancelled cancelled⟩

section

variable {p : Deed → Bool} (silent : ∀ event, p (.report event) = false)

include silent

theorem countP_loopDeeds (q : Place) (l : Link σ) :
    (l.loopDeeds T q).countP p = (l.callsOf q).countP p := by
  have reports : (((l.step T q).events.drop l.events.length).map Deed.report).countP p = 0 := by
    rw [List.countP_eq_zero]
    intro deed member
    obtain ⟨event, -, rfl⟩ := List.mem_map.1 member
    simp [silent]
  rw [Link.loopDeeds, List.countP_append, reports, Nat.add_zero]

theorem countP_deedsOf_reader {x : Session} (at_id : s.link.sessions[id]? = some x) :
    (deedsOf T id (.loop ⟨id, .reader⟩) s).countP p = (s.link.readerDeeds x).countP p := by
  simp only [deedsOf, if_true, countP_loopDeeds silent, Link.callsOf, at_id]

theorem countP_deedsOf_writer {x : Session} (at_id : s.link.sessions[id]? = some x) :
    (deedsOf T id (.loop ⟨id, .writer⟩) s).countP p = (Link.writerDeeds x).countP p := by
  simp only [deedsOf, if_true, countP_loopDeeds silent, Link.callsOf, at_id]

theorem countP_deedsOf_of_ne {a : Action σ} (reader : a ≠ .loop ⟨id, .reader⟩)
    (writer : a ≠ .loop ⟨id, .writer⟩) : (deedsOf T id a s).countP p = 0 := by
  cases a with
  | loop q =>
    obtain ⟨k, loop⟩ := q
    simp only [deedsOf]
    split
    · rename_i own
      subst own
      rw [countP_loopDeeds silent, Link.callsOf]
      cases s.link.sessions[k]? with
      | none => rfl
      | some x =>
        cases loop with
        | reader => exact absurd rfl reader
        | writer => exact absurd rfl writer
        | poller => rfl
    · rfl
  | call | make | device | clock | command | callback => rfl

end

/-- A budget for the deeds that satisfy `p`, from the phases of the reader and of the writer. -/
structure Budget (T : Transport σ) (id : Nat) (p : Deed → Bool) (f : ReaderPhase → Nat)
    (g : WriterPhase → Nat) : Prop where
  silent : ∀ event, p (.report event) = false
  reader : ∀ (l : Link σ) (x : Session), x.cancelled →
    (l.readerDeeds x).countP p + f (l.readerNext T id x) ≤ f x.reader
  writer : ∀ (l : Link σ) (x : Session), x.cancelled →
    (Link.writerDeeds x).countP p + g (l.writerNext T id x) ≤ g x.writer
  reader_look : f .look = 0
  writer_look : g .look = 0

variable {p : Deed → Bool} {f : ReaderPhase → Nat} {g : WriterPhase → Nat}

/-- Every action pays for its deeds. -/
theorem Budget.act (budget : Budget T id p f g) {x x' : Session}
    (at_id : s.link.sessions[id]? = some x) (cancelled : x.cancelled) {a : Action σ}
    (passes : s.Passes T a id x x') :
    (deedsOf T id a s).countP p + (f x'.reader + g x'.writer) ≤ f x.reader + g x.writer := by
  have reader_le (ne : a ≠ .loop ⟨id, .reader⟩) : f x'.reader ≤ f x.reader := by
    rcases passes.reader_of_ne ne with same | ⟨-, look⟩
    · exact Nat.le_of_eq (congrArg f same)
    · rw [look, budget.reader_look]
      exact Nat.zero_le _
  have writer_le (ne : a ≠ .loop ⟨id, .writer⟩) : g x'.writer ≤ g x.writer := by
    rcases passes.writer_of_ne ne with same | ⟨-, look⟩
    · exact Nat.le_of_eq (congrArg g same)
    · rw [look, budget.writer_look]
      exact Nat.zero_le _
  by_cases reader : a = .loop ⟨id, .reader⟩
  · have spent := budget.reader s.link x cancelled
    have other := writer_le (by rw [reader]; rintro ⟨⟩)
    rw [passes.reader reader]
    subst reader
    rw [countP_deedsOf_reader budget.silent at_id]
    omega
  · by_cases writer : a = .loop ⟨id, .writer⟩
    · have spent := budget.writer s.link x cancelled
      have other := reader_le reader
      rw [passes.writer writer]
      subst writer
      rw [countP_deedsOf_writer budget.silent at_id]
      omega
    · have reader_left := reader_le reader
      have writer_left := writer_le writer
      rw [countP_deedsOf_of_ne budget.silent reader writer]
      omega

/-- The deeds of a cancelled session that are paid for are no more than the budget. -/
theorem Budget.countP_deeds_le (budget : Budget T id p f g) {x : Session}
    (at_id : s.link.sessions[id]? = some x) (cancelled : x.cancelled) (more : List (Action σ)) :
    (s.deeds T id more).countP p ≤ f x.reader + g x.writer := by
  have paid : (s.deeds T id more).countP p ≤
      (s.link.sessions[id]?).elim 0 fun x => f x.reader + g x.writer := by
    refine countP_trace_le (Cancelled id)
      (fun s => (s.link.sessions[id]?).elim 0 fun x => f x.reader + g x.writer) ?_ more
      ⟨x, at_id, cancelled⟩
    rintro s a ⟨x, at_id, cancelled⟩
    obtain ⟨x', at_id', passes⟩ := passes_act T a at_id
    refine ⟨⟨x', at_id', passes.cancelled cancelled⟩, ?_⟩
    rw [at_id, at_id']
    exact budget.act at_id cancelled passes
  rw [at_id] at paid
  exact paid

theorem budget_reads (T : Transport σ) (id : Nat) :
    Budget T id (· == .read) ReaderPhase.readsLeft fun _ => 0 where
  silent _ := rfl
  reader l _ cancelled := Link.spends_reads T id l cancelled
  writer l x _ := by
    unfold Link.writerDeeds
    split <;> exact Nat.le_refl 0
  reader_look := rfl
  writer_look := rfl

theorem budget_deliveries (T : Transport σ) (id : Nat) :
    Budget T id Deed.isDelivery ReaderPhase.deliveriesLeft fun _ => 0 where
  silent _ := rfl
  reader l _ cancelled := Link.spends_deliveries T id l cancelled
  writer l x _ := by
    unfold Link.writerDeeds
    split <;> exact Nat.le_refl 0
  reader_look := rfl
  writer_look := rfl

theorem budget_writes (T : Transport σ) (id : Nat) :
    Budget T id Deed.isWrite (fun _ => 0) WriterPhase.writesLeft where
  silent _ := rfl
  reader l x _ := Nat.le_of_eq (Link.countP_isWrite_readerDeeds x l)
  writer l _ cancelled := Link.spends_writes T id l cancelled
  reader_look := rfl
  writer_look := rfl

theorem budget_flushes (T : Transport σ) (id : Nat) :
    Budget T id (· == .flush) (fun _ => 0) WriterPhase.flushesLeft where
  silent _ := rfl
  reader l x _ := by
    unfold Link.readerDeeds
    repeat' split
    all_goals exact Nat.le_refl 0
  writer l _ cancelled := Link.spends_flushes T id l cancelled
  reader_look := rfl
  writer_look := rfl

/-! ## Frames that are accepted -/

/-- A session that accepts no frames is offered them in vain. -/
theorem accepted_act_of_ne (T : Transport σ) (free : s.link.outbox ≠ some id) (a : Action σ) :
    (s.act T a).accepted id = s.accepted id := by
  have offer (frame : Frame) :
      (s.link.offerNotes frame).filterMap (Note.accepted? id) = [] := by
    rcases s.link.enqueue_cases frame with ⟨e, -, none⟩ | ⟨k, x, outbox, -, -, -, -, taker⟩
    · simp [Link.offerNotes, none]
    · have ne : k ≠ id := by
        rintro rfl
        exact free outbox
      simp [Link.offerNotes, taker, Note.accepted?, ne]
  have sent (frame : Frame) (phase : SendPhase) :
      (s.link.sendNotes frame phase).filterMap (Note.accepted? id) = [] := by
    cases phase with
    | queue => exact offer frame
    | mark | restore | done => rfl
  have failed (k : Nat) (phase : FailPhase) :
      (Link.failNotes k phase).filterMap (Note.accepted? id) = [] := by
    cases phase <;> rfl
  cases a with
  | loop q =>
    have noted : (s.link.loopNotes q).filterMap (Note.accepted? id) = [] := by
      unfold Link.loopNotes
      split
      · rfl
      · rename_i x _
        split
        · unfold Link.readerNotes
          split
          · exact sent _ _
          · exact failed _ _
          · rfl
        · unfold Link.writerNotes
          split
          · cases x.queue <;> rfl
          · rfl
          · rfl
          · exact failed _ _
          · rfl
        · unfold Link.pollerNotes
          split
          · rename_i cycle _
            cases cycle.left with
            | nil => rfl
            | cons command left => simpa using offer command
          · rfl
    simp only [act, accepted, List.filterMap_append, noted, Link.filterMap_accepted?_eventNotes,
      List.append_nil]
  | call number =>
    cases at_number : s.calls[number]? with
    | none => simp only [act, at_number]
    | some c =>
      have noted : (c.notes s.link).filterMap (Note.accepted? id) = [] := by
        cases c with
        | send frame phase => exact sent frame phase
        | start | stopPolling | close => rfl
      simp only [act_call T at_number, accepted, List.filterMap_append, noted,
        Link.filterMap_accepted?_eventNotes, List.append_nil]
  | make | device | clock | command | callback => rfl

/-- A cancelled session accepts no frames. -/
theorem accepted_run_of_cancelled (T : Transport σ) (sound : s.Sound) (cancelled : s.Cancelled id)
    (more : List (Action σ)) : (s.run T more).accepted id = s.accepted id := by
  have kept := run_of_act (T := T)
    (fun s' => s'.Sound ∧ s'.Cancelled id ∧ s'.accepted id = s.accepted id)
    (fun s' a ⟨sound, cancelled, same⟩ => by
      refine ⟨sound_act T sound a, cancelled_act cancelled a, ?_⟩
      obtain ⟨x, at_id, hears⟩ := cancelled
      have free : s'.link.outbox ≠ some id :=
        sound.sealed.severed id (.cancelled x.standing (Link.standing_at at_id) hears)
      rw [accepted_act_of_ne T free a, same])
    more ⟨sound, cancelled, rfl⟩
  exact kept.2.2

/-! ## Writers that have ended -/

/-- A session is there whose writer has ended. -/
def WriterEnded (id : Nat) (s : Scene σ) : Prop :=
  ∃ x, s.link.sessions[id]? = some x ∧ x.writer.hasEnded

/-- A start begins a writer only that was not begun. -/
theorem writer_unborn (starts : StartsApart s) {number : Nat} {x : Session}
    (at_number : s.calls[number]? = some (.start (.launch .writer id)))
    (at_id : s.link.sessions[id]? = some x) : x.writer = .unborn := by
  obtain ⟨shelf, at_shelf, unborn⟩ := starts.unbegun number _ id at_number rfl
  rw [Link.shelf_at at_id] at at_shelf
  obtain rfl := Option.some.inj at_shelf
  exact unborn

theorem writerEnded_act (starts : StartsApart s) (ended : s.WriterEnded id) (a : Action σ) :
    (s.act T a).WriterEnded id := by
  obtain ⟨x, at_id, ended⟩ := ended
  obtain ⟨x', at_id', passes⟩ := passes_act T a at_id
  refine ⟨x', at_id', ?_⟩
  by_cases own : a = .loop ⟨id, .writer⟩
  · rw [passes.writer own]
    exact (Link.hasEnded_writerNext T id s.link ended).2
  · rcases passes.writer_of_ne own with same | ⟨⟨number, -, at_number⟩, -⟩
    · rw [same]
      exact ended
    · rw [writer_unborn starts at_number at_id] at ended
      cases ended

/-- A writer that has ended begins no write. -/
theorem write_not_mem_deeds (starts : StartsApart s) (ended : s.WriterEnded id)
    (more : List (Action σ)) (frame : Frame) : .write frame ∉ s.deeds T id more := by
  have none : (s.deeds T id more).countP Deed.isWrite ≤ 0 := by
    refine countP_trace_le (fun s => StartsApart s ∧ s.WriterEnded id) (fun _ => 0) ?_ more
      ⟨starts, ended⟩
    rintro s a ⟨starts, ended⟩
    refine ⟨⟨startsApart_act T starts a, writerEnded_act starts ended a⟩, Nat.le_of_eq ?_⟩
    obtain ⟨x, at_id, ended⟩ := ended
    by_cases reader : a = .loop ⟨id, .reader⟩
    · rw [reader, countP_deedsOf_reader (fun _ => rfl) at_id, Link.countP_isWrite_readerDeeds]
    · by_cases writer : a = .loop ⟨id, .writer⟩
      · rw [writer, countP_deedsOf_writer (fun _ => rfl) at_id,
          (Link.hasEnded_writerNext T id s.link ended).1]
      · rw [countP_deedsOf_of_ne (fun _ => rfl) reader writer]
  exact fun member => List.countP_eq_zero.1 (Nat.le_zero.1 none) _ member rfl

/-! ## Sessions that are over -/

/-- Nothing is felt of a session that is over. -/
theorem deeds_of_over (starts : StartsApart s) (past : s.Over id) (more : List (Action σ)) :
    s.deeds T id more = [] := by
  refine trace_eq_nil (fun s => StartsApart s ∧ s.Over id) ?_ more ⟨starts, past⟩
  rintro s a ⟨starts, past⟩
  refine ⟨?_, startsApart_act T starts a, over_act T starts past a⟩
  obtain ⟨x, outcome, at_id, ended⟩ := past.ended
  obtain ⟨reader, writer, poller⟩ := outcome?_eq_some_iff.1 ended
  cases a with
  | loop q =>
    obtain ⟨k, loop⟩ := q
    simp only [deedsOf]
    split
    · rename_i own
      subst own
      have still : s.link.step T ⟨k, loop⟩ = s.link := by
        cases loop with
        | reader => simp only [Link.step, at_id, Link.readerStep, reader]
        | writer => simp only [Link.step, at_id, Link.writerStep, writer]
        | poller =>
          rcases poller with h | h | h <;> simp only [Link.step, at_id, Link.pollerStep, h]
      have silent : s.link.callsOf ⟨k, loop⟩ = [] := by
        cases loop with
        | reader => simp only [Link.callsOf, at_id, Link.readerDeeds, reader]
        | writer => simp only [Link.callsOf, at_id, Link.writerDeeds, writer]
        | poller => simp only [Link.callsOf, at_id]
      simp [Link.loopDeeds, still, silent]
    · rfl
  | call | make | device | clock | command | callback => rfl

/-- However the steps of the loops and of the calls interleave:

* Once a session is cancelled, its writer begins at most one further write and one further flush,
  its reader begins at most one further read and hands at most one further chunk to the receive
  callback, and its queue accepts no further frame.
* Once its writer has met a fatal fault, the writer begins no further write.
* Once a close that took it has returned, nothing is felt of it any more. -/
theorem deeds_after_end (T : Transport σ) (options : LinkOptions) (device : σ) (now : Nat)
    (past more after : List (Action σ)) (id : Nat)
    (reached : (fresh options device now).run T past = s) :
    (∀ x ∈ s.link.sessions[id]?, x.cancelled →
      (s.deeds T id more).countP Deed.isWrite ≤ 1 ∧ (s.deeds T id more).count .flush ≤ 1 ∧
      (s.deeds T id more).count .read ≤ 1 ∧ (s.deeds T id more).countP Deed.isDelivery ≤ 1 ∧
      (s.run T more).accepted id = s.accepted id) ∧
    (∀ x ∈ s.link.sessions[id]?, s.link.meetsFatal T x →
      ∀ frame, .write frame ∉ (s.act T (.loop ⟨id, .writer⟩)).deeds T id more) ∧
    ∀ (number : Nat) (phase : ClosePhase) (result : Except LinkError Unit),
      s.calls[number]? = some (.close phase) → phase.session? = some id →
        (s.run T more).calls[number]? = some (.close (.done result)) →
          (s.run T more).deeds T id after = [] := by
  have sound : s.Sound := reached ▸ sound_run T options device now past
  refine ⟨fun x at_id cancelled => ⟨?_, ?_, ?_, ?_, ?_⟩, fun x at_id fatal => ?_, ?_⟩
  · have paid := (budget_writes T id).countP_deeds_le at_id cancelled more
    have left := x.writer.left_le_one.1
    omega
  · have paid := (budget_flushes T id).countP_deeds_le at_id cancelled more
    have left := x.writer.left_le_one.2
    exact Nat.le_trans paid (by omega)
  · have paid := (budget_reads T id).countP_deeds_le at_id cancelled more
    have left := x.reader.left_le_one.1
    exact Nat.le_trans paid (by omega)
  · have paid := (budget_deliveries T id).countP_deeds_le at_id cancelled more
    have left := x.reader.left_le_one.2
    omega
  · exact accepted_run_of_cancelled T sound ⟨x, at_id, cancelled⟩ more
  · obtain ⟨x', at_id', passes⟩ := passes_act T (.loop ⟨id, .writer⟩) at_id
    have ended : (s.act T (.loop ⟨id, .writer⟩)).WriterEnded id := by
      refine ⟨x', at_id', ?_⟩
      rw [passes.writer rfl, Link.writerNext_of_meetsFatal fatal]
      rfl
    exact write_not_mem_deeds (startsApart_act T sound.starts _) ended more
  · intro number phase result at_number holds at_end
    have ended := over_of_held sound at_number holds more at_end rfl
    have later : (s.run T more).Sound := run_of_act Sound (fun _ a h => sound_act T h a) more sound
    exact deeds_of_over later.starts ended after

/-- A frame is queued and about to be written, and the reader about to read, when a close cancels
their session. -/
def parting : List (Action Device) :=
  .make .start :: List.replicate 16 (.call 0) ++
    .callback ⟨"tag", []⟩ :: .make (.send [1]) :: List.replicate 2 (.call 1) ++
    List.replicate 3 (.loop ⟨0, .writer⟩) ++ [.loop ⟨0, .reader⟩] ++
    .make .close :: List.replicate 5 (.call 2)

/-- What that comes to. -/
def parted : Scene Device := (fresh rehearsed { } 0).run Device.transport parting

/-- A chunk comes in, all loops end, and the close returns. -/
def departing : List (Action Device) :=
  .device { opens := 1, reads := [.data [2], .data [3]] } ::
    List.replicate 9 (.loop ⟨0, .reader⟩) ++ List.replicate 9 (.loop ⟨0, .writer⟩) ++
    List.replicate 5 (.call 2)

/-- The device vanishes. -/
def vanishing : Action Device := .device { opens := 1, script := [.fail Device.vanished] }

/-- A cancelled session writes the frame that it was about to write and hands on one chunk, none if
the device vanishes; and when the close has returned, the loops are still. -/
theorem deeds_after_end_parted :
    (∃ x ∈ parted.link.sessions[0]?, x.cancelled ∧
      .write [1] ∈ parted.deeds Device.transport 0 departing ∧
      (parted.deeds Device.transport 0 departing).countP Deed.isWrite ≤ 1 ∧
      .deliver [2] ∈ parted.deeds Device.transport 0 departing ∧
      (parted.deeds Device.transport 0 departing).countP Deed.isDelivery ≤ 1) ∧
    (∃ x ∈ (parted.act Device.transport vanishing).link.sessions[0]?,
      (parted.act Device.transport vanishing).link.meetsFatal Device.transport x ∧
      .write [1] ∉ ((parted.act Device.transport vanishing).act Device.transport
        (.loop ⟨0, .writer⟩)).deeds Device.transport 0 departing) ∧
    (parted.run Device.transport departing).deeds Device.transport 0 departing = [] := by
  obtain ⟨cancelled, -, returned⟩ := deeds_after_end Device.transport rehearsed { } 0 parting
    departing departing 0 (s := parted) rfl
  obtain ⟨-, fatal, -⟩ := deeds_after_end Device.transport rehearsed { } 0
    (parting ++ [vanishing]) departing [] 0 (s := parted.act Device.transport vanishing) rfl
  obtain ⟨write, -, -, delivery, -⟩ := cancelled _ rfl rfl
  have meets : (parted.act Device.transport vanishing).link.meetsFatal Device.transport
      (parted.link.sessions.get ⟨0, by decide⟩) := .inl ⟨Device.vanished, rfl, rfl⟩
  exact ⟨⟨_, rfl, rfl, by decide +kernel, write, by decide +kernel, delivery⟩,
    ⟨_, rfl, meets, fatal _ rfl meets [1]⟩, returned 2 (.join 0) (.ok ()) rfl rfl rfl⟩

end Scene

end FieldLink

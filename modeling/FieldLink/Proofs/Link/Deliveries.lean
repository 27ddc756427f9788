import FieldLink.Proofs.Link.Stream

/-!
# What a reader does with a chunk

What others can tell of a reader is what it takes off the stream, when the receive callback has
returned from a chunk, and when a chunk is reported (`Link.readings`).  Readers alone call the
callback (`Scene.audience_act_of_ne`).  `ReaderPhase.Follows` ties the phase of a reader to what was told
of it: all that it took was delivered but for the chunk in its hand, and all that was delivered was
reported but for that chunk.
-/

namespace FieldLink

/-- What others can tell of a reader. -/
inductive Reading where
  | took (item : StreamItem)
  /-- The receive callback has returned from a chunk. -/
  | delivered (chunk : Frame)
  | received (chunk : Frame)
  deriving DecidableEq, Repr

namespace Reading

/-- The item that was taken. -/
def took? : Reading → Option StreamItem
  | took item => some item
  | _ => none

/-- The chunk that was delivered. -/
def delivered? : Reading → Option Frame
  | delivered chunk => some chunk
  | _ => none

/-- The chunk that was reported. -/
def received? : Reading → Option Frame
  | received chunk => some chunk
  | _ => none

theorem filterMap_took? (items : List StreamItem) : (items.map took).filterMap took? = items := by
  rw [List.filterMap_map]
  exact List.filterMap_some

theorem filterMap_delivered? (items : List StreamItem) :
    (items.map took).filterMap delivered? = [] :=
  List.filterMap_eq_nil_iff.2 (by simp [delivered?])

theorem filterMap_received? (items : List StreamItem) :
    (items.map took).filterMap received? = [] :=
  List.filterMap_eq_nil_iff.2 (by simp [received?])

end Reading

namespace ReaderPhase

/-- The chunk that a reader has read and from which the callback has not returned. -/
def undelivered : ReaderPhase → List Frame
  | deliver chunk | reply chunk _ _ _ => [chunk]
  | _ => []

/-- The chunk from which the callback has returned and that was not reported yet. -/
def unreported : ReaderPhase → List Frame
  | clear chunk | report chunk => [chunk]
  | _ => []

end ReaderPhase

namespace Link

variable {σ : Type}

/-- What can be told of the next step of a reader. -/
def readings (T : Transport σ) (x : Session) (l : Link σ) : List Reading :=
  match x.reader with
  | .read => (x.reader.takes T l).map .took
  | .deliver chunk => if l.callback.any (·.replies = []) then [.delivered chunk] else []
  | .reply chunk _ _ (.done _) => [.delivered chunk]
  | .report chunk => [.received chunk]
  | _ => []

/-! ## Who calls the callback -/

/-- The receive callback, and the calls of it. -/
def audience (l : Link σ) : Option Callback × List Delivery := (l.callback, l.deliveries)

theorem audience_sendStep (frame : Frame) (phase : SendPhase) (l : Link σ) :
    (l.sendStep frame phase).2.audience = l.audience := by
  obtain ⟨sessions, sending, same⟩ := l.sendStep_writes frame phase
  rw [same]
  rfl

theorem audience_failStep (id : Nat) (phase : FailPhase) (l : Link σ) :
    (l.failStep id phase).2.audience = l.audience := by
  obtain ⟨sessions, state, outbox, failed, same⟩ := l.failStep_writes id phase
  rw [same]
  rfl

theorem audience_leaveStep (phase : LeavePhase) (l : Link σ) :
    (l.leaveStep phase).2.audience = l.audience := by
  obtain ⟨state, liveLoops, events, same⟩ := l.leaveStep_writes phase
  rw [same]
  rfl

theorem audience_dropHalf (T : Transport σ) (id : Nat) (drop : Session → Session) (l : Link σ) :
    (l.dropHalf T id drop).audience = l.audience := by
  obtain ⟨device, eq⟩ := dropHalf_eq T id drop l
  rw [eq]
  rfl

theorem audience_writerStep (T : Transport σ) (id : Nat) (x : Session) (l : Link σ) :
    (l.writerStep T id x).audience = l.audience := by
  unfold writerStep
  cases x.writer with
  | take => cases x.queue <;> rfl
  | fail phase => exact l.audience_failStep id phase
  | release result => exact l.audience_dropHalf T id _
  | leave phase => exact l.audience_leaveStep phase
  | _ => rfl

theorem audience_pollerStep (id : Nat) (x : Session) (l : Link σ) :
    (l.pollerStep id x).audience = l.audience := by
  obtain ⟨sessions, state, liveLoops, events, same⟩ := l.pollerStep_writes id x
  rw [same]
  rfl

theorem audience_startStep (T : Transport σ) (phase : StartPhase) (l : Link σ) :
    (l.startStep T phase).2.audience = l.audience := by
  cases phase with
  | enter | makeQueue => simp only [startStep]; split <;> rfl
  | check =>
    obtain ⟨state, same⟩ := l.startStep_check T
    rw [same]
    rfl
  | openUp => simp only [startStep]; cases T.openWith l.options l.device <;> rfl
  | _ => rfl

theorem audience_cancelPolling (l : Link σ) : l.cancelPolling.audience = l.audience := by
  obtain ⟨sessions, same⟩ := l.cancelPolling_writes
  rw [same]
  rfl

theorem audience_closeStep (phase : ClosePhase) (l : Link σ) :
    (l.closeStep phase).2.audience = l.audience := by
  obtain ⟨sessions, state, outbox, current, sending, events, same⟩ := l.closeStep_writes phase
  rw [same]
  rfl

theorem audience_callStep (T : Transport σ) (c : Call) (l : Link σ) :
    (c.step T l).2.audience = l.audience := by
  cases c with
  | start phase => exact l.audience_startStep T phase
  | send frame phase => exact l.audience_sendStep frame phase
  | close phase => exact l.audience_closeStep phase
  | stopPolling returned =>
    cases returned with
    | true => rfl
    | false =>
      simp only [Call.step]
      split
      · rfl
      · exact l.audience_cancelPolling

/-- A reader keeps the callback, and tells when it has returned. -/
theorem audience_readerStep (T : Transport σ) (id : Nat) (x : Session) (l : Link σ) :
    (l.readerStep T id x).callback.isSome = l.callback.isSome ∧
      (l.readerStep T id x).deliveries.map Delivery.chunk =
        l.deliveries.map Delivery.chunk ++ (l.readings T x).filterMap Reading.delivered? := by
  have still {l' : Link σ} (same : l'.audience = l.audience) :
      l'.callback.isSome = l.callback.isSome ∧
        l'.deliveries.map Delivery.chunk = l.deliveries.map Delivery.chunk ++ [] := by
    obtain ⟨callback, deliveries⟩ := Prod.mk.inj same
    rw [callback, deliveries, List.append_nil]
    exact ⟨rfl, rfl⟩
  unfold readerStep readings
  cases reader : x.reader with
  | deliver chunk =>
    cases callback : l.callback with
    | none => simp [readerTo, update, callback]
    | some c =>
      obtain ⟨tag, replies⟩ := c
      cases replies with
      | nil => simp [readerTo, update, deliver, Reading.delivered?, callback]
      | cons => simp [readerTo, update]
  | reply chunk tag answer phase =>
    cases phase with
    | done result => simp [readerTo, update, deliver, Reading.delivered?]
    | mark => exact still (l.audience_sendStep answer .mark)
    | queue before => exact still (l.audience_sendStep answer (.queue before))
    | restore before e => exact still (l.audience_sendStep answer (.restore before e))
  | read =>
    simp only [Reading.filterMap_delivered?]
    exact still rfl
  | fail phase => exact still (l.audience_failStep id phase)
  | release => exact still (l.audience_dropHalf T id _)
  | leave phase => exact still (l.audience_leaveStep phase)
  | unborn | look | clear | report | gone => exact still rfl

/-- A reader reports what it tells as reported. -/
theorem received_events (T : Transport σ) (x : Session) (l : Link σ) :
    x.reader.events.filterMap LinkEvent.received? =
      (l.readings T x).filterMap Reading.received? := by
  unfold readings
  cases x.reader with
  | read => exact (Reading.filterMap_received? _).symm
  | deliver chunk => simp only; split <;> rfl
  | reply chunk tag answer phase => cases phase <;> rfl
  | leave phase => cases phase <;> rfl
  | _ => rfl

theorem takes_eq (T : Transport σ) (x : Session) (l : Link σ) :
    x.reader.takes T l = (l.readings T x).filterMap Reading.took? := by
  unfold readings
  cases x.reader with
  | read => exact (Reading.filterMap_took? _).symm
  | deliver chunk => simp only; split <;> rfl
  | reply chunk tag answer phase => cases phase <;> rfl
  | _ => rfl

end Link

/-! ## What a reader has done -/

/-- Whether a reader may be in a phase after what was told of it.  All that it took was delivered but
for the chunk in its hand, and all that was delivered was reported but for that chunk. -/
structure ReaderPhase.Follows (readings : List Reading) (phase : ReaderPhase) : Prop where
  bytes : StreamItem.bytes (readings.filterMap Reading.took?) =
    (readings.filterMap Reading.delivered? ++ phase.undelivered).flatten
  order : readings.filterMap Reading.delivered? =
    readings.filterMap Reading.received? ++ phase.unreported
  size : ∀ chunk ∈ readings.filterMap Reading.delivered? ++ phase.undelivered,
    1 ≤ chunk.length ∧ chunk.length ≤ packetSize.toNat

namespace ReaderPhase

variable {readings : List Reading} {phase phase' : ReaderPhase}

theorem follows_nil (undelivered : phase.undelivered = []) (unreported : phase.unreported = []) :
    phase.Follows [] := by
  refine ⟨?_, ?_, ?_⟩
  · rw [undelivered]
    rfl
  · rw [unreported]
    rfl
  · rw [undelivered]
    rintro _ ⟨⟩

/-- A reader that tells nothing goes on with what it has in its hand. -/
theorem Follows.same (follows : phase.Follows readings)
    (undelivered : phase'.undelivered = phase.undelivered)
    (unreported : phase'.unreported = phase.unreported) : phase'.Follows readings :=
  ⟨undelivered ▸ follows.bytes, unreported ▸ follows.order, undelivered ▸ follows.size⟩

/-- A reader with empty hands takes some items, and has their bytes in its hand. -/
theorem Follows.take (follows : phase.Follows readings) (free : phase.undelivered = [])
    (reported : phase.unreported = []) (items : List StreamItem)
    (hand : phase'.undelivered.flatten = StreamItem.bytes items)
    (nothing : phase'.unreported = [])
    (size : ∀ chunk ∈ phase'.undelivered, 1 ≤ chunk.length ∧ chunk.length ≤ packetSize.toNat) :
    phase'.Follows (readings ++ items.map .took) := by
  obtain ⟨bytes, order, small⟩ := follows
  rw [free, List.append_nil] at bytes small
  rw [reported] at order
  refine ⟨?_, ?_, ?_⟩
  · rw [List.filterMap_append, List.filterMap_append, Reading.filterMap_took?,
      Reading.filterMap_delivered?, StreamItem.bytes_append, bytes, List.append_nil,
      List.flatten_append, hand]
  · rw [List.filterMap_append, List.filterMap_append, Reading.filterMap_delivered?,
      Reading.filterMap_received?, order, nothing, List.append_nil]
  · rw [List.filterMap_append, Reading.filterMap_delivered?, List.append_nil]
    intro chunk member
    rcases List.mem_append.1 member with old | new
    · exact small chunk old
    · exact size chunk new

/-- The callback returns from the chunk in the hand of a reader. -/
theorem Follows.deliver {chunk : Frame} (follows : phase.Follows readings)
    (hand : phase.undelivered = [chunk]) (reported : phase.unreported = []) :
    (clear chunk).Follows (readings ++ [.delivered chunk]) := by
  obtain ⟨bytes, order, size⟩ := follows
  rw [hand] at bytes size
  rw [reported, List.append_nil] at order
  refine ⟨?_, ?_, ?_⟩
  · simpa [List.filterMap_cons, Reading.took?, Reading.delivered?, undelivered] using bytes
  · simpa [List.filterMap_cons, Reading.received?, Reading.delivered?, unreported] using order
  · simpa [List.filterMap_cons, Reading.delivered?, undelivered] using size

/-- A reader reports the chunk that was delivered. -/
theorem Follows.report {chunk : Frame} (follows : (report chunk).Follows readings) :
    look.Follows (readings ++ [.received chunk]) := by
  obtain ⟨bytes, order, size⟩ := follows
  refine ⟨?_, ?_, ?_⟩
  · simpa [List.filterMap_cons, Reading.took?, Reading.delivered?, undelivered] using bytes
  · simpa [List.filterMap_cons, Reading.received?, Reading.delivered?, unreported] using order
  · simpa [List.filterMap_cons, Reading.delivered?, undelivered] using size

end ReaderPhase

namespace Link

variable {x : Session} {l : Link Device} {readings : List Reading}

/-- After a read a reader has the chunk in its hand that it took, or nothing when it took no bytes. -/
theorem follows_readerAfter {answer : Answer Frame} {device : Device}
    (follows : ReaderPhase.read.Follows readings)
    (fits : ∀ chunk, answer = .done chunk → chunk.length ≤ packetSize.toNat) :
    (({ l with device } : Link Device).readerAfter Device.transport answer).Follows
      (readings ++ answer.items.map .took) := by
  cases answer with
  | waiting resume => exact follows.take rfl rfl [] rfl rfl (by rintro _ ⟨⟩)
  | done chunk =>
    cases chunk with
    | nil => exact follows.take rfl rfl [.stop] rfl rfl (by rintro _ ⟨⟩)
    | cons b more =>
      refine follows.take rfl rfl (StreamItem.ofChunk (b :: more)) ?_ rfl ?_
      · rw [StreamItem.bytes_ofChunk]
        exact List.append_nil _
      · intro chunk member
        obtain rfl := List.mem_singleton.1 member
        exact ⟨Nat.succ_pos _, fits _ rfl⟩
  | failed f =>
    simp only [readerAfter, Answer.items]
    split
    · exact follows.take rfl rfl [.fault f] rfl rfl (by rintro _ ⟨⟩)
    · exact follows.take rfl rfl [.fault f] rfl rfl (by rintro _ ⟨⟩)

/-- The next phase of a reader follows from what was told before, and is told of its step. -/
theorem follows_readerNext (id : Nat) (called : l.callback.isSome)
    (follows : x.reader.Follows readings) :
    (l.readerNext Device.transport id x).Follows (readings ++ l.readings Device.transport x) := by
  unfold readerNext Link.readings
  generalize x.reader = phase at follows ⊢
  cases phase with
  | unborn | gone =>
    rw [List.append_nil]
    exact follows
  | look =>
    rw [List.append_nil]
    simp only
    split <;> exact follows.same rfl rfl
  | read =>
    exact follows_readerAfter follows fun chunk answer => Device.length_of_read answer
  | deliver chunk =>
    obtain ⟨⟨tag, replies⟩, callback⟩ := Option.isSome_iff_exists.1 called
    cases replies with
    | nil => simpa [callback] using follows.deliver rfl rfl
    | cons reply replies =>
      have stays : (ReaderPhase.reply chunk tag reply .mark).Follows readings := follows.same rfl rfl
      simpa [callback] using stays
  | reply chunk tag answer phase =>
    cases phase with
    | done result => exact follows.deliver rfl rfl
    | mark | queue | restore =>
      rw [List.append_nil]
      exact follows.same rfl rfl
  | clear chunk =>
    rw [List.append_nil]
    exact follows.same rfl rfl
  | report chunk =>
    exact follows.report
  | fail phase =>
    rw [List.append_nil]
    simp only
    cases (l.failStep id phase).1 <;> exact follows.same rfl rfl
  | release =>
    rw [List.append_nil]
    exact follows.same rfl rfl
  | leave phase =>
    rw [List.append_nil]
    simp only
    cases (l.leaveStep phase).1 <;> exact follows.same rfl rfl

end Link

end FieldLink

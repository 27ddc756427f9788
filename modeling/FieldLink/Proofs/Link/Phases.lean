import FieldLink.Proofs.Link.LedgerRuns

/-!
# Phases

What an action does to the phases of the loops.  The loop that takes a step goes on to its next
phase (`Link.readerNext`, `Link.writerNext`, `Link.pollerNext`), a start begins the loops of its
session, and nothing else moves a loop (`Scene.passes_act`).

`Scene.trace` lists what is observed of a run, and `countP_trace_le` says how often something is
observed at most, when every observation of it is paid for.
-/

namespace FieldLink

/-- The phases of the loops of a session. -/
structure Phases where
  reader : ReaderPhase
  writer : WriterPhase
  poller : PollerPhase

/-- The phases of the loops of a session. -/
def Session.phases (s : Session) : Phases := ⟨s.reader, s.writer, s.poller⟩

namespace Link

variable {σ : Type}

/-! ## The next phase -/

/-- The phase after a step of a reader. -/
def readerNext (T : Transport σ) (id : Nat) (s : Session) (l : Link σ) : ReaderPhase :=
  match s.reader with
  | .unborn => .unborn
  | .look => if s.cancelled then .release else .read
  | .read =>
    let (answer, device) := T.read packetSize.toNat l.now l.device
    ({ l with device } : Link σ).readerAfter T answer
  | .deliver chunk =>
    match l.callback with
    | some ⟨tag, reply :: _⟩ => .reply chunk tag reply .mark
    | _ => .clear chunk
  | .reply chunk _ _ (.done _) => .clear chunk
  | .reply chunk tag reply phase => .reply chunk tag reply (l.sendStep reply phase).1
  | .clear chunk => .report chunk
  | .report _ => .look
  | .fail phase => (l.failStep id phase).1.elim .release .fail
  | .release => .leave .count
  | .leave phase => (l.leaveStep phase).1.elim .gone .leave
  | .gone => .gone

/-- The phase after a call to write a frame. -/
def writeNext (T : Transport σ) (frame : Frame) (count deadline : Nat) (l : Link σ) :
    WriterPhase :=
  let (answer, device) := T.write frame l.now l.device
  match answer with
  | .waiting resume =>
    if Timer.hasFired deadline l.now then .attempt frame (count + 1)
    else .stalled frame count deadline resume
  | .failed f => ({ l with device } : Link σ).writerAfter T frame count f
  | .done n =>
    if n < frame.length then
      ({ l with device } : Link σ).writerAfter T frame count (shortWrite n frame)
    else .flush frame count deadline

/-- The phase after a call to wait until a frame is on the wire. -/
def flushNext (T : Transport σ) (frame : Frame) (count deadline : Nat) (l : Link σ) :
    WriterPhase :=
  let (answer, device) := T.flush l.now l.device
  match answer with
  | .waiting resume =>
    if Timer.hasFired deadline l.now then .attempt frame (count + 1)
    else .draining frame count deadline resume
  | .failed f => ({ l with device } : Link σ).writerAfter T frame count f
  | .done () => .report frame

/-- The phase after a call to end the writing. -/
def shutdownNext (T : Transport σ) (deadline : Nat) (l : Link σ) : WriterPhase :=
  match (T.shutdown l.now l.device).1 with
  | .waiting resume =>
    if Timer.hasFired deadline l.now then .release (some (.ofKind .timedOut "timed out"))
    else .ending deadline resume
  | .failed f => .release (some f)
  | .done () => .release none

/-- The phase after a step of a writer. -/
def writerNext (T : Transport σ) (id : Nat) (s : Session) (l : Link σ) : WriterPhase :=
  match s.writer with
  | .unborn => .unborn
  | .look => if s.cancelled then .shutdown else .take
  | .take =>
    match s.queue with
    | frame :: _ => .attempt frame 1
    | [] => if l.outbox = some id then .look else .shutdown
  | .attempt frame count =>
    if l.options.retries.toNat < count then .clear frame
    else if s.cancelled then .shutdown
    else .write frame count
  | .write frame count => l.writeNext T frame count l.deadline
  | .stalled frame count deadline _ => l.writeNext T frame count deadline
  | .flush frame count deadline | .draining frame count deadline _ =>
    l.flushNext T frame count deadline
  | .report _ | .drop _ => .look
  | .clear frame => .drop frame
  | .fail phase => (l.failStep id phase).1.elim .shutdown .fail
  | .shutdown => l.shutdownNext T l.deadline
  | .ending deadline _ => l.shutdownNext T deadline
  | .release result => .leave .count result
  | .leave phase result => (l.leaveStep phase).1.elim (.gone result) (.leave · result)
  | .gone result => .gone result

/-- The phase after a step of a poller. -/
def pollerNext (s : Session) (l : Link σ) : PollerPhase :=
  let interval := l.options.pollInterval.nanoseconds
  match s.poller with
  | .unborn => .unborn
  | .begin => if canPollEvery interval l.now then .wait (l.now + interval) else .broken
  | .wait next =>
    if s.pollStopped then .leave .count
    else if Timer.hasFired next l.now then .copy (Timer.following next interval l.now)
    else .wait next
  | .copy next => .look ⟨next, l.now, l.commands, 0, 0⟩
  | .look cycle =>
    match cycle.left with
    | [] => .settle cycle (Timer.after l.options.interFrameDelay.nanoseconds l.now)
    | _ :: _ => if s.pollStopped then .leave .count else .ask cycle
  | .ask cycle =>
    if l.sending then .look { cycle with left := cycle.left.tail, skipped := cycle.skipped + 1 }
    else .offer cycle
  | .offer cycle =>
    match cycle.left with
    | [] => .look cycle
    | command :: left =>
      match (l.enqueue command).1 with
      | .ok () => .look { cycle with left, offered := cycle.offered + 1 }
      | .error .busy => .look { cycle with left, skipped := cycle.skipped + 1 }
      | .error _ => .leave .count
  | .settle cycle deadline =>
    if s.pollStopped then .leave .count
    else if Timer.hasFired deadline l.now then .report cycle
    else .settle cycle deadline
  | .report cycle => .wait cycle.next
  | .leave phase => (l.leaveStep phase).1.elim .gone .leave
  | .gone => .gone
  | .broken => .broken

/-! ## What leaves the loops where they are -/

/-- All sessions stay, with their loops where they are, and what is cancelled stays so. -/
structure Spares (l l' : Link σ) : Prop where
  length : l'.sessions.length = l.sessions.length
  session : ∀ {id : Nat} {x : Session}, l.sessions[id]? = some x →
    ∃ x', l'.sessions[id]? = some x' ∧ x'.phases = x.phases ∧ (x.cancelled → x'.cancelled)

theorem Spares.of_sessions {l l' : Link σ} (same : l'.sessions = l.sessions) : l.Spares l' where
  length := by rw [same]
  session at_id := ⟨_, by rw [same]; exact at_id, rfl, fun h => h⟩

theorem session_update_of_ne {id other : Nat} {f : Session → Session} {l : Link σ}
    (ne : other ≠ id) : (l.update id f).sessions[other]? = l.sessions[other]? := by
  simp [update, Ne.symm ne]

theorem session_update {id : Nat} {f : Session → Session} {l : Link σ} {x : Session}
    (at_id : l.sessions[id]? = some x) : (l.update id f).sessions[id]? = some (f x) := by
  simp [update, at_id]

theorem spares_update (k : Nat) {f : Session → Session} (l : Link σ)
    (phases : ∀ x, (f x).phases = x.phases) (cancelled : ∀ x, x.cancelled → (f x).cancelled) :
    l.Spares (l.update k f) where
  length := by simp [update]
  session {id x} at_id := by
    by_cases own : id = k
    · subst own
      exact ⟨f x, session_update at_id, phases x, cancelled x⟩
    · exact ⟨x, (session_update_of_ne own).trans at_id, rfl, fun h => h⟩

theorem spares_enqueue (frame : Frame) (l : Link σ) : l.Spares (l.enqueue frame).2 := by
  rcases l.enqueue_cases frame with ⟨e, result, -⟩ | ⟨id, x, -, -, -, -, result, -⟩
  · rw [result]
    exact .of_sessions rfl
  · rw [result]
    exact l.spares_update id (fun _ => rfl) fun _ h => h

theorem spares_sendStep (frame : Frame) (phase : SendPhase) (l : Link σ) :
    l.Spares (l.sendStep frame phase).2 := by
  cases phase with
  | mark | restore | done => exact .of_sessions rfl
  | queue before =>
    rw [sendStep_queue]
    exact l.spares_enqueue frame

theorem spares_failStep (id : Nat) (phase : FailPhase) (l : Link σ) :
    l.Spares (l.failStep id phase).2 := by
  cases phase with
  | mark | unplug => exact .of_sessions rfl
  | close => refine .of_sessions ?_; simp only [failStep]; split <;> rfl
  | cancel => exact l.spares_update id (fun _ => rfl) fun _ _ => rfl

theorem spares_leaveStep (phase : LeavePhase) (l : Link σ) : l.Spares (l.leaveStep phase).2 := by
  obtain ⟨state, liveLoops, events, same⟩ := l.leaveStep_writes phase
  rw [same]
  exact .of_sessions rfl

theorem spares_dropHalf (T : Transport σ) (id : Nat) (drop : Session → Session) (l : Link σ)
    (phases : ∀ x, (drop x).phases = x.phases) (cancelled : ∀ x, x.cancelled → (drop x).cancelled) :
    l.Spares (l.dropHalf T id drop) := by
  obtain ⟨device, eq⟩ := dropHalf_eq T id drop l
  rw [eq]
  have spares := l.spares_update id phases cancelled
  exact ⟨spares.length, spares.session⟩

theorem spares_cancelPolling (l : Link σ) : l.Spares l.cancelPolling := by
  unfold cancelPolling
  cases l.current with
  | none => exact .of_sessions rfl
  | some id => exact l.spares_update id (fun _ => rfl) fun _ h => h

theorem spares_closeStep (phase : ClosePhase) (l : Link σ) : l.Spares (l.closeStep phase).2 := by
  cases phase with
  | stopPolling =>
    simp only [closeStep]
    split
    · exact .of_sessions rfl
    · exact l.spares_cancelPolling
  | take =>
    obtain ⟨current, same⟩ := l.closeStep_take
    rw [same]
    exact .of_sessions rfl
  | mark id | join id => refine .of_sessions ?_; simp only [closeStep]; split <;> rfl
  | cancel id => exact l.spares_update id (fun _ => rfl) fun _ _ => rfl
  | unplug | judge | finish | clear | report | done => exact .of_sessions rfl

theorem spares_callStep (T : Transport σ) {c : Call} (l : Link σ)
    (other : ∀ phase, c ≠ .start phase) : l.Spares (c.step T l).2 := by
  cases c with
  | start phase => exact absurd rfl (other phase)
  | send frame phase => exact l.spares_sendStep frame phase
  | stopPolling returned =>
    cases returned with
    | true => exact .of_sessions rfl
    | false =>
      simp only [Call.step]
      split
      · exact .of_sessions rfl
      · exact l.spares_cancelPolling
  | close phase => exact l.spares_closeStep phase

/-- A step of a start spares the loops, unless it makes a session or begins a loop. -/
theorem sessions_startStep (T : Transport σ) (phase : StartPhase) (l : Link σ) :
    (l.startStep T phase).2.sessions =
      match phase with
      | .makeQueue _ =>
        if maxQueueCapacity < l.options.queueCapacity.toNat then l.sessions
        else l.sessions ++ [{ }]
      | .launch loop id => (l.launch loop id).sessions
      | _ => l.sessions := by
  cases phase with
  | makeQueue id => simp only [startStep]; split <;> rfl
  | enter => simp only [startStep]; split <;> rfl
  | check =>
    obtain ⟨state, same⟩ := l.startStep_check T
    rw [same]
  | openUp => simp only [startStep]; cases T.openWith l.options l.device <;> rfl
  | discard | refuse | forgetFailure | clear | count | plug | accept | launch | store | report
    | leave | done | broken => rfl

/-! ## What a step of a loop does -/

theorem update_of_eq {id : Nat} {f : Session → Session} {l : Link σ} {x : Session}
    (at_id : l.sessions[id]? = some x) (same : f x = x) : l.update id f = l :=
  congrArg (fun sessions => { l with sessions }) (modify_of_eq at_id same)

theorem readerTo_of_eq {id : Nat} {phase : ReaderPhase} {l : Link σ} {x : Session}
    (at_id : l.sessions[id]? = some x) (reader : x.reader = phase) : l.readerTo id phase = l :=
  update_of_eq at_id (by rw [← reader])

theorem writerTo_of_eq {id : Nat} {phase : WriterPhase} {l : Link σ} {x : Session}
    (at_id : l.sessions[id]? = some x) (writer : x.writer = phase) : l.writerTo id phase = l :=
  update_of_eq at_id (by rw [← writer])

theorem pollerTo_of_eq {id : Nat} {phase : PollerPhase} {l : Link σ} {x : Session}
    (at_id : l.sessions[id]? = some x) (poller : x.poller = phase) : l.pollerTo id phase = l :=
  update_of_eq at_id (by rw [← poller])

/-- A step of a reader spares the loops, and takes the reader to its next phase. -/
theorem readerStep_eq (T : Transport σ) {id : Nat} {x : Session} {l : Link σ}
    (at_id : l.sessions[id]? = some x) :
    ∃ l', l.Spares l' ∧ l.readerStep T id x = l'.readerTo id (l.readerNext T id x) := by
  unfold readerStep readerNext
  cases reader : x.reader with
  | unborn | gone => exact ⟨l, .of_sessions rfl, (readerTo_of_eq at_id reader).symm⟩
  | look => exact ⟨l, .of_sessions rfl, rfl⟩
  | read | clear | report => exact ⟨_, .of_sessions (by rfl), rfl⟩
  | deliver chunk =>
    cases callback : l.callback with
    | none => exact ⟨l, .of_sessions rfl, rfl⟩
    | some c =>
      obtain ⟨tag, replies⟩ := c
      cases replies <;> exact ⟨_, .of_sessions (by rfl), rfl⟩
  | reply chunk tag answer phase =>
    cases phase with
    | done result => exact ⟨_, .of_sessions (by rfl), rfl⟩
    | mark => exact ⟨_, l.spares_sendStep answer .mark, rfl⟩
    | queue before => exact ⟨_, l.spares_sendStep answer (.queue before), rfl⟩
    | restore before e => exact ⟨_, l.spares_sendStep answer (.restore before e), rfl⟩
  | fail phase => exact ⟨_, l.spares_failStep id phase, rfl⟩
  | release => exact ⟨_, l.spares_dropHalf T id _ (fun _ => by rfl) (fun _ h => by exact h), rfl⟩
  | leave phase => exact ⟨_, l.spares_leaveStep phase, rfl⟩

/-- A step of a writer spares the loops, and takes the writer to its next phase. -/
theorem writerStep_eq (T : Transport σ) {id : Nat} {x : Session} {l : Link σ}
    (at_id : l.sessions[id]? = some x) :
    ∃ l', l.Spares l' ∧ l.writerStep T id x = l'.writerTo id (l.writerNext T id x) := by
  have write (frame : Frame) (count deadline : Nat) : ∃ l', l.Spares l' ∧
      l.writeStep T id frame count deadline =
        l'.writerTo id (l.writeNext T frame count deadline) := ⟨_, .of_sessions (by rfl), rfl⟩
  have flush (frame : Frame) (count deadline : Nat) : ∃ l', l.Spares l' ∧
      l.flushStep T id frame count deadline =
        l'.writerTo id (l.flushNext T frame count deadline) := ⟨_, .of_sessions (by rfl), rfl⟩
  have shutdown (deadline : Nat) : ∃ l', l.Spares l' ∧
      l.shutdownStep T id deadline = l'.writerTo id (l.shutdownNext T deadline) :=
    ⟨_, .of_sessions (by rfl), rfl⟩
  unfold writerStep writerNext
  cases writer : x.writer with
  | unborn | gone => exact ⟨l, .of_sessions rfl, (writerTo_of_eq at_id writer).symm⟩
  | look | attempt => exact ⟨l, .of_sessions rfl, rfl⟩
  | take =>
    cases queued : x.queue with
    | nil => exact ⟨l, .of_sessions rfl, rfl⟩
    | cons frame queue =>
      exact ⟨_, l.spares_update id (fun _ => by rfl) (fun _ h => by exact h), rfl⟩
  | write frame count | stalled frame count deadline => exact write frame count _
  | flush frame count deadline | draining frame count deadline => exact flush frame count deadline
  | report | clear | drop => exact ⟨_, .of_sessions (by rfl), rfl⟩
  | fail phase => exact ⟨_, l.spares_failStep id phase, rfl⟩
  | shutdown | ending => exact shutdown _
  | release result =>
    exact ⟨_, l.spares_dropHalf T id _ (fun _ => by rfl) (fun _ h => by exact h), rfl⟩
  | leave phase result => exact ⟨_, l.spares_leaveStep phase, rfl⟩

/-- A step of a poller spares the loops, and takes the poller to its next phase. -/
theorem pollerStep_eq {id : Nat} {x : Session} {l : Link σ} (at_id : l.sessions[id]? = some x) :
    ∃ l', l.Spares l' ∧ l.pollerStep id x = l'.pollerTo id (l.pollerNext x) := by
  unfold pollerStep pollerNext
  cases poller : x.poller with
  | unborn | gone | broken => exact ⟨l, .of_sessions rfl, (pollerTo_of_eq at_id poller).symm⟩
  | begin | wait | copy | look | ask | settle => exact ⟨l, .of_sessions rfl, rfl⟩
  | offer cycle =>
    cases left : cycle.left with
    | nil => exact ⟨l, .of_sessions rfl, by simp only [left]⟩
    | cons command rest =>
      have spares := l.spares_enqueue command
      rcases result : l.enqueue command with ⟨e | _, l'⟩
      · rw [result] at spares
        exact ⟨l', spares, by cases e <;> simp only [left, result]⟩
      · rw [result] at spares
        exact ⟨l', spares, by simp only [left, result]⟩
  | report cycle => exact ⟨_, .of_sessions (by rfl), rfl⟩
  | leave phase => exact ⟨_, l.spares_leaveStep phase, rfl⟩

end Link

/-! ## What an action does -/

namespace Scene

variable {σ : Type}

/-- An action begins a loop of a session. -/
def Begins (a : Action σ) (loop : Loop) (id : Nat) (s : Scene σ) : Prop :=
  ∃ number, a = .call number ∧ s.calls[number]? = some (.start (.launch loop id))

/-- What an action makes of the session `x` with the number `id`. -/
structure Passes (T : Transport σ) (a : Action σ) (id : Nat) (x : Session) (s : Scene σ)
    (x' : Session) : Prop where
  cancelled : x.cancelled → x'.cancelled
  reader : a = .loop ⟨id, .reader⟩ → x'.reader = s.link.readerNext T id x
  writer : a = .loop ⟨id, .writer⟩ → x'.writer = s.link.writerNext T id x
  poller : a = .loop ⟨id, .poller⟩ → x'.poller = s.link.pollerNext x
  reader_of_ne : a ≠ .loop ⟨id, .reader⟩ →
    x'.reader = x.reader ∨ s.Begins a .reader id ∧ x'.reader = .look
  writer_of_ne : a ≠ .loop ⟨id, .writer⟩ →
    x'.writer = x.writer ∨ s.Begins a .writer id ∧ x'.writer = .look
  poller_of_ne : a ≠ .loop ⟨id, .poller⟩ →
    x'.poller = x.poller ∨ s.Begins a .poller id ∧ x'.poller = .begin

theorem Passes.of_phases {T : Transport σ} {a : Action σ} {id : Nat} {x x' : Session} {s : Scene σ}
    (phases : x'.phases = x.phases) (cancelled : x.cancelled → x'.cancelled)
    (apart : ∀ loop, a ≠ .loop ⟨id, loop⟩) : s.Passes T a id x x' where
  cancelled
  reader own := absurd own (apart .reader)
  writer own := absurd own (apart .writer)
  poller own := absurd own (apart .poller)
  reader_of_ne _ := .inl (congrArg Phases.reader phases)
  writer_of_ne _ := .inl (congrArg Phases.writer phases)
  poller_of_ne _ := .inl (congrArg Phases.poller phases)

/-- A step of a loop moves that loop alone. -/
theorem passes_act_loop (T : Transport σ) (p : Place) {id : Nat} {x : Session} {s : Scene σ}
    (at_id : s.link.sessions[id]? = some x) :
    ∃ x', (s.act T (.loop p)).link.sessions[id]? = some x' ∧ s.Passes T (.loop p) id x x' := by
  obtain ⟨k, loop⟩ := p
  show ∃ x', (s.link.step T ⟨k, loop⟩).sessions[id]? = some x' ∧ _
  have apart {x' : Session} (ne : id ≠ k) (phases : x'.phases = x.phases)
      (cancelled : x.cancelled → x'.cancelled) : s.Passes T (.loop ⟨k, loop⟩) id x x' :=
    .of_phases phases cancelled fun _ same => ne (by cases same; rfl)
  cases at_k : s.link.sessions[k]? with
  | none =>
    have ne : id ≠ k := by
      rintro rfl
      cases at_id.symm.trans at_k
    simp only [Link.step, at_k]
    exact ⟨x, at_id, apart ne rfl fun h => h⟩
  | some y =>
    have same : id = k → y = x := by
      rintro rfl
      exact Option.some.inj (at_k.symm.trans at_id)
    simp only [Link.step, at_k]
    cases loop with
    | reader =>
      obtain ⟨l', spares, eq⟩ := Link.readerStep_eq T at_k
      obtain ⟨x', at_id', phases, cancelled⟩ := spares.session at_id
      simp only [eq]
      by_cases own : id = k
      · obtain rfl := same own
        subst own
        refine ⟨_, Link.session_update at_id', ?_⟩
        exact ⟨cancelled, fun _ => rfl, (by rintro ⟨⟩), (by rintro ⟨⟩), fun ne => absurd rfl ne,
          fun _ => .inl (congrArg Phases.writer phases),
          fun _ => .inl (congrArg Phases.poller phases)⟩
      · exact ⟨x', (Link.session_update_of_ne own).trans at_id', apart own phases cancelled⟩
    | writer =>
      obtain ⟨l', spares, eq⟩ := Link.writerStep_eq T at_k
      obtain ⟨x', at_id', phases, cancelled⟩ := spares.session at_id
      simp only [eq]
      by_cases own : id = k
      · obtain rfl := same own
        subst own
        refine ⟨_, Link.session_update at_id', ?_⟩
        exact ⟨cancelled, (by rintro ⟨⟩), fun _ => rfl, (by rintro ⟨⟩),
          fun _ => .inl (congrArg Phases.reader phases), fun ne => absurd rfl ne,
          fun _ => .inl (congrArg Phases.poller phases)⟩
      · exact ⟨x', (Link.session_update_of_ne own).trans at_id', apart own phases cancelled⟩
    | poller =>
      obtain ⟨l', spares, eq⟩ := Link.pollerStep_eq at_k
      obtain ⟨x', at_id', phases, cancelled⟩ := spares.session at_id
      simp only [eq]
      by_cases own : id = k
      · obtain rfl := same own
        subst own
        refine ⟨_, Link.session_update at_id', ?_⟩
        exact ⟨cancelled, (by rintro ⟨⟩), (by rintro ⟨⟩), fun _ => rfl,
          fun _ => .inl (congrArg Phases.reader phases),
          fun _ => .inl (congrArg Phases.writer phases),
          fun ne => absurd rfl ne⟩
      · exact ⟨x', (Link.session_update_of_ne own).trans at_id', apart own phases cancelled⟩

/-- A step of a start moves no loop, apart from the one that it begins. -/
theorem passes_act_start (T : Transport σ) {number : Nat} {phase : StartPhase} {id : Nat}
    {x : Session} {s : Scene σ} (at_number : s.calls[number]? = some (.start phase))
    (at_id : s.link.sessions[id]? = some x) :
    ∃ x', (s.link.startStep T phase).2.sessions[id]? = some x' ∧
      s.Passes T (.call number) id x x' := by
  have still : s.Passes T (.call number) id x x := .of_phases rfl (fun h => h) (by rintro _ ⟨⟩)
  rw [Link.sessions_startStep]
  cases phase with
  | makeQueue next =>
    simp only
    split
    · exact ⟨x, at_id, still⟩
    · rw [List.getElem?_append_left (List.getElem?_eq_some_iff.1 at_id).1]
      exact ⟨x, at_id, still⟩
  | launch loop k =>
    by_cases own : id = k
    · subst own
      have begins : s.Begins (.call number) loop id := ⟨number, rfl, at_number⟩
      refine ⟨_, Link.session_update at_id, ?_⟩
      cases loop with
      | reader =>
        exact ⟨fun h => h, (by rintro ⟨⟩), (by rintro ⟨⟩), (by rintro ⟨⟩),
          fun _ => .inr ⟨begins, rfl⟩, fun _ => .inl rfl, fun _ => .inl rfl⟩
      | writer =>
        exact ⟨fun h => h, (by rintro ⟨⟩), (by rintro ⟨⟩), (by rintro ⟨⟩), fun _ => .inl rfl,
          fun _ => .inr ⟨begins, rfl⟩, fun _ => .inl rfl⟩
      | poller =>
        exact ⟨fun h => h, (by rintro ⟨⟩), (by rintro ⟨⟩), (by rintro ⟨⟩), fun _ => .inl rfl,
          fun _ => .inl rfl, fun _ => .inr ⟨begins, rfl⟩⟩
    · exact ⟨x, (Link.session_update_of_ne own).trans at_id, still⟩
  | enter | check | discard | openUp | refuse | forgetFailure | clear | count | plug | accept
    | store | report | leave | done | broken => exact ⟨x, at_id, still⟩

/-- What an action makes of a session. -/
theorem passes_act (T : Transport σ) (a : Action σ) {id : Nat} {x : Session} {s : Scene σ}
    (at_id : s.link.sessions[id]? = some x) :
    ∃ x', (s.act T a).link.sessions[id]? = some x' ∧ s.Passes T a id x x' := by
  have still (apart : ∀ loop, a ≠ .loop ⟨id, loop⟩) : s.Passes T a id x x :=
    .of_phases rfl (fun h => h) apart
  cases a with
  | loop p => exact passes_act_loop T p at_id
  | call number =>
    cases at_number : s.calls[number]? with
    | none =>
      simp only [act, at_number]
      exact ⟨x, at_id, still (by rintro _ ⟨⟩)⟩
    | some c =>
      rw [act_call T at_number]
      by_cases is_start : ∃ phase, c = .start phase
      · obtain ⟨phase, rfl⟩ := is_start
        exact passes_act_start T at_number at_id
      · have spares := Link.spares_callStep T s.link fun phase h => is_start ⟨phase, h⟩
        obtain ⟨x', at_id', phases, cancelled⟩ := spares.session at_id
        exact ⟨x', at_id', .of_phases phases cancelled (by rintro _ ⟨⟩)⟩
  | make | device | clock | command | callback => exact ⟨x, at_id, still (by rintro _ ⟨⟩)⟩

/-- A session was there before an action, or was just made. -/
theorem session_act_cases (T : Transport σ) (a : Action σ) {id : Nat} {x' : Session} {s : Scene σ}
    (at_id' : (s.act T a).link.sessions[id]? = some x') :
    (∃ x, s.link.sessions[id]? = some x ∧ s.Passes T a id x x') ∨
      s.link.sessions[id]? = none ∧ x' = { } := by
  cases at_id : s.link.sessions[id]? with
  | some x =>
    obtain ⟨y, at_y, passes⟩ := passes_act T a at_id
    obtain rfl := Option.some.inj (at_y.symm.trans at_id')
    exact .inl ⟨x, rfl, passes⟩
  | none =>
    refine .inr ⟨rfl, ?_⟩
    have absent (length : (s.act T a).link.sessions.length = s.link.sessions.length) :
        x' = { } := by
      have bound := (List.getElem?_eq_some_iff.1 at_id').1
      have beyond := List.getElem?_eq_none_iff.1 at_id
      omega
    cases a with
    | loop p =>
      have length := (s.link.handling_step T p).length_eq
      simp only [Link.shelves, List.length_map] at length
      exact absent length
    | call number =>
      cases at_number : s.calls[number]? with
      | none =>
        simp only [act, at_number] at at_id'
        cases at_id.symm.trans at_id'
      | some c =>
        by_cases is_start : ∃ phase, c = .start phase
        · obtain ⟨phase, rfl⟩ := is_start
          rw [act_call T at_number] at at_id'
          replace at_id' : (s.link.startStep T phase).2.sessions[id]? = some x' := at_id'
          rw [Link.sessions_startStep] at at_id'
          cases phase with
          | makeQueue next =>
            simp only at at_id'
            split at at_id'
            · cases at_id.symm.trans at_id'
            · rcases getElem?_concat_cases at_id' with old | ⟨-, new⟩
              · cases at_id.symm.trans old
              · exact new
          | launch loop k =>
            simp [Link.launch, Link.update, List.getElem?_modify, at_id] at at_id'
          | _ => cases at_id.symm.trans at_id'
        · have spares := Link.spares_callStep T s.link fun phase h => is_start ⟨phase, h⟩
          refine absent ?_
          rw [act_call T at_number]
          exact spares.length
    | make | device | clock | command | callback => cases at_id.symm.trans at_id'

/-! ## What is observed of a run -/

variable {α : Type} {T : Transport σ} {observe : Action σ → Scene σ → List α}

/-- What is observed of the actions of a run, one after the other. -/
def trace (T : Transport σ) (observe : Action σ → Scene σ → List α) :
    List (Action σ) → Scene σ → List α
  | [], _ => []
  | a :: actions, s => observe a s ++ trace T observe actions (s.act T a)

theorem trace_append (first rest : List (Action σ)) (s : Scene σ) :
    trace T observe (first ++ rest) s =
      trace T observe first s ++ trace T observe rest (s.run T first) := by
  induction first generalizing s with
  | nil => rfl
  | cons a first ih => simp only [List.cons_append, trace, ih, List.append_assoc]; rfl

/-- What is observed was observed of one action of the run, if every action shows one thing at
most. -/
theorem trace_eq_append_cons {actions : List (Action σ)} {s : Scene σ} {before after : List α}
    {x : α} (short : ∀ a s, (observe a s).length ≤ 1)
    (observed : trace T observe actions s = before ++ x :: after) :
    ∃ first a later, actions = first ++ a :: later ∧ observe a (s.run T first) = [x] ∧
      trace T observe later ((s.run T first).act T a) = after := by
  induction actions generalizing s before with
  | nil => exact absurd observed.symm (by simp [trace])
  | cons a actions ih =>
    rw [trace] at observed
    -- the action shows nothing, what is looked for, or something before that
    match shown : observe a s, before, short a s with
    | [], before, _ =>
      rw [shown] at observed
      obtain ⟨first, b, later, rfl, shown', rest⟩ := ih observed
      exact ⟨a :: first, b, later, rfl, shown', rest⟩
    | [y], [], _ =>
      rw [shown] at observed
      obtain ⟨rfl, rest⟩ := List.cons.inj observed
      exact ⟨[], a, actions, rfl, shown, rest⟩
    | [y], z :: before, _ =>
      rw [shown] at observed
      obtain ⟨first, b, later, rfl, shown', rest⟩ := ih (List.cons.inj observed).2
      exact ⟨a :: first, b, later, rfl, shown', rest⟩

/-- What every action keeps holds after every run. -/
theorem run_of_act (inv : Scene σ → Prop) (step : ∀ s a, inv s → inv (s.act T a))
    (actions : List (Action σ)) {s : Scene σ} (holds : inv s) : inv (s.run T actions) := by
  induction actions generalizing s with
  | nil => exact holds
  | cons a actions ih => exact ih (step s a holds)

/-- Nothing is observed of a run of which no step shows anything. -/
theorem trace_eq_nil (inv : Scene σ → Prop)
    (step : ∀ s a, inv s → observe a s = [] ∧ inv (s.act T a)) (actions : List (Action σ))
    {s : Scene σ} (holds : inv s) : trace T observe actions s = [] := by
  induction actions generalizing s with
  | nil => rfl
  | cons a actions ih =>
    obtain ⟨silent, holds⟩ := step s a holds
    rw [trace, silent, ih holds]
    rfl

/-- Of what every step pays for from a budget, there is no more in a run than the budget. -/
theorem countP_trace_le (inv : Scene σ → Prop) (budget : Scene σ → Nat) {p : α → Bool}
    (step : ∀ s a, inv s →
      inv (s.act T a) ∧ (observe a s).countP p + budget (s.act T a) ≤ budget s)
    (actions : List (Action σ)) {s : Scene σ} (holds : inv s) :
    (trace T observe actions s).countP p ≤ budget s := by
  induction actions generalizing s with
  | nil => exact Nat.zero_le _
  | cons a actions ih =>
    obtain ⟨holds, paid⟩ := step s a holds
    have rest := ih holds
    rw [trace, List.countP_append]
    omega

end Scene

end FieldLink

import FieldLink.Proofs.Link.Scene

/-!
# The fields that a step writes

A step writes few fields of the link.  Each equation here is about one program and names the fields
that some step of it writes; that the program leaves any other field alone follows by rewriting with
it.  Steps that write less than their program does have equations of their own, for the proofs that
go through the program step by step.
-/

namespace FieldLink

namespace Link

variable {σ : Type}

/-! ## The programs within others -/

/-- A frame that is offered is refused and nothing changes, or the session that accepts frames has
room for it. -/
theorem enqueue_cases (frame : Frame) (l : Link σ) :
    (∃ e, l.enqueue frame = (.error e, l) ∧ l.taker? frame = none) ∨
    ∃ id x, l.outbox = some id ∧ l.sessions[id]? = some x ∧ x.isDeaf = false ∧
      x.queue.length < l.options.queueCapacity.toNat ∧
      l.enqueue frame = (.ok (), l.update id fun s => { s with queue := s.queue ++ [frame] }) ∧
      l.taker? frame = some id := by
  unfold taker? enqueue
  cases outbox : l.outbox with
  | none => exact .inl ⟨_, rfl, rfl⟩
  | some id =>
    cases at_id : l.sessions[id]? with
    | none => exact .inl ⟨.notOpen, by simp [at_id], by simp [at_id]⟩
    | some x =>
      by_cases deaf : x.isDeaf
      · exact .inl ⟨.notOpen, by simp [at_id, deaf], by simp [at_id, deaf]⟩
      · by_cases full : l.options.queueCapacity.toNat ≤ x.queue.length
        · exact .inl ⟨.busy, by simp [at_id, deaf, full], by simp [at_id, deaf, full]⟩
        · refine .inr ⟨id, x, rfl, at_id, by simpa using deaf, by omega, ?_, ?_⟩
          · simp [at_id, deaf, full]
          · simp [at_id, deaf, full]

theorem enqueue_writes (frame : Frame) (l : Link σ) :
    ∃ sessions, (l.enqueue frame).2 = { l with sessions } := by
  rcases l.enqueue_cases frame with ⟨e, result, -⟩ | ⟨id, x, -, -, -, -, result, -⟩
  · exact ⟨_, by rw [result]⟩
  · exact ⟨_, by rw [result]; rfl⟩

theorem sendStep_queue (frame : Frame) (before : Bool) (l : Link σ) :
    (l.sendStep frame (.queue before)).2 = (l.enqueue frame).2 := by
  simp only [sendStep]
  rcases l.enqueue frame with ⟨_ | _, l'⟩ <;> rfl

theorem sendStep_writes (frame : Frame) (phase : SendPhase) (l : Link σ) :
    ∃ sessions sending, (l.sendStep frame phase).2 = { l with sessions, sending } := by
  cases phase with
  | mark | restore | done => exact ⟨_, _, rfl⟩
  | queue before =>
    obtain ⟨sessions, same⟩ := l.enqueue_writes frame
    exact ⟨sessions, l.sending, (l.sendStep_queue frame before).trans same⟩

theorem failStep_writes (id : Nat) (phase : FailPhase) (l : Link σ) :
    ∃ sessions state outbox failed,
      (l.failStep id phase).2 = { l with sessions, state, outbox, failed } := by
  cases phase with
  | mark | unplug | cancel => exact ⟨_, _, _, _, rfl⟩
  | close =>
    simp only [failStep]
    split <;> exact ⟨_, _, _, _, rfl⟩

theorem leaveStep_writes (phase : LeavePhase) (l : Link σ) :
    ∃ state liveLoops events, (l.leaveStep phase).2 = { l with state, liveLoops, events } := by
  cases phase with
  | count | judge | report => exact ⟨_, _, _, rfl⟩
  | finish =>
    simp only [leaveStep]
    split <;> exact ⟨_, _, _, rfl⟩

/-- Letting a half of the transport go changes the session, and the device at most. -/
theorem dropHalf_eq (T : Transport σ) (id : Nat) (drop : Session → Session) (l : Link σ) :
    ∃ device, l.dropHalf T id drop = { l.update id drop with device } := by
  simp only [dropHalf]
  split
  · split
    · exact ⟨_, rfl⟩
    · exact ⟨_, rfl⟩
  · exact ⟨_, rfl⟩

/-! ## The poller -/

theorem pollerStep_offer_writes {x : Session} {cycle : PollCycle} (poller : x.poller = .offer cycle)
    (id : Nat) (l : Link σ) : ∃ sessions, l.pollerStep id x = { l with sessions } := by
  cases left : cycle.left with
  | nil =>
    simp only [pollerStep, poller, left]
    exact ⟨_, rfl⟩
  | cons command rest =>
    obtain ⟨sessions, same⟩ := l.enqueue_writes command
    simp only [pollerStep, poller, left]
    rcases result : l.enqueue command with ⟨e | _, l'⟩
    · rw [result] at same
      subst same
      cases e <;> exact ⟨_, rfl⟩
    · rw [result] at same
      subst same
      exact ⟨_, rfl⟩

theorem pollerStep_writes (id : Nat) (x : Session) (l : Link σ) :
    ∃ sessions state liveLoops events,
      l.pollerStep id x = { l with sessions, state, liveLoops, events } := by
  cases poller : x.poller with
  | offer cycle =>
    obtain ⟨sessions, same⟩ := l.pollerStep_offer_writes poller id
    exact ⟨_, _, _, _, same⟩
  | leave phase =>
    obtain ⟨state, liveLoops, events, same⟩ := l.leaveStep_writes phase
    simp only [pollerStep, poller, same]
    exact ⟨_, _, _, _, rfl⟩
  | _ =>
    simp only [pollerStep, poller]
    exact ⟨_, _, _, _, rfl⟩

/-! ## The calls -/

theorem startStep_check (T : Transport σ) (l : Link σ) :
    ∃ state, (l.startStep T .check).2 = { l with state } := by
  simp only [startStep]
  split
  · exact ⟨_, rfl⟩
  · split <;> exact ⟨_, rfl⟩

theorem cancelPolling_writes (l : Link σ) : ∃ sessions, l.cancelPolling = { l with sessions } := by
  unfold cancelPolling
  split <;> exact ⟨_, rfl⟩

theorem closeStep_take (l : Link σ) :
    ∃ current, (l.closeStep .take).2 = { l with current } := by
  simp only [closeStep]
  split
  · exact ⟨_, rfl⟩
  · split <;> exact ⟨_, rfl⟩

theorem closeStep_writes (phase : ClosePhase) (l : Link σ) :
    ∃ sessions state outbox current sending events,
      (l.closeStep phase).2 = { l with sessions, state, outbox, current, sending, events } := by
  cases phase with
  | stopPolling =>
    obtain ⟨sessions, same⟩ := l.cancelPolling_writes
    simp only [closeStep, same]
    split <;> exact ⟨_, _, _, _, _, _, rfl⟩
  | take =>
    obtain ⟨current, same⟩ := l.closeStep_take
    exact ⟨_, _, _, _, _, _, same⟩
  | mark id | join id =>
    simp only [closeStep]
    split <;> exact ⟨_, _, _, _, _, _, rfl⟩
  | _ => exact ⟨_, _, _, _, _, _, rfl⟩

end Link

end FieldLink

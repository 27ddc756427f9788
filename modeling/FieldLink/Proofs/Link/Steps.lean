import FieldLink.Proofs.Link.Outline

/-!
# Steps as outlines show them

Every step of a loop changes the outline of a scene as `Outline.LoopStep` says (`loopStep_act`), and
every step of a call as `Outline.CallStep` says, once its start is over (`callStep_act`).
-/

namespace FieldLink

/-! ## The steps of the loops -/

namespace Link

variable {σ : Type} {calls : List Call} {faults : List Nat}

theorem outline_update {id : Nat} {f : Session → Session} {g : Standing → Standing} (l : Link σ)
    (same : ∀ x, (f x).standing = g x.standing) :
    (l.update id f).outline calls faults = (l.outline calls faults).update id g := by
  have sessions : (l.sessions.modify id f).map Session.standing =
      (l.sessions.map Session.standing).modify id g := by
    apply List.ext_getElem?
    intro i
    simp only [List.getElem?_map, List.getElem?_modify]
    cases l.sessions[i]? with
    | none => rfl
    | some x => by_cases h : id = i <;> simp [h, same]
  simp only [outline, update, Outline.update, sessions]

theorem outline_update_of_eq {k : Nat} {f : Session → Session} (l : Link σ)
    (same : ∀ x, (f x).standing = x.standing) :
    (l.update k f).outline calls faults = l.outline calls faults := by
  rw [l.outline_update (g := id) same, Outline.update, List.modify_id]

theorem standing_at {id : Nat} {l : Link σ} {x : Session} (at_id : l.sessions[id]? = some x) :
    (l.outline calls faults).sessions[id]? = some x.standing := by
  simp [outline, at_id]

theorem outline_readerTo (id : Nat) (phase : ReaderPhase) (l : Link σ) :
    (l.readerTo id phase).outline calls faults =
      (l.outline calls faults).goTo ⟨id, .reader⟩ phase.stage :=
  l.outline_update fun _ => rfl

theorem outline_writerTo (id : Nat) (phase : WriterPhase) (l : Link σ) :
    (l.writerTo id phase).outline calls faults =
      (l.outline calls faults).goTo ⟨id, .writer⟩ phase.stage :=
  l.outline_update fun _ => rfl

theorem outline_pollerTo (id : Nat) (phase : PollerPhase) (l : Link σ) :
    (l.pollerTo id phase).outline calls faults =
      (l.outline calls faults).goTo ⟨id, .poller⟩ phase.stage :=
  l.outline_update fun _ => rfl

theorem outline_enqueue (frame : Frame) (l : Link σ) :
    (l.enqueue frame).2.outline calls faults = l.outline calls faults := by
  rcases l.enqueue_cases frame with ⟨e, result, -⟩ | ⟨id, x, -, -, -, -, result, -⟩
  · rw [result]
  · rw [result]
    exact l.outline_update_of_eq fun _ => rfl

theorem outline_sendStep (frame : Frame) (phase : SendPhase) (l : Link σ) :
    (l.sendStep frame phase).2.outline calls faults = l.outline calls faults := by
  cases phase with
  | mark | restore | done => rfl
  | queue before =>
    rw [sendStep_queue]
    exact l.outline_enqueue frame

theorem outline_dropHalf (T : Transport σ) (id : Nat) (drop : Session → Session) (l : Link σ) :
    (l.dropHalf T id drop).outline calls faults = (l.update id drop).outline calls faults := by
  obtain ⟨device, eq⟩ := dropHalf_eq T id drop l
  rw [eq]
  rfl

theorem faults_sendNotes (frame : Frame) (phase : SendPhase) (l : Link σ) :
    (l.sendNotes frame phase).filterMap Note.fault? = [] := by
  cases phase with
  | queue => cases taker : l.taker? frame <;> simp [sendNotes, offerNotes, taker, Note.fault?]
  | mark | restore | done => rfl

theorem stage_readerAfter (T : Transport σ) (answer : Answer Frame) (l : Link σ) :
    (l.readerAfter T answer).stage = .running ∨
      (l.readerAfter T answer).stage = .failing .mark := by
  unfold readerAfter
  split
  · exact .inl rfl
  · exact .inr rfl
  · exact .inl rfl
  · split
    · exact .inr rfl
    · exact .inl rfl

theorem loopStep_fail {p : Place} {l : Link σ} {x : Standing} (phase : FailPhase)
    (at_id : (l.outline calls faults).sessions[p.session]? = some x)
    (at_stage : x.stage p.loop = .failing phase) :
    (l.outline calls faults).LoopStep p
      (((l.failStep p.session phase).2.outline calls
        (faults ++ (failNotes p.session phase).filterMap Note.fault?)).goTo p
          ((l.failStep p.session phase).1.elim .ending .failing)) := by
  cases phase with
  | mark => exact .mark x at_id at_stage
  | close =>
    have step := Outline.LoopStep.close x at_id at_stage
    simp only [failNotes, List.filterMap_nil, List.append_nil]
    by_cases opened : l.state = .opened
    · simpa [failStep, outline, Outline.goTo, Outline.update, opened] using step
    · simpa [failStep, outline, Outline.goTo, Outline.update, opened] using step
  | unplug =>
    simp only [failNotes, List.filterMap_nil, List.append_nil]
    exact .unplug x at_id at_stage
  | cancel =>
    simp only [failNotes, List.filterMap_nil, List.append_nil, failStep, Option.elim_none]
    rw [l.outline_update (g := fun x => { x with cancelled := true }) fun _ => rfl, Outline.goTo,
      Outline.update_update]
    exact .cancel x at_id at_stage

theorem loopStep_leave {p : Place} {l : Link σ} {x : Standing} (phase : LeavePhase)
    (at_id : (l.outline calls faults).sessions[p.session]? = some x)
    (at_stage : x.stage p.loop = .leaving phase) :
    (l.outline calls faults).LoopStep p
      (((l.leaveStep phase).2.outline calls faults).goTo p
        ((l.leaveStep phase).1.elim .gone .leaving)) := by
  cases phase with
  | count =>
    have step := Outline.LoopStep.count x at_id at_stage
    by_cases last : l.liveLoops = 1
    · simpa [leaveStep, outline, Outline.goTo, Outline.update, last] using step
    · simpa [leaveStep, outline, Outline.goTo, Outline.update, last] using step
  | judge =>
    have step := Outline.LoopStep.judge x at_id at_stage
    by_cases failed : l.failed
    · simpa [leaveStep, outline, Outline.goTo, Outline.update, failed] using step
    · simpa [leaveStep, outline, Outline.goTo, Outline.update, failed] using step
  | finish =>
    by_cases closing : l.state = .closing
    · have step := Outline.LoopStep.finish x at_id at_stage closing
      simpa [leaveStep, outline, Outline.goTo, Outline.update, closing] using step
    · have step := Outline.LoopStep.pass x at_id at_stage closing
      simpa [leaveStep, outline, Outline.goTo, Outline.update, closing] using step
  | report => exact .report x at_id at_stage

theorem faults_offerNotes (frame : Frame) (l : Link σ) :
    (l.offerNotes frame).filterMap Note.fault? = [] := by
  cases taker : l.taker? frame <;> simp [offerNotes, taker, Note.fault?]

theorem stage_reader {s : Session} {phase : ReaderPhase} (reader : s.reader = phase) :
    s.standing.stage .reader = phase.stage := by
  rw [← reader]
  rfl

theorem stage_writer {s : Session} {phase : WriterPhase} (writer : s.writer = phase) :
    s.standing.stage .writer = phase.stage := by
  rw [← writer]
  rfl

theorem stage_poller {s : Session} {phase : PollerPhase} (poller : s.poller = phase) :
    s.standing.stage .poller = phase.stage := by
  rw [← poller]
  rfl

theorem stage_elim_reader (next : Option FailPhase) :
    (next.elim ReaderPhase.release .fail).stage = next.elim .ending .failing := by
  cases next <;> rfl

theorem stage_elim_writer (next : Option FailPhase) :
    (next.elim WriterPhase.shutdown .fail).stage = next.elim .ending .failing := by
  cases next <;> rfl

theorem loopStep_reader (T : Transport σ) {id : Nat} {s : Session} {l : Link σ}
    (at_id : l.sessions[id]? = some s) :
    (l.outline calls faults).LoopStep ⟨id, .reader⟩
      ((l.readerStep T id s).outline calls
        (faults ++ (l.readerNotes id s).filterMap Note.fault?)) := by
  have found : (l.outline calls faults).sessions[id]? = some s.standing := standing_at at_id
  unfold readerNotes readerStep
  cases reader : s.reader with
  | unborn | gone =>
    simp only [List.filterMap_nil, List.append_nil]
    exact .still
  | look =>
    simp only [List.filterMap_nil, List.append_nil, outline_readerTo]
    by_cases cancelled : s.cancelled
    · simp only [cancelled]
      exact .stop s.standing .ending found (stage_reader reader) (.inr ⟨rfl, .inl cancelled⟩)
    · simp only [cancelled, Bool.false_eq_true, if_false]
      exact .stay found ((stage_reader reader).trans rfl)
  | read =>
    generalize T.read packetSize.toNat l.now l.device = result
    obtain ⟨answer, device⟩ := result
    simp only [List.filterMap_nil, List.append_nil, outline_readerTo]
    rcases stage_readerAfter T answer { l with device } with stage | stage
    · rw [stage]
      exact .stay found (stage_reader reader)
    · rw [stage]
      exact .stop s.standing _ found (stage_reader reader) (.inl rfl)
  | deliver chunk =>
    simp only [List.filterMap_nil, List.append_nil]
    cases callback : l.callback with
    | none =>
      simp only [outline_readerTo]
      exact .stay found ((stage_reader reader).trans rfl)
    | some c =>
      obtain ⟨tag, replies⟩ := c
      cases replies <;> simp only [outline_readerTo] <;>
        exact .stay found ((stage_reader reader).trans rfl)
  | reply chunk tag answer phase =>
    cases phase with
    | done result =>
      simp only [sendNotes, List.filterMap_nil, List.append_nil, outline_readerTo]
      exact .stay found ((stage_reader reader).trans rfl)
    | mark | queue | restore =>
      simp only [faults_sendNotes, List.append_nil, outline_readerTo, outline_sendStep]
      exact .stay found ((stage_reader reader).trans rfl)
  | clear chunk =>
    simp only [List.filterMap_nil, List.append_nil, outline_readerTo]
    exact .stay found ((stage_reader reader).trans rfl)
  | report chunk =>
    simp only [List.filterMap_nil, List.append_nil, outline_readerTo]
    exact .emit found ((stage_reader reader).trans rfl) rfl
  | fail phase =>
    simp only [outline_readerTo, stage_elim_reader]
    exact loopStep_fail phase found (stage_reader reader)
  | release =>
    simp only [List.filterMap_nil, List.append_nil, outline_readerTo, outline_dropHalf]
    rw [l.outline_update (g := Standing.drop .reader) fun _ => rfl, Outline.goTo,
      Outline.update_update]
    exact .release s.standing found (stage_reader reader)
  | leave phase =>
    have stage : ∀ next : Option LeavePhase,
        (next.elim ReaderPhase.gone .leave).stage = next.elim .gone .leaving := by
      intro next
      cases next <;> rfl
    simp only [List.filterMap_nil, List.append_nil, outline_readerTo, stage]
    exact loopStep_leave phase found (stage_reader reader)

theorem stage_writerAfter (T : Transport σ) (frame : Frame) (count : Nat) (f : Failure)
    (l : Link σ) : (l.writerAfter T frame count f).stage = .running ∨
      (l.writerAfter T frame count f).stage = .failing .mark := by
  unfold writerAfter
  cases T.classify l.device f with
  | fatal => exact .inr rfl
  | transient => exact .inl rfl

/-- A running writer goes on or begins to give its session up. -/
theorem loopStep_writing {id : Nat} {s : Session} {l l' : Link σ} {phase : WriterPhase}
    (at_id : l.sessions[id]? = some s) (running : s.writer.stage = .running)
    (same : l'.outline calls faults = l.outline calls faults)
    (next : phase.stage = .running ∨ phase.stage = .failing .mark) :
    (l.outline calls faults).LoopStep ⟨id, .writer⟩
      ((l'.writerTo id phase).outline calls faults) := by
  have found : (l.outline calls faults).sessions[id]? = some s.standing := standing_at at_id
  rw [outline_writerTo, same]
  rcases next with stage | stage
  · rw [stage]
    exact .stay found running
  · rw [stage]
    exact .stop s.standing _ found running (.inl rfl)

theorem loopStep_writeStep (T : Transport σ) {id : Nat} {s : Session} {l : Link σ} {frame : Frame}
    {count deadline : Nat} (at_id : l.sessions[id]? = some s)
    (running : s.writer.stage = .running) :
    (l.outline calls faults).LoopStep ⟨id, .writer⟩
      ((l.writeStep T id frame count deadline).outline calls faults) := by
  unfold writeStep
  generalize T.write frame l.now l.device = result
  obtain ⟨answer, device⟩ := result
  refine loopStep_writing at_id running rfl ?_
  cases answer with
  | waiting resume =>
    by_cases fired : Timer.hasFired deadline l.now
    · simp only [fired, if_true]
      exact .inl rfl
    · simp only [fired, Bool.false_eq_true, if_false]
      exact .inl rfl
  | failed f => exact stage_writerAfter T frame count f _
  | done n =>
    by_cases short : n < frame.length
    · simp only [short, if_true]
      exact stage_writerAfter T frame count _ _
    · simp only [short, if_false]
      exact .inl rfl

theorem loopStep_flushStep (T : Transport σ) {id : Nat} {s : Session} {l : Link σ} {frame : Frame}
    {count deadline : Nat} (at_id : l.sessions[id]? = some s)
    (running : s.writer.stage = .running) :
    (l.outline calls faults).LoopStep ⟨id, .writer⟩
      ((l.flushStep T id frame count deadline).outline calls faults) := by
  unfold flushStep
  generalize T.flush l.now l.device = result
  obtain ⟨answer, device⟩ := result
  refine loopStep_writing at_id running rfl ?_
  cases answer with
  | waiting resume =>
    by_cases fired : Timer.hasFired deadline l.now
    · simp only [fired, if_true]
      exact .inl rfl
    · simp only [fired, Bool.false_eq_true, if_false]
      exact .inl rfl
  | failed f => exact stage_writerAfter T frame count f _
  | done => exact .inl rfl

theorem loopStep_shutdownStep (T : Transport σ) {id : Nat} {s : Session} {l : Link σ}
    {deadline : Nat} (at_id : l.sessions[id]? = some s) (ending : s.writer.stage = .ending) :
    (l.outline calls faults).LoopStep ⟨id, .writer⟩
      ((l.shutdownStep T id deadline).outline calls faults) := by
  have found : (l.outline calls faults).sessions[id]? = some s.standing := standing_at at_id
  unfold shutdownStep
  generalize T.shutdown l.now l.device = result
  obtain ⟨answer, device⟩ := result
  simp only [outline_writerTo]
  cases answer with
  | waiting resume =>
    simp only
    split <;> exact .stay found ending
  | failed | done => exact .stay found ending

theorem loopStep_writer (T : Transport σ) {id : Nat} {s : Session} {l : Link σ}
    (at_id : l.sessions[id]? = some s) :
    (l.outline calls faults).LoopStep ⟨id, .writer⟩
      ((l.writerStep T id s).outline calls
        (faults ++ (writerNotes id s).filterMap Note.fault?)) := by
  have found : (l.outline calls faults).sessions[id]? = some s.standing := standing_at at_id
  unfold writerNotes writerStep
  cases writer : s.writer with
  | unborn | gone =>
    simp only [List.filterMap_nil, List.append_nil]
    exact .still
  | look =>
    simp only [List.filterMap_nil, List.append_nil, outline_writerTo]
    by_cases cancelled : s.cancelled
    · simp only [cancelled]
      exact .stop s.standing .ending found (stage_writer writer) (.inr ⟨rfl, .inl cancelled⟩)
    · simp only [cancelled, Bool.false_eq_true, if_false]
      exact .stay found ((stage_writer writer).trans rfl)
  | take =>
    cases queue : s.queue with
    | nil =>
      simp only [List.head?_nil, Option.toList_none, List.map_nil, List.filterMap_nil,
        List.append_nil, outline_writerTo]
      by_cases plugged : l.outbox = some id
      · simp only [plugged, if_true]
        exact .stay found ((stage_writer writer).trans rfl)
      · simp only [plugged, if_false]
        exact .stop s.standing .ending found (stage_writer writer) (.inr ⟨rfl, .inr plugged⟩)
    | cons frame queue =>
      have faultless : ([frame].map (Note.taken id)).filterMap Note.fault? = [] := rfl
      simp only [List.head?_cons, Option.toList_some, faultless, List.append_nil]
      refine loopStep_writing at_id (by rw [writer]; rfl) (l.outline_update_of_eq fun _ => rfl) ?_
      exact .inl rfl
  | attempt frame count =>
    simp only [List.filterMap_nil, List.append_nil, outline_writerTo]
    by_cases spent : l.options.retries.toNat < count
    · simp only [spent, if_true]
      exact .stay found ((stage_writer writer).trans rfl)
    · by_cases cancelled : s.cancelled
      · simp only [spent, cancelled, if_false, if_true]
        exact .stop s.standing .ending found (stage_writer writer) (.inr ⟨rfl, .inl cancelled⟩)
      · simp only [spent, cancelled, Bool.false_eq_true, if_false]
        exact .stay found ((stage_writer writer).trans rfl)
  | write frame count | stalled frame count deadline =>
    have faultless : [Note.wrote id frame].filterMap Note.fault? = [] := rfl
    simp only [faultless, List.append_nil]
    exact loopStep_writeStep T at_id (by rw [writer]; rfl)
  | flush frame count deadline | draining frame count deadline =>
    simp only [List.filterMap_nil, List.append_nil]
    exact loopStep_flushStep T at_id (by rw [writer]; rfl)
  | clear frame =>
    simp only [List.filterMap_nil, List.append_nil, outline_writerTo]
    exact .stay found ((stage_writer writer).trans rfl)
  | report frame | drop frame =>
    simp only [List.filterMap_nil, List.append_nil, outline_writerTo]
    exact .emit found ((stage_writer writer).trans rfl) rfl
  | fail phase =>
    simp only [outline_writerTo, stage_elim_writer]
    exact loopStep_fail phase found (stage_writer writer)
  | shutdown | ending =>
    simp only [List.filterMap_nil, List.append_nil]
    exact loopStep_shutdownStep T at_id (by rw [writer]; rfl)
  | release result =>
    simp only [List.filterMap_nil, List.append_nil, outline_writerTo, outline_dropHalf]
    rw [l.outline_update (g := Standing.drop .writer) fun _ => rfl, Outline.goTo,
      Outline.update_update]
    exact .release s.standing found (stage_writer writer)
  | leave phase result =>
    have stage : ∀ next : Option LeavePhase,
        (next.elim (WriterPhase.gone result) (.leave · result)).stage =
          next.elim .gone .leaving := by
      intro next
      cases next <;> rfl
    simp only [List.filterMap_nil, List.append_nil, outline_writerTo, stage]
    exact loopStep_leave phase found (stage_writer writer)

theorem loopStep_poller {id : Nat} {s : Session} {l : Link σ} (at_id : l.sessions[id]? = some s) :
    (l.outline calls faults).LoopStep ⟨id, .poller⟩
      ((l.pollerStep id s).outline calls (faults ++ (l.pollerNotes s).filterMap Note.fault?)) := by
  have found : (l.outline calls faults).sessions[id]? = some s.standing := standing_at at_id
  unfold pollerNotes pollerStep
  cases poller : s.poller with
  | unborn | gone | broken =>
    simp only [List.filterMap_nil, List.append_nil]
    exact .still
  | begin =>
    simp only [List.filterMap_nil, List.append_nil, outline_pollerTo]
    split
    · exact .stay found ((stage_poller poller).trans rfl)
    · exact .stop s.standing .broken found (stage_poller poller) (.inr rfl)
  | wait next =>
    simp only [List.filterMap_nil, List.append_nil, outline_pollerTo]
    split
    · exact .stop s.standing _ found (stage_poller poller) (.inl rfl)
    · split <;> exact .stay found ((stage_poller poller).trans rfl)
  | copy next =>
    simp only [List.filterMap_nil, List.append_nil, outline_pollerTo]
    exact .stay found ((stage_poller poller).trans rfl)
  | look cycle =>
    simp only [List.filterMap_nil, List.append_nil, outline_pollerTo]
    cases cycle.left with
    | nil => exact .stay found ((stage_poller poller).trans rfl)
    | cons =>
      simp only
      split
      · exact .stop s.standing _ found (stage_poller poller) (.inl rfl)
      · exact .stay found ((stage_poller poller).trans rfl)
  | ask cycle =>
    simp only [List.filterMap_nil, List.append_nil, outline_pollerTo]
    split <;> exact .stay found ((stage_poller poller).trans rfl)
  | offer cycle =>
    cases left : cycle.left with
    | nil =>
      simp only [left, List.head?_nil, Option.toList_none, List.flatMap_nil, List.filterMap_nil,
        List.append_nil, outline_pollerTo]
      exact .stay found ((stage_poller poller).trans rfl)
    | cons command rest =>
      have same : (l.enqueue command).2.outline calls faults = l.outline calls faults :=
        l.outline_enqueue command
      simp only [left, List.head?_cons, Option.toList_some, List.flatMap_cons, List.flatMap_nil,
        List.append_nil, faults_offerNotes]
      rcases result : l.enqueue command with ⟨e | _, l'⟩
      · rw [result] at same
        cases e
        all_goals
          simp only [outline_pollerTo, same]
          first
            | exact .stay found ((stage_poller poller).trans rfl)
            | exact .stop s.standing _ found (stage_poller poller) (.inl rfl)
      · rw [result] at same
        simp only [outline_pollerTo, same]
        exact .stay found ((stage_poller poller).trans rfl)
  | settle cycle deadline =>
    simp only [List.filterMap_nil, List.append_nil, outline_pollerTo]
    split
    · exact .stop s.standing _ found (stage_poller poller) (.inl rfl)
    · split <;> exact .stay found ((stage_poller poller).trans rfl)
  | report cycle =>
    simp only [List.filterMap_nil, List.append_nil, outline_pollerTo]
    exact .emit found ((stage_poller poller).trans rfl) rfl
  | leave phase =>
    have stage : ∀ next : Option LeavePhase,
        (next.elim PollerPhase.gone .leave).stage = next.elim .gone .leaving := by
      intro next
      cases next <;> rfl
    simp only [List.filterMap_nil, List.append_nil, outline_pollerTo, stage]
    exact loopStep_leave phase found (stage_poller poller)

end Link

theorem filterMap_fault?_eventNotes {σ : Type} (session : Option Nat) (before after : Link σ) :
    (Link.eventNotes session before after).filterMap Note.fault? = [] := by
  unfold Link.eventNotes
  induction after.events.drop before.events.length with
  | nil => rfl
  | cons event events ih => exact ih

/-- A step of a loop changes the outline of a scene so. -/
theorem Scene.loopStep_act {σ : Type} (T : Transport σ) (p : Place) (s : Scene σ) :
    s.outline.LoopStep p (s.act T (.loop p)).outline := by
  obtain ⟨id, loop⟩ := p
  simp only [outline, act, List.filterMap_append, filterMap_fault?_eventNotes, List.append_nil,
    Link.loopNotes, Link.step]
  cases at_id : s.link.sessions[id]? with
  | none =>
    simp only [List.filterMap_nil, List.append_nil]
    exact .still
  | some x =>
    cases loop with
    | reader => exact Link.loopStep_reader T at_id
    | writer => exact Link.loopStep_writer T at_id
    | poller => exact Link.loopStep_poller at_id

/-! ## The steps of the calls -/

namespace Link

variable {σ : Type} {calls : List Call} {faults : List Nat}

theorem outline_cancelPolling (l : Link σ) :
    l.cancelPolling.outline calls faults = l.outline calls faults := by
  unfold cancelPolling
  cases l.current with
  | none => rfl
  | some id => exact l.outline_update_of_eq fun _ => rfl

theorem isOver_of_outcome? {s : Session} {outcome : Option Failure}
    (ended : s.outcome? = some outcome) : s.standing.isOver := by
  unfold Session.outcome? at ended
  split at ended <;>
    simp_all [Standing.isOver, Session.standing, ReaderPhase.stage, WriterPhase.stage,
      PollerPhase.stage]

theorem closeStep_closeStep (phase : ClosePhase) (l : Link σ) :
    (l.outline calls faults).CloseStep phase (l.closeStep phase).1
      ((l.closeStep phase).2.outline calls faults) := by
  cases phase with
  | stopPolling =>
    simp only [closeStep]
    split
    · exact .wait _
    · simp only [outline_cancelPolling]
      exact .stopPolling
  | take =>
    simp only [closeStep]
    split
    · exact .wait _
    · cases current : l.current with
      | none => exact .takeNone current
      | some id => exact .take id current
  | mark id =>
    have step := Outline.CloseStep.mark (o := l.outline calls faults) id
    by_cases opened : l.state = .opened
    · simpa [closeStep, outline, opened] using step
    · simpa [closeStep, outline, opened] using step
  | unplug id => exact .unplug id
  | cancel id =>
    simp only [closeStep]
    rw [l.outline_update (g := fun x => { x with cancelled := true }) fun _ => rfl]
    exact .cancel id
  | join id =>
    simp only [closeStep]
    cases ended : l.sessions[id]? >>= Session.outcome? with
    | none => exact .wait _
    | some outcome =>
      obtain ⟨x, at_id, ended⟩ := Option.bind_eq_some_iff.1 ended
      exact .join id x.standing _ (standing_at at_id) (isOver_of_outcome? ended)
  | judge result => exact .judge result
  | finish result fatal => exact .finish result fatal
  | clear result fatal changed =>
    cases changed with
    | true => exact .clear result fatal
    | false => exact .skip result fatal
  | report result fatal => exact .report result fatal
  | done result => exact .wait _

end Link

theorem Call.faults_notes {σ : Type} (c : Call) (l : Link σ) :
    (c.notes l).filterMap Note.fault? = [] := by
  cases c with
  | send frame phase => exact Link.faults_sendNotes frame phase l
  | start | stopPolling | close => rfl

/-- A call that is over stays as it is, and so does the link. -/
theorem Call.step_of_isOver {σ : Type} (T : Transport σ) {c : Call} (l : Link σ)
    (finished : c.isOver) : c.step T l = (c, l) := by
  cases c with
  | start phase => cases phase <;> first | rfl | simp [isOver] at finished
  | send frame phase => cases phase <;> first | rfl | simp [isOver] at finished
  | stopPolling returned => cases returned <;> first | rfl | simp [isOver] at finished
  | close phase => cases phase <;> first | rfl | simp [isOver] at finished

/-- A step of a call changes the outline of a scene so. -/
theorem Scene.callStep_act {σ : Type} (T : Transport σ) (number : Nat) (s : Scene σ)
    (finished : ∀ phase, s.calls[number]? = some (.start phase) → (Call.start phase).isOver) :
    s.outline.CallStep number (s.act T (.call number)).outline := by
  cases at_number : s.calls[number]? with
  | none =>
    simp only [act, at_number]
    exact .still
  | some c =>
    simp only [outline, act, at_number, List.filterMap_append, filterMap_fault?_eventNotes,
      Call.faults_notes, List.append_nil]
    cases c with
    | start phase =>
      rw [Call.step_of_isOver T s.link (finished phase at_number)]
      obtain ⟨bound, at_number⟩ := List.getElem?_eq_some_iff.1 at_number
      rw [← at_number, List.set_getElem_self]
      exact .still
    | send frame phase =>
      simp only [Call.step, Link.outline_sendStep]
      exact .plain _ _ at_number rfl rfl
    | stopPolling returned =>
      cases returned with
      | true => exact .plain _ _ at_number rfl rfl
      | false =>
        simp only [Call.step]
        split
        · exact .plain _ _ at_number rfl rfl
        · simp only [Link.outline_cancelPolling]
          exact .plain _ _ at_number rfl rfl
    | close phase =>
      exact .close phase _ _ at_number (Link.closeStep_closeStep phase s.link)

/-- A step of a start takes its outline from the link that it leaves. -/
theorem Scene.outline_act_start {σ : Type} (T : Transport σ) {number : Nat} {s : Scene σ}
    {phase : StartPhase} (at_number : s.calls[number]? = some (.start phase)) :
    (s.act T (.call number)).outline =
      (s.link.startStep T phase).2.outline
        (s.calls.set number (.start (s.link.startStep T phase).1))
        (s.notes.filterMap Note.fault?) := by
  simp only [outline, act, at_number, Call.step, List.filterMap_append,
    filterMap_fault?_eventNotes, Call.faults_notes, List.append_nil]

end FieldLink

import FieldLink.Proofs.Link.LedgerRuns
import FieldLink.Proofs.Link.Steady

/-!
# Starts that others interrupt

A start takes its steps one by one, and between two of them the loops and the other calls take
theirs.  The outline is settled when the start in progress counts as done (`Outline.settled`): until
it has made a session, the link counts as closed, and from then on as open, with all loops of the
session begun.  Whatever a loop does to an outline it does to the settled one (`LoopStep.settled`),
and a step of the start itself leaves the settled outline as it is, but for the moment at which it
makes the session (`Link.settled_startStep`).
-/

namespace FieldLink

/-- Whether a start that begins the loops from `first` on begins a loop. -/
def Loop.isDue (first : Loop) : Loop → Bool
  | .reader => first = .reader
  | .writer => first ≠ .poller
  | .poller => true

namespace Standing

/-- Begins the loops from the given one on. -/
def launch (poll : Bool) (first : Loop) (x : Standing) : Standing where
  cancelled := x.cancelled
  readHalf := x.readHalf
  writeHalf := x.writeHalf
  reader := if first = .reader then .running else x.reader
  writer := if first ≠ .poller then .running else x.writer
  poller := if poll ∨ first = .poller then .running else x.poller

variable {poll : Bool} {first loop : Loop}

theorem stage_launch (x : Standing) (not_due : first.isDue loop = false) :
    (x.launch poll first).stage loop = x.stage loop := by
  cases loop with
  | reader | writer => cases first <;> first | rfl | cases not_due
  | poller => cases not_due

theorem goTo_launch (stage : Stage) (x : Standing) (not_due : first.isDue loop = false) :
    (x.goTo loop stage).launch poll first = (x.launch poll first).goTo loop stage := by
  cases loop with
  | reader | writer => cases first <;> first | rfl | cases not_due
  | poller => cases not_due

theorem drop_launch (x : Standing) :
    (x.drop loop).launch poll first = (x.launch poll first).drop loop := by
  cases loop <;> rfl

/-- Where a session stands none of whose loops was begun. -/
theorem launch_unborn (poll : Bool) :
    (⟨false, true, true, .unborn, .unborn, .unborn⟩ : Standing).launch poll .reader =
      Outline.firstStanding poll := by
  cases poll <;> rfl

end Standing

namespace StartPhase

/-- The session whose loops a start is to begin, and the loop that it begins first. -/
def due? : StartPhase → Option (Loop × Nat)
  | forgetFailure id | clear id | count id | plug id | accept id => some (.reader, id)
  | launch loop id => some (loop, id)
  | _ => none

end StartPhase

/-- A start counts as over. -/
def Call.settled : Call → Call
  | start _ => start (.done (.ok ()))
  | c => c

@[simp] theorem Call.hasTaken_settled (c : Call) : c.settled.hasTaken = c.hasTaken := by
  cases c <;> rfl

theorem forall_mem_settled {calls : List Call} :
    (∀ c ∈ calls.map Call.settled, ¬c.hasTaken) ↔ ∀ c ∈ calls, ¬c.hasTaken := by
  simp

namespace Outline

/-- Begins the loops of a session from the given one on, and makes it the current one. -/
def launch (first : Loop) (id : Nat) (o : Outline) : Outline :=
  { o.update id (·.launch o.options.poll first) with current := some id }

/-- An outline when the start in progress, if there is one, counts as done. -/
def settle (phase : StartPhase) (o : Outline) : Outline :=
  match phase with
  | .discard | .openUp | .refuse _ | .makeQueue _ => { o with state := .closed }
  | .forgetFailure id =>
    { o.launch .reader id with
      state := .opened
      outbox := some id
      liveLoops := if o.options.poll then 3 else 2
      failed := false }
  | .clear id | .count id =>
    { o.launch .reader id with
      state := .opened
      outbox := some id
      liveLoops := if o.options.poll then 3 else 2 }
  | .plug id => { o.launch .reader id with state := .opened, outbox := some id }
  | .accept id => { o.launch .reader id with state := .opened }
  | .launch first id => o.launch first id
  | .store id => { o with current := some id }
  | .enter | .check | .report | .leave _ | .done _ | .broken => o

/-- An outline with a start at a phase, as if the start were done. -/
def settled (phase : StartPhase) (o : Outline) : Outline :=
  { o.settle phase with locked := false, calls := o.calls.map Call.settled }

/-- The parts of an outline agree with the phase of a start. -/
structure Ready (phase : StartPhase) (o : Outline) : Prop where
  next : ∀ id, phase = .makeQueue id → id = o.sessions.length
  latest : ∀ first id, phase.due? = some (first, id) → id + 1 = o.sessions.length
  unborn : ∀ first id loop, phase.due? = some (first, id) → first.isDue loop →
    o.stageAt? ⟨id, loop⟩ = some .unborn

theorem ready_of_due?_eq_none {phase : StartPhase} {o : Outline} (none : phase.due? = none)
    (next : ∀ id, phase ≠ .makeQueue id) : o.Ready phase where
  next id at_phase := absurd at_phase (next id)
  latest first id due := by cases none.symm.trans due
  unborn first id loop due := by cases none.symm.trans due

/-- A start that is to begin the same loops of the same session is as ready. -/
theorem Ready.mono {phase phase' : StartPhase} {o o' : Outline} (ready : o.Ready phase)
    (due : phase'.due? = phase.due?) (next : ∀ id, phase' = .makeQueue id → phase = .makeQueue id)
    (sessions : o'.sessions = o.sessions) : o'.Ready phase' where
  next id at_phase := by
    rw [sessions]
    exact ready.next id (next id at_phase)
  latest first id is_due := by
    rw [sessions]
    exact ready.latest first id (due ▸ is_due)
  unborn first id loop is_due := by
    rw [stageAt?, sessions]
    exact ready.unborn first id loop (due ▸ is_due)

variable {o o' : Outline} {p : Place} {phase : StartPhase}

/-! ## Steps of the loops -/

/-- What a loop does not look at does not matter to its steps. -/
theorem LoopStep.frame (step : o.LoopStep p o') (current : Option Nat) (locked : Bool)
    (calls : List Call) :
    LoopStep p { o with current, locked, calls } { o' with current, locked, calls } := by
  cases step with
  | still => exact .still
  | work x event at_id at_stage traffic => exact .work x event at_id at_stage traffic
  | stop x stage at_id at_stage stops => exact .stop x stage at_id at_stage stops
  | mark x at_id at_stage => exact .mark x at_id at_stage
  | close x at_id at_stage => exact .close x at_id at_stage
  | unplug x at_id at_stage => exact .unplug x at_id at_stage
  | cancel x at_id at_stage => exact .cancel x at_id at_stage
  | release x at_id at_stage => exact .release x at_id at_stage
  | count x at_id at_stage => exact .count x at_id at_stage
  | judge x at_id at_stage => exact .judge x at_id at_stage
  | finish x at_id at_stage closing => exact .finish x at_id at_stage closing
  | pass x at_id at_stage closed => exact .pass x at_id at_stage closed
  | report x at_id at_stage => exact .report x at_id at_stage

theorem launch_update {first : Loop} {id i : Nat} {f : Standing → Standing}
    (apart : i = id → ∀ x, (f x).launch o.options.poll first = f (x.launch o.options.poll first)) :
    (o.update i f).launch first id = (o.launch first id).update i f := by
  have sessions : (o.sessions.modify i f).modify id (·.launch o.options.poll first) =
      (o.sessions.modify id (·.launch o.options.poll first)).modify i f := by
    by_cases own : i = id
    · subst own
      rw [List.modify_modify_eq, List.modify_modify_eq]
      exact congrArg (o.sessions.modify i) (funext fun x => apart rfl x)
    · exact List.modify_modify_ne _ _ _ own
  unfold launch update
  rw [sessions]

/-- A loop does not look at other loops, so they might be begun before it takes its step. -/
theorem LoopStep.launch {first : Loop} {id : Nat} (step : o.LoopStep p o')
    (begun : p.session = id → first.isDue p.loop = false) :
    LoopStep p (o.launch first id) (o'.launch first id) := by
  have at_launch {x : Standing} {stage : Stage} (at_id : o.sessions[p.session]? = some x)
      (at_stage : x.stage p.loop = stage) :
      ∃ y, (o.launch first id).sessions[p.session]? = some y ∧ y.stage p.loop = stage ∧
        y.cancelled = x.cancelled := by
    by_cases own : p.session = id
    · refine ⟨x.launch o.options.poll first, ?_, ?_, rfl⟩
      · show (o.sessions.modify id _)[p.session]? = _
        rw [List.getElem?_modify, at_id]
        exact congrArg some (if_pos own.symm)
      · rw [Standing.stage_launch x (begun own), at_stage]
    · refine ⟨x, ?_, at_stage, rfl⟩
      show (o.sessions.modify id _)[p.session]? = _
      rw [List.getElem?_modify, at_id]
      exact congrArg some (if_neg (Ne.symm own))
  have goTo (stage : Stage) :
      (o.goTo p stage).launch first id = (o.launch first id).goTo p stage :=
    launch_update fun own x => Standing.goTo_launch stage x (begun own)
  cases step with
  | still => exact .still
  | work x event at_id at_stage traffic =>
    obtain ⟨y, at_id, at_stage, -⟩ := at_launch at_id at_stage
    exact .work y event at_id at_stage traffic
  | stop x stage at_id at_stage stops =>
    obtain ⟨y, at_id, at_stage, cancelled⟩ := at_launch at_id at_stage
    rw [goTo]
    refine .stop y stage at_id at_stage ?_
    unfold Stops at stops ⊢
    rw [cancelled]
    exact stops
  | mark x at_id at_stage =>
    obtain ⟨y, at_id, at_stage, -⟩ := at_launch at_id at_stage
    show LoopStep p _ { (o.goTo p (.failing .close)).launch first id with
      failed := true
      faults := o.faults ++ [p.session] }
    rw [goTo]
    exact .mark y at_id at_stage
  | close x at_id at_stage =>
    obtain ⟨y, at_id, at_stage, -⟩ := at_launch at_id at_stage
    show LoopStep p _ { (o.goTo p (.failing .unplug)).launch first id with
      state := if o.state = .opened then .closing else o.state }
    rw [goTo]
    exact .close y at_id at_stage
  | unplug x at_id at_stage =>
    obtain ⟨y, at_id, at_stage, -⟩ := at_launch at_id at_stage
    show LoopStep p _ { (o.goTo p (.failing .cancel)).launch first id with outbox := none }
    rw [goTo]
    exact .unplug y at_id at_stage
  | cancel x at_id at_stage =>
    obtain ⟨y, at_id, at_stage, -⟩ := at_launch at_id at_stage
    rw [launch_update fun own x =>
      Standing.goTo_launch .ending { x with cancelled := true } (begun own)]
    exact .cancel y at_id at_stage
  | release x at_id at_stage =>
    obtain ⟨y, at_id, at_stage, -⟩ := at_launch at_id at_stage
    rw [launch_update fun own x => by
      rw [Standing.goTo_launch (.leaving .count) _ (begun own), Standing.drop_launch]]
    exact .release y at_id at_stage
  | count x at_id at_stage =>
    obtain ⟨y, at_id, at_stage, -⟩ := at_launch at_id at_stage
    show LoopStep p _ { (o.goTo p _).launch first id with liveLoops := o.liveLoops - 1 }
    rw [goTo]
    exact .count y at_id at_stage
  | judge x at_id at_stage =>
    obtain ⟨y, at_id, at_stage, -⟩ := at_launch at_id at_stage
    rw [goTo]
    exact .judge y at_id at_stage
  | finish x at_id at_stage closing =>
    obtain ⟨y, at_id, at_stage, -⟩ := at_launch at_id at_stage
    show LoopStep p _ { (o.goTo p (.leaving .report)).launch first id with state := .closed }
    rw [goTo]
    exact .finish y at_id at_stage closing
  | pass x at_id at_stage closed =>
    obtain ⟨y, at_id, at_stage, -⟩ := at_launch at_id at_stage
    rw [goTo]
    exact .pass y at_id at_stage closed
  | report x at_id at_stage =>
    obtain ⟨y, at_id, at_stage, -⟩ := at_launch at_id at_stage
    show LoopStep p _ { (o.goTo p .gone).launch first id with
      events := o.events ++ [.closed true] }
    rw [goTo]
    exact .report y at_id at_stage

/-- A loop that is idle can but tell. -/
theorem LoopStep.of_rest {f : Outline → Outline} (step : o.LoopStep p o')
    (idle : ∀ x, o.sessions[p.session]? = some x → (x.stage p.loop).isIdle)
    (report : ∀ x, o.sessions[p.session]? = some x → x.stage p.loop = .leaving .report →
      LoopStep p (f o) (f { o.goTo p .gone with events := o.events ++ [.closed true] })) :
    LoopStep p (f o) (f o') := by
  cases at_id : o.sessions[p.session]? with
  | none =>
    rw [step.of_absent at_id]
    exact .still
  | some x =>
    rcases step.of_idle at_id (idle x at_id) with same | ⟨at_stage, same⟩
    · rw [same]
      exact .still
    · rw [same]
      exact report x at_id at_stage

/-- A loop may be begun before the others. -/
theorem settled_goTo_launch (o : Outline) {first next loop : Loop} {id : Nat}
    (same : ∀ x : Standing, (x.goTo loop .running).launch o.options.poll next =
      x.launch o.options.poll first) :
    (o.update id (·.goTo loop .running)).settled (.launch next id) =
      o.settled (.launch first id) := by
  have both : (o.sessions.modify id (·.goTo loop .running)).modify id
      (·.launch o.options.poll next) = o.sessions.modify id (·.launch o.options.poll first) := by
    rw [List.modify_modify_eq]
    exact congrArg (o.sessions.modify id) (funext same)
  simp only [settled, settle, launch, update, both]

/-- The last loop is begun. -/
theorem settled_goTo_store (o : Outline) {first loop : Loop} {id : Nat}
    (same : ∀ x : Standing, x.goTo loop .running = x.launch o.options.poll first) :
    (o.update id (·.goTo loop .running)).settled (.store id) = o.settled (.launch first id) := by
  have both : o.sessions.modify id (·.goTo loop .running) =
      o.sessions.modify id (·.launch o.options.poll first) :=
    congrArg (o.sessions.modify id) (funext same)
  simp only [settled, settle, launch, update, both]

theorem settled_events (events : List LinkEvent) :
    Outline.settled phase { o with events } = { o.settled phase with events } := by
  cases phase <;> rfl

theorem settled_calls (calls : List Call) :
    Outline.settled phase { o with calls } =
      { o.settled phase with calls := calls.map Call.settled } := by
  cases phase <;> rfl

/-- What settling leaves as it is. -/
theorem settled_same (phase : StartPhase) (o : Outline) :
    (o.settled phase).options = o.options ∧ (o.settled phase).events = o.events ∧
      (o.settled phase).faults = o.faults ∧
        (o.settled phase).sessions.length = o.sessions.length := by
  cases phase with
  | forgetFailure | clear | count | plug | accept | launch =>
    exact ⟨rfl, rfl, rfl, List.length_modify ..⟩
  | _ => exact ⟨rfl, rfl, rfl, rfl⟩

theorem closings_settled (who : Option Nat) (phase phase' : StartPhase) (o o' : Outline) :
    (o.settled phase).closings who (o'.settled phase') = o.closings who o' := by
  rw [closings, closings, (settled_same phase o).2.1, (settled_same phase' o').2.1]

theorem session_settled {i : Nat} (apart : ∀ first id, phase.due? = some (first, id) → i ≠ id) :
    (o.settled phase).sessions[i]? = o.sessions[i]? := by
  have untouched {first : Loop} {id : Nat} (due : phase.due? = some (first, id)) :
      (o.launch first id).sessions[i]? = o.sessions[i]? := by
    show (o.sessions.modify id _)[i]? = _
    rw [List.getElem?_modify]
    cases o.sessions[i]? with
    | none => rfl
    | some x => exact congrArg some (if_neg (Ne.symm (apart first id due)))
  cases phase with
  | forgetFailure | clear | count | plug | accept | launch => exact untouched rfl
  | _ => rfl

theorem settled_goTo {first : Loop} {id : Nat} (due : phase.due? = some (first, id))
    (ne : p.session ≠ id) (stage : Stage) :
    (o.goTo p stage).settled phase = (o.settled phase).goTo p stage := by
  have launched (first : Loop) : (o.goTo p stage).launch first id =
      (o.launch first id).goTo p stage := launch_update fun own => absurd own ne
  cases phase with
  | forgetFailure | clear | count | plug | accept | launch =>
    cases due
    simp only [settled, settle, launched]
    rfl
  | _ => cases due

/-- What a loop does to an outline it does to the settled one. -/
theorem LoopStep.settled (step : o.LoopStep p o') (ready : o.Ready phase)
    (orderly : (o.settled phase).Orderly) : LoopStep p (o.settled phase) (o'.settled phase) := by
  have calls : o'.calls.map Call.settled = o.calls.map Call.settled := by
    rw [step.same.2.2]
  obtain ⟨-, events, -, length⟩ := settled_same phase o
  -- while the start makes its session, the loops of that session are unborn, and all others idle
  have making {id : Nat} (due : phase.due? = some (.reader, id)) :
      LoopStep p (o.settled phase) (o'.settled phase) := by
    by_cases own : p.session = id
    · subst own
      have unborn := ready.unborn .reader p.session p.loop due (by cases p.loop <;> rfl)
      rw [step.of_unborn unborn]
      exact .still
    · have session : (o.settled phase).sessions[p.session]? = o.sessions[p.session]? := by
        refine session_settled ?_
        rw [due]
        rintro _ _ ⟨⟩
        exact own
      refine step.of_rest (f := Outline.settled phase) (fun x at_id => ?_) fun x at_id at_stage => ?_
      · have bound := (List.getElem?_eq_some_iff.1 at_id).1
        have latest := ready.latest .reader id due
        exact (orderly.keeps _ x (session.trans at_id)).idle (.inl (by omega)) p.loop
      · have told : Outline.settled phase
            { o.goTo p .gone with events := o.events ++ [.closed true] } =
            { (o.settled phase).goTo p .gone with
              events := (o.settled phase).events ++ [.closed true] } :=
          (settled_events (o := o.goTo p .gone) _).trans (by rw [settled_goTo due own, events])
        rw [told]
        exact .report x (session.trans at_id) at_stage
  cases phase with
  | enter | check | report | leave | done | broken =>
    unfold Outline.settled
    rw [calls]
    have framed := step.frame o.current false (o.calls.map Call.settled)
    have same : { o' with
        current := o.current, locked := false, calls := o.calls.map Call.settled } =
        { o' with locked := false, calls := o.calls.map Call.settled } := by
      rw [← step.current]
    rwa [same] at framed
  | store id =>
    unfold Outline.settled
    rw [calls]
    exact step.frame (some id) false _
  | launch first id =>
    by_cases due : p.session = id ∧ first.isDue p.loop
    · obtain ⟨rfl, due⟩ := due
      rw [step.of_unborn (ready.unborn first p.session p.loop rfl due)]
      exact .still
    · unfold Outline.settled
      rw [calls]
      refine (step.launch fun own => ?_).frame (some id) false _
      rw [← Bool.not_eq_true]
      exact fun is_due => due ⟨own, is_due⟩
  | discard | openUp | refuse | makeQueue =>
    refine step.of_rest (f := Outline.settled _) (fun x at_id => ?_) fun x at_id at_stage => ?_
    · exact (orderly.keeps _ x at_id).idle (.inr (.inl rfl)) p.loop
    · exact .report x at_id at_stage
  | forgetFailure | clear | count | plug | accept => exact making rfl

/-! ## Steps of the starts -/

/-- What a step of the start in progress does to the settled outline. -/
inductive StartStep (o : Outline) : Outline → Prop
  | still : StartStep o o
  | discard (closed : o.state = .closed) : StartStep o { o with current := none }
  | open (closed : o.state = .closed) : StartStep o o.withSession
  | announce : StartStep o { o with events := o.events ++ [.opened] }

/-- A step of a start keeps an outline steady while no close has taken a session. -/
theorem Steady.startStep {forsaken : List Nat} {told : List (Option Nat)}
    (steady : o.Steady forsaken told) (free : ∀ c ∈ o.calls, ¬c.hasTaken) (step : o.StartStep o') :
    o'.Steady forsaken told := by
  cases step with
  | still => exact steady
  | discard closed => exact steady.discard closed free
  | «open» closed => exact steady.open closed free
  | announce => exact steady.announce _

theorem StartStep.closings (step : o.StartStep o') (who : Option Nat) :
    o.closings who o' = [] := by
  have events : o'.events = o.events ∨ o'.events = o.events ++ [.opened] := by
    cases step with
    | announce => exact .inr rfl
    | still | discard | «open» => exact .inl rfl
  rcases events with same | opened
  · exact closings_of_eq same
  · exact closings_of_concat opened

end Outline

theorem map_settled_set {calls : List Call} {number : Nat} {phase : StartPhase}
    (at_number : calls[number]? = some (.start phase)) (phase' : StartPhase) :
    (calls.set number (.start phase')).map Call.settled = calls.map Call.settled := by
  have at_settled : (calls.map Call.settled)[number]? = some (Call.start phase').settled := by
    rw [List.getElem?_map, at_number]
    rfl
  obtain ⟨bound, at_settled⟩ := List.getElem?_eq_some_iff.1 at_settled
  rw [List.map_set, ← at_settled, List.set_getElem_self]

namespace Link

variable {σ : Type} {calls : List Call} {faults : List Nat}

theorem outline_launch (loop : Loop) (id : Nat) (l : Link σ) :
    (l.launch loop id).outline calls faults =
      (l.outline calls faults).update id (·.goTo loop .running) := by
  refine l.outline_update fun s => ?_
  cases loop <;> rfl

/-- A start breaks off only if there is no queue with so much room. -/
theorem startStep_ne_broken (T : Transport σ) {phase : StartPhase} {l : Link σ}
    (fits : l.options.queueCapacity.toNat ≤ maxQueueCapacity) (whole : phase ≠ .broken) :
    (l.startStep T phase).1 ≠ .broken := by
  cases phase with
  | enter =>
    simp only [startStep]
    split <;> rintro ⟨⟩
  | check =>
    simp only [startStep]
    split
    · rintro ⟨⟩
    · cases l.options.validate <;> rintro ⟨⟩
  | openUp =>
    simp only [startStep]
    cases T.openWith l.options l.device <;> rintro ⟨⟩
  | makeQueue id =>
    rw [startStep, if_neg (Nat.not_lt.2 fits)]
    rintro ⟨⟩
  | launch loop id =>
    cases loop with
    | reader | poller => rintro ⟨⟩
    | writer => cases poll : l.options.poll <;> simp [startStep, afterLaunch, poll]
  | broken => exact absurd rfl whole
  | discard | refuse | forgetFailure | clear | count | plug | accept | store | report | leave
  | done => rintro ⟨⟩

theorem not_lt_of_makeQueue {T : Transport σ} {id : Nat} {l : Link σ}
    (unbroken : (l.startStep T (.makeQueue id)).1 ≠ .broken) :
    ¬maxQueueCapacity < l.options.queueCapacity.toNat := by
  intro large
  rw [startStep, if_pos large] at unbroken
  exact unbroken rfl

/-- What a step of a start does to the settled outline, unless the start breaks off. -/
theorem settled_startStep (T : Transport σ) {phase : StartPhase} {number : Nat} {l : Link σ}
    (at_number : calls[number]? = some (.start phase))
    (ready : (l.outline calls faults).Ready phase)
    (unbroken : (l.startStep T phase).1 ≠ .broken) :
    ((l.outline calls faults).settled phase).StartStep
      (((l.startStep T phase).2.outline (calls.set number (.start (l.startStep T phase).1))
        faults).settled (l.startStep T phase).1) := by
  have recalled {phase' : StartPhase} {l' : Link σ} :
      (l'.outline (calls.set number (.start phase')) faults).settled phase' =
        (l'.outline calls faults).settled phase' :=
    (Outline.settled_calls (o := l'.outline calls faults) _).trans
      (by rw [map_settled_set at_number phase']; rfl)
  rw [recalled]
  have still {o' : Outline} (same : o' = (l.outline calls faults).settled phase) :
      ((l.outline calls faults).settled phase).StartStep o' := by
    rw [same]
    exact .still
  cases phase with
  | enter =>
    simp only [startStep]
    split <;> exact .still
  | check =>
    simp only [startStep]
    split
    · exact .still
    · rename_i closed
      rw [ne_eq, Decidable.not_not] at closed
      cases l.options.validate with
      | error e => exact .still
      | ok =>
        refine still ?_
        simp only [Outline.settled, Outline.settle, outline, closed]
  | discard => exact .discard rfl
  | openUp =>
    simp only [startStep]
    cases T.openWith l.options l.device <;> exact .still
  | makeQueue id =>
    simp only [startStep]
    rw [if_neg (not_lt_of_makeQueue unbroken)]
    have next : id = (l.sessions.map Session.standing).length := ready.next id rfl
    have sessions :
        ((l.sessions ++ [({ } : Session)]).map Session.standing).modify id
            (·.launch l.options.poll .reader) =
          l.sessions.map Session.standing ++ [Outline.firstStanding l.options.poll] := by
      rw [List.map_append, next, ← Standing.launch_unborn]
      exact modify_concat _ _ _
    have opened :
        (outline calls faults { l with sessions := l.sessions ++ [{ }] }).settled
          (.forgetFailure id) = ((l.outline calls faults).settled (.makeQueue id)).withSession := by
      simp only [Outline.settled, Outline.settle, Outline.launch, Outline.update, outline,
        Outline.withSession, sessions, ← next]
      rfl
    rw [opened]
    exact .open rfl
  | launch loop id =>
    refine still ?_
    simp only [startStep, outline_launch]
    cases loop with
    | reader =>
      refine (l.outline calls faults).settled_goTo_launch fun x => ?_
      simp [Standing.launch, Standing.goTo]
    | writer =>
      cases poll : l.options.poll with
      | true =>
        rw [afterLaunch, poll, if_pos rfl]
        refine (l.outline calls faults).settled_goTo_launch fun x => ?_
        simp [Standing.launch, Standing.goTo, outline, poll]
      | false =>
        rw [afterLaunch, poll, if_neg (by decide)]
        refine (l.outline calls faults).settled_goTo_store fun x => ?_
        simp [Standing.launch, Standing.goTo, outline, poll]
    | poller =>
      refine (l.outline calls faults).settled_goTo_store fun x => ?_
      simp [Standing.launch, Standing.goTo]
  | report => exact .announce
  | refuse | forgetFailure | clear | count | plug | accept | store | leave | done | broken =>
    exact .still

/-- A loop that is still to be begun was to be begun before, and is not the one just begun. -/
theorem due_afterLaunch {l : Link σ} {loop first : Loop} {id id' : Nat}
    (due : (l.afterLaunch id loop).due? = some (first, id')) :
    id' = id ∧ ∀ other, first.isDue other → loop.isDue other ∧ other ≠ loop := by
  cases loop with
  | reader =>
    cases due
    exact ⟨rfl, by rintro ⟨⟩ <;> decide⟩
  | writer =>
    cases poll : l.options.poll with
    | true =>
      rw [afterLaunch, poll, if_pos rfl] at due
      cases due
      exact ⟨rfl, by rintro ⟨⟩ <;> decide⟩
    | false =>
      rw [afterLaunch, poll, if_neg (by decide)] at due
      cases due
  | poller => cases due

/-- A start stays ready unless it breaks off. -/
theorem ready_startStep (T : Transport σ) {phase : StartPhase} {l : Link σ}
    (ready : (l.outline calls faults).Ready phase) (calls' : List Call) (faults' : List Nat)
    (unbroken : (l.startStep T phase).1 ≠ .broken) :
    ((l.startStep T phase).2.outline calls' faults').Ready (l.startStep T phase).1 := by
  have none {phase' : StartPhase} {l' : Link σ} (due : phase'.due? = none)
      (next : ∀ id, phase' ≠ .makeQueue id) : (l'.outline calls' faults').Ready phase' :=
    Outline.ready_of_due?_eq_none due next
  cases phase with
  | enter =>
    simp only [startStep]
    split <;> exact none rfl (by rintro _ ⟨⟩)
  | check =>
    simp only [startStep]
    split
    · exact none rfl (by rintro _ ⟨⟩)
    · cases l.options.validate <;> exact none rfl (by rintro _ ⟨⟩)
  | openUp =>
    simp only [startStep]
    cases T.openWith l.options l.device with
    | error e => exact none rfl (by rintro _ ⟨⟩)
    | ok device =>
      refine ⟨?_, by rintro _ _ ⟨⟩, by rintro _ _ _ ⟨⟩⟩
      rintro _ ⟨⟩
      exact (List.length_map _).symm
  | makeQueue id =>
    have next : id = (l.sessions.map Session.standing).length := ready.next id rfl
    rw [List.length_map] at next
    simp only [startStep]
    rw [if_neg (not_lt_of_makeQueue unbroken)]
    refine ⟨by rintro _ ⟨⟩, ?_, ?_⟩
    · rintro _ _ ⟨⟩
      simp [outline, next]
    · rintro _ _ loop ⟨⟩ -
      have new : (l.sessions ++ [({ } : Session)])[id]? = some { } := by
        rw [next]
        exact List.getElem?_concat_length
      rw [Outline.stageAt?_of_at (standing_at (l := { l with sessions := _ }) new)]
      cases loop <;> rfl
  | launch loop id =>
    simp only [startStep, outline_launch]
    refine ⟨?_, ?_, ?_⟩
    · intro id' at_phase
      cases loop with
      | reader | poller => cases at_phase
      | writer => cases poll : l.options.poll <;> simp [afterLaunch, poll] at at_phase
    · intro first id' due
      obtain ⟨rfl, -⟩ := due_afterLaunch due
      rw [Outline.update, List.length_modify]
      exact ready.latest loop id' rfl
    · intro first id' other due is_due
      obtain ⟨rfl, before⟩ := due_afterLaunch due
      obtain ⟨was_due, ne⟩ := before other is_due
      have unborn := ready.unborn loop id' other rfl was_due
      rw [← unborn]
      refine Outline.stageAt?_update_of_ne (p := ⟨id', loop⟩) (fun same => ?_) fun x other ne => ?_
      · exact ne (congrArg Place.loop same)
      · rw [Standing.stage_goTo, if_neg ne]
  | forgetFailure | clear | count | plug | accept => exact ready.mono rfl (by rintro _ ⟨⟩) rfl
  | discard | refuse | store | report | leave | done | broken => exact none rfl (by rintro _ ⟨⟩)

end Link

end FieldLink

import FieldLink.Proofs.Link.Lifecycle

/-!
# Who tells that a session is over

A session is over when a loop or a close tells so, and gives its verdict: whether the session was
given up.  `Outline.Tidy` says that there is one teller at most, that the link is closed by then,
and that the verdict is right.  A step of a loop and a step of a call change what is told alike
(`LoopStep.tale`, `CallStep.tale`), and keep an orderly outline tidy (`Tidy.tale`).
-/

namespace FieldLink

/-- Who may tell that a session is over. -/
inductive Teller where
  | loop (place : Place)
  | call (number : Nat)
  deriving DecidableEq, Repr

/-- The verdict that a loop at this stage is about to give. -/
def Stage.verdict? : Stage → Option Bool
  | leaving .finish | leaving .report => some true
  | _ => none

/-- Whether a loop at this stage is about to tell. -/
def Stage.isTelling : Stage → Bool
  | leaving .report => true
  | _ => false

/-- The verdict that a close is about to give, or has found another to give. -/
def Call.verdict? : Call → Option Bool
  | close (.finish _ fatal) | close (.clear _ fatal _) | close (.report _ fatal) => some fatal
  | _ => none

/-- Whether a close is about to tell. -/
def Call.isTelling : Call → Bool
  | close (.clear _ _ changed) => changed
  | close (.report _ _) => true
  | _ => false

namespace Outline

/-- The verdict of a teller. -/
def verdict? (o : Outline) : Teller → Option Bool
  | .loop p => o.stageAt? p >>= Stage.verdict?
  | .call number => o.calls[number]? >>= Call.verdict?

/-- Whether a teller is about to tell. -/
def tells (o : Outline) : Teller → Bool
  | .loop p => (o.stageAt? p).any Stage.isTelling
  | .call number => o.calls[number]?.any Call.isTelling

/-- Who tells that the latest session is over, and what the verdict is. -/
structure Tidy (o : Outline) : Prop where
  faults : ∀ id ∈ o.faults, id < o.sessions.length
  failed : ∀ id, id + 1 = o.sessions.length → (o.failed = true ↔ id ∈ o.faults)
  judged : ∀ t fatal, o.verdict? t = some fatal → fatal = o.failed
  closed : ∀ t, o.tells t → o.state = .closed
  alone : ∀ t u, o.tells t → o.tells u → t = u

variable {o o' : Outline}

/-! ## Tales -/

/-- What a step does to the record of faults. -/
inductive Blame (o o' : Outline) : Prop
  | none (failed : o'.failed = o.failed) (faults : o'.faults = o.faults)
  | latest (id : Nat) (latest : id + 1 = o.sessions.length) (used : o.state ≠ .closed)
      (failed : o'.failed = true) (faults : o'.faults = o.faults ++ [id])
      (verdicts : ∀ t fatal, o'.verdict? t = some fatal → fatal = true)

/-- What a step of a teller does to the events. -/
inductive News (t : Teller) (o o' : Outline) : Prop
  | none (events : o'.events = o.events)
      (same : o'.state ≠ .closed ∨ o'.tells t ↔ o.state ≠ .closed ∨ o.tells t)
  | traffic (event : LinkEvent) (traffic : event.isTraffic)
      (events : o'.events = o.events ++ [event]) (used : o.state ≠ .closed)
      (same : o'.state = o.state)
  | ending (fatal : Bool) (verdict : o.verdict? t = some fatal) (tells : o.tells t)
      (events : o'.events = o.events ++ [.closed fatal]) (told : o'.tells t = false)
      (same : o'.state = o.state)

/-- What a step of a teller does to what is told. -/
structure Tale (t : Teller) (o o' : Outline) : Prop where
  length : o'.sessions.length = o.sessions.length
  started : o'.calls.countP Call.hasStarted = o.calls.countP Call.hasStarted
  others : ∀ u, u ≠ t → o'.tells u = o.tells u ∧ o'.verdict? u = o.verdict? u
  closed : o.state = .closed → o'.state = .closed
  verdict : ∀ fatal, o'.verdict? t = some fatal → o.verdict? t = some fatal ∨ fatal = o.failed
  tells : o'.tells t → o.tells t ∨ o.state ≠ .closed ∧ o'.state = .closed
  blame : o.Blame o'
  news : o.News t o'

theorem Tale.refl (t : Teller) (o : Outline) : o.Tale t o where
  length := rfl
  started := rfl
  others _ _ := ⟨rfl, rfl⟩
  closed h := h
  verdict _ h := .inl h
  tells h := .inl h
  blame := .none rfl rfl
  news := .none rfl .rfl

theorem Tale.faults_lt {t : Teller} (tale : o.Tale t o')
    (bound : ∀ id ∈ o.faults, id < o.sessions.length) :
    ∀ id ∈ o'.faults, id < o'.sessions.length := by
  intro id member
  rw [tale.length]
  cases tale.blame with
  | none failed faults => exact bound id (faults ▸ member)
  | latest last latest used failed faults verdicts =>
    rw [faults] at member
    rcases List.mem_append.1 member with old | new
    · exact bound id old
    · obtain rfl := List.mem_singleton.1 new
      omega

theorem Tale.failed_iff {t : Teller} (tale : o.Tale t o')
    (was : ∀ id, id + 1 = o.sessions.length → (o.failed = true ↔ id ∈ o.faults)) :
    ∀ id, id + 1 = o'.sessions.length → (o'.failed = true ↔ id ∈ o'.faults) := by
  intro id latest
  rw [tale.length] at latest
  cases tale.blame with
  | none failed faults =>
    rw [failed, faults]
    exact was id latest
  | latest last latest' used failed faults verdicts =>
    obtain rfl : id = last := by omega
    rw [failed, faults]
    simp

/-- The verdicts among some tellers stay right. -/
theorem Tale.judged {t : Teller} (among : Teller → Prop) (tale : o.Tale t o')
    (was : ∀ u fatal, among u → o.verdict? u = some fatal → fatal = o.failed) :
    ∀ u fatal, among u → o'.verdict? u = some fatal → fatal = o'.failed := by
  intro u fatal one verdict
  cases tale.blame with
  | none failed faults =>
    rw [failed]
    by_cases own : u = t
    · subst own
      rcases tale.verdict fatal verdict with old | now
      · exact was u fatal one old
      · exact now
    · rw [(tale.others u own).2] at verdict
      exact was u fatal one verdict
  | latest last latest used failed faults verdicts =>
    rw [failed]
    exact verdicts u fatal verdict

/-- Whoever tells finds the link closed. -/
theorem Tale.closed_of_tells {t : Teller} (tale : o.Tale t o')
    (closed : ∀ u, o.tells u → o.state = .closed) : ∀ u, o'.tells u → o'.state = .closed := by
  intro u tells
  by_cases own : u = t
  · subst own
    rcases tale.tells tells with was | ⟨-, now⟩
    · exact tale.closed (closed u was)
    · exact now
  · rw [(tale.others u own).1] at tells
    exact tale.closed (closed u tells)

/-- Whoever begins to tell finds the link not closed, so nobody else tells. -/
theorem Tale.alone {t : Teller} (tale : o.Tale t o') (closed : ∀ u, o.tells u → o.state = .closed)
    (alone : ∀ u v, o.tells u → o.tells v → u = v) : ∀ u v, o'.tells u → o'.tells v → u = v := by
  have was : ∀ u v, u ≠ t → o'.tells u → o'.tells v → u = v := by
    intro u v ne tells tells'
    rw [(tale.others u ne).1] at tells
    by_cases own : v = t
    · subst own
      rcases tale.tells tells' with was | ⟨used, -⟩
      · exact alone u v tells was
      · exact absurd (closed u tells) used
    · rw [(tale.others v own).1] at tells'
      exact alone u v tells tells'
  intro u v tells tells'
  by_cases own : u = t
  · by_cases own' : v = t
    · rw [own, own']
    · exact (was v u own' tells' tells).symm
  · exact was u v own tells tells'

/-- What is told stays tidy. -/
theorem Tidy.tale {t : Teller} (tidy : o.Tidy) (tale : o.Tale t o') : o'.Tidy := by
  refine ⟨tale.faults_lt tidy.faults, tale.failed_iff tidy.failed, ?_,
    tale.closed_of_tells tidy.closed, tale.alone tidy.closed tidy.alone⟩
  have judged := tale.judged (fun _ => True) fun u fatal _ => tidy.judged u fatal
  exact fun u fatal => judged u fatal trivial

/-! ## Steps of the loops -/

theorem LoopStep.length {p : Place} (step : o.LoopStep p o') :
    o'.sessions.length = o.sessions.length := by
  cases step with
  | still | work => rfl
  | _ => exact List.length_modify ..

/-- A loop that has come to a stage tells and judges as the stage says. -/
theorem tells_loop {p : Place} {stage : Stage} (at_p : o.stageAt? p = some stage) :
    o.tells (.loop p) = stage.isTelling ∧ o.verdict? (.loop p) = stage.verdict? := by
  simp [tells, verdict?, at_p]

theorem stageAt?_goTo {p : Place} {x : Standing} (stage : Stage)
    (at_id : o.sessions[p.session]? = some x) : (o.goTo p stage).stageAt? p = some stage := by
  rw [goTo, stageAt?_update_self at_id, Standing.stage_goTo, if_pos rfl]

theorem verdict_loop {p : Place} {fatal : Bool} (verdict : o.verdict? (.loop p) = some fatal) :
    fatal = true := by
  obtain ⟨stage, -, verdict⟩ := Option.bind_eq_some_iff.1 verdict
  revert verdict
  cases stage with
  | leaving phase => cases phase <;> simp [Stage.verdict?]
  | _ => rintro ⟨⟩

/-- The loops of the session have ended that a close gives its verdict on. -/
theorem Orderly.ended_of_verdict {number : Nat} {fatal : Bool} (orderly : o.Orderly)
    (verdict : o.verdict? (.call number) = some fatal) : o.Ended := by
  obtain ⟨c, at_number, verdict⟩ := Option.bind_eq_some_iff.1 verdict
  have fits := orderly.fits c (List.mem_of_getElem? at_number)
  cases c with
  | start | send | stopPolling => cases verdict
  | close phase =>
    cases phase with
    | finish => exact fits
    | clear | report => exact fits.2
    | _ => cases verdict

theorem LoopStep.others {p : Place} (step : o.LoopStep p o') (u : Teller) (ne : u ≠ .loop p) :
    o'.tells u = o.tells u ∧ o'.verdict? u = o.verdict? u := by
  cases u with
  | loop q =>
    have same := step.stageAt?_of_ne (q := q) fun h => ne (congrArg Teller.loop h)
    simp only [tells, verdict?, same, and_self]
  | call number =>
    obtain ⟨-, -, calls⟩ := step.same
    simp only [tells, verdict?, calls, and_self]

theorem LoopStep.state_of_closed {p : Place} (step : o.LoopStep p o') (closed : o.state = .closed) :
    o'.state = .closed := by
  cases step with
  | close =>
    show (if o.state = .opened then LinkState.closing else o.state) = .closed
    rw [closed]
    rfl
  | finish => rfl
  | _ => exact closed

/-- A loop that goes on from a stage that is not idle to one at which it does not tell. -/
theorem LoopStep.tale_of_busy {p : Place} {x : Standing} {old : Stage} (new : Stage)
    (orderly : o.Orderly) (step : o.LoopStep p o') (at_id : o.sessions[p.session]? = some x)
    (at_stage : x.stage p.loop = old) (busy : old.isIdle = false)
    (at_stage' : o'.stageAt? p = some new) (silent : new.isTelling = false)
    (verdict : ∀ fatal, new.verdict? = some fatal → fatal = o.failed) (same : o'.state ≠ .closed)
    (events : o'.events = o.events) (blame : o.Blame o') : o.Tale (.loop p) o' := by
  obtain ⟨-, awake⟩ := orderly.of_busy at_id at_stage busy
  have used : o.state ≠ .closed := fun h => awake (.inr (.inl h))
  obtain ⟨tells, verdicts⟩ := tells_loop at_stage'
  refine ⟨step.length, by rw [step.same.2.2], step.others, step.state_of_closed, ?_, ?_, blame, ?_⟩
  · intro fatal h
    exact .inr (verdict fatal (verdicts ▸ h))
  · intro h
    rw [tells, silent] at h
    cases h
  · exact .none events ⟨fun _ => .inl used, fun _ => .inl same⟩

theorem LoopStep.tale {p : Place} (orderly : o.Orderly) (step : o.LoopStep p o') :
    o.Tale (.loop p) o' := by
  have used : ∀ {x : Standing} {stage : Stage}, o.sessions[p.session]? = some x →
      x.stage p.loop = stage → stage.isIdle = false → o.state ≠ .closed :=
    fun at_id at_stage busy h => (orderly.of_busy at_id at_stage busy).2 (.inr (.inl h))
  have go := step
  cases step with
  | still => exact .refl _ _
  | work x event at_id at_stage traffic =>
    refine ⟨rfl, rfl, fun _ _ => ⟨rfl, rfl⟩, id, fun _ h => .inl h, .inl, .none rfl rfl, ?_⟩
    exact .traffic event traffic rfl (used at_id at_stage rfl) rfl
  | stop x stage at_id at_stage stops =>
    have at_stage' := stageAt?_goTo stage at_id
    rcases stops.cases with ⟨-, rfl⟩ | ⟨-, rfl, -⟩ | ⟨-, rfl⟩ | ⟨-, rfl⟩
    all_goals
      exact go.tale_of_busy _ orderly at_id at_stage rfl at_stage' rfl (by rintro _ ⟨⟩)
        (used at_id at_stage rfl) rfl (.none rfl rfl)
  | mark x at_id at_stage =>
    have at_stage' := stageAt?_goTo (.failing .close) at_id
    obtain ⟨latest, -⟩ := orderly.of_busy at_id at_stage rfl
    refine go.tale_of_busy _ orderly at_id at_stage rfl at_stage' rfl (by rintro _ ⟨⟩)
      (used at_id at_stage rfl) rfl ?_
    refine .latest p.session latest (used at_id at_stage rfl) rfl rfl fun t fatal verdict => ?_
    cases t with
    | loop q => exact verdict_loop verdict
    | call number =>
      -- a close that has a verdict has seen this loop end
      have finished := ((orderly.ended_of_verdict verdict).of_latest at_id latest).2
      rw [isOver_eq_false at_stage (by decide)] at finished
      cases finished
  | close x at_id at_stage =>
    refine go.tale_of_busy _ orderly at_id at_stage rfl (stageAt?_goTo (.failing .unplug) at_id) rfl
      (by rintro _ ⟨⟩) ?_ rfl (.none rfl rfl)
    show (if o.state = .opened then LinkState.closing else o.state) ≠ .closed
    split
    · decide
    · exact used at_id at_stage rfl
  | unplug x at_id at_stage =>
    exact go.tale_of_busy _ orderly at_id at_stage rfl (stageAt?_goTo (.failing .cancel) at_id) rfl
      (by rintro _ ⟨⟩) (used at_id at_stage rfl) rfl (.none rfl rfl)
  | cancel x at_id at_stage =>
    refine go.tale_of_busy .ending orderly at_id at_stage rfl ?_ rfl (by rintro _ ⟨⟩)
      (used at_id at_stage rfl) rfl (.none rfl rfl)
    rw [stageAt?_update_self at_id, Standing.stage_goTo, if_pos rfl]
  | release x at_id at_stage =>
    refine go.tale_of_busy (.leaving .count) orderly at_id at_stage rfl ?_ rfl
      (by rintro _ ⟨⟩) (used at_id at_stage rfl) rfl (.none rfl rfl)
    rw [stageAt?_update_self at_id, Standing.stage_goTo, if_pos rfl]
  | count x at_id at_stage =>
    refine go.tale_of_busy _ orderly at_id at_stage rfl (stageAt?_goTo _ at_id) ?_ ?_
      (used at_id at_stage rfl) rfl (.none rfl rfl)
    · split <;> rfl
    · intro fatal h
      split at h <;> cases h
  | judge x at_id at_stage =>
    refine go.tale_of_busy _ orderly at_id at_stage rfl (stageAt?_goTo _ at_id) ?_ ?_
      (used at_id at_stage rfl) rfl (.none rfl rfl)
    · split <;> rfl
    · intro fatal h
      by_cases failed : o.failed
      · rw [if_pos failed] at h
        exact (Option.some.inj h).symm.trans failed.symm
      · rw [if_neg failed] at h
        cases h
  | finish x at_id at_stage closing =>
    have before : o.stageAt? p = some (.leaving .finish) := by
      rw [stageAt?, at_id, Option.map_some, at_stage]
    have after := stageAt?_goTo (.leaving .report) at_id
    have used : o.state ≠ .closed := by
      rw [closing]
      decide
    refine ⟨go.length, rfl, go.others, fun _ => rfl, ?_, fun _ => .inr ⟨used, rfl⟩,
      .none rfl rfl, ?_⟩
    · intro fatal h
      rw [(tells_loop before).2]
      exact .inl ((tells_loop after).2.symm.trans h)
    · refine .none rfl ⟨fun _ => .inl used, fun _ => .inr ?_⟩
      exact (tells_loop after).1
  | pass x at_id at_stage closed =>
    exact go.tale_of_busy _ orderly at_id at_stage rfl (stageAt?_goTo .gone at_id) rfl
      (by rintro _ ⟨⟩) (used at_id at_stage rfl) rfl (.none rfl rfl)
  | report x at_id at_stage =>
    have before : o.stageAt? p = some (.leaving .report) := by
      rw [stageAt?, at_id, Option.map_some, at_stage]
    have after := stageAt?_goTo .gone at_id
    refine ⟨go.length, rfl, go.others, id, ?_, ?_, .none rfl rfl, ?_⟩
    · intro fatal h
      cases (tells_loop after).2.symm.trans h
    · intro h
      cases (tells_loop after).1.symm.trans h
    · exact .ending true (tells_loop before).2 (tells_loop before).1 rfl (tells_loop after).1 rfl

/-! ## Steps of the calls -/

theorem tells_call {number : Nat} {c : Call} (at_number : o.calls[number]? = some c) :
    o.tells (.call number) = c.isTelling ∧ o.verdict? (.call number) = c.verdict? := by
  simp [tells, verdict?, at_number]

theorem CallStep.length {number : Nat} (step : o.CallStep number o') :
    o'.sessions.length = o.sessions.length := by
  cases step with
  | still | plain => rfl
  | close phase phase' o' at_number step =>
    cases step with
    | cancel => exact List.length_modify ..
    | _ => rfl

theorem CallStep.others {number : Nat} (step : o.CallStep number o') (u : Teller)
    (ne : u ≠ .call number) : o'.tells u = o.tells u ∧ o'.verdict? u = o.verdict? u := by
  cases u with
  | loop q => simp only [tells, verdict?, step.stageAt?_eq q, and_self]
  | call i =>
    have same := step.calls_of_ne (i := i) fun h => ne (congrArg Teller.call h)
    simp only [tells, verdict?, same, and_self]

theorem CallStep.started {number : Nat} (step : o.CallStep number o') :
    o'.calls.countP Call.hasStarted = o.calls.countP Call.hasStarted := by
  cases step with
  | still => rfl
  | plain c c' at_number before after =>
    have never : ∀ {c : Call}, c.isPlain → c.hasStarted = false := by
      intro c plain
      cases c with
      | send | stopPolling => rfl
      | start | close => cases plain
    have counted := countP_set_add (p := Call.hasStarted) (b := c') at_number
    rw [never before, never after] at counted
    exact counted
  | close phase phase' o' at_number step => exact countP_set_add (p := Call.hasStarted) at_number

/-- A call that goes on and is as far from telling as before. -/
theorem CallStep.tale_of_eq {number : Nat} {c c' : Call} (step : o.CallStep number o')
    (at_number : o.calls[number]? = some c) (at_number' : o'.calls[number]? = some c')
    (tells : c'.isTelling = c.isTelling)
    (verdict : ∀ fatal, c'.verdict? = some fatal → c.verdict? = some fatal ∨ fatal = o.failed)
    (same : o'.state = .closed ↔ o.state = .closed) (failed : o'.failed = o.failed)
    (faults : o'.faults = o.faults) (events : o'.events = o.events) : o.Tale (.call number) o' := by
  obtain ⟨before, before'⟩ := tells_call at_number
  obtain ⟨after, after'⟩ := tells_call at_number'
  refine ⟨step.length, step.started, step.others, same.2, ?_, ?_, .none failed faults, ?_⟩
  · rw [before', after']
    exact verdict
  · rw [before, after, tells]
    exact .inl
  · refine .none events ?_
    rw [before, after, tells, ne_eq, same]

theorem CallStep.tale {number : Nat} (step : o.CallStep number o') : o.Tale (.call number) o' := by
  have go := step
  cases step with
  | still => exact .refl _ _
  | plain c c' at_number before after =>
    have bound := (List.getElem?_eq_some_iff.1 at_number).1
    have silent : ∀ {c : Call}, c.isPlain → c.isTelling = false ∧ c.verdict? = none := by
      intro c plain
      cases c with
      | send | stopPolling => exact ⟨rfl, rfl⟩
      | start | close => cases plain
    refine go.tale_of_eq at_number (List.getElem?_set_self bound)
      ((silent after).1.trans (silent before).1.symm) (fun fatal h => ?_) .rfl rfl rfl rfl
    rw [(silent after).2] at h
    cases h
  | close phase phase' o' at_number step =>
    have bound := (List.getElem?_eq_some_iff.1 at_number).1
    have at_number' : (o.calls.set number (.close phase'))[number]? = some (.close phase') :=
      List.getElem?_set_self bound
    cases step with
    | mark id =>
      refine go.tale_of_eq at_number at_number' rfl (by rintro _ ⟨⟩) ?_ rfl rfl rfl
      show (if o.state = .opened then LinkState.closing else o.state) = .closed ↔ o.state = .closed
      by_cases opened : o.state = .opened <;> simp [opened]
    | judge result =>
      refine go.tale_of_eq at_number at_number' rfl (fun fatal h => ?_) .rfl rfl rfl rfl
      exact .inr (Option.some.inj h).symm
    | finish result fatal =>
      by_cases closed : o.state = .closed
      · refine go.tale_of_eq at_number at_number' ?_ (fun _ h => .inl h) ?_ rfl rfl rfl
        · simp [Call.isTelling, closed]
        · exact ⟨fun _ => closed, fun _ => rfl⟩
      · have after := tells_call (o := { o with state := .closed, calls := _ }) at_number'
        have now : (Call.close (.clear result fatal (o.state ≠ .closed))).isTelling = true := by
          simp [Call.isTelling, closed]
        refine ⟨go.length, go.started, go.others, fun h => absurd h closed, ?_,
          fun _ => .inr ⟨closed, rfl⟩, .none rfl rfl, ?_⟩
        · intro fatal' h
          rw [(tells_call at_number).2]
          exact .inl (after.2.symm.trans h)
        · exact .none rfl ⟨fun _ => .inl closed, fun _ => .inr (after.1.trans now)⟩
    | report result fatal =>
      obtain ⟨before, before'⟩ := tells_call at_number
      have after := tells_call (o := { o with
        events := o.events ++ [.closed fatal]
        calls := _ }) at_number'
      refine ⟨go.length, go.started, go.others, id, ?_, ?_, .none rfl rfl, ?_⟩
      · intro fatal h
        cases after.2.symm.trans h
      · intro h
        cases after.1.symm.trans h
      · exact .ending fatal before' before rfl after.1 rfl
    | wait | clear =>
      exact go.tale_of_eq at_number at_number' rfl (fun _ h => .inl h) .rfl rfl rfl rfl
    | stopPolling | takeNone | take | unplug | cancel | join | skip =>
      exact go.tale_of_eq at_number at_number' rfl (by rintro _ ⟨⟩) .rfl rfl rfl rfl

/-- A call is made that has nothing to tell. -/
theorem Tale.make {c : Call} (o : Outline) (current : Option Nat) (tells : c.isTelling = false)
    (verdict : c.verdict? = none) (started : c.hasStarted = false) :
    o.Tale (.call o.calls.length) { o with current, calls := o.calls ++ [c] } := by
  have absent : o.calls[o.calls.length]? = none := List.getElem?_eq_none (Nat.le_refl _)
  obtain ⟨silent, undecided⟩ :=
    tells_call (o := { o with current, calls := o.calls ++ [c] }) List.getElem?_concat_length
  refine ⟨rfl, ?_, ?_, id, ?_, ?_, .none rfl rfl, ?_⟩
  · show (o.calls ++ [c]).countP Call.hasStarted = _
    rw [List.countP_append, List.countP_singleton, started]
    rfl
  · intro u ne
    cases u with
    | loop q => exact ⟨rfl, rfl⟩
    | call i =>
      have other : (o.calls ++ [c])[i]? = o.calls[i]? := by
        rcases Nat.lt_trichotomy i o.calls.length with before | rfl | beyond
        · exact List.getElem?_append_left before
        · exact absurd rfl ne
        · have length : (o.calls ++ [c]).length = o.calls.length + 1 := List.length_append
          rw [List.getElem?_eq_none (by omega), List.getElem?_eq_none (by omega)]
      simp only [Outline.tells, verdict?, other, and_self]
  · intro fatal h
    rw [undecided, verdict] at h
    cases h
  · intro h
    rw [silent, tells] at h
    cases h
  · refine .none rfl ?_
    rw [silent, tells, Outline.tells, absent]
    exact .rfl

/-! ## Starts -/

/-- While all is at rest, nobody is about to tell. -/
theorem Calm.silent (calm : o.Calm) (t : Teller) : o.tells t = false ∧ o.verdict? t = none := by
  cases t with
  | loop p =>
    cases at_p : o.stageAt? p with
    | none => simp [tells, verdict?, at_p]
    | some stage =>
      rw [(tells_loop at_p).1, (tells_loop at_p).2]
      have rest := calm.stages p stage at_p
      cases stage with
      | leaving => cases rest
      | _ => exact ⟨rfl, rfl⟩
  | call number =>
    cases at_number : o.calls[number]? with
    | none => simp [tells, verdict?, at_number]
    | some c =>
      rw [(tells_call at_number).1, (tells_call at_number).2]
      have rest := calm.calls number c at_number
      cases c with
      | start | send | stopPolling => exact ⟨rfl, rfl⟩
      | close phase =>
        cases phase with
        | join | done => exact ⟨rfl, rfl⟩
        | _ => cases rest

/-- A new session has no fault. -/
theorem Tidy.open (tidy : o.Tidy) (silent : ∀ t, o'.tells t = false ∧ o'.verdict? t = none)
    (length : o'.sessions.length = o.sessions.length + 1) (failed : o'.failed = false)
    (faults : o'.faults = o.faults) : o'.Tidy := by
  refine ⟨?_, ?_, ?_, ?_, ?_⟩
  · intro id member
    have bound := tidy.faults id (faults ▸ member)
    omega
  · intro id latest
    have new : id ∉ o.faults := by
      intro member
      have bound := tidy.faults id member
      omega
    simp [failed, faults, new]
  · intro t fatal verdict
    rw [(silent t).2] at verdict
    cases verdict
  · intro t tells
    rw [(silent t).1] at tells
    cases tells
  · intro t u tells
    rw [(silent t).1] at tells
    cases tells

end Outline

end FieldLink

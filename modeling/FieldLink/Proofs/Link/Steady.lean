import FieldLink.Proofs.Link.FailedSessions

/-!
# Steady outlines

What else keeps an outline steady: the steps of the calls (`Steady.callStep`), a call that is made,
the parts of a start, and a close that is given up while it awaits the loops.
-/

namespace FieldLink

/-- A call that has taken no session has no verdict and tells nothing. -/
theorem Call.verdict_of_not_hasTaken {c : Call} (free : ¬c.hasTaken) :
    c.verdict? = none ∧ c.isTelling = false := by
  cases c with
  | start | send | stopPolling => exact ⟨rfl, rfl⟩
  | close phase =>
    cases phase with
    | stopPolling | take | done => exact ⟨rfl, rfl⟩
    | _ => exact absurd rfl free

namespace Outline

variable {o o' : Outline} {forsaken forsaken' : List Nat} {told : List (Option Nat)}

/-! ## Steps of the calls -/

theorem CallStep.blameless {number : Nat} (step : o.CallStep number o') :
    o'.faults = o.faults ∧ o'.failed = o.failed := by
  cases step with
  | still | plain => exact ⟨rfl, rfl⟩
  | close phase phase' o' at_number step => cases step <;> exact ⟨rfl, rfl⟩

/-- A close takes the link to closed only when the loops of the latest session have ended. -/
theorem Orderly.ended_of_callStep {number : Nat} (orderly : o.Orderly) (step : o.CallStep number o')
    (used : o.state ≠ .closed) (closed : o'.state = .closed) : o.Ended := by
  cases step with
  | still | plain => exact absurd closed used
  | close phase phase' o' at_number step =>
    cases step with
    | finish => exact orderly.fits _ (List.mem_of_getElem? at_number)
    | mark =>
      replace closed : (if o.state = .opened then LinkState.closing else o.state) = .closed := closed
      split at closed
      · cases closed
      · exact absurd closed used
    | _ => exact absurd closed used

theorem Steady.fate_callStep {number id : Nat} {x x' : Standing} (steady : o.Steady forsaken told)
    (step : o.CallStep number o') (at_id : o.sessions[id]? = some x)
    (at_id' : o'.sessions[id]? = some x') : Fate told o' id x' := by
  have length := step.length
  have fate := steady.fates id x at_id
  refine fate.mono (fun loop => ?_) (by rw [step.blameless.1]) ?_ ?_ rfl
  · have same := step.stageAt?_eq ⟨id, loop⟩
    rw [stageAt?_of_at (p := ⟨id, loop⟩) at_id', stageAt?_of_at (p := ⟨id, loop⟩) at_id] at same
    exact Option.some.inj same
  · rintro (older | closed)
    · exact .inl (Nat.lt_of_lt_of_eq older length.symm)
    · exact .inr (step.tale.closed closed)
  · intro fault latest used left
    refine ⟨latest.trans length.symm, fun closed => ?_⟩
    have finished :=
      ((steady.orderly.ended_of_callStep step used closed).of_latest at_id latest).2
    obtain ⟨-, older | closed⟩ := fate.of_isOver fault finished (steady.poller_ne_broken at_id)
    · omega
    · exact used closed

/-- A close that comes to tell finds the session not given up. -/
theorem Steady.mild_callStep {number i : Nat} (steady : o.Steady forsaken told)
    (step : o.CallStep number o') (tells : o'.tells (.call i)) : o'.failed = false := by
  have tale := step.tale
  rw [step.blameless.2]
  by_cases own : i = number
  · subst own
    rcases tale.tells tells with was | ⟨used, closed⟩
    · exact steady.mild i was
    · by_contra failed
      rw [Bool.not_eq_false] at failed
      exact used (steady.closed_of_failed (steady.orderly.ended_of_callStep step used closed) failed)
  · rw [(tale.others (.call i) fun same => own (Teller.call.inj same)).1] at tells
    exact steady.mild i tells

/-- No call tells that a session was given up. -/
theorem Steady.closings_callStep {number : Nat} (steady : o.Steady forsaken told)
    (step : o.CallStep number o') (who : Option Nat) : o.closings who o' = [] := by
  cases step.tale.news with
  | none events => exact closings_of_eq events
  | traffic event traffic events =>
    rw [closings_of_concat events, isFatalEnd_of_isTraffic traffic, if_neg (by decide)]
  | ending fatal verdict tells events =>
    rw [closings_of_concat events, steady.judged number fatal verdict, steady.mild number tells]
    rfl

/-- A step of a call keeps an outline steady. -/
theorem Steady.callStep {number : Nat} (steady : o.Steady forsaken told)
    (step : o.CallStep number o') : o'.Steady forsaken told := by
  have tale := step.tale
  have length := step.length
  refine ⟨steady.orderly.callStep step, ?_, tale.faults_lt steady.faults,
    tale.failed_iff steady.failed, ?_, ?_, ?_, ?_, ?_, ?_, ?_, steady.silent⟩
  · intro none
    rw [← List.length_eq_zero_iff, length, List.length_eq_zero_iff] at none
    exact tale.closed (steady.empty none)
  · intro id h
    rw [length]
    exact steady.known id h
  · intro p
    rw [step.stageAt?_eq]
    exact steady.unbroken p
  · intro id stage at_poller
    rw [step.stageAt?_eq] at at_poller
    rw [step.same.1]
    exact steady.polls id stage at_poller
  · intro id latest
    rw [length] at latest
    refine (steady.custody id latest).callStep (fun other current => ?_) step
    have last := steady.orderly.current other current
    omega
  · intro id x' at_id'
    have bound := (List.getElem?_eq_some_iff.1 at_id').1
    exact steady.fate_callStep step (List.getElem?_eq_getElem (length ▸ bound)) at_id'
  · have judged := tale.judged (fun u => ∃ i, u = .call i)
      (by rintro _ fatal ⟨i, rfl⟩; exact steady.judged i fatal)
    exact fun i fatal => judged _ fatal ⟨i, rfl⟩
  · exact fun i tells => steady.mild_callStep step tells

/-! ## Changes of the calls -/

/-- The calls change, and the current session.  What a close tells was told by one before. -/
theorem Steady.regroup (current : Option Nat) {calls : List Call} (steady : o.Steady forsaken told)
    (orderly : Orderly { o with current, calls })
    (known : ∀ id, id ∈ forsaken' → id < o.sessions.length)
    (custody : ∀ id, id + 1 = o.sessions.length → Custody forsaken' id { o with current, calls })
    (kept : ∀ c ∈ calls, c ∈ o.calls ∨ ¬c.hasTaken) :
    Steady forsaken' told { o with current, calls } := by
  have old {number : Nat} {c : Call} (at_number : calls[number]? = some c)
      (taken : c.hasTaken) : ∃ i : Nat, o.calls[i]? = some c :=
    List.mem_iff_getElem?.1 ((kept c (List.mem_of_getElem? at_number)).resolve_right
      fun free => free taken)
  refine ⟨orderly, steady.empty, steady.faults, steady.failed, ?_, steady.unbroken, steady.polls,
    custody, ?_, ?_, ?_, steady.silent⟩
  · rintro id (member | given)
    · exact steady.known id (.inl member)
    · exact known id given
  · intro id x at_id
    exact (steady.fates id x at_id).mono (fun _ => rfl) .rfl (fun past => past)
      (fun _ latest used _ => ⟨latest, used⟩) rfl
  · intro number fatal verdict
    obtain ⟨c, at_number, given⟩ := Option.bind_eq_some_iff.1 verdict
    have taken : c.hasTaken := by
      by_contra free
      cases (Call.verdict_of_not_hasTaken free).1.symm.trans given
    obtain ⟨i, at_i⟩ := old at_number taken
    exact steady.judged i fatal ((tells_call at_i).2.trans given)
  · intro number tells
    cases at_number : calls[number]? with
    | none => simp [Outline.tells, at_number] at tells
    | some c =>
      rw [(tells_call (o := { o with current, calls }) at_number).1] at tells
      have taken : c.hasTaken := by
        by_contra free
        cases (Call.verdict_of_not_hasTaken free).2.symm.trans tells
      obtain ⟨i, at_i⟩ := old at_number taken
      exact steady.mild i ((tells_call at_i).1.trans tells)

/-- A call may be made that has taken no session. -/
theorem Steady.append {c : Call} (steady : o.Steady forsaken told) (fits : o.Fits c)
    (free : ¬c.hasTaken) : Steady forsaken told { o with calls := o.calls ++ [c] } := by
  refine steady.regroup o.current (steady.orderly.append fits)
    (fun id given => steady.known id (.inr given))
    (fun id latest => (steady.custody id latest).append free) fun c' member => ?_
  rcases List.mem_append.1 member with old | new
  · exact .inl old
  · obtain rfl := List.mem_singleton.1 new
    exact .inr free

/-- A close that awaits the loops may be given up. -/
theorem Steady.forsake {number id : Nat} (steady : o.Steady forsaken told)
    (at_number : o.calls[number]? = some (.close (.join id))) :
    Steady (forsaken ++ [id]) told { o with calls := o.calls.eraseIdx number } := by
  have last : id + 1 = o.sessions.length :=
    (steady.orderly.fits _ (List.mem_of_getElem? at_number)).1
  have orderly : Orderly { o with calls := o.calls.eraseIdx number } := by
    have orderly := steady.orderly
    refine orderly.shift rfl orderly.unlocked rfl (.inl rfl) (.inl rfl) (fun h => ⟨h, rfl⟩) ?_ ?_
      fun c member => orderly.fits c (List.mem_of_mem_eraseIdx member)
    · exact fun id x at_id _ h => (orderly.keeps id x at_id).idle (.inr h)
    · intro id x at_id latest h
      refine ((orderly.keeps id x at_id).halted latest h).imp_right fun h => h.imp_right ?_
      rintro ⟨c, member, halts⟩
      obtain ⟨i, at_i⟩ := List.mem_iff_getElem?.1 member
      refine ⟨c, List.mem_eraseIdx_iff_getElem?.2 ⟨i, ?_, at_i⟩, halts⟩
      rintro rfl
      obtain rfl := Option.some.inj (at_number.symm.trans at_i)
      cases halts
  refine steady.regroup o.current orderly ?_ ?_ fun c member => .inl (List.mem_of_mem_eraseIdx member)
  · intro other given
    rcases List.mem_append.1 given with was | new
    · exact steady.known other (.inr was)
    · obtain rfl := List.mem_singleton.1 new
      omega
  · intro other latest
    obtain rfl : other = id := by omega
    exact (steady.custody other latest).forsake at_number

/-! ## The parts of a start -/

/-- A start forgets the current session. -/
theorem Orderly.discard (orderly : o.Orderly) : Orderly { o with current := none } :=
  orderly.shift rfl orderly.unlocked rfl (.inr rfl) (.inl rfl) (fun h => ⟨h, rfl⟩)
    (fun id x at_id _ h => (orderly.keeps id x at_id).idle (.inr h))
    (fun id x at_id latest h => (orderly.keeps id x at_id).halted latest h) orderly.fits

/-- A start forgets the current session when the link is closed and no close has taken it. -/
theorem Steady.discard (steady : o.Steady forsaken told) (closed : o.state = .closed)
    (free : ∀ c ∈ o.calls, ¬c.hasTaken) : Steady forsaken told { o with current := none } :=
  steady.regroup none steady.orderly.discard (fun id given => steady.known id (.inr given))
    (fun id latest => (steady.custody id latest).discard closed free) fun _ member => .inl member

/-- A start tells that the link is open. -/
theorem Steady.announce (steady : o.Steady forsaken told) (events : List LinkEvent) :
    Steady forsaken told { o with events } := by
  refine ⟨steady.orderly.of_eq rfl, steady.empty, steady.faults, steady.failed, steady.known,
    steady.unbroken, steady.polls, ?_, ?_, steady.judged, steady.mild, steady.silent⟩
  · intro id latest
    exact (steady.custody id latest).blame rfl rfl (fun h => h) (fun h => h) (.inl rfl)
  · intro id x at_id
    exact (steady.fates id x at_id).mono (fun _ => rfl) .rfl (fun past => past)
      (fun _ latest used _ => ⟨latest, used⟩) rfl

/-- The outline when a start has opened a session. -/
def withSession (o : Outline) : Outline :=
  { o with
    state := .opened
    outbox := some o.sessions.length
    failed := false
    liveLoops := if o.options.poll then 3 else 2
    current := some o.sessions.length
    sessions := o.sessions ++ [firstStanding o.options.poll] }

theorem stageAt?_withSession {p : Place} {stage : Stage}
    (at_p : o.withSession.stageAt? p = some stage) :
    o.stageAt? p = some stage ∨
      p.session = o.sessions.length ∧ (firstStanding o.options.poll).stage p.loop = stage := by
  obtain ⟨x, at_id, at_stage⟩ := Option.map_eq_some_iff.1 at_p
  rcases getElem?_concat_cases at_id with old | ⟨new, rfl⟩
  · exact .inl ((stageAt?_of_at old).trans (congrArg some at_stage))
  · exact .inr ⟨new, at_stage⟩

/-- A start opens a session when the link is closed and no close has taken one. -/
theorem Steady.open (steady : o.Steady forsaken told) (closed : o.state = .closed)
    (free : ∀ c ∈ o.calls, ¬c.hasTaken) : o.withSession.Steady forsaken told := by
  have length : o.withSession.sessions.length = o.sessions.length + 1 := List.length_append
  have fresh_of {ids : List Nat} (bound : ∀ id ∈ ids, id < o.sessions.length) :
      o.sessions.length ∉ ids := fun member => Nat.lt_irrefl _ (bound _ member)
  refine ⟨?_, ?_, ?_, ?_, ?_, ?_, ?_, ?_, ?_, ?_, fun _ _ => rfl, steady.silent⟩
  · refine steady.orderly.open (fun o' c member => ?_) closed o.events o.options.poll
    exact fits_of_not_hasTaken (steady.orderly.fits c member) (free c member)
  · exact fun none => absurd none (List.concat_ne_nil _ _)
  · intro id fault
    rw [length]
    exact Nat.lt_succ_of_lt (steady.faults id fault)
  · intro id latest
    obtain rfl : id = o.sessions.length := by omega
    exact ⟨by rintro ⟨⟩, fun fault => absurd fault (fresh_of steady.faults)⟩
  · intro id member
    rw [length]
    exact Nat.lt_succ_of_lt (steady.known id member)
  · intro p broken
    rcases stageAt?_withSession broken with old | ⟨-, new⟩
    · exact steady.unbroken p old
    · rcases stage_firstStanding o.options.poll p.loop with h | ⟨-, h⟩ <;> cases h.symm.trans new
  · intro id stage at_poller
    rcases stageAt?_withSession at_poller with old | ⟨-, rfl⟩
    · exact steady.polls id stage old
    · show (if o.options.poll then Stage.running else .unborn) = .unborn ∨ o.options.poll
      by_cases poll : o.options.poll
      · exact .inr poll
      · exact .inl (if_neg poll)
  · intro id latest
    obtain rfl : id = o.sessions.length := by omega
    refine .kept rfl free (fresh_of fun id given => steady.known id (.inr given)) ?_
    exact fun used => absurd rfl used
  · intro id x at_id
    rcases getElem?_concat_cases at_id with old | ⟨rfl, rfl⟩
    · have bound := (List.getElem?_eq_some_iff.1 old).1
      refine (steady.fates id x old).mono (fun _ => rfl) .rfl (fun _ => .inl (by omega)) ?_ rfl
      exact fun _ _ used => absurd closed used
    · refine .whole (fresh_of steady.faults) (fun member => ?_) fun loop => ?_
      · exact Nat.lt_irrefl _ (steady.known _ (.inl member))
      · rcases stage_firstStanding o.options.poll loop with h | ⟨-, h⟩ <;> rw [h] <;> rfl
  · intro number fatal verdict
    obtain ⟨c, at_number, given⟩ := Option.bind_eq_some_iff.1 verdict
    have none := (Call.verdict_of_not_hasTaken (free c (List.mem_of_getElem? at_number))).1
    cases none.symm.trans given

/-- An outline without sessions is steady. -/
theorem steady_of_empty (orderly : o.Orderly) (closed : o.state = .closed) (none : o.sessions = [])
    (faults : o.faults = []) (calls : o.calls = []) : o.Steady [] [] := by
  have no_session (id : Nat) : o.sessions[id]? = Option.none := by
    rw [none]
    rfl
  have no_call (number : Nat) : o.calls[number]? = Option.none := by
    rw [calls]
    rfl
  have no_stage (p : Place) : o.stageAt? p = Option.none := by
    rw [stageAt?, no_session]
    rfl
  refine ⟨orderly, fun _ => closed, ?_, ?_, ?_, ?_, ?_, ?_, ?_, ?_, ?_, List.not_mem_nil⟩
  · rw [faults]
    exact fun _ member => absurd member List.not_mem_nil
  · intro id latest
    rw [none] at latest
    cases latest
  · rintro id (member | given)
    · cases member
    · cases given
  · intro p broken
    cases (no_stage p).symm.trans broken
  · intro id stage at_poller
    cases (no_stage _).symm.trans at_poller
  · intro id latest
    rw [none] at latest
    cases latest
  · intro id x at_id
    cases (no_session id).symm.trans at_id
  · intro number fatal verdict
    simp [verdict?, no_call] at verdict
  · intro number telling
    simp [tells, no_call] at telling

end Outline

end FieldLink

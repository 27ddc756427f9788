import FieldLink.Proofs.Link.Crowd

/-!
# A start in progress

One start at most holds on to the current session, and between two of its steps the loops and the
other calls take theirs.  A scene is poised with that start at a phase if the settled outline is
orderly (`Scene.Poised`).  So it stays when a loop or a call takes a step, as long as a start waits
for the closes that have taken a session and none breaks off.
-/

namespace FieldLink

/-! ## Settled stages -/

theorem Standing.stage_launch_cases (poll : Bool) (first loop : Loop) (x : Standing) :
    (x.launch poll first).stage loop = x.stage loop ∨
      (x.launch poll first).stage loop = .running ∧ first.isDue loop := by
  cases due : first.isDue loop with
  | false => exact .inl (stage_launch x due)
  | true =>
    cases loop with
    | reader =>
      have reader : first = .reader := by simpa [Loop.isDue] using due
      exact .inr ⟨if_pos reader, rfl⟩
    | writer =>
      have writer : first ≠ .poller := by simpa [Loop.isDue] using due
      exact .inr ⟨if_pos writer, rfl⟩
    | poller =>
      by_cases begun : poll ∨ first = .poller
      · exact .inr ⟨if_pos begun, rfl⟩
      · exact .inl (if_neg begun)

namespace Outline

variable {o : Outline} {phase : StartPhase}

/-- A loop stands where it does, unless a start is still to begin it. -/
theorem stageAt?_settled (p : Place) :
    (o.settled phase).stageAt? p = o.stageAt? p ∨
      (o.settled phase).stageAt? p = some .running ∧
        ∃ first, phase.due? = some (first, p.session) ∧ first.isDue p.loop := by
  have launched (first : Loop) (id : Nat) :
      (o.launch first id).stageAt? p = o.stageAt? p ∨
        (o.launch first id).stageAt? p = some .running ∧ id = p.session ∧ first.isDue p.loop := by
    have stage := stageAt?_update (o := o) id (·.launch o.options.poll first) p
    replace stage : (o.launch first id).stageAt? p = _ := stage
    rw [stage, stageAt?]
    cases o.sessions[p.session]? with
    | none => exact .inl rfl
    | some x =>
      by_cases own : id = p.session
      · rw [Option.map_some, Option.map_some, if_pos own]
        refine (x.stage_launch_cases o.options.poll first p.loop).imp (congrArg some) ?_
        exact fun h => ⟨congrArg some h.1, own, h.2⟩
      · rw [Option.map_some, Option.map_some, if_neg own]
        exact .inl rfl
  have of_due {first : Loop} {id : Nat} (due : phase.due? = some (first, id))
      (settled : (o.settled phase).stageAt? p = (o.launch first id).stageAt? p) :
      (o.settled phase).stageAt? p = o.stageAt? p ∨
        (o.settled phase).stageAt? p = some .running ∧
          ∃ first, phase.due? = some (first, p.session) ∧ first.isDue p.loop := by
    rw [settled]
    refine (launched first id).imp_right ?_
    rintro ⟨running, rfl, is_due⟩
    exact ⟨running, first, due, is_due⟩
  cases phase with
  | forgetFailure | clear | count | plug | accept | launch => exact of_due rfl rfl
  | _ => exact .inl rfl

/-- A loop that was begun stands where it does. -/
theorem Ready.stageAt?_settled {p : Place} {stage : Stage} (ready : o.Ready phase)
    (at_p : o.stageAt? p = some stage) (begun : stage ≠ .unborn) :
    (o.settled phase).stageAt? p = some stage := by
  rcases Outline.stageAt?_settled p with same | ⟨-, first, due, is_due⟩
  · rw [same, at_p]
  · have unborn := ready.unborn first p.session p.loop due is_due
    exact absurd (Option.some.inj (at_p.symm.trans unborn)) begun

theorem Ready.of_unborn {o' : Outline} (ready : o.Ready phase)
    (length : o'.sessions.length = o.sessions.length)
    (unborn : ∀ p, o.stageAt? p = some .unborn → o'.stageAt? p = some .unborn) :
    o'.Ready phase where
  next id at_phase := by
    rw [length]
    exact ready.next id at_phase
  latest first id due := by
    rw [length]
    exact ready.latest first id due
  unborn first id loop due is_due := unborn _ (ready.unborn first id loop due is_due)

/-! ## Settled calls -/

theorem call_settled {number : Nat} {c : Call} (at_number : o.calls[number]? = some c) :
    (o.settled phase).calls[number]? = some c.settled := by
  show (o.calls.map Call.settled)[number]? = _
  rw [List.getElem?_map, at_number]
  rfl

theorem CloseStep.frame {o o' : Outline} {old new : ClosePhase} (step : o.CloseStep old new o')
    (locked : Bool) (calls : List Call) :
    CloseStep { o with locked, calls } old new { o' with locked, calls } := by
  cases step with
  | wait => exact .wait _
  | stopPolling => exact .stopPolling
  | takeNone none => exact .takeNone none
  | take id current => exact .take id current
  | mark id => exact .mark id
  | unplug id => exact .unplug id
  | cancel id => exact .cancel id
  | join id x result at_id finished => exact .join id x result at_id finished
  | judge result => exact .judge result
  | finish result fatal => exact .finish result fatal
  | clear result fatal => exact .clear result fatal
  | skip result fatal => exact .skip result fatal
  | report result fatal => exact .report result fatal

/-- What a call does to an outline it does to the settled one, as a close waits while a start holds
on to the current session. -/
theorem Held.callStep {number : Nat} {o' : Outline} (held : o.Held phase)
    (step : o.CallStep number o')
    (waits : o.locked → ∀ old, o.calls[number]? = some (.close old) → o' = o) :
    (o.settled phase).CallStep number (o'.settled phase) := by
  have settled_of_isPlain {c : Call} (plain : c.isPlain) : c.settled = c := by
    cases c with
    | start => cases plain
    | _ => rfl
  cases step with
  | still => exact .still
  | plain c c' at_number before after =>
    rw [settled_calls (o.calls.set number c'), List.map_set, settled_of_isPlain after]
    refine .plain c c' ?_ before after
    rw [call_settled at_number, settled_of_isPlain before]
  | close old new o' at_number step =>
    cases held with
    | free unlocked =>
      have framed := step.frame false (o.calls.map Call.settled)
      have next := CallStep.close (o := o.settled .enter) old new _ (call_settled at_number) framed
      rw [settled_calls (o.calls.set number (.close new)), List.map_set]
      exact next
    | held i phase locked =>
      rw [waits locked old at_number]
      exact .still

end Outline

/-- A close that has not taken a session waits while a start holds on to the current one. -/
theorem Link.closeStep_of_locked {σ : Type} {phase : ClosePhase} {l : Link σ} (locked : l.locked)
    (free : ¬(Call.close phase).hasTaken) : l.closeStep phase = (phase, l) := by
  cases phase with
  | stopPolling | take => rw [closeStep, if_pos locked]
  | done => rfl
  | _ => exact absurd rfl free

/-- A call that waits changes nothing. -/
theorem Scene.act_call_of_fixed {σ : Type} {T : Transport σ} {s : Scene σ} {number : Nat} {d : Call}
    (at_number : s.calls[number]? = some d) (fixed : d.step T s.link = (d, s.link))
    (silent : d.notes s.link = []) : s.act T (.call number) = s := by
  rw [act_call T at_number, fixed, silent, Link.eventNotes_self]
  show (⟨s.link, s.calls.set number d, s.notes ++ []⟩ : Scene σ) = s
  obtain ⟨bound, at_number⟩ := List.getElem?_eq_some_iff.1 at_number
  rw [← at_number, List.set_getElem_self, List.append_nil]

/-- A start that gets hold of the current session, or holds on to it, goes on to do so or has
returned. -/
theorem Link.locked_startStep {σ : Type} (T : Transport σ) {old : StartPhase} {l : Link σ}
    (enters : old.isInside ∧ l.locked ∨ old = .enter ∧ l.locked = false)
    (unbroken : (l.startStep T old).1 ≠ .broken) :
    (l.startStep T old).2.locked = (l.startStep T old).1.isInside ∧
      ((l.startStep T old).1.isInside = false →
        ∃ result, (l.startStep T old).1 = .done result) := by
  rcases enters with ⟨inside, locked⟩ | ⟨rfl, unlocked⟩
  · cases old with
    | enter | done | broken => cases inside
    | check =>
      simp only [startStep]
      split
      · exact ⟨locked, by rintro ⟨⟩⟩
      · cases l.options.validate <;> exact ⟨locked, by rintro ⟨⟩⟩
    | openUp =>
      simp only [startStep]
      cases T.openWith l.options l.device <;> exact ⟨locked, by rintro ⟨⟩⟩
    | makeQueue id =>
      rw [startStep, if_neg (not_lt_of_makeQueue unbroken)]
      exact ⟨locked, by rintro ⟨⟩⟩
    | launch loop id =>
      have inside : (l.afterLaunch id loop).isInside := by
        cases loop with
        | reader | poller => rfl
        | writer => cases poll : l.options.poll <;> simp [afterLaunch, poll, StartPhase.isInside]
      refine ⟨Eq.trans locked inside.symm, fun outside => ?_⟩
      cases outside.symm.trans inside
    | leave result => exact ⟨rfl, fun _ => ⟨result, rfl⟩⟩
    | discard | refuse | forgetFailure | clear | count | plug | accept | store | report =>
      exact ⟨locked, by rintro ⟨⟩⟩
  · rw [startStep, if_neg (by rw [unlocked]; decide)]
    exact ⟨rfl, by rintro ⟨⟩⟩

namespace Outline

variable {o o' : Outline}

/-- A step of a start keeps an outline orderly while no close has taken a session. -/
theorem Orderly.startStep (orderly : o.Orderly) (free : ∀ c ∈ o.calls, ¬c.hasTaken)
    (step : o.StartStep o') : o'.Orderly := by
  cases step with
  | still => exact orderly
  | discard closed => exact orderly.discard
  | «open» closed =>
    refine orderly.open (fun o' c member => ?_) closed o.events o.options.poll
    exact fits_of_not_hasTaken (orderly.fits c member) (free c member)
  | announce => exact orderly.of_eq rfl

end Outline

namespace Scene

variable {σ : Type} {T : Transport σ} {s : Scene σ} {phase : StartPhase}

/-- The settled outline is orderly, with a start at a phase. -/
structure Poised (s : Scene σ) (phase : StartPhase) : Prop where
  held : s.outline.Held phase
  ready : s.outline.Ready phase
  orderly : (s.outline.settled phase).Orderly

namespace Poised

theorem fresh (options : LinkOptions) (device : σ) (now : Nat) :
    (Scene.fresh options device now).Poised .enter where
  held := .free rfl (by rintro _ ⟨⟩)
  ready := Outline.ready_of_due?_eq_none rfl (by rintro _ ⟨⟩)
  orderly := orderly_fresh options device now

/-- What a loop does it does to the settled outline. -/
theorem loopStep (poised : s.Poised phase) (T : Transport σ) (p : Place) :
    (s.outline.settled phase).LoopStep p ((s.act T (.loop p)).outline.settled phase) :=
  (s.loopStep_act T p).settled poised.ready poised.orderly

/-- A loop takes a step. -/
theorem loop (poised : s.Poised phase) (T : Transport σ) (p : Place) :
    (s.act T (.loop p)).Poised phase := by
  have step := s.loopStep_act T p
  obtain ⟨-, locked, calls⟩ := step.same
  refine ⟨poised.held.of_eq locked calls, ?_, poised.orderly.loopStep (poised.loopStep T p)⟩
  refine poised.ready.of_unborn step.length fun q unborn => ?_
  by_cases own : q = p
  · subst own
    rw [step.of_unborn unborn]
    exact unborn
  · rw [step.stageAt?_of_ne own]
    exact unborn

/-- A call that has taken a session is not locked out. -/
theorem free_of_locked (poised : s.Poised phase) (locked : s.link.locked) {d : Call}
    (member : d ∈ s.calls) : ¬d.hasTaken := by
  cases poised.held with
  | free unlocked => cases unlocked.symm.trans locked
  | held _ _ _ _ _ _ apart => exact apart d member

/-- What a call does that is not a start it does to the settled outline. -/
theorem callStep (poised : s.Poised phase) (T : Transport σ) {number : Nat} {d : Call}
    (at_number : s.calls[number]? = some d) (other : ∀ old, d ≠ .start old) :
    (s.outline.settled phase).CallStep number
      ((s.act T (.call number)).outline.settled phase) := by
  have step := s.callStep_act T number fun old at_start => absurd
    (Option.some.inj (at_number.symm.trans at_start)) (other old)
  refine poised.held.callStep step fun locked old at_close => ?_
  obtain rfl := Option.some.inj (at_number.symm.trans at_close)
  have free := poised.free_of_locked locked (List.mem_of_getElem? at_number)
  have fixed : (Call.close old).step T s.link = (.close old, s.link) := by
    rw [Call.step, Link.closeStep_of_locked locked free]
  rw [act_call_of_fixed at_number fixed rfl]

/-- A call takes a step that is not a start. -/
theorem call (poised : s.Poised phase) (T : Transport σ) {number : Nat} {d : Call}
    (at_number : s.calls[number]? = some d) (other : ∀ old, d ≠ .start old) :
    (s.act T (.call number)).Poised phase := by
  have step := s.callStep_act T number fun old at_start => absurd
    (Option.some.inj (at_number.symm.trans at_start)) (other old)
  have calls : (s.act T (.call number)).calls = s.calls.set number (d.step T s.link).1 := by
    rw [act_call T at_number]
  have outside {e : Call} (not_start : ∀ old, e ≠ .start old) : e.isInside = false := by
    cases e with
    | start old => exact absurd rfl (not_start old)
    | _ => rfl
  have other' (new : StartPhase) : (d.step T s.link).1 ≠ .start new := by
    intro is_start
    obtain ⟨old, was⟩ := isStart_step T s.link is_start
    exact other old was
  refine ⟨?_, ?_, poised.orderly.callStep (poised.callStep T at_number other)⟩
  · refine poised.held.set at_number (outside other) (outside other') (fun locked => ?_) step.same.2
      calls
    have free := poised.free_of_locked locked (List.mem_of_getElem? at_number)
    cases d with
    | start old => exact absurd rfl (other old)
    | send => rintro ⟨⟩
    | stopPolling returned =>
      cases returned with
      | true => rintro ⟨⟩
      | false =>
        replace locked : s.link.locked := locked
        rw [Call.step, if_pos locked]
        rintro ⟨⟩
    | close old =>
      rw [Call.step, Link.closeStep_of_locked locked free]
      exact free
  · exact poised.ready.of_unborn step.length fun p unborn => (step.stageAt?_eq p).trans unborn

/-- A start takes a step that gets hold of the current session or holds on to it. -/
theorem start_inside {number : Nat} {old : StartPhase} (poised : s.Poised old)
    (at_number : s.calls[number]? = some (.start old))
    (unbroken : (s.link.startStep T old).1 ≠ .broken)
    (enters : old.isInside ∧ s.link.locked ∨ old = .enter ∧ s.link.locked = false)
    (untaken : ∀ d ∈ s.calls, ¬d.hasTaken) :
    ∃ phase', (s.act T (.call number)).Poised phase' ∧
      (s.outline.settled old).StartStep ((s.act T (.call number)).outline.settled phase') := by
  obtain ⟨locked, returns⟩ := Link.locked_startStep T enters unbroken
  have acted := outline_act_start T at_number
  have settled := Link.settled_startStep T at_number poised.ready unbroken
  have ready := Link.ready_startStep T poised.ready
    (s.calls.set number (.start (s.link.startStep T old).1))
    (s.notes.filterMap Note.fault?) unbroken
  rw [← acted] at settled ready
  have orderly := poised.orderly.startStep (forall_mem_settled.2 untaken) settled
  have calls : (s.act T (.call number)).outline.calls =
      s.calls.set number (.start (s.link.startStep T old).1) :=
    congrArg Outline.calls acted
  have held := poised.held.start at_number (enters.imp And.left And.right) untaken calls
    ((congrArg Outline.locked acted).trans locked)
  obtain ⟨new, new_eq⟩ : ∃ new, (s.link.startStep T old).1 = new := ⟨_, rfl⟩
  rw [new_eq] at returns ready held orderly settled
  by_cases inside : new.isInside
  · rw [if_pos inside] at held
    exact ⟨new, ⟨held, ready, orderly⟩, settled⟩
  · rw [if_neg inside] at held
    rw [Bool.not_eq_true] at inside
    obtain ⟨result, rfl⟩ := returns inside
    exact ⟨.enter, ⟨held, Outline.ready_of_due?_eq_none rfl (by rintro _ ⟨⟩), orderly⟩, settled⟩

/-- A start waits, or takes a step while no close has taken a session. -/
theorem start (poised : s.Poised phase) {number : Nat} {old : StartPhase}
    (at_number : s.calls[number]? = some (.start old))
    (unbroken : (s.link.startStep T old).1 ≠ .broken)
    (apart : old = .enter → ∀ d ∈ s.calls, ¬d.hasTaken) :
    s.act T (.call number) = s ∨ (∀ d ∈ s.calls, ¬d.hasTaken) ∧
      ∃ phase', (s.act T (.call number)).Poised phase' ∧
        (s.outline.settled phase).StartStep ((s.act T (.call number)).outline.settled phase') := by
  have waits (fixed : s.link.startStep T old = (old, s.link)) : s.act T (.call number) = s :=
    act_call_of_fixed at_number (by rw [Call.step, fixed]) rfl
  cases poised.held with
  | free unlocked none =>
    have outside := none _ (List.mem_of_getElem? at_number)
    cases old with
    | enter =>
      have untaken := apart rfl
      exact .inr ⟨untaken, poised.start_inside at_number unbroken (.inr ⟨rfl, unlocked⟩) untaken⟩
    | done | broken => exact .inl (waits rfl)
    | _ => cases outside
  | held i phase locked at_i inside alone untaken =>
    by_cases own : number = i
    · subst own
      obtain rfl := Call.start.inj (Option.some.inj (at_number.symm.trans at_i))
      exact .inr ⟨untaken, poised.start_inside at_number unbroken (.inl ⟨inside, locked⟩) untaken⟩
    · have outside := alone number _ own at_number
      cases old with
      | enter => exact .inl (waits (if_pos locked))
      | done | broken => exact .inl (waits rfl)
      | _ => cases outside

/-- A call is made. -/
theorem make (poised : s.Poised phase) (T : Transport σ) (request : Request) :
    (s.act T (.make request)).Poised phase := by
  have free : ¬request.call.hasTaken := by cases request <;> rintro ⟨⟩
  have fits (o : Outline) : o.Fits request.call.settled := by
    cases request with
    | start => exact rfl
    | send | stopPolling | close => trivial
  refine ⟨poised.held.append ?_ free, poised.ready.mono rfl (fun _ h => h) rfl, ?_⟩
  · cases request <;> rfl
  · show (Outline.settled phase { s.outline with
      calls := s.outline.calls ++ [request.call] }).Orderly
    rw [Outline.settled_calls, List.map_append]
    exact poised.orderly.append (fits _)

end Poised

end Scene

end FieldLink

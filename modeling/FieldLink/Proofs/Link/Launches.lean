import FieldLink.Proofs.Link.Phases

/-!
# Loops begin once and leave for good

A start that has made a session and has not begun one of its loops yet finds that loop unborn
(`Scene.Unlaunched`).  So a loop that has come any further is not begun again, and one that leaves
takes so many steps at most (`LeavePhase.stepsLeft`).
-/

namespace FieldLink

theorem ReaderPhase.eq_unborn {phase : ReaderPhase} (unborn : phase.stage = .unborn) :
    phase = .unborn := by
  cases phase <;> first | rfl | cases unborn

theorem WriterPhase.eq_unborn {phase : WriterPhase} (unborn : phase.stage = .unborn) :
    phase = .unborn := by
  cases phase <;> first | rfl | cases unborn

theorem PollerPhase.eq_unborn {phase : PollerPhase} (unborn : phase.stage = .unborn) :
    phase = .unborn := by
  cases phase <;> first | rfl | cases unborn

namespace StartPhase

/-- The session that a start has made and of which it has not begun the loop yet. -/
def unlaunched? (loop : Loop) : StartPhase → Option Nat
  | forgetFailure id | clear id | count id | plug id | accept id | launch .reader id => some id
  | launch .writer id => if loop = .reader then none else some id
  | launch .poller id => if loop = .poller then some id else none
  | _ => none

variable {phase : StartPhase} {loop : Loop} {id : Nat}

theorem isInside_of_unlaunched? (unlaunched : phase.unlaunched? loop = some id) :
    phase.isInside := by
  cases phase <;> first | rfl | cases unlaunched

theorem unlaunched?_launch (loop : Loop) (id : Nat) :
    (launch loop id).unlaunched? loop = some id := by
  cases loop <;> rfl

theorem unlaunched?_startStep {σ : Type} {T : Transport σ} {l : Link σ}
    (unlaunched : (l.startStep T phase).1.unlaunched? loop = some id) :
    phase = .makeQueue id ∨ phase.unlaunched? loop = some id ∧ phase ≠ .launch loop id := by
  cases phase with
  | launch begun k =>
    cases begun with
    | reader =>
      cases loop with
      | reader => cases unlaunched
      | writer | poller => exact .inr ⟨unlaunched, by rintro ⟨⟩⟩
    | writer =>
      simp only [Link.startStep, Link.afterLaunch] at unlaunched
      split at unlaunched
      · cases loop with
        | reader | writer => cases unlaunched
        | poller => exact .inr ⟨unlaunched, by rintro ⟨⟩⟩
      · cases unlaunched
    | poller => cases unlaunched
  | makeQueue k =>
    simp only [Link.startStep] at unlaunched
    split at unlaunched
    · cases unlaunched
    · cases unlaunched
      exact .inl rfl
  | enter | openUp | check =>
    simp only [Link.startStep] at unlaunched
    repeat' split at unlaunched
    all_goals cases unlaunched
  | forgetFailure | clear | count | plug | accept => exact .inr ⟨unlaunched, by rintro ⟨⟩⟩
  | discard | refuse | store | report | leave | done | broken => cases unlaunched

end StartPhase

/-- Whether an action is a step of a loop. -/
def Action.isStepOf {σ : Type} (p : Place) : Action σ → Bool
  | loop q => q = p
  | _ => false

theorem Action.isStepOf_self {σ : Type} (p : Place) : (loop p : Action σ).isStepOf p :=
  decide_eq_true rfl

theorem Action.isStepOf_of_ne {σ : Type} {p : Place} {a : Action σ} (ne : a ≠ .loop p) :
    ¬a.isStepOf p := by
  cases a with
  | loop q => exact fun same => ne (congrArg loop (of_decide_eq_true same))
  | call | make | device | clock | command | callback => exact Bool.false_ne_true

/-- How many steps a loop takes at most that leaves. -/
def LeavePhase.stepsLeft : LeavePhase → Nat
  | count => 4
  | judge => 3
  | finish => 2
  | report => 1

theorem Link.stepsLeft_leaveStep {σ : Type} {l : Link σ} {phase next : LeavePhase}
    (goes : (l.leaveStep phase).1 = some next) : next.stepsLeft + 1 = phase.stepsLeft := by
  cases phase with
  | count | judge | finish =>
    simp only [leaveStep] at goes
    split at goes <;> cases goes
    rfl
  | report => cases goes

namespace Scene

variable {σ : Type} {T : Transport σ} {s : Scene σ} {loop : Loop} {id : Nat} {x : Session}

/-- A start that has not begun a loop of its session finds it unborn. -/
def Unlaunched (loop : Loop) (s : Scene σ) : Prop :=
  ∀ (number : Nat) (phase : StartPhase) (id : Nat), s.calls[number]? = some (.start phase) →
    phase.unlaunched? loop = some id →
      ∃ x, s.link.sessions[id]? = some x ∧ x.standing.stage loop = .unborn

/-- A loop that is begun was not begun before. -/
theorem Unlaunched.begins (unlaunched : s.Unlaunched loop) {a : Action σ}
    (begins : s.Begins a loop id) (at_id : s.link.sessions[id]? = some x) :
    x.standing.stage loop = .unborn := by
  obtain ⟨number, -, at_number⟩ := begins
  obtain ⟨y, at_y, unborn⟩ := unlaunched number _ id at_number (StartPhase.unlaunched?_launch loop id)
  rwa [Option.some.inj (at_id.symm.trans at_y)]

/-- An unborn loop stays so until a start begins it. -/
theorem unborn_act (T : Transport σ) (at_id : s.link.sessions[id]? = some x)
    (unborn : x.standing.stage loop = .unborn) {a : Action σ} (unbegun : ¬s.Begins a loop id) :
    ∃ x', (s.act T a).link.sessions[id]? = some x' ∧ x'.standing.stage loop = .unborn := by
  obtain ⟨x', at_id', passes⟩ := passes_act T a at_id
  refine ⟨x', at_id', ?_⟩
  cases loop with
  | reader =>
    have unborn : x.reader.stage = .unborn := unborn
    show x'.reader.stage = .unborn
    by_cases own : a = .loop ⟨id, .reader⟩
    · rw [passes.reader own, Link.readerNext]
      rw [ReaderPhase.eq_unborn unborn]
      rfl
    · rw [(passes.reader_of_ne own).resolve_right fun h => unbegun h.1, unborn]
  | writer =>
    have unborn : x.writer.stage = .unborn := unborn
    show x'.writer.stage = .unborn
    by_cases own : a = .loop ⟨id, .writer⟩
    · rw [passes.writer own, Link.writerNext]
      rw [WriterPhase.eq_unborn unborn]
      rfl
    · rw [(passes.writer_of_ne own).resolve_right fun h => unbegun h.1, unborn]
  | poller =>
    have unborn : x.poller.stage = .unborn := unborn
    show x'.poller.stage = .unborn
    by_cases own : a = .loop ⟨id, .poller⟩
    · rw [passes.poller own, Link.pollerNext]
      rw [PollerPhase.eq_unborn unborn]
      rfl
    · rw [(passes.poller_of_ne own).resolve_right fun h => unbegun h.1, unborn]

theorem unlaunched_act (T : Transport σ) (starts : StartsApart s) (unlaunched : s.Unlaunched loop)
    (a : Action σ) : (s.act T a).Unlaunched loop := by
  intro number phase id at_number waits
  -- a start that was there before has its session to itself
  have kept (old : s.calls[number]? = some (.start phase)) (other : a ≠ .call number) :
      ∃ x, (s.act T a).link.sessions[id]? = some x ∧ x.standing.stage loop = .unborn := by
    obtain ⟨x, at_id, unborn⟩ := unlaunched number phase id old waits
    refine unborn_act T at_id unborn ?_
    rintro ⟨n, rfl, at_n⟩
    have same := starts.alone n number _ _ at_n old rfl (StartPhase.isInside_of_unlaunched? waits)
    exact other (by rw [same])
  cases a with
  | call n =>
    cases at_n : s.calls[n]? with
    | none =>
      refine kept ?_ ?_
      · simpa only [act, at_n] using at_number
      · rintro ⟨⟩
        simp only [act, at_n] at at_number
        cases at_number
    | some c =>
      rw [act_call T at_n] at at_number
      by_cases own : n = number
      · subst own
        have bound := (List.getElem?_eq_some_iff.1 at_n).1
        rw [List.getElem?_set_self bound] at at_number
        replace at_number := Option.some.inj at_number
        obtain ⟨before, rfl⟩ := isStart_step T s.link at_number
        obtain rfl : (s.link.startStep T before).1 = phase := Call.start.inj at_number
        rcases StartPhase.unlaunched?_startStep waits with rfl | ⟨waited, other⟩
        · have next := starts.next n id at_n
          simp only [Link.startStep] at waits
          split at waits
          · cases waits
          · rename_i room
            refine ⟨{ }, ?_, by cases loop <;> rfl⟩
            rw [act_call T at_n, next, Link.shelves, List.length_map]
            simp [Call.step, Link.startStep, room]
        · obtain ⟨x, at_id, unborn⟩ := unlaunched n before id at_n waited
          refine unborn_act T at_id unborn ?_
          rintro ⟨m, same, at_m⟩
          cases same
          exact other (Call.start.inj (Option.some.inj (at_n.symm.trans at_m)))
      · rw [List.getElem?_set_ne own] at at_number
        exact kept at_number fun same => own (by cases same; rfl)
  | make request =>
    rcases getElem?_concat_cases at_number with old | ⟨-, new⟩
    · exact kept old (by rintro ⟨⟩)
    · cases request with
      | start =>
        obtain rfl : phase = .enter := Call.start.inj new
        cases waits
      | send | stopPolling | close => cases new
  | loop | device | clock | command | callback => exact kept at_number (by rintro ⟨⟩)

theorem unlaunched_run (T : Transport σ) (loop : Loop) (options : LinkOptions) (device : σ)
    (now : Nat) (actions : List (Action σ)) :
    ((fresh options device now).run T actions).Unlaunched loop := by
  have both := run_of_act (T := T) (fun s => StartsApart s ∧ s.Unlaunched loop)
    (fun s a ⟨starts, unlaunched⟩ =>
      ⟨startsApart_act T starts a, unlaunched_act T starts unlaunched a⟩)
    actions (s := fresh options device now)
    ⟨(kept_fresh options device now).starts, by rintro number phase id ⟨⟩⟩
  exact both.2

end Scene

end FieldLink

import FieldLink.Proofs.Link.Endings
import FieldLink.Proofs.Link.LetGoRuns
import FieldLink.Proofs.Options.Validation

/-!
# Refused starts

A start that is made while no other call is in progress is refused because the link is not closed,
because its options are not valid, or because its transport cannot be opened, in this order.  What
happens after it happens as if it had not been made (`Scene.run_withCall`), with one exception.  A
start whose transport cannot be opened lets go of the session that the link may still hold from a
fault (`Scene.let_go`).  `Scene.start_settled` puts this together, and `Scene.refused_start_told`
shows that there is a difference.
-/

namespace FieldLink

/-- The action with the calls counted from one before the call `number`. -/
def Action.past {σ : Type} (number : Nat) : Action σ → Action σ
  | call k => call (if k < number then k else k + 1)
  | a => a

namespace Scene

variable {σ : Type} {T : Transport σ} {s : Scene σ} {d number : Nat}

/-! ## A call that makes no difference -/

/-- The scene with one more call, before the call `number`. -/
def withCall (number : Nat) (c : Call) (s : Scene σ) : Scene σ :=
  { s with calls := s.calls.insertIdx number c }

theorem act_withCall (T : Transport σ) (c : Call) (bound : number ≤ s.calls.length)
    (a : Action σ) :
    (s.withCall number c).act T (a.past number) = (s.act T a).withCall number c := by
  cases a with
  | loop | device | clock | command | callback => rfl
  | make request =>
    simp only [Action.past, act, withCall, insertIdx_concat c _ bound]
  | call k =>
    have same : (s.withCall number c).calls[if k < number then k else k + 1]? = s.calls[k]? :=
      getElem?_insertIdx_past s.calls number c k
    simp only [Action.past]
    cases at_k : s.calls[k]? with
    | none =>
      simp only [act, at_k, same.trans at_k]
    | some c' =>
      rw [act_call T at_k, act_call T (same.trans at_k)]
      simp only [withCall, set_insertIdx k bound]

theorem length_calls_act (T : Transport σ) (a : Action σ) (s : Scene σ) :
    s.calls.length ≤ (s.act T a).calls.length := by
  cases a with
  | call k =>
    cases at_k : s.calls[k]? with
    | none => simp only [act, at_k, Nat.le_refl]
    | some c =>
      rw [act_call T at_k]
      exact Nat.le_of_eq List.length_set.symm
  | make request => simp only [act, List.length_append, Nat.le_add_right]
  | loop | device | clock | command | callback => exact Nat.le_refl _

/-- A call that takes no steps makes no difference to a run, but that it is there. -/
theorem run_withCall (T : Transport σ) (c : Call) (bound : number ≤ s.calls.length)
    (actions : List (Action σ)) :
    (s.withCall number c).run T (actions.map (Action.past number)) =
      (s.run T actions).withCall number c := by
  induction actions generalizing s with
  | nil => rfl
  | cons a actions ih =>
    show ((s.withCall number c).act T (a.past number)).run T (actions.map (Action.past number)) = _
    rw [act_withCall T c bound a]
    exact ih (Nat.le_trans bound (length_calls_act T a s))

/-! ## Starts that are refused -/

/-- A start that does not hold on to the current session after a step has let it go, or waits. -/
theorem Link.locked_startStep (T : Transport σ) (phase : StartPhase) (l : Link σ) :
    (l.startStep T phase).1.isInside ∨ (l.startStep T phase).2.locked = false ∨
      l.startStep T phase = (phase, l) := by
  cases phase with
  | enter =>
    simp only [Link.startStep]
    split
    · exact .inr (.inr rfl)
    · exact .inl rfl
  | check =>
    simp only [Link.startStep]
    split
    · exact .inl rfl
    · cases l.options.validate <;> exact .inl rfl
  | openUp =>
    simp only [Link.startStep]
    cases T.openWith l.options l.device <;> exact .inl rfl
  | makeQueue id =>
    simp only [Link.startStep]
    split
    · exact .inr (.inl rfl)
    · exact .inl rfl
  | launch loop id =>
    cases loop with
    | reader | poller => exact .inl rfl
    | writer =>
      simp only [Link.startStep, Link.afterLaunch]
      split <;> exact .inl rfl
  | leave result => exact .inr (.inl rfl)
  | done | broken => exact .inr (.inr rfl)
  | discard | refuse | forgetFailure | clear | count | plug | accept | store | report =>
    exact .inl rfl

/-- A start holds on to the current session of a link that is locked. -/
def Locked (s : Scene σ) : Prop :=
  s.link.locked → ∃ (number : Nat) (phase : StartPhase),
    s.calls[number]? = some (.start phase) ∧ phase.isInside

theorem locked_act (T : Transport σ) (held : s.Locked) (a : Action σ) : (s.act T a).Locked := by
  intro locked
  cases a with
  | loop p =>
    have same : (s.act T (.loop p)).link.locked = s.link.locked := (s.loopStep_act T p).same.2.1
    exact held (same ▸ locked)
  | call number =>
    cases at_number : s.calls[number]? with
    | none =>
      simp only [act, at_number] at locked ⊢
      exact held locked
    | some c =>
      have bound := (List.getElem?_eq_some_iff.1 at_number).1
      by_cases is_start : ∃ phase, c = .start phase
      · obtain ⟨phase, rfl⟩ := is_start
        rw [act_call T at_number] at locked ⊢
        rcases Link.locked_startStep T phase s.link with inside | unlocked | stays
        · exact ⟨number, _, List.getElem?_set_self bound, inside⟩
        · cases unlocked.symm.trans locked
        · have same : (Call.start phase).step T s.link = (.start phase, s.link) := by
            simp only [Call.step, stays]
          rw [same] at locked ⊢
          obtain ⟨k, phase', at_k, inside⟩ := held locked
          refine ⟨k, phase', ?_, inside⟩
          rw [← (List.getElem?_eq_some_iff.1 at_number).2, List.set_getElem_self]
          exact at_k
      · have same := (s.callStep_act T number fun phase h => by
          rw [at_number] at h
          exact absurd ⟨phase, Option.some.inj h⟩ is_start).same.2
        replace same : (s.act T (.call number)).link.locked = s.link.locked := same
        obtain ⟨k, phase, at_k, inside⟩ := held (same ▸ locked)
        refine ⟨k, phase, ?_, inside⟩
        rw [act_call T at_number, List.getElem?_set_ne]
        · exact at_k
        · rintro rfl
          exact is_start ⟨phase, Option.some.inj (at_number.symm.trans at_k)⟩
  | make request =>
    obtain ⟨k, phase, at_k, inside⟩ := held locked
    have bound := (List.getElem?_eq_some_iff.1 at_k).1
    exact ⟨k, phase, (List.getElem?_append_left bound).trans at_k, inside⟩
  | device | clock | command | callback => exact held locked

/-- Nothing holds on to the current session when all calls are over. -/
theorem unlocked_run (T : Transport σ) (options : LinkOptions) (device : σ) (now : Nat)
    (actions : List (Action σ))
    (free : ∀ c ∈ ((fresh options device now).run T actions).calls, c.isOver) :
    ((fresh options device now).run T actions).link.locked = false := by
  have held : ((fresh options device now).run T actions).Locked :=
    run_of_act Locked (fun _ a held => locked_act T held a) actions (by rintro ⟨⟩)
  by_contra locked
  rw [Bool.not_eq_false] at locked
  obtain ⟨number, phase, at_number, inside⟩ := held locked
  have finished := free _ (List.mem_of_getElem? at_number)
  cases phase <;> first | (cases inside; done) | cases finished

/-! ## Sessions that are let go -/

/-- A closed link is dormant once its session's poller is cancelled by itself, if no call is about
to cancel the session. -/
theorem dormant_of_orderly {o : Outline} (orderly : o.Orderly)
    (sessions : o.sessions = s.outline.sessions) (state : o.state = .closed)
    (outbox : o.outbox = s.link.outbox) (current : o.current = some d)
    (free : ∀ c ∈ o.calls, ¬c.isHalting) : (s.link.hush d).Dormant d := by
  have latest := orderly.current d current
  obtain ⟨y, at_d⟩ : ∃ y, o.sessions[d]? = some y := ⟨_, List.getElem?_eq_getElem (by omega)⟩
  have idle {id : Nat} {x : Standing} (at_id : o.sessions[id]? = some x) :
      ∀ loop, (x.stage loop).isIdle :=
    (orderly.keeps id x at_id).idle (.inr (.inl state))
  have cancelled : y.cancelled := by
    rcases (orderly.keeps d _ at_d).halted latest (by rw [state]; decide) with
      h | ⟨loop, halting⟩ | ⟨c, member, h⟩
    · exact h
    · have idle := idle at_d loop
      revert halting idle
      cases y.stage loop <;> simp [Stage.isHalting, Stage.isIdle]
    · exact absurd h (free c member)
  have standing {id : Nat} {x : Session} (at_id : (s.link.hush d).sessions[id]? = some x) :
      o.sessions[id]? = some x.standing := by
    rw [sessions]
    cases at_id' : s.link.sessions[id]? with
    | none => cases (Link.session_hush_of_none at_id').symm.trans at_id
    | some y =>
      obtain ⟨hushed, at_hushed⟩ := Link.session_hush (d := d) at_id'
      have at_y : s.outline.sessions[id]? = some y.standing := standing_at at_id'
      rw [Option.some.inj (at_id.symm.trans at_hushed)]
      exact at_y
  refine ⟨?_, fun id x at_id => idle (standing at_id), ?_⟩
  · cases plugged : s.link.outbox with
    | none => exact plugged
    | some id =>
      have last := orderly.outbox id (outbox.trans plugged)
      obtain rfl : id = d := by omega
      exact absurd (outbox.trans plugged) ((orderly.keeps id _ at_d).unplugged (.inl cancelled))
  · rw [sessions] at at_d
    obtain ⟨x, at_x, same⟩ := Link.session_at at_d
    refine ⟨_, Link.session_update at_x, ?_, rfl⟩
    rw [← same] at cancelled
    exact cancelled

/-- The link is used with care: no start was made while a close was in progress.  Either every start
ran without interruption, or the queue can be made and the polls can be set. -/
def Careful (T : Transport σ) (options : LinkOptions) (device : σ) (now : Nat) (s : Scene σ) :
    Prop :=
  (∃ ready, Relation.ReflTransGen (Move T ready) (fresh options device now) s) ∨
    ∃ forsaken, Relation.ReflTransGen (Crowd.Move T) ⟨fresh options device now, []⟩ ⟨s, forsaken⟩

theorem not_isHalting_of_isOver {c : Call} (finished : c.isOver) : ¬c.isHalting := by
  cases c with
  | start | send | stopPolling => rintro ⟨⟩
  | close phase => cases phase <;> first | (rintro ⟨⟩; done) | cases finished

/-- A link that was used with care is dormant when it is closed and all calls are over. -/
theorem Careful.dormant {options : LinkOptions} {device : σ} {now : Nat}
    (careful : s.Careful T options device now) (unlocked : s.link.locked = false)
    (free : ∀ c ∈ s.calls, c.isOver) (closed : s.link.state = .closed)
    (current : s.link.current = some d) : (s.link.hush d).Dormant d := by
  rcases careful with ⟨ready, moves⟩ | ⟨forsaken, moves⟩
  · exact dormant_of_orderly ((orderly_fresh options device now).moves moves) rfl closed rfl current
      fun c member => not_isHalting_of_isOver (free c member)
  · obtain ⟨phase, steady⟩ := Crowd.steady_of_moves moves
    obtain rfl := steady.phase_of_unlocked unlocked
    refine dormant_of_orderly steady.steady.orderly rfl closed rfl current ?_
    exact List.forall_mem_map.2 fun c member halts => by
      cases c with
      | start => cases halts
      | send | stopPolling | close => exact not_isHalting_of_isOver (free _ member) halts

/-- A dormant link casts its shadow on the one that lets go of its session. -/
theorem shadow_of_dormant {T : Transport σ} (starts : StartsApart s)
    (free : ∀ c ∈ s.calls, c.isOver) (closed : s.link.state = .closed)
    (current : s.link.current = some d)
    (dormant : (s.link.hush d).Dormant d) {u t t' : Scene σ} {more : List (Action σ)}
    (turns : s.oneByOne T more) (bare : { s with link := { s.link with current := none } } = u)
    (at_t : s.run T more = t) (at_t' : u.run T more = t') :
    (t.hush d).Shadow s.calls d s.link.sending (t'.hush d) ∧ t.Retired d ∧ t'.Retired d := by
  have idle : ∃ x, s.link.sessions[d]? = some x ∧ x.poller.stage.isIdle := by
    obtain ⟨y, at_y, -⟩ := dormant.past
    cases at_d : s.link.sessions[d]? with
    | none => cases (Link.session_hush_of_none at_d).symm.trans at_y
    | some x =>
      obtain ⟨_, at_x⟩ := Link.session_hush (d := d) at_d
      exact ⟨x, rfl, dormant.idle d _ at_x .poller⟩
  have settled : ∀ c ∈ s.calls, c.pending? ≠ some d := fun c member pends =>
    Call.not_isOver_of_pending? pends (free c member)
  have retired : s.Retired d := ⟨starts, idle, settled⟩
  have retired' : u.Retired d := by
    rw [← bare]
    exact ⟨⟨starts.locked, starts.alone, starts.next, starts.unbegun⟩, idle, settled⟩
  have first : (s.hush d).Shadow s.calls d s.link.sending (u.hush d) := by
    rw [← bare]
    exact .rest [] (by rintro _ ⟨⟩) (List.append_nil _).symm (List.append_nil _).symm rfl dormant
      (.inl ⟨closed, current, rfl⟩)
  obtain ⟨run, one⟩ := hush_run T retired more
  have last := shadow_run T free more first (one.trans turns)
  rw [← run, ← (hush_run T retired' more).1] at last
  subst at_t at_t'
  exact ⟨last, retired_run T retired more, retired_run T retired' more⟩

/-- What differs when a link lets go of the session `d` that it held in the scene `s`: how a later
scene `t'` stands after it, where `t` stands if the link has not let go. -/
structure Forgets (T : Transport σ) (d : Nat) (s t t' : Scene σ) : Prop where
  /-- The links differ in nothing but whether they hold a session, whether an exchange is marked as
  outstanding, and whether the poller of the session was stopped by itself. -/
  link : ∃ current sending, t'.link.hush d = { t.link.hush d with current, sending }
  /-- Until a start succeeds, the calls come to the same, but that every close returns without an
  error.  The mark of an exchange stays as it was, and differs only when a close has cleared it. -/
  early : (∀ c ∈ t.calls, c.isOver) → (∀ c ∈ t.calls.drop s.calls.length, ¬c.hasStarted) →
    t'.calls = s.calls ++ (t.calls.drop s.calls.length).map Call.quieted ∧
    t'.link.hush d = (t.link.hush d).bare s.link.sending ∧
    (t.link.sending = s.link.sending ∨
      t.link.sending = false ∧ ∃ c ∈ t.calls.drop s.calls.length, c.hasClosed)
  /-- When a start has succeeded, there is no difference any more, whatever happens. -/
  late : (∃ c ∈ t.calls.drop s.calls.length, c.hasStarted) → ∀ later : List (Action σ),
    (t'.run T later).link.hush d = (t.run T later).link.hush d ∧
    (t'.run T later).calls.drop t.calls.length = (t.run T later).calls.drop t.calls.length

/-- A dormant link may let go of its session, when calls are made one after another from then on. -/
theorem let_go (T : Transport σ) (starts : StartsApart s) (free : ∀ c ∈ s.calls, c.isOver)
    (closed : s.link.state = .closed) (current : s.link.current = some d)
    (dormant : (s.link.hush d).Dormant d) {u t t' : Scene σ} {more : List (Action σ)}
    (turns : s.oneByOne T more) (bare : { s with link := { s.link with current := none } } = u)
    (at_t : s.run T more = t) (at_t' : u.run T more = t') : Forgets T d s t t' := by
  obtain ⟨shadow, retired, retired'⟩ :=
    shadow_of_dormant starts free closed current dormant turns bare at_t at_t'
  have in_late {k : Nat} {c : Call} (since : s.calls.length ≤ k) (at_k : t.calls[k]? = some c) :
      c ∈ t.calls.drop s.calls.length := by
    refine List.mem_of_getElem? (i := k - s.calls.length) ?_
    rw [List.getElem?_drop, Nat.add_sub_cancel' since]
    exact at_k
  refine ⟨?_, fun ended unstarted => ?_, ?_⟩
  · cases shadow with
    | rest _ _ _ _ link => exact ⟨_, _, link⟩
    | busy _ _ _ _ _ _ _ link => exact ⟨_, _, link⟩
    | level _ _ _ level => exact ⟨_, _, level.1⟩
  · cases shadow with
    | rest early _ at_s at_u link _ holding =>
      replace at_s : t.calls = s.calls ++ early := at_s
      rw [at_s, List.drop_left]
      refine ⟨at_u, link, ?_⟩
      rcases holding with ⟨-, -, mark⟩ | ⟨-, mark | ⟨closes, clear⟩⟩
      · exact .inl mark
      · exact .inl mark
      · exact .inr ⟨clear, List.any_eq_true.1 closes⟩
    | busy early c _ _ _ at_s _ _ _ shadow =>
      replace at_s : t.calls = s.calls ++ early ++ [c] := at_s
      refine absurd (ended c ?_) shadow.not_isOver
      rw [at_s]
      exact List.mem_append_right _ (List.mem_singleton_self c)
    | level n phase since _ at_n opened =>
      refine absurd ?_ (unstarted _ (in_late since at_n))
      exact StartPhase.hasStarted_of_hasOpened opened (ended _ (List.mem_of_getElem? at_n))
  · rintro ⟨c, member, started⟩ later
    cases shadow with
    | rest early idle at_s =>
      replace at_s : t.calls = s.calls ++ early := at_s
      rw [at_s, List.drop_left] at member
      exact absurd started (idle c member).2
    | busy early c' _ _ idle at_s _ _ _ shadow =>
      replace at_s : t.calls = s.calls ++ (early ++ [c']) := at_s.trans (List.append_assoc ..)
      rw [at_s, List.drop_left] at member
      rcases List.mem_append.1 member with old | last
      · exact absurd started (idle c old).2
      · rw [List.mem_singleton.1 last] at started
        exact absurd (Call.isOver_of_hasStarted started) shadow.not_isOver
    | level n phase _ level at_n =>
      have after := level_run T level later
      rw [← (hush_run T retired later).1, ← (hush_run T retired' later).1] at after
      exact ⟨after.1, after.drop_calls (Nat.le_of_lt (List.getElem?_eq_some_iff.1 at_n).1)⟩

/-! ## What a start comes to -/

theorem Link.started_error {T : Transport σ} {l : Link σ} {e : LinkError}
    (refused : (l.started T).1 = .done (.error e)) :
    (l.started T).2 = l ∨ l.state = .closed ∧ l.options.validate = .ok () ∧
      T.openWith l.options l.device = .error e ∧ (l.started T).2 = { l with current := none } := by
  unfold Link.started at refused ⊢
  by_cases closed : l.state = .closed
  · rw [if_neg (not_not_intro closed)] at refused ⊢
    cases valid : l.options.validate with
    | error e' => exact .inl rfl
    | ok =>
      simp only [valid] at refused ⊢
      cases opened : T.openWith l.options l.device with
      | error e' =>
        simp only [opened] at refused
        cases refused
        exact .inr ⟨closed, trivial, rfl, rfl⟩
      | ok device =>
        simp only [opened] at refused
        split at refused <;> cases refused
  · rw [if_pos closed]
    exact .inl rfl

/-- A start that has reported nothing has done no more than change the link. -/
theorem afterStart_eq_withCall {phase : StartPhase} {link : Link σ}
    (silent : link.events = s.link.events) :
    s.afterStart phase link =
      ({ s with link } : Scene σ).withCall s.calls.length (.start phase) := by
  simp only [afterStart, withCall, List.insertIdx_length_self, Link.eventNotes_of_eq none silent,
    List.append_nil]

theorem options_run (T : Transport σ) (options : LinkOptions) (device : σ) (now : Nat)
    (actions : List (Action σ)) :
    ((fresh options device now).run T actions).link.options = options :=
  run_of_act (fun s => s.link.options = options)
    (fun s a same => (options_act T s a).trans same) actions rfl

/-- What a start comes to that is made while no other call is in progress.

* It comes to one end, whatever the link.  It is refused as the link was started if the link is not
  closed; otherwise with the error of the options, which is a bad configuration, if they are not
  valid; otherwise with the error of the transport if that is not opened.  Otherwise it succeeds, or
  breaks off as there is no queue with so much room.
* A start that is refused tells nothing and leaves the link as it was, but that one whose transport
  was not opened lets go of the current session.  Whatever happens then happens as it would from
  that link if the start had not been made.
* If the link was used with care and calls are made one after another from then on, only closes show
  that a session was let go, and they only until a start succeeds (`Forgets`). -/
theorem start_settled (T : Transport σ) (options : LinkOptions) (device : σ) (now : Nat)
    (actions : List (Action σ)) (reached : (fresh options device now).run T actions = s)
    (free : ∀ c ∈ s.calls, c.isOver) :
    ∃ s' phase,
      (∀ t, Stretch T (.call s.calls.length) (s.act T (.make .start)) t ↔ t = s') ∧
      s'.calls = s.calls ++ [.start phase] ∧
      (s.link.state ≠ .closed → phase = .done (.error .alreadyStarted)) ∧
      (s.link.state = .closed → ∀ e, options.validate = .error e →
        phase = .done (.error e) ∧ ∃ problem, e = .badConfig problem) ∧
      (s.link.state = .closed → options.validate = .ok () → ∀ e,
        T.openWith options s.link.device = .error e → phase = .done (.error e)) ∧
      (s.link.state = .closed → options.validate = .ok () → ∀ opened,
        T.openWith options s.link.device = .ok opened →
          phase = if options.queueCapacity.toNat ≤ Link.maxQueueCapacity then .done (.ok ())
            else .broken) ∧
      ∀ e, phase = .done (.error e) →
        s'.notes = s.notes ∧
        (s'.link = s.link ∨ s.link.state = .closed ∧ options.validate = .ok () ∧
          T.openWith options s.link.device = .error e ∧ s'.link = { s.link with current := none }) ∧
        (∀ more : List (Action σ), s'.run T (more.map (Action.past s.calls.length)) =
          ({ s with link := s'.link }.run T more).withCall s.calls.length (.start phase)) ∧
        ∀ (d : Nat) (more : List (Action σ)), s.Careful T options device now →
          s.link.current = some d → s'.link.current = none → s.oneByOne T more →
            Forgets T d s (s.run T more) (({ s with link := s'.link } : Scene σ).run T more) := by
  have unlocked : s.link.locked = false := by
    rw [← reached] at free ⊢
    exact unlocked_run T options device now actions free
  have same : s.link.options = options := by
    rw [← reached]
    exact options_run T options device now actions
  have starts : StartsApart s := by
    rw [← reached]
    exact (sound_run T options device now actions).starts
  subst same
  refine ⟨s.afterStart (s.link.started T).1 (s.link.started T).2, (s.link.started T).1,
    fun t => start_iff unlocked, rfl, ?_, ?_, ?_, ?_, fun e refused => ?_⟩
  · intro used
    simp [Link.started, used]
  · intro closed e invalid
    refine ⟨?_, LinkOptions.badConfig_of_validate invalid⟩
    simp [Link.started, closed, invalid]
  · intro closed valid e failed
    simp [Link.started, closed, valid, failed]
  · intro closed valid device' opened
    by_cases fits : s.link.options.queueCapacity.toNat ≤ Link.maxQueueCapacity
    · simp [Link.started, closed, valid, opened, fits, Nat.not_lt.2 fits]
    · simp [Link.started, closed, valid, opened, fits, Nat.lt_of_not_le fits]
  · have left := Link.started_error refused
    have events : (s.link.started T).2.events = s.link.events := by
      rcases left with left | ⟨-, -, -, left⟩ <;> rw [left]
    have silent := @afterStart_eq_withCall σ s (s.link.started T).1 _ events
    refine ⟨?_, left, fun more => ?_, ?_⟩
    · rw [silent]
      rfl
    · exact (congrArg (Scene.run T _) silent).trans (run_withCall T _ (Nat.le_refl _) more)
    · intro d more careful current let_go turns
      rcases left with left | ⟨closed, -, -, left⟩
      · have kept : (s.link.started T).2.current = some d := by rw [left, current]
        cases kept.symm.trans let_go
      · have dormant := careful.dormant unlocked free closed current
        exact Scene.let_go T starts free closed current dormant turns (by rw [← left]; rfl) rfl rfl

/-- The device refuses to be opened again. -/
def refusing : Action Device := .device { opens := 1, refusing := true }

/-- A frame is sent, the reader meets the end of the data, and all loops end. -/
def felled : List (Action Device) :=
  Crowd.started ++ .make (.send [1]) :: List.replicate 3 (.call 1) ++
    Crowd.drying :: Crowd.ending ++ [refusing]

/-- What that run comes to. -/
def fallen : Scene Device := (fresh rehearsed { } 0).run Device.transport felled

/-- A start is made and is refused. -/
def startOver (number : Nat) : List (Action Device) :=
  .make .start :: List.replicate 6 (.call number)

/-- A close is made and returns. -/
def closeOver (number : Nat) : List (Action Device) :=
  .make .close :: List.replicate 10 (.call number)

/-- The link lets go of what the fault has left, when it cannot be started again. -/
theorem start_settled_fallen :
    (fallen.run Device.transport (startOver 2)).calls =
        fallen.calls ++ [.start (.done (.error (.connection "COM3" "mock told to refuse")))] ∧
      (fallen.run Device.transport (startOver 2)).notes = fallen.notes ∧
      Forgets Device.transport 0 fallen (fallen.run Device.transport (closeOver 2))
        (({ fallen with
          link := (fallen.run Device.transport (startOver 2)).link } : Scene Device).run
            Device.transport (closeOver 2)) := by
  have length : fallen.calls.length = 2 := by decide +kernel
  have stretch : Stretch Device.transport (.call fallen.calls.length)
      (fallen.act Device.transport (.make .start)) (fallen.run Device.transport (startOver 2)) := by
    rw [length]
    refine ⟨⟨6, rfl⟩, ?_⟩
    rintro c ⟨⟩
    rfl
  obtain ⟨s', phase, comes, made, -, -, refused, -, settles⟩ :=
    start_settled Device.transport rehearsed { } 0 felled rfl (by decide +kernel)
  obtain rfl := (comes _).1 stretch
  obtain rfl := refused (by decide +kernel) rfl _ rfl
  obtain ⟨silent, -, -, forgets⟩ := settles _ rfl
  refine ⟨made, silent, forgets 0 (closeOver 2) (.inr ⟨[], ?_⟩) (by decide +kernel)
    (by decide +kernel) (by decide +kernel)⟩
  exact Crowd.moves_of_allowsAll Device.transport felled [] (by decide +kernel)

/-- A refused start may be told from none.  When the link has let go of what a fault has left, a
close does not mark the exchange as over.  When a close has closed the link under a later session,
that session is let go as well, and the next close does not cancel it.  And a start that nothing
refuses may break off. -/
theorem refused_start_told :
    ((∀ c ∈ fallen.calls, c.isOver) ∧
      ((fallen.run Device.transport (startOver 2)).calls[2]? matches
        some (Call.start (.done (.error _)))) ∧
      (fallen.run Device.transport (startOver 2 ++ closeOver 3)).link.sending = true ∧
      (fallen.run Device.transport (closeOver 2)).link.sending = false) ∧
    ((∀ c ∈ (rehearsal.run Device.transport (overlap ++ [refusing])).calls, c.isOver) ∧
      ((rehearsal.run Device.transport (overlap ++ refusing :: startOver 3)).calls[3]? matches
        some (Call.start (.done (.error _)))) ∧
      (rehearsal.run Device.transport
        (overlap ++ refusing :: startOver 3 ++ closeOver 4)).link.sessions.map Session.cancelled =
          [true, false] ∧
      (rehearsal.run Device.transport
        (overlap ++ refusing :: closeOver 3)).link.sessions.map Session.cancelled = [true, true]) ∧
    (Crowd.boundless.validate matches .ok ()) ∧
      ((fresh Crowd.boundless { } 0).run Device.transport (startOver 0)).calls[0]? matches
        some (Call.start .broken) := by
  decide +kernel

end Scene

end FieldLink

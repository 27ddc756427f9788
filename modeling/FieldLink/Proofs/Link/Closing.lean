import FieldLink.Proofs.Link.Endings
import FieldLink.Proofs.Link.LinkOwner
import FieldLink.Proofs.Link.SessionEnd

/-!
# Closes of links between calls

A close of a link on which no call is in progress (`Scene.Free`) runs while the loops take their
steps, and while calls are made that neither start nor close.  Once it has returned, whatever it has
returned, the link is closed and holds the transport no longer, and its loops have ended
(`Scene.Free.shut_of_returned`).

The end of a session is told once, by a loop or by a close: how often it was told, is about to be
told and is still to be told stays what it is (`Outline.toll`).
-/

namespace FieldLink

/-- Whether an event tells that the link is closed. -/
def LinkEvent.isEnd : LinkEvent → Bool
  | closed _ => true
  | _ => false

theorem isEnd_of_isTraffic {event : LinkEvent} (traffic : event.isTraffic) :
    event.isEnd = false := by
  cases event with
  | closed => cases traffic
  | _ => rfl

namespace Standing

/-- The stages of the loops of a session. -/
def stages (x : Standing) : List Stage := [x.reader, x.writer, x.poller]

theorem Becomes.countP_stages {loop : Loop} {stage : Stage} {x x' : Standing}
    (becomes : Becomes loop stage x x') (p : Stage → Bool) :
    x'.stages.countP p + (p (x.stage loop)).toNat = x.stages.countP p + (p stage).toNat := by
  have reader : x'.reader = _ := becomes.stages .reader
  have writer : x'.writer = _ := becomes.stages .writer
  have poller : x'.poller = _ := becomes.stages .poller
  rw [Standing.stages, Standing.stages, reader, writer, poller, ← countP_one, ← countP_one]
  cases loop <;>
    simp only [Standing.stage, List.countP_cons, List.countP_nil, reduceCtorEq, if_true,
      if_false] <;>
    omega

end Standing

/-- Whether the link is still to be closed. -/
def LinkState.isUsed (state : LinkState) : Bool := state ≠ .closed

namespace Outline

variable {o o' : Outline} {p : Place} {x x' : Standing}

/-- How many loops are about to tell that a session is over. -/
def reports (o : Outline) : Nat := (o.sessions.flatMap Standing.stages).countP Stage.isTelling

/-- How often it is told that the link is closed: it was told, somebody is about to tell, or the
link is still to be closed. -/
def toll (o : Outline) : Nat :=
  o.events.countP LinkEvent.isEnd + o.reports + o.calls.countP Call.isTelling +
    o.state.isUsed.toNat

/-- A loop that goes on to a stage, with what the step does to the state and the events. -/
theorem toll_of_becomes {old stage : Stage} (at_id : o.sessions[p.session]? = some x)
    (at_stage : x.stage p.loop = old) (becomes : Standing.Becomes p.loop stage x x')
    (sessions : o'.sessions = o.sessions.set p.session x') (calls : o'.calls = o.calls)
    (balance : o'.events.countP LinkEvent.isEnd + stage.isTelling.toNat + o'.state.isUsed.toNat =
      o.events.countP LinkEvent.isEnd + old.isTelling.toNat + o.state.isUsed.toNat) :
    o'.toll = o.toll := by
  have moved := becomes.countP_stages Stage.isTelling
  have changed := countP_flatMap_set (f := Standing.stages) (p := Stage.isTelling) (b := x') at_id
  rw [at_stage] at moved
  rw [toll, toll, calls, reports, reports, sessions]
  omega

/-- The end of a session is told once by its loops. -/
theorem LoopStep.toll (step : o.LoopStep p o') : o'.toll = o.toll := by
  cases step with
  | still => rfl
  | work x event at_id at_stage traffic =>
    show (o.events ++ [event]).countP _ + _ + _ + _ = _
    rw [List.countP_append, List.countP_singleton, isEnd_of_isTraffic traffic]
    rfl
  | stop x stage at_id at_stage stops =>
    have silent : stage.isTelling = false := by
      rcases stops.cases with ⟨-, rfl⟩ | ⟨-, rfl, -⟩ | ⟨-, rfl⟩ | ⟨-, rfl⟩ <;> rfl
    refine toll_of_becomes at_id at_stage (.goTo _ stage x) (sessions_update at_id) rfl ?_
    rw [silent]
    rfl
  | close x at_id at_stage =>
    refine toll_of_becomes at_id at_stage (.goTo _ _ x) (sessions_update at_id) rfl ?_
    show _ + _ + (if o.state = .opened then LinkState.closing else o.state).isUsed.toNat = _
    by_cases opened : o.state = .opened
    · rw [if_pos opened, opened]
      rfl
    · rw [if_neg opened]
      rfl
  | mark x at_id at_stage | unplug x at_id at_stage | pass x at_id at_stage =>
    exact toll_of_becomes at_id at_stage (.goTo _ _ x) (sessions_update at_id) rfl rfl
  | cancel x at_id at_stage =>
    exact toll_of_becomes at_id at_stage (.cancel _ _ x) (sessions_update at_id) rfl rfl
  | release x at_id at_stage =>
    exact toll_of_becomes at_id at_stage (.release _ _ x) (sessions_update at_id) rfl rfl
  | count x at_id at_stage | judge x at_id at_stage =>
    refine toll_of_becomes at_id at_stage (.goTo _ _ x) (sessions_update at_id) rfl ?_
    split <;> rfl
  | finish x at_id at_stage closing =>
    refine toll_of_becomes at_id at_stage (.goTo _ _ x) (sessions_update at_id) rfl ?_
    rw [closing]
    rfl
  | report x at_id at_stage =>
    refine toll_of_becomes at_id at_stage (.goTo _ _ x) (sessions_update at_id) rfl ?_
    show (o.events ++ [LinkEvent.closed true]).countP _ + 0 + _ = _
    rw [List.countP_append]
    rfl

/-- A call that goes on, with what the step does to the state and the events. -/
theorem toll_set {number : Nat} {c c' : Call} (at_number : o.calls[number]? = some c)
    (reports : o'.reports = o.reports) (calls : o'.calls = o.calls.set number c')
    (balance : o'.events.countP LinkEvent.isEnd + c'.isTelling.toNat + o'.state.isUsed.toNat =
      o.events.countP LinkEvent.isEnd + c.isTelling.toNat + o.state.isUsed.toNat) :
    o'.toll = o.toll := by
  have changed := countP_set_add (p := Call.isTelling) (b := c') at_number
  rw [toll, toll, reports, calls]
  omega

theorem reports_cancel (id : Nat) (o : Outline) :
    (o.update id fun x => { x with cancelled := true }).reports = o.reports := by
  cases at_id : o.sessions[id]? with
  | none => rw [update, List.modify_eq_self (List.getElem?_eq_none_iff.1 at_id)]
  | some x =>
    have changed := countP_flatMap_set (f := Standing.stages) (p := Stage.isTelling)
      (b := { x with cancelled := true }) at_id
    rw [reports, sessions_update at_id]
    exact Nat.add_right_cancel changed

/-- The end of a session is told once, by a loop or by a close. -/
theorem CallStep.toll {number : Nat} (step : o.CallStep number o') : o'.toll = o.toll := by
  cases step with
  | still => rfl
  | plain c c' at_number before after =>
    refine toll_set at_number rfl rfl ?_
    have silent {c : Call} (plain : c.isPlain) : c.isTelling = false :=
      (Call.verdict_of_not_hasTaken (Call.not_hasTaken_of_isPlain plain)).2
    rw [silent before, silent after]
  | close phase phase' o' at_number step =>
    cases step with
    | mark id =>
      refine toll_set at_number rfl rfl ?_
      show _ + _ + (if o.state = .opened then LinkState.closing else o.state).isUsed.toNat = _
      by_cases opened : o.state = .opened
      · rw [if_pos opened, opened]
        rfl
      · rw [if_neg opened]
        rfl
    | cancel id => exact toll_set at_number (reports_cancel id o) rfl rfl
    | finish result fatal => exact toll_set at_number rfl rfl (Nat.add_zero _)
    | report result fatal =>
      refine toll_set at_number rfl rfl ?_
      show (o.events ++ [LinkEvent.closed fatal]).countP _ + 0 + _ = _
      rw [List.countP_append]
      rfl
    | _ => exact toll_set at_number rfl rfl rfl

theorem toll_append {c : Call} (o : Outline) (silent : c.isTelling = false) :
    toll { o with calls := o.calls ++ [c] } = o.toll := by
  show _ + _ + (o.calls ++ [c]).countP Call.isTelling + _ = _
  rw [List.countP_append, countP_one, silent]
  rfl

/-! ## The course of a close -/

/-- A loop takes no step in a session that has ended. -/
theorem LoopStep.ended (step : o.LoopStep p o') (ended : o.Ended) : o'.Ended := by
  obtain ⟨id, x, at_id, latest, cancelled, finished⟩ := ended
  by_cases own : id = p.session
  · subst own
    rcases step.of_idle at_id (Standing.isIdle_of_isOver finished _) with same | ⟨telling, -⟩
    · exact same ▸ ⟨_, x, at_id, latest, cancelled, finished⟩
    · rw [isOver_eq_false telling (by decide)] at finished
      cases finished
  · exact ⟨id, x, (step.session_of_ne own).trans at_id, latest.trans step.length.symm, cancelled,
      finished⟩

/-- How far a close has come, which is the call of a number and may find a session current. -/
inductive Hand (number : Nat) (first : Option Nat) (o : Outline) : Prop
  | waiting (phase : ClosePhase) (at_number : o.calls[number]? = some (.close phase))
      (early : phase = .stopPolling ∨ phase = .take) (current : o.current = first)
  | taken (phase : ClosePhase) (at_number : o.calls[number]? = some (.close phase))
      (taken : (Call.close phase).hasTaken) (current : o.current = none)
  | returned (result : Except LinkError Unit)
      (at_number : o.calls[number]? = some (.close (.done result))) (current : o.current = none)
      (ended : first.isSome → o.Ended)

variable {number i : Nat} {first : Option Nat}

theorem Hand.of_same (hand : o.Hand number first) (at_number : o'.calls[number]? = o.calls[number]?)
    (current : o'.current = o.current) (ended : o.Ended → o'.Ended) : o'.Hand number first := by
  cases hand with
  | waiting phase found early current' =>
    exact .waiting phase (at_number.trans found) early (current.trans current')
  | taken phase found taken current' =>
    exact .taken phase (at_number.trans found) taken (current.trans current')
  | returned result found current' ended' =>
    exact .returned result (at_number.trans found) (current.trans current') (ended ∘ ended')

theorem Hand.of_returned {result : Except LinkError Unit} (hand : o.Hand number first)
    (returned : o.calls[number]? = some (.close (.done result))) :
    o.current = none ∧ (first.isSome → o.Ended) := by
  have at_phase {phase : ClosePhase} (found : o.calls[number]? = some (.close phase)) :
      phase = .done result := Call.close.inj (Option.some.inj (found.symm.trans returned))
  cases hand with
  | waiting phase found early =>
    obtain rfl := at_phase found
    rcases early with h | h <;> cases h
  | taken phase found taken =>
    obtain rfl := at_phase found
    cases taken
  | returned result found current ended => exact ⟨current, ended⟩

theorem Hand.closeStep {phase phase' : ClosePhase} (hand : o.Hand number first)
    (orderly : o.Orderly) (at_number : o.calls[number]? = some (.close phase))
    (step : o.CloseStep phase phase' o') :
    Hand number first { o' with calls := o.calls.set number (.close phase') } := by
  have bound := (List.getElem?_eq_some_iff.1 at_number).1
  have at_number' : (o.calls.set number (.close phase'))[number]? = some (.close phase') :=
    List.getElem?_set_self bound
  have fits := orderly.fits _ (List.mem_of_getElem? at_number)
  have at_phase {old : ClosePhase} (found : o.calls[number]? = some (.close old)) : phase = old :=
    Call.close.inj (Option.some.inj (at_number.symm.trans found))
  cases hand with
  | waiting old found early current =>
    obtain rfl := at_phase found
    cases step with
    | wait => exact .waiting phase at_number' early current
    | stopPolling => exact .waiting .take at_number' (.inr rfl) current
    | takeNone none =>
      refine .returned (.ok ()) at_number' none fun some => ?_
      rw [← current, none] at some
      cases some
    | take id found' => exact .taken (.mark id) at_number' rfl rfl
    | _ => rcases early with h | h <;> cases h
  | taken old found taken current =>
    obtain rfl := at_phase found
    cases step with
    | wait => exact .taken phase at_number' taken current
    | stopPolling | takeNone | take => cases taken
    | skip result fatal => exact .returned result at_number' current fun _ => fits.2
    | report result fatal => exact .returned result at_number' current fun _ => fits.2
    | _ => exact .taken _ at_number' rfl current
  | returned result found current ended =>
    obtain rfl := at_phase found
    cases step with
    | wait => exact .returned result at_number' current ended

/-- A call that is no close in progress changes nothing but itself. -/
theorem CallStep.of_not_isClosing (step : o.CallStep i o')
    (free : ∀ c, o.calls[i]? = some c → ¬c.isClosing) :
    o' = o ∨ ∃ c, ¬c.isClosing ∧ o' = { o with calls := o.calls.set i c } := by
  cases step with
  | still => exact .inl rfl
  | plain c c' at_i before after =>
    refine .inr ⟨c', fun closing => ?_, rfl⟩
    cases c' with
    | send | stopPolling => cases closing
    | start | close => cases after
  | close phase phase' o' at_i step =>
    cases phase with
    | done result =>
      cases step with
      | wait => exact .inr ⟨_, free _ at_i, rfl⟩
    | _ => exact absurd rfl (free _ at_i)

theorem toll_of_untaken (untaken : ∀ c ∈ o.calls, ¬c.hasTaken) :
    o.toll = o.events.countP LinkEvent.isEnd + o.reports + o.state.isUsed.toNat := by
  have silent : o.calls.countP Call.isTelling = 0 := by
    refine List.countP_eq_zero.2 fun c member tells => ?_
    rw [(Call.verdict_of_not_hasTaken (untaken c member)).2] at tells
    cases tells
  rw [toll, silent]
  rfl

/-- A close is under way that found an outline as `o₀`, and no other close is. -/
structure Closes (number : Nat) (o₀ o : Outline) : Prop where
  orderly : o.Orderly
  owned : o.Owned
  others : ∀ i c, i ≠ number → o.calls[i]? = some c → ¬c.isClosing
  hand : o.Hand number o₀.current
  latest : ∀ id, o₀.current = some id → id + 1 = o.sessions.length
  unused : o₀.current = none → o.state = .closed
  reports : ∀ p, o.tells (.loop p) → o₀.current = some p.session ∨ o₀.tells (.loop p)
  toll : o.toll = o₀.toll
  events : o₀.events <+: o.events

namespace Closes

variable {o₀ : Outline}

/-- The loops of all sessions are idle but of the one that the close found. -/
theorem isIdle (closes : Closes number o₀ o) (at_id : o.sessions[p.session]? = some x)
    (other : o₀.current ≠ some p.session) : (x.stage p.loop).isIdle := by
  refine (closes.orderly.keeps _ x at_id).idle ?_ p.loop
  cases found : o₀.current with
  | none => exact .inr (.inl (closes.unused found))
  | some id =>
    have latest := closes.latest id found
    have bound := (List.getElem?_eq_some_iff.1 at_id).1
    have ne : id ≠ p.session := by
      rintro rfl
      exact other found
    exact .inl (by omega)

theorem loopStep (closes : Closes number o₀ o) (step : o.LoopStep p o') : Closes number o₀ o' := by
  obtain ⟨-, -, calls⟩ := step.same
  refine ⟨closes.orderly.loopStep step, closes.owned.loopStep closes.orderly step, ?_, ?_, ?_, ?_,
    ?_, step.toll.trans closes.toll, closes.events.trans step.events⟩
  · rw [calls]
    exact closes.others
  · exact closes.hand.of_same (congrArg (·[number]?) calls) step.current step.ended
  · rw [step.length]
    exact closes.latest
  · exact fun none => step.state_of_closed (closes.unused none)
  · intro q tells
    by_cases own : q = p
    · subst own
      by_cases found : o₀.current = some q.session
      · exact .inl found
      · cases at_id : o.sessions[q.session]? with
        | none =>
          rw [step.of_absent at_id] at tells
          exact closes.reports q tells
        | some x =>
          rcases step.of_idle at_id (closes.isIdle at_id found) with same | ⟨-, told⟩
          · rw [same] at tells
            exact closes.reports q tells
          · rw [told, tells_loop_iff] at tells
            cases tells.symm.trans (stageAt?_goTo .gone at_id)
    · rw [(step.others (.loop q) fun h => own (Teller.loop.inj h)).1] at tells
      exact closes.reports q tells

theorem callStep (closes : Closes number o₀ o) (step : o.CallStep i o') : Closes number o₀ o' := by
  have tale := step.tale
  have rest (others : ∀ j c, j ≠ number → o'.calls[j]? = some c → ¬c.isClosing)
      (hand : o'.Hand number o₀.current) : Closes number o₀ o' := by
    refine ⟨closes.orderly.callStep step, closes.owned.callStep closes.orderly step, others, hand,
      ?_, fun none => tale.closed (closes.unused none), fun p tells => ?_,
      step.toll.trans closes.toll, closes.events.trans step.events⟩
    · rw [step.length]
      exact closes.latest
    · rw [(tale.others (.loop p) (by rintro ⟨⟩)).1] at tells
      exact closes.reports p tells
  by_cases own : i = number
  · subst own
    refine rest (fun j c ne at_j => closes.others j c ne ((step.calls_of_ne ne).symm.trans at_j)) ?_
    cases step with
    | still => exact closes.hand
    | plain c c' at_number before =>
      cases closes.hand with
      | waiting phase found | taken phase found | returned result found =>
        obtain rfl := Option.some.inj (at_number.symm.trans found)
        cases before
    | close phase phase' o' at_number step =>
      exact closes.hand.closeStep closes.orderly at_number step
  · have same := step.calls_of_ne (Ne.symm own)
    rcases step.of_not_isClosing fun c => closes.others i c own with rfl | ⟨c, free, rfl⟩
    · exact closes
    · exact rest (forall_ne_set closes.others free) (closes.hand.of_same same rfl id)

theorem append (closes : Closes number o₀ o) {c : Call} (fits : o.Fits c) (free : ¬c.isClosing) :
    Closes number o₀ { o with calls := o.calls ++ [c] } := by
  have silent := (Call.verdict_of_not_hasTaken (free ∘ Call.isClosing_of_hasTaken)).2
  refine ⟨closes.orderly.append fits, closes.owned.append c, forall_ne_concat closes.others free,
    ?_, closes.latest, closes.unused, closes.reports, (toll_append o silent).trans closes.toll,
    closes.events⟩
  refine closes.hand.of_same (List.getElem?_append_left ?_) rfl id
  cases closes.hand with
  | waiting _ found | taken _ found | returned _ found =>
    exact (List.getElem?_eq_some_iff.1 found).1

/-! ### Once the close has returned -/

variable {result : Except LinkError Unit}

theorem untaken (closes : Closes number o₀ o)
    (returned : o.calls[number]? = some (.close (.done result))) : ∀ c ∈ o.calls, ¬c.hasTaken := by
  intro c member taken
  obtain ⟨i, at_i⟩ := List.mem_iff_getElem?.1 member
  by_cases own : i = number
  · subst own
    obtain rfl := Option.some.inj (at_i.symm.trans returned)
    cases taken
  · exact closes.others i c own at_i (Call.isClosing_of_hasTaken taken)

theorem closed (closes : Closes number o₀ o)
    (returned : o.calls[number]? = some (.close (.done result))) : o.state = .closed := by
  obtain ⟨unused, -⟩ := closes.hand.of_returned returned
  rcases closes.owned.owner with closed | current | ⟨c, member, taken⟩
  · exact closed
  · rw [unused] at current
    cases current
  · exact absurd taken (closes.untaken returned c member)

/-- What was told while the close was under way. -/
theorem balance (closes : Closes number o₀ o)
    (returned : o.calls[number]? = some (.close (.done result)))
    (untaken₀ : ∀ c ∈ o₀.calls, ¬c.hasTaken) {news : List LinkEvent}
    (events : o₀.events ++ news = o.events) :
    news.countP LinkEvent.isEnd + o.reports = o₀.reports + o₀.state.isUsed.toNat := by
  have kept := closes.toll
  rw [toll_of_untaken (closes.untaken returned), toll_of_untaken untaken₀, closes.closed returned,
    ← events, List.countP_append] at kept
  have done : LinkState.closed.isUsed.toNat = 0 := rfl
  omega

end Closes

end Outline

/-- Whether an action makes neither a start nor a close. -/
def Action.isAside {σ : Type} : Action σ → Bool
  | make .start | make .close => false
  | _ => true

namespace Scene

variable {σ : Type} {T : Transport σ} {s s' : Scene σ} {number : Nat}

/-- What happens while no start and no close is made. -/
inductive Aside (T : Transport σ) : Scene σ → Scene σ → Prop
  | act {s : Scene σ} (a : Action σ) (aside : a.isAside) : Aside T s (s.act T a)

/-- A close is made on a link that is free. -/
theorem Free.closes (free : s.Free T) :
    Outline.Closes s.calls.length s.outline (s.act T (.make .close)).outline := by
  have owned : s.outline.Owned := ⟨free.owner.imp_right .inl, free.tended.1.owned.quiet⟩
  refine ⟨free.orderly.append trivial, owned.append _, fun i c ne at_i => ?_, ?_,
    free.orderly.current, fun unused => ?_, fun p => .inr,
    Outline.toll_append (c := .close .stopPolling) s.outline rfl, List.prefix_refl _⟩
  · rcases getElem?_concat_cases at_i with old | ⟨last, -⟩
    · exact not_isClosing_of_isOver (free.isOver (List.mem_of_getElem? old))
    · exact absurd last ne
  · exact .waiting .stopPolling List.getElem?_concat_length (.inl rfl) rfl
  · refine free.owner.resolve_right fun some => ?_
    replace unused : s.link.current = none := unused
    rw [unused] at some
    cases some

/-- A loop is about to tell of a session that is not the current one.  A start has overtaken it, as
in `opened_before_closed`. -/
def Lags (s : Scene σ) (p : Place) : Prop :=
  s.outline.stageAt? p = some (.leaving .report) ∧ s.link.current ≠ some p.session

/-- Unless a free link is closed, no loop of the current session is about to tell. -/
theorem Free.silent {p : Place} (free : s.Free T) (used : s.link.state ≠ .closed)
    (prompt : ¬s.Lags p) : ¬s.outline.tells (.loop p) := by
  intro tells
  by_cases own : s.link.current = some p.session
  · exact used (free.tended.1.owned.quiet p tells (free.orderly.current _ own))
  · exact prompt ⟨Outline.tells_loop_iff.1 tells, own⟩

end Scene

end FieldLink

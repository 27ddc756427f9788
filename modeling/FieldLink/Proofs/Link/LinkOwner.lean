import FieldLink.Proofs.Link.StartInProgress

/-!
# Who is to close a link

A link is used in any way in which a start waits for the closes that have taken a session
(`Scene.Step`).  Whatever happens then, unless the link is closed, its latest session is current or
a close has taken it (`Outline.Owned`, `Scene.tended_of_steps`), and the loops of all other sessions
have nothing to do but to report.

When all calls have returned, the link is free (`Scene.Free`), though its loops may be in the middle
of anything.
-/

namespace FieldLink

namespace Outline

variable {o o' : Outline}

theorem tells_loop_iff {p : Place} :
    o.tells (.loop p) ↔ o.stageAt? p = some (.leaving .report) := by
  rw [tells]
  cases o.stageAt? p with
  | none => simp
  | some stage =>
    cases stage with
    | leaving phase => cases phase <;> simp [Stage.isTelling]
    | _ => simp [Stage.isTelling]

/-- Unless the link is closed, a session is current or a close has taken it.  A loop of the latest
session that is still to report has taken the link to closed. -/
structure Owned (o : Outline) : Prop where
  owner : o.state = .closed ∨ o.current.isSome ∨ ∃ c ∈ o.calls, c.hasTaken
  quiet : ∀ p, o.tells (.loop p) → p.session + 1 = o.sessions.length → o.state = .closed

theorem Tale.quiet {t : Teller} (tale : o.Tale t o')
    (quiet : ∀ p, o.tells (.loop p) → p.session + 1 = o.sessions.length → o.state = .closed) :
    ∀ p, o'.tells (.loop p) → p.session + 1 = o'.sessions.length → o'.state = .closed := by
  intro p tells latest
  rw [tale.length] at latest
  by_cases own : .loop p = t
  · subst own
    rcases tale.tells tells with was | ⟨-, now⟩
    · exact tale.closed (quiet p was latest)
    · exact now
  · rw [(tale.others _ own).1] at tells
    exact tale.closed (quiet p tells latest)

theorem Owned.loopStep {p : Place} (owned : o.Owned) (orderly : o.Orderly)
    (step : o.LoopStep p o') : o'.Owned where
  owner := by
    rw [step.current, step.same.2.2]
    exact owned.owner.imp_left step.state_of_closed
  quiet := (step.tale orderly).quiet owned.quiet

theorem Owned.callStep {number : Nat} (owned : o.Owned) (orderly : o.Orderly)
    (step : o.CallStep number o') : o'.Owned := by
  refine ⟨?_, step.tale.quiet owned.quiet⟩
  cases step with
  | still => exact owned.owner
  | plain c c' at_number before after =>
    have free := Call.not_hasTaken_of_isPlain before
    exact owned.owner.imp_right fun h => h.imp_right (exists_mem_set at_number (absurd · free))
  | close phase phase' o' at_number step =>
    have bound := (List.getElem?_eq_some_iff.1 at_number).1
    have fits := orderly.fits _ (List.mem_of_getElem? at_number)
    have taken (phase : ClosePhase) (has : (Call.close phase).hasTaken) :
        ∃ d ∈ o.calls.set number (.close phase), d.hasTaken :=
      ⟨_, List.mem_iff_getElem?.2 ⟨number, List.getElem?_set_self bound⟩, has⟩
    cases step with
    | wait => exact owned.owner.imp_right fun h => h.imp_right (exists_mem_set at_number id)
    | stopPolling | takeNone =>
      exact owned.owner.imp_right fun h => h.imp_right (exists_mem_set at_number (by rintro ⟨⟩))
    | take | mark | unplug | cancel | join | judge => exact .inr (.inr (taken _ rfl))
    | finish => exact .inl rfl
    | clear | skip | report => exact .inl fits.1

theorem Owned.startStep (owned : o.Owned) (step : o.StartStep o') : o'.Owned := by
  cases step with
  | still => exact owned
  | discard closed => exact ⟨.inl closed, owned.quiet⟩
  | «open» closed =>
    refine ⟨.inr (.inl rfl), fun p tells latest => ?_⟩
    have length : o.withSession.sessions.length = o.sessions.length + 1 := List.length_append
    rcases stageAt?_withSession (tells_loop_iff.1 tells) with old | ⟨-, new⟩
    · obtain ⟨x, at_id, -⟩ := Option.map_eq_some_iff.1 old
      have bound := (List.getElem?_eq_some_iff.1 at_id).1
      omega
    · rcases stage_firstStanding o.options.poll p.loop with h | ⟨-, h⟩ <;> cases new.symm.trans h
  | announce => exact ⟨owned.owner, owned.quiet⟩

theorem Owned.append (owned : o.Owned) (c : Call) : Owned { o with calls := o.calls ++ [c] } := by
  refine ⟨owned.owner.imp_right fun h => h.imp_right ?_, owned.quiet⟩
  rintro ⟨d, member, taken⟩
  exact ⟨d, List.mem_append_left _ member, taken⟩

/-- An outline on which no call is in progress is as orderly as the settled one. -/
theorem Orderly.of_settled (orderly : (o.settled .enter).Orderly) (unlocked : o.locked = false)
    (finished : ∀ c ∈ o.calls, c.isOver) : o.Orderly := by
  refine ⟨unlocked, orderly.outbox, orderly.current, orderly.plugged, orderly.empty, ?_, ?_⟩
  · intro id x at_id
    obtain ⟨sound, idle, unplugged, closing, count, halted⟩ := orderly.keeps id x at_id
    refine ⟨sound, idle, unplugged, closing, count, fun latest used => ?_⟩
    refine (halted latest used).imp_right fun h => h.imp_right ?_
    rintro ⟨_, settled, halts⟩
    obtain ⟨c, member, rfl⟩ := List.mem_map.1 settled
    refine ⟨c, member, ?_⟩
    cases c with
    | start => cases halts
    | _ => exact halts
  · intro c member
    have ended := finished c member
    cases c with
    | start => exact ended
    | send | stopPolling => trivial
    | close phase =>
      cases phase with
      | done => trivial
      | _ => cases ended

end Outline

namespace Scene

variable {σ : Type} {T : Transport σ} {s s' : Scene σ} {phase : StartPhase}

/-- One step of a link in use.  A start waits for the closes that have taken a session. -/
inductive Step (T : Transport σ) : Scene σ → Scene σ → Prop
  | act {s : Scene σ} (a : Action σ)
      (apart : ∀ number, a = .call number → s.calls[number]? = some (.start .enter) →
        ∀ d ∈ s.calls, ¬d.hasTaken) : Step T s (s.act T a)

/-- The scene is poised with a start at a phase, and somebody is to close the settled link. -/
structure Tended (s : Scene σ) (phase : StartPhase) : Prop where
  poised : s.Poised phase
  owned : (s.outline.settled phase).Owned

/-- A start that broke off stays so. -/
theorem broken_act (T : Transport σ) (a : Action σ) (broken : .start .broken ∈ s.calls) :
    .start .broken ∈ (s.act T a).calls := by
  cases a with
  | loop | device | clock | command | callback => exact broken
  | make request => exact List.mem_append_left _ broken
  | call number =>
    cases at_number : s.calls[number]? with
    | none =>
      rw [act, at_number]
      exact broken
    | some c =>
      rw [act_call T at_number]
      have kept : c = .start .broken → (c.step T s.link).1 = .start .broken := by
        rintro rfl
        rfl
      obtain ⟨d, member, rfl⟩ := Outline.exists_mem_set (P := (· = .start .broken)) at_number kept
        ⟨_, broken, rfl⟩
      exact member

/-- A call takes a step. -/
theorem Tended.call (tended : s.Tended phase) {number : Nat} {d : Call}
    (at_number : s.calls[number]? = some d)
    (unbroken : .start .broken ∉ (s.act T (.call number)).calls)
    (apart : d = .start .enter → ∀ d ∈ s.calls, ¬d.hasTaken) :
    ∃ phase', (s.act T (.call number)).Tended phase' := by
  cases d with
  | send | stopPolling | close =>
    have step := tended.poised.callStep T at_number (by rintro _ ⟨⟩)
    exact ⟨phase, tended.poised.call T at_number (by rintro _ ⟨⟩),
      tended.owned.callStep tended.poised.orderly step⟩
  | start old =>
    have whole : (s.link.startStep T old).1 ≠ .broken := by
      intro broken
      have bound := (List.getElem?_eq_some_iff.1 at_number).1
      have stepped : ((Call.start old).step T s.link).1 = .start .broken :=
        congrArg Call.start broken
      rw [act_call T at_number] at unbroken
      refine unbroken (List.mem_iff_getElem?.2 ⟨number, ?_⟩)
      rw [List.getElem?_set_self bound, stepped]
    rcases tended.poised.start (T := T) at_number whole fun enters => apart (congrArg _ enters) with
      same | ⟨-, phase', poised, step⟩
    · rw [same]
      exact ⟨phase, tended⟩
    · exact ⟨phase', poised, tended.owned.startStep step⟩

theorem Tended.step (tended : s.Tended phase) (step : Step T s s')
    (unbroken : .start .broken ∉ s'.calls) : ∃ phase', s'.Tended phase' := by
  obtain ⟨a, apart⟩ := step
  cases a with
  | loop p =>
    exact ⟨phase, tended.poised.loop T p,
      tended.owned.loopStep tended.poised.orderly (tended.poised.loopStep T p)⟩
  | make request =>
    refine ⟨phase, tended.poised.make T request, ?_⟩
    show (Outline.settled phase { s.outline with
      calls := s.outline.calls ++ [request.call] }).Owned
    rw [Outline.settled_calls, List.map_append]
    exact tended.owned.append _
  | device | clock | command | callback =>
    exact ⟨phase, ⟨tended.poised.held, tended.poised.ready, tended.poised.orderly⟩, tended.owned⟩
  | call number =>
    cases at_number : s.calls[number]? with
    | none =>
      have same : s.act T (.call number) = s := by rw [act, at_number]
      rw [same]
      exact ⟨phase, tended⟩
    | some d =>
      refine tended.call at_number unbroken ?_
      rintro rfl
      exact apart number rfl at_number

/-- However a link is used, somebody is to close it, unless a start breaks off. -/
theorem tended_of_steps {options : LinkOptions} {device : σ} {now : Nat}
    (steps : Relation.ReflTransGen (Step T) (fresh options device now) s)
    (unbroken : .start .broken ∉ s.calls) : ∃ phase, s.Tended phase := by
  induction steps with
  | refl =>
    refine ⟨.enter, .fresh options device now, .inl rfl, fun p tells => ?_⟩
    cases tells
  | tail _ step ih =>
    obtain ⟨a, apart⟩ := step
    obtain ⟨phase, tended⟩ := ih fun broken => unbroken (broken_act T a broken)
    exact tended.step (.act a apart) unbroken

/-! ## Between calls -/

/-- A link in any state in which calls leave it that have returned.  Its loops may be in the middle
of anything. -/
structure Free (T : Transport σ) (s : Scene σ) : Prop where
  reached : ∃ options device now, Relation.ReflTransGen (Step T) (fresh options device now) s
  returned : ∀ c ∈ s.calls, c.result?.isSome

/-- A call takes steps, unless it is a start that is in progress while a close has taken a
session. -/
theorem steps_iterate_call {number : Nat} (count : Nat)
    (apart : ∀ phase, s.calls[number]? = some (.start phase) →
      (Call.start phase).isOver ∨ ∀ d ∈ s.calls, ¬d.hasTaken) :
    Relation.ReflTransGen (Step T) s ((act T (.call number))^[count] s) := by
  induction count generalizing s with
  | zero => exact .refl
  | succ count ih =>
    rw [Function.iterate_succ_apply]
    refine .head (.act (.call number) ?_) (ih fun phase at_number' => ?_)
    · rintro _ ⟨⟩ enters
      exact (apart .enter enters).resolve_left (by rintro ⟨⟩)
    · cases at_number : s.calls[number]? with
      | none =>
        rw [act, at_number] at at_number'
        cases at_number.symm.trans at_number'
      | some c =>
        have bound := (List.getElem?_eq_some_iff.1 at_number).1
        rw [act_call T at_number] at at_number' ⊢
        rw [List.getElem?_set_self bound] at at_number'
        have stepped := Option.some.inj at_number'
        obtain ⟨old, rfl⟩ := isStart_step T s.link stepped
        refine (apart old at_number).imp (fun finished => ?_) fun untaken => ?_
        · rw [Call.step_of_isOver T s.link finished] at stepped
          exact stepped ▸ finished
        · exact forall_mem_set untaken (stepped ▸ by rintro ⟨⟩)

theorem steps_iterate_loop (p : Place) (count : Nat) (s : Scene σ) :
    Relation.ReflTransGen (Step T) s ((act T (.loop p))^[count] s) := by
  induction count generalizing s with
  | zero => exact .refl
  | succ count ih => exact .head (.act (.loop p) (by rintro _ ⟨⟩)) (ih _)

/-- A turn is made of steps. -/
theorem Calm.steps_of_turn (calm : s.Calm) (turn : Turn T s s') :
    Relation.ReflTransGen (Step T) s s' := by
  cases turn with
  | loop p run =>
    obtain ⟨⟨count, rfl⟩, -⟩ := run
    exact steps_iterate_loop p count s
  | call number run =>
    obtain ⟨⟨count, rfl⟩, -⟩ := run
    exact steps_iterate_call count fun phase at_number => .inl (calm.calls number _ at_number)
  | make request free run =>
    obtain ⟨⟨count, rfl⟩, -⟩ := run
    have untaken : ∀ d ∈ s.calls ++ [request.call], ¬d.hasTaken := by
      refine forall_mem_concat (fun d member taken => ?_) (by cases request <;> rintro ⟨⟩)
      exact not_isClosing_of_isOver (free d member) (Call.isClosing_of_hasTaken taken)
    exact .head (.act (.make request) (by rintro _ ⟨⟩))
      (steps_iterate_call count fun _ _ => .inr untaken)
  | device | clock | command | callback => exact .single (.act _ (by rintro _ ⟨⟩))

/-- A link whose calls are made one after another is free when they have returned. -/
theorem free_of_turns {options : LinkOptions} {device : σ} {now : Nat}
    (turns : Relation.ReflTransGen (Turn T) (fresh options device now) s)
    (returned : ∀ c ∈ s.calls, c.result?.isSome) : s.Free T := by
  refine ⟨⟨options, device, now, ?_⟩, returned⟩
  clear returned
  induction turns with
  | refl => exact .refl
  | tail turns turn ih => exact ih.trans ((moves_of_turns turns).2.1.steps_of_turn turn)

theorem Free.isOver (free : s.Free T) {c : Call} (member : c ∈ s.calls) : c.isOver := by
  have returned := free.returned c member
  cases c with
  | start phase => cases phase <;> first | rfl | cases returned
  | send _ phase => cases phase <;> first | rfl | cases returned
  | stopPolling returned' => cases returned' <;> first | rfl | cases returned
  | close phase => cases phase <;> first | rfl | cases returned

theorem Free.tended (free : s.Free T) : s.Tended .enter ∧ s.link.locked = false := by
  obtain ⟨options, device, now, steps⟩ := free.reached
  have unbroken : .start .broken ∉ s.calls := fun broken => by cases free.returned _ broken
  obtain ⟨phase, tended⟩ := tended_of_steps steps unbroken
  cases tended.poised.held with
  | free unlocked => exact ⟨tended, unlocked⟩
  | held number phase locked at_number inside =>
    have finished := free.isOver (List.mem_of_getElem? at_number)
    have outside : phase.isInside = false := by
      cases phase <;> first | rfl | cases finished
    cases inside.symm.trans outside

theorem Free.orderly (free : s.Free T) : s.Orderly :=
  free.tended.1.poised.orderly.of_settled free.tended.2 fun _ => free.isOver

theorem Free.not_hasTaken (free : s.Free T) {c : Call} (member : c ∈ s.calls) : ¬c.hasTaken :=
  fun taken => not_isClosing_of_isOver (free.isOver member) (Call.isClosing_of_hasTaken taken)

/-- Unless a free link is closed, it has a current session. -/
theorem Free.owner (free : s.Free T) : s.link.state = .closed ∨ s.link.current.isSome := by
  rcases free.tended.1.owned.owner with closed | current | ⟨_, settled, taken⟩
  · exact .inl closed
  · exact .inr current
  · obtain ⟨c, member, rfl⟩ := List.mem_map.1 settled
    rw [Call.hasTaken_settled] at taken
    exact absurd taken (free.not_hasTaken member)

end Scene

end FieldLink

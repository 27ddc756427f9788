import FieldLink.Proofs.Link.StartInProgress

/-!
# The moves of a crowd

The settled outline of a crowd is steady, and stays so whatever the loops, the starts, the closes and
the other calls do (`Crowd.Steady.move`).
-/

namespace FieldLink

namespace Crowd

variable {σ : Type} {T : Transport σ} {c c' : Crowd σ} {phase : StartPhase}

/-- The settled outline is steady, with a start at a phase. -/
structure Steady (c : Crowd σ) (phase : StartPhase) : Prop where
  held : c.scene.outline.Held phase
  ready : c.scene.outline.Ready phase
  whole : Call.start .broken ∉ c.scene.calls
  steady : (c.scene.outline.settled phase).Steady c.forsaken c.scene.told

theorem Steady.poised (steady : c.Steady phase) : c.scene.Poised phase :=
  ⟨steady.held, steady.ready, steady.steady.orderly⟩

/-! ## Loops -/

theorem Steady.unbroken (steady : c.Steady phase) (viable : c.scene.link.isViable) (p : Place) :
    ((c.scene.act T (.loop p)).outline.settled phase).stageAt? p ≠ some .broken := by
  have step := c.scene.loopStep_act T p
  have settled := steady.poised.loopStep T p
  intro broken
  by_cases poller : p.loop = .poller
  · obtain ⟨id, loop⟩ := p
    obtain rfl : loop = .poller := poller
    rcases Outline.stageAt?_settled (o := (c.scene.act T (.loop ⟨id, .poller⟩)).outline)
      ⟨id, .poller⟩ with same | ⟨running, -⟩
    · rw [same] at broken
      cases at_p : c.scene.outline.stageAt? ⟨id, .poller⟩ with
      | none =>
        rw [step.of_absent (Option.map_eq_none_iff.1 at_p), at_p] at broken
        cases broken
      | some stage =>
        by_cases begun : stage = .unborn
        · rw [step.of_unborn (at_p.trans (congrArg some begun)), at_p, begun] at broken
          cases broken
        · have at_settled := steady.ready.stageAt?_settled at_p begun
          have polls := (steady.steady.polls id stage at_settled).resolve_left begun
          rw [(Outline.settled_same phase c.scene.outline).1] at polls
          have can := ((Link.isViable_iff _).1 viable).2 polls
          refine Scene.stageAt?_ne_broken T id ?_ can broken
          intro was
          obtain rfl := Option.some.inj (at_p.symm.trans was)
          exact steady.steady.unbroken _ at_settled
    · cases running.symm.trans broken
  · obtain ⟨x, at_id, at_stage⟩ := Option.map_eq_some_iff.1 broken
    have allows := ((steady.steady.orderly.loopStep settled).keeps _ x at_id).sound.allows p.loop
    rw [at_stage] at allows
    generalize p.loop = loop at allows poller
    cases loop with
    | reader | writer => cases allows
    | poller => exact poller rfl

/-- A loop takes a step. -/
theorem Steady.loop (steady : c.Steady phase) (viable : c.scene.link.isViable) (p : Place) :
    Steady { c with scene := c.scene.act T (.loop p) } phase := by
  have settled := steady.poised.loopStep T p
  have next := steady.poised.loop T p
  refine ⟨next.held, next.ready, steady.whole, ?_⟩
  have steady' := steady.steady.loopStep settled (steady.unbroken viable p)
  rw [Outline.closings_settled] at steady'
  rw [Scene.told_act_loop]
  exact steady'

/-! ## Calls -/

/-- A call takes a step that is not a start. -/
theorem Steady.call (steady : c.Steady phase) {number : Nat} {d : Call}
    (at_number : c.scene.calls[number]? = some d) (other : ∀ old, d ≠ .start old) :
    Steady { c with scene := c.scene.act T (.call number) } phase := by
  have settled := steady.poised.callStep T at_number other
  have next := steady.poised.call T at_number other
  refine ⟨next.held, next.ready, ?_, ?_⟩
  · intro broken
    rw [Scene.act_call T at_number] at broken
    rcases List.mem_or_eq_of_mem_set broken with old | new
    · exact steady.whole old
    · obtain ⟨old, was⟩ := Scene.isStart_step T c.scene.link new.symm
      exact other old was
  · have silent := steady.steady.closings_callStep settled none
    rw [Outline.closings_settled] at silent
    have steady' := steady.steady.callStep settled
    rw [Scene.told_act_call T at_number, silent, List.append_nil]
    exact steady'

/-- A start takes a step. -/
theorem Steady.start (steady : c.Steady phase) {number : Nat} {old : StartPhase}
    (at_number : c.scene.calls[number]? = some (.start old)) (viable : c.scene.link.isViable)
    (apart : old = .enter → ∀ d ∈ c.scene.calls, ¬d.hasTaken) :
    ∃ phase', Steady { c with scene := c.scene.act T (.call number) } phase' := by
  have member := List.mem_of_getElem? at_number
  have unbroken : (c.scene.link.startStep T old).1 ≠ .broken := by
    refine Link.startStep_ne_broken T ((Link.isViable_iff _).1 viable).1 ?_
    rintro rfl
    exact steady.whole member
  rcases steady.poised.start (T := T) at_number unbroken apart with
    same | ⟨untaken, phase', next, settled⟩
  · rw [same]
    exact ⟨phase, steady⟩
  · refine ⟨phase', next.held, next.ready, ?_, ?_⟩
    · intro broken
      rw [Scene.act_call T at_number] at broken
      rcases List.mem_or_eq_of_mem_set broken with was | now
      · exact steady.whole was
      · exact unbroken (Call.start.inj now).symm
    · have silent := settled.closings none
      rw [Outline.closings_settled] at silent
      rw [Scene.told_act_call T at_number, silent, List.append_nil]
      exact steady.steady.startStep (forall_mem_settled.2 untaken) settled

/-- A call is made. -/
theorem Steady.make (steady : c.Steady phase) (request : Request) :
    Steady { c with scene := c.scene.act T (.make request) } phase := by
  have free : ¬request.call.hasTaken := by cases request <;> rintro ⟨⟩
  have fits (o : Outline) : o.Fits request.call.settled := by
    cases request with
    | start => exact rfl
    | send | stopPolling | close => trivial
  have next := steady.poised.make T request
  refine ⟨next.held, next.ready, ?_, ?_⟩
  · intro broken
    rcases List.mem_append.1 broken with old | new
    · exact steady.whole old
    · cases request <;> cases List.mem_singleton.1 new
  · show (Outline.settled phase { c.scene.outline with
      calls := c.scene.outline.calls ++ [request.call] }).Steady _ _
    rw [Outline.settled_calls, List.map_append]
    exact steady.steady.append (fits _) (by rwa [Call.hasTaken_settled])

/-- A close is given up while it awaits the loops. -/
theorem Steady.forsake (steady : c.Steady phase) {number id : Nat}
    (at_number : c.scene.calls[number]? = some (.close (.join id))) :
    Steady ⟨{ c.scene with calls := c.scene.calls.eraseIdx number }, c.forsaken ++ [id]⟩ phase := by
  have member := List.mem_of_getElem? at_number
  refine ⟨?_, steady.ready.mono rfl (fun _ h => h) rfl,
    fun broken => steady.whole (List.mem_of_mem_eraseIdx broken), ?_⟩
  · cases steady.held with
    | free unlocked none =>
      exact .free unlocked fun d left => none d (List.mem_of_mem_eraseIdx left)
    | held _ _ _ _ _ _ apart => exact absurd rfl (apart _ member)
  · have erased : (c.scene.outline.calls.eraseIdx number).map Call.settled =
        (c.scene.outline.settled phase).calls.eraseIdx number := by
      show _ = (c.scene.outline.calls.map Call.settled).eraseIdx number
      simp only [List.eraseIdx_eq_take_drop_succ, List.map_append, List.map_take, List.map_drop]
    show (Outline.settled phase { c.scene.outline with
      calls := c.scene.outline.calls.eraseIdx number }).Steady _ _
    rw [Outline.settled_calls, erased]
    exact steady.steady.forsake (Outline.call_settled (c := .close (.join id)) at_number)

/-! ## Runs -/

/-- A link on which nothing was called is steady. -/
theorem steady_fresh (options : LinkOptions) (device : σ) (now : Nat) :
    Steady ⟨Scene.fresh options device now, []⟩ .enter where
  held := .free rfl (by rintro _ ⟨⟩)
  ready := Outline.ready_of_due?_eq_none rfl (by rintro _ ⟨⟩)
  whole := List.not_mem_nil
  steady := Outline.steady_of_empty (Scene.orderly_fresh options device now) rfl rfl rfl rfl

theorem Steady.move (steady : c.Steady phase) (move : Move T c c') :
    ∃ phase', c'.Steady phase' := by
  cases move with
  | forsake number id at_number => exact ⟨phase, steady.forsake at_number⟩
  | act a viable apart =>
    cases a with
    | loop p => exact ⟨phase, steady.loop viable p⟩
    | make request => exact ⟨phase, steady.make request⟩
    | device | clock | command | callback =>
      exact ⟨phase, steady.held, steady.ready, steady.whole, steady.steady⟩
    | call number =>
      cases at_number : c.scene.calls[number]? with
      | none =>
        have same : c.scene.act T (.call number) = c.scene := by
          rw [Scene.act, at_number]
        rw [same]
        exact ⟨phase, steady⟩
      | some d =>
        cases d with
        | start old =>
          refine steady.start at_number viable ?_
          rintro rfl
          exact apart number rfl at_number
        | send | stopPolling | close =>
          exact ⟨phase, steady.call at_number (by rintro _ ⟨⟩)⟩

/-- Whatever happens, a link that was closed and on which nothing was called remains steady. -/
theorem steady_of_moves {options : LinkOptions} {device : σ} {now : Nat}
    (moves : Relation.ReflTransGen (Move T) ⟨Scene.fresh options device now, []⟩ c) :
    ∃ phase, c.Steady phase := by
  induction moves with
  | refl => exact ⟨.enter, steady_fresh options device now⟩
  | tail _ move ih =>
    obtain ⟨phase, steady⟩ := ih
    exact steady.move move

end Crowd

end FieldLink

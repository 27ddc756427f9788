import FieldLink.Proofs.Link.Accounts

/-!
# The life of a link

Between the turns of a link whose calls are made one after another, no loop is giving its session up
or leaving it, and no call is under way but a close that awaits the loops (`Outline.Calm`).  What an
orderly link promises is then plain to see (`life_between_turns`).
-/

namespace FieldLink

/-- Whether a loop at this stage may be at rest. -/
def Stage.isCalm : Stage → Bool
  | failing _ | leaving _ => false
  | _ => true

theorem ReaderPhase.isCalm_of_rests {phase : ReaderPhase} (rests : phase.rests) :
    phase.stage.isCalm := by
  cases phase <;> first | rfl | cases rests

theorem WriterPhase.isCalm_of_rests {phase : WriterPhase} (rests : phase.rests) :
    phase.stage.isCalm := by
  cases phase <;> first | rfl | cases rests

theorem PollerPhase.isCalm_of_rests {phase : PollerPhase} (rests : phase.rests) :
    phase.stage.isCalm := by
  cases phase <;> first | rfl | cases rests

theorem Session.isCalm_of_rests {loop : Loop} {s : Session} (rests : s.rests loop) :
    (s.standing.stage loop).isCalm := by
  cases loop with
  | reader => exact ReaderPhase.isCalm_of_rests rests
  | writer => exact WriterPhase.isCalm_of_rests rests
  | poller => exact PollerPhase.isCalm_of_rests rests

theorem Session.outcome?_isSome {s : Session} (reader : s.reader.stage = .gone)
    (writer : s.writer.stage = .gone)
    (poller : s.poller.stage = .unborn ∨ s.poller.stage = .gone ∨ s.poller.stage = .broken) :
    s.outcome?.isSome := by
  have reader_gone : s.reader = .gone := by
    revert reader
    cases s.reader <;> simp [ReaderPhase.stage]
  have writer_gone : ∃ result, s.writer = .gone result := by
    revert writer
    cases s.writer <;> simp [WriterPhase.stage]
  have poller_ended : s.poller = .unborn ∨ s.poller = .gone ∨ s.poller = .broken := by
    revert poller
    cases s.poller <;> simp [PollerPhase.stage]
  obtain ⟨result, writer_gone⟩ := writer_gone
  unfold outcome?
  rcases poller_ended with h | h | h <;> rw [reader_gone, writer_gone, h] <;> rfl

theorem Session.outcome?_isSome_iff {s : Session} : s.outcome?.isSome ↔ s.standing.isOver := by
  refine ⟨fun ended => ?_, fun finished => ?_⟩
  · obtain ⟨outcome, ended⟩ := Option.isSome_iff_exists.1 ended
    exact Link.isOver_of_outcome? ended
  · simp only [Standing.isOver, Bool.and_eq_true, Bool.or_eq_true, decide_eq_true_eq] at finished
    obtain ⟨⟨reader, writer⟩, poller⟩ := finished
    refine outcome?_isSome reader writer ?_
    rcases poller with (h | h) | h
    · exact .inr (.inl h)
    · exact .inr (.inr h)
    · exact .inl h

/-- A session of an outline stands for one of the link. -/
theorem Link.session_at {σ : Type} {calls : List Call} {faults : List Nat} {id : Nat} {l : Link σ}
    {x : Standing} (at_id : (l.outline calls faults).sessions[id]? = some x) :
    ∃ s, l.sessions[id]? = some s ∧ s.standing = x := by
  rw [outline, List.getElem?_map] at at_id
  exact Option.map_eq_some_iff.1 at_id

namespace Outline

variable {o o' : Outline}

/-- The stage of the loop at a place. -/
def stageAt? (p : Place) (o : Outline) : Option Stage :=
  o.sessions[p.session]?.map (·.stage p.loop)

theorem stageAt?_update (id : Nat) (f : Standing → Standing) (q : Place) :
    (o.update id f).stageAt? q =
      o.sessions[q.session]?.map fun x => (if id = q.session then f x else x).stage q.loop := by
  simp only [stageAt?, update, List.getElem?_modify]
  cases o.sessions[q.session]? with
  | none => rfl
  | some x => by_cases own : id = q.session <;> simp [own]

theorem stageAt?_update_self {p : Place} {f : Standing → Standing} {x : Standing}
    (at_id : o.sessions[p.session]? = some x) :
    (o.update p.session f).stageAt? p = some ((f x).stage p.loop) := by
  rw [stageAt?_update, at_id, Option.map_some, if_pos rfl]

theorem stageAt?_update_of_ne {p q : Place} {f : Standing → Standing} (ne : q ≠ p)
    (apart : ∀ x other, other ≠ p.loop → (f x).stage other = x.stage other) :
    (o.update p.session f).stageAt? q = o.stageAt? q := by
  rw [stageAt?_update, stageAt?]
  congr 1
  funext x
  by_cases same : p.session = q.session
  · rw [if_pos same]
    refine apart x q.loop fun same_loop => ne ?_
    cases p
    cases q
    simp_all
  · rw [if_neg same]

/-- A loop does not change the stage of another. -/
theorem LoopStep.stageAt?_of_ne {p q : Place} (step : o.LoopStep p o') (ne : q ≠ p) :
    o'.stageAt? q = o.stageAt? q := by
  have goTo : ∀ (stage : Stage) (x : Standing) (other : Loop), other ≠ p.loop →
      (x.goTo p.loop stage).stage other = x.stage other := by
    intro stage x other ne
    rw [Standing.stage_goTo, if_neg ne]
  cases step with
  | still | work => rfl
  | cancel => exact stageAt?_update_of_ne ne fun x => goTo .ending { x with cancelled := true }
  | release =>
    refine stageAt?_update_of_ne ne fun x other ne => ?_
    rw [goTo _ _ other ne, Standing.stage_drop]
  | stop | mark | close | unplug | count | judge | finish | pass | report =>
    exact stageAt?_update_of_ne ne (goTo _)

/-- A call changes no stage. -/
theorem CallStep.stageAt?_eq {number : Nat} (step : o.CallStep number o') (q : Place) :
    o'.stageAt? q = o.stageAt? q := by
  cases step with
  | still | plain => rfl
  | close phase phase' o' at_number step =>
    cases step with
    | cancel id =>
      refine (stageAt?_update id _ q).trans (congrArg (Option.map · _) (funext fun x => ?_))
      split <;> cases q.loop <;> rfl
    | _ => rfl

theorem CallStep.calls_of_ne {number i : Nat} (step : o.CallStep number o') (ne : i ≠ number) :
    o'.calls[i]? = o.calls[i]? := by
  cases step with
  | still => rfl
  | plain | close => exact List.getElem?_set_ne ne.symm

/-! ## Between the turns -/

/-- Every loop and every call is at rest. -/
structure Calm (o : Outline) : Prop where
  stages : ∀ (p : Place) (stage : Stage), o.stageAt? p = some stage → stage.isCalm
  calls : ∀ (i : Nat) (c : Call), o.calls[i]? = some c → c.rests

theorem Calm.stage {id : Nat} {x : Standing} (calm : o.Calm) (loop : Loop)
    (at_id : o.sessions[id]? = some x) : (x.stage loop).isCalm := by
  refine calm.stages ⟨id, loop⟩ _ ?_
  rw [stageAt?, at_id, Option.map_some]

end Outline

namespace Scene

variable {σ : Type} {T : Transport σ} {s s' : Scene σ}

/-- Every loop and every call is at rest. -/
def Calm (s : Scene σ) : Prop := s.outline.Calm

theorem calm_fresh (options : LinkOptions) (device : σ) (now : Nat) :
    (fresh options device now).Calm :=
  ⟨by rintro _ _ ⟨⟩, by rintro _ _ ⟨⟩⟩

theorem orderly_iterate {a : Action σ} (orderly : s.Orderly) (plain : a ≠ .make .start)
    (count : Nat) : ((act T a)^[count] s).Orderly := by
  induction count with
  | zero => exact orderly
  | succ count ih =>
    rw [Function.iterate_succ_apply']
    exact ih.act plain

/-- However long a loop goes on, the calls and the stages of the other loops stay. -/
theorem iterate_loop (T : Transport σ) (p : Place) (count : Nat) (s : Scene σ) :
    ((act T (.loop p))^[count] s).calls = s.calls ∧
      ∀ q, q ≠ p → ((act T (.loop p))^[count] s).outline.stageAt? q = s.outline.stageAt? q := by
  induction count with
  | zero => exact ⟨rfl, fun _ _ => rfl⟩
  | succ count ih =>
    obtain ⟨calls, stages⟩ := ih
    rw [Function.iterate_succ_apply']
    have step := ((act T (.loop p))^[count] s).loopStep_act T p
    exact ⟨step.same.2.2.trans calls, fun q ne => (step.stageAt?_of_ne ne).trans (stages q ne)⟩

/-- However long a call goes on, the other calls and the stages of all loops stay. -/
theorem iterate_call (T : Transport σ) (orderly : s.Orderly) (number count : Nat) :
    (∀ i, i ≠ number → ((act T (.call number))^[count] s).calls[i]? = s.calls[i]?) ∧
      ∀ q, ((act T (.call number))^[count] s).outline.stageAt? q = s.outline.stageAt? q := by
  induction count with
  | zero => exact ⟨fun _ _ => rfl, fun _ => rfl⟩
  | succ count ih =>
    obtain ⟨calls, stages⟩ := ih
    have kept : ((act T (.call number))^[count] s).Orderly :=
      orderly_iterate orderly (a := .call number) (by rintro ⟨⟩) count
    have step := ((act T (.call number))^[count] s).callStep_act T number
      fun phase at_number => kept.fits _ (List.mem_of_getElem? at_number)
    rw [Function.iterate_succ_apply']
    exact ⟨fun i ne => (step.calls_of_ne ne).trans (calls i ne),
      fun q => (step.stageAt?_eq q).trans (stages q)⟩

theorem stageAt?_outline {p : Place} {stage : Stage} (at_p : s.outline.stageAt? p = some stage) :
    ∃ x, s.link.sessions[p.session]? = some x ∧ x.standing.stage p.loop = stage := by
  obtain ⟨y, at_id, rfl⟩ := Option.map_eq_some_iff.1 at_p
  obtain ⟨x, found, rfl⟩ := Link.session_at at_id
  exact ⟨x, found, rfl⟩

theorem calm_of_loop {p : Place} (calm : s.Calm) (run : Stretch T (.loop p) s s') : s'.Calm := by
  obtain ⟨⟨count, rfl⟩, rests⟩ := run
  obtain ⟨calls, stages⟩ := iterate_loop T p count s
  have same : ((act T (.loop p))^[count] s).outline.calls = s.outline.calls := calls
  refine ⟨fun q stage at_q => ?_, fun i c at_i => calm.calls i c (same ▸ at_i)⟩
  by_cases own : q = p
  · subst own
    obtain ⟨x, found, rfl⟩ := stageAt?_outline at_q
    exact Session.isCalm_of_rests (rests x found)
  · rw [stages q own] at at_q
    exact calm.stages q stage at_q

/-- A call comes to rest while all else is at rest. -/
theorem calm_of_call {number : Nat} (orderly : s.Orderly)
    (stages : ∀ (q : Place) (stage : Stage), s.outline.stageAt? q = some stage → stage.isCalm)
    (others : ∀ (i : Nat) (c : Call), i ≠ number → s.calls[i]? = some c → c.rests)
    (run : Stretch T (.call number) s s') : s'.Calm := by
  obtain ⟨⟨count, rfl⟩, rests⟩ := run
  obtain ⟨calls, same⟩ := iterate_call T orderly number count
  refine ⟨fun q stage at_q => stages q stage (same q ▸ at_q), fun i c at_i => ?_⟩
  by_cases own : i = number
  · subst own
    exact rests c at_i
  · exact others i c own ((calls i own).symm.trans at_i)

theorem calls_act_make (T : Transport σ) (request : Request) {i : Nat} {c : Call}
    (at_i : (s.act T (.make request)).calls[i]? = some c) (ne : i ≠ s.calls.length) :
    s.calls[i]? = some c := by
  have appended : (s.calls ++ [request.call])[i]? = some c := at_i
  rcases getElem?_concat_cases appended with old | ⟨last, -⟩
  · exact old
  · exact absurd last ne

theorem isCalm_stage_firstSession (options : LinkOptions) (loop : Loop) :
    ((Link.firstSession options).standing.stage loop).isCalm := by
  refine Session.isCalm_of_rests ?_
  cases loop with
  | reader | writer => rfl
  | poller =>
    cases poll : options.poll <;> simp [Link.firstSession, Session.rests, PollerPhase.rests, poll]

theorem calm_of_start {phase : StartPhase} {link : Link σ} (calm : s.Calm)
    (outcome : s.link.StartOutcome phase link) : (s.afterStart phase link).Calm := by
  refine ⟨fun q stage at_q => ?_, fun i c at_i => ?_⟩
  · obtain ⟨x, found, rfl⟩ := stageAt?_outline at_q
    have old : x ∈ s.link.sessions → (x.standing.stage q.loop).isCalm := by
      intro member
      obtain ⟨i, at_i⟩ := List.mem_iff_getElem?.1 member
      exact Outline.Calm.stage calm q.loop (Link.standing_at at_i)
    cases outcome with
    | refused | unopened | broken => exact old (List.mem_of_getElem? found)
    | opened =>
      have appended : x ∈ s.link.sessions ++ [Link.firstSession s.link.options] :=
        List.mem_of_getElem? found
      rcases List.mem_append.1 appended with member | member
      · exact old member
      · obtain rfl := List.mem_singleton.1 member
        exact isCalm_stage_firstSession s.link.options q.loop
  · rcases List.mem_append.1 (List.mem_of_getElem? at_i) with member | member
    · obtain ⟨i, at_i⟩ := List.mem_iff_getElem?.1 member
      exact calm.calls i c at_i
    · obtain rfl := List.mem_singleton.1 member
      exact outcome.isOver

theorem moves_iterate {ready : Scene σ → Prop} {a : Action σ} (plain : a ≠ .make .start)
    (count : Nat) (s : Scene σ) : Relation.ReflTransGen (Move T ready) s ((act T a)^[count] s) := by
  induction count with
  | zero => exact .refl
  | succ count ih =>
    rw [Function.iterate_succ_apply']
    exact ih.tail (.act a plain)

theorem not_isClosing_of_isOver {c : Call} (finished : c.isOver) : ¬c.isClosing := by
  cases c with
  | start | send | stopPolling => rintro ⟨⟩
  | close phase =>
    cases phase with
    | done => rintro ⟨⟩
    | _ => cases finished

/-- A turn is made of moves.  A start in it finds all at rest, and so it is after the turn. -/
theorem Calm.turn (calm : s.Calm) (orderly : s.Orderly) (turn : Turn T s s') :
    s'.Calm ∧ Relation.ReflTransGen (Move T Calm) s s' := by
  cases turn with
  | loop p run =>
    refine ⟨calm_of_loop calm run, ?_⟩
    obtain ⟨⟨count, rfl⟩, -⟩ := run
    exact moves_iterate (a := .loop p) (by rintro ⟨⟩) count s
  | make request free run =>
    by_cases start : request = .start
    · subst start
      obtain ⟨phase, link, outcome, eq⟩ := start_outcome orderly.unlocked run
      refine ⟨eq ▸ calm_of_start calm outcome, .single (.start (fun c member => ?_) calm run)⟩
      exact not_isClosing_of_isOver (free c member)
    · have plain : Action.make (σ := σ) request ≠ .make .start := fun h => start (Action.make.inj h)
      refine ⟨calm_of_call (orderly.act plain) calm.stages ?_ run, ?_⟩
      · exact fun i c ne at_i => calm.calls i c (calls_act_make T request at_i ne)
      · obtain ⟨⟨count, rfl⟩, -⟩ := run
        exact .head (.act _ plain)
          (moves_iterate (a := .call s.calls.length) (by rintro ⟨⟩) count _)
  | call number run =>
    refine ⟨calm_of_call orderly calm.stages (fun i c _ at_i => calm.calls i c at_i) run, ?_⟩
    obtain ⟨⟨count, rfl⟩, -⟩ := run
    exact moves_iterate (a := .call number) (by rintro ⟨⟩) count s
  | device device => exact ⟨calm, .single (.act _ (by rintro ⟨⟩))⟩
  | clock now => exact ⟨calm, .single (.act _ (by rintro ⟨⟩))⟩
  | command command => exact ⟨calm, .single (.act _ (by rintro ⟨⟩))⟩
  | callback callback => exact ⟨calm, .single (.act _ (by rintro ⟨⟩))⟩

/-- What holds between the turns of a link, and the moves that its turns are made of. -/
theorem moves_of_turns {options : LinkOptions} {device : σ} {now : Nat}
    (turns : Relation.ReflTransGen (Turn T) (fresh options device now) s) :
    s.Orderly ∧ s.Calm ∧ Relation.ReflTransGen (Move T Calm) (fresh options device now) s := by
  induction turns with
  | refl => exact ⟨orderly_fresh options device now, calm_fresh options device now, .refl⟩
  | tail _ turn ih =>
    obtain ⟨orderly, calm, moves⟩ := ih
    obtain ⟨calm', more⟩ := calm.turn orderly turn
    exact ⟨orderly.moves more, calm', moves.trans more⟩

/-! ## What holds between the turns -/

/-- The latest session and where it stands. -/
theorem latest_cases (s : Scene σ) :
    s.link.sessions = [] ∨ ∃ id x, s.link.sessions[id]? = some x ∧
      s.link.sessions.getLast? = some x ∧ id + 1 = s.outline.sessions.length ∧
      s.outline.sessions[id]? = some x.standing := by
  rcases s.link.sessions.eq_nil_or_concat with none | ⟨older, x, eq⟩
  · exact .inl none
  · have at_id : s.link.sessions[older.length]? = some x := by simp [eq]
    refine .inr ⟨older.length, x, at_id, by simp [eq], ?_, Link.standing_at at_id⟩
    simp [outline, Link.outline, eq]

theorem not_isHalting_of_rests {c : Call} (rests : c.rests) : ¬c.isHalting := by
  cases c with
  | start | send | stopPolling => rintro ⟨⟩
  | close phase =>
    cases phase with
    | unplug | cancel => cases rests
    | _ => rintro ⟨⟩

/-- Unless the link is open, its latest session is cancelled. -/
theorem Calm.cancelled {id : Nat} {x : Standing} (calm : s.Calm) (orderly : s.Orderly)
    (at_id : s.outline.sessions[id]? = some x) (latest : id + 1 = s.outline.sessions.length)
    (not_opened : s.link.state ≠ .opened) : x.cancelled := by
  rcases (orderly.keeps id x at_id).halted latest not_opened with
    h | ⟨loop, halting⟩ | ⟨c, member, h⟩
  · exact h
  · have rest := Outline.Calm.stage calm loop at_id
    revert halting rest
    cases x.stage loop <;> simp [Stage.isHalting, Stage.isCalm]
  · obtain ⟨i, at_i⟩ := List.mem_iff_getElem?.1 member
    exact absurd h (not_isHalting_of_rests (calm.calls i c at_i))

theorem Orderly.not_cancelled {id : Nat} {x : Standing} (orderly : s.Orderly)
    (at_id : s.outline.sessions[id]? = some x) (outbox : s.link.outbox = some id) :
    x.cancelled = false := by
  by_contra cancelled
  rw [Bool.not_eq_false] at cancelled
  exact (orderly.keeps id x at_id).unplugged (.inl cancelled) outbox

/-- The loops of a session have ended that is no longer in use. -/
theorem Calm.finished {id : Nat} {x : Session} (calm : s.Calm) (orderly : s.Orderly)
    (at_id : s.link.sessions[id]? = some x)
    (past : id + 1 < s.outline.sessions.length ∨ s.link.state = .closed ∨ s.link.state = .opening) :
    x.readHalf = false ∧ x.writeHalf = false ∧ x.outcome?.isSome := by
  have at_standing : s.outline.sessions[id]? = some x.standing := Link.standing_at at_id
  have keeps := orderly.keeps id _ at_standing
  have silent : ∀ loop, x.standing.stage loop ≠ .leaving .report := by
    intro loop telling
    have rest := Outline.Calm.stage calm loop at_standing
    rw [telling] at rest
    cases rest
  obtain ⟨read, write⟩ := keeps.sound.released (keeps.idle past)
  exact ⟨read, write,
    Session.outcome?_isSome_iff.2 (keeps.sound.isOver (keeps.idle past) silent)⟩

theorem Orderly.liveLoops_nonneg (orderly : s.Orderly) : 0 ≤ s.link.liveLoops := by
  rcases s.latest_cases with none | ⟨id, x, -, -, latest, at_id⟩
  · have empty : s.link.liveLoops = 0 := orderly.empty (by simp [outline, Link.outline, none])
    omega
  · have count : s.link.liveLoops = x.standing.load := (orderly.keeps id _ at_id).count latest
    have reader := x.standing.reader.weight_nonneg
    have writer := x.standing.writer.weight_nonneg
    have poller := x.standing.poller.weight_nonneg
    rw [count, Standing.load]
    omega

/-- Between the turns of a link whose calls are made one after another:

* The count of loops is how many loops of the latest session were begun and have not counted
  themselves out.  No loop takes it below zero.
* The link is open if and only if frames have a queue to go to, and if and only if there is a latest
  session that is not cancelled.  A send finds the link not open if and only if it is not.
* When the link is closed, every session has let both halves of its transport go, and its loops have
  ended.  At any time, only the latest session holds a half. -/
theorem life_between_turns {options : LinkOptions} {device : σ} {now : Nat}
    (turns : Relation.ReflTransGen (Turn T) (fresh options device now) s) :
    s.link.liveLoops = s.link.sessions.getLast?.elim 0 (fun x => x.standing.load) ∧
    (∀ (p : Place) (count : Nat), 0 ≤ ((act T (.loop p))^[count] s).link.liveLoops) ∧
    (s.link.state = .opened ↔ s.link.outbox.isSome) ∧
    (s.link.state = .opened ↔ ∃ x, s.link.sessions.getLast? = some x ∧ x.cancelled = false) ∧
    (∀ frame : Frame, ((Call.send frame .mark).run T Call.stepLimit s.link).1.result? =
      some (.error .notOpen) ↔ s.link.state ≠ .opened) ∧
    (s.link.state = .closed → ∀ x ∈ s.link.sessions,
      x.readHalf = false ∧ x.writeHalf = false ∧ x.outcome?.isSome) ∧
    ∀ (id : Nat) (x : Session), s.link.sessions[id]? = some x → x.readHalf ∨ x.writeHalf →
      id + 1 = s.link.sessions.length := by
  obtain ⟨orderly, calm, -⟩ := moves_of_turns turns
  have plugged_iff : s.link.state = .opened ↔ s.link.outbox.isSome := by
    refine ⟨orderly.plugged, fun plugged => ?_⟩
    obtain ⟨id, outbox⟩ := Option.isSome_iff_exists.1 plugged
    have latest := orderly.outbox id outbox
    have at_id := List.getElem?_eq_getElem (l := s.outline.sessions) (i := id) (by omega)
    by_contra not_opened
    have cancelled := calm.cancelled orderly at_id latest not_opened
    rw [orderly.not_cancelled at_id outbox] at cancelled
    cases cancelled
  refine ⟨?_, fun p count => ?_, plugged_iff, ⟨fun opened => ?_, ?_⟩, fun frame => ?_, ?_, ?_⟩
  · rcases s.latest_cases with none | ⟨id, x, -, last, latest, at_id⟩
    · rw [none]
      exact orderly.empty (by simp [outline, Link.outline, none])
    · rw [last]
      exact (orderly.keeps id _ at_id).count latest
  · exact (orderly_iterate orderly (a := .loop p) (by rintro ⟨⟩) count).liveLoops_nonneg
  · obtain ⟨id, x, outbox, latest, at_id, -⟩ := orderly.outbox_of_opened opened
    refine ⟨x, ?_, orderly.not_cancelled (Link.standing_at at_id) outbox⟩
    rw [List.getLast?_eq_getElem?, ← at_id, ← latest]
    rfl
  · rintro ⟨x, last, hears⟩
    rcases s.latest_cases with none | ⟨id, y, -, last', latest, at_id⟩
    · rw [none] at last
      cases last
    · obtain rfl := Option.some.inj (last.symm.trans last')
      by_contra not_opened
      have cancelled : x.cancelled := calm.cancelled orderly at_id latest not_opened
      rw [hears] at cancelled
      cases cancelled
  · rw [Link.result_run_send, Option.some.injEq]
    by_cases opened : s.link.state = .opened
    · obtain ⟨id, x, outbox, -, at_id, hears⟩ := orderly.outbox_of_opened opened
      have queued := Link.enqueue_of_hears (l := { s.link with sending := true }) outbox at_id hears
        frame
      rw [queued]
      refine ⟨fun refused => ?_, fun h => absurd opened h⟩
      split at refused <;> cases refused
    · have unplugged : s.link.outbox = none := by
        rw [← Option.not_isSome_iff_eq_none, ← plugged_iff]
        exact opened
      refine ⟨fun _ => opened, fun _ => ?_⟩
      simp [Link.enqueue, unplugged]
  · intro closed x member
    obtain ⟨id, at_id⟩ := List.mem_iff_getElem?.1 member
    exact calm.finished orderly at_id (.inr (.inl closed))
  · intro id x at_id held
    have bound := (List.getElem?_eq_some_iff.1 at_id).1
    by_contra older
    obtain ⟨read, write, -⟩ := calm.finished orderly at_id (.inl (by
      rw [outline, Link.outline, List.length_map]
      omega))
    rw [read, write] at held
    rcases held with h | h <;> cases h

/-- A link is open after its first start. -/
theorem life_between_turns_opened :
    Relation.ReflTransGen (Turn Device.transport) (fresh rehearsed { } 0) rehearsal ∧
      rehearsal.link.liveLoops = 2 ∧ rehearsal.link.outbox.isSome := by
  have turns : Relation.ReflTransGen (Turn Device.transport) (fresh rehearsed { } 0) rehearsal :=
    .single (.make .start (by rintro _ ⟨⟩) rehearsal_stretch)
  obtain ⟨count, -, plugged, -⟩ := life_between_turns turns
  exact ⟨turns, count, plugged.1 rfl⟩

/-! ## Calls that overlap -/

/-- A reader meets the end of the data while a close awaits the loops.  The writer, the last loop to
leave, closes the link, a second start opens it again, and only then the close goes on. -/
def overlap : List (Action Device) :=
  .device { opens := 1, reads := [.endOfStream] } :: List.replicate 9 (.loop ⟨0, .reader⟩) ++
    .make .close :: List.replicate 5 (.call 1) ++ List.replicate 9 (.loop ⟨0, .writer⟩) ++
    .make .start :: List.replicate 16 (.call 2) ++ List.replicate 5 (.call 1)

/-- What holds between the turns is lost when a start is made before a close has returned: the close
of the first session closes the link under the loops of the second. -/
theorem closed_while_running :
    (rehearsal.run Device.transport overlap).link.state = .closed ∧
      (rehearsal.run Device.transport overlap).link.outbox = some 1 ∧
      (rehearsal.run Device.transport overlap).link.liveLoops = 2 := by
  decide +kernel

end Scene

end FieldLink

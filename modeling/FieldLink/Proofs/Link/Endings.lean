import FieldLink.Proofs.Link.Lifecycle
import FieldLink.Proofs.Link.Motions

/-!
# How sessions end

`Crowd.fault_told_once` is about sessions that are given up.  While the queue of a link can be made
and its polls can be set, no start and no loop breaks off, and when the loops of a session have ended
that was given up, one of them has told so.  `Crowd.stuck_closing` and `Crowd.stuck_opening` show what
happens otherwise.

`Crowd.closed_when_closes_return` is about closes that are made from many tasks.  A close that took a
session returns when the session has ended and the link is closed.  One that found none may return
early (`Crowd.returned_early`), and a link may stay closing after one was given up
(`Crowd.never_closed`).
-/

namespace FieldLink

/-! ## Sessions that have ended -/

theorem Standing.unplugged_of_isOver {x : Standing} (finished : x.isOver) : x.Unplugged := by
  simp only [isOver, Bool.and_eq_true, decide_eq_true_eq] at finished
  refine .inr ⟨.reader, by decide, ?_⟩
  rw [stage, finished.1.1]
  rfl

namespace Outline

variable {o o' : Outline} {forsaken : List Nat} {told : List (Option Nat)}

/-- A loop ends only as it leaves. -/
theorem LoopStep.leaving_of_gone {p : Place} (step : o.LoopStep p o')
    (gone : o'.stageAt? p = some .gone) :
    o.stageAt? p = some .gone ∨ ∃ phase, o.stageAt? p = some (.leaving phase) := by
  have leaving {x : Standing} {phase : LeavePhase} (at_id : o.sessions[p.session]? = some x)
      (at_stage : x.stage p.loop = .leaving phase) :
      o.stageAt? p = some .gone ∨ ∃ phase, o.stageAt? p = some (.leaving phase) :=
    .inr ⟨phase, (stageAt?_of_at at_id).trans (congrArg some at_stage)⟩
  have stays {x : Standing} {stage : Stage} (at_id : o.sessions[p.session]? = some x)
      (moved : (o.goTo p stage).stageAt? p = some .gone) : stage = .gone :=
    Option.some.inj ((stageAt?_goTo stage at_id).symm.trans moved)
  cases step with
  | still | work => exact .inl gone
  | count x at_id at_stage | judge x at_id at_stage | finish x at_id at_stage
  | pass x at_id at_stage | report x at_id at_stage => exact leaving at_id at_stage
  | stop x stage at_id at_stage stops =>
    obtain rfl := stays at_id gone
    exact absurd stops.cases (by simp)
  | mark x at_id | close x at_id | unplug x at_id => cases stays at_id gone
  | cancel x at_id | release x at_id =>
    rw [stageAt?_update_self at_id] at gone
    simp at gone

/-- A link at rest is closed unless a close was given up with its latest session, and a loop has not
given it up. -/
theorem Steady.closed_iff (steady : o.Steady forsaken told) (free : ∀ c ∈ o.calls, ¬c.hasTaken)
    (ended : ∀ id x, o.sessions[id]? = some x → id + 1 = o.sessions.length → x.isOver) :
    o.state = .closed ↔ ∀ id ∈ forsaken, id + 1 = o.sessions.length → id ∈ o.faults := by
  cases length : o.sessions.length with
  | zero =>
    have closed := steady.empty (List.length_eq_zero_iff.1 length)
    exact ⟨fun _ _ _ latest => absurd latest (Nat.succ_ne_zero _), fun _ => closed⟩
  | succ id =>
    have at_id := List.getElem?_eq_getElem (l := o.sessions) (i := id) (by omega)
    have finished := ended id _ at_id length.symm
    have closed_of_fault (fault : id ∈ o.faults) : o.state = .closed := by
      obtain ⟨-, older | closed⟩ := (steady.fates id _ at_id).of_isOver fault finished
        (steady.poller_ne_broken at_id)
      · omega
      · exact closed
    have not_opened := steady.orderly.not_opened at_id length.symm
      (Standing.unplugged_of_isOver finished)
    refine ⟨fun closed other given latest => ?_, fun blamed => ?_⟩
    · obtain rfl : other = id := by omega
      cases steady.custody other length.symm with
      | kept _ _ held | taken _ _ _ _ _ _ _ held | finished _ _ _ _ _ _ held
      | released _ _ held => exact absurd given held
      | forsaken _ _ _ cause => exact cause closed
    · cases steady.custody id length.symm with
      | kept _ _ _ cause => exact closed_of_fault (cause not_opened)
      | taken number c _ at_number taken =>
        exact absurd taken (free c (List.mem_of_getElem? at_number))
      | finished _ _ _ _ _ _ _ closed | released _ _ _ closed => exact closed
      | forsaken _ _ given => exact closed_of_fault (blamed id given rfl)

/-- When there is no current session, the link is closed, or a close has taken the latest session or
was given up with it. -/
theorem Steady.cases_of_no_current (steady : o.Steady forsaken told) (none : o.current = none) :
    o.state = .closed ∨ (∃ c ∈ o.calls, c.hasTaken) ∨
      ∃ id ∈ forsaken, id + 1 = o.sessions.length := by
  cases length : o.sessions.length with
  | zero => exact .inl (steady.empty (List.length_eq_zero_iff.1 length))
  | succ id =>
    cases steady.custody id length.symm with
    | kept current => cases none.symm.trans current
    | taken number c _ at_number taken =>
      exact .inr (.inl ⟨c, List.mem_of_getElem? at_number, taken⟩)
    | finished _ _ _ _ _ _ _ closed | released _ _ _ closed => exact .inl closed
    | forsaken _ _ given => exact .inr (.inr ⟨id, given, rfl⟩)

end Outline

/-! ## Notes of the end -/

theorem Note.fatalEnd?_eq_some_iff {note : Note} {who : Option Nat} :
    note.fatalEnd? = some who ↔ note = .reported who (.closed true) := by
  cases note with
  | reported teller event =>
    cases event with
    | closed fatal => cases fatal <;> simp [fatalEnd?, LinkEvent.isFatalEnd]
    | _ => simp [fatalEnd?, LinkEvent.isFatalEnd]
  | _ => simp [fatalEnd?]

namespace Scene

variable {σ : Type} {s : Scene σ}

theorem count_told (who : Option Nat) :
    s.told.count who = s.notes.count (.reported who (.closed true)) := by
  rw [told, List.count_filterMap, List.count]
  refine List.countP_congr fun note _ => ?_
  simp only [beq_iff_eq]
  exact Note.fatalEnd?_eq_some_iff

theorem standing_at {id : Nat} {x : Session} (at_id : s.link.sessions[id]? = some x) :
    s.outline.sessions[id]? = some x.standing :=
  Link.standing_at at_id

/-- The latest session of an outline stands for the last one of the link. -/
theorem last_at {id : Nat} {y : Standing} (at_id : s.outline.sessions[id]? = some y)
    (latest : id + 1 = s.outline.sessions.length) :
    ∃ x, s.link.sessions.getLast? = some x ∧ x.standing = y := by
  obtain ⟨x, at_link, rfl⟩ := Link.session_at at_id
  have length : s.outline.sessions.length = s.link.sessions.length := List.length_map ..
  refine ⟨x, ?_, rfl⟩
  rw [List.getLast?_eq_getElem?, ← at_link, ← length, ← latest]
  rfl

theorem closeStep_of_done {T : Transport σ} {number : Nat} {old : ClosePhase}
    {result : Except LinkError Unit} (at_number : s.calls[number]? = some (.close old))
    (returned : (s.act T (.call number)).calls[number]? = some (.close (.done result))) :
    (s.link.closeStep old).1 = .done result := by
  have bound := (List.getElem?_eq_some_iff.1 at_number).1
  rw [act_call T at_number, List.getElem?_set_self bound] at returned
  exact Call.close.inj (Option.some.inj returned)

end Scene

/-- A start that has got hold of a link refuses as it was started if and only if the link is not
closed. -/
theorem Link.refuses_iff {σ : Type} (T : Transport σ) (l : Link σ) :
    (l.startStep T .check).1 = .leave (.error .alreadyStarted) ↔ l.state ≠ .closed := by
  have valid : l.options.validate ≠ .error .alreadyStarted := by
    unfold LinkOptions.validate
    repeat' split
    all_goals simp
  by_cases closed : l.state = .closed
  · cases validated : l.options.validate with
    | ok => simp [startStep, closed, validated]
    | error e =>
      rw [validated] at valid
      simpa [startStep, closed, validated] using valid
  · simp [startStep, closed]

namespace Crowd

variable {σ : Type} {T : Transport σ} {c : Crowd σ} {phase : StartPhase}

/-! ## Rehearsals -/

/-- Whether an action may be taken next. -/
def allows (s : Scene σ) : Action σ → Bool
  | .call number =>
    s.link.isViable &&
      match s.calls[number]? with
      | some (.start .enter) => s.calls.all (!·.hasTaken)
      | _ => true
  | _ => s.link.isViable

/-- Whether actions may be taken one after the other. -/
def allowsAll (T : Transport σ) : List (Action σ) → Scene σ → Bool
  | [], _ => true
  | a :: rest, s => allows s a && allowsAll T rest (s.act T a)

theorem apart_of_allows {a : Action σ} {s : Scene σ} (allowed : allows s a) :
    ∀ number, a = .call number → s.calls[number]? = some (.start .enter) →
      ∀ d ∈ s.calls, ¬d.hasTaken := by
  rintro number rfl at_number d member taken
  have free := (Bool.and_eq_true_iff.1 allowed).2
  rw [at_number] at free
  have untaken := List.all_eq_true.1 free d member
  rw [taken] at untaken
  cases untaken

theorem move_of_allows (T : Transport σ) {a : Action σ} {s : Scene σ} (forsaken : List Nat)
    (allowed : allows s a) : Move T ⟨s, forsaken⟩ ⟨s.act T a, forsaken⟩ := by
  have viable : s.link.isViable := by
    cases a with
    | call => exact (Bool.and_eq_true_iff.1 allowed).1
    | _ => exact allowed
  exact .act a viable (apart_of_allows allowed)

theorem moves_of_allowsAll (T : Transport σ) (actions : List (Action σ)) {s : Scene σ}
    (forsaken : List Nat) (allowed : allowsAll T actions s) :
    Relation.ReflTransGen (Move T) ⟨s, forsaken⟩ ⟨s.run T actions, forsaken⟩ := by
  induction actions generalizing s with
  | nil => exact .refl
  | cons a rest ih =>
    obtain ⟨now, later⟩ := Bool.and_eq_true_iff.1 allowed
    exact .head (move_of_allows T forsaken now) (ih later)

/-- The options of the rehearsal, but with polls. -/
def polled : LinkOptions := { Scene.rehearsed with poll := true }

/-- Polls without any time between them. -/
def unpaused : LinkOptions := { polled with pollInterval := .ofMilliseconds 0 }

/-- A queue for more frames than there can be. -/
def boundless : LinkOptions := { polled with queueCapacity := 0x2000000000000000 }

/-- A start is made and comes to its end. -/
def started : List (Action Device) := .make .start :: List.replicate 16 (.call 0)

/-- The device has no data any more. -/
def drying : Action Device := .device { opens := 1, reads := [.endOfStream] }

/-- The reader and the writer end. -/
def ending : List (Action Device) :=
  List.replicate 9 (.loop ⟨0, .reader⟩) ++ List.replicate 9 (.loop ⟨0, .writer⟩)

/-- The reader meets the end of the data, and all loops end. -/
def faltering : List (Action Device) :=
  started ++ drying :: ending ++ List.replicate 6 (.loop ⟨0, .poller⟩)

/-- What that run comes to. -/
def faltered (options : LinkOptions) : Scene Device :=
  (Scene.fresh options { } 0).run Device.transport faltering

/-- A close has cancelled the session and awaits its loops. -/
def awaiting : List (Action Device) := started ++ .make .close :: List.replicate 5 (.call 1)

/-- A close has cancelled the session after the reader met the end of the data. -/
def unheard : List (Action Device) :=
  started ++ drying :: List.replicate 9 (.loop ⟨0, .reader⟩) ++
    .make .close :: List.replicate 5 (.call 1)

/-- The loops have ended, and the close is about to report. -/
def reporting : List (Action Device) := awaiting ++ ending ++ List.replicate 4 (.call 1)

/-- A second close has looked for a session. -/
def overlapping : List (Action Device) := awaiting ++ .make .close :: List.replicate 2 (.call 2)

/-- What a run comes to. -/
def rehearse (actions : List (Action Device)) : Scene Device :=
  (Scene.fresh Scene.rehearsed { } 0).run Device.transport actions

/-- A close, the second call, is given up between two runs. -/
def givenUp (before after : List (Action Device)) : Scene Device :=
  { rehearse before with calls := (rehearse before).calls.eraseIdx 1 }.run Device.transport after

theorem moves_of_givenUp {before after : List (Action Device)}
    (first : allowsAll Device.transport before (Scene.fresh Scene.rehearsed { } 0))
    (at_one : (rehearse before).calls[1]? = some (.close (.join 0)))
    (second : allowsAll Device.transport after
      { rehearse before with calls := (rehearse before).calls.eraseIdx 1 }) :
    Relation.ReflTransGen (Move Device.transport) ⟨Scene.fresh Scene.rehearsed { } 0, []⟩
      ⟨givenUp before after, [0]⟩ :=
  .trans (.tail (moves_of_allowsAll Device.transport before [] first) (.forsake 1 0 at_one))
    (moves_of_allowsAll Device.transport after _ second)

/-! ## Sessions that are given up -/

theorem Steady.phase_of_unlocked (steady : c.Steady phase)
    (unlocked : c.scene.link.locked = false) : phase = .enter := by
  cases steady.held with
  | free => rfl
  | held _ _ locked => cases unlocked.symm.trans locked

theorem Steady.unlocked_of_hasTaken (steady : c.Steady phase) {d : Call}
    (member : d ∈ c.scene.calls) (taken : d.hasTaken) : c.scene.link.locked = false := by
  cases steady.held with
  | free unlocked => exact unlocked
  | held _ _ _ _ _ _ apart => exact absurd taken (apart d member)

/-- No poller has broken off. -/
theorem Steady.poller_ne_broken (steady : c.Steady phase) {x : Session}
    (member : x ∈ c.scene.link.sessions) : x.poller ≠ .broken := by
  intro broken
  obtain ⟨id, at_id⟩ := List.mem_iff_getElem?.1 member
  have at_poller : c.scene.outline.stageAt? ⟨id, .poller⟩ = some .broken := by
    rw [Outline.stageAt?_of_at (p := ⟨id, .poller⟩) (Scene.standing_at at_id)]
    exact congrArg some (Link.stage_poller broken)
  exact steady.steady.unbroken _ (steady.ready.stageAt?_settled at_poller (by rintro ⟨⟩))

/-- Unless a start is in progress, the count is of the loops that have not counted themselves
out. -/
theorem Steady.liveLoops_eq (steady : c.Steady phase) (unlocked : c.scene.link.locked = false) :
    c.scene.link.liveLoops = c.scene.link.sessions.getLast?.elim 0 (fun x => x.standing.load) := by
  obtain rfl := steady.phase_of_unlocked unlocked
  have orderly := steady.steady.orderly
  rcases c.scene.latest_cases with none | ⟨id, x, -, last, latest, at_id⟩
  · rw [none]
    refine orderly.empty ?_
    simp [Outline.settled, Outline.settle, Scene.outline, Link.outline, none]
  · rw [last]
    exact (orderly.keeps id _ at_id).count latest

/-- When the loops of a session have ended of which one gave it up, one of them has told so, and if
it is the latest session, the link is closed. -/
theorem Steady.told_once (steady : c.Steady phase) {id : Nat} {x : Session}
    (at_id : c.scene.link.sessions[id]? = some x) (ended : x.outcome?.isSome)
    (fault : .failed id ∈ c.scene.notes)
    (begun : c.scene.link.locked = false ∨ id + 1 < c.scene.link.sessions.length) :
    c.scene.notes.count (.reported (some id) (.closed true)) = 1 ∧
      (c.scene.link.locked = false → id + 1 = c.scene.link.sessions.length →
        c.scene.link.state = .closed) := by
  have length : c.scene.outline.sessions.length = c.scene.link.sessions.length := List.length_map ..
  have at_settled : (c.scene.outline.settled phase).sessions[id]? = some x.standing := by
    rw [Outline.session_settled, Scene.standing_at at_id]
    intro first other due
    rcases begun with unlocked | older
    · obtain rfl := steady.phase_of_unlocked unlocked
      cases due
    · have last := steady.ready.latest first other due
      omega
  have blamed : id ∈ (c.scene.outline.settled phase).faults := by
    rw [(Outline.settled_same phase c.scene.outline).2.2.1]
    exact Scene.mem_faults_iff.2 fault
  obtain ⟨once, past⟩ := (steady.steady.fates id _ at_settled).of_isOver blamed
    (Session.outcome?_isSome_iff.1 ended) (steady.steady.poller_ne_broken at_settled)
  refine ⟨(Scene.count_told _).symm.trans once, fun unlocked latest => ?_⟩
  obtain rfl := steady.phase_of_unlocked unlocked
  rcases past with older | closed
  · rw [(Outline.settled_same _ c.scene.outline).2.2.2] at older
    omega
  · exact closed

/-- Whatever happens to a link whose queue can be made and whose polls can be set:

* No start breaks off, and no loop does.  A loop ends only as it leaves, and unless a start is in
  progress, the count is of the loops of the latest session that have not counted themselves out.
* When the loops of a session have ended of which one gave it up, one of them has told once that the
  link is closed for good, and no call has told so.  If no later start is in progress or has made a
  session, the link is closed. -/
theorem fault_told_once {options : LinkOptions} {device : σ} {now : Nat}
    (moves : Relation.ReflTransGen (Move T) ⟨Scene.fresh options device now, []⟩ c) :
    Call.start .broken ∉ c.scene.calls ∧
    (∀ x ∈ c.scene.link.sessions, x.poller ≠ .broken) ∧
    (∀ p : Place, (c.scene.act T (.loop p)).outline.stageAt? p = some .gone →
      c.scene.outline.stageAt? p = some .gone ∨
        ∃ phase, c.scene.outline.stageAt? p = some (.leaving phase)) ∧
    (c.scene.link.locked = false → c.scene.link.liveLoops =
      c.scene.link.sessions.getLast?.elim 0 (fun x => x.standing.load)) ∧
    .reported none (.closed true) ∉ c.scene.notes ∧
    ∀ (id : Nat) (x : Session), c.scene.link.sessions[id]? = some x → x.outcome?.isSome →
      .failed id ∈ c.scene.notes →
      c.scene.link.locked = false ∨ id + 1 < c.scene.link.sessions.length →
        c.scene.notes.count (.reported (some id) (.closed true)) = 1 ∧
        (c.scene.link.locked = false → id + 1 = c.scene.link.sessions.length →
          c.scene.link.state = .closed) := by
  obtain ⟨phase, steady⟩ := steady_of_moves moves
  refine ⟨steady.whole, fun x => steady.poller_ne_broken, fun p => ?_, steady.liveLoops_eq, ?_, ?_⟩
  · exact (c.scene.loopStep_act T p).leaving_of_gone
  · rw [← List.count_eq_zero, ← Scene.count_told, List.count_eq_zero]
    exact steady.steady.silent
  · exact fun id x at_id ended fault begun => steady.told_once at_id ended fault begun

/-- The poller is the last to end after the reader met the end of the data. -/
theorem fault_told_once_polled :
    Relation.ReflTransGen (Move Device.transport) ⟨Scene.fresh polled { } 0, []⟩
        ⟨faltered polled, []⟩ ∧
      (faltered polled).notes.count (.reported (some 0) (.closed true)) = 1 ∧
      (faltered polled).link.state = .closed := by
  have moves : Relation.ReflTransGen (Move Device.transport) ⟨Scene.fresh polled { } 0, []⟩
      ⟨faltered polled, []⟩ :=
    moves_of_allowsAll Device.transport faltering [] (by decide +kernel)
  obtain ⟨-, -, -, -, -, told⟩ := fault_told_once moves
  have ended : ((faltered polled).link.sessions[0]?).any (·.outcome?.isSome) := by decide +kernel
  obtain ⟨x, at_id, ended⟩ := (Option.any_eq_true _ _).1 ended
  obtain ⟨once, closed⟩ := told 0 x at_id ended (by decide +kernel) (.inl (by decide +kernel))
  exact ⟨moves, once, closed (by decide +kernel) (by decide +kernel)⟩

/-- Polls without any time between them are accepted, but the poller breaks off and is not counted
out.  The reader has given the session up and all loops have ended, but the link is closing, nobody
has told so, and a start is refused. -/
theorem stuck_closing :
    (unpaused.validate matches .ok ()) ∧
      (∀ x ∈ (faltered unpaused).link.sessions, x.outcome?.isSome) ∧
      .failed 0 ∈ (faltered unpaused).notes ∧ (faltered unpaused).told = [] ∧
      (faltered unpaused).link.state = .closing ∧
      ((faltered unpaused).link.startStep Device.transport .check).1 matches
        .leave (.error .alreadyStarted) := by
  decide +kernel

/-- A queue without bound is accepted, but the start breaks off and leaves the link opening. -/
theorem stuck_opening :
    (boundless.validate matches .ok ()) ∧
      ((faltered boundless).calls matches [.start .broken]) ∧
      (faltered boundless).link.locked = false ∧ (faltered boundless).link.state = .opening ∧
      ((faltered boundless).link.startStep Device.transport .check).1 matches
        .leave (.error .alreadyStarted) := by
  decide +kernel

/-! ## Closes that return -/

/-- Unless a start is in progress, a session has let both halves of its transport go that has ended,
and so has every session when the link is closed. -/
theorem Steady.released (steady : c.Steady phase) (unlocked : c.scene.link.locked = false)
    {x : Session} (member : x ∈ c.scene.link.sessions)
    (past : x.outcome?.isSome ∨ c.scene.link.state = .closed) :
    x.readHalf = false ∧ x.writeHalf = false := by
  obtain rfl := steady.phase_of_unlocked unlocked
  obtain ⟨id, at_id⟩ := List.mem_iff_getElem?.1 member
  have keeps := steady.steady.orderly.keeps id _ (Scene.standing_at at_id)
  refine keeps.sound.released fun loop => ?_
  rcases past with ended | closed
  · exact Standing.isIdle_of_isOver (Session.outcome?_isSome_iff.1 ended) loop
  · exact keeps.idle (.inr (.inl closed)) loop

/-- When a close returns that took a session, the session has ended and the link is closed. -/
theorem Steady.closed_of_return (steady : c.Steady phase) {number : Nat} {old : ClosePhase}
    {result : Except LinkError Unit} (at_number : c.scene.calls[number]? = some (.close old))
    (taken : (Call.close old).hasTaken)
    (returned : (c.scene.act T (.call number)).calls[number]? = some (.close (.done result))) :
    (c.scene.act T (.call number)).link.state = .closed ∧
      ∃ x, (c.scene.act T (.call number)).link.sessions.getLast? = some x ∧ x.outcome?.isSome ∧
        x.readHalf = false ∧ x.writeHalf = false := by
  have member := List.mem_of_getElem? at_number
  have unlocked := steady.unlocked_of_hasTaken member taken
  obtain rfl := steady.phase_of_unlocked unlocked
  have fits := steady.steady.orderly.fits _ (List.mem_map_of_mem member)
  replace returned := Scene.closeStep_of_done at_number returned
  rw [Scene.act_call T at_number]
  have last : (c.scene.outline.settled .enter).Ended →
      ∃ x, c.scene.link.sessions.getLast? = some x ∧ x.outcome?.isSome ∧
        x.readHalf = false ∧ x.writeHalf = false := by
    rintro ⟨id, y, at_standing, latest, -, finished⟩
    obtain ⟨x, last, rfl⟩ := Scene.last_at at_standing latest
    have ended := Session.outcome?_isSome_iff.2 finished
    exact ⟨x, last, ended, steady.released unlocked (List.mem_of_getLast? last) (.inl ended)⟩
  cases old with
  | stopPolling | take | done => cases taken
  | mark | unplug | cancel | judge | finish => cases returned
  | join id =>
    simp only [Link.closeStep] at returned
    split at returned <;> cases returned
  | clear | report => exact ⟨fits.1, last fits.2⟩

/-- When a close returns that found no session, the link is closed, or another close has taken the
latest session or was given up with it. -/
theorem Steady.cases_of_return (steady : c.Steady phase) {number : Nat}
    {result : Except LinkError Unit} (at_number : c.scene.calls[number]? = some (.close .take))
    (returned : (c.scene.act T (.call number)).calls[number]? = some (.close (.done result))) :
    c.scene.link.state = .closed ∨ (∃ d ∈ c.scene.calls, d.hasTaken) ∨
      ∃ id ∈ c.forsaken, id + 1 = c.scene.link.sessions.length := by
  replace returned := Scene.closeStep_of_done at_number returned
  cases unlocked : c.scene.link.locked with
  | true =>
    rw [Link.closeStep, if_pos unlocked] at returned
    cases returned
  | false =>
    obtain rfl := steady.phase_of_unlocked unlocked
    cases current : c.scene.link.current with
    | some id => simp [Link.closeStep, unlocked, current] at returned
    | none =>
      have found := steady.steady.cases_of_no_current current
      rw [(Outline.settled_same _ c.scene.outline).2.2.2] at found
      replace found : c.scene.link.state = .closed ∨
          (∃ d ∈ c.scene.calls.map Call.settled, d.hasTaken) ∨
            ∃ id ∈ c.forsaken, id + 1 = (c.scene.link.sessions.map Session.standing).length := found
      simpa using found

/-- A link at rest is closed unless a close was given up with its latest session, and no loop has
given it up. -/
theorem Steady.closed_at_rest (steady : c.Steady phase) (unlocked : c.scene.link.locked = false)
    (free : ∀ d ∈ c.scene.calls, ¬d.hasTaken)
    (ended : ∀ x ∈ c.scene.link.sessions.getLast?, x.outcome?.isSome) :
    c.scene.link.state = .closed ↔
      ∀ id ∈ c.forsaken, id + 1 = c.scene.link.sessions.length → .failed id ∈ c.scene.notes := by
  obtain rfl := steady.phase_of_unlocked unlocked
  have length : (c.scene.outline.settled .enter).sessions.length = c.scene.link.sessions.length :=
    List.length_map ..
  have closed := steady.steady.closed_iff (forall_mem_settled.2 free) (by
    intro id y at_standing latest
    obtain ⟨x, last, rfl⟩ := Scene.last_at at_standing latest
    exact Session.outcome?_isSome_iff.1 (ended x last))
  rw [length] at closed
  refine closed.trans (forall₂_congr fun id _ => imp_congr_right fun _ => ?_)
  exact Scene.mem_faults_iff

/-- While closes are made from many tasks, and given up as they await the loops:

* When a close returns that took a session, the link is closed, all loops of the session have ended
  and both halves of its transport are released.
* When a close returns that found no session, the link is closed, or another close has taken the
  latest session and has not returned, or one was given up with it.
* Unless a start is in progress, a session has released its transport that has ended, and so has
  every session when the link is closed.
* When no start is in progress, no close has a session and the loops of the latest session have
  ended, the link is closed unless a close was given up with that session and no loop has given it
  up; and a start is then refused as a second one if and only if the link is not closed. -/
theorem closed_when_closes_return {options : LinkOptions} {device : σ} {now : Nat}
    (moves : Relation.ReflTransGen (Move T) ⟨Scene.fresh options device now, []⟩ c) :
    (∀ (number : Nat) (old : ClosePhase) (result : Except LinkError Unit),
      c.scene.calls[number]? = some (.close old) → (Call.close old).hasTaken →
      (c.scene.act T (.call number)).calls[number]? = some (.close (.done result)) →
        (c.scene.act T (.call number)).link.state = .closed ∧
          ∃ x, (c.scene.act T (.call number)).link.sessions.getLast? = some x ∧
            x.outcome?.isSome ∧ x.readHalf = false ∧ x.writeHalf = false) ∧
    (∀ (number : Nat) (result : Except LinkError Unit),
      c.scene.calls[number]? = some (.close .take) →
      (c.scene.act T (.call number)).calls[number]? = some (.close (.done result)) →
        c.scene.link.state = .closed ∨ (∃ d ∈ c.scene.calls, d.hasTaken) ∨
          ∃ id ∈ c.forsaken, id + 1 = c.scene.link.sessions.length) ∧
    (c.scene.link.locked = false → ∀ x ∈ c.scene.link.sessions,
      x.outcome?.isSome ∨ c.scene.link.state = .closed →
        x.readHalf = false ∧ x.writeHalf = false) ∧
    (c.scene.link.locked = false → (∀ d ∈ c.scene.calls, ¬d.hasTaken) →
      (∀ x ∈ c.scene.link.sessions.getLast?, x.outcome?.isSome) →
        (c.scene.link.state = .closed ↔ ∀ id ∈ c.forsaken,
          id + 1 = c.scene.link.sessions.length → .failed id ∈ c.scene.notes) ∧
        ((c.scene.link.startStep T .check).1 = .leave (.error .alreadyStarted) ↔
          c.scene.link.state ≠ .closed)) := by
  obtain ⟨phase, steady⟩ := steady_of_moves moves
  refine ⟨fun number old result => steady.closed_of_return, fun number result =>
    steady.cases_of_return, fun unlocked x member past => steady.released unlocked member past,
    fun unlocked free ended => ⟨steady.closed_at_rest unlocked free ended, ?_⟩⟩
  exact c.scene.link.refuses_iff T

/-- A close reports, and after another that was given up when a loop had given the session up, the
loops have closed the link. -/
theorem closed_when_closes_return_last :
    Relation.ReflTransGen (Move Device.transport) ⟨Scene.fresh Scene.rehearsed { } 0, []⟩
        ⟨rehearse reporting, []⟩ ∧
      ((rehearse reporting).act Device.transport (.call 1)).link.state = .closed ∧
      Relation.ReflTransGen (Move Device.transport) ⟨Scene.fresh Scene.rehearsed { } 0, []⟩
        ⟨givenUp unheard ending, [0]⟩ ∧
      (givenUp unheard ending).link.state = .closed := by
  have moves : Relation.ReflTransGen (Move Device.transport)
      ⟨Scene.fresh Scene.rehearsed { } 0, []⟩
      ⟨rehearse reporting, []⟩ :=
    moves_of_allowsAll Device.transport _ [] (by decide +kernel)
  have moves' : Relation.ReflTransGen (Move Device.transport)
      ⟨Scene.fresh Scene.rehearsed { } 0, []⟩ ⟨givenUp unheard ending, [0]⟩ :=
    moves_of_givenUp (by decide +kernel) rfl (by decide +kernel)
  obtain ⟨returns, -⟩ := closed_when_closes_return moves
  obtain ⟨closed, -⟩ := returns 1 (.report (.ok ()) false) (.ok ()) rfl rfl rfl
  obtain ⟨-, -, -, rests⟩ := closed_when_closes_return moves'
  obtain ⟨closed_iff, -⟩ := rests (by decide +kernel) (by decide +kernel) (by decide +kernel)
  refine ⟨moves, closed, moves', closed_iff.2 fun id given _ => ?_⟩
  obtain rfl := List.mem_singleton.1 given
  decide +kernel

/-- A close is made while another one awaits the loops.  It finds no session and returns, but the
link is closing and its loops run. -/
theorem returned_early :
    Relation.ReflTransGen (Move Device.transport) ⟨Scene.fresh Scene.rehearsed { } 0, []⟩
        ⟨rehearse overlapping, []⟩ ∧
      (rehearse overlapping).calls[2]? = some (.close (.done (.ok ()))) ∧
      (rehearse overlapping).link.state = .closing ∧ (rehearse overlapping).link.liveLoops = 2 :=
  ⟨moves_of_allowsAll Device.transport _ [] (by decide +kernel), rfl, by decide +kernel⟩

/-- A close is given up while it awaits the loops.  The loops end and no call is left, but the link
is closing, and a start is refused. -/
theorem never_closed :
    Relation.ReflTransGen (Move Device.transport) ⟨Scene.fresh Scene.rehearsed { } 0, []⟩
        ⟨givenUp awaiting ending, [0]⟩ ∧
      (∀ x ∈ (givenUp awaiting ending).link.sessions, x.outcome?.isSome) ∧
      (∀ d ∈ (givenUp awaiting ending).calls, d.isOver) ∧
      (givenUp awaiting ending).link.state = .closing ∧
      ((givenUp awaiting ending).link.startStep Device.transport .check).1 matches
        .leave (.error .alreadyStarted) :=
  ⟨moves_of_givenUp (by decide +kernel) rfl (by decide +kernel), by decide +kernel⟩

end Crowd

end FieldLink

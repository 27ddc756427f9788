import FieldLink.Proofs.Link.Phases

/-!
# Cancelling a poller

`Link.hush` cancels the poller of one session, as a stop of the polling does.  It makes no difference
to any other step: a step that is taken after it leaves what it leaves before it (`hush_step`,
`hush_callStep`).  Only the poller of that session looks, so for its own steps it must have ended, or
be cancelled already.  In particular what is hushed stays so (`Scene.hushed_act`), and a poller that
has ended may be hushed before an action or after it (`Scene.hush_act`).
-/

namespace FieldLink

namespace Link

variable {σ : Type} {T : Transport σ} {d id : Nat} {l : Link σ} {x : Session}

/-- Cancels the poller of a session. -/
def hush (d : Nat) (l : Link σ) : Link σ := l.update d fun x => { x with pollCancelled := true }

/-- A change of a session that leaves the cancelling of the poller alone may come before or after. -/
theorem hush_update (d id : Nat) {f : Session → Session} (l : Link σ)
    (apart : ∀ x, f { x with pollCancelled := true } = { f x with pollCancelled := true }) :
    (l.update id f).hush d = (l.hush d).update id f := by
  by_cases own : id = d
  · subst own
    rw [hush, hush, update_update, update_update]
    exact congrArg (l.update id) (funext fun x => (apart x).symm)
  · simp only [hush, update, List.modify_modify_ne _ _ _ own]

@[simp] theorem hush_readerTo (d id : Nat) (phase : ReaderPhase) (l : Link σ) :
    (l.readerTo id phase).hush d = (l.hush d).readerTo id phase := hush_update d id l fun _ => rfl

@[simp] theorem hush_writerTo (d id : Nat) (phase : WriterPhase) (l : Link σ) :
    (l.writerTo id phase).hush d = (l.hush d).writerTo id phase := hush_update d id l fun _ => rfl

@[simp] theorem hush_pollerTo (d id : Nat) (phase : PollerPhase) (l : Link σ) :
    (l.pollerTo id phase).hush d = (l.hush d).pollerTo id phase := hush_update d id l fun _ => rfl

theorem session_hush (at_id : l.sessions[id]? = some x) :
    ∃ cancelled, (l.hush d).sessions[id]? = some { x with pollCancelled := cancelled } := by
  by_cases own : id = d
  · subst own
    exact ⟨true, session_update at_id⟩
  · exact ⟨x.pollCancelled, (session_update_of_ne own).trans at_id⟩

theorem session_hush_of_none (at_id : l.sessions[id]? = none) :
    (l.hush d).sessions[id]? = none := by
  simp [hush, update, List.getElem?_modify, at_id]

/-! ## The programs within others -/

theorem hush_enqueue (d : Nat) (frame : Frame) (l : Link σ) :
    (l.hush d).enqueue frame = ((l.enqueue frame).1, (l.enqueue frame).2.hush d) := by
  have outbox : (l.hush d).outbox = l.outbox := rfl
  have options : (l.hush d).options = l.options := rfl
  simp only [enqueue, outbox, options]
  cases l.outbox with
  | none => rfl
  | some id =>
    cases at_id : l.sessions[id]? with
    | none => simp only [session_hush_of_none at_id, at_id]
    | some x =>
      obtain ⟨cancelled, at_id'⟩ := session_hush (d := d) at_id
      have deaf : ({ x with pollCancelled := cancelled } : Session).isDeaf = x.isDeaf := rfl
      simp only [at_id', at_id, deaf]
      split
      · rfl
      · split
        · rfl
        · rw [hush_update d id l fun _ => rfl]

theorem hush_sendStep (d : Nat) (frame : Frame) (phase : SendPhase) (l : Link σ) :
    (l.hush d).sendStep frame phase =
      ((l.sendStep frame phase).1, (l.sendStep frame phase).2.hush d) := by
  cases phase with
  | mark | restore | done => rfl
  | queue before =>
    simp only [sendStep, hush_enqueue]
    rcases l.enqueue frame with ⟨_ | _, l'⟩ <;> rfl

theorem hush_failStep (d id : Nat) (phase : FailPhase) (l : Link σ) :
    (l.hush d).failStep id phase =
      ((l.failStep id phase).1, (l.failStep id phase).2.hush d) := by
  cases phase with
  | mark | unplug => rfl
  | close =>
    have state : (l.hush d).state = l.state := rfl
    simp only [failStep, state]
    split <;> rfl
  | cancel =>
    simp only [failStep]
    rw [hush_update d id l fun _ => rfl]

theorem hush_leaveStep (d : Nat) (phase : LeavePhase) (l : Link σ) :
    (l.hush d).leaveStep phase = ((l.leaveStep phase).1, (l.leaveStep phase).2.hush d) := by
  cases phase with
  | count | judge | report => rfl
  | finish =>
    have state : (l.hush d).state = l.state := rfl
    simp only [leaveStep, state]
    split <;> rfl

theorem hush_dropHalf (T : Transport σ) (d id : Nat) {drop : Session → Session} (l : Link σ)
    (apart : ∀ x, drop { x with pollCancelled := true } = { drop x with pollCancelled := true }) :
    (l.dropHalf T id drop).hush d = (l.hush d).dropHalf T id drop := by
  simp only [dropHalf]
  rw [← hush_update d id l apart]
  generalize l.update id drop = l
  cases at_id : l.sessions[id]? with
  | none => simp only [session_hush_of_none at_id]
  | some x =>
    obtain ⟨cancelled, at_id'⟩ := session_hush (d := d) at_id
    simp only [at_id']
    split <;> rfl

/-! ## The loops -/

theorem hush_readerStep (T : Transport σ) (d id : Nat) (x : Session) (l : Link σ) :
    (l.readerStep T id x).hush d = (l.hush d).readerStep T id x := by
  unfold readerStep
  cases x.reader with
  | unborn | gone => rfl
  | look | read | clear | report => exact hush_readerTo d id _ _
  | deliver chunk =>
    have callback : (l.hush d).callback = l.callback := rfl
    simp only [callback]
    cases l.callback with
    | none => simp only [hush_readerTo]
    | some c =>
      obtain ⟨tag, replies⟩ := c
      cases replies <;> simp only [hush_readerTo] <;> rfl
  | reply chunk tag answer phase =>
    cases phase with
    | done => simp only [hush_readerTo]; rfl
    | mark | queue | restore => simp only [hush_readerTo, hush_sendStep]
  | fail phase => simp only [hush_readerTo, hush_failStep]
  | release =>
    simp only [hush_readerTo]
    rw [hush_dropHalf T d id l fun _ => rfl]
  | leave phase => simp only [hush_readerTo, hush_leaveStep]

theorem hush_writerStep (T : Transport σ) (d id : Nat) (x : Session) (l : Link σ) :
    (l.writerStep T id x).hush d = (l.hush d).writerStep T id x := by
  unfold writerStep
  cases x.writer with
  | unborn | gone => rfl
  | take =>
    simp only
    cases x.queue with
    | nil => simp only [hush_writerTo]; rfl
    | cons frame queue =>
      simp only [hush_writerTo]
      rw [hush_update d id l fun _ => rfl]
  | fail phase => simp only [hush_writerTo, hush_failStep]
  | release =>
    simp only [hush_writerTo]
    rw [hush_dropHalf T d id l fun _ => rfl]
  | leave phase => simp only [hush_writerTo, hush_leaveStep]
  | write | stalled | flush | draining | shutdown | ending => exact hush_writerTo d id _ _
  | look | attempt | report | clear | drop => exact hush_writerTo d id _ _

theorem hush_pollerStep (d id : Nat) (x : Session) (l : Link σ) :
    (l.pollerStep id x).hush d = (l.hush d).pollerStep id x := by
  unfold pollerStep
  cases x.poller with
  | unborn | gone | broken => rfl
  | begin | wait | copy | look | ask | settle | report => exact hush_pollerTo d id _ _
  | offer cycle =>
    cases left : cycle.left with
    | nil => simp only [left, hush_pollerTo]
    | cons command rest =>
      rcases result : l.enqueue command with ⟨e | _, l'⟩
      · cases e <;> simp only [left, hush_enqueue, result, hush_pollerTo]
      · simp only [left, hush_enqueue, result, hush_pollerTo]
  | leave phase => simp only [hush_pollerTo, hush_leaveStep]

/-- A step of a loop leaves the same whether a poller was cancelled before, unless it is the step of
that poller, and it goes on. -/
theorem hush_step (T : Transport σ) (p : Place) (l : Link σ)
    (heeds : ∀ x, p = ⟨d, .poller⟩ → l.sessions[d]? = some x →
      x.poller.stage.isIdle ∨ x.pollCancelled) :
    (l.step T p).hush d = (l.hush d).step T p := by
  obtain ⟨id, loop⟩ := p
  cases at_id : l.sessions[id]? with
  | none => simp only [step, session_hush_of_none at_id, at_id]
  | some x =>
    obtain ⟨cancelled, at_id'⟩ := session_hush (d := d) at_id
    simp only [step, at_id, at_id']
    cases loop with
    | reader => exact hush_readerStep T d id x l
    | writer => exact hush_writerStep T d id x l
    | poller =>
      rw [hush_pollerStep]
      by_cases own : id = d
      · subst own
        rcases heeds x rfl at_id with idle | already
        · unfold pollerStep
          cases poller : x.poller <;> first | rfl | (rw [poller] at idle; cases idle)
        · have hushed : l.hush id = l := update_of_eq at_id (by rw [← already])
          rw [hushed, at_id] at at_id'
          rw [← Option.some.inj at_id']
      · rw [hush, session_update_of_ne own, at_id] at at_id'
        rw [← Option.some.inj at_id']

/-! ## The calls -/

theorem hush_cancelPolling (d : Nat) (l : Link σ) :
    l.cancelPolling.hush d = (l.hush d).cancelPolling := by
  have current : (l.hush d).current = l.current := rfl
  simp only [cancelPolling, current]
  cases l.current with
  | none => rfl
  | some id => rw [hush_update d id l fun _ => rfl]

theorem hush_closeStep (d : Nat) (phase : ClosePhase) (l : Link σ) :
    (l.hush d).closeStep phase = ((l.closeStep phase).1, (l.closeStep phase).2.hush d) := by
  have locked : (l.hush d).locked = l.locked := rfl
  have state : (l.hush d).state = l.state := rfl
  have current : (l.hush d).current = l.current := rfl
  cases phase with
  | stopPolling =>
    simp only [closeStep, locked]
    split
    · rfl
    · rw [hush_cancelPolling]
  | take =>
    simp only [closeStep, locked, current]
    split
    · rfl
    · cases l.current <;> rfl
  | mark id =>
    simp only [closeStep, state]
    split <;> rfl
  | cancel id =>
    simp only [closeStep]
    rw [hush_update d id l fun _ => rfl]
  | join id =>
    cases at_id : l.sessions[id]? with
    | none => simp [closeStep, session_hush_of_none at_id, at_id]
    | some x =>
      obtain ⟨cancelled, at_id'⟩ := session_hush (d := d) at_id
      have outcome : ({ x with pollCancelled := cancelled } : Session).outcome? = x.outcome? := rfl
      simp only [closeStep, at_id', at_id, Option.bind_eq_bind, Option.bind_some, outcome]
      cases x.outcome? <;> rfl
  | unplug | judge | finish | clear | report | done => rfl

theorem hush_launch (d : Nat) (loop : Loop) (id : Nat) (l : Link σ) :
    (l.launch loop id).hush d = (l.hush d).launch loop id :=
  hush_update d id l fun _ => by cases loop <;> rfl

/-- A session that is made later was not hushed. -/
theorem hush_startStep (T : Transport σ) (phase : StartPhase) (l : Link σ)
    (known : d < l.sessions.length) :
    (l.hush d).startStep T phase =
      ((l.startStep T phase).1, (l.startStep T phase).2.hush d) := by
  have options : (l.hush d).options = l.options := rfl
  cases phase with
  | enter =>
    have locked : (l.hush d).locked = l.locked := rfl
    simp only [startStep, locked]
    split <;> rfl
  | check =>
    have state : (l.hush d).state = l.state := rfl
    simp only [startStep, state, options]
    split
    · rfl
    · cases l.options.validate <;> rfl
  | openUp =>
    have device : (l.hush d).device = l.device := rfl
    have length : (l.hush d).sessions.length = l.sessions.length := by simp [hush, update]
    simp only [startStep, options, device, length]
    cases T.openWith l.options l.device <;> rfl
  | makeQueue id =>
    simp only [startStep, options]
    split
    · rfl
    · simp only [hush, update, modify_append known]
  | launch loop id =>
    have next : (l.hush d).afterLaunch id loop = l.afterLaunch id loop := by cases loop <;> rfl
    simp only [startStep, next, hush_launch]
  | discard | refuse | forgetFailure | clear | count | plug | accept | store | report | leave
    | done | broken => rfl

theorem hush_callStep (T : Transport σ) (c : Call) (l : Link σ) (known : d < l.sessions.length) :
    c.step T (l.hush d) = ((c.step T l).1, (c.step T l).2.hush d) := by
  cases c with
  | start phase => simp only [Call.step, hush_startStep T phase l known]
  | send frame phase => simp only [Call.step, hush_sendStep]
  | close phase => simp only [Call.step, hush_closeStep]
  | stopPolling returned =>
    cases returned with
    | true => rfl
    | false =>
      have locked : (l.hush d).locked = l.locked := rfl
      simp only [Call.step, locked]
      split
      · rfl
      · rw [hush_cancelPolling]

/-! ## Notes -/

theorem taker?_hush (d : Nat) (frame : Frame) (l : Link σ) :
    (l.hush d).taker? frame = l.taker? frame := by
  unfold taker?
  rw [hush_enqueue]
  rcases l.enqueue frame with ⟨_ | _, l'⟩ <;> rfl

theorem sendNotes_hush (d : Nat) (frame : Frame) (phase : SendPhase) (l : Link σ) :
    (l.hush d).sendNotes frame phase = l.sendNotes frame phase := by
  cases phase with
  | queue => simp only [sendNotes, offerNotes, taker?_hush]
  | mark | restore | done => rfl

theorem loopNotes_hush (d : Nat) (p : Place) (l : Link σ) :
    (l.hush d).loopNotes p = l.loopNotes p := by
  unfold loopNotes
  cases at_id : l.sessions[p.session]? with
  | none => rw [session_hush_of_none at_id]
  | some x =>
    obtain ⟨cancelled, at_id'⟩ := session_hush (d := d) at_id
    rw [at_id']
    cases p.loop with
    | reader => simp only [readerNotes, sendNotes_hush]
    | writer => rfl
    | poller =>
      have offers : (l.hush d).offerNotes = l.offerNotes :=
        funext fun frame => by simp only [offerNotes, taker?_hush]
      simp only [pollerNotes, offers]

theorem callNotes_hush (d : Nat) (c : Call) (l : Link σ) : c.notes (l.hush d) = c.notes l := by
  cases c with
  | send frame phase => exact sendNotes_hush d frame phase l
  | start | stopPolling | close => rfl

/-- Hushing makes no difference to a session whose poller is cancelled, and to no other. -/
theorem hush_eq_iff (at_d : l.sessions[d]? = some x) : l.hush d = l ↔ x.pollCancelled := by
  constructor
  · intro same
    have at_d' : (l.hush d).sessions[d]? = some { x with pollCancelled := true } :=
      session_update at_d
    rw [same, at_d] at at_d'
    rw [Option.some.inj at_d']
  · intro cancelled
    exact update_of_eq at_d (by rw [← cancelled])

end Link

namespace Scene

variable {σ : Type} {d : Nat} {s : Scene σ}

/-- Cancels the poller of a session. -/
def hush (d : Nat) (s : Scene σ) : Scene σ := { s with link := s.link.hush d }

/-- A poller that does not heed whether it is cancelled may be cancelled before an action or after. -/
theorem hush_act (T : Transport σ) (known : d < s.link.sessions.length)
    (heeds : ∀ x, s.link.sessions[d]? = some x → x.poller.stage.isIdle ∨ x.pollCancelled)
    (a : Action σ) : (s.act T a).hush d = (s.hush d).act T a := by
  cases a with
  | loop p =>
    simp only [act, hush, ← Link.hush_step T p s.link fun x _ => heeds x, Link.loopNotes_hush]
    rfl
  | call number =>
    cases at_number : s.calls[number]? with
    | none =>
      have at_number' : (s.hush d).calls[number]? = none := at_number
      simp only [act, at_number, at_number']
    | some c =>
      have at_number' : (s.hush d).calls[number]? = some c := at_number
      rw [act_call T at_number, act_call T at_number']
      simp only [hush, Link.hush_callStep T c s.link known, Link.callNotes_hush]
      rfl
  | make | device | clock | command | callback => rfl

/-- The poller of a session is cancelled. -/
def Hushed (d : Nat) (s : Scene σ) : Prop :=
  ∃ x, s.link.sessions[d]? = some x ∧ x.pollCancelled

/-- A cancelled poller stays so. -/
theorem hushed_act (T : Transport σ) (hushed : s.Hushed d) (a : Action σ) :
    (s.act T a).Hushed d := by
  obtain ⟨x, at_d, cancelled⟩ := hushed
  have known := (List.getElem?_eq_some_iff.1 at_d).1
  have same := (Link.hush_eq_iff at_d).2 cancelled
  have kept (same : (s.act T a).link.hush d = (s.act T a).link) : (s.act T a).Hushed d := by
    obtain ⟨x', at_d', -⟩ := passes_act T a at_d
    exact ⟨x', at_d', (Link.hush_eq_iff at_d').1 same⟩
  cases a with
  | loop p =>
    refine kept ((Link.hush_step T p s.link fun y own at_y => ?_).trans (by rw [same]; rfl))
    rw [Option.some.inj (at_y.symm.trans at_d)]
    exact .inr cancelled
  | call number =>
    cases at_number : s.calls[number]? with
    | none =>
      simp only [act, at_number]
      exact ⟨x, at_d, cancelled⟩
    | some c =>
      have apart := Link.hush_callStep T c s.link known
      rw [same] at apart
      refine kept ?_
      rw [act_call T at_number]
      exact (congrArg Prod.snd apart).symm
  | make | device | clock | command | callback => exact ⟨x, at_d, cancelled⟩

end Scene

end FieldLink

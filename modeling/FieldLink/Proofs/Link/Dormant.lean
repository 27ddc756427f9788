import FieldLink.Proofs.Link.PollerCancellation

/-!
# Links that have let go

A link is dormant when no session accepts frames and no loop does more than tell its last
(`Link.Dormant`).  Nothing then depends on whether it still holds the session before, but the
closes: one that finds the session waits for its loops, returns what came of them and marks no
exchange as outstanding; one that finds none returns at once.

So a dormant link that holds a session is shadowed by one that has let it go and is the same
otherwise (`Link.bare`).  A loop does the same on both (`Link.Dormant.step`), and a call and its
shadow stay together until a start opens a session (`Link.Shadow.step`).
-/

namespace FieldLink

namespace Call

/-- A close that has returned without an error; any other call as it is. -/
def quieted : Call → Call
  | close (.done _) => close (.done (.ok ()))
  | c => c

/-- Whether a call is a close that has returned. -/
def hasClosed : Call → Bool
  | close (.done _) => true
  | _ => false

/-- Whether a call is at its beginning, or is a start that has been refused. -/
def isLight : Call → Bool
  | start .enter | start .check | start (.leave (.error _)) | send _ .mark | stopPolling false
  | close .stopPolling | close .take => true
  | _ => false

theorem isOver_quieted {c : Call} (finished : c.isOver) : c.quieted.isOver := by
  cases c with
  | close phase => cases phase <;> first | rfl | cases finished
  | start | send | stopPolling => exact finished

theorem not_isOver_of_isLight {c : Call} (light : c.isLight) : ¬c.isOver := by
  cases c with
  | start phase => cases phase <;> first | (rintro ⟨⟩; done) | cases light
  | send frame phase => cases phase <;> first | (rintro ⟨⟩; done) | cases light
  | stopPolling returned => cases returned <;> first | (rintro ⟨⟩; done) | cases light
  | close phase => cases phase <;> first | (rintro ⟨⟩; done) | cases light

theorem isLight_request (request : Request) : request.call.isLight := by
  cases request <;> rfl

end Call

namespace StartPhase

/-- Whether a start has forgotten the session before and has not cleared the mark of an exchange. -/
def isOpening : StartPhase → Bool
  | openUp | refuse _ | makeQueue _ | forgetFailure _ | clear _ => true
  | _ => false

/-- Whether a start has made its session and nothing can refuse it any more. -/
def hasOpened : StartPhase → Bool
  | count _ | plug _ | accept _ | launch _ _ | store _ | report => true
  | leave (.ok _) | done (.ok _) => true
  | _ => false

end StartPhase

/-- Whether a close that finds its session ended and the link closed is between its first step with
that session and its return. -/
def ClosePhase.isPassing (d : Nat) : ClosePhase → Bool
  | mark id | unplug id | cancel id | join id => id = d
  | judge _ | finish _ _ | clear _ _ false => true
  | _ => false

/-! ## Idle loops -/

theorem LeavePhase.eq_report_of_isIdle {phase : LeavePhase} (idle : (Stage.leaving phase).isIdle) :
    phase = .report := by
  cases phase <;> first | rfl | cases idle

theorem ReaderPhase.cases_of_isIdle {phase : ReaderPhase} (idle : phase.stage.isIdle) :
    phase = .unborn ∨ phase = .gone ∨ phase = .leave .report := by
  cases phase with
  | unborn => exact .inl rfl
  | gone => exact .inr (.inl rfl)
  | leave phase => exact .inr (.inr (congrArg _ (LeavePhase.eq_report_of_isIdle idle)))
  | _ => cases idle

theorem WriterPhase.cases_of_isIdle {phase : WriterPhase} (idle : phase.stage.isIdle) :
    phase = .unborn ∨ ∃ result, phase = .gone result ∨ phase = .leave .report result := by
  cases phase with
  | unborn => exact .inl rfl
  | gone result => exact .inr ⟨result, .inl rfl⟩
  | leave phase result =>
    rw [LeavePhase.eq_report_of_isIdle idle]
    exact .inr ⟨result, .inr rfl⟩
  | _ => cases idle

theorem PollerPhase.cases_of_isIdle {phase : PollerPhase} (idle : phase.stage.isIdle) :
    phase = .unborn ∨ phase = .gone ∨ phase = .broken ∨ phase = .leave .report := by
  cases phase with
  | unborn => exact .inl rfl
  | gone => exact .inr (.inl rfl)
  | broken => exact .inr (.inr (.inl rfl))
  | leave phase => exact .inr (.inr (.inr (congrArg _ (LeavePhase.eq_report_of_isIdle idle))))
  | _ => cases idle

namespace Link

variable {σ : Type} {T : Transport σ} {d : Nat} {b b' ended : Bool} {l l' : Link σ}

/-! ## Dormant links -/

/-- No session accepts frames, no loop does more than tell its last, and a session is cancelled, its
poller by itself as well. -/
structure Dormant (d : Nat) (l : Link σ) : Prop where
  unplugged : l.outbox = none
  idle : ∀ (id : Nat) (x : Session), l.sessions[id]? = some x →
    ∀ loop, (x.standing.stage loop).isIdle
  past : ∃ x, l.sessions[d]? = some x ∧ x.cancelled ∧ x.pollCancelled

/-- The link without a current session.  An exchange is marked as outstanding, or not. -/
def bare (sending : Bool) (l : Link σ) : Link σ := { l with current := none, sending }

theorem Dormant.congr (dormant : l.Dormant d) (outbox : l'.outbox = l.outbox)
    (sessions : l'.sessions = l.sessions) : l'.Dormant d where
  unplugged := outbox.trans dormant.unplugged
  idle := by
    rw [sessions]
    exact dormant.idle
  past := by
    rw [sessions]
    exact dormant.past

/-- An idle loop does nothing, or it reports the end of the link and is gone. -/
theorem step_of_idle (T : Transport σ) {p : Place} {x : Session}
    (idle : (x.standing.stage p.loop).isIdle) :
    ∃ (told : List LinkEvent) (f : Session → Session),
      (∀ y : Session, (∀ loop, (y.standing.stage loop).isIdle) →
        ∀ loop, ((f y).standing.stage loop).isIdle) ∧
      (∀ y : Session, (f y).cancelled = y.cancelled ∧ (f y).pollCancelled = y.pollCancelled) ∧
      ∀ l : Link σ, l.sessions[p.session]? = some x →
        l.step T p = { l with events := l.events ++ told }.update p.session f := by
  obtain ⟨id, loop⟩ := p
  have still (stays : ∀ l : Link σ, l.sessions[id]? = some x → l.step T ⟨id, loop⟩ = l) :
      ∃ (told : List LinkEvent) (f : Session → Session),
        (∀ y : Session, (∀ loop, (y.standing.stage loop).isIdle) →
          ∀ loop, ((f y).standing.stage loop).isIdle) ∧
        (∀ y : Session, (f y).cancelled = y.cancelled ∧ (f y).pollCancelled = y.pollCancelled) ∧
        ∀ l : Link σ, l.sessions[id]? = some x →
          l.step T ⟨id, loop⟩ = { l with events := l.events ++ told }.update id f := by
    refine ⟨[], fun y => y, fun _ h => h, fun _ => ⟨rfl, rfl⟩, fun l at_id => ?_⟩
    rw [List.append_nil, stays l at_id]
    exact (update_of_eq at_id rfl).symm
  cases loop with
  | reader =>
    rcases ReaderPhase.cases_of_isIdle idle with reader | reader | reader
    · exact still fun l at_id => by simp only [step, at_id, readerStep, reader]
    · exact still fun l at_id => by simp only [step, at_id, readerStep, reader]
    · refine ⟨[.closed true], fun y => { y with reader := .gone }, ?_, fun _ => ⟨rfl, rfl⟩,
        fun l at_id => by simp only [step, at_id, readerStep, reader]; rfl⟩
      rintro y others (_ | _ | _)
      · rfl
      · exact others .writer
      · exact others .poller
  | writer =>
    rcases WriterPhase.cases_of_isIdle idle with writer | ⟨result, writer | writer⟩
    · exact still fun l at_id => by simp only [step, at_id, writerStep, writer]
    · exact still fun l at_id => by simp only [step, at_id, writerStep, writer]
    · refine ⟨[.closed true], fun y => { y with writer := .gone result }, ?_, fun _ => ⟨rfl, rfl⟩,
        fun l at_id => by simp only [step, at_id, writerStep, writer]; rfl⟩
      rintro y others (_ | _ | _)
      · exact others .reader
      · rfl
      · exact others .poller
  | poller =>
    rcases PollerPhase.cases_of_isIdle idle with poller | poller | poller | poller
    · exact still fun l at_id => by simp only [step, at_id, pollerStep, poller]
    · exact still fun l at_id => by simp only [step, at_id, pollerStep, poller]
    · exact still fun l at_id => by simp only [step, at_id, pollerStep, poller]
    · refine ⟨[.closed true], fun y => { y with poller := .gone }, ?_, fun _ => ⟨rfl, rfl⟩,
        fun l at_id => by simp only [step, at_id, pollerStep, poller]; rfl⟩
      rintro y others (_ | _ | _)
      · exact others .reader
      · exact others .writer
      · rfl

/-- A dormant link stays so whatever its loops do, and they do the same on a bare one. -/
theorem Dormant.step (dormant : l.Dormant d) (T : Transport σ) (p : Place) (b : Bool) :
    (l.step T p).Dormant d ∧ (l.bare b).step T p = (l.step T p).bare b ∧
      (l.step T p).state = l.state ∧ (l.step T p).current = l.current ∧
        (l.step T p).sending = l.sending := by
  cases at_p : l.sessions[p.session]? with
  | none =>
    have bare : (l.bare b).sessions[p.session]? = none := at_p
    have stays : l.step T p = l := by simp only [Link.step, at_p]
    have stays' : (l.bare b).step T p = l.bare b := by simp only [Link.step, bare]
    rw [stays, stays']
    exact ⟨dormant, rfl, rfl, rfl, rfl⟩
  | some x =>
    obtain ⟨told, f, idle, same, stepped⟩ :=
      step_of_idle T (dormant.idle p.session x at_p p.loop)
    rw [stepped l at_p, stepped (l.bare b) at_p]
    have at_p' : (({ l with events := l.events ++ told } : Link σ).update
        p.session f).sessions[p.session]? = some (f x) := session_update at_p
    refine ⟨⟨dormant.unplugged, fun id y at_id => ?_, ?_⟩, rfl, rfl, rfl, rfl⟩
    · by_cases own : id = p.session
      · subst own
        rw [Option.some.inj (at_id.symm.trans at_p')]
        exact idle x (dormant.idle p.session x at_p)
      · rw [session_update_of_ne own] at at_id
        exact dormant.idle id y at_id
    · obtain ⟨y, at_d, cancelled, hushed⟩ := dormant.past
      by_cases own : d = p.session
      · subst own
        exact ⟨f y, session_update at_d, (same y).1.trans cancelled, (same y).2.trans hushed⟩
      · exact ⟨y, (session_update_of_ne own).trans at_d, cancelled, hushed⟩

/-! ## Calls -/

/-- What a dormant link may hold, with the mark of an exchange that stood at `b` before.  It holds
the session of before, or it has let it go; the mark may have been cleared if a close has `ended`. -/
def Holding (d : Nat) (b ended : Bool) (mark : Bool) (l : Link σ) : Prop :=
  (l.state = .closed ∧ l.current = some d ∧ mark = b) ∨
    l.current = none ∧ (mark = b ∨ ended ∧ mark = false)

/-- How a call stands on the bare link, where the mark is `b'`, while it stands at `c` on the
link. -/
inductive Shadow (d : Nat) (b ended : Bool) (l : Link σ) : Call → Call → Bool → Prop
  | light (c : Call) (light : c.isLight) (holding : l.Holding d b ended l.sending) :
      Shadow d b ended l c c b
  | discard (mark : l.sending = b ∨ ended ∧ l.sending = false) :
      Shadow d b ended l (.start .discard) (.start .discard) b
  | opening (phase : StartPhase) (opening : phase.isOpening) (let_go : l.current = none)
      (mark : l.sending = b ∨ ended ∧ l.sending = false) :
      Shadow d b ended l (.start phase) (.start phase) b
  | queue (frame : Frame) (before : Bool) (holding : l.Holding d b ended before)
      (marked : l.sending = true) :
      Shadow d b ended l (.send frame (.queue before)) (.send frame (.queue b)) true
  | restore (frame : Frame) (before : Bool) (e : LinkError) (holding : l.Holding d b ended before) :
      Shadow d b ended l (.send frame (.restore before e)) (.send frame (.restore b e)) true
  | passing (phase : ClosePhase) (passing : phase.isPassing d) (closed : l.state = .closed)
      (let_go : l.current = none) :
      Shadow d b ended l (.close phase) (.close (.done (.ok ()))) b

/-- Where a call on a dormant link and its shadow may come to in one step. -/
inductive Shadowed (d : Nat) (b ended : Bool) : Call × Link σ → Call × Link σ → Prop
  | goes (c c' : Call) (b' : Bool) (l : Link σ) (dormant : l.Dormant d)
      (shadow : l.Shadow d b ended c c' b') : Shadowed d b ended (c, l) (c', l.bare b')
  | ends (c : Call) (l : Link σ) (dormant : l.Dormant d) (finished : c.isOver)
      (idle : ¬c.hasStarted) (holding : l.Holding d b (ended || c.hasClosed) l.sending) :
      Shadowed d b ended (c, l) (c.quieted, l.bare b)
  | opens (phase : StartPhase) (l : Link σ) (opened : phase.hasOpened) :
      Shadowed d b ended (.start phase, l) (.start phase, l)

theorem Holding.weaken {mark ended' : Bool} (holding : l.Holding d b ended mark)
    (weaker : ended → ended') : l.Holding d b ended' mark :=
  holding.imp_right fun ⟨let_go, h⟩ => ⟨let_go, h.imp_right fun ⟨h, clear⟩ => ⟨weaker h, clear⟩⟩

theorem Holding.congr {mark : Bool} (holding : l.Holding d b ended mark)
    (state : l'.state = l.state) (current : l'.current = l.current) :
    l'.Holding d b ended mark := by
  rw [Holding, state, current]
  exact holding

/-- It is the state of a link, its current session and its mark that a shadow depends on. -/
theorem Shadow.congr {c c' : Call} (shadow : l.Shadow d b ended c c' b')
    (state : l'.state = l.state) (current : l'.current = l.current)
    (sending : l'.sending = l.sending) : l'.Shadow d b ended c c' b' := by
  cases shadow with
  | light c light holding =>
    refine .light c light ?_
    rw [sending]
    exact holding.congr state current
  | discard mark =>
    rw [← sending] at mark
    exact .discard mark
  | opening phase opening let_go mark =>
    rw [← sending] at mark
    exact .opening phase opening (current.trans let_go) mark
  | queue frame before holding marked =>
    exact .queue frame before (holding.congr state current) (sending.trans marked)
  | restore frame before e holding => exact .restore frame before e (holding.congr state current)
  | passing phase passing closed let_go =>
    exact .passing phase passing (state.trans closed) (current.trans let_go)

theorem Shadow.not_isOver {c c' : Call} (shadow : l.Shadow d b ended c c' b') : ¬c.isOver := by
  cases shadow with
  | light c light => exact Call.not_isOver_of_isLight light
  | discard | queue | restore => rintro ⟨⟩
  | opening phase opening => cases phase <;> first | (rintro ⟨⟩; done) | cases opening
  | passing phase passing => cases phase <;> first | (rintro ⟨⟩; done) | cases passing

/-- A poller that is cancelled already may be cancelled again, with nothing to show for it. -/
theorem Dormant.cancelPolling (dormant : l.Dormant d) {mark : Bool}
    (holding : l.Holding d b ended mark) : l.cancelPolling = l := by
  obtain ⟨x, at_d, -, hushed⟩ := dormant.past
  unfold Link.cancelPolling
  rcases holding with ⟨-, current, -⟩ | ⟨current, -⟩
  · rw [current]
    exact (hush_eq_iff at_d).2 hushed
  · rw [current]

/-- A call that has done nothing yet. -/
theorem Shadow.step_light (T : Transport σ) (dormant : l.Dormant d) {c : Call} (light : c.isLight)
    (holding : l.Holding d b ended l.sending) :
    Shadowed d b ended (c.step T l) (c.step T (l.bare b)) := by
  have stays : Shadowed d b ended (c, l) (c, l.bare b) :=
    .goes c c b l dormant (.light c light holding)
  cases c with
  | start phase =>
    cases phase with
    | enter =>
      have locked : (l.bare b).locked = l.locked := rfl
      simp only [Call.step, startStep, locked]
      split
      · exact stays
      · exact .goes _ _ b _ (dormant.congr rfl rfl) (.light _ rfl holding)
    | check =>
      have state : (l.bare b).state = l.state := rfl
      have options : (l.bare b).options = l.options := rfl
      simp only [Call.step, startStep, state, options]
      split
      · exact .goes _ _ b _ dormant (.light _ rfl holding)
      · cases l.options.validate with
        | error e => exact .goes _ _ b _ dormant (.light _ rfl holding)
        | ok =>
          refine .goes _ _ b { l with state := .opening } (dormant.congr rfl rfl) (.discard ?_)
          rcases holding with ⟨-, -, mark⟩ | ⟨-, mark⟩
          · exact .inl mark
          · exact mark
    | leave result =>
      cases result with
      | error e =>
        exact .ends _ { l with locked := false } (dormant.congr rfl rfl) rfl (by rintro ⟨⟩)
          (holding.weaken fun h => by rw [h]; rfl)
      | ok => cases light
    | _ => cases light
  | send frame phase =>
    cases phase with
    | mark =>
      exact .goes _ _ true { l with sending := true } (dormant.congr rfl rfl)
        (.queue frame l.sending holding rfl)
    | queue | restore | done => cases light
  | stopPolling returned =>
    cases returned with
    | true => cases light
    | false =>
      have locked : (l.bare b).locked = l.locked := rfl
      simp only [Call.step, locked, dormant.cancelPolling holding]
      split
      · exact stays
      · exact .ends _ l dormant rfl (by rintro ⟨⟩) (holding.weaken fun h => by rw [h]; rfl)
  | close phase =>
    cases phase with
    | stopPolling =>
      have locked : (l.bare b).locked = l.locked := rfl
      simp only [Call.step, closeStep, locked, dormant.cancelPolling holding]
      split
      · exact stays
      · exact .goes _ _ b l dormant (.light _ rfl holding)
    | take =>
      have locked : (l.bare b).locked = l.locked := rfl
      have current : (l.bare b).current = none := rfl
      simp only [Call.step, closeStep, locked, current]
      split
      · exact stays
      · rcases holding with ⟨closed, held, mark⟩ | ⟨let_go, mark⟩
        · simp only [held]
          exact .goes _ _ b { l with current := none } (dormant.congr rfl rfl)
            (.passing _ (decide_eq_true rfl) closed rfl)
        · simp only [let_go]
          exact .ends _ l dormant rfl (by rintro ⟨⟩)
            (.inr ⟨let_go, mark.imp_right fun h => ⟨by simp [h.1], h.2⟩⟩)
    | _ => cases light

/-- A start that makes its session, or is refused. -/
theorem Shadow.step_opening (T : Transport σ) (dormant : l.Dormant d) {phase : StartPhase}
    (opening : phase.isOpening) (let_go : l.current = none)
    (mark : l.sending = b ∨ ended ∧ l.sending = false) :
    Shadowed d b ended ((Call.start phase).step T l) ((Call.start phase).step T (l.bare b)) := by
  cases phase with
  | openUp =>
    have options : (l.bare b).options = l.options := rfl
    have device : (l.bare b).device = l.device := rfl
    have sessions : (l.bare b).sessions = l.sessions := rfl
    simp only [Call.step, startStep, options, device, sessions]
    cases T.openWith l.options l.device with
    | error e => exact .goes _ _ b l dormant (.opening _ rfl let_go mark)
    | ok device =>
      exact .goes _ _ b { l with device } (dormant.congr rfl rfl) (.opening _ rfl let_go mark)
  | refuse e =>
    exact .goes _ _ b { l with state := .closed } (dormant.congr rfl rfl)
      (.light _ rfl (.inr ⟨let_go, mark⟩))
  | makeQueue id =>
    have options : (l.bare b).options = l.options := rfl
    simp only [Call.step, startStep, options]
    split
    · exact .ends _ { l with device := T.release l.device, locked := false } (dormant.congr rfl rfl)
        rfl (by rintro ⟨⟩) (.inr ⟨let_go, mark.imp_right fun h => ⟨by simp [h.1], h.2⟩⟩)
    · refine .goes _ _ b { l with sessions := l.sessions ++ [{ }] } ⟨dormant.unplugged, ?_, ?_⟩
        (.opening _ rfl let_go mark)
      · intro k x at_k loop
        rcases getElem?_concat_cases at_k with old | ⟨-, rfl⟩
        · exact dormant.idle k x old loop
        · cases loop <;> rfl
      · obtain ⟨x, at_d, past⟩ := dormant.past
        exact ⟨x, (List.getElem?_append_left (List.getElem?_eq_some_iff.1 at_d).1).trans at_d, past⟩
  | forgetFailure id =>
    exact .goes _ _ b { l with failed := false } (dormant.congr rfl rfl)
      (.opening _ rfl let_go mark)
  | clear id =>
    have same : (l.bare b).clearSending = l.clearSending := by
      simp only [clearSending, bare, let_go]
    simp only [Call.step, startStep, same]
    exact .opens _ _ rfl
  | _ => cases opening

/-- A close that finds its session ended on a link that is closed, while its shadow has returned. -/
theorem Shadow.step_passing (T : Transport σ) (dormant : l.Dormant d) {phase : ClosePhase}
    (passing : phase.isPassing d) (closed : l.state = .closed) (let_go : l.current = none) :
    Shadowed d b ended ((Call.close phase).step T l)
      ((Call.close (.done (.ok ()))).step T (l.bare b)) := by
  have goes (phase' : ClosePhase) (passing : phase'.isPassing d) :
      Shadowed d b ended (Call.close phase', l) (Call.close (.done (.ok ())), l.bare b) :=
    .goes _ _ b l dormant (.passing phase' passing closed let_go)
  cases phase with
  | mark id =>
    simp only [Call.step, closeStep, closed]
    exact goes (.unplug id) passing
  | unplug id =>
    have same : { l with outbox := none } = l := by rw [← dormant.unplugged]
    simp only [Call.step, closeStep, same]
    exact goes (.cancel id) passing
  | cancel id =>
    obtain rfl : id = d := of_decide_eq_true passing
    obtain ⟨x, at_d, cancelled, -⟩ := dormant.past
    have same : l.update id (fun s => { s with cancelled := true }) = l :=
      update_of_eq at_d (by rw [← cancelled])
    simp only [Call.step, closeStep, same]
    exact goes (.join id) passing
  | join id =>
    simp only [Call.step, closeStep]
    cases l.sessions[id]? >>= Session.outcome? with
    | none => exact goes (.join id) passing
    | some outcome => exact goes (.judge (closeResult outcome)) rfl
  | judge result => exact goes (.finish result l.failed) rfl
  | finish result fatal =>
    have same : { l with state := .closed } = l := by rw [← closed]
    simp only [Call.step, closeStep, same, closed]
    exact goes (.clear result fatal false) rfl
  | clear result fatal changed =>
    cases changed with
    | true => cases passing
    | false =>
      exact .ends (.close (.done result)) l.clearSending (dormant.congr rfl rfl) rfl
        (by rintro ⟨⟩) (.inr ⟨let_go, .inr ⟨by simp [Call.hasClosed], rfl⟩⟩)
  | stopPolling | take | report | done => cases passing

/-- A call and its shadow each take a step. -/
theorem Shadow.step {c c' : Call} (T : Transport σ) (dormant : l.Dormant d)
    (shadow : l.Shadow d b ended c c' b') :
    Shadowed d b ended (c.step T l) (c'.step T (l.bare b')) := by
  cases shadow with
  | light c light holding => exact step_light T dormant light holding
  | discard mark =>
    exact .goes _ _ b { l with current := none } (dormant.congr rfl rfl) (.opening _ rfl rfl mark)
  | opening phase opening let_go mark => exact step_opening T dormant opening let_go mark
  | queue frame before holding marked =>
    have refused : l.enqueue frame = (.error .notOpen, l) := by
      simp only [enqueue, dormant.unplugged]
    have refused' : (l.bare true).enqueue frame = (.error .notOpen, l.bare true) := by
      have unplugged : (l.bare true).outbox = none := dormant.unplugged
      simp only [enqueue, unplugged]
    simp only [Call.step, sendStep, refused, refused']
    exact .goes _ _ true l dormant (.restore frame before _ holding)
  | restore frame before e holding =>
    exact .ends (.send frame (.done (.error e))) { l with sending := before }
      (dormant.congr rfl rfl) rfl (by rintro ⟨⟩) (holding.weaken fun h => by rw [h]; rfl)
  | passing phase passing closed let_go => exact step_passing T dormant passing closed let_go

end Link

end FieldLink

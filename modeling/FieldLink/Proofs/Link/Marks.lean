import FieldLink.Proofs.Link.Accounts
import FieldLink.Proofs.Link.Phases

/-!
# The mark of an outstanding exchange

What happens to the mark of an outstanding exchange, as the steps of sends and loops interleave.  A
send sets the mark, offers its frame, and puts back the mark that it found if the frame is refused;
meanwhile others set and clear the mark (`Signal`).  `Scene.marking_act` lists what one action does
to the mark and to what the sends under way would put back.

Sends that nest leave the mark alone if they are refused, and a mark that nobody clears or puts back
stays (`sending_after_sends`).  Where refused sends cross each other, or a chunk, the mark may be
lost or stick (`mark_sticks`, `mark_is_lost`), and a frame that the receive callback sends keeps no
mark (`reply_is_unmarked`).
-/

namespace FieldLink

/-- Who sends a frame: a call, or the reader of a session, for the receive callback. -/
inductive Sender where
  | call (number : Nat)
  | reader (session : Nat)
  deriving DecidableEq, Repr

/-- Why no exchange is outstanding any more. -/
inductive Relief where
  /-- A chunk was read. -/
  | chunk
  /-- A frame was given up. -/
  | drop
  /-- A session is opened. -/
  | opening
  /-- The link was closed. -/
  | closing
  deriving DecidableEq, Repr

/-- What happens to the mark of an outstanding exchange. -/
inductive Signal where
  /-- A send sets the mark. -/
  | marked (who : Sender)
  /-- A session accepts the frame of a send. -/
  | accepted (who : Sender) (session : Nat) (frame : Frame)
  /-- A send puts back the mark that it found. -/
  | restored (who : Sender)
  /-- The mark is cleared. -/
  | cleared (relief : Relief)
  deriving DecidableEq, Repr

/-! ## What is noted, and what a send would put back -/

/-- The mark that a send found and would put back. -/
def SendPhase.saved? : SendPhase → Option Bool
  | queue before | restore before _ => some before
  | _ => none

/-- The mark that the send of a reader found and would put back. -/
def ReaderPhase.saved? : ReaderPhase → Option Bool
  | reply _ _ _ phase => phase.saved?
  | _ => none

/-- The mark that a call found and would put back. -/
def Call.saved? : Call → Option Bool
  | send _ phase => phase.saved?
  | _ => none

/-- What one step of a send does to the mark. -/
def Link.sendSignals {σ : Type} (who : Sender) (frame : Frame) (l : Link σ) :
    SendPhase → List Signal
  | .mark => [.marked who]
  | .queue _ => (l.taker? frame).toList.map (.accepted who · frame)
  | .restore _ _ => [.restored who]
  | .done _ => []

namespace Scene

variable {σ : Type}

/-- The mark that a send found and would put back. -/
def saved? (s : Scene σ) : Sender → Option Bool
  | .call number => s.calls[number]? >>= Call.saved?
  | .reader session => s.link.sessions[session]? >>= fun x => x.reader.saved?

/-- What an action does to the mark. -/
def signalsOf : Action σ → Scene σ → List Signal
  | .loop ⟨id, .reader⟩, s =>
    match s.link.sessions[id]?.map Session.reader with
    | some (.reply _ _ answer phase) => s.link.sendSignals (.reader id) answer phase
    | some (.clear _) => [.cleared .chunk]
    | _ => []
  | .loop ⟨id, .writer⟩, s =>
    match s.link.sessions[id]?.map Session.writer with
    | some (.clear _) => [.cleared .drop]
    | _ => []
  | .call number, s =>
    match s.calls[number]? with
    | some (.send frame phase) => s.link.sendSignals (.call number) frame phase
    | some (.start (.clear _)) => [.cleared .opening]
    | some (.close (.clear _ _ _)) => [.cleared .closing]
    | _ => []
  | _, _ => []

/-- What happens to the mark in a run. -/
def signals (T : Transport σ) (actions : List (Action σ)) (s : Scene σ) : List Signal :=
  trace T signalsOf actions s

end Scene

/-! ## The mark after a step -/

namespace Link

variable {σ : Type}

theorem sending_failStep (id : Nat) (phase : FailPhase) (l : Link σ) :
    (l.failStep id phase).2.sending = l.sending := by
  obtain ⟨sessions, state, outbox, failed, same⟩ := l.failStep_writes id phase
  rw [same]

theorem sending_leaveStep (phase : LeavePhase) (l : Link σ) :
    (l.leaveStep phase).2.sending = l.sending := by
  obtain ⟨state, liveLoops, events, same⟩ := l.leaveStep_writes phase
  rw [same]

theorem sending_dropHalf (T : Transport σ) (id : Nat) (drop : Session → Session) (l : Link σ) :
    (l.dropHalf T id drop).sending = l.sending := by
  obtain ⟨device, eq⟩ := dropHalf_eq T id drop l
  rw [eq]
  rfl

theorem sending_readerStep (T : Transport σ) (id : Nat) (x : Session) (l : Link σ) :
    (l.readerStep T id x).sending =
      match x.reader with
      | .reply _ _ answer phase => (l.sendStep answer phase).2.sending
      | .clear _ => false
      | _ => l.sending := by
  unfold readerStep
  cases x.reader with
  | deliver chunk =>
    cases l.callback with
    | none => rfl
    | some c =>
      obtain ⟨tag, replies⟩ := c
      cases replies <;> rfl
  | reply chunk tag answer phase => cases phase <;> rfl
  | fail phase => exact l.sending_failStep id phase
  | release => exact l.sending_dropHalf T id _
  | leave phase => exact l.sending_leaveStep phase
  | unborn | look | read | clear | report | gone => rfl

theorem sending_writerStep (T : Transport σ) (id : Nat) (x : Session) (l : Link σ) :
    (l.writerStep T id x).sending =
      match x.writer with
      | .clear _ => false
      | _ => l.sending := by
  unfold writerStep
  cases x.writer with
  | take => cases x.queue <;> rfl
  | fail phase => exact l.sending_failStep id phase
  | release => exact l.sending_dropHalf T id _
  | leave phase => exact l.sending_leaveStep phase
  | _ => rfl

theorem sending_pollerStep (id : Nat) (x : Session) (l : Link σ) :
    (l.pollerStep id x).sending = l.sending := by
  obtain ⟨sessions, state, liveLoops, events, same⟩ := l.pollerStep_writes id x
  rw [same]

theorem sending_startStep (T : Transport σ) (phase : StartPhase) (l : Link σ) :
    (l.startStep T phase).2.sending =
      match phase with
      | .clear _ => false
      | _ => l.sending := by
  cases phase with
  | enter | makeQueue => simp only [startStep]; split <;> rfl
  | check =>
    obtain ⟨state, same⟩ := l.startStep_check T
    rw [same]
  | openUp => simp only [startStep]; cases T.openWith l.options l.device <;> rfl
  | _ => rfl

theorem sending_cancelPolling (l : Link σ) : l.cancelPolling.sending = l.sending := by
  obtain ⟨sessions, same⟩ := l.cancelPolling_writes
  rw [same]

theorem sending_closeStep (phase : ClosePhase) (l : Link σ) :
    (l.closeStep phase).2.sending =
      match phase with
      | .clear _ _ _ => false
      | _ => l.sending := by
  cases phase with
  | stopPolling =>
    simp only [closeStep]
    split
    · rfl
    · exact l.sending_cancelPolling
  | take =>
    obtain ⟨current, same⟩ := l.closeStep_take
    rw [same]
  | mark id | join id => simp only [closeStep]; split <;> rfl
  | _ => rfl

/-- A reader that does not send has nothing to put back, and has not after its next step. -/
theorem saved?_readerNext (T : Transport σ) (id : Nat) {x : Session} (l : Link σ)
    (still : ∀ chunk tag answer phase, x.reader ≠ .reply chunk tag answer phase) :
    (l.readerNext T id x).saved? = none := by
  unfold readerNext
  cases reader : x.reader with
  | reply chunk tag answer phase => exact absurd reader (still chunk tag answer phase)
  | look => simp only; split <;> rfl
  | read =>
    simp only [readerAfter]
    repeat' split
    all_goals rfl
  | deliver chunk => simp only; split <;> rfl
  | fail phase => cases phase <;> rfl
  | leave phase =>
    simp only
    cases (l.leaveStep phase).1 <;> rfl
  | unborn | clear | report | release | gone => rfl

/-- What one step of a send does to the mark, and to what the send would put back. -/
inductive SendMarking (who : Sender) (frame : Frame) (phase : SendPhase) (l : Link σ) : Prop
  | still (signals : l.sendSignals who frame phase = [])
      (sending : (l.sendStep frame phase).2.sending = l.sending)
      (saved : (l.sendStep frame phase).1.saved? = phase.saved?)
  | mark (signals : l.sendSignals who frame phase = [.marked who])
      (unsaved : phase.saved? = none) (sending : (l.sendStep frame phase).2.sending = true)
      (saved : (l.sendStep frame phase).1.saved? = some l.sending)
  | accept (before : Bool) (id : Nat)
      (signals : l.sendSignals who frame phase = [.accepted who id frame])
      (was : phase.saved? = some before)
      (sending : (l.sendStep frame phase).2.sending = l.sending)
      (saved : (l.sendStep frame phase).1.saved? = none)
  | restore (before : Bool) (signals : l.sendSignals who frame phase = [.restored who])
      (was : phase.saved? = some before)
      (sending : (l.sendStep frame phase).2.sending = before)
      (saved : (l.sendStep frame phase).1.saved? = none)

theorem sendMarking (who : Sender) (frame : Frame) (phase : SendPhase) (l : Link σ) :
    l.SendMarking who frame phase := by
  cases phase with
  | mark => exact .mark rfl rfl rfl rfl
  | restore before e => exact .restore before rfl rfl rfl rfl
  | done => exact .still rfl rfl rfl
  | queue before =>
    rcases l.enqueue_cases frame with ⟨e, result, none⟩ | ⟨id, x, -, -, -, -, result, taker⟩
    · exact .still (by simp [sendSignals, none]) (by simp [sendStep, result])
        (by simp [sendStep, result, SendPhase.saved?])
    · exact .accept before id (by simp [sendSignals, taker]) rfl
        (by simp [sendStep, result, update]) (by simp [sendStep, result, SendPhase.saved?])

end Link

/-- Who sends a frame when an action is a step of a send. -/
def Action.sender? {σ : Type} : Action σ → Option Sender
  | .loop ⟨id, .reader⟩ => some (.reader id)
  | .call number => some (.call number)
  | _ => none

namespace Scene

variable {σ : Type} {T : Transport σ} {s s' : Scene σ}

/-- What an action does to the mark, and to what the sends under way would put back. -/
inductive Marking (a : Action σ) (s s' : Scene σ) : List Signal → Prop
  | still (sending : s'.link.sending = s.link.sending)
      (saved : ∀ v, s'.saved? v = s.saved? v ∨ a.sender? ≠ some v ∧ s'.saved? v = none) :
      Marking a s s' []
  | mark (who : Sender) (acts : a.sender? = some who) (unsaved : s.saved? who = none)
      (sending : s'.link.sending = true) (saved : s'.saved? who = some s.link.sending)
      (others : ∀ v, v ≠ who → s'.saved? v = s.saved? v) : Marking a s s' [.marked who]
  | accept (who : Sender) (before : Bool) (id : Nat) (frame : Frame)
      (acts : a.sender? = some who) (was : s.saved? who = some before)
      (sending : s'.link.sending = s.link.sending) (saved : s'.saved? who = none)
      (others : ∀ v, v ≠ who → s'.saved? v = s.saved? v) :
      Marking a s s' [.accepted who id frame]
  | restore (who : Sender) (before : Bool) (acts : a.sender? = some who)
      (was : s.saved? who = some before) (sending : s'.link.sending = before)
      (saved : s'.saved? who = none) (others : ∀ v, v ≠ who → s'.saved? v = s.saved? v) :
      Marking a s s' [.restored who]
  | clear (relief : Relief) (sending : s'.link.sending = false)
      (unsaved : ∀ who, a.sender? = some who → s.saved? who = none)
      (saved : ∀ v, s'.saved? v = s.saved? v) : Marking a s s' [.cleared relief]

/-- A step of a send marks as the send does. -/
theorem Marking.of_send {a : Action σ} {who : Sender} {frame : Frame} {phase : SendPhase}
    (acts : a.sender? = some who) (was : s.saved? who = phase.saved?)
    (sending : s'.link.sending = (s.link.sendStep frame phase).2.sending)
    (own : s'.saved? who = (s.link.sendStep frame phase).1.saved?)
    (others : ∀ v, v ≠ who → s'.saved? v = s.saved? v) :
    Marking a s s' (s.link.sendSignals who frame phase) := by
  cases s.link.sendMarking who frame phase with
  | still signals same saved =>
    rw [signals]
    refine .still (sending.trans same) fun v => .inl ?_
    by_cases h : v = who
    · rw [h, own, saved, was]
    · exact others v h
  | mark signals unsaved set saved =>
    rw [signals]
    exact .mark who acts (was.trans unsaved) (sending.trans set) (own.trans saved) others
  | accept before id signals had same saved =>
    rw [signals]
    exact .accept who before id frame acts (was.trans had) (sending.trans same) (own.trans saved)
      others
  | restore before signals had back saved =>
    rw [signals]
    exact .restore who before acts (was.trans had) (sending.trans back) (own.trans saved) others

/-- A send of a call is moved by that call alone. -/
theorem saved?_call_of_ne (T : Transport σ) {a : Action σ} {number : Nat} (ne : a ≠ .call number) :
    (s.act T a).saved? (.call number) = s.saved? (.call number) := by
  cases a with
  | call n =>
    have ne : n ≠ number := fun same => ne (same ▸ rfl)
    cases at_n : s.calls[n]? with
    | none => simp only [act, at_n]
    | some c =>
      rw [act_call T at_n]
      simp only [saved?, List.getElem?_set_ne ne]
  | make request =>
    simp only [act, saved?]
    by_cases before : number < s.calls.length
    · rw [List.getElem?_append_left before]
    · rw [List.getElem?_eq_none (Nat.le_of_not_lt before)]
      cases at_number : (s.calls ++ [request.call])[number]? with
      | none => rfl
      | some c =>
        rcases getElem?_concat_cases at_number with old | ⟨-, rfl⟩
        · exact absurd (List.getElem?_eq_some_iff.1 old).1 before
        · cases request <;> rfl
  | loop | device | clock | command | callback => rfl

/-- A send of a reader is moved by that reader alone, or ends when the reader is begun. -/
theorem saved?_reader_of_ne (T : Transport σ) {a : Action σ} (id : Nat)
    (ne : a ≠ .loop ⟨id, .reader⟩) :
    (s.act T a).saved? (.reader id) = s.saved? (.reader id) ∨
      s.Begins a .reader id ∧ (s.act T a).saved? (.reader id) = none := by
  simp only [saved?]
  cases at_id' : (s.act T a).link.sessions[id]? with
  | none =>
    cases at_id : s.link.sessions[id]? with
    | none => exact .inl rfl
    | some x =>
      obtain ⟨x', at_x', -⟩ := passes_act T a at_id
      cases at_x'.symm.trans at_id'
  | some x' =>
    rcases session_act_cases T a at_id' with ⟨x, at_id, passes⟩ | ⟨at_id, rfl⟩
    · rw [at_id]
      rcases passes.reader_of_ne ne with same | ⟨begins, look⟩
      · exact .inl (congrArg ReaderPhase.saved? same)
      · exact .inr ⟨begins, congrArg ReaderPhase.saved? look⟩
    · rw [at_id]
      exact .inl rfl

/-- A step that is none of a send moves no send that is under way. -/
theorem saved?_of_ne (T : Transport σ) {a : Action σ} {who : Sender}
    (call : ∀ number, who = .call number → a ≠ .call number)
    (reader : ∀ id, who = .reader id → a ≠ .loop ⟨id, .reader⟩)
    (stays : ∀ id, ¬s.Begins a .reader id) : (s.act T a).saved? who = s.saved? who := by
  cases who with
  | call number => exact saved?_call_of_ne T (call number rfl)
  | reader id =>
    exact (saved?_reader_of_ne T id (reader id rfl)).resolve_right fun h => stays id h.1

/-- What a step of a reader does to the mark. -/
theorem marking_reader (T : Transport σ) (id : Nat) (s : Scene σ) :
    Marking (.loop ⟨id, .reader⟩) s (s.act T (.loop ⟨id, .reader⟩))
      (signalsOf (.loop ⟨id, .reader⟩) s) := by
  have others (v : Sender) (ne : v ≠ .reader id) :
      (s.act T (.loop ⟨id, .reader⟩)).saved? v = s.saved? v :=
    saved?_of_ne T (by rintro _ - ⟨⟩) (by rintro k rfl ⟨⟩; exact ne rfl)
      (by rintro k ⟨_, ⟨⟩, _⟩)
  cases at_id : s.link.sessions[id]? with
  | none =>
    have same : s.link.step T ⟨id, .reader⟩ = s.link := by simp only [Link.step, at_id]
    have signals : signalsOf (.loop ⟨id, .reader⟩) s = [] := by simp [signalsOf, at_id]
    rw [signals]
    exact .still (congrArg Link.sending same) fun v => .inl (by simp only [act, same]; rfl)
  | some x =>
    obtain ⟨x', at_id', passes⟩ := passes_act T (.loop ⟨id, .reader⟩) at_id
    have was : s.saved? (.reader id) = x.reader.saved? := by simp [saved?, at_id]
    have own : (s.act T (.loop ⟨id, .reader⟩)).saved? (.reader id) =
        (s.link.readerNext T id x).saved? := by
      simp only [saved?, at_id', ← passes.reader rfl]
      rfl
    have sending : (s.act T (.loop ⟨id, .reader⟩)).link.sending =
        (s.link.readerStep T id x).sending := by
      rw [act_reader T at_id]
    rw [Link.sending_readerStep] at sending
    simp only [signalsOf, at_id, Option.map_some]
    -- a step after which nothing would be put back, as before
    have quiet (still : ∀ chunk tag answer phase, x.reader ≠ .reply chunk tag answer phase)
        (before : x.reader.saved? = none) (v : Sender) :
        (s.act T (.loop ⟨id, .reader⟩)).saved? v = s.saved? v := by
      by_cases h : v = .reader id
      · rw [h, own, Link.saved?_readerNext T id s.link still, was, before]
      · exact others v h
    cases reader : x.reader with
    | reply chunk tag answer phase =>
      rw [reader] at was
      rw [Link.readerNext, reader] at own
      simp only [reader] at sending
      refine .of_send rfl was sending ?_ others
      cases phase <;> exact own
    | clear chunk =>
      simp only [reader] at sending
      have unsaved : x.reader.saved? = none := by rw [reader]; rfl
      refine .clear .chunk sending ?_ (quiet (by rw [reader]; rintro _ _ _ _ ⟨⟩) unsaved)
      rintro _ ⟨⟩
      exact was.trans unsaved
    | unborn | look | read | deliver | report | fail | release | leave | gone =>
      simp only [reader] at sending
      have still : ∀ chunk tag answer phase, x.reader ≠ .reply chunk tag answer phase := by
        rw [reader]
        rintro _ _ _ _ ⟨⟩
      exact .still sending fun v => .inl (quiet still (by rw [reader]; rfl) v)

/-- What a step of a writer does to the mark. -/
theorem marking_writer (T : Transport σ) (id : Nat) (s : Scene σ) :
    Marking (.loop ⟨id, .writer⟩) s (s.act T (.loop ⟨id, .writer⟩))
      (signalsOf (.loop ⟨id, .writer⟩) s) := by
  have saved (v : Sender) : (s.act T (.loop ⟨id, .writer⟩)).saved? v = s.saved? v :=
    saved?_of_ne T (by rintro _ - ⟨⟩) (by rintro _ - ⟨⟩) (by rintro k ⟨_, ⟨⟩, _⟩)
  cases at_id : s.link.sessions[id]? with
  | none =>
    have same : s.link.step T ⟨id, .writer⟩ = s.link := by simp only [Link.step, at_id]
    have signals : signalsOf (.loop ⟨id, .writer⟩) s = [] := by simp [signalsOf, at_id]
    rw [signals]
    exact .still (congrArg Link.sending same) fun v => .inl (saved v)
  | some x =>
    have sending : (s.act T (.loop ⟨id, .writer⟩)).link.sending =
        (s.link.writerStep T id x).sending := by
      rw [act_writer T at_id]
    rw [Link.sending_writerStep] at sending
    simp only [signalsOf, at_id, Option.map_some]
    cases writer : x.writer with
    | clear frame =>
      rw [writer] at sending
      exact .clear .drop sending (by rintro _ ⟨⟩) saved
    | _ =>
      rw [writer] at sending
      exact .still sending fun v => .inl (saved v)

/-- What a step of a poller does to the mark. -/
theorem marking_poller (T : Transport σ) (id : Nat) (s : Scene σ) :
    Marking (.loop ⟨id, .poller⟩) s (s.act T (.loop ⟨id, .poller⟩)) [] := by
  have saved (v : Sender) : (s.act T (.loop ⟨id, .poller⟩)).saved? v = s.saved? v :=
    saved?_of_ne T (by rintro _ - ⟨⟩) (by rintro _ - ⟨⟩) (by rintro k ⟨_, ⟨⟩, _⟩)
  refine .still ?_ fun v => .inl (saved v)
  simp only [act, Link.step]
  cases s.link.sessions[id]? with
  | none => rfl
  | some x => exact Link.sending_pollerStep id x s.link

/-- What a step of a call does to the mark. -/
theorem marking_call (T : Transport σ) {number : Nat} {c : Call}
    (at_number : s.calls[number]? = some c) :
    Marking (.call number) s (s.act T (.call number)) (signalsOf (.call number) s) := by
  have bound := (List.getElem?_eq_some_iff.1 at_number).1
  have link : (s.act T (.call number)).link = (c.step T s.link).2 := by rw [act_call T at_number]
  have was : s.saved? (.call number) = c.saved? := by simp [saved?, at_number]
  have own : (s.act T (.call number)).saved? (.call number) = (c.step T s.link).1.saved? := by
    rw [act_call T at_number]
    simp [saved?, bound]
  have others (stays : ∀ id, ¬s.Begins (.call number) .reader id) (v : Sender)
      (ne : v ≠ .call number) : (s.act T (.call number)).saved? v = s.saved? v :=
    saved?_of_ne T (by rintro n rfl ⟨⟩; exact ne rfl) (by rintro _ - ⟨⟩) stays
  -- a call that is no send, and begins no reader
  have quiet (before : c.saved? = none) (after : (c.step T s.link).1.saved? = none)
      (stays : ∀ id, ¬s.Begins (.call number) .reader id) (v : Sender) :
      (s.act T (.call number)).saved? v = s.saved? v := by
    by_cases h : v = .call number
    · rw [h, own, after, was, before]
    · exact others stays v h
  have unbegun {c' : Call} (same : c = c') (other : ∀ id, c' ≠ .start (.launch .reader id))
      (id : Nat) : ¬s.Begins (.call number) .reader id := by
    rintro ⟨n, ⟨⟩, at_n⟩
    exact other id (same.symm.trans (Option.some.inj (at_number.symm.trans at_n)))
  simp only [signalsOf, at_number]
  cases c with
  | send frame phase =>
    refine .of_send rfl was ?_ own (others (unbegun rfl (by rintro _ ⟨⟩)))
    rw [link]
    rfl
  | stopPolling returned =>
    have after : ((Call.stopPolling returned).step T s.link).1.saved? = none := by
      cases returned with
      | true => rfl
      | false => simp only [Call.step]; split <;> rfl
    refine .still ?_ fun v => .inl (quiet rfl after (unbegun rfl (by rintro _ ⟨⟩)) v)
    rw [link]
    cases returned with
    | true => rfl
    | false =>
      simp only [Call.step]
      split
      · rfl
      · exact s.link.sending_cancelPolling
  | close phase =>
    have saved := quiet rfl rfl (unbegun rfl (by rintro _ ⟨⟩))
    have sending : (s.act T (.call number)).link.sending = (s.link.closeStep phase).2.sending := by
      rw [link]
      rfl
    rw [Link.sending_closeStep] at sending
    cases phase with
    | clear => exact .clear .closing sending (by rintro _ ⟨⟩; exact was) saved
    | _ => exact .still sending fun v => .inl (saved v)
  | start phase =>
    have sending : (s.act T (.call number)).link.sending =
        (s.link.startStep T phase).2.sending := by
      rw [link]
      rfl
    rw [Link.sending_startStep] at sending
    cases phase with
    | clear id =>
      exact .clear .opening sending (by rintro _ ⟨⟩; exact was)
        (quiet rfl rfl (unbegun rfl (by rintro _ ⟨⟩)))
    | launch loop id =>
      refine .still sending fun v => ?_
      cases v with
      | call n =>
        by_cases h : n = number
        · subst h
          exact .inl (own.trans was.symm)
        · exact .inl (saved?_call_of_ne T (by rintro ⟨⟩; exact h rfl))
      | reader k =>
        rcases saved?_reader_of_ne T (a := .call number) k (by rintro ⟨⟩) with same | ⟨-, none⟩
        · exact .inl same
        · exact .inr ⟨by rintro ⟨⟩, none⟩
    | _ => exact .still sending fun v => .inl (quiet rfl rfl (unbegun rfl (by rintro _ ⟨⟩)) v)

/-- What an action does to the mark, and to what the sends under way would put back. -/
theorem marking_act (T : Transport σ) (a : Action σ) (s : Scene σ) :
    Marking a s (s.act T a) (signalsOf a s) := by
  cases a with
  | loop p =>
    obtain ⟨id, loop⟩ := p
    cases loop with
    | reader => exact marking_reader T id s
    | writer => exact marking_writer T id s
    | poller => exact marking_poller T id s
  | call number =>
    cases at_number : s.calls[number]? with
    | none =>
      have signals : signalsOf (.call number) s = [] := by simp [signalsOf, at_number]
      have same : s.act T (.call number) = s := by simp only [act, at_number]
      rw [signals, same]
      exact .still rfl fun v => .inl rfl
    | some c => exact marking_call T at_number
  | make request =>
    refine .still rfl fun v => .inl ?_
    exact saved?_of_ne T (by rintro _ - ⟨⟩) (by rintro _ - ⟨⟩) (by rintro k ⟨_, ⟨⟩, _⟩)
  | device | clock | command | callback => exact .still rfl fun v => .inl (by cases v <;> rfl)

end Scene

/-! ## Sends that nest -/

/-- The others that send after a send has ended, if it was the latest that began. -/
def Sender.end? (who : Sender) : List Sender → Option (List Sender)
  | [] => none
  | other :: others => if other = who then some others else none

/-- Who still sends after some signals, the latest first, if everybody who began has ended before
those who already sent then. -/
def underway? : List Signal → List Sender → Option (List Sender)
  | [], senders => some senders
  | .marked who :: signals, senders =>
    if who ∈ senders then none else underway? signals (who :: senders)
  | .restored who :: signals, senders => (who.end? senders).bind (underway? signals)
  | .accepted who _ _ :: signals, senders => (who.end? senders).bind (underway? signals)
  | .cleared _ :: signals, senders => underway? signals senders

/-- The sends nest, and all have returned. -/
def Nested (signals : List Signal) : Prop := underway? signals [] = some []

/-- A send that puts the mark back has set it before. -/
def RestoresOwn (signals : List Signal) : Prop :=
  ∀ before who after, signals = before ++ .restored who :: after → .marked who ∈ before

theorem Sender.eq_cons_of_end? {who : Sender} {senders others : List Sender}
    (ended : who.end? senders = some others) : senders = who :: others := by
  cases senders with
  | nil => cases ended
  | cons other rest =>
    rw [Sender.end?] at ended
    split at ended
    · rename_i same
      rw [same, Option.some.inj ended]
    · cases ended

namespace Scene

variable {σ : Type} {T : Transport σ} {s s' : Scene σ}

/-- What a send would put back after another has ended, it would have put back before. -/
theorem saved?_of_ended {who v : Sender} {b : Bool} (ended : s'.saved? who = none)
    (others : ∀ v, v ≠ who → s'.saved? v = s.saved? v) (saved : s'.saved? v = some b) :
    s.saved? v = some b := by
  by_cases own : v = who
  · rw [own, ended] at saved
    cases saved
  · exact (others v own).symm.trans saved

theorem length_signalsOf_le (T : Transport σ) (a : Action σ) (s : Scene σ) :
    (signalsOf a s).length ≤ 1 := by
  have marking := s.marking_act T a
  generalize signalsOf a s = shown at marking
  cases marking <;> simp

/-- Refused sends that nest leave a cleared mark cleared. -/
theorem sending_of_nested {actions : List (Action σ)} {senders : List Sender}
    (nested : underway? (s.signals T actions) senders = some [])
    (refused : ∀ who id frame, .accepted who id frame ∉ s.signals T actions)
    (down : senders = [] → s.link.sending = false)
    (found : ∀ who, senders.getLast? = some who → ∀ b, s.saved? who = some b → b = false) :
    (s.run T actions).link.sending = false := by
  induction actions generalizing s senders with
  | nil => exact down (Option.some.inj nested)
  | cons a actions ih =>
    have marking := s.marking_act T a
    have parts : s.signals T (a :: actions) = signalsOf a s ++ (s.act T a).signals T actions := rfl
    rw [parts] at nested refused
    have later : ∀ who id frame, .accepted who id frame ∉ (s.act T a).signals T actions :=
      fun who id frame member => refused who id frame (List.mem_append_right _ member)
    generalize signalsOf a s = shown at marking nested refused
    cases marking with
    | still sending saved =>
      refine ih nested later (fun none => sending.trans (down none)) fun who last b h => ?_
      rcases saved who with same | ⟨-, none⟩
      · exact found who last b (same.symm.trans h)
      · cases none.symm.trans h
    | clear relief sending unsaved saved =>
      exact ih nested later (fun _ => sending) fun who last b h =>
        found who last b ((saved who).symm.trans h)
    | mark who acts unsaved sending saved others =>
      simp only [List.singleton_append, underway?] at nested
      split at nested
      · cases nested
      · rename_i fresh
        refine ih nested later (by rintro ⟨⟩) fun v last b h => ?_
        cases senders with
        | nil =>
          obtain rfl : who = v := Option.some.inj last
          obtain rfl : s.link.sending = b := Option.some.inj (saved.symm.trans h)
          exact down rfl
        | cons w rest =>
          rw [List.getLast?_cons_cons] at last
          have ne : v ≠ who := by
            rintro rfl
            exact fresh (List.mem_of_getLast? last)
          exact found v last b ((others v ne).symm.trans h)
    | accept who before id frame => exact absurd (List.mem_cons_self ..) (refused who id frame)
    | restore who before acts was sending saved others =>
      obtain ⟨rest, ended, nested'⟩ := Option.bind_eq_some_iff.1 nested
      obtain rfl := Sender.eq_cons_of_end? ended
      refine ih nested' later (fun none => ?_) fun v last b h => ?_
      · subst none
        exact sending.trans (found who rfl before was)
      · cases rest with
        | nil => cases last
        | cons w rest =>
          exact found v (by rw [List.getLast?_cons_cons]; exact last) b
            (saved?_of_ended saved others h)

/-- A mark that nobody clears, and nobody puts back who had set it before, stays. -/
theorem sending_of_uncleared {actions : List (Action σ)} (seen : List Sender)
    (uncleared : ∀ relief, .cleared relief ∉ s.signals T actions)
    (own : ∀ before who after, s.signals T actions = before ++ .restored who :: after →
      who ∈ seen ∨ .marked who ∈ before)
    (up : s.link.sending = true)
    (found : ∀ who ∈ seen, ∀ b, s.saved? who = some b → b = true) :
    (s.run T actions).link.sending = true := by
  induction actions generalizing s seen with
  | nil => exact up
  | cons a actions ih =>
    have marking := s.marking_act T a
    have parts : s.signals T (a :: actions) = signalsOf a s ++ (s.act T a).signals T actions := rfl
    rw [parts] at uncleared own
    have later : ∀ relief, .cleared relief ∉ (s.act T a).signals T actions :=
      fun relief member => uncleared relief (List.mem_append_right _ member)
    generalize signalsOf a s = shown at marking uncleared own
    cases marking with
    | still sending saved =>
      refine ih seen later own (sending.trans up) fun who member b h => ?_
      rcases saved who with same | ⟨-, none⟩
      · exact found who member b (same.symm.trans h)
      · cases none.symm.trans h
    | clear relief => exact absurd (List.mem_cons_self ..) (uncleared relief)
    | mark who acts unsaved sending saved others =>
      refine ih (who :: seen) later (fun before v after eq => ?_) sending fun v member b h => ?_
      · rcases own (.marked who :: before) v after (by rw [eq]; rfl) with h | h
        · exact .inl (List.mem_cons_of_mem _ h)
        · rcases List.mem_cons.1 h with same | h
          · cases same
            exact .inl (List.mem_cons_self ..)
          · exact .inr h
      · by_cases own : v = who
        · subst own
          exact (Option.some.inj (saved.symm.trans h)).symm.trans up
        · exact found v ((List.mem_cons.1 member).resolve_left own) b ((others v own).symm.trans h)
    | accept who before id frame acts was sending saved others =>
      refine ih seen later (fun before v after eq => ?_) (sending.trans up) fun v member b h => ?_
      · rcases own (.accepted who id frame :: before) v after
          (by rw [eq]; rfl) with h | h
        · exact .inl h
        · exact .inr ((List.mem_cons.1 h).resolve_left (by rintro ⟨⟩))
      · exact found v member b (saved?_of_ended saved others h)
    | restore who before acts was sending saved others =>
      have mine : who ∈ seen := by
        rcases own [] who _ rfl with h | h
        · exact h
        · cases h
      refine ih seen later (fun before v after eq => ?_)
        (sending.trans (found who mine before was)) fun v member b h => ?_
      · rcases own (.restored who :: before) v after (by rw [eq]; rfl) with h | h
        · exact .inl h
        · exact .inr ((List.mem_cons.1 h).resolve_left (by rintro ⟨⟩))
      · exact found v member b (saved?_of_ended saved others h)

/-- The mark after any steps of any sends, loops and other calls:

* If it was cleared before, no send was accepted, and the sends nest, it is cleared.
* If a send has set the mark and was accepted, and since it set the mark nobody has cleared it, nor
  put it back who had set it before, the mark is set.
* If it was cleared, no send was accepted after that, and the sends after that nest, it is
  cleared. -/
theorem sending_after_sends (T : Transport σ) (s : Scene σ) (actions : List (Action σ)) :
    (s.link.sending = false →
      (∀ who id frame, .accepted who id frame ∉ s.signals T actions) →
        Nested (s.signals T actions) → (s.run T actions).link.sending = false) ∧
    (∀ before who during id frame after,
      s.signals T actions =
          before ++ .marked who :: (during ++ .accepted who id frame :: after) →
        (∀ relief, .cleared relief ∉ during ++ .accepted who id frame :: after) →
          RestoresOwn (during ++ .accepted who id frame :: after) →
            (s.run T actions).link.sending = true) ∧
    ∀ before relief after, s.signals T actions = before ++ .cleared relief :: after →
      (∀ who id frame, .accepted who id frame ∉ after) → Nested after →
        (s.run T actions).link.sending = false := by
  have short := length_signalsOf_le T
  refine ⟨fun down refused nested => ?_, fun before who during id frame after shown uncleared own =>
    ?_, fun before relief after shown refused nested => ?_⟩
  · exact sending_of_nested nested refused (fun _ => down) fun _ last => by simp at last
  · obtain ⟨first, a, later, rfl, marks, rest⟩ := trace_eq_append_cons short shown
    have marking := (s.run T first).marking_act T a
    rw [marks] at marking
    have up : ((s.run T first).act T a).link.sending = true := by
      cases marking with
      | mark _ _ _ sending => exact sending
    have shown' : ((s.run T first).act T a).signals T later =
        during ++ .accepted who id frame :: after := rest
    rw [run_append]
    show (((s.run T first).act T a).run T later).link.sending = true
    refine sending_of_uncleared [] (by rw [shown']; exact uncleared) ?_ up
      fun _ member => by simp at member
    rw [shown']
    exact fun before who after eq => .inr (own before who after eq)
  · obtain ⟨first, a, later, rfl, clears, rest⟩ := trace_eq_append_cons short shown
    have marking := (s.run T first).marking_act T a
    rw [clears] at marking
    have down : ((s.run T first).act T a).link.sending = false := by
      cases marking with
      | clear _ sending => exact sending
    have shown' : ((s.run T first).act T a).signals T later = after := rest
    rw [run_append]
    show (((s.run T first).act T a).run T later).link.sending = false
    rw [← shown'] at refused nested
    exact sending_of_nested nested refused (fun _ => down) fun _ last => by simp at last

/-- A send on its own. -/
def sendAlone (number : Nat) (frame : Frame) : List (Action Device) :=
  .make (.send frame) :: List.replicate 3 (.call number)

/-- A send, and then a chunk comes in. -/
def sendAnswered (number : Nat) (frame : Frame) : List (Action Device) :=
  sendAlone number frame ++ .device { opens := 1, reads := [.data [2]] } ::
    List.replicate 5 (.loop ⟨0, .reader⟩)

/-- A send leaves no mark on a closed link, a mark on an open link, and no mark there once it is
answered. -/
theorem sending_after_sends_alone :
    ((fresh rehearsed { } 0).run Device.transport (sendAlone 0 [1])).link.sending = false ∧
      (rehearsal.run Device.transport (sendAlone 1 [1])).link.sending = true ∧
      (rehearsal.run Device.transport (sendAnswered 1 [1])).link.sending = false := by
  obtain ⟨refused, -, -⟩ := sending_after_sends Device.transport (fresh rehearsed { } 0)
    (sendAlone 0 [1])
  obtain ⟨-, accepted, -⟩ := sending_after_sends Device.transport rehearsal (sendAlone 1 [1])
  obtain ⟨-, -, cleared⟩ := sending_after_sends Device.transport rehearsal (sendAnswered 1 [1])
  have marks : (fresh rehearsed { } 0).signals Device.transport (sendAlone 0 [1]) =
      [.marked (.call 0), .restored (.call 0)] := rfl
  have taken : rehearsal.signals Device.transport (sendAlone 1 [1]) =
      [.marked (.call 1), .accepted (.call 1) 0 [1]] := rfl
  have answered : rehearsal.signals Device.transport (sendAnswered 1 [1]) =
      [.marked (.call 1), .accepted (.call 1) 0 [1], .cleared .chunk] := rfl
  refine ⟨refused rfl ?_ ?_, accepted [] (.call 1) [] 0 [1] [] taken ?_ ?_,
    cleared [.marked (.call 1), .accepted (.call 1) 0 [1]] .chunk [] answered ?_ rfl⟩
  · simp [marks]
  · rw [marks]
    rfl
  · simp
  · intro before who after eq
    simp [List.cons_eq_append_iff] at eq
  · simp

/-! ## Sends that cross -/

/-- Two sends set the mark, the first finding it cleared and the second finding it set, and then the
first puts it back and so does the second. -/
def crossing : List (Action Device) :=
  [.make (.send [1]), .make (.send [2]), .call 0, .call 1, .call 0, .call 0, .call 1, .call 1]

/-- Two sends that a closed link refuses leave its mark set, if they cross. -/
theorem mark_sticks :
    ((fresh rehearsed { } 0).run Device.transport crossing).notes = [] ∧
      ((fresh rehearsed { } 0).run Device.transport crossing).link.sending = true := by
  decide +kernel

/-- Two sends set the mark, the second takes the last place in the queue, and the first puts back
the cleared mark that it found. -/
def overtaking : List (Action Device) :=
  [.make (.send [1]), .make (.send [2]), .call 1, .call 2, .call 2, .call 1, .call 1]

/-- A send that is refused clears the mark of one that has overtaken it. -/
theorem mark_is_lost :
    (rehearsal.run Device.transport overtaking).accepted 0 = [[2]] ∧
      (rehearsal.run Device.transport overtaking).link.sending = false := by
  decide +kernel

/-- A chunk comes in, and the receive callback answers it with a frame. -/
def answering : List (Action Device) :=
  .callback ⟨"tag", [[2]]⟩ :: .device { opens := 1, reads := [.data [1]] } ::
    List.replicate 8 (.loop ⟨0, .reader⟩)

/-- The reader clears the mark of a frame that the receive callback has sent, though nothing was
read after it. -/
theorem reply_is_unmarked :
    (rehearsal.run Device.transport answering).accepted 0 = [[2]] ∧
      (rehearsal.run Device.transport answering).link.sending = false := by
  decide +kernel

end Scene

end FieldLink

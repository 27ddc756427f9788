import FieldLink.Proofs.Link.Outstanding

/-!
# What happened last

The mark of an outstanding exchange, told from what happened last.  Of all that happens on a link,
few things count: a call has sent a frame, a chunk was read, a frame was dropped, a start has opened
a session, and a close has closed one (`Landmark`).  If every call and every loop goes on
uninterrupted from one await to the next (`Scene.Paced`), the mark is set between two of these
stretches just when the last of them is a frame that was sent (`sending_iff_sent_last`).

In the middle of a stretch the mark and the landmarks may be at odds.  What their difference is then
can be seen from the phase of the one that has the turn (`Scene.Agrees`).
-/

namespace FieldLink

/-- What counts for the mark of an outstanding exchange.  What the receive callback sends does not:
the reader clears the mark after it. -/
inductive Landmark where
  /-- A session has accepted the frame of a call. -/
  | sent (frame : Frame)
  /-- A chunk was read. -/
  | received (chunk : Frame)
  /-- A frame was dropped. -/
  | dropped (frame : Frame)
  /-- A start has returned that opened a session. -/
  | started
  /-- A close has come to its end that took a session. -/
  | closed
  deriving DecidableEq, Repr

/-- Whether a frame was sent. -/
def Landmark.isSent : Landmark → Bool
  | sent _ => true
  | _ => false

/-- Whether a frame was sent last, where `before` says so of what came before. -/
def lastIsSent (before : Bool) (landmarks : List Landmark) : Bool :=
  landmarks.foldl (fun _ m => m.isSent) before

theorem lastIsSent_append (before : Bool) (first rest : List Landmark) :
    lastIsSent before (first ++ rest) = lastIsSent (lastIsSent before first) rest :=
  List.foldl_append

theorem lastIsSent_iff (landmarks : List Landmark) :
    lastIsSent false landmarks = true ↔ ∃ frame, landmarks.getLast? = some (.sent frame) := by
  rcases List.eq_nil_or_concat landmarks with rfl | ⟨rest, m, rfl⟩
  · simp [lastIsSent]
  · rw [List.concat_eq_append, lastIsSent_append]
    cases m <;> simp [lastIsSent, Landmark.isSent]

/-- No frame was sent last if none was sent at all. -/
theorem lastIsSent_of_none {landmarks : List Landmark} (unsent : ∀ frame, .sent frame ∉ landmarks) :
    lastIsSent false landmarks = false := by
  cases last : lastIsSent false landmarks with
  | false => rfl
  | true =>
    obtain ⟨frame, last⟩ := (lastIsSent_iff landmarks).1 last
    exact absurd (List.mem_of_getLast? last) (unsent frame)

/-! ## Landmarks of a run -/

/-- The chunk that a reader gets in its next step. -/
def Link.chunk? {σ : Type} (T : Transport σ) (l : Link σ) (s : Session) : Option Frame :=
  match s.reader, (T.read packetSize.toNat l.now l.device).1 with
  | .read, .done (b :: bytes) => some (b :: bytes)
  | _, _ => none

/-- The frame that a writer reports as dropped in its next step. -/
def Session.dropped? (s : Session) : Option Frame :=
  match s.writer with
  | .drop frame => some frame
  | _ => none

/-- The landmark that a call comes to in its next step. -/
def Call.landmarks {σ : Type} (l : Link σ) : Call → List Landmark
  | send frame (.queue _) => (l.taker? frame).toList.map fun _ => .sent frame
  | start (.leave (.ok ())) => [.started]
  | close (.clear _ _ false) | close (.report _ _) => [.closed]
  | _ => []

namespace Scene

variable {σ : Type}

/-- The landmark that an action comes to. -/
def landmarksOf (T : Transport σ) : Action σ → Scene σ → List Landmark
  | .loop ⟨id, .reader⟩, s => (s.link.sessions[id]? >>= s.link.chunk? T).toList.map .received
  | .loop ⟨id, .writer⟩, s => (s.link.sessions[id]? >>= Session.dropped?).toList.map .dropped
  | .call number, s => s.calls[number]?.toList.flatMap (Call.landmarks s.link)
  | _, _ => []

/-- The landmarks of a run. -/
def landmarks (T : Transport σ) (actions : List (Action σ)) (s : Scene σ) : List Landmark :=
  trace T (landmarksOf T) actions s

/-- A run in which every call, and every loop, goes on uninterrupted from one await to the next. -/
inductive Paced (T : Transport σ) : Scene σ → List (Action σ) → Prop
  | nil {s : Scene σ} : Paced T s []
  /-- A loop or a call goes on to its next await, or something changes from outside. -/
  | go {s s' : Scene σ} {more : List (Action σ)} (a : Action σ)
      (unmade : ∀ request, a ≠ .make request) (count : Nat)
      (comes : s.run T (List.replicate count a) = s') (rests : s'.Rests a)
      (rest : Paced T s' more) : Paced T s (List.replicate count a ++ more)
  /-- A call is made, and goes on to its first await or to its end. -/
  | make {s s' : Scene σ} {more : List (Action σ)} (request : Request) (count : Nat)
      (comes : (s.act T (.make request)).run T (List.replicate count (.call s.calls.length)) = s')
      (rests : s'.Rests (.call s.calls.length)) (rest : Paced T s' more) :
      Paced T s (.make request :: List.replicate count (.call s.calls.length) ++ more)

end Scene

/-! ## In the middle of a stretch -/

/-- A chunk was read, and the mark is not cleared yet. -/
def ReaderPhase.handles : ReaderPhase → Bool
  | deliver _ | reply _ _ _ _ | clear _ => true
  | _ => false

/-- The mark is cleared, and the frame is not reported as dropped yet. -/
def WriterPhase.drops : WriterPhase → Bool
  | drop _ => true
  | _ => false

/-- The mark is cleared, and the start has not returned yet. -/
def StartPhase.opens : StartPhase → Bool
  | count _ | plug _ | accept _ | launch _ _ | store _ | report | leave (.ok _) => true
  | _ => false

/-- What the mark says when a reader has come to a phase, where `out` says whether a frame was sent
last. -/
def ReaderPhase.Agrees (out sending : Bool) (phase : ReaderPhase) : Prop :=
  if phase.handles then out = false else sending = out

/-- What the mark says when a writer has come to a phase. -/
def WriterPhase.Agrees (out sending : Bool) (phase : WriterPhase) : Prop :=
  if phase.drops then sending = false else sending = out

/-- What the mark says, and what a send would put back, when it has come to a phase. -/
def SendPhase.Agrees (out sending : Bool) : SendPhase → Prop
  | queue before => before = out ∧ sending = true
  | restore before _ => before = out
  | _ => sending = out

/-- What the mark says when a start has come to a phase. -/
def StartPhase.Agrees (out sending : Bool) (phase : StartPhase) : Prop :=
  if phase.opens then sending = false else sending = out

/-- What the mark says when a close has come to a phase. -/
def ClosePhase.Agrees (out sending : Bool) : ClosePhase → Prop
  | report _ _ => sending = false
  | _ => sending = out

/-- What the mark says when a call has come so far. -/
def Call.Agrees (out sending : Bool) : Call → Prop
  | start phase => phase.Agrees out sending
  | send _ phase => phase.Agrees out sending
  | close phase => phase.Agrees out sending
  | stopPolling _ => sending = out

namespace Link

variable {σ : Type} {T : Transport σ} {id : Nat} {x : Session} {l : Link σ} {out : Bool}

theorem agrees_readerStep (agrees : x.reader.Agrees out l.sending) :
    (l.readerNext T id x).Agrees (lastIsSent out ((l.chunk? T x).toList.map .received))
      (l.readerStep T id x).sending := by
  rw [sending_readerStep]
  unfold readerNext chunk?
  cases reader : x.reader with
  | read =>
    rw [reader] at agrees
    have same : l.sending = out := agrees
    rcases answer : T.read packetSize.toNat l.now l.device with ⟨resume | chunk | f, device⟩
    · exact same
    · cases chunk with
      | nil => exact same
      | cons b bytes => rfl
    · simp only [readerAfter]
      split <;> exact same
  | deliver chunk =>
    rw [reader] at agrees
    simp only
    split <;> exact agrees
  | reply chunk tag answer phase =>
    rw [reader] at agrees
    cases phase <;> exact agrees
  | clear chunk =>
    rw [reader] at agrees
    exact Eq.symm agrees
  | look =>
    rw [reader] at agrees
    simp only
    split <;> exact agrees
  | fail phase =>
    rw [reader] at agrees
    cases phase <;> exact agrees
  | leave phase =>
    rw [reader] at agrees
    simp only
    cases (l.leaveStep phase).1 <;> exact agrees
  | unborn | report | release | gone =>
    rw [reader] at agrees
    exact agrees

theorem drops_writeNext (T : Transport σ) (frame : Frame) (count deadline : Nat) (l : Link σ) :
    (l.writeNext T frame count deadline).drops = false := by
  simp only [writeNext, writerAfter]
  repeat' split
  all_goals rfl

theorem drops_flushNext (T : Transport σ) (frame : Frame) (count deadline : Nat) (l : Link σ) :
    (l.flushNext T frame count deadline).drops = false := by
  simp only [flushNext, writerAfter]
  repeat' split
  all_goals rfl

theorem drops_shutdownNext (T : Transport σ) (deadline : Nat) (l : Link σ) :
    (l.shutdownNext T deadline).drops = false := by
  simp only [shutdownNext]
  repeat' split
  all_goals rfl

/-- A writer drops a frame only after it has cleared the mark. -/
theorem drops_writerNext (uncleared : ∀ frame, x.writer ≠ .clear frame) :
    (l.writerNext T id x).drops = false := by
  unfold writerNext
  cases writer : x.writer with
  | clear frame => exact absurd writer (uncleared frame)
  | write frame count => exact drops_writeNext T frame count _ l
  | stalled frame count deadline => exact drops_writeNext T frame count _ l
  | flush frame count | draining frame count => exact drops_flushNext T frame count _ l
  | shutdown | ending => exact drops_shutdownNext T _ l
  | look => simp only; split <;> rfl
  | take =>
    cases x.queue with
    | nil => simp only; split <;> rfl
    | cons => rfl
  | attempt =>
    simp only
    split
    · rfl
    · split <;> rfl
  | fail phase => cases phase <;> rfl
  | leave phase =>
    simp only
    cases (l.leaveStep phase).1 <;> rfl
  | unborn | report | drop | release | gone => rfl

theorem agrees_writerStep (agrees : x.writer.Agrees out l.sending) :
    (l.writerNext T id x).Agrees (lastIsSent out (x.dropped?.toList.map .dropped))
      (l.writerStep T id x).sending := by
  rw [sending_writerStep]
  by_cases clears : ∃ frame, x.writer = .clear frame
  · obtain ⟨frame, writer⟩ := clears
    rw [writerNext, writer]
    exact rfl
  · have silent : (l.writerNext T id x).drops = false :=
      drops_writerNext fun frame writer => clears ⟨frame, writer⟩
    rw [WriterPhase.Agrees, silent, Session.dropped?]
    cases writer : x.writer with
    | clear frame => exact absurd ⟨frame, writer⟩ clears
    | _ =>
      rw [writer] at agrees
      exact agrees

theorem agrees_sendStep {frame : Frame} {phase : SendPhase} (agrees : phase.Agrees out l.sending) :
    (l.sendStep frame phase).1.Agrees (lastIsSent out ((Call.send frame phase).landmarks l))
      (l.sendStep frame phase).2.sending := by
  cases phase with
  | mark => exact ⟨agrees, rfl⟩
  | queue before =>
    obtain ⟨same, marked⟩ := agrees
    rcases l.enqueue_cases frame with ⟨e, result, none⟩ | ⟨k, y, -, -, -, -, result, taker⟩
    · simp only [sendStep, result, Call.landmarks, none]
      exact same
    · simp only [sendStep, result, Call.landmarks, taker]
      exact marked
  | restore | done => exact agrees

theorem agrees_startStep {phase : StartPhase} (agrees : phase.Agrees out l.sending) :
    (l.startStep T phase).1.Agrees (lastIsSent out ((Call.start phase).landmarks l))
      (l.startStep T phase).2.sending := by
  rw [sending_startStep]
  cases phase with
  | enter | makeQueue => simp only [startStep]; split <;> exact agrees
  | check =>
    simp only [startStep]
    split
    · exact agrees
    · split <;> exact agrees
  | openUp => simp only [startStep]; split <;> exact agrees
  | clear id => exact rfl
  | launch loop id =>
    cases loop with
    | reader | poller => exact agrees
    | writer => simp only [startStep, afterLaunch]; split <;> exact agrees
  | leave result => cases result <;> exact agrees
  | discard | refuse | forgetFailure | count | plug | accept | store | report | done | broken =>
    exact agrees

theorem agrees_closeStep {phase : ClosePhase} (agrees : phase.Agrees out l.sending) :
    (l.closeStep phase).1.Agrees (lastIsSent out ((Call.close phase).landmarks l))
      (l.closeStep phase).2.sending := by
  rw [sending_closeStep]
  cases phase with
  | stopPolling | join => simp only [closeStep]; split <;> exact agrees
  | take =>
    simp only [closeStep]
    split
    · exact agrees
    · cases l.current <;> exact agrees
  | clear result fatal changed => cases changed <;> rfl
  | mark | unplug | cancel | judge | finish | report | done => exact agrees

theorem agrees_callStep {c : Call} (agrees : c.Agrees out l.sending) :
    (c.step T l).1.Agrees (lastIsSent out (c.landmarks l)) (c.step T l).2.sending := by
  cases c with
  | start phase => exact agrees_startStep agrees
  | send frame phase => exact agrees_sendStep agrees
  | close phase => exact agrees_closeStep agrees
  | stopPolling returned =>
    cases returned with
    | true => exact agrees
    | false =>
      simp only [Call.step]
      split
      · exact agrees
      · exact (l.sending_cancelPolling).trans agrees

end Link

namespace Scene

variable {σ : Type} {T : Transport σ} {s s' : Scene σ} {a b : Action σ} {out : Bool}

/-- What the mark says when the loop or the call that has the turn has come so far. -/
def Agrees (a : Action σ) (out : Bool) (s : Scene σ) : Prop :=
  match a with
  | .loop ⟨id, .reader⟩ =>
    ((s.link.sessions[id]?.map Session.reader).getD .unborn).Agrees out s.link.sending
  | .loop ⟨id, .writer⟩ =>
    ((s.link.sessions[id]?.map Session.writer).getD .unborn).Agrees out s.link.sending
  | .call number => (s.calls[number]?.getD (.stopPolling true)).Agrees out s.link.sending
  | _ => s.link.sending = out

/-- A loop or call that rests is in no phase in which the mark and the landmarks are at odds. -/
theorem agrees_iff_of_rests (unmade : ∀ request, a ≠ .make request) (rests : s.Rests a) :
    s.Agrees a out ↔ s.link.sending = out := by
  cases a with
  | loop p =>
    obtain ⟨id, loop⟩ := p
    cases at_id : s.link.sessions[id]? with
    | none => cases loop <;> simp [Agrees, at_id, ReaderPhase.Agrees, WriterPhase.Agrees,
        ReaderPhase.handles, WriterPhase.drops]
    | some x =>
      have rested : x.rests loop := rests x at_id
      cases loop with
      | reader =>
        have rested : x.reader.rests := rested
        simp only [Agrees, at_id, Option.map_some, Option.getD_some, ReaderPhase.Agrees]
        cases reader : x.reader <;> rw [reader] at rested <;>
          first | rfl | cases rested
      | writer =>
        have rested : x.writer.rests := rested
        simp only [Agrees, at_id, Option.map_some, Option.getD_some, WriterPhase.Agrees]
        cases writer : x.writer <;> rw [writer] at rested <;>
          first | rfl | cases rested
      | poller => rfl
  | call number =>
    cases at_number : s.calls[number]? with
    | none => simp [Agrees, at_number, Call.Agrees]
    | some c =>
      have rested : c.rests := rests c at_number
      simp only [Agrees, at_number, Option.getD_some]
      cases c with
      | start phase => cases phase <;> first | rfl | cases rested
      | send frame phase => cases phase <;> first | rfl | cases rested
      | stopPolling returned => rfl
      | close phase => cases phase <;> first | rfl | cases rested
  | make request => exact absurd rfl (unmade request)
  | device | clock | command | callback => rfl

/-- The one that has the turn goes on. -/
theorem Agrees.act (T : Transport σ) (agrees : s.Agrees a out) :
    (s.act T a).Agrees a (lastIsSent out (landmarksOf T a s)) := by
  cases a with
  | loop p =>
    obtain ⟨id, loop⟩ := p
    cases at_id : s.link.sessions[id]? with
    | none =>
      have same := act_loop_of_none T (p := ⟨id, loop⟩) at_id
      have silent : landmarksOf T (.loop ⟨id, loop⟩) s = [] := by
        cases loop <;> simp [landmarksOf, at_id]
      rw [silent]
      cases loop <;> simp only [Agrees, same] <;> exact agrees
    | some x =>
      obtain ⟨x', at_id', passes⟩ := passes_act T (.loop ⟨id, loop⟩) at_id
      cases loop with
      | reader =>
        rw [act_reader T at_id] at at_id'
        simp only [Agrees, at_id, at_id', Option.map_some, Option.getD_some, act_reader T at_id,
          passes.reader rfl, landmarksOf] at agrees ⊢
        exact Link.agrees_readerStep agrees
      | writer =>
        rw [act_writer T at_id] at at_id'
        simp only [Agrees, at_id, at_id', Option.map_some, Option.getD_some, act_writer T at_id,
          passes.writer rfl, landmarksOf] at agrees ⊢
        exact Link.agrees_writerStep agrees
      | poller =>
        simp only [Agrees, act_poller T at_id, Link.sending_pollerStep] at agrees ⊢
        exact agrees
  | call number =>
    cases at_number : s.calls[number]? with
    | none =>
      have same : s.act T (.call number) = s := by simp only [Scene.act, at_number]
      rw [same, landmarksOf, at_number]
      exact agrees
    | some c =>
      have at_number' : (s.act T (.call number)).calls[number]? = some (c.step T s.link).1 := by
        rw [act_call T at_number]
        exact List.getElem?_set_self (List.getElem?_eq_some_iff.1 at_number).1
      have stepped : (s.act T (.call number)).link = (c.step T s.link).2 := by
        rw [act_call T at_number]
      simp only [Agrees, at_number, at_number', Option.getD_some, stepped, landmarksOf] at agrees ⊢
      simp only [Option.toList_some, List.flatMap_singleton]
      exact Link.agrees_callStep agrees
  | make | device | clock | command | callback => exact agrees

theorem Agrees.run (T : Transport σ) (agrees : s.Agrees a out) (count : Nat) :
    (s.run T (List.replicate count a)).Agrees a
      (lastIsSent out (s.landmarks T (List.replicate count a))) := by
  induction count generalizing s out with
  | zero => exact agrees
  | succ count ih =>
    have later := ih (agrees.act T)
    rw [← lastIsSent_append] at later
    exact later

/-! ## Between two stretches -/

/-- All loops and calls rest, and the mark says whether a frame was sent last. -/
structure Quiet (out : Bool) (s : Scene σ) : Prop where
  rests : ∀ b, s.Rests b
  sending : s.link.sending = out

/-- A loop or call that rests stays so while others act. -/
theorem rests_act (T : Transport σ) (rests : s.Rests b) (ne : a ≠ b)
    (unmade : ∀ request, a = .make request → b ≠ .call s.calls.length) : (s.act T a).Rests b := by
  cases b with
  | loop p => exact rests_loop_act T rests ne
  | call number =>
    intro c at_number
    refine rests c ?_
    cases a with
    | call k =>
      have ne : k ≠ number := fun same => ne (same ▸ rfl)
      cases at_k : s.calls[k]? with
      | none =>
        simp only [act, at_k] at at_number
        exact at_number
      | some c' =>
        rw [act_call T at_k] at at_number
        simpa only [Option.mem_def, List.getElem?_set_ne ne] using at_number
    | make request =>
      rcases getElem?_concat_cases at_number with old | ⟨rfl, -⟩
      · exact old
      · exact absurd rfl (unmade request rfl)
    | loop | device | clock | command | callback => exact at_number
  | make | device | clock | command | callback => trivial

/-- The others rest while one goes on. -/
theorem rests_run (T : Transport σ) (unmade : ∀ request, a ≠ .make request)
    (rests : ∀ b, a ≠ b → s.Rests b) (count : Nat) (b : Action σ) (ne : a ≠ b) :
    (s.run T (List.replicate count a)).Rests b := by
  induction count generalizing s with
  | zero => exact rests b ne
  | succ count ih =>
    exact ih fun b ne => rests_act T (rests b ne) ne fun request made => absurd made (unmade request)

/-- One loop or call goes on while the others rest, and comes to rest itself. -/
theorem quiet_run (T : Transport σ) (unmade : ∀ request, a ≠ .make request)
    (others : ∀ b, a ≠ b → s.Rests b) (agrees : s.Agrees a out) {count : Nat}
    (rests : (s.run T (List.replicate count a)).Rests a) :
    Quiet (lastIsSent out (s.landmarks T (List.replicate count a)))
      (s.run T (List.replicate count a)) where
  rests b := by
    by_cases own : a = b
    · exact own ▸ rests
    · exact rests_run T unmade others count b own
  sending := (agrees_iff_of_rests unmade rests).1 (agrees.run T count)

theorem landmarks_append (first rest : List (Action σ)) (s : Scene σ) :
    s.landmarks T (first ++ rest) = s.landmarks T first ++ (s.run T first).landmarks T rest :=
  trace_append first rest s

/-- Between the stretches of a run, the mark says whether a frame was sent last. -/
theorem Paced.quiet {actions : List (Action σ)} (paced : Paced T s actions) (quiet : Quiet out s) :
    Quiet (lastIsSent out (s.landmarks T actions)) (s.run T actions) := by
  induction paced generalizing out with
  | nil => exact quiet
  | go a unmade count comes rests rest ih =>
    subst comes
    rw [landmarks_append, lastIsSent_append, run_append]
    refine ih (quiet_run T unmade (fun b _ => quiet.rests b) ?_ rests)
    exact (agrees_iff_of_rests unmade (quiet.rests a)).2 quiet.sending
  | @make s s' more request count comes rests rest ih =>
    subst comes
    have made : (s.act T (.make request)).Agrees (.call s.calls.length) out := by
      have at_number : (s.act T (.make request)).calls[s.calls.length]? = some request.call := by
        simp [act]
      simp only [Agrees, at_number, Option.getD_some]
      cases request <;> exact quiet.sending
    have others (b : Action σ) (ne : .call s.calls.length ≠ b) :
        (s.act T (.make request)).Rests b := by
      by_cases own : .make request = b
      · exact own ▸ trivial
      · exact rests_act T (quiet.rests b) own fun _ _ same => ne same.symm
    have comes := quiet_run T (by rintro _ ⟨⟩) others made rests
    have parts : s.landmarks T (.make request :: List.replicate count (.call s.calls.length)
          ++ more) =
        (s.act T (.make request)).landmarks T (List.replicate count (.call s.calls.length)) ++
          ((s.act T (.make request)).run T
            (List.replicate count (.call s.calls.length))).landmarks T more :=
      landmarks_append _ more (s.act T (.make request))
    have joined : s.run T (.make request :: List.replicate count (.call s.calls.length) ++ more) =
        ((s.act T (.make request)).run T (List.replicate count (.call s.calls.length))).run T
          more :=
      run_append T _ more (s.act T (.make request))
    rw [parts, lastIsSent_append, joined]
    exact ih comes

theorem quiet_fresh (options : LinkOptions) (device : σ) (now : Nat) :
    Quiet false (fresh options device now) where
  rests b := by
    cases b with
    | loop p => rintro x ⟨⟩
    | call number => rintro c ⟨⟩
    | make | device | clock | command | callback => trivial
  sending := rfl

end Scene

/-! ## Polls that are left out -/

/-- How many commands the cycle of a poller has left out. -/
def PollerPhase.skipped : PollerPhase → Nat
  | look cycle | ask cycle | offer cycle | settle cycle _ | report cycle => cycle.skipped
  | _ => 0

namespace Link

variable {σ : Type} {x : Session} {l : Link σ}

/-- The queue that accepts frames has no room. -/
def IsFull (l : Link σ) : Prop :=
  ∃ id x, l.outbox = some id ∧ l.sessions[id]? = some x ∧
    l.options.queueCapacity.toNat ≤ x.queue.length

theorem isFull_of_busy {frame : Frame} (busy : (l.enqueue frame).1 = .error .busy) : l.IsFull := by
  unfold enqueue at busy
  cases outbox : l.outbox with
  | none => simp [outbox] at busy
  | some id =>
    cases at_id : l.sessions[id]? with
    | none => simp [outbox, at_id] at busy
    | some x =>
      by_cases deaf : x.isDeaf
      · simp [outbox, at_id, deaf] at busy
      · by_cases full : l.options.queueCapacity.toNat ≤ x.queue.length
        · exact ⟨id, x, outbox, at_id, full⟩
        · simp [outbox, at_id, deaf, full] at busy

/-- While no exchange is outstanding, a command is left out only if the queue is full. -/
theorem isFull_of_skipped (clear : l.sending = false)
    (skips : x.poller.skipped < (l.pollerNext x).skipped) : l.IsFull := by
  unfold pollerNext at skips
  cases poller : x.poller with
  | offer cycle =>
    cases left : cycle.left with
    | nil => simp [poller, left, PollerPhase.skipped] at skips
    | cons command rest =>
      rcases result : (l.enqueue command).1 with e | _
      · cases e with
        | busy => exact isFull_of_busy result
        | _ => simp [poller, left, result, PollerPhase.skipped] at skips
      · simp [poller, left, result, PollerPhase.skipped] at skips
  | ask cycle => simp [poller, clear, PollerPhase.skipped] at skips
  | look cycle =>
    cases left : cycle.left with
    | nil => simp [poller, left, PollerPhase.skipped] at skips
    | cons command rest =>
      simp only [poller, left] at skips
      split at skips <;> simp [PollerPhase.skipped] at skips
  | begin =>
    simp only [poller] at skips
    split at skips <;> simp [PollerPhase.skipped] at skips
  | wait | settle =>
    simp only [poller] at skips
    split at skips
    · simp [PollerPhase.skipped] at skips
    · split at skips <;> simp [PollerPhase.skipped] at skips
  | leave phase =>
    simp only [poller] at skips
    cases next : (l.leaveStep phase).1 <;> simp [next, PollerPhase.skipped] at skips
  | unborn | copy | report | gone | broken => simp [poller, PollerPhase.skipped] at skips

end Link

namespace Scene

variable {σ : Type} {T : Transport σ} {s : Scene σ}

/-- A poller that goes on leaves the mark alone. -/
theorem sending_run_poller (T : Transport σ) (id count : Nat) (s : Scene σ) :
    (s.run T (List.replicate count (.loop ⟨id, .poller⟩))).link.sending = s.link.sending := by
  induction count generalizing s with
  | zero => rfl
  | succ count ih =>
    refine (ih (s.act T (.loop ⟨id, .poller⟩))).trans ?_
    cases at_id : s.link.sessions[id]? with
    | none => rw [act_loop_of_none T at_id]
    | some x => rw [act_poller T at_id, Link.sending_pollerStep]

/-- When every call, and every loop between two awaits, goes on uninterrupted:

* The mark is set just when the last landmark is a frame that a call has sent.
* As long as no landmark comes, the mark stays as it is, whatever else happens.
* If no call has sent a frame, a poller that goes on leaves out a command only if the queue is
  full. -/
theorem sending_iff_sent_last (T : Transport σ) (options : LinkOptions) (device : σ) (now : Nat)
    (actions : List (Action σ)) (paced : Paced T (fresh options device now) actions)
    (reached : (fresh options device now).run T actions = s) :
    (s.link.sending = true ↔
      ∃ frame, ((fresh options device now).landmarks T actions).getLast? = some (.sent frame)) ∧
    (∀ more : List (Action σ), Paced T s more → s.landmarks T more = [] →
      (s.run T more).link.sending = s.link.sending) ∧
    ((∀ frame, .sent frame ∉ (fresh options device now).landmarks T actions) →
      ∀ (id count : Nat) (x x' : Session) (s' : Scene σ),
        s.run T (List.replicate count (.loop ⟨id, .poller⟩)) = s' →
          s'.link.sessions[id]? = some x →
            (s'.act T (.loop ⟨id, .poller⟩)).link.sessions[id]? = some x' →
              x.poller.skipped < x'.poller.skipped → s'.link.IsFull) := by
  have quiet := paced.quiet (quiet_fresh options device now)
  rw [reached] at quiet
  refine ⟨?_, fun more paced' silent => ?_, fun unsent id count x x' s' goes at_id at_id' skips => ?_⟩
  · rw [quiet.sending]
    exact lastIsSent_iff _
  · have later := (paced'.quiet quiet).sending
    rw [silent] at later
    exact later.trans quiet.sending.symm
  · have clear : s'.link.sending = false := by
      rw [← goes, sending_run_poller, quiet.sending]
      exact lastIsSent_of_none unsent
    obtain ⟨y, at_y, passes⟩ := passes_act T (.loop ⟨id, .poller⟩) at_id
    obtain rfl := Option.some.inj (at_y.symm.trans at_id')
    rw [passes.poller rfl] at skips
    exact Link.isFull_of_skipped clear skips

/-- A link with two commands to poll, and room for one frame, is opened, and the time of its first
cycle comes. -/
def pollingTwice : List (Action Device) :=
  List.replicate 1 (.command [9]) ++ (List.replicate 1 (.command [8]) ++
    ((.make .start :: List.replicate 16 (.call 0)) ++
      (List.replicate 1 (.loop ⟨0, .poller⟩) ++ (List.replicate 1 (.clock 5000000000) ++ []))))

theorem paced_pollingTwice :
    Paced Device.transport (fresh polling { } 0) pollingTwice := by
  refine .go (.command [9]) (by rintro _ ⟨⟩) 1 rfl trivial ?_
  refine .go (.command [8]) (by rintro _ ⟨⟩) 1 rfl trivial ?_
  refine .make .start 16 rfl (by rintro c ⟨⟩; rfl) ?_
  refine .go (.loop ⟨0, .poller⟩) (by rintro _ ⟨⟩) 1 rfl (by rintro x ⟨⟩; rfl) ?_
  exact .go (.clock 5000000000) (by rintro _ ⟨⟩) 1 rfl trivial .nil

/-- The poller leaves its second command out, as the first has filled the queue. -/
theorem sending_iff_sent_last_polling :
    ((fresh polling { } 0).run Device.transport pollingTwice).link.sending = false ∧
      (((fresh polling { } 0).run Device.transport pollingTwice).run Device.transport
        (List.replicate 7 (.loop ⟨0, .poller⟩))).link.IsFull := by
  obtain ⟨iff, -, full⟩ := sending_iff_sent_last Device.transport polling { } 0 pollingTwice
    paced_pollingTwice rfl
  have shown : (fresh polling { } 0).landmarks Device.transport pollingTwice = [.started] := by
    decide +kernel
  rw [shown] at iff full
  refine ⟨?_, full (by simp) 0 7 _ _ _ rfl rfl rfl (by decide +kernel)⟩
  cases sending : ((fresh polling { } 0).run Device.transport pollingTwice).link.sending with
  | false => rfl
  | true =>
    obtain ⟨frame, last⟩ := iff.1 sending
    cases last

end Scene

end FieldLink

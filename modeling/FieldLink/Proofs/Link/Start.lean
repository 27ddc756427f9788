import FieldLink.Proofs.Link.Steps
import FieldLink.Transport.Device

/-!
# Whole starts

A start that is not interrupted refuses, fails to open the transport, breaks off, or opens a session
(`start_outcome`).
-/

namespace FieldLink

/-- The calls that have nothing to do any more stay as they are. -/
theorem iterate_eq_of_fixed {α : Type} {f : α → α} {x : α} {m n : Nat}
    (fixed_m : f (f^[m] x) = f^[m] x) (fixed_n : f (f^[n] x) = f^[n] x) : f^[m] x = f^[n] x := by
  have reach : ∀ k l, f (f^[k] x) = f^[k] x → f^[k + l] x = f^[k] x := by
    intro k l fixed
    rw [Nat.add_comm, Function.iterate_add_apply]
    exact Function.iterate_fixed fixed l
  calc f^[m] x = f^[m + n] x := (reach m n fixed_m).symm
    _ = f^[n + m] x := by rw [Nat.add_comm]
    _ = f^[n] x := reach n m fixed_n

/-- What one step of a start reports. -/
def StartPhase.events : StartPhase → List LinkEvent
  | report => [.opened]
  | _ => []

namespace Link

variable {σ : Type}

/-- A session whose loops have just begun. -/
def firstSession (options : LinkOptions) : Session where
  reader := .look
  writer := .look
  poller := if options.poll then .begin else .unborn

/-- The link after a start that has opened a session. -/
def withSession (device : σ) (l : Link σ) : Link σ :=
  { l with
    device
    state := .opened
    sending := false
    outbox := some l.sessions.length
    liveLoops := if l.options.poll then 3 else 2
    failed := false
    sessions := l.sessions ++ [firstSession l.options]
    current := some l.sessions.length
    locked := false
    events := l.events ++ [.opened] }

/-- What a start that is not interrupted may come to. -/
inductive StartOutcome (l : Link σ) : StartPhase → Link σ → Prop
  | refused (e : LinkError) : StartOutcome l (.done (.error e)) l
  | unopened (e : LinkError) (closed : l.state = .closed) :
      StartOutcome l (.done (.error e)) { l with current := none }
  | broken (device : σ) (closed : l.state = .closed)
      (large : maxQueueCapacity < l.options.queueCapacity.toNat) :
      StartOutcome l .broken { l with device, state := .opening, current := none }
  | opened (device : σ) (closed : l.state = .closed)
      (fits : l.options.queueCapacity.toNat ≤ maxQueueCapacity) :
      StartOutcome l (.done (.ok ())) (l.withSession device)

/-- One step of a start, with its phase. -/
def startMove (T : Transport σ) (x : StartPhase × Link σ) : StartPhase × Link σ :=
  x.2.startStep T x.1

theorem startMove_enter (T : Transport σ) {l : Link σ} (unlocked : l.locked = false) :
    startMove T (.enter, l) = (.check, { l with locked := true }) := by
  simp [startMove, startStep, unlocked]

theorem startMove_check (T : Transport σ) {l : Link σ} (closed : l.state = .closed)
    (valid : l.options.validate = .ok ()) :
    startMove T (.check, { l with locked := true }) =
      (.discard, { l with locked := true, state := .opening }) := by
  simp [startMove, startStep, closed, valid]

/-- The steps of a start that nothing stands in the way of. -/
theorem start_opens {T : Transport σ} {device : σ} {l : Link σ} (unlocked : l.locked = false)
    (closed : l.state = .closed) (valid : l.options.validate = .ok ())
    (opened : T.openWith l.options l.device = .ok device)
    (fits : l.options.queueCapacity.toNat ≤ maxQueueCapacity) :
    (startMove T)^[16] (.enter, l) = (.done (.ok ()), l.withSession device) := by
  simp only [Function.iterate_succ_apply, Function.iterate_zero, id, startMove_enter T unlocked,
    startMove_check T closed valid]
  by_cases poll : l.options.poll
  · simp [startMove, startStep, opened, Nat.not_lt.2 fits, clearSending, afterLaunch, poll,
      launch, update, emit, modify_concat, withSession, firstSession]
  · simp [startMove, startStep, opened, Nat.not_lt.2 fits, clearSending, afterLaunch, poll,
      launch, update, emit, modify_concat, withSession, firstSession]

/-- What a start that is not interrupted comes to, and what it leaves of the link. -/
def started (T : Transport σ) (l : Link σ) : StartPhase × Link σ :=
  if l.state ≠ .closed then (.done (.error .alreadyStarted), l)
  else
    match l.options.validate with
    | .error e => (.done (.error e), l)
    | .ok () =>
      match T.openWith l.options l.device with
      | .error e => (.done (.error e), { l with current := none })
      | .ok device =>
        if maxQueueCapacity < l.options.queueCapacity.toNat then
          (.broken, { l with device := T.release device, state := .opening, current := none })
        else (.done (.ok ()), l.withSession device)

theorem startOutcome_started (T : Transport σ) (l : Link σ) :
    StartOutcome l (l.started T).1 (l.started T).2 := by
  unfold started
  by_cases closed : l.state = .closed
  · rw [if_neg (not_not_intro closed)]
    split
    · exact .refused _
    · split
      · exact .unopened _ closed
      · split
        · exact .broken _ closed ‹_›
        · exact .opened _ closed (Nat.le_of_not_lt ‹_›)
  · rw [if_pos closed]
    exact .refused _

theorem iterate_startMove (T : Transport σ) (l : Link σ) (unlocked : l.locked = false) :
    ∃ count, (startMove T)^[count] (.enter, l) = l.started T := by
  have enter := startMove_enter T unlocked
  unfold started
  by_cases closed : l.state = .closed
  · rw [if_neg (not_not_intro closed)]
    cases valid : l.options.validate with
    | error e =>
      have check : startMove T (.check, { l with locked := true }) =
          (.leave (.error e), { l with locked := true }) := by
        simp [startMove, startStep, closed, valid]
      refine ⟨3, ?_⟩
      simp only [Function.iterate_succ_apply, Function.iterate_zero, id, enter, check]
      simp [startMove, startStep, ← unlocked]
    | ok =>
      have check := startMove_check T closed valid
      cases opened : T.openWith l.options l.device with
      | error e =>
        refine ⟨6, ?_⟩
        simp only [Function.iterate_succ_apply, Function.iterate_zero, id, enter, check]
        simp [startMove, startStep, opened, ← unlocked, ← closed]
      | ok device =>
        by_cases fits : l.options.queueCapacity.toNat ≤ maxQueueCapacity
        · exact ⟨16, (start_opens unlocked closed valid opened fits).trans
            (if_neg (Nat.not_lt.2 fits)).symm⟩
        · refine ⟨5, ?_⟩
          simp only [Function.iterate_succ_apply, Function.iterate_zero, id, enter, check]
          simp [startMove, startStep, opened, Nat.lt_of_not_le fits, ← unlocked]
  · have check : startMove T (.check, { l with locked := true }) =
        (.leave (.error .alreadyStarted), { l with locked := true }) := by
      simp [startMove, startStep, closed]
    rw [if_pos closed]
    refine ⟨3, ?_⟩
    simp only [Function.iterate_succ_apply, Function.iterate_zero, id, enter, check]
    simp [startMove, startStep, ← unlocked]

theorem StartOutcome.isOver {l l' : Link σ} {phase : StartPhase}
    (outcome : StartOutcome l phase l') : (Call.start phase).isOver := by
  cases outcome <;> rfl

theorem events_startStep (T : Transport σ) (phase : StartPhase) (l : Link σ) :
    (l.startStep T phase).2.events = l.events ++ phase.events := by
  cases phase with
  | report => rfl
  | enter | makeQueue =>
    simp only [startStep, StartPhase.events, List.append_nil]
    split <;> rfl
  | check =>
    obtain ⟨state, same⟩ := l.startStep_check T
    rw [same]
    exact (List.append_nil _).symm
  | openUp =>
    simp only [startStep, StartPhase.events, List.append_nil]
    cases T.openWith l.options l.device <;> rfl
  | discard | refuse | forgetFailure | clear | count | plug | accept | launch | store | leave | done
    | broken => exact (List.append_nil _).symm

theorem eventNotes_self (session : Option Nat) (l : Link σ) : eventNotes session l l = [] :=
  eventNotes_of_eq session rfl

theorem eventNotes_trans {a b c : Link σ} (session : Option Nat) (first : a.events <+: b.events)
    (next : b.events <+: c.events) :
    eventNotes session a b ++ eventNotes session b c = eventNotes session a c := by
  obtain ⟨x, first⟩ := first
  obtain ⟨y, next⟩ := next
  have both : c.events = a.events ++ (x ++ y) := by rw [← next, ← first, List.append_assoc]
  rw [eventNotes_of_append session first.symm, eventNotes_of_append session next.symm,
    eventNotes_of_append session both, List.map_append]

end Link

theorem Call.notes_of_isOver {σ : Type} {c : Call} (l : Link σ) (finished : c.isOver) :
    c.notes l = [] := by
  cases c with
  | send frame phase => cases phase <;> first | rfl | simp [isOver] at finished
  | start | stopPolling | close => rfl

namespace Scene

variable {σ : Type}

/-- A scene after a new start has come to a phase and the link to a state. -/
def afterStart (phase : StartPhase) (link : Link σ) (s : Scene σ) : Scene σ where
  link
  calls := s.calls ++ [.start phase]
  notes := s.notes ++ Link.eventNotes none s.link link

theorem outline_afterStart (phase : StartPhase) (link : Link σ) (s : Scene σ) :
    (s.afterStart phase link).outline =
      link.outline (s.calls ++ [.start phase]) (s.notes.filterMap Note.fault?) := by
  simp [outline, afterStart, filterMap_fault?_eventNotes]

theorem act_afterStart (T : Transport σ) {phase : StartPhase} {link : Link σ} {s : Scene σ}
    (later : s.link.events <+: link.events) :
    (s.afterStart phase link).act T (.call s.calls.length) =
      s.afterStart (link.startStep T phase).1 (link.startStep T phase).2 := by
  have grown : link.events <+: (link.startStep T phase).2.events := by
    rw [Link.events_startStep]
    exact List.prefix_append _ _
  simp [act, afterStart, Call.step, Call.notes, Link.eventNotes_trans none later grown]

theorem iterate_afterStart (T : Transport σ) (count : Nat) {phase : StartPhase} {link : Link σ}
    {s : Scene σ} (later : s.link.events <+: link.events) :
    (act T (.call s.calls.length))^[count] (s.afterStart phase link) =
      s.afterStart ((Link.startMove T)^[count] (phase, link)).1
        ((Link.startMove T)^[count] (phase, link)).2 := by
  induction count generalizing phase link with
  | zero => rfl
  | succ count ih =>
    have grown : link.events <+: (link.startStep T phase).2.events := by
      rw [Link.events_startStep]
      exact List.prefix_append _ _
    rw [Function.iterate_succ_apply, Function.iterate_succ_apply, act_afterStart T later,
      ih (later.trans grown)]
    rfl

/-- A call that is over stays as it is, and so does the link. -/
theorem act_call_of_isOver (T : Transport σ) {number : Nat} {s : Scene σ}
    (finished : ∀ c ∈ s.calls[number]?, c.isOver) : s.act T (.call number) = s := by
  cases at_number : s.calls[number]? with
  | none => simp [act, at_number]
  | some c =>
    have ended := finished c at_number
    obtain ⟨bound, rfl⟩ := List.getElem?_eq_some_iff.1 at_number
    simp [act, at_number, Call.step_of_isOver T s.link ended, Call.notes_of_isOver s.link ended,
      Link.eventNotes_self]

/-- A start that is not interrupted comes to its end, and to one alone. -/
theorem start_iff {T : Transport σ} {s s' : Scene σ} (unlocked : s.link.locked = false) :
    Stretch T (.call s.calls.length) (s.act T (.make .start)) s' ↔
      s' = s.afterStart (s.link.started T).1 (s.link.started T).2 := by
  obtain ⟨enough, comes⟩ := Link.iterate_startMove T s.link unlocked
  have finished := (Link.startOutcome_started T s.link).isOver
  have made : s.act T (.make .start) = s.afterStart .enter s.link := by
    simp [act, afterStart, Request.call, Link.eventNotes_self]
  have enough_eq : (act T (.call s.calls.length))^[enough] (s.act T (.make .start)) =
      s.afterStart (s.link.started T).1 (s.link.started T).2 := by
    rw [made, iterate_afterStart T enough (List.prefix_refl _), comes]
  constructor
  · rintro ⟨⟨count, reached⟩, rests⟩
    rw [reached, ← enough_eq]
    refine iterate_eq_of_fixed ?_ ?_
    · rw [← reached]
      refine act_call_of_isOver T fun c at_number => ?_
      have rest := rests c at_number
      rw [reached, made, iterate_afterStart T count (List.prefix_refl _)] at at_number
      obtain rfl : .start _ = c := by simpa [afterStart] using at_number
      exact rest
    · rw [enough_eq]
      refine act_call_of_isOver T fun c at_number => ?_
      obtain rfl : .start (s.link.started T).1 = c := by simpa [afterStart] using at_number
      exact finished
  · rintro rfl
    refine ⟨⟨enough, enough_eq.symm⟩, fun c at_number => ?_⟩
    obtain rfl : .start (s.link.started T).1 = c := by simpa [afterStart] using at_number
    exact finished

/-- A start that is not interrupted comes to one of its outcomes. -/
theorem start_outcome {T : Transport σ} {s s' : Scene σ} (unlocked : s.link.locked = false)
    (run : Stretch T (.call s.calls.length) (s.act T (.make .start)) s') :
    ∃ phase link, s.link.StartOutcome phase link ∧ s' = s.afterStart phase link :=
  ⟨_, _, Link.startOutcome_started T s.link, (start_iff unlocked).1 run⟩

/-! ## A rehearsal -/

/-- The options of the rehearsal. -/
def rehearsed : LinkOptions where
  address := "COM3"
  queueCapacity := 1

/-- A link on a device in memory after its first start. -/
def rehearsal : Scene Device :=
  (fresh rehearsed { } 0).run Device.transport (.make .start :: List.replicate 16 (.call 0))

theorem rehearsal_stretch :
    Stretch Device.transport (.call 0) ((fresh rehearsed { } 0).act Device.transport (.make .start))
      rehearsal := by
  refine ⟨⟨16, rfl⟩, ?_⟩
  rintro c ⟨⟩
  rfl

end Scene

end FieldLink

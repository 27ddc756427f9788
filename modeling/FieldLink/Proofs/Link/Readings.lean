import FieldLink.Proofs.Link.Aftermath
import FieldLink.Proofs.Link.Attempts
import FieldLink.Proofs.Link.Deliveries
import FieldLink.Proofs.Link.Launches

/-!
# What a reader does in a run

In whatever order the loops and the calls take their steps, the phase of a reader follows from what
is told of it: what it took, delivered and reported (`Scene.reader_follows_run`).  A reader that
reads no more is told of no more (`Scene.ended_run`), and one that gives its session up cancels it
on the way to its end (`Scene.failing_run`).  When no other reader is told of, its deliveries and
reports are those of the link (`Scene.alone_run`).
-/

namespace FieldLink

/-! ## Readers that end -/

/-- How many steps a loop takes until it has given its session up. -/
def FailPhase.stepsLeft : FailPhase → Nat
  | mark => 4
  | close => 3
  | unplug => 2
  | cancel => 1

/-- How many steps a reader takes at most that reads no more. -/
def ReaderPhase.stepsLeft? : ReaderPhase → Option Nat
  | fail phase => some (5 + phase.stepsLeft)
  | release => some 5
  | leave phase => some phase.stepsLeft
  | gone => some 0
  | _ => none

/-- Whether a reader reads no more. -/
def ReaderPhase.hasEnded (phase : ReaderPhase) : Bool := phase.stepsLeft?.isSome

theorem ReaderPhase.eq_gone {phase : ReaderPhase} (left : phase.stepsLeft? = some 0) :
    phase = gone := by
  cases phase with
  | gone => rfl
  | fail phase => cases phase <;> cases left
  | leave phase => cases phase <;> cases left
  | _ => cases left

/-- Whether a reader may be in a phase that gives its session up, by whether this was noted and
whether the session is cancelled. -/
def ReaderPhase.Fails (noted cancelled : Prop) : ReaderPhase → Prop
  | fail .mark => True
  | fail _ => noted
  | release | leave _ | gone => noted ∧ cancelled
  | _ => False

namespace ReaderPhase

variable {noted cancelled noted' cancelled' : Prop} {phase : ReaderPhase} {n : Nat}

theorem Fails.mono (fails : phase.Fails noted cancelled) (note : noted → noted')
    (cancel : cancelled → cancelled') : phase.Fails noted' cancelled' := by
  cases phase with
  | fail phase => cases phase <;> first | trivial | exact note fails
  | release | leave | gone => exact ⟨note fails.1, cancel fails.2⟩
  | _ => exact fails.elim

theorem Fails.is_noted (fails : phase.Fails noted cancelled) (left : phase.stepsLeft? = some n)
    (few : n ≤ 8) : noted := by
  cases phase with
  | fail phase =>
    cases phase with
    | mark =>
      cases left
      exact absurd few (by decide)
    | close | unplug | cancel => exact fails
  | release | leave | gone => exact fails.1
  | _ => exact fails.elim

theorem Fails.is_cancelled (fails : phase.Fails noted cancelled) (left : phase.stepsLeft? = some n)
    (few : n ≤ 5) : cancelled := by
  cases phase with
  | fail phase =>
    cases left
    cases phase <;> exact absurd few (by decide)
  | release | leave | gone => exact fails.2
  | _ => exact fails.elim

end ReaderPhase

/-- Whether a read of this ends a session. -/
def ReadEvent.ends (d : Device) : ReadEvent → Bool
  | data bytes => bytes = []
  | failure f => d.classify f = .fatal
  | endOfStream => true

namespace Link

variable {σ : Type} {T : Transport σ} {l : Link σ} {x : Session} {id : Nat}

/-- The phase of the reader of a session. -/
def readerOf (id : Nat) (l : Link σ) : ReaderPhase := (l.sessions[id]?).elim .unborn Session.reader

theorem readerOf_at (at_id : l.sessions[id]? = some x) : l.readerOf id = x.reader := by
  rw [readerOf, at_id]
  rfl

theorem stepsLeft_failStep {phase next : FailPhase} (goes : (l.failStep id phase).1 = some next) :
    next.stepsLeft + 1 = phase.stepsLeft := by
  cases phase with
  | mark | close | unplug =>
    cases goes
    rfl
  | cancel => cases goes

/-- A reader that reads no more has fewer steps left after each, and tells nothing. -/
theorem stepsLeft_readerNext {n : Nat} (ended : x.reader.stepsLeft? = some n) :
    (∃ m, (l.readerNext T id x).stepsLeft? = some m ∧ m ≤ n - 1) ∧ l.readings T x = [] := by
  unfold readerNext readings
  generalize x.reader = phase at ended ⊢
  cases phase with
  | fail phase =>
    obtain rfl := Option.some.inj ended
    refine ⟨?_, rfl⟩
    simp only
    cases goes : (l.failStep id phase).1 with
    | none => exact ⟨5, rfl, by cases phase <;> simp [FailPhase.stepsLeft]⟩
    | some next => exact ⟨_, rfl, by have := stepsLeft_failStep goes; omega⟩
  | release =>
    cases ended
    exact ⟨⟨4, rfl, Nat.le_refl _⟩, rfl⟩
  | leave phase =>
    obtain rfl := Option.some.inj ended
    refine ⟨?_, rfl⟩
    simp only
    cases goes : (l.leaveStep phase).1 with
    | none => exact ⟨0, rfl, Nat.zero_le _⟩
    | some next => exact ⟨_, rfl, by have := stepsLeft_leaveStep goes; omega⟩
  | gone => exact ⟨⟨0, rfl, Nat.zero_le _⟩, rfl⟩
  | _ => cases ended

/-- A reader that reads the end of the stream or a fatal fault gives its session up. -/
theorem readerNext_of_ends {l : Link Device} {mark : ReadEvent} {rest : List ReadEvent}
    (reader : x.reader = .read) (reads : l.device.reads = mark :: rest)
    (ends : mark.ends l.device) : l.readerNext Device.transport id x = .fail .mark := by
  rw [readerNext_of_read Device.transport id l reader]
  cases mark with
  | data bytes =>
    obtain rfl : bytes = [] := by simpa [ReadEvent.ends] using ends
    simp [Device.transport, Device.read, reads, readerAfter]
  | failure f =>
    have fatal : l.device.classify f = .fatal := by simpa [ReadEvent.ends] using ends
    have same (reads : List ReadEvent) :
        Device.classify { l.device with reads } f = l.device.classify f := rfl
    simp [Device.transport, Device.read, reads, readerAfter, same, fatal]
  | endOfStream => simp [Device.transport, Device.read, reads, readerAfter]

end Link

namespace Scene

variable {σ : Type} {T : Transport σ} {s : Scene σ} {a : Action σ} {id : Nat} {x : Session}

/-! ## What is told of readers in a run -/

/-- What can be told of the reader of a session when an action is taken. -/
def readingsOf (T : Transport σ) (id : Nat) : Action σ → Scene σ → List Reading
  | .loop ⟨k, .reader⟩, s =>
    if k = id then s.link.sessions[id]?.toList.flatMap (s.link.readings T) else []
  | _, _ => []

/-- What can be told of the reader of a session in a run. -/
def readings (T : Transport σ) (id : Nat) (actions : List (Action σ)) (s : Scene σ) :
    List Reading := trace T (readingsOf T id) actions s

/-- The items that the reader of a session takes in a run. -/
def took (T : Transport σ) (id : Nat) (actions : List (Action σ)) (s : Scene σ) :
    List StreamItem := (s.readings T id actions).filterMap Reading.took?

/-- The chunks of a session from which the receive callback returns in a run. -/
def delivered (T : Transport σ) (id : Nat) (actions : List (Action σ)) (s : Scene σ) :
    List Frame := (s.readings T id actions).filterMap Reading.delivered?

/-- The chunks of a session that are reported in a run. -/
def received (T : Transport σ) (id : Nat) (actions : List (Action σ)) (s : Scene σ) :
    List Frame := (s.readings T id actions).filterMap Reading.received?

theorem readingsOf_self (at_id : s.link.sessions[id]? = some x) :
    readingsOf T id (.loop ⟨id, .reader⟩) s = s.link.readings T x := by
  simp [readingsOf, at_id]

theorem readingsOf_of_none (at_id : s.link.sessions[id]? = none) : readingsOf T id a s = [] := by
  unfold readingsOf
  split
  · simp [at_id]
  · rfl

theorem readingsOf_of_ne (ne : a ≠ .loop ⟨id, .reader⟩) (s : Scene σ) :
    readingsOf T id a s = [] := by
  unfold readingsOf
  split
  · split
    · rename_i own
      subst own
      exact absurd rfl ne
    · rfl
  · rfl

theorem eventsOf_reader (T : Transport σ) (id : Nat) (s : Scene σ) :
    (eventsOf (.loop ⟨id, .reader⟩) s).filterMap LinkEvent.received? =
      (readingsOf T id (.loop ⟨id, .reader⟩) s).filterMap Reading.received? := by
  cases at_id : s.link.sessions[id]? with
  | none => simp [eventsOf, readingsOf, at_id]
  | some x => simpa [eventsOf, readingsOf, at_id] using Link.received_events T x s.link

theorem takenOf_reader (T : Transport σ) (id : Nat) (s : Scene σ) :
    takenOf T (.loop ⟨id, .reader⟩) s =
      (readingsOf T id (.loop ⟨id, .reader⟩) s).filterMap Reading.took? := by
  cases at_id : s.link.sessions[id]? with
  | none => simp [takenOf, readingsOf, at_id]
  | some x => simpa [takenOf, readingsOf, at_id] using Link.takes_eq T x s.link

/-- Readers alone call the callback, and it stays when it is set. -/
theorem audience_act_reader (T : Transport σ) (id : Nat) (s : Scene σ) :
    (s.act T (.loop ⟨id, .reader⟩)).link.callback.isSome = s.link.callback.isSome ∧
      (s.act T (.loop ⟨id, .reader⟩)).link.deliveries.map Delivery.chunk =
        s.link.deliveries.map Delivery.chunk ++
          (readingsOf T id (.loop ⟨id, .reader⟩) s).filterMap Reading.delivered? := by
  cases at_id : s.link.sessions[id]? with
  | none =>
    rw [act_loop_of_none T at_id, readingsOf_of_none at_id]
    exact ⟨rfl, (List.append_nil _).symm⟩
  | some x =>
    rw [act_reader T at_id, readingsOf_self at_id]
    exact s.link.audience_readerStep T id x

theorem audience_act_of_ne (T : Transport σ) (ne : ∀ id, a ≠ .loop ⟨id, .reader⟩) :
    (s.link.callback.isSome → (s.act T a).link.callback.isSome) ∧
      (s.act T a).link.deliveries = s.link.deliveries := by
  have still {l : Link σ} (same : l.audience = s.link.audience) :
      (s.link.callback.isSome → l.callback.isSome) ∧ l.deliveries = s.link.deliveries := by
    obtain ⟨callback, deliveries⟩ := Prod.mk.inj same
    rw [callback, deliveries]
    exact ⟨id, rfl⟩
  cases a with
  | loop p =>
    obtain ⟨k, loop⟩ := p
    cases at_k : s.link.sessions[k]? with
    | none => exact still (by rw [act_loop_of_none T at_k])
    | some x =>
      cases loop with
      | reader => exact absurd rfl (ne k)
      | writer => exact still (by rw [act_writer T at_k, Link.audience_writerStep])
      | poller => exact still (by rw [act_poller T at_k, Link.audience_pollerStep])
  | call number =>
    cases at_number : s.calls[number]? with
    | none => exact still (by simp only [act, at_number])
    | some c => exact still (by rw [act_call T at_number, Link.audience_callStep])
  | callback callback => exact ⟨fun _ => rfl, rfl⟩
  | make | device | clock | command => exact still rfl

/-! ## Phases of readers -/

theorem readerOf_act_self (T : Transport σ) (at_id : s.link.sessions[id]? = some x) :
    (s.act T (.loop ⟨id, .reader⟩)).link.readerOf id = s.link.readerNext T id x := by
  obtain ⟨x', at_id', passes⟩ := passes_act T (.loop ⟨id, .reader⟩) at_id
  rw [Link.readerOf_at at_id', passes.reader rfl]

/-- A reader stays in its phase while others act, but that a start begins it. -/
theorem readerOf_act_of_ne (T : Transport σ) (unlaunched : s.Unlaunched .reader)
    (ne : a ≠ .loop ⟨id, .reader⟩) :
    (s.act T a).link.readerOf id = s.link.readerOf id ∨
      s.link.readerOf id = .unborn ∧ (s.act T a).link.readerOf id = .look := by
  cases at_id' : (s.act T a).link.sessions[id]? with
  | none =>
    have at_id : s.link.sessions[id]? = none := by
      cases at_id : s.link.sessions[id]? with
      | none => rfl
      | some x =>
        obtain ⟨x', at_x, -⟩ := passes_act T a at_id
        cases at_id'.symm.trans at_x
    rw [Link.readerOf, Link.readerOf, at_id, at_id']
    exact .inl rfl
  | some x' =>
    rw [Link.readerOf_at at_id']
    obtain ⟨x, at_id, passes⟩ | ⟨at_id, rfl⟩ := session_act_cases T a at_id'
    · rw [Link.readerOf_at at_id]
      rcases passes.reader_of_ne ne with same | ⟨begins, begun⟩
      · exact .inl same
      · exact .inr ⟨ReaderPhase.eq_unborn (unlaunched.begins begins at_id), begun⟩
    · rw [Link.readerOf, at_id]
      exact .inl rfl

/-- What holds of every run after the callback was set. -/
structure Attended (s : Scene σ) : Prop where
  sound : s.Sound
  unlaunched : s.Unlaunched .reader
  called : s.link.callback.isSome

theorem Attended.act (attended : s.Attended) (a : Action σ) : (s.act T a).Attended := by
  refine ⟨sound_act T attended.sound a,
    unlaunched_act T attended.sound.starts attended.unlaunched a, ?_⟩
  by_cases reader : ∃ id, a = .loop ⟨id, .reader⟩
  · obtain ⟨id, rfl⟩ := reader
    rw [(audience_act_reader T id s).1]
    exact attended.called
  · exact (audience_act_of_ne T fun id same => reader ⟨id, same⟩).1 attended.called

/-- The phase of a reader follows from what was told of it in a run. -/
theorem reader_follows_run {s : Scene Device} {readings : List Reading} (attended : s.Attended)
    (actions : List (Action Device)) (follows : (s.link.readerOf id).Follows readings) :
    ((s.run Device.transport actions).link.readerOf id).Follows
      (readings ++ s.readings Device.transport id actions) := by
  induction actions generalizing s readings with
  | nil =>
    rw [Scene.readings, trace, List.append_nil]
    exact follows
  | cons a actions ih =>
    suffices next : ((s.act Device.transport a).link.readerOf id).Follows
        (readings ++ readingsOf Device.transport id a s) by
      have later := ih (attended.act a) next
      rwa [List.append_assoc] at later
    by_cases own : a = .loop ⟨id, .reader⟩
    · subst own
      cases at_id : s.link.sessions[id]? with
      | none =>
        rw [readingsOf_of_none at_id, List.append_nil, act_loop_of_none Device.transport at_id]
        exact follows
      | some x =>
        rw [readingsOf_self at_id, readerOf_act_self Device.transport at_id]
        rw [Link.readerOf_at at_id] at follows
        exact Link.follows_readerNext id attended.called follows
    · rw [readingsOf_of_ne own, List.append_nil]
      rcases readerOf_act_of_ne Device.transport attended.unlaunched own with same | ⟨unborn, begun⟩
      · rw [same]
        exact follows
      · rw [unborn] at follows
        rw [begun]
        exact follows.same rfl rfl

/-! ## Readers that read no more -/

/-- A reader that reads no more goes on to its end, and nothing more is told of it. -/
theorem ended_run {n : Nat} (attended : s.Attended)
    (ended : (s.link.readerOf id).stepsLeft? = some n) (more : List (Action σ)) :
    s.readings T id more = [] ∧ ∃ m, ((s.run T more).link.readerOf id).stepsLeft? = some m ∧
      m ≤ n - more.countP (Action.isStepOf ⟨id, .reader⟩) := by
  induction more generalizing s n with
  | nil => exact ⟨rfl, n, ended, Nat.le_refl _⟩
  | cons a more ih =>
    by_cases own : a = .loop ⟨id, .reader⟩
    · subst own
      cases at_id : s.link.sessions[id]? with
      | none =>
        rw [Link.readerOf, at_id] at ended
        cases ended
      | some x =>
        rw [Link.readerOf_at at_id] at ended
        obtain ⟨⟨m, ended', fewer⟩, silent⟩ :
            (∃ m, (s.link.readerNext T id x).stepsLeft? = some m ∧ m ≤ n - 1) ∧
              s.link.readings T x = [] := Link.stepsLeft_readerNext ended
        rw [← readerOf_act_self T at_id] at ended'
        obtain ⟨silent', m', ended'', fewer'⟩ := ih (attended.act _) ended'
        refine ⟨?_, m', ended'', ?_⟩
        · rw [readings, trace, readingsOf_self at_id, silent]
          exact silent'
        · rw [List.countP_cons_of_pos (Action.isStepOf_self _)]
          omega
    · have same : ((s.act T a).link.readerOf id).stepsLeft? = some n := by
        rcases readerOf_act_of_ne T attended.unlaunched own with same | ⟨unborn, -⟩
        · rw [same, ended]
        · rw [unborn] at ended
          cases ended
      obtain ⟨silent, m, ended', fewer⟩ := ih (attended.act a) same
      refine ⟨?_, m, ended', ?_⟩
      · rw [readings, trace, readingsOf_of_ne own]
        exact silent
      · rw [List.countP_cons_of_neg (Action.isStepOf_of_ne own)]
        exact fewer

/-- A session that is not there at the end of a run was never there. -/
theorem readings_of_none (actions : List (Action σ))
    (at_id : (s.run T actions).link.sessions[id]? = none) : s.readings T id actions = [] := by
  induction actions generalizing s with
  | nil => rfl
  | cons a actions ih =>
    have before : s.link.sessions[id]? = none := by
      cases at_start : s.link.sessions[id]? with
      | none => rfl
      | some x =>
        have stays := run_of_act (T := T) (fun s => ∃ x, s.link.sessions[id]? = some x)
          (fun s a ⟨x, at_id⟩ => (passes_act T a at_id).imp fun _ => And.left)
          (a :: actions) ⟨x, at_start⟩
        obtain ⟨y, at_y⟩ := stays
        cases at_y.symm.trans at_id
    rw [readings, trace, readingsOf_of_none before]
    exact ih at_id

/-- When no other reader takes, delivers or reports anything, all that is taken, delivered and
reported is told of one reader. -/
theorem alone_run (actions : List (Action σ))
    (alone : ∀ k, k ≠ id → s.readings T k actions = []) :
    trace T (takenOf T) actions s = s.took T id actions ∧
      (s.run T actions).link.deliveries.map Delivery.chunk =
        s.link.deliveries.map Delivery.chunk ++ s.delivered T id actions ∧
      (s.run T actions).link.received = s.link.received ++ s.received T id actions := by
  induction actions generalizing s with
  | nil => exact ⟨rfl, (List.append_nil _).symm, (List.append_nil _).symm⟩
  | cons a actions ih =>
    have apart (k : Nat) (ne : k ≠ id) :
        readingsOf T k a s = [] ∧ (s.act T a).readings T k actions = [] :=
      List.append_eq_nil_iff.1 (alone k ne)
    obtain ⟨taken, deliveries, reported⟩ := ih fun k ne => (apart k ne).2
    -- what the action does is told of the one reader
    obtain ⟨taken_now, deliveries_now, reported_now⟩ :
        takenOf T a s = (readingsOf T id a s).filterMap Reading.took? ∧
          (s.act T a).link.deliveries.map Delivery.chunk = s.link.deliveries.map Delivery.chunk ++
            (readingsOf T id a s).filterMap Reading.delivered? ∧
          (s.act T a).link.received = s.link.received ++
            (readingsOf T id a s).filterMap Reading.received? := by
      by_cases reader : ∃ k, a = .loop ⟨k, .reader⟩
      · obtain ⟨k, rfl⟩ := reader
        have told : readingsOf T k (.loop ⟨k, .reader⟩) s =
            readingsOf T id (.loop ⟨k, .reader⟩) s := by
          by_cases own : k = id
          · rw [own]
          · rw [(apart k own).1, readingsOf_of_ne fun same => own (by cases same; rfl)]
        rw [← told, received_act, eventsOf_reader]
        exact ⟨takenOf_reader T k s, (audience_act_reader T k s).2, rfl⟩
      · have ne (k : Nat) : a ≠ .loop ⟨k, .reader⟩ := fun same => reader ⟨k, same⟩
        rw [readingsOf_of_ne (ne id), received_act_of_ne T ne, (audience_act_of_ne T ne).2,
          takenOf_of_unread fun k x same => absurd same (ne k)]
        exact ⟨rfl, (List.append_nil _).symm, (List.append_nil _).symm⟩
    refine ⟨?_, ?_, ?_⟩
    · rw [trace, taken_now, taken, took, took, readings, readings, trace, List.filterMap_append]
    · rw [delivered, readings, trace, List.filterMap_append, ← List.append_assoc, ← deliveries_now]
      exact deliveries
    · rw [received, readings, trace, List.filterMap_append, ← List.append_assoc, ← reported_now]
      exact reported

/-! ## Sessions that fail -/

/-- The reader of a session gives it up: that is noted first, and at last the session is cancelled. -/
def Failing (id : Nat) (s : Scene σ) : Prop :=
  (s.link.readerOf id).Fails (.failed id ∈ s.notes) (s.Cancelled id)

theorem failed_act_mark (T : Transport σ) (at_id : s.link.sessions[id]? = some x)
    (reader : x.reader = .fail .mark) :
    .failed id ∈ (s.act T (.loop ⟨id, .reader⟩)).notes := by
  simp [act, Link.loopNotes, at_id, Link.readerNotes, reader, Link.failNotes]

theorem cancelled_act_cancel (T : Transport σ) (at_id : s.link.sessions[id]? = some x)
    (reader : x.reader = .fail .cancel) : (s.act T (.loop ⟨id, .reader⟩)).Cancelled id := by
  rw [Cancelled, act_reader T at_id, Link.readerStep, reader]
  exact ⟨_, Link.session_update (Link.session_update at_id), rfl⟩

theorem failing_act (attended : s.Attended) (failing : s.Failing id) (a : Action σ) :
    (s.act T a).Failing id := by
  have note (was : .failed id ∈ s.notes) : .failed id ∈ (s.act T a).notes :=
    (notes_act T a s).subset was
  have cancel (was : s.Cancelled id) : (s.act T a).Cancelled id := cancelled_act was a
  unfold Failing at failing ⊢
  by_cases own : a = .loop ⟨id, .reader⟩
  · subst own
    cases at_id : s.link.sessions[id]? with
    | none =>
      rw [Link.readerOf, at_id] at failing
      exact failing.elim
    | some x =>
      rw [Link.readerOf_at at_id] at failing
      rw [readerOf_act_self T at_id, Link.readerNext]
      cases reader : x.reader with
      | fail phase =>
        rw [reader] at failing
        cases phase with
        | mark => exact failed_act_mark T at_id reader
        | close | unplug => exact note failing
        | cancel => exact ⟨note failing, cancelled_act_cancel T at_id reader⟩
      | release | gone =>
        rw [reader] at failing
        exact ⟨note failing.1, cancel failing.2⟩
      | leave phase =>
        rw [reader] at failing
        simp only
        cases (s.link.leaveStep phase).1 <;> exact ⟨note failing.1, cancel failing.2⟩
      | _ =>
        rw [reader] at failing
        exact failing.elim
  · rcases readerOf_act_of_ne T attended.unlaunched own with same | ⟨unborn, -⟩
    · rw [same]
      exact failing.mono note cancel
    · rw [unborn] at failing
      exact failing.elim

/-- A reader that begins to give its session up is not told of any more.  After its first step it is
noted that the session has failed, after four the session is cancelled and accepts no frames, and
after nine the reader has ended. -/
theorem failing_run (attended : s.Attended) (fails : s.link.readerOf id = .fail .mark)
    (more : List (Action σ)) :
    s.readings T id more = [] ∧
      (1 ≤ more.countP (Action.isStepOf ⟨id, .reader⟩) → .failed id ∈ (s.run T more).notes) ∧
      (4 ≤ more.countP (Action.isStepOf ⟨id, .reader⟩) →
        (s.run T more).Cancelled id ∧ (s.run T more).link.outbox ≠ some id) ∧
      (9 ≤ more.countP (Action.isStepOf ⟨id, .reader⟩) →
        (s.run T more).link.readerOf id = .gone) := by
  obtain ⟨silent, n, left, fewer⟩ := ended_run (T := T) (n := 9) attended (by rw [fails]; rfl) more
  obtain ⟨attended', failing⟩ := run_of_act (T := T) (fun s => s.Attended ∧ s.Failing id)
    (fun s a ⟨attended, failing⟩ => ⟨attended.act a, failing_act attended failing a⟩) more
    ⟨attended, by rw [Failing, fails]; trivial⟩
  refine ⟨silent, fun count => ReaderPhase.Fails.is_noted failing left (by omega),
    fun count => ?_, fun count => ?_⟩
  · obtain ⟨x, at_id, cancelled⟩ := ReaderPhase.Fails.is_cancelled failing left (by omega)
    refine ⟨⟨x, at_id, cancelled⟩, attended'.sound.sealed.severed id ?_⟩
    exact .cancelled x.standing (Link.standing_at at_id) cancelled
  · obtain rfl : n = 0 := by omega
    exact ReaderPhase.eq_gone left

end Scene

end FieldLink

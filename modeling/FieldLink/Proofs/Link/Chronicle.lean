import FieldLink.Proofs.Link.ClosedEvents

/-!
# What the events tell

The events of a link whose calls are made one after another are a chronicle of its sessions: for
each session that it was opened, then what was sent, received, dropped and polled, and then, once,
that it was closed, and whether it was given up (`events_of_turns`).

They are no such chronicle if a start is interrupted, or interrupts the last loop of a session that
leaves, since the link comes to a state in one step and this is reported in another
(`received_before_opened`, `opened_before_closed`).
-/

namespace FieldLink

/-- What the events tell of a session. -/
structure Span where
  body : List LinkEvent
  /-- Whether the session was given up, if it is told that it was closed. -/
  ending : Option Bool
  deriving DecidableEq, Repr

/-- The events of a session. -/
def Span.events (span : Span) : List LinkEvent :=
  .opened :: (span.body ++ (span.ending.map LinkEvent.closed).toList)

namespace Outline

/-- The events are those of the spans, one for each session, and the sessions are over that are told
to be. -/
structure Chronicle (o : Outline) (spans : List Span) : Prop where
  events : o.events = spans.flatMap Span.events
  traffic : ∀ span ∈ spans, ∀ event ∈ span.body, event.isTraffic
  length : spans.length = o.sessions.length
  started : spans.length = o.calls.countP Call.hasStarted
  ended : ∀ span ∈ spans.dropLast, span.ending.isSome
  last : (∃ span, spans.getLast? = some span ∧ span.ending = none) ↔
    o.state ≠ .closed ∨ ∃ t, o.tells t
  fatal : ∀ id span fatal, spans[id]? = some span → span.ending = some fatal →
    (fatal = true ↔ id ∈ o.faults)

variable {o o' : Outline} {spans : List Span}

/-! ## Steps -/

theorem Tale.loud {t : Teller} (tale : o.Tale t o')
    (same : o'.state ≠ .closed ∨ o'.tells t ↔ o.state ≠ .closed ∨ o.tells t) :
    (o'.state ≠ .closed ∨ ∃ u, o'.tells u) ↔ (o.state ≠ .closed ∨ ∃ u, o.tells u) := by
  constructor
  · rintro (used | ⟨u, tells⟩)
    · exact (same.1 (.inl used)).imp_right fun h => ⟨t, h⟩
    · by_cases own : u = t
      · subst own
        exact (same.1 (.inr tells)).imp_right fun h => ⟨u, h⟩
      · rw [(tale.others u own).1] at tells
        exact .inr ⟨u, tells⟩
  · rintro (used | ⟨u, tells⟩)
    · exact (same.2 (.inl used)).imp_right fun h => ⟨t, h⟩
    · by_cases own : u = t
      · subst own
        exact (same.2 (.inr tells)).imp_right fun h => ⟨u, h⟩
      · rw [← (tale.others u own).1] at tells
        exact .inr ⟨u, tells⟩

theorem Tale.faults_iff {t : Teller} {id : Nat} (tale : o.Tale t o')
    (past : id + 1 < o.sessions.length ∨ o.state = .closed) : id ∈ o'.faults ↔ id ∈ o.faults := by
  cases tale.blame with
  | none failed faults => rw [faults]
  | latest last latest used failed faults verdicts =>
    have ne : id ≠ last := by
      rintro rfl
      rcases past with older | closed
      · omega
      · exact used closed
    simp [faults, ne]

theorem Chronicle.past_of_ending {id : Nat} {span : Span} {fatal : Bool}
    (chronicle : o.Chronicle spans) (at_id : spans[id]? = some span)
    (ending : span.ending = some fatal) : id + 1 < o.sessions.length ∨ o.state = .closed := by
  have bound := (List.getElem?_eq_some_iff.1 at_id).1
  have length := chronicle.length
  by_cases older : id + 1 < o.sessions.length
  · exact .inl older
  · right
    by_contra used
    obtain ⟨last, at_last, unended⟩ := chronicle.last.2 (.inl used)
    rw [List.getLast?_eq_getElem?, show spans.length - 1 = id by omega] at at_last
    obtain rfl := Option.some.inj (at_id.symm.trans at_last)
    cases ending.symm.trans unended

theorem Chronicle.unended (chronicle : o.Chronicle spans)
    (loud : o.state ≠ .closed ∨ ∃ t, o.tells t) :
    ∃ older body, spans = older ++ [⟨body, none⟩] := by
  obtain ⟨⟨body, ending⟩, at_last, rfl⟩ := chronicle.last.2 loud
  obtain ⟨older, rfl⟩ := List.getLast?_eq_some_iff.1 at_last
  exact ⟨older, body, rfl⟩

/-- More is told of the latest session. -/
theorem Chronicle.amend {t : Teller} {older : List Span} {span : Span} {more : List LinkEvent}
    (span' : Span) (chronicle : o.Chronicle (older ++ [span])) (tale : o.Tale t o')
    (events : o'.events = o.events ++ more) (more_eq : span'.events = span.events ++ more)
    (traffic : ∀ event ∈ span'.body, event.isTraffic)
    (last : span'.ending = none ↔ o'.state ≠ .closed ∨ ∃ t, o'.tells t)
    (fatal : ∀ fatal, span'.ending = some fatal → (fatal = true ↔ older.length ∈ o'.faults)) :
    o'.Chronicle (older ++ [span']) := by
  have length : older.length + 1 = o.sessions.length := by
    simpa using chronicle.length
  refine ⟨?_, ?_, ?_, ?_, ?_, ?_, ?_⟩
  · rw [events, chronicle.events]
    simp [more_eq]
  · intro s member
    rcases List.mem_append.1 member with old | new
    · exact chronicle.traffic s (List.mem_append_left _ old)
    · obtain rfl := List.mem_singleton.1 new
      exact traffic
  · rw [tale.length, ← length, List.length_append, List.length_singleton]
  · rw [tale.started, ← chronicle.started, List.length_append, List.length_append]
    rfl
  · rw [List.dropLast_concat]
    have ended := chronicle.ended
    rwa [List.dropLast_concat] at ended
  · rw [List.getLast?_concat, ← last]
    constructor
    · rintro ⟨_, ⟨⟩, unended⟩
      exact unended
    · exact fun unended => ⟨span', rfl, unended⟩
  · intro id s cause at_id ending
    rcases getElem?_concat_cases at_id with old | ⟨rfl, rfl⟩
    · have bound := (List.getElem?_eq_some_iff.1 old).1
      rw [tale.faults_iff (.inl (by omega))]
      refine chronicle.fatal id s cause ?_ ending
      rw [List.getElem?_append_left bound, old]
    · exact fatal cause ending

theorem Chronicle.tale {t : Teller} (chronicle : o.Chronicle spans) (tidy : o.Tidy)
    (tale : o.Tale t o') : ∃ spans', o'.Chronicle spans' := by
  cases tale.news with
  | none events same =>
    refine ⟨spans, ?_, chronicle.traffic, ?_, ?_, chronicle.ended, ?_, ?_⟩
    · rw [events]
      exact chronicle.events
    · rw [tale.length]
      exact chronicle.length
    · rw [tale.started]
      exact chronicle.started
    · rw [tale.loud same]
      exact chronicle.last
    · intro id span fatal at_id ending
      rw [tale.faults_iff (chronicle.past_of_ending at_id ending)]
      exact chronicle.fatal id span fatal at_id ending
  | traffic event traffic events used same =>
    obtain ⟨older, body, rfl⟩ := chronicle.unended (.inl used)
    refine ⟨_, chronicle.amend ⟨body ++ [event], none⟩ tale events ?_ ?_ ?_ ?_⟩
    · simp [Span.events]
    · intro e member
      rcases List.mem_append.1 member with old | new
      · exact chronicle.traffic ⟨body, none⟩ List.mem_concat_self e old
      · obtain rfl := List.mem_singleton.1 new
        exact traffic
    · exact ⟨fun _ => .inl (same ▸ used), fun _ => rfl⟩
    · rintro _ ⟨⟩
  | ending fatal verdict tells events told same =>
    have closed := tidy.closed t tells
    obtain ⟨older, body, rfl⟩ := chronicle.unended (.inr ⟨t, tells⟩)
    have latest : older.length + 1 = o.sessions.length := by
      simpa using chronicle.length
    refine ⟨_, chronicle.amend ⟨body, some fatal⟩ tale events ?_ ?_ ?_ ?_⟩
    · simp [Span.events]
    · exact chronicle.traffic ⟨body, none⟩ List.mem_concat_self
    · refine ⟨by rintro ⟨⟩, ?_⟩
      rintro (used | ⟨u, tells'⟩)
      · exact absurd (same.trans closed) used
      · by_cases own : u = t
        · rw [own, told] at tells'
          cases tells'
        · rw [(tale.others u own).1] at tells'
          exact absurd (tidy.alone u t tells' tells) own
    · rintro _ ⟨⟩
      rw [tale.faults_iff (.inr closed), ← tidy.failed _ latest, ← tidy.judged t fatal verdict]

/-- A session is opened when nobody is about to tell. -/
theorem Chronicle.open (chronicle : o.Chronicle spans) (silent : ∀ t, o.tells t = false)
    (closed : o.state = .closed) (opened : o'.state = .opened)
    (events : o'.events = o.events ++ [.opened])
    (length : o'.sessions.length = o.sessions.length + 1)
    (started : o'.calls.countP Call.hasStarted = o.calls.countP Call.hasStarted + 1)
    (faults : o'.faults = o.faults) : o'.Chronicle (spans ++ [⟨[], none⟩]) := by
  refine ⟨?_, ?_, ?_, ?_, ?_, ?_, ?_⟩
  · rw [events, chronicle.events]
    simp [Span.events]
  · intro span member
    rcases List.mem_append.1 member with old | new
    · exact chronicle.traffic span old
    · obtain rfl := List.mem_singleton.1 new
      rintro _ ⟨⟩
  · rw [length, List.length_append, chronicle.length]
    rfl
  · rw [started, List.length_append, chronicle.started]
    rfl
  · rw [List.dropLast_concat]
    intro span member
    by_cases older : span ∈ spans.dropLast
    · exact chronicle.ended span older
    · -- the last of the old sessions has ended, as the link is closed and nobody is about to tell
      by_contra unended
      rw [Option.not_isSome_iff_eq_none] at unended
      rcases spans.eq_nil_or_concat with rfl | ⟨init, last, eq⟩
      · cases member
      · rw [List.concat_eq_append] at eq
        subst eq
        rw [List.dropLast_concat] at older
        obtain rfl := List.mem_singleton.1 ((List.mem_append.1 member).resolve_left older)
        rcases chronicle.last.1 ⟨span, List.getLast?_concat, unended⟩ with used | ⟨t, tells⟩
        · exact used closed
        · rw [silent t] at tells
          cases tells
  · refine ⟨fun _ => .inl ?_, fun _ => ⟨_, List.getLast?_concat, rfl⟩⟩
    rw [opened]
    decide
  · intro id span fatal at_id ending
    rw [faults]
    rcases getElem?_concat_cases at_id with old | ⟨-, rfl⟩
    · exact chronicle.fatal id span fatal old ending
    · cases ending

end Outline

/-! ## Runs -/

namespace Scene

variable {σ : Type} {T : Transport σ} {s s' : Scene σ}

/-- The events tell of the sessions as they are. -/
structure Told (s : Scene σ) : Prop where
  tidy : s.outline.Tidy
  chronicle : ∃ spans, s.outline.Chronicle spans

theorem told_fresh (options : LinkOptions) (device : σ) (now : Nat) :
    (fresh options device now).Told := by
  have silent : ∀ t, (fresh options device now).outline.tells t = false ∧
      (fresh options device now).outline.verdict? t = none := by
    intro t
    cases t <;> exact ⟨rfl, rfl⟩
  refine ⟨⟨by rintro _ ⟨⟩, by rintro _ ⟨⟩, ?_, ?_, ?_⟩, [], ?_⟩
  · intro t fatal h
    cases (silent t).2.symm.trans h
  · intro t h
    cases (silent t).1.symm.trans h
  · intro t u h
    cases (silent t).1.symm.trans h
  · refine ⟨rfl, by rintro _ ⟨⟩, rfl, rfl, by rintro _ ⟨⟩, ?_, ?_⟩
    · refine ⟨by rintro ⟨_, ⟨⟩, _⟩, ?_⟩
      rintro (h | ⟨t, h⟩)
      · exact absurd rfl h
      · cases (silent t).1.symm.trans h
    · rintro _ _ _ ⟨⟩

theorem Told.tale {t : Teller} (told : s.Told) (tale : s.outline.Tale t s'.outline) : s'.Told := by
  obtain ⟨spans, chronicle⟩ := told.chronicle
  exact ⟨told.tidy.tale tale, chronicle.tale told.tidy tale⟩

theorem Told.act {a : Action σ} (told : s.Told) (orderly : s.Orderly) (plain : a ≠ .make .start) :
    (s.act T a).Told := by
  cases a with
  | loop p => exact told.tale (Outline.LoopStep.tale orderly (s.loopStep_act T p))
  | call number =>
    have step := s.callStep_act T number fun phase at_number =>
      orderly.fits _ (List.mem_of_getElem? at_number)
    exact told.tale step.tale
  | make request =>
    have made :
        s.outline.Tale (.call s.outline.calls.length) (s.act T (.make request)).outline := by
      cases request with
      | start => exact absurd rfl plain
      | send | stopPolling | close => exact .make s.outline s.outline.current rfl rfl rfl
    exact told.tale made
  | device | clock | command | callback => exact ⟨told.tidy, told.chronicle⟩

/-- A start keeps the events telling of the sessions, unless its queue cannot be made. -/
theorem Told.start {phase : StartPhase} {link : Link σ} (told : s.Told) (calm : s.Calm)
    (outcome : s.link.StartOutcome phase link)
    (fits : s.link.options.queueCapacity.toNat ≤ Link.maxQueueCapacity) :
    (s.afterStart phase link).Told := by
  have outline := outline_afterStart phase link s
  have calm' := calm_of_start calm outcome
  cases outcome with
  | refused e =>
    refine told.tale (t := .call s.outline.calls.length) ?_
    rw [outline]
    exact .make s.outline s.outline.current rfl rfl rfl
  | unopened e closed =>
    refine told.tale (t := .call s.outline.calls.length) ?_
    rw [outline]
    exact .make s.outline none rfl rfl rfl
  | broken device closed large => omega
  | opened device closed fits' =>
    obtain ⟨spans, chronicle⟩ := told.chronicle
    have length : ((s.link.withSession device).sessions.map Session.standing).length =
        (s.link.sessions.map Session.standing).length + 1 := by
      simp [Link.withSession]
    have started : (s.calls ++ [Call.start (.done (.ok ()))]).countP Call.hasStarted =
        s.calls.countP Call.hasStarted + 1 := by
      rw [List.countP_append]
      rfl
    have faults := congrArg Outline.faults outline
    refine ⟨told.tidy.open (Outline.Calm.silent calm') length rfl faults,
      spans ++ [⟨[], none⟩], ?_⟩
    exact chronicle.open (fun t => (Outline.Calm.silent calm t).1) closed rfl rfl
      length started faults

theorem Told.move (told : s.Told) (orderly : s.Orderly)
    (fits : s.link.options.queueCapacity.toNat ≤ Link.maxQueueCapacity) (move : Move T Calm s s') :
    s'.Told ∧ s'.link.options = s.link.options := by
  cases move with
  | act a plain => exact ⟨told.act orderly plain, options_act T s a⟩
  | start apart calm run =>
    obtain ⟨phase, link, outcome, rfl⟩ := start_outcome orderly.unlocked run
    refine ⟨told.start calm outcome fits, ?_⟩
    cases outcome <;> rfl

theorem told_of_turns {options : LinkOptions} {device : σ} {now : Nat}
    (fits : options.queueCapacity.toNat ≤ Link.maxQueueCapacity)
    (turns : Relation.ReflTransGen (Turn T) (fresh options device now) s) : s.Calm ∧ s.Told := by
  obtain ⟨-, calm, moves⟩ := moves_of_turns turns
  suffices s.Orderly ∧ s.link.options = options ∧ s.Told from ⟨calm, this.2.2⟩
  clear calm turns
  induction moves with
  | refl => exact ⟨orderly_fresh options device now, rfl, told_fresh options device now⟩
  | tail _ move ih =>
    obtain ⟨orderly, same, told⟩ := ih
    obtain ⟨told', same'⟩ := told.move orderly (same ▸ fits) move
    exact ⟨orderly.move move, same'.trans same, told'⟩

theorem mem_faults_iff {id : Nat} : id ∈ s.outline.faults ↔ .failed id ∈ s.notes := by
  have faults : s.outline.faults = s.notes.filterMap Note.fault? := rfl
  rw [faults, List.mem_filterMap]
  constructor
  · rintro ⟨note, member, fault⟩
    cases note with
    | failed session =>
      obtain rfl := Option.some.inj fault
      exact member
    | _ => cases fault
  · exact fun member => ⟨_, member, rfl⟩

/-- Between the turns of a link whose calls are made one after another, and whose queues can be
made, the events are those of its sessions, one after the other:

* The events of a session are that it was opened, then what was sent, received, dropped and polled,
  and at the end, if any, that it was closed.  There are as many sessions as starts that have
  succeeded.
* Every session but the last has an end, and the last has none if and only if the link is not
  closed.
* An end says that the session was given up if and only if a loop of it has begun to do so. -/
theorem events_of_turns {options : LinkOptions} {device : σ} {now : Nat}
    (fits : options.queueCapacity.toNat ≤ Link.maxQueueCapacity)
    (turns : Relation.ReflTransGen (Turn T) (fresh options device now) s) :
    ∃ spans : List Span, s.link.events = spans.flatMap Span.events ∧
      (∀ span ∈ spans, ∀ event ∈ span.body, event.isTraffic) ∧
      spans.length = s.calls.countP Call.hasStarted ∧
      spans.length = s.link.sessions.length ∧
      (∀ span ∈ spans.dropLast, span.ending.isSome) ∧
      ((∃ span, spans.getLast? = some span ∧ span.ending = none) ↔ s.link.state ≠ .closed) ∧
      ∀ (id : Nat) (span : Span) (fatal : Bool), spans[id]? = some span →
        span.ending = some fatal → (fatal = true ↔ .failed id ∈ s.notes) := by
  obtain ⟨calm, -, spans, chronicle⟩ := told_of_turns fits turns
  refine ⟨spans, chronicle.events, chronicle.traffic, chronicle.started, ?_, chronicle.ended, ?_,
    ?_⟩
  · rw [chronicle.length]
    exact List.length_map ..
  · rw [chronicle.last]
    refine ⟨?_, .inl⟩
    rintro (used | ⟨t, tells⟩)
    · exact used
    · rw [(Outline.Calm.silent calm t).1] at tells
      cases tells
  · intro id span fatal at_id ending
    rw [chronicle.fatal id span fatal at_id ending]
    exact mem_faults_iff

/-- A link that was started once tells of one session. -/
theorem events_of_turns_opened :
    rehearsed.queueCapacity.toNat ≤ Link.maxQueueCapacity ∧
      ∃ spans : List Span, rehearsal.link.events = spans.flatMap Span.events ∧ spans.length = 1 ∧
        ∃ span, spans.getLast? = some span ∧ span.ending = none := by
  have fits : rehearsed.queueCapacity.toNat ≤ Link.maxQueueCapacity := by decide
  have turns : Relation.ReflTransGen (Turn Device.transport) (fresh rehearsed { } 0) rehearsal :=
    .single (.make .start (by rintro _ ⟨⟩) rehearsal_stretch)
  obtain ⟨spans, events, -, -, length, -, last, -⟩ := events_of_turns fits turns
  exact ⟨fits, spans, events, length, last.2 (by decide)⟩

/-! ## Starts that are interrupted -/

/-- A start has begun the loops but not reported yet that the link is open, and the reader reads a
chunk. -/
def hasty : List (Action Device) :=
  .device { reads := [.data [1]] } :: .make .start :: List.replicate 11 (.call 0) ++
    List.replicate 5 (.loop ⟨0, .reader⟩) ++ List.replicate 5 (.call 0)

/-- A loop may report of its session before the start does. -/
theorem received_before_opened :
    ((fresh rehearsed { } 0).run Device.transport hasty).link.events =
      [.received [1], .opened] := by
  decide +kernel

/-- A reader meets the end of the data.  The writer, the last loop to leave, closes the link but has
not reported it yet when a second start opens the link again. -/
def tardy : List (Action Device) :=
  .device { opens := 1, reads := [.endOfStream] } :: List.replicate 9 (.loop ⟨0, .reader⟩) ++
    List.replicate 6 (.loop ⟨0, .writer⟩) ++ .make .start :: List.replicate 16 (.call 1) ++
    [.loop ⟨0, .writer⟩]

/-- A session may be reported to be closed after the next was reported to be opened. -/
theorem opened_before_closed :
    (rehearsal.run Device.transport tardy).link.events = [.opened, .opened, .closed true] := by
  decide +kernel

end Scene

end FieldLink

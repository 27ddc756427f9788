import FieldLink.Proofs.Link.Outline

/-!
# Orderly outlines

`Outline.Orderly` says how the state of the link, the session that accepts frames, the count of
loops and the calls agree with the stages of the loops.  A loop that goes on to a stage changes one
session (`Passage`), and every step of a loop keeps an outline orderly (`Orderly.loopStep`).
-/

namespace FieldLink

/-- Whether a close is about to cancel the session it took. -/
def Call.isHalting : Call → Bool
  | close (.unplug _) | close (.cancel _) => true
  | _ => false

/-- Whether a close has taken a session and has not returned. -/
def Call.hasTaken : Call → Bool
  | close .stopPolling | close .take | close (.done _) => false
  | close _ => true
  | _ => false

theorem Call.isClosing_of_hasTaken {c : Call} (taken : c.hasTaken) : c.isClosing := by
  cases c with
  | start | send | stopPolling => cases taken
  | close phase =>
    cases phase with
    | done => cases taken
    | _ => rfl

namespace Outline

/-- A session agrees with the rest of an outline.  It is the latest one if its number is. -/
structure Keeps (o : Outline) (id : Nat) (x : Standing) : Prop where
  sound : x.Sound
  /-- All loops are idle unless the session is the latest and the link open or closing. -/
  idle : id + 1 < o.sessions.length ∨ o.state = .closed ∨ o.state = .opening →
    ∀ loop, (x.stage loop).isIdle
  unplugged : x.Unplugged → o.outbox ≠ some id
  closing : ∀ loop, x.stage loop = .failing .unplug → o.state ≠ .opened
  count : id + 1 = o.sessions.length → o.liveLoops = x.load
  /-- Unless the link is open, the latest session is cancelled or about to be. -/
  halted : id + 1 = o.sessions.length → o.state ≠ .opened →
    x.cancelled ∨ x.Halting ∨ ∃ c ∈ o.calls, c.isHalting

/-- The latest session is cancelled, and its loops have ended. -/
def Ended (o : Outline) : Prop :=
  ∃ id x, o.sessions[id]? = some x ∧ id + 1 = o.sessions.length ∧ x.cancelled ∧ x.isOver

/-- The phase of a call agrees with the outline. -/
def Fits (o : Outline) : Call → Prop
  | .start phase => (Call.start phase).isOver
  | .close (.mark id) => id + 1 = o.sessions.length
  | .close (.unplug id) => id + 1 = o.sessions.length ∧ o.state ≠ .opened
  | .close (.cancel id) => id + 1 = o.sessions.length ∧ o.outbox = none
  | .close (.join id) => id + 1 = o.sessions.length ∧ ∃ x, o.sessions[id]? = some x ∧ x.cancelled
  | .close (.judge _) | .close (.finish _ _) => o.Ended
  | .close (.clear _ _ _) | .close (.report _ _) => o.state = .closed ∧ o.Ended
  | _ => True

/-- The parts of an outline agree with each other. -/
structure Orderly (o : Outline) : Prop where
  unlocked : o.locked = false
  outbox : ∀ id, o.outbox = some id → id + 1 = o.sessions.length
  current : ∀ id, o.current = some id → id + 1 = o.sessions.length
  plugged : o.state = .opened → o.outbox.isSome
  empty : o.sessions = [] → o.liveLoops = 0
  keeps : ∀ id x, o.sessions[id]? = some x → o.Keeps id x
  fits : ∀ c ∈ o.calls, o.Fits c

variable {o o' : Outline}

theorem Ended.of_latest {id : Nat} {x : Standing} (ended : o.Ended)
    (at_id : o.sessions[id]? = some x) (latest : id + 1 = o.sessions.length) :
    x.cancelled ∧ x.isOver := by
  obtain ⟨id', y, at_y, latest', cancelled, finished⟩ := ended
  obtain rfl : id = id' := by omega
  obtain rfl : x = y := Option.some.inj (at_id.symm.trans at_y)
  exact ⟨cancelled, finished⟩

theorem sessions_update {id : Nat} {f : Standing → Standing} {x : Standing}
    (at_id : o.sessions[id]? = some x) : (o.update id f).sessions = o.sessions.set id (f x) :=
  modify_eq_set_of_getElem? at_id

/-- What of an outline a session agrees with may change so. -/
theorem Keeps.mono {id : Nat} {x : Standing} (keeps : o.Keeps id x)
    (bound : id < o.sessions.length)
    (length : o'.sessions.length = o.sessions.length)
    (outbox : o'.outbox = o.outbox ∨ o'.outbox = none)
    (opened : o'.state = .opened → o.state = .opened)
    (count : id + 1 = o.sessions.length → o'.liveLoops = o.liveLoops)
    (idle : id + 1 = o.sessions.length → o'.state = .closed ∨ o'.state = .opening →
      ∀ loop, (x.stage loop).isIdle)
    (halted : id + 1 = o.sessions.length → o'.state ≠ .opened →
      x.cancelled ∨ x.Halting ∨ ∃ c ∈ o'.calls, c.isHalting) : o'.Keeps id x where
  sound := keeps.sound
  idle h := by
    rw [length] at h
    by_cases latest : id + 1 = o.sessions.length
    · exact idle latest (h.resolve_left (by omega))
    · exact keeps.idle (.inl (by omega))
  unplugged h := by
    rcases outbox with same | none
    · rw [same]
      exact keeps.unplugged h
    · rw [none]
      rintro ⟨⟩
  closing loop h h' := keeps.closing loop h (opened h')
  count latest := by
    rw [length] at latest
    rw [count latest, keeps.count latest]
  halted latest := halted (length ▸ latest)

/-- What of an outline a call fits may change so. -/
theorem Fits.mono {c : Call} (fits : o.Fits c) (length : o'.sessions.length = o.sessions.length)
    (opened : o'.state = .opened → o.state = .opened) (outbox : o.outbox = none → o'.outbox = none)
    (cancelled : ∀ id x, id + 1 = o.sessions.length → o.sessions[id]? = some x → x.cancelled →
      ∃ x', o'.sessions[id]? = some x' ∧ x'.cancelled)
    (ended : o.Ended → o'.Ended) (closed : o.Ended → o.state = .closed → o'.state = .closed) :
    o'.Fits c := by
  cases c with
  | start => exact fits
  | send | stopPolling => trivial
  | close phase =>
    cases phase with
    | stopPolling | take | done => trivial
    | mark id => exact Eq.trans fits length.symm
    | unplug id => exact ⟨fits.1.trans length.symm, fun h => fits.2 (opened h)⟩
    | cancel id => exact ⟨fits.1.trans length.symm, outbox fits.2⟩
    | join id =>
      obtain ⟨last, x, at_id, was⟩ := fits
      exact ⟨last.trans length.symm, cancelled id x last at_id was⟩
    | judge | finish => exact ended fits
    | clear | report => exact ⟨closed fits.2 fits.1, ended fits.2⟩

/-! ## Steps of the loops -/

/-- A loop that is not idle belongs to the latest session, and the link is open or closing. -/
theorem Keeps.of_busy {id : Nat} {x : Standing} {loop : Loop} (keeps : o.Keeps id x)
    (busy : (x.stage loop).isIdle = false) :
    ¬(id + 1 < o.sessions.length ∨ o.state = .closed ∨ o.state = .opening) := by
  intro h
  have idle := keeps.idle h loop
  rw [busy] at idle
  cases idle

theorem Orderly.of_busy {p : Place} {x : Standing} {stage : Stage} (orderly : o.Orderly)
    (at_id : o.sessions[p.session]? = some x) (at_stage : x.stage p.loop = stage)
    (busy : stage.isIdle = false) :
    p.session + 1 = o.sessions.length ∧
      ¬(p.session + 1 < o.sessions.length ∨ o.state = .closed ∨ o.state = .opening) := by
  subst at_stage
  have not_idle := (orderly.keeps _ x at_id).of_busy busy
  have bound := (List.getElem?_eq_some_iff.1 at_id).1
  exact ⟨by omega, not_idle⟩

/-- A session changes one of whose loops has not ended. -/
theorem Orderly.put {p : Place} {x x' : Standing} (orderly : o.Orderly)
    (at_id : o.sessions[p.session]? = some x) (awake : x.isOver = false)
    (apart : p.session + 1 = o.sessions.length ∨
      o'.state = o.state ∧ o'.liveLoops = o.liveLoops)
    (sessions : o'.sessions = o.sessions.set p.session x') (calls : o'.calls = o.calls)
    (locked : o'.locked = o.locked) (current : o'.current = o.current)
    (outbox : o'.outbox = o.outbox ∨ o'.outbox = none)
    (opened : o'.state = .opened → o.state = .opened ∧ o'.outbox = o.outbox)
    (cancelled : x.cancelled → x'.cancelled) (keeps : o'.Keeps p.session x') : o'.Orderly := by
  have bound : p.session < o.sessions.length := (List.getElem?_eq_some_iff.1 at_id).1
  have length : o'.sessions.length = o.sessions.length := by rw [sessions, List.length_set]
  -- a close that has seen its loops end would have seen this one
  have older_of_ended : o.Ended → p.session + 1 ≠ o.sessions.length := by
    intro ended latest
    have finished := (ended.of_latest at_id latest).2
    rw [awake] at finished
    cases finished
  have ended_of_ended : o.Ended → o'.Ended := by
    intro ended
    have older := older_of_ended ended
    obtain ⟨id, y, at_y, latest, quiet⟩ := ended
    have ne : p.session ≠ id := by omega
    refine ⟨id, y, ?_, latest.trans length.symm, quiet⟩
    rw [sessions, List.getElem?_set_ne ne, at_y]
  refine ⟨locked ▸ orderly.unlocked, ?_, ?_, ?_, ?_, ?_, ?_⟩
  · intro id h
    rw [length]
    rcases outbox with same | none
    · exact orderly.outbox id (same ▸ h)
    · rw [none] at h
      cases h
  · intro id h
    rw [length]
    exact orderly.current id (current ▸ h)
  · intro h
    obtain ⟨was, same⟩ := opened h
    rw [same]
    exact orderly.plugged was
  · intro h
    rw [h, List.length_nil] at length
    omega
  · intro id y at_y
    rw [sessions] at at_y
    rcases getElem?_set_cases at_y with ⟨rfl, rfl⟩ | ⟨own, at_y⟩
    · exact keeps
    · have bound_y := (List.getElem?_eq_some_iff.1 at_y).1
      have keeps_y := orderly.keeps id y at_y
      have same_of_latest : id + 1 = o.sessions.length →
          o'.state = o.state ∧ o'.liveLoops = o.liveLoops := fun h => apart.resolve_left (by omega)
      refine keeps_y.mono bound_y length outbox (fun h => (opened h).1)
        (fun h => (same_of_latest h).2) ?_ ?_
      · intro latest h
        exact keeps_y.idle (.inr ((same_of_latest latest).1 ▸ h))
      · intro latest h
        rw [calls]
        exact keeps_y.halted latest ((same_of_latest latest).1 ▸ h)
  · intro c member
    rw [calls] at member
    refine (orderly.fits c member).mono length (fun h => (opened h).1) ?_ ?_ ended_of_ended ?_
    · intro none
      rcases outbox with same | gone
      · rw [same, none]
      · exact gone
    · intro id y _ at_y was
      rw [sessions]
      by_cases own : id = p.session
      · subst own
        obtain rfl : y = x := Option.some.inj (at_y.symm.trans at_id)
        exact ⟨x', List.getElem?_set_self bound, cancelled was⟩
      · exact ⟨y, by rw [List.getElem?_set_ne (Ne.symm own), at_y], was⟩
    · intro ended closed
      exact (apart.resolve_left (older_of_ended ended)).1.trans closed

/-- A loop that has not ended goes on to a stage.  Fields are filled in as most loops need them. -/
structure Passage (o : Outline) (p : Place) (old stage : Stage) (x x' : Standing) (o' : Outline) :
    Prop where
  at_id : o.sessions[p.session]? = some x
  at_stage : x.stage p.loop = old
  awake : old ≠ .unborn ∧ old ≠ .gone ∧ old ≠ .broken := by decide
  becomes : Standing.Becomes p.loop stage x x'
  sessions : o'.sessions = o.sessions.set p.session x'
  calls : o'.calls = o.calls := by rfl
  locked : o'.locked = o.locked := by rfl
  current : o'.current = o.current := by rfl
  outbox : o'.outbox = o.outbox ∨ o'.outbox = none := by exact .inl rfl
  opened : o'.state = .opened → o.state = .opened ∧ o'.outbox = o.outbox := by
    exact fun h => ⟨h, rfl⟩
  apart : p.session + 1 = o.sessions.length ∨ o'.state = o.state ∧ o'.liveLoops = o.liveLoops
  allows : p.loop.allows stage
  dropped : stage.isOut → x'.holds p.loop = false := by rintro ⟨⟩
  last : stage.isLast → ∀ other, other ≠ p.loop →
    x.stage other = .unborn ∨ x.stage other = .gone := by rintro ⟨⟩
  idle : p.session + 1 < o.sessions.length ∨ o'.state = .closed ∨ o'.state = .opening →
    stage.isIdle ∧ (stage.isLast ∨ ∀ other, (x.stage other).isIdle)
  cancelled : x'.cancelled → x.Unplugged
  past : p.loop ≠ .poller → stage.isPast → x.Unplugged ∨ o'.outbox ≠ some p.session := by
    rintro _ ⟨⟩
  closing : stage = .failing .unplug → o'.state ≠ .opened := by rintro ⟨⟩
  count : o'.liveLoops - stage.weight = o.liveLoops - old.weight := by rfl
  halted : o'.state ≠ .opened →
    x'.cancelled ∨ stage.isHalting ∨ o.state ≠ .opened ∧ old.isHalting = false := by
    exact fun h => .inr (.inr ⟨h, rfl⟩)

variable {p : Place} {old stage : Stage} {x x' : Standing}

/-- What a session agrees with when a loop has gone on to a stage. -/
theorem Passage.keeps (passage : o.Passage p old stage x x' o') (keeps : o.Keeps p.session x) :
    o'.Keeps p.session x' := by
  obtain ⟨at_id, rfl, awake, becomes, sessions, calls, -, -, outbox, opened, -, allows, dropped,
    last, idle, cancelled, past, closing, count, halted⟩ := passage
  have length : o'.sessions.length = o.sessions.length := by rw [sessions, List.length_set]
  have still_plugged : x.Unplugged → o'.outbox ≠ some p.session := by
    intro h
    rcases outbox with same | none
    · rw [same]
      exact keeps.unplugged h
    · rw [none]
      rintro ⟨⟩
  refine ⟨keeps.sound.becomes becomes ⟨awake.1, awake.2.1⟩ allows dropped last, ?_, ?_, ?_, ?_, ?_⟩
  · intro h other
    rw [length] at h
    obtain ⟨is_idle, rest⟩ := idle h
    by_cases ne : other = p.loop
    · rw [ne, becomes.stage_self]
      exact is_idle
    · rw [becomes.stage_of_ne ne]
      rcases rest with is_last | all
      · rcases last is_last other ne with h | h <;> rw [h] <;> rfl
      · exact all other
  · rintro (h | ⟨other, not_poller, is_past⟩)
    · exact still_plugged (cancelled h)
    · by_cases ne : other = p.loop
      · subst ne
        rw [becomes.stage_self] at is_past
        rcases past not_poller is_past with h | h
        · exact still_plugged h
        · exact h
      · rw [becomes.stage_of_ne ne] at is_past
        exact still_plugged (.inr ⟨other, not_poller, is_past⟩)
  · intro other h
    by_cases ne : other = p.loop
    · rw [ne, becomes.stage_self] at h
      exact closing h
    · rw [becomes.stage_of_ne ne] at h
      exact fun h' => keeps.closing other h (opened h').1
  · intro latest
    have was := keeps.count (latest.trans length)
    have load := becomes.load
    omega
  · intro latest h
    rcases halted h with h | h | ⟨was, not_halting⟩
    · exact .inl h
    · exact .inr (.inl ⟨p.loop, becomes.stage_self ▸ h⟩)
    · rw [calls]
      rcases keeps.halted (latest.trans length) was with h | ⟨other, h⟩ | h
      · exact .inl (becomes.cancelled h)
      · refine .inr (.inl ⟨other, ?_⟩)
        have ne : other ≠ p.loop := by
          rintro rfl
          rw [not_halting] at h
          cases h
        rw [becomes.stage_of_ne ne]
        exact h
      · exact .inr (.inr h)

theorem isOver_eq_false {x : Standing} {loop : Loop} {stage : Stage}
    (at_stage : x.stage loop = stage)
    (awake : stage ≠ .unborn ∧ stage ≠ .gone ∧ stage ≠ .broken) : x.isOver = false := by
  by_contra finished
  rw [Bool.not_eq_false] at finished
  simp only [Standing.isOver, Bool.and_eq_true, Bool.or_eq_true, decide_eq_true_eq] at finished
  obtain ⟨⟨reader, writer⟩, poller⟩ := finished
  obtain ⟨not_unborn, not_gone, not_broken⟩ := awake
  cases loop with
  | reader => exact not_gone (at_stage.symm.trans reader)
  | writer => exact not_gone (at_stage.symm.trans writer)
  | poller =>
    rcases poller with (poller | poller) | poller
    · exact not_gone (at_stage.symm.trans poller)
    · exact not_broken (at_stage.symm.trans poller)
    · exact not_unborn (at_stage.symm.trans poller)

theorem Orderly.pass (orderly : o.Orderly) (passage : o.Passage p old stage x x' o') : o'.Orderly :=
  orderly.put passage.at_id (isOver_eq_false passage.at_stage passage.awake) passage.apart
    passage.sessions passage.calls passage.locked passage.current passage.outbox passage.opened
    passage.becomes.cancelled (passage.keeps (orderly.keeps _ x passage.at_id))

/-- What was reported does not matter, nor what has failed. -/
theorem Orderly.of_eq (orderly : o.Orderly)
    (same : o' = { o with events := o'.events, failed := o'.failed, faults := o'.faults }) :
    o'.Orderly := by
  rw [same]
  refine ⟨orderly.unlocked, orderly.outbox, orderly.current, orderly.plugged, orderly.empty, ?_,
    fun c member => orderly.fits c member⟩
  intro id x at_id
  obtain ⟨sound, idle, unplugged, closing, count, halted⟩ := orderly.keeps id x at_id
  exact ⟨sound, idle, unplugged, closing, count, halted⟩

/-- The stages at which a running loop may stop. -/
theorem Stops.cases {p : Place} {x : Standing} {stage : Stage} (stops : o.Stops p x stage) :
    p.loop ≠ .poller ∧ stage = .failing .mark ∨
    p.loop ≠ .poller ∧ stage = .ending ∧ (x.cancelled ∨ o.outbox ≠ some p.session) ∨
    p.loop = .poller ∧ stage = .leaving .count ∨ p.loop = .poller ∧ stage = .broken := by
  unfold Stops at stops
  cases loop : p.loop <;> simp_all

/-- A loop goes on to a stage, and nothing else changes. -/
theorem Orderly.goTo (orderly : o.Orderly) (at_id : o.sessions[p.session]? = some x)
    (at_stage : x.stage p.loop = old) (busy : old.isIdle = false) (allows : p.loop.allows stage)
    (dropped : stage.isOut → x.holds p.loop = false)
    (last : stage.isLast → ∀ other, other ≠ p.loop →
      x.stage other = .unborn ∨ x.stage other = .gone)
    (past : p.loop ≠ .poller → stage.isPast → x.Unplugged ∨ o.outbox ≠ some p.session)
    (not_halting : old.isHalting = false ∧ stage.isHalting = false)
    (weight : stage.weight = old.weight) : (o.goTo p stage).Orderly := by
  obtain ⟨latest, awake⟩ := orderly.of_busy at_id at_stage busy
  exact orderly.pass {
    at_id, at_stage
    awake := by
      refine ⟨?_, ?_, ?_⟩ <;> rintro rfl <;> cases busy
    becomes := .goTo _ _ x
    sessions := sessions_update at_id
    apart := .inl latest
    allows
    dropped := fun out => (Standing.holds_goTo ..).trans (dropped out)
    last
    idle := fun h => absurd h awake
    cancelled := Standing.Unplugged.goTo
    past
    closing := by
      rintro rfl
      cases not_halting.2
    count := by
      rw [weight]
      rfl
    halted := fun h => .inr (.inr ⟨h, not_halting.1⟩) }

/-- A loop that has stopped running may go on to any stage at which it may stop. -/
theorem Orderly.stop (orderly : o.Orderly) (at_id : o.sessions[p.session]? = some x)
    (at_stage : x.stage p.loop = .running) (stops : o.Stops p x stage) :
    (o.goTo p stage).Orderly := by
  rcases stops.cases with ⟨ne, rfl⟩ | ⟨ne, rfl, why⟩ | ⟨poller, rfl⟩ | ⟨poller, rfl⟩
  · exact orderly.goTo at_id at_stage rfl (Loop.allows_of_ne ne (by decide)) (by rintro ⟨⟩)
      (by rintro ⟨⟩) (by rintro - ⟨⟩) ⟨rfl, rfl⟩ rfl
  · exact orderly.goTo at_id at_stage rfl (Loop.allows_of_ne ne (by decide)) (by rintro ⟨⟩)
      (by rintro ⟨⟩) (fun _ _ => why.imp_left .inl) ⟨rfl, rfl⟩ rfl
  · exact orderly.goTo at_id at_stage rfl (by rw [poller]; rfl) (fun _ => by rw [poller]; rfl)
      (by rintro ⟨⟩) (fun ne => absurd poller ne) ⟨rfl, rfl⟩ rfl
  · exact orderly.goTo at_id at_stage rfl (by rw [poller]; rfl) (by rintro ⟨⟩) (by rintro ⟨⟩)
      (by rintro - ⟨⟩) ⟨rfl, rfl⟩ rfl

/-- A loop that was the last one to leave goes on leaving or is gone. -/
theorem Orderly.leave {phase : LeavePhase} (orderly : o.Orderly)
    (at_id : o.sessions[p.session]? = some x) (at_stage : x.stage p.loop = .leaving phase)
    (counted : phase = .judge ∨ phase = .finish) (next : stage = .leaving .finish ∨ stage = .gone) :
    (o.goTo p stage).Orderly := by
  have sound := (orderly.keeps _ x at_id).sound
  obtain ⟨-, past, allows⟩ := sound.of_leaving at_stage
  have busy : (Stage.leaving phase).isIdle = false := by rcases counted with rfl | rfl <;> rfl
  have weight : (Stage.leaving phase).weight = 0 := by rcases counted with rfl | rfl <;> rfl
  have was_last : (x.stage p.loop).isLast := by
    rw [at_stage]
    rcases counted with rfl | rfl <;> rfl
  have dropped : x.holds p.loop = false := sound.dropped p.loop (by rw [at_stage]; rfl)
  rcases next with rfl | rfl
  · exact orderly.goTo at_id at_stage busy (allows _) (fun _ => dropped)
      (fun _ other => sound.last p.loop other was_last) (fun ne _ => .inl (past ne)) ⟨rfl, rfl⟩
      weight.symm
  · exact orderly.goTo at_id at_stage busy (Loop.allows_gone _) (fun _ => dropped)
      (by rintro ⟨⟩) (fun ne _ => .inl (past ne)) ⟨rfl, rfl⟩ weight.symm

/-- A step of a loop keeps an outline orderly. -/
theorem Orderly.loopStep (orderly : o.Orderly) (step : o.LoopStep p o') : o'.Orderly := by
  cases step with
  | still => exact orderly
  | work x event at_id at_stage traffic => exact orderly.of_eq rfl
  | stop x stage at_id at_stage stops => exact orderly.stop at_id at_stage stops
  | mark x at_id at_stage =>
    have ne := (orderly.keeps _ x at_id).sound.ne_poller at_stage rfl
    have gone_on : (o.goTo p (.failing .close)).Orderly :=
      orderly.goTo at_id at_stage rfl (Loop.allows_of_ne ne (by decide)) (by rintro ⟨⟩)
        (by rintro ⟨⟩) (by rintro - ⟨⟩) ⟨rfl, rfl⟩ rfl
    exact gone_on.of_eq rfl
  | close x at_id at_stage =>
    obtain ⟨latest, awake⟩ := orderly.of_busy at_id at_stage rfl
    have ne := (orderly.keeps _ x at_id).sound.ne_poller at_stage rfl
    have not_opened : (if o.state = .opened then .closing else o.state) ≠ .opened := by
      split
      · decide
      · assumption
    have awake' : ¬(p.session + 1 < o.sessions.length ∨
        (if o.state = .opened then .closing else o.state) = .closed ∨
        (if o.state = .opened then .closing else o.state) = .opening) := by
      by_cases opened : o.state = .opened <;> simpa [opened] using awake
    exact orderly.pass {
      at_id, at_stage
      becomes := .goTo _ _ x
      sessions := sessions_update at_id
      opened := fun h => absurd h not_opened
      apart := .inl latest
      allows := Loop.allows_of_ne ne (by decide)
      idle := fun h => absurd h awake'
      cancelled := Standing.Unplugged.goTo
      closing := fun _ => not_opened
      halted := fun _ => .inr (.inl rfl) }
  | unplug x at_id at_stage =>
    obtain ⟨latest, awake⟩ := orderly.of_busy at_id at_stage rfl
    have keeps := orderly.keeps _ x at_id
    have ne := keeps.sound.ne_poller at_stage rfl
    exact orderly.pass {
      at_id, at_stage
      becomes := .goTo _ _ x
      sessions := sessions_update at_id
      outbox := .inr rfl
      opened := fun h => absurd h (keeps.closing _ at_stage)
      apart := .inl latest
      allows := Loop.allows_of_ne ne (by decide)
      idle := fun h => absurd h awake
      cancelled := Standing.Unplugged.goTo
      past := fun _ _ => .inr (by rintro ⟨⟩)
      halted := fun _ => .inr (.inl rfl) }
  | cancel x at_id at_stage =>
    obtain ⟨latest, awake⟩ := orderly.of_busy at_id at_stage rfl
    have ne := (orderly.keeps _ x at_id).sound.ne_poller at_stage rfl
    have past : x.Unplugged := .inr ⟨p.loop, ne, by rw [at_stage]; rfl⟩
    exact orderly.pass {
      at_id, at_stage
      becomes := .cancel _ _ x
      sessions := sessions_update at_id
      apart := .inl latest
      allows := Loop.allows_of_ne ne (by decide)
      idle := fun h => absurd h awake
      cancelled := fun _ => past
      past := fun _ _ => .inl past
      halted := fun _ => .inl (by simp) }
  | release x at_id at_stage =>
    obtain ⟨latest, awake⟩ := orderly.of_busy at_id at_stage rfl
    have ne := (orderly.keeps _ x at_id).sound.ne_poller at_stage rfl
    have past : x.Unplugged := .inr ⟨p.loop, ne, by rw [at_stage]; rfl⟩
    exact orderly.pass {
      at_id, at_stage
      becomes := .release _ _ x
      sessions := sessions_update at_id
      apart := .inl latest
      allows := Loop.allows_of_ne ne (by decide)
      dropped := fun _ => by simp [Standing.holds_drop_self]
      idle := fun h => absurd h awake
      cancelled := fun _ => past
      past := fun _ _ => .inl past }
  | count x at_id at_stage =>
    obtain ⟨latest, awake⟩ := orderly.of_busy at_id at_stage rfl
    have keeps := orderly.keeps _ x at_id
    obtain ⟨dropped, past, allows⟩ := keeps.sound.of_leaving at_stage
    by_cases one : o.liveLoops = 1
    · -- the loop that counts down from one is the last: the others have counted themselves out
      rw [if_pos one]
      exact orderly.pass {
        at_id, at_stage
        becomes := .goTo _ _ x
        sessions := sessions_update at_id
        apart := .inl latest
        allows := allows _
        dropped := fun _ => dropped _
        last := fun _ _ ne =>
          keeps.sound.ended_of_load ((keeps.count latest).symm.trans one) at_stage ne
        idle := fun h => absurd h awake
        cancelled := Standing.Unplugged.goTo
        past := fun ne _ => .inl (past ne)
        count := Int.sub_zero _ }
    · rw [if_neg one]
      exact orderly.pass {
        at_id, at_stage
        becomes := .goTo _ _ x
        sessions := sessions_update at_id
        apart := .inl latest
        allows := Loop.allows_gone _
        dropped := fun _ => dropped _
        idle := fun h => absurd h awake
        cancelled := Standing.Unplugged.goTo
        past := fun ne _ => .inl (past ne)
        count := Int.sub_zero _ }
  | judge x at_id at_stage =>
    refine orderly.leave at_id at_stage (.inl rfl) ?_
    split
    · exact .inl rfl
    · exact .inr rfl
  | finish x at_id at_stage closing =>
    obtain ⟨latest, awake⟩ := orderly.of_busy at_id at_stage rfl
    have keeps := orderly.keeps _ x at_id
    obtain ⟨dropped, past, allows⟩ := keeps.sound.of_leaving at_stage
    exact orderly.pass {
      at_id, at_stage
      becomes := .goTo _ _ x
      sessions := sessions_update at_id
      opened := by rintro ⟨⟩
      apart := .inl latest
      allows := allows _
      dropped := fun _ => dropped _
      last := fun _ other => keeps.sound.last p.loop other (by rw [at_stage]; rfl)
      idle := fun _ => ⟨rfl, .inl rfl⟩
      cancelled := Standing.Unplugged.goTo
      past := fun ne _ => .inl (past ne)
      halted := fun _ => .inr (.inr ⟨by rw [closing]; decide, rfl⟩) }
  | pass x at_id at_stage closed => exact orderly.leave at_id at_stage (.inr rfl) (.inr rfl)
  | report x at_id at_stage =>
    have keeps := orderly.keeps _ x at_id
    obtain ⟨dropped, past, -⟩ := keeps.sound.of_leaving at_stage
    exact orderly.pass {
      at_id, at_stage
      becomes := .goTo _ _ x
      sessions := sessions_update at_id
      apart := .inr ⟨rfl, rfl⟩
      allows := Loop.allows_gone _
      dropped := fun _ => dropped _
      idle := fun h => ⟨rfl, .inr (keeps.idle h)⟩
      cancelled := Standing.Unplugged.goTo
      past := fun ne _ => .inl (past ne) }

end Outline

end FieldLink

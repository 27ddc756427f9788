import FieldLink.Proofs.Link.Scene

/-!
# Stages

A loop goes through stages, of which its phases are the finer parts.  A session stands where its
loops are, with what it holds of the transport (`Standing`).  The stages of a session whose loops
were begun agree with each other and with the halves that it holds (`Standing.Sound`), and go on
doing so when a loop goes on to a stage (`Sound.becomes`).
-/

namespace FieldLink

/-- How far a loop has come. -/
inductive Stage where
  | unborn
  | running
  /-- It gives its session up. -/
  | failing (phase : FailPhase)
  /-- It ends its part and lets its half of the transport go. -/
  | ending
  | leaving (phase : LeavePhase)
  | gone
  | broken
  deriving DecidableEq, Repr

/-- The stage of a reader. -/
def ReaderPhase.stage : ReaderPhase → Stage
  | unborn => .unborn
  | fail phase => .failing phase
  | release => .ending
  | leave phase => .leaving phase
  | gone => .gone
  | _ => .running

/-- The stage of a writer. -/
def WriterPhase.stage : WriterPhase → Stage
  | unborn => .unborn
  | fail phase => .failing phase
  | shutdown | ending _ _ | release _ => .ending
  | leave phase _ => .leaving phase
  | gone _ => .gone
  | _ => .running

/-- The stage of a poller. -/
def PollerPhase.stage : PollerPhase → Stage
  | unborn => .unborn
  | leave phase => .leaving phase
  | gone => .gone
  | broken => .broken
  | _ => .running

/-- Where a session stands. -/
structure Standing where
  cancelled : Bool
  readHalf : Bool
  writeHalf : Bool
  reader : Stage
  writer : Stage
  poller : Stage
  deriving DecidableEq, Repr

/-- Where a session stands. -/
def Session.standing (s : Session) : Standing :=
  ⟨s.cancelled, s.readHalf, s.writeHalf, s.reader.stage, s.writer.stage, s.poller.stage⟩

namespace Standing

/-- The stage of a loop. -/
def stage (loop : Loop) (x : Standing) : Stage :=
  match loop with
  | .reader => x.reader
  | .writer => x.writer
  | .poller => x.poller

/-- Takes a loop to a stage. -/
def goTo (loop : Loop) (stage : Stage) (x : Standing) : Standing :=
  match loop with
  | .reader => { x with reader := stage }
  | .writer => { x with writer := stage }
  | .poller => { x with poller := stage }

/-- Lets the half of the transport go that a loop holds. -/
def drop (loop : Loop) (x : Standing) : Standing :=
  match loop with
  | .reader => { x with readHalf := false }
  | .writer => { x with writeHalf := false }
  | .poller => x

/-- Whether all loops that were begun have ended. -/
def isOver (x : Standing) : Bool :=
  x.reader = .gone && x.writer = .gone &&
    (x.poller = .gone || x.poller = .broken || x.poller = .unborn)

end Standing

/-! ## Kinds of stages -/

namespace Stage

/-- Whether a loop at this stage touches neither the transport nor the state of the link. -/
def isIdle : Stage → Bool
  | unborn | gone | broken | leaving .report => true
  | _ => false

/-- Whether a loop at this stage has been begun and has not counted itself out. -/
def counts : Stage → Bool
  | running | failing _ | ending | leaving .count | broken => true
  | _ => false

/-- What a loop at this stage adds to the count of loops. -/
def weight (stage : Stage) : Int := if stage.counts then 1 else 0

theorem weight_nonneg (stage : Stage) : 0 ≤ stage.weight := by
  unfold weight
  split <;> decide

/-- Whether a reader or a writer at this stage has seen that frames are no longer accepted. -/
def isPast : Stage → Bool
  | failing .cancel | ending | leaving _ | gone => true
  | _ => false

/-- Whether a loop at this stage is about to cancel its session. -/
def isHalting : Stage → Bool
  | failing .unplug | failing .cancel => true
  | _ => false

/-- Whether a loop at this stage has counted itself out as the last one. -/
def isLast : Stage → Bool
  | leaving .judge | leaving .finish | leaving .report => true
  | _ => false

/-- Whether a loop at this stage has let its half of the transport go. -/
def isOut : Stage → Bool
  | leaving _ | gone => true
  | _ => false

/-- A loop that is idle and not about to tell has ended, or was not begun. -/
theorem ended_of_isIdle {stage : Stage} (idle : stage.isIdle) (silent : stage ≠ .leaving .report) :
    stage = .unborn ∨ stage = .gone ∨ stage = .broken := by
  cases stage with
  | leaving phase => cases phase <;> first | exact absurd rfl silent | cases idle
  | unborn | gone | broken => simp
  | _ => cases idle

end Stage

/-- Whether a loop that was begun may be at a stage. -/
def Loop.allows : Loop → Stage → Bool
  | .reader, .unborn | .reader, .broken | .writer, .unborn | .writer, .broken => false
  | .poller, .ending | .poller, .failing _ => false
  | _, _ => true

theorem Loop.allows_of_ne {loop : Loop} {stage : Stage} (ne : loop ≠ .poller)
    (begun : stage ≠ .unborn ∧ stage ≠ .broken) : loop.allows stage := by
  cases loop with
  | reader | writer =>
    cases stage <;> first | rfl | exact absurd rfl begun.1 | exact absurd rfl begun.2
  | poller => exact absurd rfl ne

theorem Loop.allows_gone (loop : Loop) : loop.allows .gone := by
  cases loop <;> rfl

/-! ## Sound standings -/

namespace Standing

/-- Whether the half of the transport is held that a loop holds. -/
def holds (loop : Loop) (x : Standing) : Bool :=
  match loop with
  | .reader => x.readHalf
  | .writer => x.writeHalf
  | .poller => false

/-- How many loops were begun and have not counted themselves out. -/
def load (x : Standing) : Int := x.reader.weight + x.writer.weight + x.poller.weight

/-- Frames were accepted no longer when a loop looked, or the session was cancelled. -/
def Unplugged (x : Standing) : Prop :=
  x.cancelled ∨ ∃ loop, loop ≠ .poller ∧ (x.stage loop).isPast

/-- A loop is about to cancel the session. -/
def Halting (x : Standing) : Prop := ∃ loop, (x.stage loop).isHalting

/-- The stages of the loops of a session agree with each other and with the halves it holds. -/
structure Sound (x : Standing) : Prop where
  allows : ∀ loop : Loop, loop.allows (x.stage loop)
  dropped : ∀ loop, (x.stage loop).isOut → x.holds loop = false
  last : ∀ loop other, (x.stage loop).isLast → other ≠ loop →
    x.stage other = .unborn ∨ x.stage other = .gone

theorem Sound.ne_poller {x : Standing} {loop : Loop} {stage : Stage} (sound : x.Sound)
    (at_stage : x.stage loop = stage) (barred : Loop.poller.allows stage = false) :
    loop ≠ .poller := by
  rintro rfl
  have allows := sound.allows .poller
  rw [at_stage, barred] at allows
  cases allows

@[simp] theorem stage_goTo (loop other : Loop) (stage : Stage) (x : Standing) :
    (x.goTo loop stage).stage other = if other = loop then stage else x.stage other := by
  cases loop <;> cases other <;> rfl

@[simp] theorem cancelled_goTo (loop : Loop) (stage : Stage) (x : Standing) :
    (x.goTo loop stage).cancelled = x.cancelled := by
  cases loop <;> rfl

@[simp] theorem holds_goTo (loop other : Loop) (stage : Stage) (x : Standing) :
    (x.goTo loop stage).holds other = x.holds other := by
  cases loop <;> cases other <;> rfl

@[simp] theorem stage_drop (loop other : Loop) (x : Standing) :
    (x.drop loop).stage other = x.stage other := by
  cases loop <;> cases other <;> rfl

@[simp] theorem cancelled_drop (loop : Loop) (x : Standing) :
    (x.drop loop).cancelled = x.cancelled := by
  cases loop <;> rfl

theorem holds_drop_self (loop : Loop) (x : Standing) : (x.drop loop).holds loop = false := by
  cases loop <;> rfl

theorem holds_drop_of_eq_false {loop other : Loop} {x : Standing} (h : x.holds other = false) :
    (x.drop loop).holds other = false := by
  cases loop <;> cases other <;> first | rfl | exact h

theorem load_goTo (loop : Loop) (stage : Stage) (x : Standing) :
    (x.goTo loop stage).load = x.load - (x.stage loop).weight + stage.weight := by
  cases loop with
  | reader =>
    show stage.weight + x.writer.weight + x.poller.weight = x.load - x.reader.weight + _
    unfold load
    omega
  | writer =>
    show x.reader.weight + stage.weight + x.poller.weight = x.load - x.writer.weight + _
    unfold load
    omega
  | poller =>
    show x.reader.weight + x.writer.weight + stage.weight = x.load - x.poller.weight + _
    unfold load
    omega

theorem load_drop (loop : Loop) (x : Standing) : (x.drop loop).load = x.load := by
  cases loop <;> rfl

/-- A session becomes another when one of its loops goes on to a stage. -/
structure Becomes (loop : Loop) (stage : Stage) (x x' : Standing) : Prop where
  stages : ∀ other, x'.stage other = if other = loop then stage else x.stage other
  holds : ∀ other, x.holds other = false → x'.holds other = false
  cancelled : x.cancelled → x'.cancelled
  load : x'.load = x.load - (x.stage loop).weight + stage.weight

theorem Becomes.goTo (loop : Loop) (stage : Stage) (x : Standing) :
    Becomes loop stage x (x.goTo loop stage) where
  stages other := stage_goTo loop other stage x
  holds other h := by rw [holds_goTo, h]
  cancelled h := by rw [cancelled_goTo, h]
  load := load_goTo loop stage x

theorem Becomes.cancel (loop : Loop) (stage : Stage) (x : Standing) :
    Becomes loop stage x ({ x with cancelled := true }.goTo loop stage) where
  stages other := stage_goTo loop other stage _
  holds other h := by
    rw [holds_goTo]
    exact h
  cancelled _ := by rw [cancelled_goTo]
  load := load_goTo loop stage _

theorem Becomes.release (loop : Loop) (stage : Stage) (x : Standing) :
    Becomes loop stage x ((x.drop loop).goTo loop stage) where
  stages other := by rw [stage_goTo, stage_drop]
  holds other h := by
    rw [holds_goTo]
    exact holds_drop_of_eq_false h
  cancelled h := by rw [cancelled_goTo, cancelled_drop, h]
  load := by rw [load_goTo, load_drop, stage_drop]

theorem Becomes.stage_self {loop : Loop} {stage : Stage} {x x' : Standing}
    (becomes : Becomes loop stage x x') : x'.stage loop = stage := by
  rw [becomes.stages, if_pos rfl]

theorem Becomes.stage_of_ne {loop other : Loop} {stage : Stage} {x x' : Standing}
    (becomes : Becomes loop stage x x') (ne : other ≠ loop) : x'.stage other = x.stage other := by
  rw [becomes.stages, if_neg ne]

theorem Sound.becomes {loop : Loop} {stage : Stage} {x x' : Standing} (sound : x.Sound)
    (becomes : Becomes loop stage x x') (awake : x.stage loop ≠ .unborn ∧ x.stage loop ≠ .gone)
    (allows : loop.allows stage) (dropped : stage.isOut → x'.holds loop = false)
    (last : stage.isLast → ∀ other, other ≠ loop →
      x.stage other = .unborn ∨ x.stage other = .gone) : x'.Sound := by
  refine ⟨?_, ?_, ?_⟩
  · intro other
    by_cases ne : other = loop
    · rw [ne, becomes.stage_self]
      exact allows
    · rw [becomes.stage_of_ne ne]
      exact sound.allows other
  · intro other out
    by_cases ne : other = loop
    · subst ne
      exact dropped (becomes.stage_self ▸ out)
    · rw [becomes.stage_of_ne ne] at out
      exact becomes.holds other (sound.dropped other out)
  · intro first other is_last ne
    by_cases own : first = loop
    · subst own
      rw [becomes.stage_of_ne ne]
      rw [becomes.stage_self] at is_last
      exact last is_last other ne
    · -- the loop that went on had not ended, so no other loop was the last one
      rw [becomes.stage_of_ne own] at is_last
      rcases sound.last first loop is_last (Ne.symm own) with h | h
      · exact absurd h awake.1
      · exact absurd h awake.2

/-- A loop that leaves has let its half of the transport go, and may leave further. -/
theorem Sound.of_leaving {loop : Loop} {phase : LeavePhase} {x : Standing} (sound : x.Sound)
    (at_stage : x.stage loop = .leaving phase) :
    (∀ stage, (x.goTo loop stage).holds loop = false) ∧ (loop ≠ .poller → x.Unplugged) ∧
      ∀ phase, loop.allows (.leaving phase) := by
  refine ⟨fun stage => ?_, fun ne => .inr ⟨loop, ne, by rw [at_stage]; rfl⟩, fun phase => ?_⟩
  · rw [holds_goTo]
    exact sound.dropped loop (by rw [at_stage]; rfl)
  · cases loop <;> rfl

theorem Unplugged.goTo {loop : Loop} {stage : Stage} {x : Standing}
    (cancelled : (x.goTo loop stage).cancelled) : x.Unplugged := by
  rw [cancelled_goTo] at cancelled
  exact .inl cancelled

/-- The loop that alone is counted is the last one. -/
theorem Sound.ended_of_load {x : Standing} {loop other : Loop} (sound : x.Sound)
    (one : x.load = 1) (at_stage : x.stage loop = .leaving .count) (ne : other ≠ loop) :
    x.stage other = .unborn ∨ x.stage other = .gone := by
  have not_last : (x.stage other).isLast = false := by
    by_contra last
    rw [Bool.not_eq_false] at last
    rcases sound.last other loop last (Ne.symm ne) with h | h
    · cases at_stage.symm.trans h
    · cases at_stage.symm.trans h
  have not_counted : (x.stage other).counts = false := by
    by_contra counted
    rw [Bool.not_eq_false] at counted
    have own : (x.stage loop).weight = 1 := by rw [at_stage]; rfl
    have weight : (x.stage other).weight = 1 := by rw [Stage.weight, counted]; rfl
    have reader := x.reader.weight_nonneg
    have writer := x.writer.weight_nonneg
    have poller := x.poller.weight_nonneg
    unfold load at one
    cases loop <;> cases other <;> simp only [stage] at own weight <;>
      first | exact ne rfl | omega
  generalize x.stage other = stage at not_last not_counted
  cases stage with
  | unborn => exact .inl rfl
  | gone => exact .inr rfl
  | leaving phase => cases phase <;> simp [Stage.isLast, Stage.counts] at not_last not_counted
  | running | failing | ending | broken => simp [Stage.counts] at not_counted

/-- A reader or a writer that is idle has let its half of the transport go. -/
theorem Sound.holds_of_isIdle {x : Standing} {loop : Loop} (sound : x.Sound)
    (idle : (x.stage loop).isIdle) : x.holds loop = false := by
  have allows := sound.allows loop
  cases loop with
  | poller => rfl
  | reader | writer =>
    refine sound.dropped _ ?_
    revert idle allows
    cases x.stage _ with
    | leaving | gone => exact fun _ _ => rfl
    | unborn | broken => exact fun _ allows => by cases allows
    | _ => exact fun idle => by cases idle

theorem Sound.released {x : Standing} (sound : x.Sound) (idle : ∀ loop, (x.stage loop).isIdle) :
    x.readHalf = false ∧ x.writeHalf = false :=
  ⟨sound.holds_of_isIdle (idle .reader), sound.holds_of_isIdle (idle .writer)⟩

theorem isIdle_of_isOver {x : Standing} (finished : x.isOver) (loop : Loop) :
    (x.stage loop).isIdle := by
  simp only [isOver, Bool.and_eq_true, Bool.or_eq_true, decide_eq_true_eq] at finished
  obtain ⟨⟨reader, writer⟩, poller⟩ := finished
  cases loop with
  | reader => simp [stage, reader, Stage.isIdle]
  | writer => simp [stage, writer, Stage.isIdle]
  | poller => rcases poller with (poller | poller) | poller <;> simp [stage, poller, Stage.isIdle]

/-- A reader or a writer that is idle and not about to tell has ended. -/
theorem Sound.gone_of_isIdle {x : Standing} {loop : Loop} (sound : x.Sound) (ne : loop ≠ .poller)
    (idle : (x.stage loop).isIdle) (silent : x.stage loop ≠ .leaving .report) :
    x.stage loop = .gone := by
  have allows := sound.allows loop
  rcases Stage.ended_of_isIdle idle silent with h | h | h
  · rw [h] at allows
    cases loop <;> first | exact absurd rfl ne | cases allows
  · exact h
  · rw [h] at allows
    cases loop <;> first | exact absurd rfl ne | cases allows

theorem Sound.isOver {x : Standing} (sound : x.Sound) (idle : ∀ loop, (x.stage loop).isIdle)
    (silent : ∀ loop, x.stage loop ≠ .leaving .report) : x.isOver := by
  have gone {loop : Loop} (ne : loop ≠ .poller) : x.stage loop = .gone :=
    sound.gone_of_isIdle ne (idle loop) (silent loop)
  have reader : x.reader = .gone := gone (by decide : Loop.reader ≠ .poller)
  have writer : x.writer = .gone := gone (by decide : Loop.writer ≠ .poller)
  have poller : x.poller = .unborn ∨ x.poller = .gone ∨ x.poller = .broken :=
    Stage.ended_of_isIdle (idle .poller) (silent .poller)
  rcases poller with h | h | h <;> simp [Standing.isOver, reader, writer, h]

end Standing

end FieldLink

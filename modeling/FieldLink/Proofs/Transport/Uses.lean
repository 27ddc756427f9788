import FieldLink.Transport.Device

/-!
# Uses of a device

All that is done with a device in memory, by its holder or by the transports on it (`Device.Use`).
Apart from scripts, things put there to be read, the loopback, reads and writes, a use leaves the
device alike (`Device.alike_act`): it opens it, closes it, or changes a setting.
-/

namespace FieldLink.Device

variable {d d' : Device}

/-! ## What leaves a device alike -/

/-- Two devices differ at most in whether they are open, and in what a device forgets when it is
given up. -/
structure Alike (d d' : Device) : Prop where
  script : d'.script = d.script
  attempts : d'.attempts = d.attempts
  written : d'.written = d.written
  reads : d'.reads = d.reads
  loopback : d'.loopback = d.loopback
  verdict : d'.verdict = d.verdict
  stalledUntil : d'.stalledUntil = d.stalledUntil ∨ d'.stalledUntil = 0
  flushFailure : d'.flushFailure = d.flushFailure ∨ d'.flushFailure = none

theorem Alike.refl (d : Device) : d.Alike d := ⟨rfl, rfl, rfl, rfl, rfl, rfl, .inl rfl, .inl rfl⟩

theorem alike_release (d : Device) : d.Alike d.release :=
  ⟨rfl, rfl, rfl, rfl, rfl, rfl, .inr rfl, .inr rfl⟩

theorem alike_shutdown (now : Nat) (d : Device) : d.Alike (d.shutdown now).2 := by
  unfold shutdown
  cases d.shutdownOutcome with
  | succeed => exact ⟨rfl, rfl, rfl, rfl, rfl, rfl, .inl rfl, .inl rfl⟩
  | fail | hang => exact .refl d

theorem alike_openWith (o : LinkOptions) (d : Device) :
    d.Alike ((d.openWith o).toOption.getD d) := by
  unfold openWith
  split
  · exact .refl d
  · exact ⟨rfl, rfl, rfl, rfl, rfl, rfl, .inl rfl, .inl rfl⟩

theorem alike_flush (d : Device) : d.Alike d.flush.2 := by
  unfold Device.flush
  cases d.flushFailure with
  | none => exact .refl d
  | some f => exact ⟨rfl, rfl, rfl, rfl, rfl, rfl, .inl rfl, .inr rfl⟩

/-- A read changes what is to be read. -/
theorem read_eq (room : Nat) (d : Device) : ∃ reads, (d.read room).2 = { d with reads } := by
  unfold Device.read
  split
  · exact ⟨_, rfl⟩
  · exact ⟨_, rfl⟩
  · exact ⟨_, rfl⟩
  · exact ⟨_, rfl⟩

/-- A write changes the writing side, and what is to be read. -/
theorem exists_write_eq (frame : Frame) (now : Nat) (d : Device) :
    ∃ script attempts written reads stalledUntil flushFailure, (d.write frame now).2 =
      { d with script, attempts, written, reads, stalledUntil, flushFailure } := by
  -- a stall of no time goes on with the rest of the script, so one write may take many outcomes
  have follow_eq (d : Device) (outcomes : List WriteOutcome) :
      ∃ script attempts written reads stalledUntil flushFailure, (d.follow frame now outcomes).2 =
        { d with script, attempts, written, reads, stalledUntil, flushFailure } := by
    induction outcomes generalizing d with
    | nil => exact ⟨_, _, _, _, _, _, rfl⟩
    | cons outcome outcomes ih =>
      cases outcome with
      | accept | partly | fail | failFlush => exact ⟨_, _, _, _, _, _, rfl⟩
      | stall milliseconds =>
        simp only [follow]
        split
        · exact ih { d with script := outcomes, attempts := d.attempts ++ [frame] }
        · exact ⟨_, _, _, _, _, _, rfl⟩
  unfold Device.write
  split
  · exact ⟨_, _, _, _, _, _, rfl⟩
  · exact follow_eq d d.script

/-! ## Uses -/

/-- What is done with a device, by its holder or by a transport on it. -/
inductive Use where
  | script (outcomes : List WriteOutcome)
  | inject (event : ReadEvent)
  | setLoopback (loopback : Bool)
  | setRefusing (refusing : Bool)
  | openWith (options : LinkOptions)
  | read (room : Nat)
  | write (frame : Frame) (now : Nat)
  | flush
  | shutdown (now : Nat)
  | release

namespace Use

/-- The device after a use. -/
def act (d : Device) : Use → Device
  | script outcomes => d.addScript outcomes
  | inject event => d.inject event
  | setLoopback loopback => { d with loopback }
  | setRefusing refusing => { d with refusing }
  | openWith options => (d.openWith options).toOption.getD d
  | read room => (d.read room).2
  | write frame now => (d.write frame now).2
  | flush => d.flush.2
  | shutdown now => (d.shutdown now).2
  | release => d.release

/-- Whether a use neither reads nor writes, nor changes what reads and writes meet. -/
def isQuiet : Use → Bool
  | setRefusing _ | openWith _ | flush | shutdown _ | release => true
  | script _ | inject _ | setLoopback _ | read _ | write _ _ => false

end Use

/-- The device after some uses. -/
def use (uses : List Use) (d : Device) : Device := uses.foldl Use.act d

theorem alike_act {use : Use} (quiet : use.isQuiet) : d.Alike (use.act d) := by
  cases use with
  | setRefusing => exact ⟨rfl, rfl, rfl, rfl, rfl, rfl, .inl rfl, .inl rfl⟩
  | openWith options => exact alike_openWith options d
  | flush => exact alike_flush d
  | shutdown now => exact alike_shutdown now d
  | release => exact alike_release d
  | script | inject | setLoopback | read | write => cases quiet

end FieldLink.Device

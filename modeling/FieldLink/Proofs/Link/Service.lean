import FieldLink.Proofs.Link.Aftermath
import FieldLink.Proofs.Link.Devices
import FieldLink.Proofs.Link.Tally

/-!
# The writer and its frames

What one step of a writer makes of the frames that it has taken, on a device whose writes end at
once.  `Serving` says for each phase how far the writer is and which calls and events have come of its
frames, and a step takes it on (`Serving.proceeds`).  A writer that is not to end comes nearer to
having dealt with all (`Serving.advances`).
-/

namespace FieldLink

namespace Link

/-- The writer tries again, gives the session up, or goes on to flush, as the next outcome says. -/
theorem writeNext_of_prompt {l : Link Device} (prompt : l.device.Prompt) (frame : Frame)
    (count deadline : Nat) :
    l.writeNext Device.transport frame count deadline =
      if (l.device.script.headD .accept).fallsShort frame then .attempt frame (count + 1)
      else if (l.device.script.headD .accept).isFatal then .fail .mark
      else .flush frame count deadline := by
  obtain ⟨answer, -, -, -, prompt'⟩ := prompt.write frame l.now
  have classify (f : Failure) : (l.device.write frame l.now).2.classify f = f.fault := by
    rw [Device.classify, prompt'.verdict]
    rfl
  have able : (l.device.script.headD .accept).isPrompt := prompt.isPrompt_headD
  simp only [writeNext, Device.transport, answer]
  cases outcome : l.device.script.headD .accept with
  | accept => simp [WriteOutcome.answer, WriteOutcome.fallsShort, WriteOutcome.isFatal]
  | partly count' =>
    have transient (n : Nat) : (shortWrite n frame).fault = .transient := by
      simp [shortWrite, Failure.fault, Failure.kind, FailureKind.fault, Failure.notConfigured]
    by_cases short : count' < frame.length
    · have fewer : min count' frame.length < frame.length := by omega
      simp [WriteOutcome.answer, WriteOutcome.fallsShort, writerAfter, classify, transient, short,
        fewer]
    · have enough : frame.length ≤ count' := by omega
      simp [WriteOutcome.answer, WriteOutcome.fallsShort, WriteOutcome.isFatal, short, enough]
  | fail f =>
    cases fault : f.fault <;>
      simp [WriteOutcome.answer, WriteOutcome.fallsShort, WriteOutcome.isFatal, writerAfter,
        classify, fault]
  | failFlush | stall => rw [outcome] at able; cases able

theorem flushNext_of_prompt {l : Link Device} (prompt : l.device.Prompt) (frame : Frame)
    (count deadline : Nat) :
    l.flushNext Device.transport frame count deadline = .report frame := by
  simp [flushNext, Device.transport, prompt.flush]

/-! ## What the device and the events show -/

/-- What is to become of frames, with what the device of a link has in store for them. -/
def prospect (l : Link Device) (frames : List Frame) : Tally :=
  Tally.serveAll l.options.retries.toNat frames { script := l.device.script }

/-- Since the link was `l₀`, the device and the events of the writer have got what a tally says. -/
structure Shows (l l₀ : Link Device) (t : Tally) : Prop where
  attempts : l.device.attempts = l₀.device.attempts ++ t.attempts
  written : l.device.written = l₀.device.written ++ t.written
  script : l.device.script = t.script
  settlements : l.settlements = l₀.settlements ++ t.events
  prompt : l.device.Prompt

variable {l₀ l l' : Link Device} {t : Tally}

theorem Shows.of_alike (shows : l.Shows l₀ t) (alike : l.device.Alike l'.device)
    (silent : l'.settlements = l.settlements) : l'.Shows l₀ t where
  attempts := alike.attempts.trans shows.attempts
  written := alike.written.trans shows.written
  script := alike.script.trans shows.script
  settlements := silent.trans shows.settlements
  prompt := shows.prompt.of_alike alike

/-- A call to write is made, and meets the next outcome. -/
theorem Shows.call {frame : Frame} (shows : l.Shows l₀ t)
    (device : l'.device = (l.device.write frame l.now).2)
    (silent : l'.settlements = l.settlements) : l'.Shows l₀ (t.call frame) := by
  obtain ⟨-, attempts, written, script, prompt⟩ := shows.prompt.write frame l.now
  rw [shows.script] at written script
  refine ⟨?_, ?_, ?_, silent.trans shows.settlements, device ▸ prompt⟩
  · rw [device, attempts, shows.attempts, Tally.attempts_call, List.append_assoc]
  · rw [device, written, shows.written, Tally.written_call, List.append_assoc]
    rfl
  · rw [device, script]
    rfl

theorem settlements_writerStep {σ : Type} (T : Transport σ) (id : Nat) (x : Session) (l : Link σ) :
    (l.writerStep T id x).settlements = l.settlements ++
      (x.writer.events l.options.retries.toNat).filter (·.settled?.isSome) := by
  rw [settlements, events_writerStep, List.filter_append]
  rfl

/-- A step of the writer that neither uses the device nor tells what became of a frame. -/
theorem Shows.writerStep {x : Session} (shows : l.Shows l₀ t) (id : Nat)
    (unused : x.writer.usesDevice = false)
    (silent : (x.writer.events l.options.retries.toNat).filter (·.settled?.isSome) = []) :
    (l.writerStep Device.transport id x).Shows l₀ t :=
  shows.of_alike (l.alike_writerStep unused)
    (by rw [settlements_writerStep, silent, List.append_nil])

/-- It is told what became of a frame. -/
theorem Shows.settle {event : LinkEvent} (shows : l.Shows l₀ t) (device : l'.device = l.device)
    (told : l'.settlements = l.settlements ++ [event]) :
    l'.Shows l₀ { t with events := t.events ++ [event] } where
  attempts := device ▸ shows.attempts
  written := device ▸ shows.written
  script := device ▸ shows.script
  settlements := by rw [told, shows.settlements, List.append_assoc]
  prompt := device ▸ shows.prompt

end Link

/-! ## The writer, phase by phase -/

namespace WriterPhase

/-- Whether a writer has no frame in hand and may still take one. -/
def isFree : WriterPhase → Bool
  | unborn | look | take => true
  | _ => false

theorem hasEnded_of_isFree {phase : WriterPhase} (isFree : phase.isFree) :
    phase.hasEnded = false := by
  cases phase <;> first | rfl | cases isFree

theorem ne_take_of_hasEnded {phase : WriterPhase} (ended : phase.hasEnded) : phase ≠ .take := by
  rintro rfl
  cases ended

theorem usesDevice_of_hasEnded {phase : WriterPhase} (ended : phase.hasEnded) :
    phase.usesDevice = false := by
  cases phase <;> first | rfl | cases ended

theorem silent_of_hasEnded {phase : WriterPhase} (ended : phase.hasEnded) (attempts : Nat) :
    (phase.events attempts).filter (·.settled?.isSome) = [] := by
  cases phase with
  | leave phase => cases phase <;> rfl
  | fail | shutdown | ending | release | gone => rfl
  | _ => cases ended

end WriterPhase

/-- A writer that has ended begins no more to give its session up. -/
theorem Link.fail_of_writerNext {σ : Type} {T : Transport σ} {id : Nat} {x : Session} {l : Link σ}
    {next : FailPhase} (ended : x.writer.hasEnded) (fails : l.writerNext T id x = .fail next) :
    ∃ step, x.writer = .fail step := by
  unfold writerNext at fails
  cases writer : x.writer with
  | fail step => exact ⟨step, rfl⟩
  | shutdown | ending =>
    simp only [writer, shutdownNext] at fails
    split at fails
    · split at fails <;> cases fails
    · cases fails
    · cases fails
  | leave phase result =>
    simp only [writer] at fails
    cases left : (l.leaveStep phase).1 <;> rw [left] at fails <;> cases fails
  | release | gone => simp only [writer] at fails; cases fails
  | _ => rw [writer] at ended; cases ended

/-- A bound on the steps that a writer takes until it waits, as long as it is not to end. -/
def WriterPhase.stepsLeft (retries queued : Nat) : WriterPhase → Nat
  | look => 1
  | take => if queued = 0 then 2 else 0
  | attempt _ count => 2 * (retries + 1 - count) + 4
  | write _ count => 2 * (retries + 1 - count) + 3
  | flush _ _ _ | clear _ => 3
  | report _ | drop _ => 2
  | _ => 0

/-- A bound on the steps of a writer for the frames that are queued, and the one in hand. -/
def Session.stepsLeft (retries : Nat) (x : Session) : Nat :=
  x.queue.length * (2 * retries + 6) + x.writer.stepsLeft retries x.queue.length

/-- How far a writer is with the frames that it has taken, and what has come of them so far. -/
inductive Serving (retries : Nat) (t₀ : Tally) (cancelled : Bool) :
    WriterPhase → List Frame → Tally → Prop
  /-- All frames are dealt with. -/
  | free {phase : WriterPhase} {frames : List Frame} (isFree : phase.isFree)
      (unfailed : (t₀.serveAll retries frames).failed = false) :
      Serving retries t₀ cancelled phase frames (t₀.serveAll retries frames)
  /-- All calls for the last frame have fallen short, and there may be a further one. -/
  | attempt {before : List Frame} {frame : Frame} {count : Nat}
      (unfailed : (t₀.serveAll retries before).failed = false)
      (short : count < decisive frame (t₀.serveAll retries before).script)
      (left : count ≤ retries) :
      Serving retries t₀ cancelled (.attempt frame (count + 1)) (before ++ [frame])
        ((Tally.call frame)^[count] (t₀.serveAll retries before))
  /-- All calls for the last frame have fallen short, and there is a further one. -/
  | write {before : List Frame} {frame : Frame} {count : Nat}
      (unfailed : (t₀.serveAll retries before).failed = false)
      (short : count < decisive frame (t₀.serveAll retries before).script)
      (left : count < retries) :
      Serving retries t₀ cancelled (.write frame (count + 1)) (before ++ [frame])
        ((Tally.call frame)^[count] (t₀.serveAll retries before))
  /-- The last frame was taken in full. -/
  | accepted {phase : WriterPhase} {before : List Frame} {frame : Frame} {count : Nat}
      (after : (∃ deadline, phase = .flush frame (count + 1) deadline) ∨ phase = .report frame)
      (unfailed : (t₀.serveAll retries before).failed = false) (timely : count < retries)
      (decides : count + 1 = decisive frame (t₀.serveAll retries before).script)
      (mild : ((Tally.call frame)^[count] (t₀.serveAll retries before)).next.isFatal = false) :
      Serving retries t₀ cancelled phase (before ++ [frame])
        ((Tally.call frame)^[count + 1] (t₀.serveAll retries before))
  /-- The last frame was tried as often as allowed. -/
  | refused {phase : WriterPhase} {before : List Frame} {frame : Frame}
      (after : phase = .clear frame ∨ phase = .drop frame)
      (unfailed : (t₀.serveAll retries before).failed = false)
      (late : retries < decisive frame (t₀.serveAll retries before).script) :
      Serving retries t₀ cancelled phase (before ++ [frame])
        ((Tally.call frame)^[retries] (t₀.serveAll retries before))
  /-- All frames are dealt with, and the writer has ended.  If it gives the session up, the device
  is gone. -/
  | ended {phase : WriterPhase} {frames : List Frame} (ended : phase.hasEnded)
      (cause : ∀ step, phase = .fail step → (t₀.serveAll retries frames).failed) :
      Serving retries t₀ cancelled phase frames (t₀.serveAll retries frames)
  /-- The writer was cancelled between two calls for the last frame. -/
  | abandoned {phase : WriterPhase} {before : List Frame} {frame : Frame} {count : Nat}
      (ended : phase.hasEnded) (mild : ∀ step, phase ≠ .fail step) (given : cancelled = true)
      (unfailed : (t₀.serveAll retries before).failed = false)
      (short : count < decisive frame (t₀.serveAll retries before).script)
      (left : count ≤ retries) :
      Serving retries t₀ cancelled phase (before ++ [frame])
        ((Tally.call frame)^[count] (t₀.serveAll retries before))

namespace Serving

variable {retries : Nat} {t₀ t : Tally} {cancelled cancelled' : Bool} {phase : WriterPhase}
  {frames : List Frame}

theorem mono (serving : Serving retries t₀ cancelled phase frames t)
    (given : cancelled → cancelled') : Serving retries t₀ cancelled' phase frames t := by
  cases serving with
  | free isFree unfailed => exact .free isFree unfailed
  | attempt unfailed short left => exact .attempt unfailed short left
  | write unfailed short left => exact .write unfailed short left
  | accepted after unfailed timely decides mild => exact .accepted after unfailed timely decides mild
  | refused after unfailed late => exact .refused after unfailed late
  | ended ended cause => exact .ended ended cause
  | abandoned ended mild was unfailed short left =>
    exact .abandoned ended mild (given was) unfailed short left

/-- A writer that has no frame in hand has dealt with all. -/
theorem of_isFree (serving : Serving retries t₀ cancelled phase frames t) (isFree : phase.isFree) :
    t = t₀.serveAll retries frames ∧ (t₀.serveAll retries frames).failed = false := by
  cases serving with
  | free _ unfailed => exact ⟨rfl, unfailed⟩
  | attempt | write => cases isFree
  | accepted after => obtain ⟨_, rfl⟩ | rfl := after <;> cases isFree
  | refused after => obtain rfl | rfl := after <;> cases isFree
  | ended ended | abandoned ended =>
    rw [WriterPhase.hasEnded_of_isFree isFree] at ended
    cases ended

/-- A writer gives the session up only if the device is gone. -/
theorem failed_of_fail {step : FailPhase}
    (serving : Serving retries t₀ cancelled (.fail step) frames t) : t.failed := by
  cases serving with
  | free isFree => cases isFree
  | accepted after => rcases after with ⟨_, same⟩ | same <;> cases same
  | refused after => rcases after with same | same <;> cases same
  | ended _ cause => exact cause step rfl
  | abandoned _ mild => exact absurd rfl (mild step)

/-- A step takes a writer on with its frames and what has come of them.  The tally grows when the
writer makes a call to write, and when it tells what became of a frame. -/
def Proceeds (t₀ t : Tally) (l₀ l : Link Device) (id : Nat) (x : Session) (frames : List Frame) :
    Prop :=
  ∃ t', Serving l.options.retries.toNat t₀ x.cancelled (l.writerNext Device.transport id x)
      (frames ++ x.takes) t' ∧
    (l.writerStep Device.transport id x).Shows l₀ t' ∧
    (t'.failed → t.failed ∨ l.writerNext Device.transport id x = .fail .mark)

section

variable {l₀ l : Link Device} {x : Session} {before : List Frame} {frame : Frame} {count : Nat}

/-- A step that takes no frame, makes no call to write and tells of no frame. -/
theorem proceeds_of_silent (id : Nat) (other : x.writer ≠ .take)
    (unused : x.writer.usesDevice = false)
    (silent : (x.writer.events l.options.retries.toNat).filter (·.settled?.isSome) = [])
    (shows : l.Shows l₀ t)
    (serving : Serving l.options.retries.toNat t₀ x.cancelled
      (l.writerNext Device.transport id x) frames t) : Proceeds t₀ t l₀ l id x frames := by
  refine ⟨t, ?_, shows.writerStep id unused silent, .inl⟩
  rwa [x.takes_of_ne other, List.append_nil]

theorem proceeds_of_hasEnded (id : Nat) (ended : x.writer.hasEnded) (shows : l.Shows l₀ t)
    (serving : Serving l.options.retries.toNat t₀ x.cancelled
      (l.writerNext Device.transport id x) frames t) : Proceeds t₀ t l₀ l id x frames :=
  proceeds_of_silent id (WriterPhase.ne_take_of_hasEnded ended)
    (WriterPhase.usesDevice_of_hasEnded ended) (WriterPhase.silent_of_hasEnded ended _) shows
    serving

theorem proceeds_free (id : Nat) (isFree : x.writer.isFree)
    (unfailed : (t₀.serveAll l.options.retries.toNat frames).failed = false)
    (shows : l.Shows l₀ (t₀.serveAll l.options.retries.toNat frames)) :
    Proceeds t₀ (t₀.serveAll l.options.retries.toNat frames) l₀ l id x frames := by
  have free {phase : WriterPhase} (isFree : phase.isFree) :
      Serving l.options.retries.toNat t₀ x.cancelled phase frames
        (t₀.serveAll l.options.retries.toNat frames) := .free isFree unfailed
  have shutdown : Serving l.options.retries.toNat t₀ x.cancelled .shutdown frames
      (t₀.serveAll l.options.retries.toNat frames) := .ended rfl (by rintro _ ⟨⟩)
  cases writer : x.writer with
  | unborn =>
    refine proceeds_of_silent id (by rw [writer]; rintro ⟨⟩) (by rw [writer]; rfl)
      (by rw [writer]; rfl) shows ?_
    simp only [Link.writerNext, writer]
    exact free rfl
  | look =>
    refine proceeds_of_silent id (by rw [writer]; rintro ⟨⟩) (by rw [writer]; rfl)
      (by rw [writer]; rfl) shows ?_
    simp only [Link.writerNext, writer]
    split
    · exact shutdown
    · exact free rfl
  | take =>
    refine ⟨_, ?_, shows.writerStep id (by rw [writer]; rfl) (by rw [writer]; rfl), .inl⟩
    simp only [Link.writerNext, Session.takes, writer]
    cases x.queue with
    | nil =>
      simp only [List.head?_nil, Option.toList_none, List.append_nil]
      split
      · exact free rfl
      · exact shutdown
    | cons frame rest => exact .attempt unfailed (Nat.succ_pos _) (Nat.zero_le _)
  | _ => rw [writer] at isFree; cases isFree

theorem proceeds_attempt (id : Nat) (writer : x.writer = .attempt frame (count + 1))
    (unfailed : (t₀.serveAll l.options.retries.toNat before).failed = false)
    (short : count < decisive frame (t₀.serveAll l.options.retries.toNat before).script)
    (left : count ≤ l.options.retries.toNat)
    (shows : l.Shows l₀
      ((Tally.call frame)^[count] (t₀.serveAll l.options.retries.toNat before))) :
    Proceeds t₀ ((Tally.call frame)^[count] (t₀.serveAll l.options.retries.toNat before)) l₀ l id x
      (before ++ [frame]) := by
  refine proceeds_of_silent id (by rw [writer]; rintro ⟨⟩) (by rw [writer]; rfl)
    (by rw [writer]; rfl) shows ?_
  simp only [Link.writerNext, writer]
  split
  · obtain rfl : count = l.options.retries.toNat := by omega
    exact .refused (.inl rfl) unfailed short
  · split
    · rename_i given
      exact .abandoned rfl (by rintro _ ⟨⟩) given unfailed short left
    · exact .write unfailed short (by omega)

/-- The call meets the next outcome, which decides on the frame or falls short of it. -/
theorem proceeds_write (id : Nat) (writer : x.writer = .write frame (count + 1))
    (unfailed : (t₀.serveAll l.options.retries.toNat before).failed = false)
    (short : count < decisive frame (t₀.serveAll l.options.retries.toNat before).script)
    (left : count < l.options.retries.toNat)
    (shows : l.Shows l₀
      ((Tally.call frame)^[count] (t₀.serveAll l.options.retries.toNat before))) :
    Proceeds t₀ ((Tally.call frame)^[count] (t₀.serveAll l.options.retries.toNat before)) l₀ l id x
      (before ++ [frame]) := by
  have shows' : (l.writerStep Device.transport id x).Shows l₀
      ((Tally.call frame)^[count + 1] (t₀.serveAll l.options.retries.toNat before)) := by
    rw [Function.iterate_succ_apply']
    refine shows.call ?_ ?_
    · rw [Link.device_writerStep, writer]
      rfl
    · rw [Link.settlements_writerStep, writer]
      exact List.append_nil _
  have next : l.device.script.headD .accept =
      ((Tally.call frame)^[count] (t₀.serveAll l.options.retries.toNat before)).next := by
    rw [shows.script]
    rfl
  have decides := Tally.fallsShort_next_iff short
  have same {p : Prop} :
      ((Tally.call frame)^[count + 1] (t₀.serveAll l.options.retries.toNat before)).failed →
        ((Tally.call frame)^[count] (t₀.serveAll l.options.retries.toNat before)).failed ∨ p :=
    fun failed => .inl (by rw [Tally.failed_calls] at failed ⊢; exact failed)
  unfold Proceeds
  rw [x.takes_of_ne (by rw [writer]; rintro ⟨⟩), List.append_nil]
  simp only [Link.writerNext, writer, Link.writeNext_of_prompt shows.prompt, next]
  split
  · rename_i again
    exact ⟨_, .attempt unfailed (decides.1 again) left, shows', same⟩
  · rename_i enough
    rw [decides] at enough
    have last : count + 1 = decisive frame (t₀.serveAll l.options.retries.toNat before).script := by
      omega
    split
    · rename_i fatal
      have all := Tally.serve_of_fatal unfailed left last fatal
      rw [← Tally.serveAll_concat] at all
      refine ⟨_, .ended rfl fun _ _ => by rw [all], ?_, fun _ => .inr rfl⟩
      rw [all]
      exact ⟨shows'.attempts, shows'.written, shows'.script, shows'.settlements, shows'.prompt⟩
    · rename_i mild
      exact ⟨_, .accepted (.inl ⟨_, rfl⟩) unfailed left last (by simpa using mild), shows', same⟩

/-- It is told what became of the last frame. -/
theorem proceeds_settle {event : LinkEvent} (id : Nat)
    (telling : x.writer = .report frame ∧ event = .sent frame ∨
      x.writer = .drop frame ∧ event = .dropped frame l.options.retries.toNat)
    (unfailed : (t₀.serveAll l.options.retries.toNat before).failed = false)
    (all : (t₀.serveAll l.options.retries.toNat before).serve l.options.retries.toNat frame =
      { (Tally.call frame)^[count] (t₀.serveAll l.options.retries.toNat before) with
        events := (t₀.serveAll l.options.retries.toNat before).events ++ [event] })
    (shows : l.Shows l₀
      ((Tally.call frame)^[count] (t₀.serveAll l.options.retries.toNat before))) :
    Proceeds t₀ ((Tally.call frame)^[count] (t₀.serveAll l.options.retries.toNat before)) l₀ l id x
      (before ++ [frame]) := by
  obtain ⟨look, device, told, none⟩ : l.writerNext Device.transport id x = .look ∧
      (l.writerStep Device.transport id x).device = l.device ∧
      (l.writerStep Device.transport id x).settlements = l.settlements ++ [event] ∧
      x.takes = [] := by
    rw [Link.device_writerStep, Link.settlements_writerStep]
    rcases telling with ⟨writer, rfl⟩ | ⟨writer, rfl⟩ <;>
      simp [Link.writerNext, writer, WriterPhase.events, LinkEvent.settled?, Session.takes]
  rw [← Tally.serveAll_concat] at all
  have unfailed' : (t₀.serveAll l.options.retries.toNat (before ++ [frame])).failed = false := by
    rw [all]
    exact (Tally.failed_calls ..).trans unfailed
  refine ⟨t₀.serveAll l.options.retries.toNat (before ++ [frame]), ?_, ?_,
    fun failed => absurd (unfailed'.symm.trans failed) (by simp)⟩
  · rw [look, none, List.append_nil]
    exact .free rfl unfailed'
  · rw [all, ← Tally.events_calls frame count]
    exact shows.settle device told

/-- A step of the writer makes of its frames what is to be made of them. -/
theorem proceeds (id : Nat)
    (serving : Serving l.options.retries.toNat t₀ x.cancelled x.writer frames t)
    (shows : l.Shows l₀ t) : Proceeds t₀ t l₀ l id x frames := by
  generalize writer : x.writer = phase at serving
  cases serving with
  | free isFree unfailed => exact proceeds_free id (writer ▸ isFree) unfailed shows
  | attempt unfailed short left => exact proceeds_attempt id writer unfailed short left shows
  | write unfailed short left => exact proceeds_write id writer unfailed short left shows
  | accepted after unfailed timely decides mild =>
    obtain ⟨deadline, rfl⟩ | rfl := after
    · have flushed : (l.writerStep Device.transport id x).device = l.device := by
        rw [Link.device_writerStep, writer]
        exact congrArg Prod.snd shows.prompt.flush
      refine ⟨_, ?_, shows.of_alike (flushed ▸ .refl _) ?_, .inl⟩
      · rw [x.takes_of_ne (by rw [writer]; rintro ⟨⟩), List.append_nil]
        simp only [Link.writerNext, writer, Link.flushNext_of_prompt shows.prompt]
        exact .accepted (.inr rfl) unfailed timely decides mild
      · rw [Link.settlements_writerStep, writer]
        exact List.append_nil _
    · exact proceeds_settle id (.inl ⟨writer, rfl⟩) unfailed
        (Tally.serve_of_timely unfailed timely decides mild) shows
  | refused after unfailed late =>
    obtain rfl | rfl := after
    · refine proceeds_of_silent id (by rw [writer]; rintro ⟨⟩) (by rw [writer]; rfl)
        (by rw [writer]; rfl) shows ?_
      simp only [Link.writerNext, writer]
      exact .refused (.inr rfl) unfailed late
    · exact proceeds_settle id (.inr ⟨writer, rfl⟩) unfailed (Tally.serve_of_late unfailed late)
        shows
  | ended ended cause =>
    subst writer
    refine proceeds_of_hasEnded id ended shows
      (.ended (Link.hasEnded_writerNext Device.transport id l ended).2 fun step fails => ?_)
    obtain ⟨step, fails⟩ := Link.fail_of_writerNext ended fails
    exact cause step fails
  | abandoned ended mild given unfailed short left =>
    subst writer
    refine proceeds_of_hasEnded id ended shows
      (.abandoned (Link.hasEnded_writerNext Device.transport id l ended).2 (fun step fails => ?_)
        given unfailed short left)
    obtain ⟨step, fails⟩ := Link.fail_of_writerNext ended fails
    exact mild step fails

end

/-- What has come of the frames so far is the beginning of what is to come of them. -/
theorem calls_prefix (serving : Serving retries t₀ cancelled phase frames t) :
    t.calls <+: (t₀.serveAll retries frames).calls := by
  cases serving with
  | free | ended => exact List.prefix_refl _
  | attempt unfailed short left | abandoned _ _ _ unfailed short left =>
    rw [Tally.serveAll_concat]
    exact Tally.calls_serve_prefix unfailed left (Nat.le_of_lt short)
  | write unfailed short left =>
    rw [Tally.serveAll_concat]
    exact Tally.calls_serve_prefix unfailed (Nat.le_of_lt left) (Nat.le_of_lt short)
  | accepted _ unfailed timely decides =>
    rw [Tally.serveAll_concat]
    exact Tally.calls_serve_prefix unfailed timely (Nat.le_of_eq decides)
  | refused _ unfailed late =>
    rw [Tally.serveAll_concat]
    exact Tally.calls_serve_prefix unfailed (Nat.le_refl _) (Nat.le_of_lt late)

theorem events_prefix (serving : Serving retries t₀ cancelled phase frames t) :
    t.events <+: (t₀.serveAll retries frames).events := by
  cases serving with
  | free | ended => exact List.prefix_refl _
  | attempt | abandoned | write | accepted | refused =>
    rw [Tally.serveAll_concat, Tally.events_calls]
    exact Tally.events_serve_prefix ..

/-- A writer that has ended uncancelled has dealt with all. -/
theorem of_hasEnded (serving : Serving retries t₀ cancelled phase frames t) (ended : phase.hasEnded)
    (uncancelled : cancelled = false) : t = t₀.serveAll retries frames := by
  cases serving with
  | free | ended => rfl
  | attempt | write => cases ended
  | accepted after => obtain ⟨_, rfl⟩ | rfl := after <;> cases ended
  | refused after => obtain rfl | rfl := after <;> cases ended
  | abandoned _ _ given => cases uncancelled.symm.trans given

/-- When the device is gone, the writer has dealt with all, and ends. -/
theorem of_failed (serving : Serving retries t₀ cancelled phase frames t) (failed : t.failed) :
    t = t₀.serveAll retries frames ∧ phase.hasEnded := by
  cases serving with
  | free _ unfailed => cases unfailed.symm.trans failed
  | ended ended => exact ⟨rfl, ended⟩
  | attempt unfailed | write unfailed | accepted _ unfailed | refused _ unfailed
  | abandoned _ _ _ unfailed =>
    rw [Tally.failed_calls, unfailed] at failed
    cases failed

/-- An uncancelled writer that may still get frames comes nearer to having dealt with all, or gives
the session up as the device is gone. -/
theorem advances {l₀ l : Link Device} {x : Session} {id : Nat}
    (serving : Serving l.options.retries.toNat t₀ x.cancelled x.writer frames t)
    (shows : l.Shows l₀ t) (uncancelled : x.cancelled = false) (outbox : l.outbox = some id)
    (begun : x.writer ≠ .unborn) (active : x.writer.hasEnded = false)
    (busy : x.writer = .look → x.queue ≠ []) :
    l.writerNext Device.transport id x = .fail .mark ∨
      l.writerNext Device.transport id x ≠ .unborn ∧
      (l.writerNext Device.transport id x).hasEnded = false ∧
      Session.stepsLeft l.options.retries.toNat
        { x with queue := x.queue.drop x.takes.length
                 writer := l.writerNext Device.transport id x } <
        x.stepsLeft l.options.retries.toNat := by
  have takes (other : x.writer ≠ .take) : x.queue.drop x.takes.length = x.queue := by
    rw [x.takes_of_ne other]
    rfl
  unfold Session.stepsLeft
  generalize writer : x.writer = phase at serving takes begun active busy
  cases serving with
  | free isFree unfailed =>
    refine .inr ?_
    cases phase with
    | unborn => exact absurd rfl begun
    | look =>
      rw [takes (by rintro ⟨⟩)]
      simp [Link.writerNext, writer, uncancelled, WriterPhase.stepsLeft, WriterPhase.hasEnded,
        busy rfl]
    | take =>
      cases queue : x.queue with
      | nil =>
        simp [Link.writerNext, writer, queue, outbox, WriterPhase.stepsLeft, WriterPhase.hasEnded]
      | cons frame rest =>
        simp [Link.writerNext, writer, queue, Session.takes, WriterPhase.stepsLeft,
          WriterPhase.hasEnded, Nat.succ_mul]
    | _ => cases isFree
  | @attempt before frame count unfailed short left =>
    refine .inr ?_
    rw [takes (by rintro ⟨⟩)]
    simp only [Link.writerNext, writer, uncancelled]
    split
    · refine ⟨by rintro ⟨⟩, rfl, ?_⟩
      simp only [WriterPhase.stepsLeft]
      omega
    · refine ⟨by rintro ⟨⟩, rfl, ?_⟩
      simp only [WriterPhase.stepsLeft, Bool.false_eq_true, if_false]
      omega
  | @write before frame count unfailed short left =>
    rw [takes (by rintro ⟨⟩)]
    simp only [Link.writerNext, writer, Link.writeNext_of_prompt shows.prompt]
    split
    · refine .inr ⟨by rintro ⟨⟩, rfl, ?_⟩
      simp only [WriterPhase.stepsLeft]
      omega
    · split
      · exact .inl rfl
      · refine .inr ⟨by rintro ⟨⟩, rfl, ?_⟩
        simp only [WriterPhase.stepsLeft]
        omega
  | accepted after =>
    refine .inr ?_
    obtain ⟨deadline, rfl⟩ | rfl := after
    · rw [takes (by rintro ⟨⟩)]
      simp [Link.writerNext, writer, Link.flushNext_of_prompt shows.prompt, WriterPhase.stepsLeft,
        WriterPhase.hasEnded]
    · rw [takes (by rintro ⟨⟩)]
      simp [Link.writerNext, writer, WriterPhase.stepsLeft, WriterPhase.hasEnded]
  | refused after =>
    refine .inr ?_
    obtain rfl | rfl := after <;>
      (rw [takes (by rintro ⟨⟩)]
       simp [Link.writerNext, writer, WriterPhase.stepsLeft, WriterPhase.hasEnded])
  | ended ended | abandoned ended =>
    rw [active] at ended
    cases ended

end Serving

/-- What a step of a writer that has not ended leaves of its session and the link. -/
theorem Link.writerStep_of_active {σ : Type} (T : Transport σ) {id : Nat} {x : Session} {l : Link σ}
    (at_id : l.sessions[id]? = some x) (active : x.writer.hasEnded = false) :
    (l.writerStep T id x).sessions[id]? =
        some { x with queue := x.queue.drop x.takes.length, writer := l.writerNext T id x } ∧
      (l.writerStep T id x).outbox = l.outbox ∧ (l.writerStep T id x).state = l.state := by
  have keeps (l' : Link σ) (phase : WriterPhase) (same : l'.sessions = l.sessions)
      (outbox : l'.outbox = l.outbox) (state : l'.state = l.state) (other : x.writer ≠ .take) :
      (l'.writerTo id phase).sessions[id]? =
          some { x with queue := x.queue.drop x.takes.length, writer := phase } ∧
        (l'.writerTo id phase).outbox = l.outbox ∧ (l'.writerTo id phase).state = l.state := by
    rw [x.takes_of_ne other]
    exact ⟨session_update (by rw [same]; exact at_id), outbox, state⟩
  unfold writerStep writerNext
  cases writer : x.writer with
  | unborn =>
    have still := keeps l .unborn rfl rfl rfl (by rw [writer]; rintro ⟨⟩)
    rwa [writerTo_of_eq at_id writer] at still
  | take =>
    cases queue : x.queue with
    | nil =>
      refine ⟨?_, rfl, rfl⟩
      simp only [writerTo]
      rw [session_update at_id]
      simp [queue]
    | cons frame rest =>
      refine ⟨?_, rfl, rfl⟩
      simp only [writerTo, update_update]
      rw [session_update at_id]
      simp [Session.takes, writer, queue]
  | look | attempt | write | stalled | flush | draining | report | clear | drop =>
    exact keeps _ _ rfl rfl rfl (by rw [writer]; rintro ⟨⟩)
  | _ => rw [writer] at active; cases active

end FieldLink

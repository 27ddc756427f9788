import FieldLink.Link.Basic
import FieldLink.Timer

/-!
# The writer

The writer takes one frame after the other off the queue.  An attempt writes the whole frame in one
call and waits until it is on the wire, all within a deadline; an attempt that takes fewer bytes,
fails transiently or meets its deadline is followed by another, up to a limit, and then the frame is
dropped.  The writer ends when it is cancelled or no frame can come any more, and gives the session
up when the transport fails fatally.  At its end it ends the writing, again within a deadline.
-/

namespace FieldLink

namespace Link

variable {σ : Type}

/-- Takes the writer of a session to a phase. -/
def writerTo (id : Nat) (phase : WriterPhase) (l : Link σ) : Link σ :=
  l.update id fun s => { s with writer := phase }

/-- The phase after a failed attempt. -/
def writerAfter (T : Transport σ) (frame : Frame) (count : Nat) (f : Failure) (l : Link σ) :
    WriterPhase :=
  match T.classify l.device f with
  | .fatal => .fail .mark
  | .transient => .attempt frame (count + 1)

/-- The failure of a write that took fewer bytes than the frame has. -/
def shortWrite (n : Nat) (frame : Frame) : Failure :=
  .ofKind .writeZero
    ("short write, " ++ toString n ++ " of " ++ toString frame.length ++ " bytes")

/-- Makes the call that writes a frame, for the first time or again. -/
def writeStep (T : Transport σ) (id : Nat) (frame : Frame) (count deadline : Nat) (l : Link σ) :
    Link σ :=
  let (answer, device) := T.write frame l.now l.device
  let l := { l with device }
  l.writerTo id <|
    match answer with
    | .waiting resume =>
      if Timer.hasFired deadline l.now then .attempt frame (count + 1)
      else .stalled frame count deadline resume
    | .failed f => l.writerAfter T frame count f
    | .done n =>
      if n < frame.length then l.writerAfter T frame count (shortWrite n frame)
      else .flush frame count deadline

/-- Makes the call that waits until a frame is on the wire, for the first time or again. -/
def flushStep (T : Transport σ) (id : Nat) (frame : Frame) (count deadline : Nat) (l : Link σ) :
    Link σ :=
  let (answer, device) := T.flush l.now l.device
  let l := { l with device }
  l.writerTo id <|
    match answer with
    | .waiting resume =>
      if Timer.hasFired deadline l.now then .attempt frame (count + 1)
      else .draining frame count deadline resume
    | .failed f => l.writerAfter T frame count f
    | .done () => .report frame

/-- Makes the call that ends the writing, for the first time or again. -/
def shutdownStep (T : Transport σ) (id : Nat) (deadline : Nat) (l : Link σ) : Link σ :=
  let (answer, device) := T.shutdown l.now l.device
  let l := { l with device }
  l.writerTo id <|
    match answer with
    | .waiting resume =>
      if Timer.hasFired deadline l.now then .release (some (.ofKind .timedOut "timed out"))
      else .ending deadline resume
    | .failed f => .release (some f)
    | .done () => .release none

/-- One step of the writer of the session `id`. -/
def writerStep (T : Transport σ) (id : Nat) (s : Session) (l : Link σ) : Link σ :=
  match s.writer with
  | .unborn | .gone _ => l
  | .look => l.writerTo id (if s.cancelled then .shutdown else .take)
  | .take =>
    match s.queue with
    | frame :: queue =>
      (l.update id fun s => { s with queue }).writerTo id (.attempt frame 1)
    | [] => l.writerTo id (if l.outbox = some id then .look else .shutdown)
  | .attempt frame count =>
    l.writerTo id <|
      if l.options.retries.toNat < count then .clear frame
      else if s.cancelled then .shutdown
      else .write frame count
  | .write frame count => l.writeStep T id frame count l.deadline
  | .stalled frame count deadline _ => l.writeStep T id frame count deadline
  | .flush frame count deadline | .draining frame count deadline _ =>
    l.flushStep T id frame count deadline
  | .report frame => (l.emit (.sent frame)).writerTo id .look
  | .clear frame => l.clearSending.writerTo id (.drop frame)
  | .drop frame => (l.emit (.dropped frame l.options.retries.toNat)).writerTo id .look
  | .fail phase =>
    let (next, l) := l.failStep id phase
    l.writerTo id (next.elim .shutdown .fail)
  | .shutdown => l.shutdownStep T id l.deadline
  | .ending deadline _ => l.shutdownStep T id deadline
  | .release result =>
    (l.dropHalf T id fun s => { s with writeHalf := false }).writerTo id (.leave .count result)
  | .leave phase result =>
    let (next, l) := l.leaveStep phase
    l.writerTo id (next.elim (.gone result) (.leave · result))

/-- Whether a call that has no answer is not to be made again yet. -/
def isPending (deadline : Nat) (resume : Option Nat) (now : Nat) : Bool :=
  !Timer.hasFired deadline now && !resume.any (Timer.hasFired · now)

/-- Whether the writer has nothing to do but to wait. -/
def writerWaits (id : Nat) (s : Session) (l : Link σ) : Bool :=
  match s.writer with
  | .unborn | .gone _ => true
  | .look => !s.cancelled && s.queue.isEmpty && l.outbox = some id
  | .stalled _ _ deadline resume | .draining _ _ deadline resume | .ending deadline resume =>
    isPending deadline resume l.now
  | _ => false

/-- The alarms that the writer waits for.  The transport sets its own before the writer sets that of
the deadline. -/
def writerAlarms (s : Session) : List Alarm :=
  match s.writer with
  | .stalled _ _ deadline resume | .draining _ _ deadline resume | .ending deadline resume =>
    (resume.map fun time => ⟨time, true⟩).toList ++ [⟨deadline, false⟩]
  | _ => []

end Link

end FieldLink

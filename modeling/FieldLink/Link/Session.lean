import FieldLink.Bytes
import FieldLink.Error
import FieldLink.Transport.Failure

/-!
# Sessions

A session is one run of a link on a transport, from its opening until its loops have ended.  Three
loops share it: the reader, the writer, and the poller if the link polls.  Each of them is a program
of small steps, and its phase names the step that it takes next: one look at something that is
shared, one change of it, or one call on the transport.  Between two steps of one loop others may
take any number of theirs.
-/

namespace FieldLink

/-- The step that a send takes next. -/
inductive SendPhase where
  /-- Marks an exchange as outstanding. -/
  | mark
  /-- Queues the frame.  An exchange was outstanding `before`, or not. -/
  | queue (before : Bool)
  /-- Puts the mark back, as nothing was queued. -/
  | restore (before : Bool) (refusal : LinkError)
  | done (result : Except LinkError Unit)

/-- The step that a loop takes next when it gives its session up for a fatal fault. -/
inductive FailPhase where
  /-- Notes that the session has failed. -/
  | mark
  /-- Takes the link from open to closing. -/
  | close
  /-- Stops accepting frames. -/
  | unplug
  /-- Cancels every loop of the session. -/
  | cancel
  deriving DecidableEq, Repr

/-- The step that a loop takes next when it has ended. -/
inductive LeavePhase where
  /-- Counts itself out. -/
  | count
  /-- Looks, as the last loop, whether the session has failed. -/
  | judge
  /-- Takes the link from closing to closed. -/
  | finish
  /-- Reports that the link is closed. -/
  | report
  deriving DecidableEq, Repr

/-- The step that the reader takes next. -/
inductive ReaderPhase where
  /-- The loop was not begun. -/
  | unborn
  /-- Looks whether it is cancelled. -/
  | look
  /-- Reads a chunk. -/
  | read
  /-- Hands a chunk to the receive callback. -/
  | deliver (chunk : Frame)
  /-- Sends a reply that the callback gave to a chunk. -/
  | reply (chunk : Frame) (tag : String) (answer : Frame) (phase : SendPhase)
  /-- Marks no exchange as outstanding. -/
  | clear (chunk : Frame)
  /-- Reports a chunk. -/
  | report (chunk : Frame)
  /-- Gives the session up. -/
  | fail (phase : FailPhase)
  /-- Lets its half of the transport go. -/
  | release
  | leave (phase : LeavePhase)
  | gone

/-- The step that the writer takes next. -/
inductive WriterPhase where
  /-- The loop was not begun. -/
  | unborn
  /-- Looks whether it is cancelled. -/
  | look
  /-- Takes a frame off the queue. -/
  | take
  /-- Looks whether it may begin a further attempt, and whether it is cancelled. -/
  | attempt (frame : Frame) (count : Nat)
  /-- Sets the deadline of an attempt and makes the call that writes the frame. -/
  | write (frame : Frame) (count : Nat)
  /-- Waits for the answer to that call.  It is made again at the time `resume`, if there is one, or at
  the deadline, here and below. -/
  | stalled (frame : Frame) (count deadline : Nat) (resume : Option Nat)
  /-- Makes the call that waits until the frame is on the wire. -/
  | flush (frame : Frame) (count deadline : Nat)
  /-- Waits for the answer to that call. -/
  | draining (frame : Frame) (count deadline : Nat) (resume : Option Nat)
  /-- Reports that a frame was sent. -/
  | report (frame : Frame)
  /-- Marks no exchange as outstanding, as the frame is given up. -/
  | clear (frame : Frame)
  /-- Reports that a frame was dropped. -/
  | drop (frame : Frame)
  /-- Gives the session up. -/
  | fail (phase : FailPhase)
  /-- Sets the deadline for ending the writing and makes the call that ends it. -/
  | shutdown
  /-- Waits for the answer to that call. -/
  | ending (deadline : Nat) (resume : Option Nat)
  /-- Lets its half of the transport go.  The ending may have had a failure, here and below. -/
  | release (result : Option Failure)
  | leave (phase : LeavePhase) (result : Option Failure)
  | gone (result : Option Failure)
  deriving DecidableEq, Repr

/-- What the poller holds on to in a cycle. -/
structure PollCycle where
  /-- The time for which the next cycle is set. -/
  next : Nat
  /-- When the cycle began. -/
  started : Nat
  /-- The commands that are still to be offered. -/
  left : List Frame
  /-- How many commands were queued. -/
  offered : Nat := 0
  /-- How many commands were left out. -/
  skipped : Nat := 0
  deriving DecidableEq, Repr

/-- The step that the poller takes next. -/
inductive PollerPhase where
  /-- The loop was not begun. -/
  | unborn
  /-- Sets its first cycle. -/
  | begin
  /-- Waits for the next cycle, and looks whether it is cancelled. -/
  | wait (next : Nat)
  /-- Takes a copy of the commands. -/
  | copy (next : Nat)
  /-- Looks whether there is a command left, and whether it is cancelled. -/
  | look (cycle : PollCycle)
  /-- Looks whether an exchange is outstanding. -/
  | ask (cycle : PollCycle)
  /-- Queues a command. -/
  | offer (cycle : PollCycle)
  /-- Lets the last exchange finish, and looks whether it is cancelled. -/
  | settle (cycle : PollCycle) (deadline : Nat)
  /-- Reports the cycle. -/
  | report (cycle : PollCycle)
  | leave (phase : LeavePhase)
  | gone
  /-- The loop broke off at its beginning, and does not count itself out. -/
  | broken
  deriving DecidableEq, Repr

/-- One run of a link on a transport. -/
structure Session where
  /-- The frames that wait to be written. -/
  queue : List Frame := []
  /-- Whether the loops are to end. -/
  cancelled : Bool := false
  /-- Whether the poller alone is to end. -/
  pollCancelled : Bool := false
  /-- Whether the reader's half of the transport is held. -/
  readHalf : Bool := true
  /-- Whether the writer's half of the transport is held. -/
  writeHalf : Bool := true
  reader : ReaderPhase := .unborn
  writer : WriterPhase := .unborn
  poller : PollerPhase := .unborn

/-- The loops of a session. -/
inductive Loop where
  | reader
  | writer
  | poller
  deriving DecidableEq, Repr

namespace Session

/-- Whether the poller is to end. -/
def pollStopped (s : Session) : Bool := s.cancelled || s.pollCancelled

/-- Whether nobody takes frames off the queue any more. -/
def isDeaf (s : Session) : Bool :=
  match s.writer with
  | .gone _ => true
  | _ => false

/-- What came of ending the writing, once all loops have ended. -/
def outcome? (s : Session) : Option (Option Failure) :=
  match s.reader, s.writer, s.poller with
  | .gone, .gone result, .gone | .gone, .gone result, .broken | .gone, .gone result, .unborn =>
    some result
  | _, _, _ => none

end Session

end FieldLink

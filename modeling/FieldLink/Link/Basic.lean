import FieldLink.Link.Event
import FieldLink.Link.Session
import FieldLink.Timer
import FieldLink.Transport.Basic

/-!
# Links

A `Link` is everything that the calls on a link and the loops of its sessions share: its options and
state, the mark of an outstanding exchange, the queue that accepts frames, the poll commands and the
receive callback, the transport's device, and what has been reported.

Three programs run inside others, step by step: sending a frame (`Link.sendStep`), giving a session
up (`Link.failStep`) and leaving it (`Link.leaveStep`).  The last loop that leaves a failed session
closes the link; otherwise the call that closes the link does.
-/

namespace FieldLink

/-- Where a link is in its life. -/
inductive LinkState where
  /-- There is no transport. -/
  | closed
  /-- The transport is being opened. -/
  | opening
  /-- Frames may be sent. -/
  | opened
  /-- The loops are to end. -/
  | closing
  deriving DecidableEq, Repr

/-- What is called with each chunk that is read.  It answers a chunk with its next reply, as long as
it has one. -/
structure Callback where
  tag : String
  replies : List Frame := []
  deriving DecidableEq, Repr

/-- A call of the receive callback, with the result of sending its reply. -/
structure Delivery where
  tag : String
  chunk : Frame
  sent : Option (Except LinkError Unit)

/-- A serial link on a device with the state `σ`. -/
structure Link (σ : Type) where
  options : LinkOptions
  device : σ
  state : LinkState := .closed
  /-- Whether an exchange is outstanding: the application has queued a frame, and no chunk has been
  read since. -/
  sending : Bool := false
  /-- The session that accepts frames. -/
  outbox : Option Nat := none
  commands : List Frame := []
  callback : Option Callback := none
  /-- How many loops of the latest session have not left yet. -/
  liveLoops : Int := 0
  /-- Whether the latest session has met a fatal fault. -/
  failed : Bool := false
  /-- All sessions, in the order of their opening. -/
  sessions : List Session := []
  /-- The session that is to be closed. -/
  current : Option Nat := none
  /-- Whether a call holds on to `current`. -/
  locked : Bool := false
  now : Nat := 0
  /-- What was reported, the oldest first. -/
  events : List LinkEvent := []
  /-- The calls of the receive callback, the oldest first. -/
  deliveries : List Delivery := []

namespace Link

variable {σ : Type}

/-- The name of the link's port. -/
def address (l : Link σ) : String := l.options.address

/-- Changes a session. -/
def update (id : Nat) (f : Session → Session) (l : Link σ) : Link σ :=
  { l with sessions := l.sessions.modify id f }

/-- Reports an event. -/
def emit (event : LinkEvent) (l : Link σ) : Link σ := { l with events := l.events ++ [event] }

/-- Notes a call of the receive callback. -/
def deliver (delivery : Delivery) (l : Link σ) : Link σ :=
  { l with deliveries := l.deliveries ++ [delivery] }

/-- Marks no exchange as outstanding. -/
def clearSending (l : Link σ) : Link σ := { l with sending := false }

/-- The time one deadline from now. -/
def deadline (l : Link σ) : Nat := Timer.after l.options.timeout.nanoseconds l.now

/-- Appends a command to those that are polled. -/
def addCommand (command : Frame) (l : Link σ) : Link σ :=
  { l with commands := l.commands ++ [command] }

/-! ## Sending a frame -/

/-- Queues a frame, if there is a session that accepts frames and has room. -/
def enqueue (frame : Frame) (l : Link σ) : Except LinkError Unit × Link σ :=
  match l.outbox with
  | none => (.error .notOpen, l)
  | some id =>
    match l.sessions[id]? with
    | none => (.error .notOpen, l)
    | some s =>
      if s.isDeaf then (.error .notOpen, l)
      else if l.options.queueCapacity.toNat ≤ s.queue.length then (.error .busy, l)
      else (.ok (), l.update id fun s => { s with queue := s.queue ++ [frame] })

/-- One step of sending a frame.  The exchange is marked before the frame is queued, as the response
may be read before the send has returned. -/
def sendStep (frame : Frame) : SendPhase → Link σ → SendPhase × Link σ
  | .mark, l => (.queue l.sending, { l with sending := true })
  | .queue before, l =>
    match l.enqueue frame with
    | (.ok (), l) => (.done (.ok ()), l)
    | (.error e, l) => (.restore before e, l)
  | .restore before e, l => (.done (.error e), { l with sending := before })
  | .done result, l => (.done result, l)

/-! ## The end of a session -/

/-- One step of giving the session `id` up, and the phase after it. -/
def failStep (id : Nat) : FailPhase → Link σ → Option FailPhase × Link σ
  | .mark, l => (some .close, { l with failed := true })
  | .close, l =>
    (some .unplug, if l.state = .opened then { l with state := .closing } else l)
  | .unplug, l => (some .cancel, { l with outbox := none })
  | .cancel, l => (none, l.update id fun s => { s with cancelled := true })

/-- One step of leaving, and the phase after it.  The last loop that leaves a failed session closes
the link. -/
def leaveStep : LeavePhase → Link σ → Option LeavePhase × Link σ
  | .count, l =>
    (if l.liveLoops = 1 then some .judge else none, { l with liveLoops := l.liveLoops - 1 })
  | .judge, l => (if l.failed then some .finish else none, l)
  | .finish, l =>
    if l.state = .closing then (some .report, { l with state := .closed }) else (none, l)
  | .report, l => (none, l.emit (.closed true))

/-- Lets one half of a session's transport go.  With the second half goes the transport. -/
def dropHalf (T : Transport σ) (id : Nat) (drop : Session → Session) (l : Link σ) : Link σ :=
  let l := l.update id drop
  match l.sessions[id]? with
  | some s =>
    if s.readHalf || s.writeHalf then l else { l with device := T.release l.device }
  | none => l

end Link

end FieldLink

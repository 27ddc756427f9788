import FieldLink.Link.Turns
import Mathlib.Logic.Function.Iterate
import Mathlib.Logic.Relation

/-!
# Scenes

A link in use is a `Scene`: the link, every call that was made on it, and notes of what has happened
so far.  `Scene.act` takes one action, which is a single step of a loop or a call, or a change from
outside: a device may be put into any state between two steps, so it may answer every call as it
likes.

`Scene.run` takes actions in any order.  Two relations say which may follow each other in an orderly
use.  Under `Scene.Move` the loops and all calls take their steps in any order; only a start is made
while no close is in progress, and is not interrupted.  Under `Scene.Turn` a call is made when every
call before it is over, and a loop or a call keeps its turn from one await to the next.
-/

namespace FieldLink

/-- What the application asks of a link. -/
inductive Request where
  | start
  | send (frame : Frame)
  | stopPolling
  | close
  deriving DecidableEq, Repr

/-- The call that a request begins. -/
def Request.call : Request → Call
  | start => .start .enter
  | send frame => .send frame .mark
  | stopPolling => .stopPolling false
  | close => .close .stopPolling

/-- The frame that an event says has been dealt with. -/
def LinkEvent.settled? : LinkEvent → Option Frame
  | .sent frame | .dropped frame _ => some frame
  | _ => none

/-- Whether an event is neither the first nor the last of a session. -/
def LinkEvent.isTraffic : LinkEvent → Bool
  | .opened | .closed _ => false
  | _ => true

/-! ## Notes -/

/-- What is noted of a run. -/
inductive Note where
  /-- The queue of a session has accepted a frame. -/
  | accepted (session : Nat) (frame : Frame)
  /-- The writer of a session has taken a frame off the queue. -/
  | taken (session : Nat) (frame : Frame)
  /-- The writer of a session has called on the transport to write a frame. -/
  | wrote (session : Nat) (frame : Frame)
  /-- A loop of a session has begun to give the session up. -/
  | failed (session : Nat)
  /-- A loop of the session, or a call, has reported an event. -/
  | reported (session : Option Nat) (event : LinkEvent)
  deriving DecidableEq, Repr

namespace Note

/-- The frame that was accepted into a session. -/
def accepted? (id : Nat) : Note → Option Frame
  | accepted session frame => if session = id then some frame else none
  | _ => none

/-- The frame that the writer of a session took. -/
def taken? (id : Nat) : Note → Option Frame
  | taken session frame => if session = id then some frame else none
  | _ => none

/-- The frame that the writer of a session called to be written. -/
def wrote? (id : Nat) : Note → Option Frame
  | wrote session frame => if session = id then some frame else none
  | _ => none

/-- The frame that a loop of a session reported as sent or dropped. -/
def settled? (id : Nat) : Note → Option Frame
  | reported (some session) event => if session = id then event.settled? else none
  | _ => none

/-- The event that was reported. -/
def event? : Note → Option LinkEvent
  | reported _ event => some event
  | _ => none

end Note

namespace Link

variable {σ : Type}

/-- The session whose queue would accept a frame. -/
def taker? (frame : Frame) (l : Link σ) : Option Nat :=
  match l.enqueue frame with
  | (.ok (), _) => l.outbox
  | (.error _, _) => none

/-- What is noted when a frame is offered to the queue. -/
def offerNotes (frame : Frame) (l : Link σ) : List Note :=
  (l.taker? frame).toList.map (.accepted · frame)

/-- What is noted of one step of a send. -/
def sendNotes (frame : Frame) : SendPhase → Link σ → List Note
  | .queue _, l => l.offerNotes frame
  | _, _ => []

/-- What is noted of one step of giving a session up. -/
def failNotes (id : Nat) : FailPhase → List Note
  | .mark => [.failed id]
  | _ => []

/-- What is noted of one step of a reader. -/
def readerNotes (id : Nat) (s : Session) (l : Link σ) : List Note :=
  match s.reader with
  | .reply _ _ answer phase => l.sendNotes answer phase
  | .fail phase => failNotes id phase
  | _ => []

/-- What is noted of one step of a writer. -/
def writerNotes (id : Nat) (s : Session) : List Note :=
  match s.writer with
  | .take => s.queue.head?.toList.map (.taken id)
  | .write frame _ | .stalled frame _ _ _ => [.wrote id frame]
  | .fail phase => failNotes id phase
  | _ => []

/-- What is noted of one step of a poller. -/
def pollerNotes (s : Session) (l : Link σ) : List Note :=
  match s.poller with
  | .offer cycle => cycle.left.head?.toList.flatMap l.offerNotes
  | _ => []

/-- What is noted of one step of a loop, its events apart. -/
def loopNotes (p : Place) (l : Link σ) : List Note :=
  match l.sessions[p.session]? with
  | none => []
  | some s =>
    match p.loop with
    | .reader => l.readerNotes p.session s
    | .writer => writerNotes p.session s
    | .poller => l.pollerNotes s

/-- What is noted of the events that were reported between two states of a link. -/
def eventNotes (session : Option Nat) (before after : Link σ) : List Note :=
  (after.events.drop before.events.length).map (.reported session)

end Link

/-- What is noted of one step of a call, its events apart. -/
def Call.notes {σ : Type} (l : Link σ) : Call → List Note
  | send frame phase => l.sendNotes frame phase
  | _ => []

/-! ## Rest -/

/-- Whether the reader awaits something or is not running. -/
def ReaderPhase.rests : ReaderPhase → Bool
  | unborn | look | gone => true
  | _ => false

/-- Whether the writer awaits something or is not running. -/
def WriterPhase.rests : WriterPhase → Bool
  | unborn | look | write _ _ | stalled _ _ _ _ | flush _ _ _ | draining _ _ _ _ | shutdown
  | ending _ _ | gone _ => true
  | _ => false

/-- Whether the poller awaits something or is not running. -/
def PollerPhase.rests : PollerPhase → Bool
  | unborn | begin | wait _ | settle _ _ | gone | broken => true
  | _ => false

/-- Whether a loop of a session awaits something or is not running. -/
def Session.rests (loop : Loop) (s : Session) : Bool :=
  match loop with
  | .reader => s.reader.rests
  | .writer => s.writer.rests
  | .poller => s.poller.rests

namespace Call

/-- Whether a call has returned or broken off. -/
def isOver : Call → Bool
  | start (.done _) | start .broken | send _ (.done _) | stopPolling true | close (.done _) => true
  | _ => false

/-- Whether a call is over or awaits the loops of a session. -/
def rests : Call → Bool
  | close (.join _) => true
  | c => c.isOver

/-- Whether a call is a close that has not returned. -/
def isClosing : Call → Bool
  | close (.done _) => false
  | close _ => true
  | _ => false

/-- Whether a call is a start that has returned without a refusal. -/
def hasStarted : Call → Bool
  | start (.done (.ok ())) => true
  | _ => false

end Call

/-! ## Scenes -/

/-- A link in use. -/
structure Scene (σ : Type) where
  link : Link σ
  /-- All calls that were made, in order. -/
  calls : List Call := []
  /-- What has happened, the oldest first. -/
  notes : List Note := []

/-- What may happen next. -/
inductive Action (σ : Type) where
  /-- A loop takes a step. -/
  | loop (place : Place)
  /-- A call takes a step. -/
  | call (number : Nat)
  /-- A call is made. -/
  | make (request : Request)
  /-- The device changes. -/
  | device (device : σ)
  /-- The clock shows another time. -/
  | clock (now : Nat)
  /-- A command is added to those that are polled. -/
  | command (command : Frame)
  /-- The receive callback is set. -/
  | callback (callback : Callback)

namespace Scene

variable {σ : Type}

/-- A closed link on which nothing was called. -/
def fresh (options : LinkOptions) (device : σ) (now : Nat) : Scene σ :=
  { link := { options, device, now } }

/-- Takes one action. -/
def act (T : Transport σ) : Action σ → Scene σ → Scene σ
  | .loop p, s =>
    let link := s.link.step T p
    { s with
      link
      notes := s.notes ++ (s.link.loopNotes p ++ Link.eventNotes (some p.session) s.link link) }
  | .call number, s =>
    match s.calls[number]? with
    | none => s
    | some c =>
      let (c', link) := c.step T s.link
      { link
        calls := s.calls.set number c'
        notes := s.notes ++ (c.notes s.link ++ Link.eventNotes none s.link link) }
  | .make request, s => { s with calls := s.calls ++ [request.call] }
  | .device device, s => { s with link := { s.link with device } }
  | .clock now, s => { s with link := { s.link with now } }
  | .command command, s => { s with link := s.link.addCommand command }
  | .callback callback, s => { s with link := { s.link with callback := some callback } }

/-- Takes one action after the other. -/
def run (T : Transport σ) (actions : List (Action σ)) (s : Scene σ) : Scene σ :=
  actions.foldl (fun s a => s.act T a) s

/-- The frames that a session has accepted, in order. -/
def accepted (id : Nat) (s : Scene σ) : List Frame := s.notes.filterMap (Note.accepted? id)

/-- The frames that the writer of a session has taken, in order. -/
def taken (id : Nat) (s : Scene σ) : List Frame := s.notes.filterMap (Note.taken? id)

/-- The frames of a session's events that it was sent or dropped, in order. -/
def settled (id : Nat) (s : Scene σ) : List Frame := s.notes.filterMap (Note.settled? id)

/-- The frames of the calls to write that a session has made, in order. -/
def wrote (id : Nat) (s : Scene σ) : List Frame := s.notes.filterMap (Note.wrote? id)

/-! ## Who moves when -/

/-- Whether what an action moves has come to rest. -/
def Rests : Action σ → Scene σ → Prop
  | .loop p, s => ∀ x ∈ s.link.sessions[p.session]?, x.rests p.loop
  | .call number, s => ∀ c ∈ s.calls[number]?, c.rests
  | _, _ => True

/-- One loop or call alone takes steps until it rests. -/
def Stretch (T : Transport σ) (a : Action σ) (s s' : Scene σ) : Prop :=
  (∃ count, s' = (act T a)^[count] s) ∧ s'.Rests a

/-- One move of a link whose loops and calls take their steps in any order.  A start is made while
no close is in progress and the scene is `ready`, and runs to its end. -/
inductive Move (T : Transport σ) (ready : Scene σ → Prop) : Scene σ → Scene σ → Prop
  | act {s : Scene σ} (a : Action σ) (plain : a ≠ .make .start) : Move T ready s (s.act T a)
  | start {s s' : Scene σ} (apart : ∀ c ∈ s.calls, ¬c.isClosing) (free : ready s)
      (run : Stretch T (.call s.calls.length) (s.act T (.make .start)) s') : Move T ready s s'

/-- One turn of a link whose calls are made one after another. -/
inductive Turn (T : Transport σ) : Scene σ → Scene σ → Prop
  /-- A loop goes on from one await to the next. -/
  | loop {s s' : Scene σ} (p : Place) (run : Stretch T (.loop p) s s') : Turn T s s'
  /-- A call is made, and goes on until it is over or awaits the loops. -/
  | make {s s' : Scene σ} (request : Request) (free : ∀ c ∈ s.calls, c.isOver)
      (run : Stretch T (.call s.calls.length) (s.act T (.make request)) s') : Turn T s s'
  /-- A call that awaited the loops goes on. -/
  | call {s s' : Scene σ} (number : Nat) (run : Stretch T (.call number) s s') : Turn T s s'
  | device {s : Scene σ} (device : σ) : Turn T s (s.act T (.device device))
  | clock {s : Scene σ} (now : Nat) : Turn T s (s.act T (.clock now))
  | command {s : Scene σ} (command : Frame) : Turn T s (s.act T (.command command))
  | callback {s : Scene σ} (callback : Callback) : Turn T s (s.act T (.callback callback))

end Scene

end FieldLink

import FieldLink.Link.Call
import FieldLink.Link.Poller
import FieldLink.Link.Reader
import FieldLink.Link.Writer

/-!
# Taking turns

The loops of a link may take their steps in any order.  `Turns` settles one: a loop runs until it
waits, and the loops that have something to do take turns in the order in which they came to have
it.  The clock stands still while they run; it is moved on from outside, and `Turns.timers` says to
where.  A loop that waits has set alarms, and those that go off together wake the loops in the order
in which they were set.
-/

namespace FieldLink

/-- A loop of one of a link's sessions. -/
structure Place where
  session : Nat
  loop : Loop
  deriving DecidableEq, Repr

namespace Link

variable {σ : Type}

/-- One step of a loop. -/
def step (T : Transport σ) (p : Place) (l : Link σ) : Link σ :=
  match l.sessions[p.session]? with
  | none => l
  | some s =>
    match p.loop with
    | .reader => l.readerStep T p.session s
    | .writer => l.writerStep T p.session s
    | .poller => l.pollerStep p.session s

/-- Whether a loop has nothing to do but to wait. -/
def waits (T : Transport σ) (l : Link σ) (p : Place) : Bool :=
  match l.sessions[p.session]? with
  | none => true
  | some s =>
    match p.loop with
    | .reader => l.readerWaits T s
    | .writer => l.writerWaits p.session s
    | .poller => l.pollerWaits s

/-- The alarms that a loop waits for. -/
def alarms (l : Link σ) (p : Place) : List Alarm :=
  match l.sessions[p.session]? with
  | none => []
  | some s =>
    match p.loop with
    | .reader => []
    | .writer => writerAlarms s
    | .poller => pollerAlarms s

end Link

/-- A link whose loops take turns. -/
structure Turns (σ : Type) where
  link : Link σ
  /-- The loops that have something to do.  It is the turn of the first. -/
  ready : List Place := []
  /-- The loops that wait, in the order in which they came to do so. -/
  parked : List Place := []
  /-- The alarms that are set and have not gone off, in the order in which they were set. -/
  alarms : List (Place × Alarm) := []
  /-- The call that was made last. -/
  call : Option Call := none

namespace Turns

variable {σ : Type}

/-- Lines the loops up that no longer wait: those that an alarm has called, in the order of the
calls, and then the others. -/
def wake (T : Transport σ) (called : List Place) (t : Turns σ) : Turns σ :=
  let (parked, awake) := t.parked.partition (t.link.waits T)
  let first := called.eraseDups.filter awake.contains
  { t with ready := t.ready ++ first ++ awake.filter (!first.contains ·), parked }

/-- Changes the link from outside. -/
def change (T : Transport σ) (f : Link σ → Link σ) (t : Turns σ) : Turns σ :=
  { t with link := f t.link }.wake T []

/-- Lets a loop wait.  The alarms that it still waits for stay set, and so do those that last; then
it sets those that are not set yet. -/
def park (p : Place) (t : Turns σ) : Turns σ :=
  let wanted := t.link.alarms p
  let kept := t.alarms.filter fun (q, a) => q ≠ p || a.lasting || wanted.contains a
  let added := (wanted.map (p, ·)).filter (!kept.contains ·)
  { t with parked := t.parked ++ [p], alarms := kept ++ added }

/-- Lets the loop whose turn it is take a step, or passes the turn on if it waits. -/
def turn (T : Transport σ) (t : Turns σ) : Turns σ :=
  match t.ready with
  | [] => t
  | p :: ready =>
    if t.link.waits T p then { t with ready }.park p
    else t.change T (Link.step T p)

/-- Lets all loops run until they wait, for up to `limit` turns. -/
def run (T : Transport σ) : Nat → Turns σ → Turns σ
  | 0, t => t
  | limit + 1, t => if t.ready.isEmpty then t else run T limit (t.turn T)

/-- The loops of a session. -/
def loopsOf (id : Nat) : List Place := [⟨id, .reader⟩, ⟨id, .writer⟩, ⟨id, .poller⟩]

/-- Takes the call on until it waits or has returned.  If it has begun a session, the loops of that
session line up. -/
def proceed (T : Transport σ) (t : Turns σ) : Turns σ :=
  match t.call with
  | none => t
  | some call =>
    let (call, link) := call.run T Call.stepLimit t.link
    let begun := (List.range link.sessions.length).drop t.link.sessions.length
    { t with link, call := some call, ready := t.ready ++ begun.flatMap loopsOf }.wake T []

/-- Makes a call. -/
def begin (T : Transport σ) (call : Call) (t : Turns σ) : Turns σ :=
  { t with call := some call }.proceed T

/-- What the last call has returned. -/
def result? (t : Turns σ) : Option (Except LinkError Unit) := t.call >>= Call.result?

/-- Whether a call is still waiting. -/
def isCalled (t : Turns σ) : Bool := t.call.any (·.waits t.link)

/-- The times at which alarms go off. -/
def timers (t : Turns σ) : List Nat := t.alarms.map fun (_, a) => Timer.due a.time

/-- Moves the clock on.  The alarms go off that are due by then. -/
def moveTo (T : Transport σ) (now : Nat) (t : Turns σ) : Turns σ :=
  let (due, alarms) := t.alarms.partition fun (_, a) => Timer.hasFired a.time now
  let called := due.map fun (place, _) => place
  { t with link := { t.link with now }, alarms }.wake T called

end Turns

end FieldLink

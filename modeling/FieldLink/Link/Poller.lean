import FieldLink.Link.Basic
import FieldLink.Timer

/-!
# The poller

At a fixed interval the poller offers the poll commands to the writer, in the order in which they
were added.  A command is left out while an exchange of the application is outstanding, or when the
queue is full; the poller does not wait for responses.  After the last command it lets the exchange
finish and reports the cycle.  It ends when it is cancelled, or when the link takes no frames.
-/

namespace FieldLink

namespace Link

variable {σ : Type}

/-- Takes the poller of a session to a phase. -/
def pollerTo (id : Nat) (phase : PollerPhase) (l : Link σ) : Link σ :=
  l.update id fun s => { s with poller := phase }

/-- Whether cycles can be set at an interval, the first of them from now: there is some time between
two of them, and the clock can count to the first. -/
def canPollEvery (interval now : Nat) : Bool := 0 < interval && Timer.canCount (now + interval)

/-- One step of the poller of the session `id`. -/
def pollerStep (id : Nat) (s : Session) (l : Link σ) : Link σ :=
  let interval := l.options.pollInterval.nanoseconds
  match s.poller with
  | .unborn | .gone | .broken => l
  | .begin => l.pollerTo id (if canPollEvery interval l.now then .wait (l.now + interval) else .broken)
  | .wait next =>
    l.pollerTo id <|
      if s.pollStopped then .leave .count
      else if Timer.hasFired next l.now then .copy (Timer.following next interval l.now)
      else .wait next
  | .copy next => l.pollerTo id (.look ⟨next, l.now, l.commands, 0, 0⟩)
  | .look cycle =>
    l.pollerTo id <|
      match cycle.left with
      | [] => .settle cycle (Timer.after l.options.interFrameDelay.nanoseconds l.now)
      | _ :: _ => if s.pollStopped then .leave .count else .ask cycle
  | .ask cycle =>
    l.pollerTo id <|
      if l.sending then .look { cycle with left := cycle.left.tail, skipped := cycle.skipped + 1 }
      else .offer cycle
  | .offer cycle =>
    match cycle.left with
    | [] => l.pollerTo id (.look cycle)
    | command :: left =>
      match l.enqueue command with
      | (.ok (), l) =>
        l.pollerTo id (.look { cycle with left, offered := cycle.offered + 1 })
      | (.error .busy, l) =>
        l.pollerTo id (.look { cycle with left, skipped := cycle.skipped + 1 })
      | (.error _, l) => l.pollerTo id (.leave .count)
  | .settle cycle deadline =>
    l.pollerTo id <|
      if s.pollStopped then .leave .count
      else if Timer.hasFired deadline l.now then .report cycle
      else .settle cycle deadline
  | .report cycle =>
    (l.emit (.polled cycle.offered cycle.skipped (l.now - cycle.started))).pollerTo id
      (.wait cycle.next)
  | .leave phase =>
    let (next, l) := l.leaveStep phase
    l.pollerTo id (next.elim .gone .leave)

/-- Whether the poller has nothing to do but to wait. -/
def pollerWaits (s : Session) (l : Link σ) : Bool :=
  match s.poller with
  | .unborn | .gone | .broken => true
  | .wait t | .settle _ t => !s.pollStopped && !Timer.hasFired t l.now
  | _ => false

/-- The alarms that the poller waits for. -/
def pollerAlarms (s : Session) : List Alarm :=
  match s.poller with
  | .wait t | .settle _ t => [⟨t, false⟩]
  | _ => []

end Link

end FieldLink

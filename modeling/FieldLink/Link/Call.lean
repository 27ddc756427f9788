import FieldLink.Link.Basic

/-!
# Calls on a link

What the application asks of a link: to start, to send a frame, to stop polling, to close, and to be
given up.  A call is a program of small steps as the loops are, so that several calls and loops may
take theirs in any order.  A start holds on to the current session from its first step to its last,
and the others wait for it where they need that session; a close waits besides until the loops of
the session it took have ended.
-/

namespace FieldLink

/-- The step that a start takes next. -/
inductive StartPhase where
  /-- Gets hold of the current session. -/
  | enter
  /-- Looks whether the link is closed and its options are valid, and takes it to opening. -/
  | check
  /-- Forgets the session before. -/
  | discard
  /-- Opens the transport. -/
  | openUp
  /-- Takes the link back to closed, as the transport was not opened. -/
  | refuse (refusal : LinkError)
  /-- Makes the queue of the new session. -/
  | makeQueue (id : Nat)
  /-- Notes that the session has not failed. -/
  | forgetFailure (id : Nat)
  /-- Marks no exchange as outstanding. -/
  | clear (id : Nat)
  /-- Counts the loops that are to run. -/
  | count (id : Nat)
  /-- Lets the session accept frames. -/
  | plug (id : Nat)
  /-- Takes the link to open. -/
  | accept (id : Nat)
  /-- Begins a loop. -/
  | launch (loop : Loop) (id : Nat)
  /-- Makes the session the current one. -/
  | store (id : Nat)
  /-- Reports that the link is open. -/
  | report
  /-- Lets the current session go. -/
  | leave (result : Except LinkError Unit)
  | done (result : Except LinkError Unit)
  /-- The start broke off, as there is no queue with so much room. -/
  | broken

/-- The step that a close takes next. -/
inductive ClosePhase where
  /-- Ends the poller. -/
  | stopPolling
  /-- Takes the current session. -/
  | take
  /-- Takes the link from open to closing. -/
  | mark (id : Nat)
  /-- Stops accepting frames. -/
  | unplug (id : Nat)
  /-- Cancels the loops. -/
  | cancel (id : Nat)
  /-- Waits until the loops have ended. -/
  | join (id : Nat)
  /-- Looks whether the session has failed. -/
  | judge (result : Except LinkError Unit)
  /-- Takes the link to closed. -/
  | finish (result : Except LinkError Unit) (fatal : Bool)
  /-- Marks no exchange as outstanding.  The link was not closed before if it `changed`. -/
  | clear (result : Except LinkError Unit) (fatal changed : Bool)
  /-- Reports that the link is closed. -/
  | report (result : Except LinkError Unit) (fatal : Bool)
  | done (result : Except LinkError Unit)

/-- A call on a link and where it stands. -/
inductive Call where
  | start (phase : StartPhase)
  | send (frame : Frame) (phase : SendPhase)
  | stopPolling (returned : Bool)
  | close (phase : ClosePhase)

namespace Link

variable {σ : Type}

/-! ## Starting -/

/-- The room of the largest queue. -/
def maxQueueCapacity : Nat := UInt64.size / 8 - 1

/-- Begins a loop of a session. -/
def launch (loop : Loop) (id : Nat) (l : Link σ) : Link σ :=
  l.update id fun s =>
    match loop with
    | .reader => { s with reader := .look }
    | .writer => { s with writer := .look }
    | .poller => { s with poller := .begin }

/-- The step after a loop has begun. -/
def afterLaunch (id : Nat) (l : Link σ) : Loop → StartPhase
  | .reader => .launch .writer id
  | .writer => if l.options.poll then .launch .poller id else .store id
  | .poller => .store id

/-- One step of a start. -/
def startStep (T : Transport σ) : StartPhase → Link σ → StartPhase × Link σ
  | .enter, l => if l.locked then (.enter, l) else (.check, { l with locked := true })
  | .check, l =>
    if l.state ≠ .closed then (.leave (.error .alreadyStarted), l)
    else
      match l.options.validate with
      | .error e => (.leave (.error e), l)
      | .ok () => (.discard, { l with state := .opening })
  | .discard, l => (.openUp, { l with current := none })
  | .openUp, l =>
    match T.openWith l.options l.device with
    | .error e => (.refuse e, l)
    | .ok device => (.makeQueue l.sessions.length, { l with device })
  | .refuse e, l => (.leave (.error e), { l with state := .closed })
  | .makeQueue id, l =>
    if maxQueueCapacity < l.options.queueCapacity.toNat then
      (.broken, { l with device := T.release l.device, locked := false })
    else (.forgetFailure id, { l with sessions := l.sessions ++ [{ }] })
  | .forgetFailure id, l => (.clear id, { l with failed := false })
  | .clear id, l => (.count id, l.clearSending)
  | .count id, l => (.plug id, { l with liveLoops := if l.options.poll then 3 else 2 })
  | .plug id, l => (.accept id, { l with outbox := some id })
  | .accept id, l => (.launch .reader id, { l with state := .opened })
  | .launch loop id, l => (l.afterLaunch id loop, l.launch loop id)
  | .store id, l => (.report, { l with current := some id })
  | .report, l => (.leave (.ok ()), l.emit .opened)
  | .leave result, l => (.done result, { l with locked := false })
  | .done result, l => (.done result, l)
  | .broken, l => (.broken, l)

/-! ## Closing -/

/-- Cancels the poller of the current session. -/
def cancelPolling (l : Link σ) : Link σ :=
  match l.current with
  | none => l
  | some id => l.update id fun s => { s with pollCancelled := true }

/-- What a close returns when the writing has ended as said. -/
def closeResult : Option Failure → Except LinkError Unit
  | none => .ok ()
  | some _ => .error .io

/-- One step of a close. -/
def closeStep : ClosePhase → Link σ → ClosePhase × Link σ
  | .stopPolling, l => if l.locked then (.stopPolling, l) else (.take, l.cancelPolling)
  | .take, l =>
    if l.locked then (.take, l)
    else
      match l.current with
      | none => (.done (.ok ()), l)
      | some id => (.mark id, { l with current := none })
  | .mark id, l =>
    (.unplug id, if l.state = .opened then { l with state := .closing } else l)
  | .unplug id, l => (.cancel id, { l with outbox := none })
  | .cancel id, l => (.join id, l.update id fun s => { s with cancelled := true })
  | .join id, l =>
    match l.sessions[id]? >>= Session.outcome? with
    | none => (.join id, l)
    | some outcome => (.judge (closeResult outcome), l)
  | .judge result, l => (.finish result l.failed, l)
  | .finish result fatal, l =>
    (.clear result fatal (l.state ≠ .closed), { l with state := .closed })
  | .clear result fatal changed, l =>
    (if changed then .report result fatal else .done result, l.clearSending)
  | .report result fatal, l => (.done result, l.emit (.closed fatal))
  | .done result, l => (.done result, l)

/-- Gives the link up while no call is in progress.  The loops are cancelled, and nobody waits for
them. -/
def abandon (l : Link σ) : Link σ :=
  match l.current with
  | none => l
  | some id => { l with current := none }.update id fun s => { s with cancelled := true }

end Link

namespace Call

variable {σ : Type}

/-- One step of a call. -/
def step (T : Transport σ) : Call → Link σ → Call × Link σ
  | start phase, l => let (phase, l) := l.startStep T phase; (start phase, l)
  | send frame phase, l => let (phase, l) := l.sendStep frame phase; (send frame phase, l)
  | stopPolling true, l => (stopPolling true, l)
  | stopPolling false, l =>
    if l.locked then (stopPolling false, l) else (stopPolling true, l.cancelPolling)
  | close phase, l => let (phase, l) := l.closeStep phase; (close phase, l)

/-- Whether a call cannot go on for now. -/
def waits (l : Link σ) : Call → Bool
  | start .enter | stopPolling false | close .stopPolling | close .take => l.locked
  | close (.join id) => (l.sessions[id]? >>= Session.outcome?).isNone
  | _ => false

/-- What a call has returned. -/
def result? : Call → Option (Except LinkError Unit)
  | start (.done result) | send _ (.done result) | close (.done result) => some result
  | stopPolling true => some (.ok ())
  | _ => none

/-- Takes up to `limit` steps of a call, until it waits or has returned. -/
def run (T : Transport σ) : Nat → Call → Link σ → Call × Link σ
  | 0, c, l => (c, l)
  | limit + 1, c, l =>
    if c.result?.isSome || c.waits l then (c, l)
    else
      let (c, l) := c.step T l
      run T limit c l

/-- No call takes more steps than this. -/
def stepLimit : Nat := 32

end Call

end FieldLink

import FieldLink.Bytes
import FieldLink.Options.Basic
import FieldLink.Transport.Failure

/-!
# Transports

A link runs on anything that bytes can be read from and written to.  A `Transport` says how such a
thing with the state `σ` answers each call at a given time, in nanoseconds; what it does of its own
accord between two calls is a change of that state.  A call may have no answer yet.  A read is made
again as soon as it has one; any other call at the time that the transport names, if it names one,
and in any case when whoever made it waits no longer.
-/

namespace FieldLink

/-- What a transport answers to a call. -/
inductive Answer (α : Type) where
  /-- There is no answer yet.  There may be one at the time `resume`. -/
  | waiting (resume : Option Nat)
  | done (a : α)
  | failed (failure : Failure)
  deriving DecidableEq, Repr

/-- Whether there is no answer yet. -/
def Answer.isWaiting {α : Type} : Answer α → Bool
  | waiting _ => true
  | done _ | failed _ => false

/-- How something with the state `σ` is opened, read, written and closed. -/
structure Transport (σ : Type) where
  /-- Opens the transport that the options describe. -/
  openWith : LinkOptions → σ → Except LinkError σ
  /-- Reads as many bytes as there are, up to the given count.  None at all mean that no more will
  come. -/
  read : Nat → (now : Nat) → σ → Answer Frame × σ
  /-- Writes a frame, and says how many of its bytes were taken. -/
  write : Frame → (now : Nat) → σ → Answer Nat × σ
  /-- Waits until what was written is on the wire. -/
  flush : (now : Nat) → σ → Answer Unit × σ
  /-- Ends the writing. -/
  shutdown : (now : Nat) → σ → Answer Unit × σ
  /-- Gives the transport up, when nobody reads or writes any more. -/
  release : σ → σ
  /-- How bad a failure is. -/
  classify : σ → Failure → Fault

end FieldLink

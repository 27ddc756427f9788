/-!
# Failures of a transport

What a read, a write or the closing of a transport fails with, and how bad it is: a `Fault` is fatal
when the device is gone, and transient when only this attempt failed.
-/

namespace FieldLink

/-- The kinds of failure that are told apart. -/
inductive FailureKind where
  | notFound
  | brokenPipe
  | connectionReset
  | connectionAborted
  | notConnected
  | invalidData
  | writeZero
  | timedOut
  /-- Any further kind. -/
  | other
  deriving DecidableEq, Repr

/-- A failed call: of a kind, with words of its own, or with a number of the operating system. -/
inductive Failure where
  | ofKind (kind : FailureKind) (text : String)
  | ofCode (code : Int)
  deriving DecidableEq, Repr

namespace Failure

/-- The number with which the system reports a device that is no longer configured, as when its
adapter is pulled out. -/
def notConfigured : Int := 6

/-- The kind of a failure.  A few numbers of the system have a kind of their own. -/
def kind : Failure → FailureKind
  | ofKind k _ => k
  | ofCode 2 => .notFound
  | ofCode 32 => .brokenPipe
  | ofCode 103 => .connectionAborted
  | ofCode 104 => .connectionReset
  | ofCode 107 => .notConnected
  | ofCode _ => .other

end Failure

/-- How bad a failed read or write is. -/
inductive Fault where
  /-- The device is gone.  The transport is closed. -/
  | fatal
  /-- Only this attempt failed. -/
  | transient
  deriving DecidableEq, Repr

/-- Whether a failure of this kind means that the device is gone. -/
def FailureKind.fault : FailureKind → Fault
  | .notFound | .brokenPipe | .connectionReset | .connectionAborted | .notConnected => .fatal
  | .invalidData | .writeZero | .timedOut | .other => .transient

/-- How bad a failure is, unless the transport knows better. -/
def Failure.fault (failure : Failure) : Fault :=
  if failure = .ofCode notConfigured then .fatal else failure.kind.fault

end FieldLink

/-!
# Errors of links

Why an operation on values, options, links or the registry is refused, and the sentence that says
so to a person (`LinkError.message`).
-/

namespace FieldLink

/-- The ways in which an operation of the library is refused. -/
inductive LinkError where
  /-- Framing parameters that cannot describe a serial character. -/
  | invalidParameters (problem : String)
  /-- A derived time is too long to be held. -/
  | timeoutOverflow
  /-- Options or a settings file that do not describe links which may run. -/
  | badConfig (problem : String)
  /-- The transport at `address` could not be opened. -/
  | connection (address problem : String)
  /-- A link that is not closed was started. -/
  | alreadyStarted
  /-- The link does not take frames: it was never opened, was closed, or has failed. -/
  | notOpen
  /-- The write queue is full. -/
  | busy
  /-- No write of a frame succeeded within its budget of attempts. -/
  | retryExhausted (attempts : Nat)
  /-- No value type has this name, or the type has no registers. -/
  | unsupportedType (name : String)
  /-- A text does not hold a number. -/
  | notNumeric (text : String)
  /-- A byte order does not name each byte once. -/
  | invalidByteOrder (problem : String)
  /-- The address has a link already. -/
  | alreadyRegistered (address : String)
  /-- Reading a file or closing a transport failed. -/
  | io
  deriving DecidableEq, Repr

namespace LinkError

/-- The sentence that tells a person what was refused. -/
def message : LinkError → String
  | invalidParameters problem => "Invalid parameters: " ++ problem
  | timeoutOverflow => "Timeout value exceeds maximum"
  | badConfig problem => "Bad configuration: " ++ problem
  | connection address problem => "Could not open `" ++ address ++ "`, problem: " ++ problem
  | alreadyStarted => "The link is already started"
  | notOpen => "The link is not open"
  | busy => "The write queue is full"
  | retryExhausted attempts => "Failed to send data after " ++ toString attempts ++ " attempt(s)"
  | unsupportedType name => "Unsupported value type: `" ++ name ++ "`"
  | notNumeric text => "The value `" ++ text ++ "` is not numeric"
  | invalidByteOrder problem => "Invalid byte order: " ++ problem
  | alreadyRegistered address => "A link for `" ++ address ++ "` is already registered"
  | io => "Underlying IO problem"

/-- What is wrong with the configuration, when that is the refusal. -/
def configProblem? : LinkError → Option String
  | badConfig problem => some problem
  | _ => none

end LinkError

end FieldLink

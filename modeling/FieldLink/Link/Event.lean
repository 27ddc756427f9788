import FieldLink.Bytes

/-!
# Events of a link

What a link reports to those who watch it, and the line of text for each event.
-/

namespace FieldLink

/-- What happens on a link. -/
inductive LinkEvent where
  /-- The transport was opened and the loops run. -/
  | opened
  /-- A frame was put on the wire. -/
  | sent (frame : Frame)
  /-- A chunk came from the wire. -/
  | received (chunk : Frame)
  /-- A frame was given up after as many writes as are allowed. -/
  | dropped (frame : Frame) (attempts : Nat)
  /-- The poll commands were gone through once, which took `elapsed` nanoseconds. -/
  | polled (offered skipped elapsed : Nat)
  /-- All loops have ended and the transport is released. -/
  | closed (fatal : Bool)
  deriving DecidableEq, Repr

namespace LinkEvent

/-- What happened, in words. -/
def description : LinkEvent → String
  | opened => "opened"
  | sent frame => "sent " ++ frame.hexText
  | received chunk => "received " ++ chunk.hexText
  | dropped frame attempts =>
    "dropped " ++ frame.hexText ++ " after " ++ toString attempts ++ " attempt(s)"
  | polled offered skipped elapsed =>
    "polled " ++ toString offered ++ " command(s), skipped " ++ toString skipped ++ " in " ++
      toString (elapsed / 1_000_000) ++ "ms"
  | closed fatal => "closed (fatal: " ++ (if fatal then "true" else "false") ++ ")"

/-- The line for an event on the link with the given address. -/
def text (address : String) (event : LinkEvent) : String := address ++ ": " ++ event.description

end LinkEvent

end FieldLink

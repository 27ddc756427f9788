/-!
# Timers

Times are counted in nanoseconds from a common start.  A timer goes off at the first whole
millisecond that is not before the time it is set for (`Timer.due`).  `Timer.after` is the time for
which a wait sets its timer, and `Timer.following` says when a timer that goes off again and again
is to go off next.
-/

namespace FieldLink

/-- What wakes a loop at some time. -/
structure Alarm where
  time : Nat
  /-- Whether it stays set when the loop no longer waits for it. -/
  lasting : Bool
  deriving DecidableEq, Repr

namespace Timer

/-- The nanoseconds between two times at which timers go off. -/
def resolution : Nat := 1_000_000

/-- When a timer that is set for `t` goes off. -/
def due (t : Nat) : Nat := (t + (resolution - 1)) / resolution * resolution

/-- Whether a timer that is set for `t` has gone off by now. -/
def hasFired (t now : Nat) : Bool := due t ≤ now

/-- The seconds that the clock can count.  It counts them in 63 bits, and may have been running for a
day when times began to be counted. -/
def maxSeconds : Nat := UInt64.size / 2 - 86_400

/-- Whether the clock can count to a time. -/
def canCount (t : Nat) : Bool := t < maxSeconds * 1_000_000_000

/-- How long is waited instead of a time that the clock cannot count: thirty years. -/
def longest : Nat := 30 * 365 * 86_400 * 1_000_000_000

/-- The time at which a wait that begins now is over. -/
def after (wait now : Nat) : Nat :=
  if canCount (now + wait) then now + wait else now + longest

/-- How late a repeated timer may be without losing its rhythm. -/
def tolerance : Nat := 5_000_000

/-- When a timer that was set for `t` goes off again: a period after `t`, or, if that time was
missed by far, a period after now. -/
def following (t period now : Nat) : Nat :=
  if t + tolerance < now then now + period else t + period

theorem le_due (t : Nat) : t ≤ due t := by
  simp only [due, resolution]
  omega

theorem due_lt (t : Nat) : due t < t + resolution := by
  simp only [due, resolution]
  omega

theorem le_after (wait now : Nat) : now ≤ after wait now := by
  unfold after
  split <;> omega

theorem after_of_canCount {wait now : Nat} (h : canCount (now + wait) = true) :
    after wait now = now + wait := if_pos h

end Timer

end FieldLink

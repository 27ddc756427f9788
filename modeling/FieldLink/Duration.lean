/-!
# Durations

A duration is a count of nanoseconds that fits into 64 bits of seconds and a fraction of a second.
-/

namespace FieldLink

/-- A span of time. -/
structure Duration where
  nanoseconds : Nat
  nanoseconds_lt : nanoseconds < UInt64.size * 1_000_000_000 := by decide
  deriving DecidableEq

namespace Duration

/-- No time at all. -/
def zero : Duration := ⟨0, by decide⟩

/-- A duration of whole milliseconds. -/
def ofMilliseconds (ms : UInt64) : Duration :=
  ⟨ms.toNat * 1_000_000, by have := ms.toNat_lt; unfold UInt64.size; omega⟩

/-- A duration of nanoseconds, if their count fits into 64 bits. -/
def ofNanoseconds? (n : Nat) : Option Duration :=
  if h : n < UInt64.size then some ⟨n, by unfold UInt64.size at h ⊢; omega⟩ else none

/-- The duration of seconds and nanoseconds, if the seconds that the nanoseconds make up still
fit. -/
def ofSeconds? (seconds nanoseconds : Nat) : Option Duration :=
  let n := seconds * 1_000_000_000 + nanoseconds
  if h : n < UInt64.size * 1_000_000_000 then some ⟨n, h⟩ else none

/-- The whole seconds of a duration. -/
def seconds (d : Duration) : Nat := d.nanoseconds / 1_000_000_000

/-- What a duration has beyond its whole seconds, in nanoseconds. -/
def subsecond (d : Duration) : Nat := d.nanoseconds % 1_000_000_000

/-- The whole milliseconds of a duration. -/
def milliseconds (d : Duration) : Nat := d.nanoseconds / 1_000_000

theorem ofSeconds?_seconds (d : Duration) : ofSeconds? d.seconds d.subsecond = some d := by
  have h : d.seconds * 1_000_000_000 + d.subsecond = d.nanoseconds := Nat.div_add_mod' _ _
  simp only [ofSeconds?, h, d.nanoseconds_lt, dite_true]

end Duration

end FieldLink

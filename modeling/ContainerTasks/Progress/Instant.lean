/-! # Instants and durations

Points in time measured from the Unix epoch, and the time between two of them.
Nothing lies before the epoch, and a difference that would be negative is zero.
-/

namespace ContainerTasks.Progress

/-- Nanoseconds in a second. -/
def nanosPerSecond : Nat := 1000000000

/-- A time since the epoch: whole seconds and the nanoseconds beyond them. -/
structure Instant where
  seconds : Nat := 0
  nanos : Nat := 0
deriving DecidableEq, Repr, Inhabited

namespace Instant

/-- The whole time in nanoseconds. -/
def toNanos (instant : Instant) : Nat :=
  instant.seconds * nanosPerSecond + instant.nanos

/-- Milliseconds from `start` to `instant`, rounded down; none if `instant`
comes first. -/
def millisSince (instant start : Instant) : Nat :=
  (instant.toNanos - start.toNanos) / 1000000

end Instant

/-- A number with at least three digits. -/
def threeDigits (n : Nat) : String :=
  (if n < 10 then "00" else if n < 100 then "0" else "") ++ toString n

/-- Milliseconds as seconds with three decimals. -/
def secondsText (millis : Nat) : String :=
  toString (millis / 1000) ++ "." ++ threeDigits (millis % 1000)

end ContainerTasks.Progress

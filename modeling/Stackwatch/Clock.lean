import Stackwatch.Duration

/-!
# The clock

The clock counts from the start of the process and knows when that was.
-/

namespace Stackwatch

structure Clock where
  now : Instant := 0
  /-- Milliseconds from the epoch to the start of the clock. -/
  startedAt : Nat
  deriving DecidableEq, Repr, Inhabited

namespace Clock

/-- Milliseconds since the epoch. -/
def epochMillis (clock : Clock) : Nat := clock.startedAt + Duration.millis clock.now

/-- Seconds since the epoch. -/
def epochSeconds (clock : Clock) : Nat := clock.epochMillis / 1000

/-- Moves the clock on. It never goes back. -/
def moveTo (instant : Instant) (clock : Clock) : Clock :=
  { clock with now := max clock.now instant }

end Clock

end Stackwatch

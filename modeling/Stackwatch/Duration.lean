/-!
# Lengths of time

Durations and instants are whole numbers of nanoseconds; instants count from the start of the
clock. Timers look at the clock once a millisecond.
-/

namespace Stackwatch

/-- A length of time in nanoseconds. -/
abbrev Duration := Nat

/-- Nanoseconds since the clock was started. -/
abbrev Instant := Nat

namespace Duration

def ofMillis (count : Nat) : Duration := count * 1000000

def ofSeconds (count : Nat) : Duration := count * 1000000000

/-- Full milliseconds. -/
def millis (duration : Duration) : Nat := duration / 1000000

/-- Full seconds. -/
def seconds (duration : Duration) : Nat := duration / 1000000000

/-- What is left beyond the full seconds. -/
def subsecond (duration : Duration) : Nat := duration % 1000000000

/-- The first full millisecond at or after an instant; timers go off at full milliseconds only. -/
def ceilMillis (instant : Instant) : Instant := (instant + 999999) / 1000000 * 1000000

/-- The decimal places of `numerator / 10 ^ places`, without zeros at the end. -/
def fractionDigits (numerator places : Nat) : List Char :=
  let digits := Nat.toDigits 10 numerator
  let padded := List.replicate (places - digits.length) '0' ++ digits
  (padded.reverse.dropWhile (· == '0')).reverse

/-- The number `whole + numerator / 10 ^ places`. -/
def decimalText (whole numerator places : Nat) : String :=
  match fractionDigits numerator places with
  | [] => toString whole
  | digits => toString whole ++ "." ++ String.ofList digits

/-- A duration in the largest unit of which it has at least one. -/
def text (duration : Duration) : String :=
  if 1000000000 ≤ duration then
    decimalText (duration / 1000000000) (duration % 1000000000) 9 ++ "s"
  else if 1000000 ≤ duration then
    decimalText (duration / 1000000) (duration % 1000000) 6 ++ "ms"
  else if 1000 ≤ duration then
    decimalText (duration / 1000) (duration % 1000) 3 ++ "µs"
  else
    toString duration ++ "ns"

end Duration

end Stackwatch

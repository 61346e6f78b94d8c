import Stackwatch.Duration

/-!
# Timers

A timer fires once after its delay, if it has one, and from then on once per interval, if it has
one. It waits for each job before it goes on, so the jobs of one timer never overlap. Deadlines that
were missed while a job was running are not made up for in a burst: a tick that comes later than the
tolerance sets the next deadline one interval after itself.

The clock ends at some time. A delay beyond its end is replaced by a very long one, while an
interval beyond its end breaks the timer at the time when the first deadline would be set.
-/

namespace Stackwatch

/-- What a timer is waiting for. -/
inductive Timer.Phase where
  /-- The end of the delay. -/
  | delayed (wake : Instant)
  /-- The next deadline. -/
  | ticking (deadline : Instant)
  /-- The end of the job under way; after it comes the next deadline, if there is one. -/
  | busy (next : Option Instant)
  | finished
  deriving DecidableEq, Repr, Inhabited

structure Timer where
  interval : Duration
  phase : Timer.Phase
  deriving DecidableEq, Repr, Inhabited

namespace Timer

/-- How late a tick may be and still count as being on time. -/
def tolerance : Duration := Duration.ofMillis 5

/-- Whether a time from now lies beyond the end of the clock. -/
def isEndless (duration : Duration) : Bool := Nat.pow 2 63 - 1 ≤ duration.seconds

/-- What a delay without an end is replaced by. -/
def longestDelay : Duration := Duration.ofSeconds (30 * 365 * 86400)

/-- The end of a delay. -/
def wakeAfter (now : Instant) (delay : Duration) : Instant :=
  now + (if isEndless delay then longestDelay else delay)

/-- The deadline one interval from now. -/
def nextInterval (now : Instant) (interval : Duration) : Option Instant :=
  if interval = 0 || isEndless interval then none else some (now + interval)

/-- Waits for a deadline, or for nothing. -/
def await (interval : Duration) : Option Instant → Timer
  | some deadline => { interval := interval, phase := .ticking deadline }
  | none => { interval := interval, phase := .finished }

/-- A timer that is started now. -/
def start (now : Instant) (delay interval : Duration) : Timer :=
  if delay = 0 then await interval (nextInterval now interval)
  else { interval := interval, phase := .delayed (wakeAfter now delay) }

/-- Fires once. -/
def once (now : Instant) (delay : Duration) : Timer := start now delay 0

/-- Fires every interval, for the first time one interval from now. -/
def every (now : Instant) (interval : Duration) : Timer := start now 0 interval

/-- When the timer fires, unless it is stopped or waits for a job. -/
def due? (timer : Timer) : Option Instant :=
  match timer.phase with
  | .delayed wake => some (Duration.ceilMillis wake)
  | .ticking deadline => some (Duration.ceilMillis deadline)
  | .busy _ => none
  | .finished => none

/-- The deadline after one that is met now. -/
def deadlineAfter (now deadline : Instant) (interval : Duration) : Instant :=
  if deadline + tolerance < now then now + interval else deadline + interval

/-- Begins the next job. -/
def fire (now : Instant) (timer : Timer) : Timer :=
  match timer.phase with
  | .delayed _ => { timer with phase := .busy (nextInterval now timer.interval) }
  | .ticking deadline =>
      { timer with phase := .busy (some (deadlineAfter now deadline timer.interval)) }
  | .busy _ => timer
  | .finished => timer

/-- Whether the timer breaks instead of beginning the next job. -/
def breaksNext (timer : Timer) : Bool :=
  match timer.phase with
  | .delayed _ => isEndless timer.interval
  | _ => false

/-- Goes on after the end of a job. -/
def jobEnded (timer : Timer) : Timer :=
  match timer.phase with
  | .busy next => await timer.interval next
  | _ => timer

/-- Fires no more. A job that is under way is left to finish. -/
def stop (timer : Timer) : Timer := { timer with phase := .finished }

def isFinished (timer : Timer) : Bool := timer.phase = .finished

end Timer

end Stackwatch

import Stackwatch.Burst.Window
import Stackwatch.Timer.Basic

/-!
# Schedulers

A scheduler drives one sampler with timers: one for the attempts at a burst, one for the reports,
and one for the end of the burst under way. Stopping a scheduler ends the first two; a burst under
way still ends at its time, and an attempt that was put off is given up when its time comes.

The first two timers are there only while the scheduler is started: a start does nothing if the
scheduler was started before, and a stop takes both away. So a start never meets a timer that is
there already, no timer is ever put in the place of another, and one place for each is enough.
-/

namespace Stackwatch

namespace Scheduler

/-- An attempt at a burst that is put off by its random offset. -/
structure Attempt where
  wake : Instant
  /-- Whether the sampling timer waits for it. -/
  awaited : Bool
  deriving DecidableEq, Repr, Inhabited

end Scheduler

structure Scheduler where
  timing : Timing
  window : Window
  /-- The random offsets of the attempts, in the order in which they are drawn. -/
  offsets : Nat → Duration
  /-- Number of offsets drawn so far. -/
  drawn : Nat := 0
  started : Flag := {}
  /-- Set by a start and taken away by a stop, as is the report timer. -/
  samplingTimer : Option Timer := none
  reportTimer : Option Timer := none
  /-- Ends the burst under way. -/
  spanTimer : Option Timer := none
  attempts : List Scheduler.Attempt := []
  deriving Inhabited

namespace Scheduler

/-- A scheduler that is not started. -/
def create (sampler : Sampler) (timing : Timing) (offsets : Nat → Duration) (now : Instant) :
    Scheduler :=
  { timing := timing, window := { sampler := sampler, openedAt := now }, offsets := offsets }

/-- Opens a new window and starts the timers, unless they were started before. -/
def start (now : Instant) (scheduler : Scheduler) : Scheduler :=
  if scheduler.started.isSet then scheduler
  else
    { scheduler with
      started := { isSet := true }
      window := scheduler.window.renew now
      samplingTimer :=
        if scheduler.timing.reportOnly then none
        else some (Timer.every now scheduler.timing.samplingInterval)
      reportTimer := some (Timer.every now scheduler.timing.reportInterval) }

/-- Stops the timers. -/
def stop (scheduler : Scheduler) : Scheduler :=
  { scheduler with
    started := {}
    samplingTimer := none
    reportTimer := none
    attempts := scheduler.attempts.map fun attempt => { attempt with awaited := false } }

/-- The sampling timer fires: an attempt at a burst is put off by a random offset. -/
def samplingTick (now : Instant) (scheduler : Scheduler) : Scheduler :=
  let offset := scheduler.timing.offset (scheduler.offsets scheduler.drawn)
  { scheduler with
    samplingTimer := scheduler.samplingTimer.map (Timer.fire now)
    drawn := scheduler.drawn + 1
    attempts := scheduler.attempts ++
      [{ wake := Duration.ceilMillis (now + offset), awaited := true }] }

/-- An attempt is over. -/
def attemptEnded (attempt : Attempt) (scheduler : Scheduler) : Scheduler :=
  if attempt.awaited then
    { scheduler with samplingTimer := scheduler.samplingTimer.map Timer.jobEnded }
  else
    scheduler

/-- How an event of a scheduler ends. -/
structure Step where
  scheduler : Scheduler
  flag : Flag
  notices : List Notice := []

/-- The time of an attempt has come. A burst that begins will end after the span duration. -/
def attemptDue (now : Instant) (attempt : Attempt) (flag : Flag) (scheduler : Scheduler) : Step :=
  let scheduler :=
    { scheduler with attempts := scheduler.attempts.erase attempt }.attemptEnded attempt
  if scheduler.started.isSet then
    let burst := scheduler.window.beginBurst scheduler.timing now flag
    let scheduler := { scheduler with window := burst.window }
    match burst.result with
    | .ok true =>
        { scheduler :=
            { scheduler with
              spanTimer := some (Timer.once now scheduler.timing.maxSpanDuration) }
          flag := burst.flag
          notices := burst.notices }
    | .ok false => { scheduler := scheduler, flag := burst.flag, notices := burst.notices }
    | .error crash =>
        { scheduler := scheduler
          flag := burst.flag
          notices := burst.notices ++ [.burstCrashed scheduler.timing.name crash] }
  else
    { scheduler := scheduler, flag := flag }

/-- The time of the burst under way is over. -/
def spanEnds (now : Instant) (flag : Flag) (scheduler : Scheduler) : Step :=
  let burst := scheduler.window.endBurst scheduler.timing now flag
  { scheduler :=
      { scheduler with
        window := burst.window
        spanTimer := scheduler.spanTimer.map fun timer => (timer.fire now).jobEnded }
    flag := burst.flag
    notices := burst.notices ++
      (match burst.result with
        | .ok () => []
        | .error crash => [.burstCrashed scheduler.timing.name crash]) }

/-- The report timer fires. -/
def reportTick (now : Instant) (scheduler : Scheduler) : Scheduler :=
  { scheduler with
    reportTimer := scheduler.reportTimer.map fun timer => (timer.fire now).jobEnded }

end Scheduler

end Stackwatch

import Stackwatch.Watch.Basic

/-!
# The profiler

A profiler is a watch that is enabled and disabled as a whole: the recorder first, then the
schedulers; and the other way round.
-/

namespace Stackwatch

structure Profiler where
  watch : Watch
  enabled : Flag := {}
  deriving Inhabited

namespace Profiler

/-- Why a profiler could not be built or enabled. -/
inductive Error where
  /-- There is nothing that could run its timers. -/
  | noRuntime
  | timing (error : Timing.Error)
  deriving DecidableEq, Repr, Inhabited

def Error.message : Error → String
  | .noRuntime => "the profiler must be enabled from within a tokio runtime"
  | .timing error => error.message

/-- Starts the recorder and the schedulers, unless that was done before. -/
def start (profiler : Profiler) : Profiler :=
  if profiler.enabled.isSet then profiler
  else
    let watch := profiler.watch
    { enabled := { isSet := true }
      watch :=
        { watch with
          recorder := watch.recorder.start watch.clock
          schedulers := watch.schedulers.map (Scheduler.start watch.now) } }

/-- Enables the profiler; only a runtime can run its timers. -/
def enable (insideRuntime : Bool) (profiler : Profiler) : Except Error Unit × Profiler :=
  if insideRuntime then (.ok (), profiler.start) else (.error .noRuntime, profiler)

/-- Stops the schedulers and the recorder. What is recorded waits for a flush. -/
def disable (profiler : Profiler) : Profiler :=
  if profiler.enabled.isSet then
    let watch := profiler.watch
    { enabled := {}
      watch :=
        { watch with
          schedulers := watch.schedulers.map Scheduler.stop
          recorder := watch.recorder.stop } }
  else
    profiler

end Profiler

end Stackwatch

import Stackwatch.Duration
import Stackwatch.Sampler.Basic
import Stackwatch.Text.Quoted

/-!
# Notices

What the profiler has to tell about itself while it runs: profiles that could not be delivered,
samplers that failed, jobs that crashed. None of these ends the run.
-/

namespace Stackwatch

inductive Notice where
  /-- A job of a timer crashed. -/
  | jobCrashed (crash : Crash)
  /-- A batch of `count` profiles is queued again, of which `evicted` had to go. -/
  | sendFailed (error : String) (count evicted : Nat) (backoff : Duration)
  /-- Profiles were dropped because there is no reporter. -/
  | profilesDropped (count : Nat)
  | startFailed (sampler : String) (error : SamplerError)
  | stopFailed (sampler : String) (error : SamplerError)
  | buildFailed (sampler : String) (error : SamplerError)
  /-- A burst could not be begun or ended because the sampler crashed. -/
  | burstCrashed (sampler : String) (crash : Crash)
  | reportCrashed (sampler : String) (crash : Crash)
  deriving DecidableEq, Repr, Inhabited

namespace Notice

inductive Level where
  | warning
  | error
  deriving DecidableEq, Repr, Inhabited

def Level.name : Level → String
  | .warning => "WARN"
  | .error => "ERROR"

def level : Notice → Level
  | .sendFailed .. => .warning
  | .profilesDropped _ => .warning
  | _ => .error

def message : Notice → String
  | .jobCrashed _ => "recovered from panic in timer job"
  | .sendFailed .. => "failed to send profiles, will retry"
  | .profilesDropped _ => "no reporter configured, dropping profiles"
  | .startFailed .. => "failed to start sampler"
  | .stopFailed .. => "failed to stop sampler"
  | .buildFailed .. => "failed to build profile"
  | .burstCrashed .. => "sampling burst task failed"
  | .reportCrashed .. => "report task failed"

/-- How a task that crashed is described. -/
def taskFailure : Crash → String
  | .saying text => "task N panicked with message " ++ Text.quoted text
  | .silent => "task N panicked"

/-- The particulars, by name. -/
def fields : Notice → List (String × String)
  | .jobCrashed crash => [("panic", crash.message)]
  | .sendFailed error count evicted backoff =>
      [("error", error), ("count", toString count), ("evicted", toString evicted),
        ("backoff", Duration.text backoff)]
  | .profilesDropped count => [("count", toString count)]
  | .startFailed sampler error => [("sampler", sampler), ("error", error.message)]
  | .stopFailed sampler error => [("sampler", sampler), ("error", error.message)]
  | .buildFailed sampler error => [("sampler", sampler), ("error", error.message)]
  | .burstCrashed sampler crash => [("sampler", sampler), ("error", taskFailure crash)]
  | .reportCrashed sampler crash => [("sampler", sampler), ("error", taskFailure crash)]

end Notice

end Stackwatch

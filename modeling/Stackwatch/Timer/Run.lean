import Stackwatch.Notice
import Stackwatch.Timer.Basic

/-!
# Timers and their jobs

A run follows one timer and the jobs that it begins along the clock. A job that crashes is over at
that instant, and the crash is told of as long as the timer is there to notice it.
-/

namespace Stackwatch.Timer

/-- What a job does once it has begun. -/
inductive Job where
  /-- Crashes before it waits for anything. -/
  | crashing (crash : Crash)
  /-- Takes its time, and then returns or crashes. -/
  | lasting (length : Duration) (crash? : Option Crash)
  deriving DecidableEq, Repr, Inhabited

namespace Job

def length : Job → Duration
  | .crashing _ => 0
  | .lasting length _ => length

def crash? : Job → Option Crash
  | .crashing crash => some crash
  | .lasting _ crash? => crash?

end Job

/-- What a run tells of its jobs. A job that crashes has no end. -/
inductive Event where
  | began (time : Instant)
  | ended (time : Instant)
  deriving DecidableEq, Repr, Inhabited

/-- A job under way. -/
structure Running where
  endsAt : Instant
  crash? : Option Crash
  /-- Whether the timer still waits for the job. -/
  awaited : Bool
  deriving DecidableEq, Repr, Inhabited

structure Run where
  now : Instant
  timer : Timer
  /-- The jobs in the order in which they are begun. -/
  jobs : Nat → Job
  begun : Nat := 0
  running : Option Running := none
  events : List Event := []
  notices : List Notice := []

namespace Run

/-- When something happens next, unless the timer is stopped before. -/
def due? (run : Run) : Option Instant :=
  match run.running with
  | some job => some job.endsAt
  | none => run.timer.due?.map (max run.now)

def beginJob (now : Instant) (run : Run) : Run :=
  let job := run.jobs run.begun
  { run with
    now := now
    timer := run.timer.fire now
    begun := run.begun + 1
    running := some
      { endsAt := Duration.ceilMillis (now + job.length), crash? := job.crash?, awaited := true }
    events := run.events ++ [.began now] }

def endJob (now : Instant) (job : Running) (run : Run) : Run :=
  let run := { run with now := now, timer := run.timer.jobEnded, running := none }
  match job.crash? with
  | none => { run with events := run.events ++ [.ended now] }
  | some crash =>
      if job.awaited then { run with notices := run.notices ++ [.jobCrashed crash] } else run

/-- Lets happen what is due. -/
def step (now : Instant) (run : Run) : Run :=
  match run.running with
  | some job => run.endJob now job
  | none =>
      if run.timer.breaksNext then { run with now := now, timer := run.timer.stop }
      else run.beginJob now

def advanceWith (target : Instant) : (fuel : Nat) → Run → Run
  | 0, run => run
  | fuel + 1, run =>
      match run.due? with
      | some due =>
          if due ≤ target then advanceWith target fuel (run.step due)
          else { run with now := target }
      | none => { run with now := target }

/-- More than can happen up to an instant: every tick but one moves the deadline on from a point
    that lies at most the tolerance in the past, and every job begins and ends. -/
def patience (target : Instant) (run : Run) : Nat := 2 * (target - run.now + tolerance) + 8

/-- Lets everything happen that is due up to an instant. -/
def advance (target : Instant) (run : Run) : Run := run.advanceWith target (run.patience target)

/-- Stops the timer; the job under way is left to finish. -/
def stop (run : Run) : Run :=
  { run with
    timer := run.timer.stop
    running := run.running.map fun job => { job with awaited := false } }

end Run

end Stackwatch.Timer

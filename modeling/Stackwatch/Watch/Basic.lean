import Stackwatch.Burst.Scheduler
import Stackwatch.Delivery.Recorder

/-!
# The watch

A watch is all that runs by the clock: the schedulers of the samplers, the flag that they share, and
the recorder that they fill. The clock stands still while something can be done, and then moves to
the next instant at which something is due.
-/

namespace Stackwatch

structure Watch where
  clock : Clock
  /-- Set while a sampler is capturing. -/
  active : Flag := {}
  recorder : Recorder
  schedulers : List Scheduler := []
  /-- The name of the observed process. -/
  process : String
  /-- The name by which the process is known elsewhere. -/
  externalProcess : Option String := none
  /-- Number of profiles built so far. -/
  serial : Nat := 0
  notices : List Notice := []
  deriving Inhabited

namespace Watch

def now (watch : Watch) : Instant := watch.clock.now

def tell (notices : List Notice) (watch : Watch) : Watch :=
  { watch with notices := watch.notices ++ notices }

/-- Changes the recorder and takes over what it has to tell. -/
def updateRecorder (change : Recorder → Recorder) (watch : Watch) : Watch :=
  let recorder := change watch.recorder
  { watch with recorder := { recorder with notices := [] } }.tell recorder.notices

def updateScheduler (index : Nat) (change : Scheduler → Scheduler) (watch : Watch) : Watch :=
  { watch with schedulers := watch.schedulers.modify index change }

/-- Lets an event of a scheduler happen. -/
def runScheduler (index : Nat) (event : Flag → Scheduler → Scheduler.Step) (watch : Watch) :
    Watch :=
  match watch.schedulers[index]? with
  | none => watch
  | some scheduler =>
      let step := event watch.active scheduler
      { watch with
        active := step.flag
        schedulers := watch.schedulers.set index step.scheduler }.tell step.notices

/-- Begins a burst by hand; whoever does that has to end it. -/
def beginBurst (index : Nat) (watch : Watch) : Except Crash Bool × Watch :=
  match watch.schedulers[index]? with
  | none => (.ok false, watch)
  | some scheduler =>
      let burst := scheduler.window.beginBurst scheduler.timing watch.now watch.active
      (burst.result,
        { watch with
          active := burst.flag
          schedulers := watch.schedulers.set index
            { scheduler with window := burst.window } }.tell burst.notices)

/-- Ends a burst by hand. -/
def endBurst (index : Nat) (watch : Watch) : Except Crash Unit × Watch :=
  match watch.schedulers[index]? with
  | none => (.ok (), watch)
  | some scheduler =>
      let burst := scheduler.window.endBurst scheduler.timing watch.now watch.active
      (burst.result,
        { watch with
          active := burst.flag
          schedulers := watch.schedulers.set index
            { scheduler with window := burst.window } }.tell burst.notices)

/-- The origin of the next profile. -/
def origin (watch : Watch) : Profile.Origin :=
  { serial := watch.serial, process := watch.process, epochMillis := watch.clock.epochMillis }

/-- Builds and records the profile of a window. -/
def report (index : Nat) (watch : Watch) : Except Crash Unit × Watch :=
  match watch.schedulers[index]? with
  | none => (.ok (), watch)
  | some scheduler =>
      let report := scheduler.window.report scheduler.timing watch.now watch.origin
        watch.externalProcess
      let recorder := match report.profile? with
        | some profile => watch.recorder.record profile.toJson
        | none => watch.recorder
      (report.result,
        { watch with
          recorder := recorder
          serial := watch.serial + 1
          schedulers := watch.schedulers.set index
            { scheduler with window := report.window } }.tell report.notices)

/-- What can happen by itself. -/
inductive Task where
  | sendingEnds
  | flushTick
  | samplingTick (scheduler : Nat)
  | attemptDue (scheduler : Nat) (attempt : Scheduler.Attempt)
  | spanEnds (scheduler : Nat)
  | reportTick (scheduler : Nat)
  deriving DecidableEq, Repr, Inhabited

/-- A task and its time. -/
structure Due where
  time : Instant
  task : Task
  deriving DecidableEq, Repr, Inhabited

def dueOfTimer (task : Task) (timer : Option Timer) : List Due :=
  ((timer.bind Timer.due?).map fun time => { time := time, task := task }).toList

def dueOfRecorder (recorder : Recorder) : List Due :=
  (recorder.sending.map fun sending => { time := sending.endsAt, task := .sendingEnds }).toList ++
    dueOfTimer .flushTick recorder.timer

def dueOfScheduler (index : Nat) (scheduler : Scheduler) : List Due :=
  dueOfTimer (.spanEnds index) scheduler.spanTimer ++
    scheduler.attempts.map (fun attempt =>
      { time := attempt.wake, task := .attemptDue index attempt }) ++
    dueOfTimer (.samplingTick index) scheduler.samplingTimer ++
    dueOfTimer (.reportTick index) scheduler.reportTimer

/-- All that will happen by itself. -/
def agenda (watch : Watch) : List Due :=
  dueOfRecorder watch.recorder ++
    (watch.schedulers.mapIdx fun index scheduler => dueOfScheduler index scheduler).flatten

/-- The earliest of some tasks; of tasks of one instant the first. -/
def earliest? : List Due → Option Due
  | [] => none
  | due :: rest =>
      match earliest? rest with
      | none => some due
      | some other => if other.time < due.time then some other else some due

/-- What happens next. -/
def next? (watch : Watch) : Option Due := earliest? watch.agenda

/-- Lets a task happen now. -/
def perform (task : Task) (watch : Watch) : Watch :=
  match task with
  | .sendingEnds => watch.updateRecorder (Recorder.sendingEnds watch.clock)
  | .flushTick => watch.updateRecorder (Recorder.tick watch.clock)
  | .samplingTick index => watch.updateScheduler index (Scheduler.samplingTick watch.now)
  | .attemptDue index attempt =>
      watch.runScheduler index (Scheduler.attemptDue watch.now attempt)
  | .spanEnds index => watch.runScheduler index (Scheduler.spanEnds watch.now)
  | .reportTick index =>
      let (result, watch) := watch.report index
      let watch := watch.updateScheduler index (Scheduler.reportTick watch.now)
      match result with
      | .ok () => watch
      | .error crash =>
          watch.tell ((watch.schedulers[index]?.map fun scheduler =>
            Notice.reportCrashed scheduler.timing.name crash).toList)

def moveTo (instant : Instant) (watch : Watch) : Watch :=
  { watch with clock := watch.clock.moveTo instant }

/-- Lets everything happen that is due up to an instant, or until a condition is met. -/
def runWith (target : Instant) (enough : Watch → Bool) : (fuel : Nat) → Watch → Watch
  | 0, watch => watch
  | fuel + 1, watch =>
      if enough watch then watch
      else
        match watch.next? with
        | some due =>
            if due.time ≤ target then
              runWith target enough fuel ((watch.moveTo due.time).perform due.task)
            else
              watch.moveTo target
        | none => watch.moveTo target

/-- More than can happen up to an instant. Every tick of a timer but one moves its deadline on from
    a point that lies at most the tolerance in the past. A tick of the flush timer leads to one
    delivery, a tick of a sampling timer to one attempt at a burst and the end of the burst. -/
def patience (target : Instant) (watch : Watch) : Nat :=
  let ticks := target - watch.now + Timer.tolerance + 4
  ticks * (2 + 4 * watch.schedulers.length) + watch.recorder.line.length +
    (watch.schedulers.map fun scheduler => 2 * scheduler.attempts.length + 1).foldr (· + ·) 4

/-- Lets everything happen that is due up to an instant. -/
def advance (target : Instant) (watch : Watch) : Watch :=
  watch.runWith target (fun _ => false) (watch.patience target)

/-- Lets everything happen that can happen now. -/
def settle (watch : Watch) : Watch := watch.advance watch.now

/-- A time by which everybody in line will have been served. -/
def lineServedBy (watch : Watch) : Instant :=
  let begun := match watch.recorder.sending with
    | some sending => max watch.now sending.endsAt
    | none => watch.now
  begun + (watch.recorder.line.length + 1) *
    Duration.ceilMillis watch.recorder.reporter.longestDelay

/-- Flushes the recorder and waits for the end; tells of a crash. -/
def flush (watch : Watch) : Option Crash × Watch :=
  let watch := { watch with recorder := { watch.recorder with waited := none } }.updateRecorder
    (Recorder.flush watch.clock .waiting)
  let deadline := watch.lineServedBy
  let watch := watch.runWith deadline (·.recorder.waited.isSome) (watch.patience deadline)
  (watch.recorder.waited.join, watch)

/-- Flushes the recorder in the background. -/
def flushInBackground (watch : Watch) : Watch :=
  watch.updateRecorder (Recorder.flush watch.clock .background)

/-- Takes a value into the recorder. -/
def record (value : Json) (watch : Watch) : Watch :=
  { watch with recorder := watch.recorder.record value }

end Watch

end Stackwatch

import Stackwatch.Watch.Profiler

/-!
# Settings

What can be chosen about a profiler before it is built, in any order and any number of times. There
is a scheduler for processor time, unless that is turned off, and one for heap memory and for
blocked time if there is an engine for it.
-/

namespace Stackwatch

/-- What a scheduler measures. -/
inductive Source where
  | cpu
  | heap
  | block
  deriving DecidableEq, Repr, Inhabited

namespace Source

/-- The order in which schedulers are set up. -/
def all : List Source := [.cpu, .heap, .block]

/-- The timing that is used if no other is given. -/
def preset : Source → Timing
  | .cpu => .cpu
  | .heap => .allocation
  | .block => .block

def sampler (engine : Engine) (filter : FrameFilter) : Source → Sampler
  | .cpu => .cpu { engine := engine, filter := filter }
  | .heap => .heap { engine := engine, filter := filter }
  | .block => .block { engine := engine, filter := filter }

end Source

/-- Where samples of processor time come from. -/
inductive CpuSource where
  | off
  | builtIn
  | custom (engine : Engine)
  deriving Inhabited

structure Settings where
  reporter : Option Reporter := none
  externalProcess : Option String := none
  /-- Whether frames of the profiler itself are counted. -/
  includeProfilerFrames : Bool := false
  /-- How many profiles may wait to be delivered. -/
  capacity : Nat := 100
  flushInterval : Option Duration := none
  cpu : CpuSource := .builtIn
  heap : Option Engine := none
  block : Option Engine := none
  cpuTiming : Option Timing := none
  allocationTiming : Option Timing := none
  blockTiming : Option Timing := none
  deriving Inhabited

/-- What a profiler finds in the process in which it is built. -/
structure Host where
  clock : Clock
  /-- The name of the process. -/
  process : String
  /-- The engine that is used if no other is given. -/
  builtIn : Engine
  /-- Random offsets of bursts. -/
  offsets : Nat → Duration

namespace Settings

def defaultFlushInterval : Duration := Duration.ofSeconds 5

def filter (settings : Settings) : FrameFilter :=
  { includeProfilerFrames := settings.includeProfilerFrames }

/-- The engine behind a source; without one, the source is not measured. -/
def engine? (builtIn : Engine) (settings : Settings) : Source → Option Engine
  | .cpu =>
      match settings.cpu with
      | .off => none
      | .builtIn => some builtIn
      | .custom engine => some engine
  | .heap => settings.heap
  | .block => settings.block

def timing? (settings : Settings) : Source → Option Timing
  | .cpu => settings.cpuTiming
  | .heap => settings.allocationTiming
  | .block => settings.blockTiming

/-- The samplers that will be there, in their order, with their timings. -/
def samplers (builtIn : Engine) (settings : Settings) : List (Sampler × Timing) :=
  Source.all.filterMap fun source =>
    (settings.engine? builtIn source).map fun engine =>
      (source.sampler engine settings.filter, (settings.timing? source).getD source.preset)

def recorder (settings : Settings) : Recorder :=
  .create (settings.reporter.getD .discarding) settings.capacity
    (settings.flushInterval.getD defaultFlushInterval)

/-- The scheduler of a sampler, unless its timing cannot be used. -/
def schedule (host : Host) (source : Sampler × Timing) : Except Profiler.Error Scheduler := do
  source.2.validate.mapError Profiler.Error.timing
  .ok (.create source.1 source.2 host.offsets host.clock.now)

/-- Builds a profiler that is not enabled; the first timing that cannot be used is the error. -/
def build (host : Host) (settings : Settings) : Except Profiler.Error Profiler := do
  let schedulers ← (settings.samplers host.builtIn).mapM (schedule host)
  .ok
    { watch :=
        { clock := host.clock
          recorder := settings.recorder
          schedulers := schedulers
          process := host.process
          externalProcess := settings.externalProcess } }

/-- A choice that can be made before a profiler is built. -/
inductive Choice where
  | reporter (reporter : Reporter)
  /-- Profiles are those of another process, if it has a name. -/
  | externalProcess (process : Option String)
  | options (includeProfilerFrames : Bool) (capacity : Nat)
  | flushInterval (interval : Duration)
  | engine (source : Source) (engine : Engine)
  | withoutCpu
  | timing (source : Source) (timing : Timing)
  deriving Inhabited

/-- A choice takes the place of an earlier one about the same thing. -/
def choose (settings : Settings) : Choice → Settings
  | .reporter reporter => { settings with reporter := some reporter }
  | .externalProcess process => { settings with externalProcess := process }
  | .options includeProfilerFrames capacity =>
      { settings with includeProfilerFrames := includeProfilerFrames, capacity := capacity }
  | .flushInterval interval => { settings with flushInterval := some interval }
  | .engine .cpu engine => { settings with cpu := .custom engine }
  | .engine .heap engine => { settings with heap := some engine }
  | .engine .block engine => { settings with block := some engine }
  | .withoutCpu => { settings with cpu := .off }
  | .timing .cpu timing => { settings with cpuTiming := some timing }
  | .timing .heap timing => { settings with allocationTiming := some timing }
  | .timing .block timing => { settings with blockTiming := some timing }

/-- The settings after some choices. -/
def ofChoices (choices : List Choice) : Settings := choices.foldl choose {}

end Settings

end Stackwatch

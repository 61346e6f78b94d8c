import Stackwatch.Sampler.Basic

/-!
# Processor time per call path

The engine's profile covers one burst. All bursts of a report window are folded into one call tree,
in milliseconds.
-/

namespace Stackwatch

structure CpuTime where
  engine : Engine
  filter : FrameFilter
  tree : CallTree := .root
  /-- Whether a capture was started and not stopped. -/
  started : Bool := false
  deriving Inhabited

namespace CpuTime

/-- Folds one sample. -/
def foldSample (filter : FrameFilter) (count time : Nat) (tree : CallTree) (sample : Sample) :
    CallTree :=
  filter.fold sample (millisOfNanos (Float.ofInt (sample.value time))) (sample.value count) tree

/-- The tree with all samples of a snapshot. -/
def foldSnapshot (filter : FrameFilter) (tree : CallTree) (snapshot : Snapshot) :
    Except SamplerError CallTree := do
  let count ← snapshot.requireColumn "samples"
  let time ← snapshot.requireColumn "cpu"
  .ok (snapshot.samples.foldl (foldSample filter count time) tree)

def reset (sampler : CpuTime) : CpuTime := { sampler with tree := .root }

def start (sampler : CpuTime) : Outcome SamplerError Unit × CpuTime :=
  let (answer, engine) := sampler.engine.start
  let sampler := { sampler with engine := engine }
  match answer with
  | .returned () => (.returned (), { sampler with started := true })
  | .failed error => (.failed (.engine error), sampler)
  | .crashed crash => (.crashed crash, sampler)

/-- Ends the capture. The sampler counts as stopped whatever becomes of the data. -/
def stop (sampler : CpuTime) : Outcome SamplerError Unit × CpuTime :=
  if sampler.started then
    let (answer, engine) := sampler.engine.takeSnapshot
    let sampler := { sampler with engine := engine, started := false }
    match answer.andThen (foldSnapshot sampler.filter sampler.tree) with
    | .returned tree => (.returned (), { sampler with tree := tree })
    | .failed error => (.failed error, sampler)
    | .crashed crash => (.crashed crash, sampler)
  else
    (.failed .notStarted, sampler)

def build (origin : Profile.Origin) (duration timespan : Duration) (sampler : CpuTime) : Profile :=
  { origin := origin
    category := .cpu
    kind := .cpuUsage
    unit := .millisecond
    roots := sampler.tree.children
    duration := duration
    timespan := timespan }

end CpuTime

end Stackwatch

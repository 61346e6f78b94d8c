import Stackwatch.Sampler.Contention
import Stackwatch.Sampler.CpuTime
import Stackwatch.Sampler.LiveHeap

/-!
# Samplers

The three samplers behind one interface. A scheduler resets a sampler at the start of each report
window, brackets every burst with a start and a stop, and builds a profile at the end of the window.
-/

namespace Stackwatch

inductive Sampler where
  | cpu (sampler : CpuTime)
  | heap (sampler : LiveHeap)
  | block (sampler : Contention)
  deriving Inhabited

namespace Sampler

def engine : Sampler → Engine
  | .cpu sampler => sampler.engine
  | .heap sampler => sampler.engine
  | .block sampler => sampler.engine

def reset : Sampler → Sampler
  | .cpu sampler => .cpu sampler.reset
  | .heap sampler => .heap sampler
  | .block sampler => .block sampler.reset

def start : Sampler → Outcome SamplerError Unit × Sampler
  | .cpu sampler => sampler.start.map id .cpu
  | .heap sampler => (.returned (), .heap sampler)
  | .block sampler => sampler.start.map id .block

def stop : Sampler → Outcome SamplerError Unit × Sampler
  | .cpu sampler => sampler.stop.map id .cpu
  | .heap sampler => (.returned (), .heap sampler)
  | .block sampler => sampler.stop.map id .block

/-- Wraps what was gathered into a profile. -/
def build (origin : Profile.Origin) (duration timespan : Duration) :
    Sampler → Outcome SamplerError Profile × Sampler
  | .cpu sampler => (.returned (sampler.build origin duration timespan), .cpu sampler)
  | .heap sampler => (sampler.build origin duration timespan).map id .heap
  | .block sampler => (.returned (sampler.build origin duration timespan), .block sampler)

end Sampler

end Stackwatch

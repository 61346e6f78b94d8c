import Stackwatch.Sampler.Basic

/-!
# Live heap memory per call path

Heap snapshots are absolute, so nothing is gathered between reports: every report takes a snapshot
of its own.
-/

namespace Stackwatch

structure LiveHeap where
  engine : Engine
  filter : FrameFilter
  deriving Inhabited

namespace LiveHeap

/-- Folds one sample; freed memory does not count. -/
def foldSample (filter : FrameFilter) (space objects : Nat) (tree : CallTree) (sample : Sample) :
    CallTree :=
  if sample.value space = 0 then tree
  else filter.fold sample (Float.ofInt (sample.value space)) (sample.value objects) tree

/-- The tree of a snapshot. -/
def treeOf (filter : FrameFilter) (snapshot : Snapshot) : Except SamplerError CallTree := do
  let space ← snapshot.requireColumn "inuse_space"
  let objects ← snapshot.requireColumn "inuse_objects"
  .ok (snapshot.samples.foldl (foldSample filter space objects) .root)

def build (origin : Profile.Origin) (duration timespan : Duration) (sampler : LiveHeap) :
    Outcome SamplerError Profile × LiveHeap :=
  let (answer, engine) := sampler.engine.takeSnapshot
  let profile := answer.andThen fun snapshot => do
    let tree ← treeOf sampler.filter snapshot
    .ok
      { origin := origin
        category := .memory
        kind := .memoryAllocations
        unit := .byte
        roots := tree.children
        duration := duration
        timespan := timespan }
  (profile, { sampler with engine := engine })

end LiveHeap

end Stackwatch

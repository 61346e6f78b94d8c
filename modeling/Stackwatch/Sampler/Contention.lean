import Stackwatch.Sampler.Basic

/-!
# Blocked time per call path

The engine's block profile counts from the first capture on, so a burst contributes the change of
each stack since the snapshot before. Baselines are kept for the stacks of the latest snapshot that
was folded; a stack that disappears loses its baseline.
-/

namespace Stackwatch

/-- How often a stack was blocked so far, and for how many nanoseconds. -/
structure Reading where
  contentions : Float
  delay : Float
  deriving Inhabited

namespace Reading

/-- The change since an earlier reading of the same stack; a new stack contributes all of it. -/
def since (earlier : Option Reading) (reading : Reading) : Reading :=
  match earlier with
  | none => reading
  | some earlier =>
      { contentions := reading.contentions - earlier.contentions
        delay := reading.delay - earlier.delay }

/-- Whether there is something to count. -/
def counts (change : Reading) : Bool := !(change.contentions ≤ 0.0) && !(change.delay ≤ 0.0)

end Reading

/-- The latest reading of each stack. -/
abbrev Baselines := List (String × Reading)

/-- Sets the reading of a stack. -/
def Baselines.set (stack : String) (reading : Reading) : Baselines → Baselines
  | [] => [(stack, reading)]
  | (other, present) :: rest =>
      if other = stack then (stack, reading) :: rest
      else (other, present) :: Baselines.set stack reading rest

structure Contention where
  engine : Engine
  filter : FrameFilter
  tree : CallTree := .root
  /-- Whether a capture was started and not stopped. -/
  running : Bool := false
  baselines : Baselines := []
  deriving Inhabited

namespace Contention

/-- The rate at which every blocking event is recorded. -/
def fullRate : Int := 1

def leastCount : Int := -Nat.pow 2 63

def greatestCount : Int := Nat.pow 2 63 - 1

def readingOf (contentions delay : Nat) (sample : Sample) : Reading :=
  { contentions := Float.ofInt (sample.value contentions)
    delay := Float.ofInt (sample.value delay) }

/-- Folds what changed since the earlier snapshot in one sample. -/
def foldSample (filter : FrameFilter) (earlier : Baselines) (contentions delay : Nat)
    (tree : CallTree) (sample : Sample) : CallTree :=
  let change := (readingOf contentions delay sample).since (earlier.lookup sample.stackKey)
  if change.counts then
    filter.fold sample (millisOfNanos change.delay)
      ((Decimal.Double.ofFloat change.contentions).truncate leastCount greatestCount) tree
  else
    tree

/-- The readings of a snapshot. -/
def baselinesOf (contentions delay : Nat) (samples : List Sample) : Baselines :=
  samples.foldl (fun baselines sample =>
    Baselines.set sample.stackKey (readingOf contentions delay sample) baselines) []

/-- The tree with the changes of a snapshot, and the new baselines. -/
def foldSnapshot (filter : FrameFilter) (earlier : Baselines) (tree : CallTree)
    (snapshot : Snapshot) : Except SamplerError (CallTree × Baselines) := do
  let contentions ← snapshot.requireColumn "contentions"
  let delay ← snapshot.requireColumn "delay"
  .ok (snapshot.samples.foldl (foldSample filter earlier contentions delay) tree,
    baselinesOf contentions delay snapshot.samples)

def reset (sampler : Contention) : Contention := { sampler with tree := .root }

def start (sampler : Contention) : Outcome SamplerError Unit × Contention :=
  let (answer, engine) := sampler.engine.start
  let sampler := { sampler with engine := engine }
  match answer with
  | .returned () =>
      (.returned (), { sampler with running := true, engine := engine.setRate fullRate })
  | .failed _ => (.failed .blockProfileUnavailable, sampler)
  | .crashed crash => (.crashed crash, sampler)

/-- Ends the capture. The engine's capture is turned off first, even if none was started. -/
def stop (sampler : Contention) : Outcome SamplerError Unit × Contention :=
  let sampler := { sampler with engine := sampler.engine.setRate 0 }
  if sampler.running then
    let (answer, engine) := sampler.engine.takeSnapshot
    let sampler := { sampler with engine := engine, running := false }
    match answer.andThen (foldSnapshot sampler.filter sampler.baselines sampler.tree) with
    | .returned (tree, baselines) =>
        (.returned (), { sampler with tree := tree, baselines := baselines })
    | .failed error => (.failed error, sampler)
    | .crashed crash => (.crashed crash, sampler)
  else
    (.failed .notStarted, sampler)

def build (origin : Profile.Origin) (duration timespan : Duration) (sampler : Contention) :
    Profile :=
  { origin := origin
    category := .time
    kind := .blockingCalls
    unit := .millisecond
    roots := sampler.tree.children
    duration := duration
    timespan := timespan }

end Contention

end Stackwatch

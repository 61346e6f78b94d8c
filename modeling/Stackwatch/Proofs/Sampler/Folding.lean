import Stackwatch.Proofs.CallTree.Aggregation
import Stackwatch.Sampler.Any

/-!
# What a stop folds

The samplers of processor time and of blocked time gather samples in a call tree: a stop that
succeeds folds the samples of the snapshot that it takes, and no other call changes the tree except
a reset. This module names the samples, in the order in which they are folded.
-/

namespace Stackwatch

/-- What becomes of a value that is found on the way. -/
theorem Outcome.andThen_map {ε α β γ : Type} (outcome : Outcome ε α) (next : α → Except ε β)
    (change : β → γ) :
    (outcome.andThen fun value => (next value).map change) =
      match outcome.andThen next with
      | .returned value => .returned (change value)
      | .failed error => .failed error
      | .crashed crash => .crashed crash := by
  cases outcome with
  | returned value =>
      simp only [andThen]
      cases next value <;> rfl
  | failed error => rfl
  | crashed crash => rfl

theorem FrameFilter.foldAll_append (filter : FrameFilter) (first second : List Measured)
    (tree : CallTree) :
    filter.foldAll (first ++ second) tree = filter.foldAll second (filter.foldAll first tree) :=
  List.foldl_append

/-- What a stop folds that ends in some way: nothing unless it succeeds. -/
def foldedBy (pending : List Measured) : Outcome SamplerError Unit → List Measured
  | .returned () => pending
  | _ => []

/-! ### Processor time -/

namespace CpuTime

/-- What one sample measured. -/
def measured (count time : Nat) (sample : Sample) : Measured :=
  { sample := sample
    value := millisOfNanos (Float.ofInt (sample.value time))
    count := sample.value count }

/-- What the samples of a snapshot measured. -/
def measuredIn (snapshot : Snapshot) : Except SamplerError (List Measured) := do
  let count ← snapshot.requireColumn "samples"
  let time ← snapshot.requireColumn "cpu"
  .ok (snapshot.samples.map (measured count time))

theorem foldAll_map (filter : FrameFilter) (count time : Nat) (samples : List Sample)
    (tree : CallTree) :
    filter.foldAll (samples.map (measured count time)) tree =
      samples.foldl (foldSample filter count time) tree := by
  rw [FrameFilter.foldAll, List.foldl_map]
  rfl

theorem foldSnapshot_eq (filter : FrameFilter) (tree : CallTree) :
    foldSnapshot filter tree = fun snapshot =>
      (measuredIn snapshot).map fun all => filter.foldAll all tree := by
  funext snapshot
  unfold foldSnapshot measuredIn
  cases snapshot.requireColumn "samples" with
  | error error => rfl
  | ok count =>
      cases snapshot.requireColumn "cpu" with
      | error error => rfl
      | ok time => exact congrArg Except.ok (foldAll_map filter count time _ tree).symm

/-- What the next stop folds, if it succeeds. -/
def pending (sampler : CpuTime) : List Measured :=
  match sampler.engine.takeSnapshot.1.andThen measuredIn with
  | .returned all => all
  | _ => []

theorem tree_stop (sampler : CpuTime) :
    sampler.stop.2.tree =
      sampler.filter.foldAll (foldedBy sampler.pending sampler.stop.1) sampler.tree := by
  unfold stop
  split
  · dsimp only
    rw [foldSnapshot_eq, Outcome.andThen_map]
    unfold foldedBy pending
    cases sampler.engine.takeSnapshot.1.andThen measuredIn <;> rfl
  · rfl

theorem filter_stop (sampler : CpuTime) : sampler.stop.2.filter = sampler.filter := by
  unfold stop
  split
  · dsimp only
    split <;> rfl
  · rfl

theorem start_keeps (sampler : CpuTime) :
    sampler.start.2.filter = sampler.filter ∧ sampler.start.2.tree = sampler.tree := by
  unfold start
  dsimp only
  split <;> exact ⟨rfl, rfl⟩

end CpuTime

/-! ### Blocked time -/

namespace Contention

/-- What changed in one sample, if there is something to count. -/
def measured? (earlier : Baselines) (contentions delay : Nat) (sample : Sample) :
    Option Measured :=
  let change := (readingOf contentions delay sample).since (earlier.lookup sample.stackKey)
  if change.counts then
    some
      { sample := sample
        value := millisOfNanos change.delay
        count := (Decimal.Double.ofFloat change.contentions).truncate leastCount greatestCount }
  else
    none

/-- What changed in the samples of a snapshot since earlier readings, and the new readings. -/
def measuredIn (earlier : Baselines) (snapshot : Snapshot) :
    Except SamplerError (List Measured × Baselines) := do
  let contentions ← snapshot.requireColumn "contentions"
  let delay ← snapshot.requireColumn "delay"
  .ok (snapshot.samples.filterMap (measured? earlier contentions delay),
    baselinesOf contentions delay snapshot.samples)

theorem foldAll_filterMap (filter : FrameFilter) (earlier : Baselines) (contentions delay : Nat)
    (samples : List Sample) (tree : CallTree) :
    filter.foldAll (samples.filterMap (measured? earlier contentions delay)) tree =
      samples.foldl (foldSample filter earlier contentions delay) tree := by
  induction samples generalizing tree with
  | nil => rfl
  | cons sample rest inductionHypothesis =>
      rw [List.foldl_cons, ← inductionHypothesis, List.filterMap_cons]
      unfold measured? foldSample
      cases counts : ((readingOf contentions delay sample).since
          (earlier.lookup sample.stackKey)).counts with
      | false => simp [counts]
      | true => simp [counts, FrameFilter.foldAll_cons]

theorem foldSnapshot_eq (filter : FrameFilter) (earlier : Baselines) (tree : CallTree) :
    foldSnapshot filter earlier tree = fun snapshot =>
      (measuredIn earlier snapshot).map fun found => (filter.foldAll found.1 tree, found.2) := by
  funext snapshot
  unfold foldSnapshot measuredIn
  cases snapshot.requireColumn "contentions" with
  | error error => rfl
  | ok contentions =>
      cases snapshot.requireColumn "delay" with
      | error error => rfl
      | ok delay =>
          simp only [bind, Except.bind, Except.map, foldAll_filterMap]

/-- What the next stop folds, if it succeeds. -/
def pending (sampler : Contention) : List Measured :=
  match sampler.engine.takeSnapshot.1.andThen (measuredIn sampler.baselines) with
  | .returned (all, _) => all
  | _ => []

theorem takeSnapshot_setRate (engine : Engine) (rate : Int) :
    (engine.setRate rate).takeSnapshot.1 = engine.takeSnapshot.1 := rfl

theorem tree_stop (sampler : Contention) :
    sampler.stop.2.tree =
      sampler.filter.foldAll (foldedBy sampler.pending sampler.stop.1) sampler.tree := by
  unfold stop
  dsimp only
  split
  · rw [foldSnapshot_eq, Outcome.andThen_map, takeSnapshot_setRate]
    unfold foldedBy pending
    cases sampler.engine.takeSnapshot.1.andThen (measuredIn sampler.baselines) <;> rfl
  · rfl

theorem filter_stop (sampler : Contention) : sampler.stop.2.filter = sampler.filter := by
  unfold stop
  dsimp only
  split
  · split <;> rfl
  · rfl

theorem start_keeps (sampler : Contention) :
    sampler.start.2.filter = sampler.filter ∧ sampler.start.2.tree = sampler.tree := by
  unfold start
  dsimp only
  split <;> exact ⟨rfl, rfl⟩

end Contention

/-! ### Samplers that gather -/

namespace Sampler

def filter : Sampler → FrameFilter
  | .cpu sampler => sampler.filter
  | .heap sampler => sampler.filter
  | .block sampler => sampler.filter

/-- The call tree that is gathered between reports. -/
def tree : Sampler → CallTree
  | .cpu sampler => sampler.tree
  | .heap _ => .root
  | .block sampler => sampler.tree

/-- Whether samples are gathered between reports. -/
def gathers : Sampler → Bool
  | .cpu _ => true
  | .heap _ => false
  | .block _ => true

/-- What the next stop folds, if it succeeds. -/
def pending : Sampler → List Measured
  | .cpu sampler => sampler.pending
  | .heap _ => []
  | .block sampler => sampler.pending

/-- A stop adds to the tree what it folds. -/
theorem tree_stop (sampler : Sampler) :
    sampler.stop.2.tree =
      sampler.filter.foldAll (foldedBy sampler.pending sampler.stop.1) sampler.tree := by
  cases sampler with
  | cpu sampler => exact sampler.tree_stop
  | heap sampler => rfl
  | block sampler => exact sampler.tree_stop

/-- What stays as it is in all calls: the filter, and whether samples are gathered. -/
structure Alike (sampler other : Sampler) : Prop where
  filter : other.filter = sampler.filter
  gathers : other.gathers = sampler.gathers

theorem alike_stop (sampler : Sampler) : Alike sampler sampler.stop.2 := by
  cases sampler with
  | cpu sampler => exact ⟨sampler.filter_stop, rfl⟩
  | heap sampler => exact ⟨rfl, rfl⟩
  | block sampler => exact ⟨sampler.filter_stop, rfl⟩

theorem alike_start (sampler : Sampler) : Alike sampler sampler.start.2 := by
  cases sampler with
  | cpu sampler => exact ⟨sampler.start_keeps.1, rfl⟩
  | heap sampler => exact ⟨rfl, rfl⟩
  | block sampler => exact ⟨sampler.start_keeps.1, rfl⟩

theorem tree_start (sampler : Sampler) : sampler.start.2.tree = sampler.tree := by
  cases sampler with
  | cpu sampler => exact sampler.start_keeps.2
  | heap sampler => rfl
  | block sampler => exact sampler.start_keeps.2

theorem alike_reset (sampler : Sampler) : Alike sampler sampler.reset := by
  cases sampler <;> exact ⟨rfl, rfl⟩

theorem tree_reset (sampler : Sampler) : sampler.reset.tree = .root := by
  cases sampler <;> rfl

/-- Building a profile of gathered samples never fails, and changes nothing. -/
theorem exists_build_eq {sampler : Sampler} (gathers : sampler.gathers = true)
    (origin : Profile.Origin) (duration timespan : Duration) :
    ∃ profile, sampler.build origin duration timespan = (.returned profile, sampler) ∧
      profile.roots = sampler.tree.children := by
  cases sampler with
  | cpu sampler => exact ⟨_, rfl, rfl⟩
  | heap sampler => cases gathers
  | block sampler => exact ⟨_, rfl, rfl⟩

/-- How an engine answers does not depend on the calls of its sampler. -/
theorem writeAnswer_start (sampler : Sampler) :
    sampler.start.2.engine.writeAnswer = sampler.engine.writeAnswer := by
  cases sampler with
  | cpu sampler =>
      simp only [start, CpuTime.start, Prod.map]
      split <;> rfl
  | heap sampler => rfl
  | block sampler =>
      simp only [start, Contention.start, Prod.map]
      split <;> rfl

theorem writeAnswer_stop (sampler : Sampler) :
    sampler.stop.2.engine.writeAnswer = sampler.engine.writeAnswer := by
  cases sampler with
  | cpu sampler =>
      simp only [stop, CpuTime.stop, Prod.map]
      split <;> (try split) <;> rfl
  | heap sampler => rfl
  | block sampler =>
      simp only [stop, Contention.stop, Prod.map]
      split <;> (try split) <;> rfl

theorem writeAnswer_reset (sampler : Sampler) :
    sampler.reset.engine.writeAnswer = sampler.engine.writeAnswer := by
  cases sampler <;> rfl

theorem writeAnswer_build (sampler : Sampler) (origin : Profile.Origin)
    (duration timespan : Duration) :
    (sampler.build origin duration timespan).2.engine.writeAnswer =
      sampler.engine.writeAnswer := by
  cases sampler <;> rfl

end Sampler

end Stackwatch

import Mathlib.Data.List.Induction
import Mathlib.Data.List.Nodup
import Stackwatch.Proofs.Decimal.Whole
import Stackwatch.Proofs.Sampler.Folding
import Stackwatch.Proofs.Snapshot.Values

/-!
# What blocked time is measured against

The sampler of blocked time counts changes, and what it counts them from is always the snapshot of
the latest stop that succeeded: neither a reset nor a profile that is built nor a call that fails
takes anything away from that. So a stop that fails loses nothing; the next one that succeeds counts
from where the one before it had ended. The snapshot is found here from the calls alone, by going
through the run, and not from what the sampler keeps.
-/

namespace Stackwatch

/-! ### Runs of a sampler -/

namespace Sampler

/-- A call to a sampler. -/
inductive Operation where
  | start
  | stop
  | reset
  | build (origin : Profile.Origin) (duration timespan : Duration)

/-- The sampler after a call. -/
def apply (sampler : Sampler) : Operation → Sampler
  | .start => sampler.start.2
  | .stop => sampler.stop.2
  | .reset => sampler.reset
  | .build origin duration timespan => (sampler.build origin duration timespan).2

/-- The sampler after some calls, in their order. -/
def run (sampler : Sampler) (operations : List Operation) : Sampler :=
  operations.foldl apply sampler

/-- The snapshot that a call takes and folds: only a stop that succeeds does. -/
def folded? (sampler : Sampler) : Operation → Option Snapshot
  | .stop =>
      match sampler.stop.1, sampler.engine.takeSnapshot.1 with
      | .returned (), .returned snapshot => some snapshot
      | _, _ => none
  | _ => none

/-- The snapshot of the latest stop that succeeded, `earlier` before the first one. -/
def lastFolded (earlier : Option Snapshot) (sampler : Sampler) :
    List Operation → Option Snapshot
  | [] => earlier
  | operation :: rest =>
      lastFolded ((sampler.folded? operation).or earlier) (sampler.apply operation) rest

/-- The readings that changes are counted from. -/
def baselines : Sampler → Baselines
  | .block sampler => sampler.baselines
  | _ => []

end Sampler

/-! ### Readings by stack -/

namespace Baselines

variable (stack other : String) (reading : Reading) (baselines : Baselines)

/-- The stacks of which there is a reading. -/
def tracked (baselines : Baselines) : List String := baselines.map Prod.fst

theorem lookup_cons (first : String × Reading) :
    List.lookup other (first :: baselines) =
      if other = first.1 then some first.2 else baselines.lookup other := by
  obtain ⟨present, kept⟩ := first
  rw [List.lookup_cons]
  cases same : other == present with
  | false => rw [if_neg (beq_eq_false_iff_ne.mp same)]
  | true => rw [if_pos (eq_of_beq same)]

theorem lookup_set :
    (set stack reading baselines).lookup other =
      if other = stack then some reading else baselines.lookup other := by
  induction baselines with
  | nil => rw [set, lookup_cons]
  | cons first rest inductionHypothesis =>
      unfold set
      by_cases here : first.1 = stack
      · rw [if_pos here, lookup_cons, lookup_cons, here]
        split <;> rfl
      · rw [if_neg here, lookup_cons, lookup_cons, inductionHypothesis]
        by_cases same : other = stack
        · have apart : other ≠ first.1 := fun both => here (both.symm.trans same)
          rw [if_pos same, if_neg apart, if_pos same]
        · rw [if_neg same, if_neg same]

theorem mem_tracked_set :
    other ∈ (set stack reading baselines).tracked ↔ other = stack ∨ other ∈ baselines.tracked := by
  induction baselines with
  | nil => simp [set, tracked]
  | cons first rest inductionHypothesis =>
      obtain ⟨present, kept⟩ := first
      unfold set
      by_cases here : present = stack
      · simp [here, tracked]
      · rw [if_neg here]
        simp only [tracked, List.map_cons, List.mem_cons] at inductionHypothesis ⊢
        rw [inductionHypothesis]
        exact or_left_comm

theorem nodup_set (unique : baselines.tracked.Nodup) :
    (set stack reading baselines).tracked.Nodup := by
  induction baselines with
  | nil => exact List.nodup_singleton stack
  | cons first rest inductionHypothesis =>
      obtain ⟨present, kept⟩ := first
      obtain ⟨new, uniqueRest⟩ := List.nodup_cons.mp unique
      unfold set
      by_cases here : present = stack
      · rw [if_pos here]
        exact List.nodup_cons.mpr ⟨here ▸ new, uniqueRest⟩
      · rw [if_neg here]
        refine List.nodup_cons.mpr ⟨fun member => ?_, inductionHypothesis uniqueRest⟩
        rcases (mem_tracked_set stack present reading rest).mp member with same | later
        · exact here same
        · exact new later

end Baselines

namespace Contention

variable (contentions delay : Nat)

/-- The last of some samples that has this stack. -/
def lastWithStack? (stack : String) (samples : List Sample) : Option Sample :=
  (samples.filter (·.stackKey == stack)).getLast?

theorem baselinesOf_append (before : List Sample) (sample : Sample) :
    baselinesOf contentions delay (before ++ [sample]) =
      Baselines.set sample.stackKey (readingOf contentions delay sample)
        (baselinesOf contentions delay before) := by
  simp only [baselinesOf, List.foldl_append, List.foldl_cons, List.foldl_nil]

theorem lookup_baselinesOf (samples : List Sample) (stack : String) :
    (baselinesOf contentions delay samples).lookup stack =
      (lastWithStack? stack samples).map (readingOf contentions delay) := by
  induction samples using List.reverseRecOn with
  | nil => rfl
  | append_singleton before sample inductionHypothesis =>
      rw [baselinesOf_append, Baselines.lookup_set, inductionHypothesis]
      unfold lastWithStack?
      by_cases same : sample.stackKey = stack
      · simp [same]
      · rw [if_neg (Ne.symm same)]
        simp [same]

theorem mem_tracked_baselinesOf (samples : List Sample) (stack : String) :
    stack ∈ (baselinesOf contentions delay samples).tracked ↔
      stack ∈ samples.map Sample.stackKey := by
  induction samples using List.reverseRecOn with
  | nil => exact Iff.rfl
  | append_singleton before sample inductionHypothesis =>
      rw [baselinesOf_append, Baselines.mem_tracked_set, inductionHypothesis, List.map_append,
        List.mem_append, or_comm, List.map_singleton, List.mem_singleton]

theorem nodup_baselinesOf (samples : List Sample) :
    (baselinesOf contentions delay samples).tracked.Nodup := by
  induction samples using List.reverseRecOn with
  | nil => exact List.nodup_nil
  | append_singleton before sample inductionHypothesis =>
      rw [baselinesOf_append]
      exact Baselines.nodup_set _ _ _ inductionHypothesis

end Contention

/-! ### What a snapshot says of a stack -/

namespace Snapshot

/-- The reading of a stack where it occurs last in a snapshot. -/
def lastReading? (snapshot : Snapshot) (stack : String) : Option Reading := do
  let contentions ← snapshot.column? "contentions"
  let delay ← snapshot.column? "delay"
  let sample ← Contention.lastWithStack? stack snapshot.samples
  some
    { contentions := Float.ofInt (sample.value contentions)
      delay := Float.ofInt (sample.value delay) }

theorem exists_of_lastReading? {snapshot : Snapshot} {stack : String} {reading : Reading}
    (found : snapshot.lastReading? stack = some reading) :
    ∃ contentions delay, ∃ sample ∈ snapshot.samples,
      reading = Contention.readingOf contentions delay sample := by
  obtain ⟨contentions, -, found⟩ := Option.bind_eq_some_iff.mp found
  obtain ⟨delay, -, found⟩ := Option.bind_eq_some_iff.mp found
  obtain ⟨sample, last, same⟩ := Option.bind_eq_some_iff.mp found
  exact ⟨contentions, delay, sample, (List.mem_filter.mp (List.mem_of_getLast? last)).1,
    (Option.some.inj same).symm⟩

theorem requireColumn_eq_ok_iff {snapshot : Snapshot} {kind : String} {column : Nat} :
    snapshot.requireColumn kind = .ok column ↔ snapshot.column? kind = some column := by
  unfold requireColumn
  cases snapshot.column? kind <;> simp

/-- All values of all samples are signed numbers. -/
def Fits (snapshot : Snapshot) : Prop :=
  ∀ sample ∈ snapshot.samples, ∀ value ∈ sample.values, Encoded.FitsSigned value

end Snapshot

/-- Whatever an engine writes, the values of the snapshot that is read are signed numbers. -/
theorem Engine.fits_of_takeSnapshot {engine : Engine} {snapshot : Snapshot}
    (taken : engine.takeSnapshot.1 = .returned snapshot) : snapshot.Fits := by
  simp only [takeSnapshot] at taken
  cases written : engine.write.1 with
  | failed error =>
      rw [written] at taken
      cases taken
  | crashed crash =>
      rw [written] at taken
      cases taken
  | returned bytes =>
      simp only [written, Outcome.mapError, Outcome.andThen] at taken
      cases found : Snapshot.read bytes with
      | error error =>
          rw [found] at taken
          cases taken
      | ok read =>
          rw [found] at taken
          cases taken
          exact Snapshot.fitsSigned_of_read found

namespace Contention

/-! ### Changes -/

/-- What changed in a sample since the latest snapshot that was folded: the values of both columns
    less those that its stack had where it occurred last there, or the values themselves if it did
    not occur. -/
def changeSince (last : Option Snapshot) (contentions delay : Nat) (sample : Sample) : Reading :=
  match last.bind fun snapshot => snapshot.lastReading? sample.stackKey with
  | none =>
      { contentions := Float.ofInt (sample.value contentions)
        delay := Float.ofInt (sample.value delay) }
  | some earlier =>
      { contentions := Float.ofInt (sample.value contentions) - earlier.contentions
        delay := Float.ofInt (sample.value delay) - earlier.delay }

theorem since_eq_changeSince (last : Option Snapshot) (contentions delay : Nat) (sample : Sample) :
    (readingOf contentions delay sample).since
        (last.bind fun snapshot => snapshot.lastReading? sample.stackKey) =
      changeSince last contentions delay sample := by
  unfold changeSince
  cases last.bind fun snapshot => snapshot.lastReading? sample.stackKey <;> rfl

/-- What is to be folded of a sample: its change, if contentions and delay both went up. -/
def addition? (last : Option Snapshot) (contentions delay : Nat) (sample : Sample) :
    Option Measured :=
  let change := changeSince last contentions delay sample
  if 0.0 < change.contentions ∧ 0.0 < change.delay then
    some
      { sample := sample
        value := change.delay / 1000000.0
        count := (Decimal.Double.ofFloat change.contentions).truncate leastCount greatestCount }
  else
    none

/-- What is a number counts exactly if it is positive. -/
theorem counts_iff {change : Reading} (contentions : change.contentions.isNaN = false)
    (delay : change.delay.isNaN = false) :
    change.counts = true ↔ 0.0 < change.contentions ∧ 0.0 < change.delay := by
  rw [← Decimal.not_le_zero_iff contentions, ← Decimal.not_le_zero_iff delay]
  simp [Reading.counts]

/-- The change of a reading is a number: neither of the two readings can be infinite. -/
theorem isNaN_changeSince {last : Option Snapshot} (fits : ∀ snapshot ∈ last, snapshot.Fits)
    (contentions delay : Nat) {sample : Sample}
    (fitsSample : ∀ value ∈ sample.values, Snapshot.Encoded.FitsSigned value) :
    (changeSince last contentions delay sample).contentions.isNaN = false ∧
      (changeSince last contentions delay sample).delay.isNaN = false := by
  have present (column : Nat) := Snapshot.fitsSigned_value fitsSample column
  unfold changeSince
  cases found : last.bind fun snapshot => snapshot.lastReading? sample.stackKey with
  | none =>
      have proper (column : Nat) : (Float.ofInt (sample.value column)).isNaN = false :=
        (Decimal.unpack_ofInt (present column).least (present column).greatest).isNaN
      exact ⟨proper contentions, proper delay⟩
  | some earlier =>
      obtain ⟨snapshot, folded, reading⟩ := Option.bind_eq_some_iff.mp found
      obtain ⟨earlierContentions, earlierDelay, before, member, rfl⟩ :=
        Snapshot.exists_of_lastReading? reading
      have past (column : Nat) :=
        Snapshot.fitsSigned_value (fits snapshot folded before member) column
      have proper (column other : Nat) :
          (Float.ofInt (sample.value column) - Float.ofInt (before.value other)).isNaN = false :=
        Decimal.isNaN_sub_ofInt (present column).least (present column).greatest
          (past other).least (past other).greatest
      exact ⟨proper contentions earlierContentions, proper delay earlierDelay⟩

/-! ### Stops -/

/-- There is something for a stop to fold: a capture is under way, and what the engine writes is a
    snapshot with both columns. -/
structure Foldable (sampler : Contention) (snapshot : Snapshot) (contentions delay : Nat) :
    Prop where
  running : sampler.running = true
  taken : sampler.engine.takeSnapshot.1 = .returned snapshot
  contentions : snapshot.column? "contentions" = some contentions
  delay : snapshot.column? "delay" = some delay

/-- A stop folds what changed in the snapshot that it takes, and keeps the readings of it. -/
theorem Foldable.stop {sampler : Contention} {snapshot : Snapshot} {contentions delay : Nat}
    (foldable : sampler.Foldable snapshot contentions delay) :
    sampler.stop.1 = .returned () ∧
      sampler.stop.2.tree = sampler.filter.foldAll
        (snapshot.samples.filterMap (measured? sampler.baselines contentions delay))
        sampler.tree ∧
      sampler.stop.2.baselines = baselinesOf contentions delay snapshot.samples := by
  have folded : (sampler.engine.setRate 0).takeSnapshot.1.andThen
      (foldSnapshot sampler.filter sampler.baselines sampler.tree) =
        .returned (sampler.filter.foldAll
          (snapshot.samples.filterMap (measured? sampler.baselines contentions delay))
          sampler.tree, baselinesOf contentions delay snapshot.samples) := by
    rw [takeSnapshot_setRate, foldable.taken, foldAll_filterMap]
    have first := Snapshot.requireColumn_eq_ok_iff.mpr foldable.contentions
    have second := Snapshot.requireColumn_eq_ok_iff.mpr foldable.delay
    simp only [Outcome.andThen, foldSnapshot, first, second, bind, Except.bind, Outcome.ofExcept]
  unfold Contention.stop
  simp only [foldable.running, if_true, folded, and_self]

/-- A stop that succeeds had something to fold. -/
theorem exists_foldable {sampler : Contention} (returned : sampler.stop.1 = .returned ()) :
    ∃ snapshot contentions delay, sampler.Foldable snapshot contentions delay := by
  unfold Contention.stop at returned
  dsimp only at returned
  split at returned
  · next running =>
      rw [takeSnapshot_setRate] at returned
      cases taken : sampler.engine.takeSnapshot.1 with
      | failed error => simp [taken, Outcome.andThen] at returned
      | crashed crash => simp [taken, Outcome.andThen] at returned
      | returned snapshot =>
          cases contentions : snapshot.column? "contentions" with
          | none =>
              simp [taken, contentions, Outcome.andThen, foldSnapshot, Snapshot.requireColumn,
                bind, Except.bind, Outcome.ofExcept] at returned
          | some first =>
              cases delay : snapshot.column? "delay" with
              | none =>
                  simp [taken, contentions, delay, Outcome.andThen, foldSnapshot,
                    Snapshot.requireColumn, bind, Except.bind, Outcome.ofExcept] at returned
              | some second => exact ⟨snapshot, first, second, running, taken, contentions, delay⟩
  · cases returned

/-- A stop that does not succeed leaves the tree and the readings as they are. -/
theorem stop_keeps {sampler : Contention} (failed : sampler.stop.1 ≠ .returned ()) :
    sampler.stop.2.tree = sampler.tree ∧ sampler.stop.2.baselines = sampler.baselines := by
  unfold Contention.stop at failed ⊢
  dsimp only at failed ⊢
  split at failed
  · next running =>
      simp only [running, if_true]
      cases folded : (sampler.engine.setRate 0).takeSnapshot.1.andThen
          (foldSnapshot sampler.filter sampler.baselines sampler.tree) with
      | returned found =>
          rw [folded] at failed
          exact absurd rfl failed
      | failed error => exact ⟨rfl, rfl⟩
      | crashed crash => exact ⟨rfl, rfl⟩
  · next idle =>
      rw [if_neg idle]
      exact ⟨rfl, rfl⟩

/-- A start leaves the readings as they are, however it ends. -/
theorem baselines_start (sampler : Contention) :
    sampler.start.2.baselines = sampler.baselines := by
  unfold start
  dsimp only
  split <;> rfl

/-! ### Runs -/

/-- The readings that a sampler keeps are those of a snapshot, one for each of its stacks; without a
    snapshot there are none. -/
structure Tracks (last : Option Snapshot) (sampler : Contention) : Prop where
  lookup : ∀ stack, sampler.baselines.lookup stack =
    last.bind fun snapshot => snapshot.lastReading? stack
  unique : sampler.baselines.tracked.Nodup
  keys : ∀ stack, stack ∈ sampler.baselines.tracked ↔
    ∃ snapshot, last = some snapshot ∧ stack ∈ snapshot.samples.map Sample.stackKey

namespace Tracks

variable {last : Option Snapshot} {sampler next : Contention}

/-- Nothing but the readings matters. -/
theorem of_same (tracks : sampler.Tracks last) (same : next.baselines = sampler.baselines) :
    next.Tracks last := by
  constructor
  · rw [same]
    exact tracks.lookup
  · rw [same]
    exact tracks.unique
  · rw [same]
    exact tracks.keys

/-- Changes since the readings that are kept are changes since the snapshot. -/
theorem measured?_eq (tracks : sampler.Tracks last) (fits : ∀ snapshot ∈ last, snapshot.Fits)
    (contentions delay : Nat) {sample : Sample}
    (fitsSample : ∀ value ∈ sample.values, Snapshot.Encoded.FitsSigned value) :
    measured? sampler.baselines contentions delay sample =
      addition? last contentions delay sample := by
  obtain ⟨first, second⟩ := isNaN_changeSince fits contentions delay fitsSample
  unfold measured? addition?
  rw [tracks.lookup, since_eq_changeSince]
  exact if_congr (counts_iff first second) rfl rfl

end Tracks

/-- After a stop that succeeds, the readings are those of the snapshot that it took. -/
theorem Foldable.tracks {sampler : Contention} {snapshot : Snapshot} {contentions delay : Nat}
    (foldable : sampler.Foldable snapshot contentions delay) :
    sampler.stop.2.Tracks (some snapshot) := by
  obtain ⟨-, -, baselines⟩ := foldable.stop
  constructor
  · intro stack
    rw [baselines, lookup_baselinesOf]
    simp only [Option.bind_some, Snapshot.lastReading?, foldable.contentions, foldable.delay]
    cases lastWithStack? stack snapshot.samples <;> rfl
  · rw [baselines]
    exact nodup_baselinesOf contentions delay snapshot.samples
  · intro stack
    rw [baselines, mem_tracked_baselinesOf]
    simp

end Contention

namespace Sampler

/-- What holds of a sampler of blocked time throughout a run. -/
structure Follows (filter : FrameFilter) (last : Option Snapshot) (sampler : Sampler) : Prop where
  block : ∃ present : Contention, sampler = .block present ∧ present.filter = filter ∧
    present.Tracks last
  fits : ∀ snapshot ∈ last, snapshot.Fits

theorem folded?_stop {present : Contention} {snapshot : Snapshot} {contentions delay : Nat}
    (foldable : present.Foldable snapshot contentions delay) :
    (Sampler.block present).folded? .stop = some snapshot := by
  have returned : (Sampler.block present).stop.1 = .returned () := foldable.stop.1
  have taken : (Sampler.block present).engine.takeSnapshot.1 = .returned snapshot := foldable.taken
  simp only [folded?, returned, taken]

theorem folded?_stop_eq_none {present : Contention} (failed : present.stop.1 ≠ .returned ()) :
    (Sampler.block present).folded? .stop = none := by
  have ending : (Sampler.block present).stop.1 = present.stop.1 := rfl
  simp only [folded?]
  split
  · next returned _ => exact absurd (ending ▸ returned) failed
  · rfl

/-- A stop that succeeds makes its snapshot the one to count from; after any other call it is the
    same as before. -/
theorem Follows.apply {filter : FrameFilter} {last : Option Snapshot} {sampler : Sampler}
    (follows : sampler.Follows filter last) (operation : Operation) :
    (sampler.apply operation).Follows filter ((sampler.folded? operation).or last) := by
  obtain ⟨⟨present, rfl, sameFilter, tracks⟩, fits⟩ := follows
  cases operation with
  | start =>
      refine ⟨⟨present.start.2, rfl, ?_, tracks.of_same present.baselines_start⟩, fits⟩
      rw [present.start_keeps.1, sameFilter]
  | reset => exact ⟨⟨present.reset, rfl, sameFilter, tracks.of_same rfl⟩, fits⟩
  | build origin duration timespan => exact ⟨⟨present, rfl, sameFilter, tracks⟩, fits⟩
  | stop =>
      have filterAfter : present.stop.2.filter = filter := by rw [present.filter_stop, sameFilter]
      by_cases returned : present.stop.1 = .returned ()
      · obtain ⟨snapshot, contentions, delay, foldable⟩ := Contention.exists_foldable returned
        rw [folded?_stop foldable]
        refine ⟨⟨present.stop.2, rfl, filterAfter, foldable.tracks⟩, ?_⟩
        rintro _ ⟨⟩
        exact Engine.fits_of_takeSnapshot foldable.taken
      · rw [folded?_stop_eq_none returned]
        exact ⟨⟨present.stop.2, rfl, filterAfter,
          tracks.of_same (Contention.stop_keeps returned).2⟩, fits⟩

theorem Follows.run {filter : FrameFilter} {last : Option Snapshot} {sampler : Sampler}
    (follows : sampler.Follows filter last) (operations : List Operation) :
    (sampler.run operations).Follows filter (sampler.lastFolded last operations) := by
  induction operations generalizing last sampler with
  | nil => exact follows
  | cons operation rest inductionHypothesis =>
      exact inductionHypothesis (follows.apply operation)

/-- In every run of a sampler of blocked time, whatever its engine does, changes are counted from
    the snapshot of the latest stop that succeeded: the readings that are kept are those of its
    stacks where they occur last in it. A stop that succeeds folds exactly the samples in which both
    columns went up since then, and from then on counts from its own snapshot; it succeeds exactly
    if there is something to fold. A stop that does not succeed leaves the tree and the readings as
    they are, and so do all other calls with the readings. -/
theorem stop_counts_from_last_folded (engine : Engine) (filter : FrameFilter)
    (operations : List Operation) :
    let initial := Sampler.block { engine := engine, filter := filter }
    let last := initial.lastFolded none operations
    ∃ present : Contention, initial.run operations = .block present ∧ present.filter = filter ∧
      present.Tracks last ∧
      (present.stop.1 = .returned () ↔
        ∃ snapshot contentions delay, present.Foldable snapshot contentions delay) ∧
      (∀ snapshot contentions delay, present.Foldable snapshot contentions delay →
        present.stop.2.tree = filter.foldAll
            (snapshot.samples.filterMap (Contention.addition? last contentions delay))
            present.tree ∧
          present.stop.2.Tracks (some snapshot)) ∧
      (present.stop.1 ≠ .returned () →
        present.stop.2.tree = present.tree ∧ present.stop.2.baselines = present.baselines) ∧
      ∀ operation, operation ≠ .stop →
        ((Sampler.block present).apply operation).baselines = present.baselines := by
  intro initial last
  have start : initial.Follows filter none := by
    refine ⟨⟨_, rfl, rfl, fun _ => rfl, List.nodup_nil, fun stack => ?_⟩, fun _ member => ?_⟩
    · simp [Baselines.tracked]
    · cases member
  obtain ⟨⟨present, reached, sameFilter, tracks⟩, fits⟩ := start.run operations
  refine ⟨present, reached, sameFilter, tracks, ?_, ?_, Contention.stop_keeps, ?_⟩
  · constructor
    · exact Contention.exists_foldable
    · rintro ⟨snapshot, contentions, delay, foldable⟩
      exact foldable.stop.1
  · intro snapshot contentions delay foldable
    refine ⟨?_, foldable.tracks⟩
    rw [foldable.stop.2.1, sameFilter]
    congr 1
    refine List.filterMap_congr fun sample member => ?_
    exact tracks.measured?_eq fits contentions delay
      (Engine.fits_of_takeSnapshot foldable.taken sample member)
  · intro operation other
    cases operation with
    | start => exact present.baselines_start
    | stop => exact absurd rfl other
    | reset => rfl
    | build origin duration timespan => rfl

end Sampler

end Stackwatch

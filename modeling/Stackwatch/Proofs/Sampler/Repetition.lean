import Stackwatch.Proofs.Sampler.Baselines

/-!
# Reading a snapshot again

A sampler of blocked time that reads the same snapshot in two successive bursts measures it against
itself the second time: every sample against the last one of its stack. Where each stack occurs once
nothing is counted again. A sample that comes before a smaller one of the same stack is counted
again, each time by what it has more.
-/

namespace Stackwatch

namespace Contention

variable (contentions delay : Nat)

/-- Whether a sample has more of both, contentions and delay, than another one. -/
def Exceeds (sample other : Sample) : Prop :=
  0.0 < Float.ofInt (sample.value contentions) - Float.ofInt (other.value contentions) ∧
    0.0 < Float.ofInt (sample.value delay) - Float.ofInt (other.value delay)

theorem not_exceeds_self {sample : Sample}
    (fits : ∀ value ∈ sample.values, Snapshot.Encoded.FitsSigned value) :
    ¬ Exceeds contentions delay sample sample := by
  rintro ⟨more, -⟩
  have value := Snapshot.fitsSigned_value fits contentions
  exact Decimal.not_pos_sub_self (Decimal.unpack_ofInt value.least value.greatest) more

/-- No sample exceeds the last one of its stack. -/
def LastIsMost (samples : List Sample) : Prop :=
  ∀ sample ∈ samples, ∀ last ∈ lastWithStack? sample.stackKey samples,
    ¬ Exceeds contentions delay sample last

/-- A stack of a snapshot has a last sample. -/
theorem exists_lastWithStack? {sample : Sample} {samples : List Sample}
    (member : sample ∈ samples) : ∃ last, lastWithStack? sample.stackKey samples = some last := by
  have here : sample ∈ samples.filter (·.stackKey == sample.stackKey) :=
    List.mem_filter.mpr ⟨member, beq_self_eq_true _⟩
  exact ⟨_, List.getLast?_eq_some_getLast (List.ne_nil_of_mem here)⟩

/-- Where no stack occurs twice, each sample is the last one of its stack. -/
theorem lastWithStack?_of_nodup {sample : Sample} {samples : List Sample}
    (distinct : (samples.map Sample.stackKey).Nodup) (member : sample ∈ samples) :
    lastWithStack? sample.stackKey samples = some sample := by
  obtain ⟨last, found⟩ := exists_lastWithStack? member
  obtain ⟨lastMember, same⟩ := List.mem_filter.mp (List.mem_of_getLast? found)
  rw [found, List.inj_on_of_nodup_map distinct lastMember member (eq_of_beq same)]

variable {contentions delay} {snapshot : Snapshot}

theorem lastIsMost_of_nodup (fits : snapshot.Fits)
    (distinct : (snapshot.samples.map Sample.stackKey).Nodup) :
    LastIsMost contentions delay snapshot.samples := by
  intro sample member last found
  rw [lastWithStack?_of_nodup distinct member] at found
  cases found
  exact not_exceeds_self contentions delay (fits sample member)

/-- What is to be folded of a sample that is measured against its own snapshot. -/
theorem addition?_eq_none_iff (firstColumn : snapshot.column? "contentions" = some contentions)
    (secondColumn : snapshot.column? "delay" = some delay) {sample last : Sample}
    (found : lastWithStack? sample.stackKey snapshot.samples = some last) :
    addition? (some snapshot) contentions delay sample = none ↔
      ¬ Exceeds contentions delay sample last := by
  have change : changeSince (some snapshot) contentions delay sample =
      { contentions :=
          Float.ofInt (sample.value contentions) - Float.ofInt (last.value contentions)
        delay := Float.ofInt (sample.value delay) - Float.ofInt (last.value delay) } := by
    simp only [changeSince, Option.bind_some, Snapshot.lastReading?, firstColumn, secondColumn,
      found, Option.bind_eq_bind]
  unfold addition? Exceeds
  rw [change]
  dsimp only
  split
  · next more => exact iff_of_false (Option.some_ne_none _) (not_not_intro more)
  · next more => exact iff_of_true rfl more

/-- Between two bursts that read the same snapshot, the readings that are kept are those of the
    snapshot. -/
theorem Foldable.tracks_between {sampler later : Contention}
    (first : sampler.Foldable snapshot contentions delay) {operations : List Sampler.Operation}
    (between : (Sampler.block sampler.stop.2).lastFolded (some snapshot) operations =
      some snapshot)
    (reached : (Sampler.block sampler.stop.2).run operations = .block later) :
    later.Tracks (some snapshot) := by
  have follows : (Sampler.block sampler.stop.2).Follows sampler.filter (some snapshot) := by
    refine ⟨⟨_, rfl, sampler.filter_stop, first.tracks⟩, ?_⟩
    rintro _ ⟨⟩
    exact Engine.fits_of_takeSnapshot first.taken
  obtain ⟨⟨present, same, -, tracks⟩, -⟩ := follows.run operations
  rw [reached] at same
  cases same
  rwa [between] at tracks

/-- When a sampler reads in two bursts the same snapshot, and no other in between, the second burst
    folds exactly the samples that exceed the last one of their stack. So the tree stays as it is
    if no sample does, as where each stack occurs once; and otherwise something is folded again. -/
theorem second_reading_folds_excess (sampler later : Contention) (snapshot : Snapshot)
    (contentions delay : Nat) (operations : List Sampler.Operation)
    (first : sampler.Foldable snapshot contentions delay)
    (between : (Sampler.block sampler.stop.2).lastFolded (some snapshot) operations =
      some snapshot)
    (reached : (Sampler.block sampler.stop.2).run operations = .block later)
    (second : later.Foldable snapshot contentions delay) :
    let folded := snapshot.samples.filterMap (addition? (some snapshot) contentions delay)
    later.stop.1 = .returned () ∧
      later.stop.2.tree = later.filter.foldAll folded later.tree ∧
      (folded = [] ↔ LastIsMost contentions delay snapshot.samples) ∧
      (LastIsMost contentions delay snapshot.samples → later.stop.2.tree = later.tree) ∧
      ((snapshot.samples.map Sample.stackKey).Nodup → later.stop.2.tree = later.tree) := by
  intro folded
  have fits := Engine.fits_of_takeSnapshot second.taken
  have tracks := first.tracks_between between reached
  have nothing : folded = [] ↔ LastIsMost contentions delay snapshot.samples := by
    rw [List.filterMap_eq_nil_iff]
    refine forall₂_congr fun sample member => ?_
    obtain ⟨last, found⟩ := exists_lastWithStack? member
    rw [addition?_eq_none_iff second.contentions second.delay found, found]
    simp
  have treeEq : later.stop.2.tree = later.filter.foldAll folded later.tree := by
    rw [second.stop.2.1]
    congr 1
    refine List.filterMap_congr fun sample member => ?_
    refine tracks.measured?_eq ?_ contentions delay (fits sample member)
    rintro _ ⟨⟩
    exact fits
  have unchanged (most : LastIsMost contentions delay snapshot.samples) :
      later.stop.2.tree = later.tree := by
    rw [treeEq, nothing.mpr most]
    rfl
  exact ⟨second.stop.1, treeEq, nothing, unchanged,
    fun distinct => unchanged (lastIsMost_of_nodup fits distinct)⟩

/-- An encoded snapshot that has one stack twice. -/
def doubledProfile (first second : List Int) : Snapshot.Encoded.Profile :=
  { sampleTypes := [{ kind := 1, unit := 2 }, { kind := 3, unit := 4 }]
    samples := [{ locationIds := [1], values := first }, { locationIds := [1], values := second }]
    locations := [{ id := 1, address := 0, lines := [{ functionId := 1, line := 7 }] }]
    functions := [{ id := 1, name := 5, systemName := 5, fileName := 6 }]
    strings := ["", "contentions", "count", "delay", "nanoseconds", "main", "main.rs"]
    timeNanos := 0
    durationNanos := 0 }

/-- The same snapshot as it is read. -/
def doubledSnapshot (first second : List Int) : Snapshot :=
  let stack : List Location :=
    [{ address := 0, lines := [{ function := "main", file := "main.rs", line := 7 }] }]
  { columns :=
      [{ kind := "contentions", unit := "count" }, { kind := "delay", unit := "nanoseconds" }]
    samples := [{ locations := stack, values := first }, { locations := stack, values := second }]
    timeNanos := 0
    durationNanos := 0 }

/-- A sampler in a burst, whose engine writes the same snapshot again and again. -/
def repeating (first second : List Int) : Contention :=
  { engine :=
      { startAnswer := fun _ => .returned ()
        writeAnswer := fun _ => .returned (doubledProfile first second).encode }
    filter := {}
    running := true }

/-- The sampler in its second burst. -/
def repeatingAgain (first second : List Int) : Contention :=
  (repeating first second).stop.2.start.2

/-- A burst can be folded when the engine always writes the same readable snapshot. -/
theorem Foldable.of_writes {sampler : Contention} {bytes : Bytes} (running : sampler.running = true)
    (writes : sampler.engine.writeAnswer = fun _ => .returned bytes)
    (read : Snapshot.read bytes = .ok snapshot)
    (firstColumn : snapshot.column? "contentions" = some contentions)
    (secondColumn : snapshot.column? "delay" = some delay) :
    sampler.Foldable snapshot contentions delay := by
  refine ⟨running, ?_, firstColumn, secondColumn⟩
  simp only [Engine.takeSnapshot, Engine.write, writes, Outcome.mapError, Outcome.andThen, read]
  rfl

theorem repeating_foldable (first second : List Int)
    (read : Snapshot.read (doubledProfile first second).encode =
      .ok (doubledSnapshot first second))
    (running : (repeatingAgain first second).running = true) :
    (repeating first second).Foldable (doubledSnapshot first second) 0 1 ∧
      (repeatingAgain first second).Foldable (doubledSnapshot first second) 0 1 := by
  have writes : (repeatingAgain first second).engine.writeAnswer =
      fun _ => .returned (doubledProfile first second).encode :=
    (Sampler.writeAnswer_start (.block (repeating first second).stop.2)).trans
      (Sampler.writeAnswer_stop (.block (repeating first second)))
  exact ⟨.of_writes rfl rfl read rfl rfl, .of_writes running writes read rfl rfl⟩

/-- Where the second sample of the stack is the greater one, nothing is counted again. -/
theorem second_reading_folds_excess_rising :
    LastIsMost 0 1 (doubledSnapshot [1, 1000000] [10, 100000000]).samples ∧
      (repeatingAgain [1, 1000000] [10, 100000000]).stop.2.tree =
        (repeatingAgain [1, 1000000] [10, 100000000]).tree := by
  obtain ⟨first, second⟩ :=
    repeating_foldable [1, 1000000] [10, 100000000] (by decide +kernel) (by decide +kernel)
  have most : LastIsMost 0 1 (doubledSnapshot [1, 1000000] [10, 100000000]).samples := by
    unfold LastIsMost Exceeds
    decide +kernel
  exact ⟨most, (second_reading_folds_excess _ _ _ 0 1 [.start] first rfl rfl second).2.2.2.1 most⟩

/-- Where the first sample of the stack is the greater one, it is counted again although the
    snapshot is the same. -/
theorem second_reading_counts_falling_stack_again :
    ¬ ∀ (sampler later : Contention) (snapshot : Snapshot) (contentions delay : Nat)
      (operations : List Sampler.Operation),
      sampler.Foldable snapshot contentions delay →
      (Sampler.block sampler.stop.2).lastFolded (some snapshot) operations = some snapshot →
      (Sampler.block sampler.stop.2).run operations = .block later →
      later.Foldable snapshot contentions delay →
        later.stop.2.tree = later.tree := by
  intro unchanged
  obtain ⟨first, second⟩ :=
    repeating_foldable [10, 100000000] [1, 1000000] (by decide +kernel) (by decide +kernel)
  have same := unchanged _ _ _ 0 1 [.start] first rfl rfl second
  have grows : (repeatingAgain [10, 100000000] [1, 1000000]).stop.2.tree.totals.2 ≠
      (repeatingAgain [10, 100000000] [1, 1000000]).tree.totals.2 := by
    decide +kernel
  exact grows (congrArg (fun tree => tree.totals.2) same)

end Contention

end Stackwatch

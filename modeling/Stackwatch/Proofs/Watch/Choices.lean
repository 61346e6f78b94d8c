import Mathlib.Data.List.Basic
import Stackwatch.Watch.Settings

/-!
# What comes of the choices

Choices are made in any order and any number of times. About each thing the last choice counts, and
what was never chosen has its default. Building a profiler then looks at the timings of just those
samplers that will be there, in their order, and ends with the first that cannot be used. The
profiler that comes of it is written out here part by part, and so are the defaults; nothing is said
in terms of the functions that build it.
-/

namespace Stackwatch

/-! ### Lists that are gone through up to the first error -/

section Steps

variable {ε α β : Type} {next : α → Except ε β} {values : List α}

theorem mapM_eq_ok_of_forall {result : α → β}
    (each : ∀ value ∈ values, next value = .ok (result value)) :
    values.mapM next = .ok (values.map result) := by
  induction values with
  | nil => rfl
  | cons value rest inductionHypothesis =>
      obtain ⟨first, others⟩ := List.forall_mem_cons.mp each
      rw [List.mapM_cons, first, inductionHypothesis others]
      rfl

theorem mapM_eq_error_of_first {earlier later : List α} {value : α} {error : ε}
    (fine : ∀ value ∈ earlier, ∃ result, next value = .ok result)
    (fails : next value = .error error) :
    (earlier ++ value :: later).mapM next = .error error := by
  induction earlier with
  | nil =>
      rw [List.nil_append, List.mapM_cons, fails]
      rfl
  | cons first rest inductionHypothesis =>
      obtain ⟨⟨result, same⟩, others⟩ := List.forall_mem_cons.mp fine
      rw [List.cons_append, List.mapM_cons, same, inductionHypothesis others]
      rfl

end Steps

namespace Settings

/-! ### The last choice counts -/

/-- The last choice of a kind. -/
def lastOf {α : Type} (kind? : Choice → Option α) (choices : List Choice) : Option α :=
  (choices.filterMap kind?).getLast?

section Last

variable {α : Type} {kind? : Choice → Option α}

theorem lastOf_append (earlier later : List Choice) :
    lastOf kind? (earlier ++ later) = (lastOf kind? later).or (lastOf kind? earlier) := by
  rw [lastOf, lastOf, lastOf, List.filterMap_append, List.getLast?_append]

theorem lastOf_cons (choice : Choice) (choices : List Choice) :
    lastOf kind? (choice :: choices) = (lastOf kind? choices).or (kind? choice) := by
  rw [← List.singleton_append, lastOf_append]
  cases found : kind? choice <;> simp [lastOf, found]

theorem exists_mem_of_lastOf {choices : List Choice} {value : α}
    (found : lastOf kind? choices = some value) : ∃ choice ∈ choices, kind? choice = some value :=
  List.mem_filterMap.mp (List.mem_of_getLast? found)

theorem lastOf_eq_none_iff {choices : List Choice} :
    lastOf kind? choices = none ↔ ∀ choice ∈ choices, kind? choice = none := by
  rw [lastOf, List.getLast?_eq_none_iff, List.filterMap_eq_nil_iff]

/-- Behind the last choice of a kind there is none of that kind. -/
theorem exists_split_of_lastOf {choices : List Choice} {value : α}
    (found : lastOf kind? choices = some value) :
    ∃ earlier choice later, choices = earlier ++ choice :: later ∧
      kind? choice = some value ∧ ∀ other ∈ later, kind? other = none := by
  induction choices with
  | nil => cases found
  | cons choice rest inductionHypothesis =>
      rw [lastOf_cons, Option.or_eq_some_iff] at found
      rcases found with later | ⟨nothing, now⟩
      · obtain ⟨earlier, other, behind, rfl, last⟩ := inductionHypothesis later
        exact ⟨choice :: earlier, other, behind, rfl, last⟩
      · exact ⟨[], choice, rest, rfl, now, lastOf_eq_none_iff.mp nothing⟩

/-- Where only one choice decides so, the last one of its kind is told by where it stands. -/
theorem lastOf_eq_some_iff {choices : List Choice} {choice : Choice} {value : α}
    (decides : kind? choice = some value)
    (only : ∀ other, kind? other = some value → other = choice) :
    lastOf kind? choices = some value ↔
      ∃ earlier later, choices = earlier ++ choice :: later ∧
        ∀ other ∈ later, kind? other = none := by
  constructor
  · intro last
    obtain ⟨earlier, other, later, same, decided, behind⟩ := exists_split_of_lastOf last
    rw [only other decided] at same
    exact ⟨earlier, later, same, behind⟩
  · rintro ⟨earlier, later, rfl, behind⟩
    rw [lastOf_append, lastOf_cons, lastOf_eq_none_iff.mpr behind, Option.none_or, decides,
      Option.some_or]

/-- A choice of another kind makes no difference. -/
theorem lastOf_insert {choice : Choice} (other : kind? choice = none)
    (earlier later : List Choice) :
    lastOf kind? (earlier ++ choice :: later) = lastOf kind? (earlier ++ later) := by
  rw [lastOf, lastOf, List.filterMap_append, List.filterMap_append, List.filterMap_cons_none other]

/-- A part of the settings that each choice replaces or leaves alone is as the last choice about it
    says. -/
theorem part_foldl_choose (part : Settings → α) (kind? : Choice → Option α)
    (step : ∀ settings choice,
      part (settings.choose choice) = (kind? choice).getD (part settings))
    (choices : List Choice) (settings : Settings) :
    part (choices.foldl choose settings) = (lastOf kind? choices).getD (part settings) := by
  induction choices generalizing settings with
  | nil => rfl
  | cons choice rest inductionHypothesis =>
      rw [List.foldl_cons, inductionHypothesis, step, lastOf_cons]
      cases lastOf kind? rest <;> rfl

end Last

namespace Choice

def reporter? : Choice → Option Reporter
  | .reporter chosen => some chosen
  | _ => none

def externalProcess? : Choice → Option (Option String)
  | .externalProcess process => some process
  | _ => none

def filter? : Choice → Option FrameFilter
  | .options includeProfilerFrames _ => some { includeProfilerFrames := includeProfilerFrames }
  | _ => none

def capacity? : Choice → Option Nat
  | .options _ capacity => some capacity
  | _ => none

def flushInterval? : Choice → Option Duration
  | .flushInterval interval => some interval
  | _ => none

/-- Whether a source is to be measured, and with which engine. -/
def engine? (source : Source) : Choice → Option (Option Engine)
  | .engine other chosen => if other = source then some (some chosen) else none
  | .withoutCpu => if source = .cpu then some none else none
  | _ => none

def timing? (source : Source) : Choice → Option Timing
  | .timing other chosen => if other = source then some chosen else none
  | _ => none

end Choice

/-- How a source is measured if no timing was given for it. -/
def usualTiming : Source → Timing
  | .cpu =>
      { name := "cpu"
        reportOnly := false
        maxProfileDuration := Duration.ofSeconds 20
        maxSpanDuration := Duration.ofSeconds 2
        maxSpanCount := 30
        samplingInterval := Duration.ofSeconds 8
        reportInterval := Duration.ofSeconds 120 }
  | .heap =>
      { name := "allocation"
        reportOnly := true
        maxProfileDuration := 0
        maxSpanDuration := 0
        maxSpanCount := 0
        samplingInterval := 0
        reportInterval := Duration.ofSeconds 120 }
  | .block =>
      { name := "block"
        reportOnly := false
        maxProfileDuration := Duration.ofSeconds 20
        maxSpanDuration := Duration.ofSeconds 4
        maxSpanCount := 30
        samplingInterval := Duration.ofSeconds 16
        reportInterval := Duration.ofSeconds 120 }

theorem preset_eq_usualTiming (source : Source) : source.preset = usualTiming source := by
  cases source <;> rfl

variable (choices : List Choice) (builtIn : Engine)

def chosenFilter : FrameFilter :=
  (lastOf Choice.filter? choices).getD { includeProfilerFrames := false }

/-- Nothing waits, and no timer runs. -/
def chosenRecorder : Recorder where
  outbox :=
    { capacity := (lastOf Choice.capacity? choices).getD 100
      queue := []
      lastAttempt := none
      backoff := 0 }
  reporter := (lastOf Choice.reporter? choices).getD .discarding
  flushInterval := (lastOf Choice.flushInterval? choices).getD (Duration.ofSeconds 5)
  started := { isSet := false }
  timer := none
  sending := none
  line := []
  waited := none
  notices := []

/-- The engine behind a source as it was decided last: if nothing was decided, the built-in one for
    processor time, and none for anything else. -/
def chosenEngine? (source : Source) : Option Engine :=
  (lastOf (Choice.engine? source) choices).getD (if source = .cpu then some builtIn else none)

def chosenTiming (source : Source) : Timing :=
  (lastOf (Choice.timing? source) choices).getD (usualTiming source)

/-- What is to measure a source, with its timing, if the source has an engine. -/
def chosenSampler? (source : Source) (sampler : Engine → FrameFilter → Sampler) :
    Option (Sampler × Timing) :=
  (chosenEngine? choices builtIn source).map fun engine =>
    (sampler engine (chosenFilter choices), chosenTiming choices source)

/-- Processor time comes first, then heap memory, then blocked time. -/
def chosenSamplers : List (Sampler × Timing) :=
  (chosenSampler? choices builtIn .cpu fun engine filter =>
      .cpu { engine := engine, filter := filter, tree := .root, started := false }).toList ++
    (chosenSampler? choices builtIn .heap fun engine filter =>
      .heap { engine := engine, filter := filter }).toList ++
    (chosenSampler? choices builtIn .block fun engine filter =>
      .block
        { engine := engine
          filter := filter
          tree := .root
          running := false
          baselines := [] }).toList

/-- What a choice says about a part of the settings holds after it; what it says nothing about is
    left alone. -/
structure Choice.Replaces (choice : Choice) (settings after : Settings) : Prop where
  reporter : after.reporter.getD .discarding =
    choice.reporter?.getD (settings.reporter.getD .discarding)
  externalProcess : after.externalProcess =
    choice.externalProcess?.getD settings.externalProcess
  filter : after.filter = choice.filter?.getD settings.filter
  capacity : after.capacity = choice.capacity?.getD settings.capacity
  flushInterval : after.flushInterval.getD defaultFlushInterval =
    choice.flushInterval?.getD (settings.flushInterval.getD defaultFlushInterval)
  engine : ∀ builtIn source, after.engine? builtIn source =
    (choice.engine? source).getD (settings.engine? builtIn source)
  timing : ∀ source, (after.timing? source).getD (usualTiming source) =
    (choice.timing? source).getD ((settings.timing? source).getD (usualTiming source))

theorem Choice.replaces (choice : Choice) (settings : Settings) :
    choice.Replaces settings (settings.choose choice) := by
  rcases choice with _ | _ | _ | _ | ⟨_ | _ | _⟩ | _ | ⟨_ | _ | _⟩
  all_goals
    refine ⟨rfl, rfl, rfl, rfl, rfl, fun builtIn source => ?_, fun source => ?_⟩
    · cases source <;> rfl
    · cases source <;> rfl

theorem recorder_ofChoices : (ofChoices choices).recorder = chosenRecorder choices := by
  have reporter := part_foldl_choose (fun settings => settings.reporter.getD .discarding) _
    (fun settings choice => (choice.replaces settings).reporter) choices {}
  have capacity := part_foldl_choose Settings.capacity _
    (fun settings choice => (choice.replaces settings).capacity) choices {}
  have flushInterval := part_foldl_choose
    (fun settings => settings.flushInterval.getD defaultFlushInterval) _
    (fun settings choice => (choice.replaces settings).flushInterval) choices {}
  rw [recorder, ofChoices, reporter, capacity, flushInterval]
  rfl

theorem externalProcess_ofChoices :
    (ofChoices choices).externalProcess = (lastOf Choice.externalProcess? choices).getD none :=
  part_foldl_choose Settings.externalProcess _
    (fun settings choice => (choice.replaces settings).externalProcess) choices {}

theorem filter_ofChoices : (ofChoices choices).filter = chosenFilter choices :=
  part_foldl_choose Settings.filter _
    (fun settings choice => (choice.replaces settings).filter) choices {}

theorem engine?_ofChoices (source : Source) :
    (ofChoices choices).engine? builtIn source = chosenEngine? choices builtIn source := by
  have chosen := part_foldl_choose (fun settings => settings.engine? builtIn source) _
    (fun settings choice => (choice.replaces settings).engine builtIn source) choices {}
  refine chosen.trans (congrArg _ ?_)
  cases source <;> rfl

theorem timing_ofChoices (source : Source) :
    ((ofChoices choices).timing? source).getD source.preset = chosenTiming choices source := by
  have chosen := part_foldl_choose
    (fun settings => (settings.timing? source).getD (usualTiming source)) _
    (fun settings choice => (choice.replaces settings).timing source) choices {}
  rw [preset_eq_usualTiming]
  refine chosen.trans (congrArg _ ?_)
  cases source <;> rfl

/-- The sources are gone through in their order. -/
theorem filterMap_all {α : Type} (make : Source → Option α) :
    Source.all.filterMap make =
      (make .cpu).toList ++ (make .heap).toList ++ (make .block).toList := by
  cases cpu : make .cpu <;> cases heap : make .heap <;> cases block : make .block <;>
    simp [Source.all, cpu, heap, block]

/-- The samplers are those of the last choices. -/
theorem samplers_ofChoices :
    (ofChoices choices).samplers builtIn = chosenSamplers choices builtIn := by
  simp only [samplers, filterMap_all, engine?_ofChoices, filter_ofChoices, timing_ofChoices]
  rfl

/-! ### Which sources are measured -/

@[simp] theorem Choice.engine?_self (source : Source) (chosen : Engine) :
    (Choice.engine source chosen).engine? source = some (some chosen) :=
  if_pos rfl

theorem Choice.engine?_eq_some_none_iff {source : Source} {choice : Choice} :
    choice.engine? source = some none ↔ choice = .withoutCpu ∧ source = .cpu := by
  cases choice <;> simp [Choice.engine?]

theorem Choice.eq_of_engine? {source : Source} {choice : Choice} {chosen : Engine}
    (decided : choice.engine? source = some (some chosen)) : choice = .engine source chosen := by
  cases choice <;> simp_all [Choice.engine?]

/-- Processor time is measured unless it was turned off and nobody gave an engine for it since. -/
theorem cpu_unmeasured_iff :
    chosenEngine? choices builtIn .cpu = none ↔
      ∃ earlier later, choices = earlier ++ .withoutCpu :: later ∧
        ∀ engine, Choice.engine .cpu engine ∉ later := by
  have turnedOff : chosenEngine? choices builtIn .cpu = none ↔
      lastOf (Choice.engine? .cpu) choices = some none := by
    rw [chosenEngine?]
    cases lastOf (Choice.engine? .cpu) choices <;> simp
  rw [turnedOff]
  constructor
  · intro last
    obtain ⟨earlier, choice, later, same, decided, undecided⟩ := exists_split_of_lastOf last
    obtain ⟨rfl, -⟩ := Choice.engine?_eq_some_none_iff.mp decided
    refine ⟨earlier, later, same, fun engine member => ?_⟩
    cases (Choice.engine?_self .cpu engine).symm.trans (undecided _ member)
  · rintro ⟨earlier, later, rfl, unchanged⟩
    rw [lastOf_append, lastOf_cons]
    cases last : lastOf (Choice.engine? .cpu) later with
    | none => rfl
    | some decision =>
        obtain ⟨choice, member, decided⟩ := exists_mem_of_lastOf last
        cases decision with
        | none => rfl
        | some engine => exact absurd (Choice.eq_of_engine? decided ▸ member) (unchanged engine)

/-- Anything else is measured if somebody gave an engine for it. -/
theorem unmeasured_iff {source : Source} (other : source ≠ .cpu) :
    chosenEngine? choices builtIn source = none ↔
      ∀ engine, Choice.engine source engine ∉ choices := by
  rw [chosenEngine?, if_neg other]
  cases last : lastOf (Choice.engine? source) choices with
  | none =>
      refine iff_of_true rfl fun engine member => ?_
      cases (Choice.engine?_self source engine).symm.trans (lastOf_eq_none_iff.mp last _ member)
  | some decision =>
      obtain ⟨choice, member, decided⟩ := exists_mem_of_lastOf last
      cases decision with
      | none => exact absurd (Choice.engine?_eq_some_none_iff.mp decided).2 other
      | some engine =>
          refine iff_of_false nofun fun never => ?_
          exact never engine (Choice.eq_of_engine? decided ▸ member)

/-- Nothing was decided about a source. -/
theorem undecided_iff {source : Source} :
    (∀ choice ∈ choices, choice.engine? source = none) ↔
      (∀ engine, Choice.engine source engine ∉ choices) ∧
        (source = .cpu → Choice.withoutCpu ∉ choices) := by
  constructor
  · intro undecided
    constructor
    · intro engine member
      cases (Choice.engine?_self source engine).symm.trans (undecided _ member)
    · rintro rfl member
      cases undecided _ member
  · rintro ⟨noEngine, on⟩ choice member
    cases decided : choice.engine? source with
    | none => rfl
    | some decision =>
        cases decision with
        | none =>
            obtain ⟨rfl, cpu⟩ := Choice.engine?_eq_some_none_iff.mp decided
            exact absurd member (on cpu)
        | some engine =>
            rw [Choice.eq_of_engine? decided] at member
            exact absurd member (noEngine engine)

/-- The engine is the one that was given last, if processor time was not turned off since, or the
    built-in one for processor time, if nothing was decided about it. -/
theorem chosenEngine?_eq_some_iff (source : Source) (engine : Engine) :
    chosenEngine? choices builtIn source = some engine ↔
      (∃ earlier later, choices = earlier ++ .engine source engine :: later ∧
        (∀ other, Choice.engine source other ∉ later) ∧
          (source = .cpu → Choice.withoutCpu ∉ later)) ∨
      source = .cpu ∧ engine = builtIn ∧ (∀ other, Choice.engine .cpu other ∉ choices) ∧
        Choice.withoutCpu ∉ choices := by
  have given : lastOf (Choice.engine? source) choices = some (some engine) ↔
      ∃ earlier later, choices = earlier ++ .engine source engine :: later ∧
        (∀ other, Choice.engine source other ∉ later) ∧
          (source = .cpu → Choice.withoutCpu ∉ later) := by
    simp only [← undecided_iff]
    exact lastOf_eq_some_iff (Choice.engine?_self source engine) fun _ => Choice.eq_of_engine?
  have undecided : (source = .cpu ∧ engine = builtIn ∧
        (∀ other, Choice.engine .cpu other ∉ choices) ∧ Choice.withoutCpu ∉ choices) ↔
      lastOf (Choice.engine? source) choices = none ∧ source = .cpu ∧ engine = builtIn := by
    rw [lastOf_eq_none_iff, undecided_iff]
    constructor
    · rintro ⟨rfl, same, noEngine, on⟩
      exact ⟨⟨noEngine, fun _ => on⟩, rfl, same⟩
    · rintro ⟨⟨noEngine, on⟩, rfl, same⟩
      exact ⟨rfl, same, noEngine, on rfl⟩
  rw [← given, undecided, chosenEngine?]
  cases lastOf (Choice.engine? source) choices with
  | none => simp [eq_comm]
  | some decision => simp

/-! ### Which timings are used -/

@[simp] theorem Choice.timing?_self (source : Source) (given : Timing) :
    (Choice.timing source given).timing? source = some given :=
  if_pos rfl

theorem Choice.eq_of_timing? {source : Source} {choice : Choice} {given : Timing}
    (timed : choice.timing? source = some given) : choice = .timing source given := by
  cases choice <;> simp_all [Choice.timing?]

/-- No timing was given for a source. -/
theorem untimed_iff {source : Source} :
    (∀ choice ∈ choices, choice.timing? source = none) ↔
      ∀ given, Choice.timing source given ∉ choices := by
  constructor
  · intro untimed given member
    cases (Choice.timing?_self source given).symm.trans (untimed _ member)
  · intro never choice member
    cases timed : choice.timing? source with
    | none => rfl
    | some given =>
        rw [Choice.eq_of_timing? timed] at member
        exact absurd member (never given)

/-- The timing is the one that was given last, or the usual one if none was given. -/
theorem chosenTiming_eq_iff (source : Source) (timing : Timing) :
    chosenTiming choices source = timing ↔
      (∃ earlier later, choices = earlier ++ .timing source timing :: later ∧
        ∀ other, Choice.timing source other ∉ later) ∨
      timing = usualTiming source ∧ ∀ other, Choice.timing source other ∉ choices := by
  have given : lastOf (Choice.timing? source) choices = some timing ↔
      ∃ earlier later, choices = earlier ++ .timing source timing :: later ∧
        ∀ other, Choice.timing source other ∉ later := by
    simp only [← untimed_iff]
    exact lastOf_eq_some_iff (Choice.timing?_self source timing) fun _ => Choice.eq_of_timing?
  rw [← given, ← untimed_iff, ← lastOf_eq_none_iff, chosenTiming]
  cases lastOf (Choice.timing? source) choices with
  | none => simp [eq_comm]
  | some other => simp

/-! ### A timing of a sampler that will not be there -/

theorem chosenEngine?_insert_timing (earlier later : List Choice) (source other : Source)
    (timing : Timing) :
    chosenEngine? (earlier ++ .timing source timing :: later) builtIn other =
      chosenEngine? (earlier ++ later) builtIn other := by
  rw [chosenEngine?, chosenEngine?, lastOf_insert rfl]

theorem chosenSampler?_insert_timing {earlier later : List Choice} {source : Source}
    (unmeasured : chosenEngine? (earlier ++ later) builtIn source = none) (timing : Timing)
    (other : Source) (sampler : Engine → FrameFilter → Sampler) :
    chosenSampler? (earlier ++ .timing source timing :: later) builtIn other sampler =
      chosenSampler? (earlier ++ later) builtIn other sampler := by
  rw [chosenSampler?, chosenSampler?, chosenEngine?_insert_timing]
  by_cases same : other = source
  · rw [same, unmeasured, Option.map_none, Option.map_none]
  · have different : Choice.timing? other (.timing source timing) = none :=
      if_neg (Ne.symm same)
    rw [chosenFilter, chosenFilter, chosenTiming, chosenTiming, lastOf_insert rfl,
      lastOf_insert different]

/-- Nobody looks at it. -/
theorem chosenSamplers_insert_timing {earlier later : List Choice} {source : Source}
    (unmeasured : chosenEngine? (earlier ++ later) builtIn source = none) (timing : Timing) :
    chosenSamplers (earlier ++ .timing source timing :: later) builtIn =
      chosenSamplers (earlier ++ later) builtIn := by
  simp only [chosenSamplers, chosenSampler?_insert_timing builtIn unmeasured]

/-! ### Building -/

/-- A scheduler that was never started: it has no timers, and no burst was ever begun. -/
def setUp (host : Host) (chosen : Sampler × Timing) : Scheduler where
  timing := chosen.2
  window :=
    { sampler := chosen.1
      openedAt := host.clock.now
      sampled := 0
      burst := none
      spans := 0 }
  offsets := host.offsets
  drawn := 0
  started := { isSet := false }
  samplingTimer := none
  reportTimer := none
  spanTimer := none
  attempts := []

/-- The profiler that comes of some choices if no timing stands against it. It is not enabled. -/
def chosenProfiler (host : Host) : Profiler where
  watch :=
    { clock := host.clock
      active := { isSet := false }
      recorder := chosenRecorder choices
      schedulers := (chosenSamplers choices host.builtIn).map (setUp host)
      process := host.process
      externalProcess := (lastOf Choice.externalProcess? choices).getD none
      serial := 0
      notices := [] }
  enabled := { isSet := false }

theorem schedule_eq_ok (host : Host) {chosen : Sampler × Timing}
    (valid : chosen.2.validate = .ok ()) : schedule host chosen = .ok (setUp host chosen) := by
  rw [schedule, valid]
  rfl

theorem schedule_eq_error (host : Host) {source : Sampler × Timing} {reason : Timing.Error}
    (invalid : source.2.validate = .error reason) :
    schedule host source = .error (.timing reason) := by
  rw [schedule, invalid]
  rfl

/-- Either all timings can be used, or there is a first one that cannot. -/
theorem valid_or_exists_first (sources : List (Sampler × Timing)) :
    (∀ source ∈ sources, source.2.validate = .ok ()) ∨
      ∃ earlier source later reason, sources = earlier ++ source :: later ∧
        (∀ other ∈ earlier, other.2.validate = .ok ()) ∧ source.2.validate = .error reason := by
  induction sources with
  | nil => exact .inl (List.forall_mem_nil _)
  | cons source rest inductionHypothesis =>
      cases valid : source.2.validate with
      | error reason => exact .inr ⟨[], source, rest, reason, rfl, List.forall_mem_nil _, valid⟩
      | ok =>
          refine inductionHypothesis.imp (fun all => List.forall_mem_cons.mpr ⟨valid, all⟩) ?_
          rintro ⟨earlier, first, later, reason, rfl, fine, invalid⟩
          exact ⟨source :: earlier, first, later, reason, rfl,
            List.forall_mem_cons.mpr ⟨valid, fine⟩, invalid⟩

theorem build_ofChoices_eq (host : Host) :
    (ofChoices choices).build host =
      ((chosenSamplers choices host.builtIn).mapM (schedule host)).map fun schedulers =>
        { chosenProfiler choices host with
          watch := { (chosenProfiler choices host).watch with schedulers := schedulers } } := by
  rw [build, samplers_ofChoices, recorder_ofChoices, externalProcess_ofChoices]
  rfl

theorem build_ofChoices_of_valid {host : Host}
    (valid : ∀ source ∈ chosenSamplers choices host.builtIn, source.2.validate = .ok ()) :
    (ofChoices choices).build host = .ok (chosenProfiler choices host) := by
  rw [build_ofChoices_eq,
    mapM_eq_ok_of_forall fun source member => schedule_eq_ok host (valid source member)]
  rfl

theorem build_ofChoices_of_first {host : Host} {earlier later : List (Sampler × Timing)}
    {source : Sampler × Timing} {reason : Timing.Error}
    (same : chosenSamplers choices host.builtIn = earlier ++ source :: later)
    (valid : ∀ other ∈ earlier, other.2.validate = .ok ())
    (invalid : source.2.validate = .error reason) :
    (ofChoices choices).build host = .error (.timing reason) := by
  rw [build_ofChoices_eq, same, mapM_eq_error_of_first
    (fun other member => ⟨_, schedule_eq_ok host (valid other member)⟩)
    (schedule_eq_error host invalid)]
  rfl

theorem build_ofChoices_eq_ok_iff (host : Host) (profiler : Profiler) :
    (ofChoices choices).build host = .ok profiler ↔
      profiler = chosenProfiler choices host ∧
        ∀ source ∈ chosenSamplers choices host.builtIn, source.2.validate = .ok () := by
  constructor
  · intro built
    rcases valid_or_exists_first (chosenSamplers choices host.builtIn) with valid | found
    · rw [build_ofChoices_of_valid choices valid] at built
      exact ⟨(Except.ok.inj built).symm, valid⟩
    · obtain ⟨earlier, source, later, reason, same, valid, invalid⟩ := found
      cases (build_ofChoices_of_first choices same valid invalid).symm.trans built
  · rintro ⟨rfl, valid⟩
    exact build_ofChoices_of_valid choices valid

theorem build_ofChoices_eq_error_iff (host : Host) (error : Profiler.Error) :
    (ofChoices choices).build host = .error error ↔
      ∃ earlier source later reason,
        chosenSamplers choices host.builtIn = earlier ++ source :: later ∧
        (∀ other ∈ earlier, other.2.validate = .ok ()) ∧
        source.2.validate = .error reason ∧ error = .timing reason := by
  constructor
  · intro failed
    rcases valid_or_exists_first (chosenSamplers choices host.builtIn) with valid | found
    · cases (build_ofChoices_of_valid choices valid).symm.trans failed
    · obtain ⟨earlier, source, later, reason, same, valid, invalid⟩ := found
      rw [build_ofChoices_of_first choices same valid invalid] at failed
      exact ⟨earlier, source, later, reason, same, valid, invalid, (Except.error.inj failed).symm⟩
  · rintro ⟨earlier, source, later, reason, same, valid, invalid, rfl⟩
    exact build_ofChoices_of_first choices same valid invalid

theorem build_ofChoices_fails_iff (host : Host) :
    (∃ error, (ofChoices choices).build host = .error error) ↔
      ∃ source ∈ chosenSamplers choices host.builtIn, source.2.validate ≠ .ok () := by
  cases outcome : (ofChoices choices).build host with
  | ok profiler =>
      have valid := ((build_ofChoices_eq_ok_iff choices host profiler).mp outcome).2
      exact iff_of_false nofun fun ⟨source, member, invalid⟩ => invalid (valid source member)
  | error error =>
      obtain ⟨earlier, source, later, reason, same, -, invalid, -⟩ :=
        (build_ofChoices_eq_error_iff choices host error).mp outcome
      refine iff_of_true ⟨error, rfl⟩ ⟨source, ?_, ?_⟩
      · rw [same]
        exact List.mem_append_right _ List.mem_cons_self
      · rw [invalid]
        exact nofun

/-- The profiler depends on a timing only if its source is measured. -/
theorem build_ofChoices_insert_timing {host : Host} {earlier later : List Choice} {source : Source}
    (unmeasured : chosenEngine? (earlier ++ later) host.builtIn source = none) (timing : Timing) :
    (ofChoices (earlier ++ .timing source timing :: later)).build host =
      (ofChoices (earlier ++ later)).build host := by
  rw [build_ofChoices_eq, build_ofChoices_eq, chosenProfiler, chosenProfiler, chosenRecorder,
    chosenRecorder, chosenSamplers_insert_timing host.builtIn unmeasured, lastOf_insert rfl,
    lastOf_insert rfl, lastOf_insert rfl, lastOf_insert rfl]

/-- The schedulers are those for processor time, heap memory and blocked time, in this order: the
    first unless it was turned off and no engine was given for it since, each of the others if an
    engine was given for it, with the engine and the timing that were given last, or else with what
    is built in. There is no profiler exactly if one of their timings cannot be used, and the error
    is that of the first. The timing of anything that is not measured makes no difference. -/
theorem build_follows_last_choices (choices : List Choice) (host : Host) :
    let wanted := chosenSamplers choices host.builtIn
    let built := (ofChoices choices).build host
    (chosenEngine? choices host.builtIn .cpu = none ↔
      ∃ earlier later, choices = earlier ++ .withoutCpu :: later ∧
        ∀ engine, Choice.engine .cpu engine ∉ later) ∧
    (∀ source, source ≠ .cpu →
      (chosenEngine? choices host.builtIn source = none ↔
        ∀ engine, Choice.engine source engine ∉ choices)) ∧
    (∀ source engine, chosenEngine? choices host.builtIn source = some engine ↔
      (∃ earlier later, choices = earlier ++ .engine source engine :: later ∧
        (∀ other, Choice.engine source other ∉ later) ∧
          (source = .cpu → Choice.withoutCpu ∉ later)) ∨
      source = .cpu ∧ engine = host.builtIn ∧ (∀ other, Choice.engine .cpu other ∉ choices) ∧
        Choice.withoutCpu ∉ choices) ∧
    (∀ source timing, chosenTiming choices source = timing ↔
      (∃ earlier later, choices = earlier ++ .timing source timing :: later ∧
        ∀ other, Choice.timing source other ∉ later) ∨
      timing = usualTiming source ∧ ∀ other, Choice.timing source other ∉ choices) ∧
    (∀ profiler, built = .ok profiler ↔
      profiler = chosenProfiler choices host ∧
        ∀ source ∈ wanted, source.2.validate = .ok ()) ∧
    ((∃ error, built = .error error) ↔ ∃ source ∈ wanted, source.2.validate ≠ .ok ()) ∧
    (∀ error, built = .error error ↔
      ∃ earlier source later reason, wanted = earlier ++ source :: later ∧
        (∀ other ∈ earlier, other.2.validate = .ok ()) ∧
        source.2.validate = .error reason ∧ error = .timing reason) ∧
    ∀ earlier later source timing, choices = earlier ++ later →
      chosenEngine? choices host.builtIn source = none →
      (ofChoices (earlier ++ .timing source timing :: later)).build host = built := by
  intro wanted built
  refine ⟨cpu_unmeasured_iff choices host.builtIn,
    fun source other => unmeasured_iff choices host.builtIn other,
    chosenEngine?_eq_some_iff choices host.builtIn, chosenTiming_eq_iff choices,
    build_ofChoices_eq_ok_iff choices host, build_ofChoices_fails_iff choices host,
    build_ofChoices_eq_error_iff choices host, ?_⟩
  rintro earlier later source timing rfl unmeasured
  exact build_ofChoices_insert_timing unmeasured timing

/-- A process of which the built-in engine cannot sample anything. -/
def plainHost : Host :=
  { clock := { startedAt := 0 }
    process := "observed"
    builtIn :=
      { startAnswer := fun _ => .failed .notRunning
        writeAnswer := fun _ => .failed .notRunning }
    offsets := fun _ => 0 }

/-- Engines that are told apart by the rates that were set before. -/
def givenEngine (rate : Int) : Engine :=
  { startAnswer := fun _ => .returned ()
    writeAnswer := fun _ => .failed .notRunning
    rates := [rate] }

/-- The usual timing, but there is no time between two bursts. -/
def crowdedTiming (source : Source) : Timing :=
  { usualTiming source with samplingInterval := (usualTiming source).maxSpanDuration }

/-- Processor time is turned off and on again, an engine and a timing are replaced, and a timing
    that cannot be used is left for blocked time, which nobody measures. -/
def contestedChoices : List Choice :=
  [.timing .cpu (crowdedTiming .cpu), .engine .heap (givenEngine 1), .withoutCpu,
    .timing .block (crowdedTiming .block), .engine .cpu (givenEngine 2),
    .timing .cpu (usualTiming .block), .engine .heap (givenEngine 3)]

/-- The timing of blocked time counts as soon as there is an engine for it, and that of processor
    time stands before it. -/
theorem build_follows_last_choices_contested :
    let cpu : Sampler := .cpu { engine := givenEngine 2, filter := {} }
    let heap : Sampler := .heap { engine := givenEngine 3, filter := {} }
    let measured : List Choice := contestedChoices ++ [.engine .block (givenEngine 4)]
    (∃ profiler, (ofChoices contestedChoices).build plainHost = .ok profiler ∧
        profiler.watch.schedulers =
          [setUp plainHost (cpu, usualTiming .block), setUp plainHost (heap, usualTiming .heap)]) ∧
      (ofChoices measured).build plainHost =
        .error (.timing (.samplingIntervalTooShort "block" (Duration.ofSeconds 4)
          (Duration.ofSeconds 4))) ∧
      (ofChoices (measured ++ [.timing .cpu (crowdedTiming .cpu)])).build plainHost =
        .error (.timing (.samplingIntervalTooShort "cpu" (Duration.ofSeconds 2)
          (Duration.ofSeconds 2))) := by
  intro cpu heap measured
  obtain ⟨-, -, -, -, ok, -⟩ := build_follows_last_choices contestedChoices plainHost
  obtain ⟨-, -, -, -, -, -, failsAtBlock, -⟩ := build_follows_last_choices measured plainHost
  obtain ⟨-, -, -, -, -, -, failsAtCpu, -⟩ :=
    build_follows_last_choices (measured ++ [.timing .cpu (crowdedTiming .cpu)]) plainHost
  have cpuValid : (usualTiming .block).validate = .ok () := rfl
  have heapValid : (usualTiming .heap).validate = .ok () := rfl
  refine ⟨⟨_, (ok _).mpr ⟨rfl, ?_⟩, rfl⟩, (failsAtBlock _).mpr ?_, (failsAtCpu _).mpr ?_⟩
  · exact List.forall_mem_cons.mpr ⟨cpuValid, List.forall_mem_singleton.mpr heapValid⟩
  · refine ⟨[(cpu, usualTiming .block), (heap, usualTiming .heap)], _, [], _, rfl, ?_, rfl, rfl⟩
    exact List.forall_mem_cons.mpr ⟨cpuValid, List.forall_mem_singleton.mpr heapValid⟩
  · exact ⟨[], _, _, _, rfl, List.forall_mem_nil _, rfl, rfl⟩

end Settings

end Stackwatch

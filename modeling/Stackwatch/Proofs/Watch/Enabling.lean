import Stackwatch.Proofs.Watch.CleanWindow
import Stackwatch.Proofs.Watch.Profiler

/-!
# Enabling and disabling

A profiler has a flag of its own, and so have its recorder and each of its schedulers; who is in
charge of timers starts them only if the flag is clear. The main statement says that all these flags
agree at all times: from the call that enables the profiler to the one that disables it there is one
flush timer, one report timer for each scheduler and one sampling timer for each that samples, all
started by that call and never again, and at any other time there is none. All of these run, but for
those whose intervals reach beyond the end of the clock, which never do.
-/

namespace Stackwatch

theorem Timing.reportInterval_ne_zero {timing : Timing} (valid : timing.validate = .ok ()) :
    timing.reportInterval ≠ 0 := by
  intro none
  rw [validate, if_pos none] at valid
  cases valid

/-! ### What leaves the timers to themselves -/

/-- A scheduler that nobody starts or stops: its timers go on by themselves. -/
structure Scheduler.GoesOn (scheduler after : Scheduler) : Prop where
  timing : after.timing = scheduler.timing
  started : after.started = scheduler.started
  samplingTimer : Timer.GoesOn scheduler.samplingTimer after.samplingTimer
  reportTimer : Timer.GoesOn scheduler.reportTimer after.reportTimer

namespace Watch

/-- An operation that starts and stops nothing but bursts. -/
def Operation.LeavesTimers : Operation → Prop
  | .start _ => False
  | .stop _ => False
  | .updateRecorder change =>
      ∃ event : Recorder.Event, event.LeavesTimer ∧ change = (·.apply event)
  | _ => True

variable {operation : Operation} (leaves : operation.LeavesTimers)

include leaves

theorem goesOn_recorder (watch : Watch) :
    watch.recorder.GoesOn (watch.apply operation).recorder := by
  have reports (index : Nat) : watch.recorder.GoesOn (watch.report index).2.recorder := by
    obtain ⟨outbox, same⟩ := exists_recorder_report_eq watch index
    rw [same]
    exact ⟨.begun, rfl, rfl⟩
  have runs (index : Nat) (event : Flag → Scheduler → Scheduler.Step) :
      watch.recorder.GoesOn (watch.runScheduler index event).recorder := by
    unfold runScheduler
    split <;> exact .refl watch.recorder
  -- The notices of a recorder are taken over by the watch.
  have told {recorder : Recorder} (goesOn : watch.recorder.GoesOn recorder) :
      watch.recorder.GoesOn { recorder with notices := [] } :=
    ⟨goesOn.timer, goesOn.started, goesOn.flushInterval⟩
  cases operation with
  | beginBurst other =>
      simp only [apply, beginBurst]
      split <;> exact .refl watch.recorder
  | endBurst other =>
      simp only [apply, endBurst]
      split <;> exact .refl watch.recorder
  | report other => exact reports other
  | start other => cases leaves
  | stop other => cases leaves
  | moveTo instant => exact .refl watch.recorder
  | updateRecorder change =>
      obtain ⟨event, leavesTimer, rfl⟩ := leaves
      exact told (watch.recorder.goesOn_apply leavesTimer)
  | perform task =>
      cases task with
      | sendingEnds => exact told (Recorder.goesOn_sendingEnds watch.clock watch.recorder)
      | flushTick => exact told (Recorder.goesOn_tick watch.clock watch.recorder)
      | samplingTick other => exact .refl watch.recorder
      | attemptDue other attempt => exact runs other _
      | spanEnds other => exact runs other _
      | reportTick other =>
          rw [apply, recorder_reportTick]
          exact reports other

theorem goesOn_schedulerAfter (watch : Watch) (index : Nat) (scheduler : Scheduler) :
    scheduler.GoesOn (watch.schedulerAfter index scheduler operation) := by
  have ofOwn {own : Prop} [Decidable own] {changed : Scheduler}
      (after : scheduler.GoesOn changed) :
      scheduler.GoesOn (if own then changed else scheduler) :=
    of_own ⟨rfl, rfl, .begun, .begun⟩ fun _ => after
  cases operation with
  | beginBurst other => exact ofOwn ⟨rfl, rfl, .begun, .begun⟩
  | endBurst other => exact ofOwn ⟨rfl, rfl, .begun, .begun⟩
  | report other => exact ofOwn ⟨rfl, rfl, .begun, .begun⟩
  | start other => cases leaves
  | stop other => cases leaves
  | moveTo instant => exact ⟨rfl, rfl, .begun, .begun⟩
  | updateRecorder change => exact ⟨rfl, rfl, .begun, .begun⟩
  | perform task =>
      cases task with
      | sendingEnds => exact ⟨rfl, rfl, .begun, .begun⟩
      | flushTick => exact ⟨rfl, rfl, .begun, .begun⟩
      | samplingTick other => exact ofOwn ⟨rfl, rfl, Timer.GoesOn.begun.fired watch.now, .begun⟩
      | attemptDue other attempt =>
          have attempted :=
            Scheduler.attempted_attemptDue watch.now attempt watch.active scheduler
          refine ofOwn ⟨attempted.timing, (Scheduler.attemptDue_keeps ..).2, ?_, ?_⟩
          · rw [attempted.samplingTimer]
            split
            · exact Timer.GoesOn.begun.jobEnded
            · exact .begun
          · rw [attempted.reportTimer]
            exact .begun
      | spanEnds other => exact ofOwn ⟨rfl, rfl, .begun, .begun⟩
      | reportTick other =>
          have fired : Timer.GoesOn scheduler.reportTimer
              ((scheduler.reportTimer.map (Timer.fire watch.now)).map Timer.jobEnded) :=
            (Timer.GoesOn.begun.fired watch.now).jobEnded
          rw [Option.map_map] at fired
          exact ofOwn ⟨rfl, rfl, .begun, fired⟩

end Watch

/-! ### Timers in step -/

/-- A scheduler that was last started at some time, or that is not started. -/
structure Scheduler.InStep (since : Option Instant) (scheduler : Scheduler) : Prop where
  valid : scheduler.timing.validate = .ok ()
  started : scheduler.started.isSet = since.isSome
  samplingTimer : Timer.GoesOn
    (if scheduler.timing.reportOnly then none
      else since.map fun time => .every time scheduler.timing.samplingInterval)
    scheduler.samplingTimer
  reportTimer : Timer.GoesOn
    (since.map fun time => .every time scheduler.timing.reportInterval) scheduler.reportTimer

/-- A recorder that was last started at some time, or that is not started. -/
structure Recorder.InStep (since : Option Instant) (recorder : Recorder) : Prop where
  lasting : recorder.flushInterval ≠ 0
  started : recorder.started.isSet = since.isSome
  timer : Timer.GoesOn (since.map fun time => .every time recorder.flushInterval) recorder.timer

section Steps

variable {since : Option Instant} (now : Instant)

theorem Scheduler.InStep.goesOn {scheduler after : Scheduler} (inStep : scheduler.InStep since)
    (goesOn : scheduler.GoesOn after) : after.InStep since where
  valid := goesOn.timing ▸ inStep.valid
  started := by rw [goesOn.started, inStep.started]
  samplingTimer := by
    rw [goesOn.timing]
    exact inStep.samplingTimer.trans goesOn.samplingTimer
  reportTimer := by
    rw [goesOn.timing]
    exact inStep.reportTimer.trans goesOn.reportTimer

theorem Scheduler.InStep.start {scheduler : Scheduler} (inStep : scheduler.InStep none) :
    (scheduler.start now).InStep (some now) := by
  have stopped : ¬ scheduler.started.isSet = true := by simp [inStep.started]
  rw [Scheduler.start, if_neg stopped]
  exact ⟨inStep.valid, rfl, .begun, .begun⟩

theorem Scheduler.InStep.stop {scheduler : Scheduler} (inStep : scheduler.InStep since) :
    scheduler.stop.InStep none where
  valid := inStep.valid
  started := rfl
  samplingTimer := by
    rw [Option.map_none, ite_self]
    exact .begun
  reportTimer := .begun

/-- A scheduler that is started has a new window. -/
theorem Scheduler.InStep.renewed {scheduler : Scheduler} (inStep : scheduler.InStep none) :
    scheduler.window.Renewed now (scheduler.start now).window := by
  have stopped : ¬ scheduler.started.isSet = true := by simp [inStep.started]
  rw [Scheduler.start, if_neg stopped]
  exact Window.renewed_renew now scheduler.window

theorem Recorder.InStep.goesOn {recorder after : Recorder} (inStep : recorder.InStep since)
    (goesOn : recorder.GoesOn after) : after.InStep since where
  lasting := goesOn.flushInterval ▸ inStep.lasting
  started := by rw [goesOn.started, inStep.started]
  timer := by
    rw [goesOn.flushInterval]
    exact inStep.timer.trans goesOn.timer

theorem Recorder.InStep.start {recorder : Recorder} (inStep : recorder.InStep none)
    (clock : Clock) : (recorder.start clock).InStep (some clock.now) := by
  have stopped : ¬ recorder.started.isSet = true := by simp [inStep.started]
  rw [Recorder.start, if_neg stopped]
  exact ⟨inStep.lasting, rfl, .begun⟩

theorem Recorder.InStep.stop {recorder : Recorder} (inStep : recorder.InStep since) :
    recorder.stop.InStep none where
  lasting := inStep.lasting
  started := rfl
  timer := .begun

end Steps

/-! ### Which timers there are -/

namespace Scheduler

def timers (scheduler : Scheduler) : List Timer :=
  scheduler.samplingTimer.toList ++ scheduler.reportTimer.toList

/-- The intervals at which a scheduler that is started reports and, if it does more than that,
    samples. -/
def intervals (scheduler : Scheduler) : List Duration :=
  if scheduler.timing.reportOnly then [scheduler.timing.reportInterval]
  else [scheduler.timing.samplingInterval, scheduler.timing.reportInterval]

end Scheduler

section Intervals

variable {since : Option Instant}

theorem Scheduler.InStep.map_interval_timers {scheduler : Scheduler}
    (inStep : scheduler.InStep since) :
    scheduler.timers.map Timer.interval = if since.isSome then scheduler.intervals else [] := by
  rw [timers, List.map_append, ← Option.toList_map, ← Option.toList_map,
    inStep.samplingTimer.map_interval, inStep.reportTimer.map_interval, intervals]
  cases since with
  | none => simp
  | some time => cases scheduler.timing.reportOnly <;> simp [Timer.interval_every]

theorem Recorder.InStep.map_interval_timer {recorder : Recorder}
    (inStep : recorder.InStep since) :
    recorder.timer.toList.map Timer.interval =
      if since.isSome then [recorder.flushInterval] else [] := by
  rw [← Option.toList_map, inStep.timer.map_interval]
  cases since with
  | none => rfl
  | some time => simp [Timer.interval_every]

theorem Recorder.InStep.runs_timer_iff {recorder : Recorder} (inStep : recorder.InStep since) :
    Timer.Runs recorder.timer ↔
      since.isSome = true ∧ Timer.isEndless recorder.flushInterval = false :=
  inStep.timer.runs_iff_of_every inStep.lasting

theorem Recorder.InStep.runsIfItCan {recorder : Recorder} (inStep : recorder.InStep since) :
    ∀ timer ∈ recorder.timer.toList, timer.RunsIfItCan := by
  intro timer member
  exact inStep.timer.runsIfItCan_of_every inStep.lasting timer (Option.mem_toList.mp member)

namespace Scheduler.InStep

variable {scheduler : Scheduler} (inStep : scheduler.InStep since)

include inStep

theorem runs_reportTimer_iff :
    Timer.Runs scheduler.reportTimer ↔
      since.isSome = true ∧ Timer.isEndless scheduler.timing.reportInterval = false :=
  inStep.reportTimer.runs_iff_of_every (Timing.reportInterval_ne_zero inStep.valid)

/-- What a scheduler that samples has for a sampling timer, and for how long it waits. -/
theorem goesOn_samplingTimer (samples : scheduler.timing.reportOnly = false) :
    Timer.GoesOn (since.map fun time => .every time scheduler.timing.samplingInterval)
        scheduler.samplingTimer ∧
      scheduler.timing.samplingInterval ≠ 0 := by
  have goesOn := inStep.samplingTimer
  rw [samples] at goesOn
  exact ⟨goesOn, Nat.ne_zero_of_lt (Timing.room_of_validate inStep.valid samples)⟩

theorem runs_samplingTimer_iff (samples : scheduler.timing.reportOnly = false) :
    Timer.Runs scheduler.samplingTimer ↔
      since.isSome = true ∧ Timer.isEndless scheduler.timing.samplingInterval = false := by
  obtain ⟨goesOn, lasting⟩ := inStep.goesOn_samplingTimer samples
  exact goesOn.runs_iff_of_every lasting

theorem runsIfItCan : ∀ timer ∈ scheduler.timers, timer.RunsIfItCan := by
  intro timer member
  rw [timers, List.mem_append, Option.mem_toList, Option.mem_toList] at member
  rcases member with sampling | reporting
  · cases samples : scheduler.timing.reportOnly with
    | true =>
        have goesOn := inStep.samplingTimer
        rw [samples] at goesOn
        cases (goesOn.eq_none rfl).symm.trans sampling
    | false =>
        obtain ⟨goesOn, lasting⟩ := inStep.goesOn_samplingTimer samples
        exact goesOn.runsIfItCan_of_every lasting timer sampling
  · have lasting := Timing.reportInterval_ne_zero inStep.valid
    exact inStep.reportTimer.runsIfItCan_of_every lasting timer reporting

end Scheduler.InStep

end Intervals

namespace Profiler

/-- A profiler that was last enabled at some time, or that is not enabled: all its parts agree. -/
structure InStep (since : Option Instant) (profiler : Profiler) : Prop where
  enabled : profiler.enabled.isSet = since.isSome
  recorder : profiler.watch.recorder.InStep since
  schedulers : ∀ scheduler ∈ profiler.watch.schedulers, scheduler.InStep since

/-- An action other than enabling and disabling that starts and stops nothing but bursts. -/
def Action.LeavesTimers : Action → Prop
  | .happen operation => operation.LeavesTimers
  | _ => True

/-- Since when a profiler is enabled after an action. -/
def Action.enabledSince (now : Instant) (since : Option Instant) : Action → Option Instant
  | .enable true => some (since.getD now)
  | .enable false => since
  | .disable => none
  | .happen _ => since

/-- Since when a profiler is enabled after some actions. -/
def enabledSince : Profiler → Option Instant → List Action → Option Instant
  | _, since, [] => since
  | profiler, since, action :: rest =>
      (profiler.apply action).enabledSince (action.enabledSince profiler.watch.now since) rest

section Steps

variable {profiler : Profiler} {since : Option Instant}

theorem InStep.start (inStep : profiler.InStep none) :
    profiler.start.InStep (some profiler.watch.now) := by
  have disabled : ¬ profiler.enabled.isSet = true := by simp [inStep.enabled]
  rw [Profiler.start, if_neg disabled]
  refine ⟨rfl, inStep.recorder.start profiler.watch.clock, List.forall_mem_map.mpr ?_⟩
  exact fun scheduler member => (inStep.schedulers scheduler member).start profiler.watch.now

/-- Who is enabled already is left as it is. -/
theorem start_of_enabled (enabled : profiler.enabled.isSet = true) : profiler.start = profiler := by
  rw [Profiler.start, if_pos enabled]

theorem InStep.disable (inStep : profiler.InStep since) : profiler.disable.InStep none := by
  cases since with
  | none =>
      have disabled : ¬ profiler.enabled.isSet = true := by simp [inStep.enabled]
      rwa [Profiler.disable, if_neg disabled]
  | some time =>
      have enabled : profiler.enabled.isSet = true := inStep.enabled
      rw [Profiler.disable, if_pos enabled]
      refine ⟨rfl, inStep.recorder.stop, List.forall_mem_map.mpr ?_⟩
      exact fun scheduler member => (inStep.schedulers scheduler member).stop

theorem InStep.happen {operation : Watch.Operation} (inStep : profiler.InStep since)
    (leaves : operation.LeavesTimers) : (profiler.apply (.happen operation)).InStep since where
  enabled := inStep.enabled
  recorder := inStep.recorder.goesOn (Watch.goesOn_recorder leaves profiler.watch)
  schedulers := by
    intro after member
    obtain ⟨index, found⟩ := List.mem_iff_getElem?.mp member
    obtain ⟨scheduler, foundBefore, rfl⟩ := Watch.exists_of_getElem?_apply found
    exact (inStep.schedulers scheduler (List.mem_of_getElem? foundBefore)).goesOn
      (Watch.goesOn_schedulerAfter leaves profiler.watch index scheduler)

/-- Every action leaves all parts in step. -/
theorem InStep.apply {action : Action} (inStep : profiler.InStep since)
    (leaves : action.LeavesTimers) :
    (profiler.apply action).InStep (action.enabledSince profiler.watch.now since) := by
  cases action with
  | disable => exact inStep.disable
  | happen operation => exact inStep.happen leaves
  | enable insideRuntime =>
      cases insideRuntime with
      | false => exact inStep
      | true =>
          cases since with
          | none => exact inStep.start
          | some time =>
              have same : profiler.apply (.enable true) = profiler :=
                start_of_enabled inStep.enabled
              rw [same]
              exact inStep

theorem InStep.run {actions : List Action} (inStep : profiler.InStep since)
    (leaves : ∀ action ∈ actions, action.LeavesTimers) :
    (profiler.run actions).InStep (profiler.enabledSince since actions) := by
  induction actions generalizing profiler since with
  | nil => exact inStep
  | cons action rest inductionHypothesis =>
      obtain ⟨leavesNow, leavesRest⟩ := List.forall_mem_cons.mp leaves
      exact inductionHypothesis (inStep.apply leavesNow) leavesRest

end Steps

/-- A profiler that was just built has no timers. -/
theorem inStep_of_build {host : Host} {settings : Settings} {profiler : Profiler}
    (built : settings.build host = .ok profiler) (lasting : settings.flushInterval ≠ some 0) :
    profiler.InStep none := by
  unfold Settings.build at built
  obtain ⟨schedulers, mapped, same⟩ := exists_of_bind built
  cases same
  refine ⟨rfl, ⟨?_, rfl, .begun⟩, fun scheduler member => ?_⟩
  · show settings.flushInterval.getD Settings.defaultFlushInterval ≠ 0
    cases chosen : settings.flushInterval with
    | none => decide
    | some interval => exact fun none => lasting (chosen.trans (congrArg some none))
  · obtain ⟨source, -, made⟩ := exists_mem_of_mapM mapped member
    obtain ⟨_, accepted, same⟩ := exists_of_bind made
    cases same
    refine ⟨eq_ok_of_mapError accepted, rfl, ?_, .begun⟩
    rw [Option.map_none, ite_self]
    exact .begun

/-! ### Which timers there are -/

/-- The timers of a profiler, with that for flushing first. -/
def timers (profiler : Profiler) : List Timer :=
  profiler.watch.recorder.timer.toList ++ profiler.watch.schedulers.flatMap Scheduler.timers

/-- The intervals at which an enabled profiler does something. -/
def intervals (profiler : Profiler) : List Duration :=
  profiler.watch.recorder.flushInterval :: profiler.watch.schedulers.flatMap Scheduler.intervals

/-- All timers that a profiler needs are running. -/
structure TimersRun (profiler : Profiler) : Prop where
  flush : Timer.Runs profiler.watch.recorder.timer
  report : ∀ scheduler ∈ profiler.watch.schedulers, Timer.Runs scheduler.reportTimer
  sampling : ∀ scheduler ∈ profiler.watch.schedulers, scheduler.timing.reportOnly = false →
    Timer.Runs scheduler.samplingTimer

section Views

variable {profiler : Profiler} {since : Option Instant} (inStep : profiler.InStep since)

include inStep

theorem InStep.map_interval_timers :
    profiler.timers.map Timer.interval = if since.isSome then profiler.intervals else [] := by
  have schedulers : profiler.watch.schedulers.flatMap
        (fun scheduler => scheduler.timers.map Timer.interval) =
      profiler.watch.schedulers.flatMap fun scheduler =>
        if since.isSome then scheduler.intervals else [] :=
    List.flatMap_congr fun scheduler member =>
      (inStep.schedulers scheduler member).map_interval_timers
  rw [timers, List.map_append, List.map_flatMap, schedulers, inStep.recorder.map_interval_timer]
  cases since with
  | none => simp
  | some time => rfl

theorem InStep.timers_eq_nil (disabled : since = none) : profiler.timers = [] := by
  subst disabled
  exact List.map_eq_nil_iff.mp inStep.map_interval_timers

theorem InStep.runsIfItCan : ∀ timer ∈ profiler.timers, timer.RunsIfItCan := by
  intro timer member
  rw [timers, List.mem_append, List.mem_flatMap] at member
  rcases member with flushing | ⟨scheduler, present, own⟩
  · exact inStep.recorder.runsIfItCan timer flushing
  · exact (inStep.schedulers scheduler present).runsIfItCan timer own

/-- All timers run exactly if they were started and none of their intervals is too long. -/
theorem InStep.timersRun_iff :
    profiler.TimersRun ↔
      since.isSome = true ∧ ∀ interval ∈ profiler.intervals, Timer.isEndless interval = false := by
  rw [intervals, List.forall_mem_cons, List.forall_mem_flatMap]
  constructor
  · rintro ⟨flush, report, sampling⟩
    obtain ⟨started, flushEnds⟩ := inStep.recorder.runs_timer_iff.mp flush
    refine ⟨started, flushEnds, ?_⟩
    intro scheduler member
    have own := inStep.schedulers scheduler member
    have reportEnds := (own.runs_reportTimer_iff.mp (report scheduler member)).2
    cases samples : scheduler.timing.reportOnly with
    | true => simpa [Scheduler.intervals, samples] using reportEnds
    | false =>
        have runs := sampling scheduler member samples
        have samplingEnds := ((own.runs_samplingTimer_iff samples).mp runs).2
        simpa [Scheduler.intervals, samples] using ⟨samplingEnds, reportEnds⟩
  · rintro ⟨started, flushEnds, ends⟩
    refine ⟨inStep.recorder.runs_timer_iff.mpr ⟨started, flushEnds⟩, ?_, ?_⟩
    · intro scheduler member
      have own := inStep.schedulers scheduler member
      refine own.runs_reportTimer_iff.mpr ⟨started, ends scheduler member _ ?_⟩
      rw [Scheduler.intervals]
      split <;> simp
    · intro scheduler member samples
      have own := inStep.schedulers scheduler member
      refine (own.runs_samplingTimer_iff samples).mpr ⟨started, ends scheduler member _ ?_⟩
      simp [Scheduler.intervals, samples]

/-- Who is enabled now gets new windows. -/
theorem InStep.renewed (disabled : since = none) {index : Nat} {scheduler : Scheduler}
    (found : profiler.watch.schedulers[index]? = some scheduler) :
    ∃ after, profiler.start.watch.schedulers[index]? = some after ∧
      scheduler.window.Renewed profiler.watch.now after.window := by
  subst disabled
  have disabled : ¬ profiler.enabled.isSet = true := by simp [inStep.enabled]
  have own := inStep.schedulers scheduler (List.mem_of_getElem? found)
  refine ⟨scheduler.start profiler.watch.now, ?_, own.renewed profiler.watch.now⟩
  rw [Profiler.start, if_neg disabled, List.getElem?_map, found, Option.map_some]

end Views

/-- A profiler of processor time and of heap memory, which is only reported. -/
def heapProfiler : Profiler :=
  { cpuProfiler with
    watch :=
      { cpuProfiler.watch with
        schedulers := cpuProfiler.watch.schedulers ++
          [.create (.heap { engine := observedProcess.builtIn, filter := {} }) .allocation
            observedProcess.offsets observedProcess.clock.now] } }

/-- The profiler is enabled twice, disabled after its first flush, and enabled again. -/
def onAndOff : List Action :=
  [.enable false, .enable true, .enable true, .happen (.moveTo (Duration.ofMillis 5000)),
    .happen (.perform .flushTick), .disable, .happen (.moveTo (Duration.ofMillis 6000)),
    .enable true]

/-- Profiles are to be delivered once in the longest time there is. -/
def unflushedSettings : Settings :=
  { flushInterval := some (Duration.ofSeconds 18446744073709551615) }

def unflushedProfiler : Profiler :=
  { cpuProfiler with
    watch := { cpuProfiler.watch with recorder := unflushedSettings.recorder } }

end Profiler

end Stackwatch

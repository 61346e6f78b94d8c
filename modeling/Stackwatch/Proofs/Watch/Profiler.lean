import Stackwatch.Proofs.Snapshot.Values
import Stackwatch.Proofs.Watch.Shutdown
import Stackwatch.Watch.Settings

/-!
# Shutting a profiler down

A profiler can be enabled and disabled at any time. The main statement follows it from the moment in
which it is disabled: no burst and no report begins any more, not even from a sampling tick whose
attempt was put off and is still to come; the bursts under way end at their own time; and when the
longest span has passed no sampler is capturing, and the flag is clear.
-/

namespace Stackwatch

namespace Profiler

/-- What can be done to a profiler, or can happen to it. -/
inductive Action where
  | enable (insideRuntime : Bool)
  | disable
  /-- Something happens to the watch. -/
  | happen (operation : Watch.Operation)

def apply (profiler : Profiler) : Action → Profiler
  | .enable insideRuntime => (profiler.enable insideRuntime).2
  | .disable => profiler.disable
  | .happen operation => { profiler with watch := profiler.watch.apply operation }

/-- Carries out actions one after the other. -/
def run (profiler : Profiler) (actions : List Action) : Profiler := actions.foldl apply profiler

/-- The calls of samplers that some actions make. -/
def calls : Profiler → List Action → List Watch.Call
  | _, [] => []
  | profiler, action :: rest =>
      (match action with
        | .happen operation => profiler.watch.callsOf operation
        | _ => []) ++ (profiler.apply action).calls rest

/-- A profiler can always be enabled or disabled; what happens does so by itself. -/
def Timely (profiler : Profiler) : Action → Prop
  | .happen operation => profiler.watch.Timely operation ∧ operation.LeavesSchedulers
  | _ => True

/-- Actions that can come one after the other. -/
def Plays : Profiler → List Action → Prop
  | _, [] => True
  | profiler, action :: rest => profiler.Timely action ∧ (profiler.apply action).Plays rest

/-- What happens to the watch while some actions are carried out. -/
def happenings (actions : List Action) : List Watch.Operation :=
  actions.filterMap fun
    | .happen operation => some operation
    | _ => none

/-- A profiler that was never enabled. Its samplers do not crash, and the spans of those that sample
    take some time, in whole milliseconds. -/
structure Fresh (profiler : Profiler) : Prop where
  disabled : profiler.enabled.isSet = false
  clear : profiler.watch.active.isSet = false
  recorder : profiler.watch.recorder.Steady
  schedulers : ∀ scheduler ∈ profiler.watch.schedulers,
    ∃ (sampler : Sampler) (timing : Timing) (offsets : Nat → Duration) (created : Instant),
      scheduler = .create sampler timing offsets created ∧ Scheduler.Apt timing offsets ∧
        sampler.Calm ∧ sampler.running = false

/-- The samplers of a profiler that is built do not capture. -/
theorem running_of_mem_samplers {settings : Settings} {builtIn : Engine} {source : Sampler × Timing}
    (member : source ∈ settings.samplers builtIn) : source.1.running = false := by
  obtain ⟨kind, -, made⟩ := List.mem_filterMap.mp member
  obtain ⟨engine, -, rfl⟩ := Option.map_eq_some_iff.mp made
  cases kind <;> rfl

/-- A profiler is built afresh. -/
theorem fresh_of_build {host : Host} {settings : Settings} {profiler : Profiler}
    (built : settings.build host = .ok profiler)
    (calm : ∀ source ∈ settings.samplers host.builtIn, source.1.Calm)
    (apt : ∀ source ∈ settings.samplers host.builtIn, source.2.reportOnly = false →
      source.2.maxSpanDuration ≠ 0 ∧ 1000000 ∣ source.2.maxSpanDuration ∧
        ∀ count, host.offsets count < source.2.offsetRange) : profiler.Fresh := by
  unfold Settings.build at built
  obtain ⟨schedulers, mapped, same⟩ := exists_of_bind built
  cases same
  refine ⟨rfl, rfl, fun _ => nofun, fun scheduler member => ?_⟩
  obtain ⟨source, among, made⟩ := exists_mem_of_mapM mapped member
  obtain ⟨_, accepted, same⟩ := exists_of_bind made
  cases same
  have valid : source.2.validate = .ok () := eq_ok_of_mapError accepted
  exact ⟨_, _, _, _, rfl, ⟨valid, fun sampling => (apt source among sampling).1,
    fun sampling => (apt source among sampling).2.1,
    fun sampling => (apt source among sampling).2.2⟩, calm source among,
    running_of_mem_samplers among⟩

/-! ### Orderly profilers -/

/-- A profiler that can be shut down. -/
structure Orderly (profiler : Profiler) : Prop where
  watch : profiler.watch.Orderly
  halted : profiler.enabled.isSet = false → profiler.watch.Halted

theorem Fresh.orderly {profiler : Profiler} (fresh : profiler.Fresh) : profiler.Orderly := by
  have created {index : Nat} {scheduler : Scheduler}
      (found : profiler.watch.schedulers[index]? = some scheduler) :=
    fresh.schedulers scheduler (List.mem_of_getElem? found)
  have idle (index : Nat) : profiler.watch.burst index = none := by
    by_contra some
    obtain ⟨begun, underWay⟩ := Option.ne_none_iff_exists'.mp some
    obtain ⟨window, foundWindow, burst⟩ := Option.bind_eq_some_iff.mp underWay
    obtain ⟨scheduler, found, rfl⟩ := Option.map_eq_some_iff.mp foundWindow
    obtain ⟨sampler, timing, offsets, instant, rfl, -⟩ := created found
    cases burst
  refine ⟨⟨.of_idle idle fresh.clear, ⟨fresh.recorder, ?_⟩, ?_, ?_⟩, fun _ => ?_⟩
  · intro index scheduler found
    obtain ⟨sampler, timing, offsets, instant, rfl, -⟩ := created found
    exact Scheduler.steady_create ..
  · intro index window foundWindow
    obtain ⟨scheduler, found, rfl⟩ := Option.map_eq_some_iff.mp foundWindow
    obtain ⟨sampler, timing, offsets, instant, rfl, -, calm, still⟩ := created found
    refine ⟨calm, fun running => ?_⟩
    cases still.symm.trans running
  · intro index scheduler found
    obtain ⟨sampler, timing, offsets, instant, rfl, apt, -⟩ := created found
    exact ⟨Scheduler.orderly_create sampler apt ..,
      Scheduler.disarmed_create sampler timing offsets instant⟩
  · intro index scheduler found
    obtain ⟨sampler, timing, offsets, instant, rfl, -⟩ := created found
    rfl

section

variable {profiler : Profiler}

theorem burst_start (scheduler : Scheduler) (now : Instant) :
    (scheduler.start now).window.burst = scheduler.window.burst := by
  unfold Scheduler.start
  split <;> rfl

theorem held_start {scheduler : Scheduler} (now : Instant) (held : scheduler.window.Held) :
    (scheduler.start now).window.Held := by
  unfold Scheduler.start
  split
  · exact held
  · exact held.renew

theorem Orderly.start (orderly : profiler.Orderly) : profiler.start.Orderly := by
  unfold Profiler.start
  split
  · exact orderly
  · refine ⟨?_, nofun⟩
    refine orderly.watch.changed (Scheduler.start profiler.watch.now) rfl rfl rfl
      (Recorder.Steady.start _ orderly.watch.steady.recorder) fun scheduler => ?_
    exact ⟨burst_start scheduler _, held_start _, fun steady => steady.start _,
      Scheduler.Orderly.start, Scheduler.disarmed_start⟩

theorem Orderly.disable (orderly : profiler.Orderly) : profiler.disable.Orderly := by
  unfold Profiler.disable
  split
  · refine ⟨?_, fun _ index scheduler found => ?_⟩
    · refine orderly.watch.changed Scheduler.stop rfl rfl rfl (fun _ => nofun)
        fun scheduler => ?_
      exact ⟨rfl, id, Scheduler.Steady.stop, Scheduler.Orderly.stop,
        fun _ => Scheduler.disarmed_stop⟩
    · rw [List.getElem?_map] at found
      obtain ⟨before, -, rfl⟩ := Option.map_eq_some_iff.mp found
      rfl
  · exact orderly

theorem disable_enabled (profiler : Profiler) : profiler.disable.enabled.isSet = false := by
  unfold Profiler.disable
  split
  · rfl
  · next disabled => simpa using disabled

/-- What is done to the schedulers when a profiler is disabled spares their bursts. -/
theorem disable_keeps (profiler : Profiler) :
    profiler.disable.watch.now = profiler.watch.now ∧
      profiler.disable.watch.longestSpan = profiler.watch.longestSpan ∧
      profiler.disable.watch.burst = profiler.watch.burst := by
  unfold Profiler.disable
  split
  · refine ⟨rfl, ?_, ?_⟩
    · simp only [Watch.longestSpan, List.foldr_map]
      rfl
    · funext index
      simp only [Watch.burst, Watch.window?, List.getElem?_map, Option.map_map]
      rfl
  · exact ⟨rfl, rfl, rfl⟩

theorem Orderly.run {actions : List Action} (orderly : profiler.Orderly)
    (plays : profiler.Plays actions) : (profiler.run actions).Orderly := by
  induction actions generalizing profiler with
  | nil => exact orderly
  | cons action rest inductionHypothesis =>
      obtain ⟨timely, playsRest⟩ := plays
      refine inductionHypothesis ?_ playsRest
      cases action with
      | enable insideRuntime =>
          cases insideRuntime with
          | true => exact orderly.start
          | false => exact orderly
      | disable => exact orderly.disable
      | happen operation =>
          obtain ⟨onTime, leaves⟩ := timely
          exact ⟨orderly.watch.apply onTime leaves, fun disabled =>
            (orderly.halted disabled).apply leaves⟩

/-- As long as a profiler is not enabled, only what happens to its watch matters. -/
theorem run_of_disabled {later : List Action} (disabled : profiler.enabled.isSet = false)
    (stays : .enable true ∉ later) (plays : profiler.Plays later) :
    (profiler.run later).watch = profiler.watch.run (happenings later) ∧
      profiler.calls later = profiler.watch.calls (happenings later) ∧
      profiler.watch.PlaysByItself (happenings later) := by
  induction later generalizing profiler with
  | nil => exact ⟨rfl, rfl, trivial⟩
  | cons action rest inductionHypothesis =>
      obtain ⟨timely, playsRest⟩ := plays
      have staysRest : .enable true ∉ rest := List.not_mem_of_not_mem_cons stays
      have unchanged (same : profiler.apply action = profiler) :
          (profiler.run (action :: rest)).watch = profiler.watch.run (happenings rest) ∧
            (profiler.apply action).calls rest = profiler.watch.calls (happenings rest) ∧
            profiler.watch.PlaysByItself (happenings rest) := by
        rw [same] at playsRest ⊢
        rw [run, List.foldl_cons, same]
        exact inductionHypothesis disabled staysRest playsRest
      cases action with
      | enable insideRuntime =>
          cases insideRuntime with
          | true => exact absurd List.mem_cons_self stays
          | false => exact unchanged rfl
      | disable =>
          refine unchanged ?_
          rw [apply, Profiler.disable, disabled]
          rfl
      | happen operation =>
          obtain ⟨onTime, leaves⟩ := timely
          obtain ⟨last, calls, playsByItself⟩ :=
            @inductionHypothesis (profiler.apply (.happen operation)) disabled staysRest playsRest
          exact ⟨last, congrArg _ calls, onTime, leaves, playsByItself⟩

end

/-- A profiler is disabled at some time and not enabled again. Whatever it was doing then and
    whatever comes later, from then on no sampler is started, so that no burst begins, and no tick
    of a sampling or a report timer comes. A burst that was under way ends one span after it began,
    by its own timer and not before. Once the longest span has passed, and with it all that was due
    by then, no sampler is capturing and the flag is clear; a profiler that is let run gets
    there. -/
theorem disabled_profiler_comes_to_rest (profiler : Profiler) (fresh : profiler.Fresh)
    (actions : List Action) (plays : profiler.Plays actions) (later : List Action)
    (playsLater : (profiler.run actions).disable.Plays later) (stays : .enable true ∉ later) :
    let present := (profiler.run actions).watch
    let disabled := (profiler.run actions).disable
    let last := (disabled.run later).watch
    let restsAt := present.now + present.longestSpan
    (∀ index ending, .start index ending ∉ disabled.calls later) ∧
    (∀ index, .happen (.perform (.samplingTick index)) ∉ later ∧
      .happen (.perform (.reportTick index)) ∉ later) ∧
    (∀ index begun, last.burst index = some begun → present.burst index = some begun) ∧
    (∀ index begun, present.burst index = some begun →
      ∃ scheduler, disabled.watch.schedulers[index]? = some scheduler ∧
        scheduler.timing.spanEnd begun = begun + scheduler.timing.maxSpanDuration ∧
        ((last.burst index = some begun ∧
            last.now ≤ begun + scheduler.timing.maxSpanDuration) ∨
          disabled.watch.EndsWithSpan scheduler.timing index begun (happenings later))) ∧
    ((∀ due ∈ last.agenda, restsAt < max due.time last.now) → last.Quiet) ∧
    ∀ target, last.now ≤ target → restsAt ≤ target → (last.advance target).Quiet := by
  intro present disabled last restsAt
  have orderly : disabled.Orderly := (fresh.orderly.run plays).disable
  have halted : disabled.watch.Halted := orderly.halted (disable_enabled _)
  obtain ⟨now, longest, bursts⟩ := disable_keeps (profiler.run actions)
  obtain ⟨lastEq, calls, playsByItself⟩ :=
    run_of_disabled (disable_enabled _) stays playsLater
  have winds := orderly.watch.winds halted playsByItself
  have orderlyLast : (disabled.watch.run (happenings later)).Orderly :=
    orderly.watch.run playsByItself
  have restsAtEq : restsAt = disabled.watch.now + disabled.watch.longestSpan := by
    rw [now, longest]
  rw [show last = disabled.watch.run (happenings later) from lastEq, restsAtEq]
  refine ⟨?_, fun index => ?_, ?_, ?_, ?_, ?_⟩
  · rw [calls]
    exact winds.unstarted
  · have never {operation : Watch.Operation} (absent : operation ∉ happenings later) :
        .happen operation ∉ later :=
      fun member => absent (List.mem_filterMap.mpr ⟨_, member, rfl⟩)
    exact ⟨never (winds.tickless index).1, never (winds.tickless index).2⟩
  · intro index begun underWay
    rw [← bursts]
    exact winds.bursts index begun underWay
  · intro index begun underWay
    rw [← bursts] at underWay
    obtain ⟨scheduler, found, -, spans, inTime, ends⟩ := orderly.watch.exists_inTime underWay
    refine ⟨scheduler, found, ends, ?_⟩
    rw [← ends]
    exact inTime.underWay_or_endsWithSpan spans underWay (playsByItself.plays index)
  · exact orderly.watch.quiet_of_late halted playsByItself
  · intro target ahead far
    obtain ⟨operations, playsUnaided, unaided, same⟩ := Watch.exists_unaided_of_runWith 0 target
      (fun _ => false) ((disabled.watch.run (happenings later)).patience target)
      (disabled.watch.run (happenings later))
    have reached : ((disabled.watch.run (happenings later)).advance target).Reached target :=
      Watch.reached_advance orderlyLast.steady ahead
    rw [Watch.advance, same, ← Watch.run_append] at reached ⊢
    refine orderly.watch.quiet_of_late halted
      (playsByItself.append (Watch.playsByItself_of_unaided playsUnaided unaided)) ?_
    intro due member
    have beyond := Nat.lt_of_le_of_lt far (reached.agenda due member)
    exact Nat.lt_of_lt_of_le beyond (Nat.le_max_left _ _)

/-- A process in which every capture begins, and none has any data. -/
def observedProcess : Host :=
  { clock := { startedAt := 0 }
    process := "observed"
    builtIn :=
      { startAnswer := fun _ => .returned ()
        writeAnswer := fun _ => .failed .notRunning }
    offsets := fun _ => 0 }

/-- A profiler of processor time, as it is built there. -/
def cpuProfiler : Profiler :=
  { watch :=
      { clock := observedProcess.clock
        recorder := Settings.recorder {}
        schedulers := [.create (.cpu { engine := observedProcess.builtIn, filter := {} }) .cpu
          observedProcess.offsets observedProcess.clock.now]
        process := observedProcess.process } }

/-- The profiler is enabled, and its first burst begins. -/
def untilFirstBurst : List Action :=
  [.enable true, .happen (.moveTo (Duration.ofMillis 5000)), .happen (.perform .flushTick),
    .happen (.moveTo (Duration.ofMillis 8000)), .happen (.perform (.samplingTick 0)),
    .happen (.moveTo (Duration.ofMillis 8001)),
    .happen (.perform (.attemptDue 0 { wake := Duration.ofMillis 8001, awaited := true }))]

theorem cpuProfiler_fresh : cpuProfiler.Fresh := by
  have built : ({} : Settings).build observedProcess = .ok cpuProfiler := rfl
  have onlyCpu {source : Sampler × Timing}
      (member : source ∈ ({} : Settings).samplers observedProcess.builtIn) :
      source = (.cpu { engine := observedProcess.builtIn, filter := {} }, .cpu) :=
    List.mem_singleton.mp member
  refine fresh_of_build built (fun source member => ?_) fun source member _ => ?_
  · rw [onlyCpu member]
    exact ⟨fun _ => rfl, fun _ => rfl⟩
  · rw [onlyCpu member]
    have short : 0 < Timing.cpu.offsetRange := by decide
    exact ⟨by decide, by decide, fun _ => short⟩

/-- A profiler that is disabled as its first burst begins rests two seconds later. -/
theorem disabled_profiler_comes_to_rest_midBurst :
    let present := (cpuProfiler.run untilFirstBurst).watch
    let disabled := (cpuProfiler.run untilFirstBurst).disable
    let later : List Action :=
      [.happen (.moveTo (Duration.ofMillis 10001)), .happen (.perform (.spanEnds 0))]
    cpuProfiler.Fresh ∧ cpuProfiler.Plays untilFirstBurst ∧ disabled.Plays later ∧
      .enable true ∉ later ∧ present.burst 0 = some (Duration.ofMillis 8001) ∧
      (disabled.run later).watch.Quiet := by
  intro present disabled later
  have plays : cpuProfiler.Plays untilFirstBurst :=
    ⟨trivial, ⟨by decide +kernel, trivial⟩, ⟨by decide +kernel, trivial⟩,
      ⟨by decide +kernel, trivial⟩, ⟨by decide +kernel, trivial⟩, ⟨by decide +kernel, trivial⟩,
      ⟨by decide +kernel, trivial⟩, trivial⟩
  have playsLater : disabled.Plays later :=
    ⟨⟨by decide +kernel, trivial⟩, ⟨by decide +kernel, trivial⟩, trivial⟩
  have stays : .enable true ∉ later := by simp [later]
  have underWay : present.burst 0 = some (Duration.ofMillis 8001) := by decide +kernel
  obtain ⟨-, -, -, -, quiet, -⟩ := disabled_profiler_comes_to_rest cpuProfiler cpuProfiler_fresh
    untilFirstBurst plays later playsLater stays
  refine ⟨cpuProfiler_fresh, plays, playsLater, stays, underWay, quiet ?_⟩
  decide +kernel

end Profiler

end Stackwatch

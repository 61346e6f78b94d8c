import Stackwatch.Proofs.Burst.Accounts
import Stackwatch.Proofs.Burst.Spans
import Stackwatch.Proofs.Sampler.Lifecycle
import Stackwatch.Proofs.Timer.Plan

/-!
# Schedulers that can be shut down

A scheduler can be shut down at any time without further ado. Its sampler captures only while a
burst is under way, its timers are gone as soon as it is stopped, and the bursts of a scheduler that
is left to its timers are in time: they begin and end at whole milliseconds. A scheduler that only
reports has no bursts at all. This module says what one scheduler has to offer for that, and that
whatever happens to it leaves it so.
-/

namespace Stackwatch

/-! ### Samplers that do not crash -/

namespace Sampler

/-- A sampler none of whose calls crashes. -/
structure Calm (sampler : Sampler) : Prop where
  starts : ∀ count, (sampler.engine.startAnswer count).crash? = none
  writes : sampler.engine.Sane

theorem startAnswer_start (sampler : Sampler) :
    sampler.start.2.engine.startAnswer = sampler.engine.startAnswer := by
  cases sampler with
  | heap sampler => rfl
  | cpu sampler =>
      simp only [start, CpuTime.start, Prod.map]
      split <;> rfl
  | block sampler =>
      simp only [start, Contention.start, Prod.map]
      split <;> rfl

theorem startAnswer_stop (sampler : Sampler) :
    sampler.stop.2.engine.startAnswer = sampler.engine.startAnswer := by
  cases sampler with
  | heap sampler => rfl
  | cpu sampler =>
      simp only [stop, CpuTime.stop, Prod.map]
      split <;> (try split) <;> rfl
  | block sampler =>
      simp only [stop, Contention.stop, Prod.map]
      split <;> (try split) <;> rfl

/-- No call makes an engine more likely to crash. -/
theorem Calm.apply {sampler : Sampler} (calm : sampler.Calm) (operation : Operation) :
    (sampler.apply operation).Calm := by
  obtain ⟨starts, writes⟩ := calm
  cases operation with
  | start =>
      refine ⟨?_, fun count => ?_⟩
      · rw [Sampler.apply, startAnswer_start]
        exact starts
      · rw [Sampler.apply, writeAnswer_start]
        exact writes count
  | stop =>
      refine ⟨?_, fun count => ?_⟩
      · rw [Sampler.apply, startAnswer_stop]
        exact starts
      · rw [Sampler.apply, writeAnswer_stop]
        exact writes count
  | reset => cases sampler <;> exact ⟨starts, writes⟩
  | build origin duration timespan => cases sampler <;> exact ⟨starts, writes⟩

theorem Calm.crash?_start {sampler : Sampler} (calm : sampler.Calm) :
    sampler.start.1.crash? = none := by
  cases sampler with
  | heap sampler => rfl
  | cpu sampler =>
      have answer := calm.starts sampler.engine.starts
      simp only [start, CpuTime.start, Engine.start, Prod.map]
      split
      · rfl
      · rfl
      · next crashed => exact congrArg Outcome.crash? crashed ▸ answer
  | block sampler =>
      have answer := calm.starts sampler.engine.starts
      simp only [start, Contention.start, Engine.start, Prod.map]
      split
      · rfl
      · rfl
      · next crashed => exact congrArg Outcome.crash? crashed ▸ answer

/-- A sampler captures after a start only if that succeeds, or if it did so before. -/
theorem running_start {sampler : Sampler} (running : sampler.start.2.running = true) :
    sampler.start.1 = .returned () ∨ sampler.running = true := by
  by_cases returned : sampler.start.1 = .returned ()
  · exact .inl returned
  · cases sampler with
    | heap sampler => cases running
    | cpu sampler => exact .inr ((sampler.start_spec.2.2 returned).symm.trans running)
    | block sampler => exact .inr ((sampler.start_spec.2.2 returned).1.symm.trans running)

theorem running_stop (sampler : Sampler) : sampler.stop.2.running = false := by
  cases sampler with
  | heap sampler => rfl
  | cpu sampler => exact sampler.stop_spec.1
  | block sampler => exact sampler.stop_spec.1

end Sampler

/-! ### Windows -/

namespace Window

/-- The sampler of a window does not crash, and captures only while a burst is under way. -/
structure Held (window : Window) : Prop where
  calm : window.sampler.Calm
  capturing : window.sampler.running = true → window.burst ≠ none

namespace Held

variable {window : Window} {timing : Timing} {now : Instant} {flag : Flag} (held : window.Held)

include held

theorem crash?_startCall {ending : Outcome SamplerError Unit}
    (called : window.startCall? timing flag = some ending) : ending.crash? = none := by
  obtain ⟨-, -, rfl⟩ := flag_of_startCall? called
  exact held.calm.crash?_start

theorem crash?_stopCall {ending : Outcome SamplerError Unit}
    (called : window.stopCall? = some ending) : ending.crash? = none := by
  obtain ⟨begun, -, rfl⟩ := Option.map_eq_some_iff.mp called
  exact Sampler.crash?_stop held.calm.writes

theorem beginBurst : (window.beginBurst timing now flag).window.Held := by
  cases called : window.startCall? timing flag with
  | none =>
      rw [Window.beginBurst_of_startCall?_eq_none called]
      exact held
  | some ending =>
      have calm : window.sampler.start.2.Calm := held.calm.apply .start
      obtain ⟨-, -, start⟩ := flag_of_startCall? called
      cases ending with
      | returned =>
          rw [Window.beginBurst_of_returned called]
          exact ⟨calm, fun _ => nofun⟩
      | failed error =>
          rw [Window.beginBurst_of_failed called]
          refine ⟨calm, fun running => held.capturing ?_⟩
          refine (Sampler.running_start running).resolve_left fun returned => ?_
          cases start.symm.trans returned
      | crashed crash => cases held.crash?_startCall called

theorem endBurst : (window.endBurst timing now flag).window.Held := by
  cases called : window.stopCall? with
  | none =>
      rw [Window.endBurst_of_stopCall?_eq_none called]
      exact held
  | some ending =>
      obtain ⟨-, -, sampler, -⟩ := Window.endBurst_of_stopCall? timing now flag called
      refine ⟨sampler ▸ held.calm.apply .stop, fun running => ?_⟩
      rw [sampler, window.sampler.running_stop] at running
      cases running

theorem renew : (window.renew now).Held where
  calm := held.calm.apply .reset
  capturing := fun running => held.capturing (window.sampler.reset_keeps.2 ▸ running)

theorem report (origin : Profile.Origin) (externalProcess : Option String) :
    (window.report timing now origin externalProcess).window.Held := by
  have built : Held
      { window with
        sampler := (window.sampler.build origin window.sampled (now - window.openedAt)).2 } := by
    refine ⟨held.calm.apply (.build ..), fun running => held.capturing ?_⟩
    exact (window.sampler.build_keeps ..).2.1 ▸ running
  unfold Window.report
  split
  · dsimp only
    split
    · exact built.renew
    · exact built.renew
    · exact built
  · exact held.renew

end Held

end Window

/-! ### Schedulers -/

namespace Scheduler

/-- A scheduler that only reports has nothing to do with bursts; the bursts of any other are in
    time, and begin at whole milliseconds. -/
inductive Orderly (now : Instant) (scheduler : Scheduler) : Prop where
  | reporting (reportOnly : scheduler.timing.reportOnly = true)
      (samplingTimer : scheduler.samplingTimer = none) (attempts : scheduler.attempts = [])
      (burst : scheduler.window.burst = none) (spanTimer : scheduler.spanTimer = none)
  | bursting (sampling : scheduler.timing.reportOnly = false)
      (bursts : scheduler.timing.Bursts) (whole : 1000000 ∣ scheduler.timing.maxSpanDuration)
      (inTime : scheduler.InTime scheduler.timing now)
      (wakes : ∀ attempt ∈ scheduler.attempts, 1000000 ∣ attempt.wake)
      (begins : ∀ begun, scheduler.window.burst = some begun → 1000000 ∣ begun)

/-- A scheduler that is stopped has no timer for ticks. -/
def Disarmed (scheduler : Scheduler) : Prop :=
  scheduler.started.isSet = false →
    scheduler.samplingTimer = none ∧ scheduler.reportTimer = none

/-- A timing that can be used, whose spans are whole milliseconds, and offsets that leave room for
    them. -/
structure Apt (timing : Timing) (offsets : Nat → Duration) : Prop where
  valid : timing.validate = .ok ()
  lasting : timing.reportOnly = false → timing.maxSpanDuration ≠ 0
  whole : timing.reportOnly = false → 1000000 ∣ timing.maxSpanDuration
  drawn : timing.reportOnly = false → ∀ count, offsets count < timing.offsetRange

theorem orderly_create (sampler : Sampler) {timing : Timing} {offsets : Nat → Duration}
    (apt : Apt timing offsets) (created now : Instant) :
    (create sampler timing offsets created).Orderly now := by
  cases sampling : timing.reportOnly with
  | true => exact .reporting sampling rfl rfl rfl rfl
  | false =>
      exact .bursting sampling (.of_validate apt.valid sampling (apt.lasting sampling))
        (apt.whole sampling) (.create sampler created now (apt.drawn sampling))
        (List.forall_mem_nil _) nofun

section

variable {now : Instant} {scheduler : Scheduler}

/-- A burst of an orderly scheduler ends exactly one span after it began. -/
theorem spanEnd_eq_add {timing : Timing} {begun : Instant} (whole : 1000000 ∣ begun)
    (wholeSpan : 1000000 ∣ timing.maxSpanDuration) :
    timing.spanEnd begun = begun + timing.maxSpanDuration :=
  Duration.ceilMillis_of_dvd (Nat.dvd_add whole wholeSpan)

namespace Orderly

variable (orderly : scheduler.Orderly now)

include orderly

/-- What concerns neither bursts nor attempts leaves a scheduler orderly. -/
theorem of_same {later : Instant} {other : Scheduler}
    (inTime : scheduler.InTime scheduler.timing now → other.InTime scheduler.timing later)
    (timing : other.timing = scheduler.timing)
    (samplingTimer : scheduler.samplingTimer = none →
      scheduler.timing.reportOnly = true → other.samplingTimer = none)
    (wakes : other.attempts.map Attempt.wake = scheduler.attempts.map Attempt.wake)
    (burst : other.window.burst = scheduler.window.burst)
    (spanTimer : other.spanTimer = scheduler.spanTimer) : other.Orderly later := by
  cases orderly with
  | reporting reportOnly noTimer noAttempts noBurst noSpan =>
      refine .reporting (timing ▸ reportOnly) (samplingTimer noTimer reportOnly) ?_
        (burst.trans noBurst) (spanTimer.trans noSpan)
      rw [noAttempts] at wakes
      exact List.map_eq_nil_iff.mp wakes
  | bursting sampling bursts whole before wakesBefore begins =>
      refine .bursting (timing ▸ sampling) (timing ▸ bursts) (timing ▸ whole)
        (timing ▸ inTime before) ?_ (burst ▸ begins)
      intro attempt member
      have wakeMember : attempt.wake ∈ scheduler.attempts.map Attempt.wake :=
        wakes ▸ List.mem_map_of_mem member
      obtain ⟨earlier, earlierMember, same⟩ := List.mem_map.mp wakeMember
      exact same ▸ wakesBefore earlier earlierMember

theorem start : (scheduler.start now).Orderly now := by
  by_cases started : scheduler.started.isSet
  · rw [Scheduler.start, if_pos started]
    exact orderly
  · have same : scheduler.start now = _ := if_neg started
    rw [same]
    cases orderly with
    | reporting reportOnly noTimer noAttempts noBurst noSpan =>
        exact .reporting reportOnly (if_pos reportOnly) noAttempts noBurst noSpan
    | bursting sampling bursts whole inTime wakes begins =>
        have inTimeThen := inTime.start bursts
        rw [same] at inTimeThen
        exact .bursting sampling bursts whole inTimeThen wakes begins

theorem stop : scheduler.stop.Orderly now := by
  refine orderly.of_same InTime.stop rfl (fun _ _ => rfl) ?_ rfl rfl
  simp [Scheduler.stop, Function.comp_def]

/-- A tick puts off an attempt to a whole millisecond. -/
theorem samplingTick {time : Instant}
    (due : scheduler.samplingTimer.bind Timer.due? = some time) (come : time ≤ now) :
    (scheduler.samplingTick now).Orderly now := by
  cases orderly with
  | reporting reportOnly noTimer =>
      rw [noTimer] at due
      cases due
  | bursting sampling bursts whole inTime wakes begins =>
      refine .bursting sampling bursts whole (inTime.samplingTick bursts due come) ?_ begins
      refine List.forall_mem_append.mpr ⟨wakes, List.forall_mem_singleton.mpr ?_⟩
      exact Duration.dvd_ceilMillis _

/-- A burst begins when the attempt wakes that it comes of. -/
theorem attempted {other : Scheduler} {attempt : Attempt} {flag : Flag}
    (member : attempt ∈ scheduler.attempts) (come : attempt.wake ≤ now)
    (attempted : Attempted now attempt flag scheduler other) : other.Orderly now := by
  cases orderly with
  | reporting reportOnly _ noAttempts =>
      rw [noAttempts] at member
      cases member
  | bursting sampling bursts whole inTime wakes begins =>
      have timing := attempted.timing
      refine .bursting (timing ▸ sampling) (timing ▸ bursts) (timing ▸ whole)
        (timing ▸ inTime.attempted bursts member come attempted) ?_ ?_
      · intro rest left
        rw [attempted.attempts] at left
        exact wakes rest (List.mem_of_mem_erase left)
      · intro begun underWay
        rcases attempted.burst with ⟨kept, -⟩ | ⟨-, -, begunNow, -⟩
        · exact begins begun (kept ▸ underWay)
        · obtain rfl : now = begun := Option.some.inj (begunNow.symm.trans underWay)
          have same : attempt.wake = now := Nat.le_antisymm come (inTime.attempts attempt member).1
          exact same ▸ wakes attempt member

theorem spanEnds {time : Instant} (flag : Flag)
    (due : scheduler.spanTimer.bind Timer.due? = some time) (come : time ≤ now) :
    (scheduler.spanEnds now flag).scheduler.Orderly now := by
  cases orderly with
  | reporting _ _ _ _ noSpan =>
      rw [noSpan] at due
      cases due
  | bursting sampling bursts whole inTime wakes begins =>
      refine .bursting sampling bursts whole (inTime.spanEnds flag due come) wakes ?_
      intro begun impossible
      cases (Window.burst_endBurst scheduler.timing now flag scheduler.window).symm.trans impossible

end Orderly

/-! ### Timers of a scheduler that is stopped -/

theorem disarmed_create (sampler : Sampler) (timing : Timing) (offsets : Nat → Duration)
    (created : Instant) : (create sampler timing offsets created).Disarmed :=
  fun _ => ⟨rfl, rfl⟩

theorem disarmed_start (disarmed : scheduler.Disarmed) : (scheduler.start now).Disarmed := by
  unfold Scheduler.start
  split
  · exact disarmed
  · exact nofun

theorem disarmed_stop : scheduler.stop.Disarmed := fun _ => ⟨rfl, rfl⟩

/-- Timers that are gone do not come back. -/
theorem Disarmed.of_same {other : Scheduler} (disarmed : scheduler.Disarmed)
    (started : other.started = scheduler.started)
    (samplingTimer : scheduler.samplingTimer = none → other.samplingTimer = none)
    (reportTimer : scheduler.reportTimer = none → other.reportTimer = none) :
    other.Disarmed := by
  intro stopped
  obtain ⟨noSampling, noReport⟩ := disarmed (started ▸ stopped)
  exact ⟨samplingTimer noSampling, reportTimer noReport⟩

end

end Scheduler

end Stackwatch

import Mathlib.Data.Option.Basic
import Stackwatch.Proofs.Burst.Spans

/-!
# How much a scheduler can still do

A tick of the sampling timer leads to one attempt at a burst, and an attempt to one burst, which is
ended once. So what a scheduler does by itself up to an instant is limited by the ticks that its
timers have left; this module counts it, and says that every event of a scheduler uses up some of
it.
-/

namespace Stackwatch.Scheduler

/-- The timers of a scheduler fire as they were started: two of them once per interval, and one at
    the end of each burst. -/
structure Steady (scheduler : Scheduler) : Prop where
  sampling : ∀ timer ∈ scheduler.samplingTimer, timer.Steady
  report : ∀ timer ∈ scheduler.reportTimer, timer.Steady
  span : ∀ timer ∈ scheduler.spanTimer, timer.Single

/-- One if a timer is still to fire. -/
def endsLeft (timer : Option Timer) : Nat := if (timer.bind Timer.due?).isSome then 1 else 0

/-- More than a scheduler can do by itself up to an instant. -/
def eventsLeft (target now : Instant) (scheduler : Scheduler) : Nat :=
  3 * Timer.ticksLeft target now scheduler.samplingTimer +
    Timer.ticksLeft target now scheduler.reportTimer + 2 * scheduler.attempts.length +
    endsLeft scheduler.spanTimer

theorem endsLeft_le (timer : Option Timer) : endsLeft timer ≤ 1 := by
  unfold endsLeft
  split
  · exact Nat.le_refl 1
  · exact Nat.zero_le 1

theorem eventsLeft_le (target now : Instant) (scheduler : Scheduler) :
    scheduler.eventsLeft target now ≤
      4 * (target - now + Timer.tolerance + 1) + (2 * scheduler.attempts.length + 1) := by
  have sum (ticks sampling report attempts ends : Nat) (samplingLe : sampling ≤ ticks)
      (reportLe : report ≤ ticks) (endsLe : ends ≤ 1) :
      3 * sampling + report + 2 * attempts + ends ≤ 4 * ticks + (2 * attempts + 1) := by omega
  exact sum _ _ _ _ _ (Timer.ticksLeft_le ..) (Timer.ticksLeft_le ..) (endsLeft_le _)

/-- While time passes there is no more to do. -/
theorem eventsLeft_anti {now later : Instant} (target : Instant) (inOrder : now ≤ later)
    (scheduler : Scheduler) :
    scheduler.eventsLeft target later ≤ scheduler.eventsLeft target now := by
  refine Nat.add_le_add_right (Nat.add_le_add_right (Nat.add_le_add ?_ ?_) _) _
  · exact Nat.mul_le_mul_left 3 (Timer.ticksLeft_anti inOrder)
  · exact Timer.ticksLeft_anti inOrder

theorem steady_create (sampler : Sampler) (timing : Timing) (offsets : Nat → Duration)
    (created : Instant) : (create sampler timing offsets created).Steady where
  sampling := fun _ => nofun
  report := fun _ => nofun
  span := fun _ => nofun

namespace Steady

variable {scheduler : Scheduler} (steady : scheduler.Steady) (now : Instant) (flag : Flag)

include steady

theorem withWindow (window : Window) : Steady { scheduler with window := window } :=
  ⟨steady.sampling, steady.report, steady.span⟩

theorem start : (scheduler.start now).Steady := by
  unfold Scheduler.start
  split
  · exact steady
  · refine ⟨?_, ?_, steady.span⟩
    · dsimp only
      split
      · exact fun _ => nofun
      · rintro timer ⟨⟩
        exact Timer.steady_every ..
    · rintro timer ⟨⟩
      exact Timer.steady_every ..

theorem stop : scheduler.stop.Steady where
  sampling := fun _ => nofun
  report := fun _ => nofun
  span := steady.span

theorem samplingTick : (scheduler.samplingTick now).Steady where
  sampling := Option.forall_mem_map.mpr fun timer found => (steady.sampling timer found).fire now
  report := steady.report
  span := steady.span

theorem reportTick : (scheduler.reportTick now).Steady where
  sampling := steady.sampling
  report := Option.forall_mem_map.mpr fun timer found =>
    ((steady.report timer found).fire now).jobEnded
  span := steady.span

theorem spanEnds : (scheduler.spanEnds now flag).scheduler.Steady where
  sampling := steady.sampling
  report := steady.report
  span := Option.forall_mem_map.mpr fun timer found => by
    rw [(steady.span timer found).fired now]
    exact .over

theorem attempted {other : Scheduler} {attempt : Attempt}
    (attempted : Attempted now attempt flag scheduler other) : other.Steady := by
  refine ⟨?_, attempted.reportTimer ▸ steady.report, ?_⟩
  · rw [attempted.samplingTimer]
    split
    · exact Option.forall_mem_map.mpr fun timer found => (steady.sampling timer found).jobEnded
    · exact steady.sampling
  · rcases attempted.burst with ⟨-, timer⟩ | ⟨-, -, -, timer⟩
    · rw [timer]
      exact steady.span
    · rw [timer]
      rintro _ ⟨⟩
      exact Timer.single_once ..

end Steady

section

variable {scheduler : Scheduler} {target now time : Instant}

/-- A tick leads to an attempt. -/
theorem eventsLeft_samplingTick (steady : scheduler.Steady)
    (due : scheduler.samplingTimer.bind Timer.due? = some time) (come : time ≤ now)
    (ahead : now ≤ target) :
    (scheduler.samplingTick now).eventsLeft target now < scheduler.eventsLeft target now := by
  have uses (ticks left reports attempts ends : Nat) (fewer : left < ticks) :
      3 * left + reports + 2 * (attempts + 1) + ends <
        3 * ticks + reports + 2 * attempts + ends := by omega
  have fewer := Timer.ticksLeft_fire steady.sampling due come ahead
  simp only [eventsLeft, samplingTick, List.length_append, List.length_singleton]
  exact uses _ _ _ _ _ fewer

theorem eventsLeft_reportTick (steady : scheduler.Steady)
    (due : scheduler.reportTimer.bind Timer.due? = some time) (come : time ≤ now)
    (ahead : now ≤ target) :
    (scheduler.reportTick now).eventsLeft target now < scheduler.eventsLeft target now := by
  have fired : (scheduler.reportTick now).reportTimer =
      (scheduler.reportTimer.map (Timer.fire now)).map Timer.jobEnded := by
    rw [Option.map_map]
    rfl
  have fewer := Timer.ticksLeft_fire steady.report due come ahead
  rw [← Timer.ticksLeft_jobEnded, ← fired] at fewer
  exact Nat.add_lt_add_right (Nat.add_lt_add_right (Nat.add_lt_add_left fewer _) _) _

/-- An attempt leads to the end of one burst at most. -/
theorem eventsLeft_attempted {other : Scheduler} {attempt : Attempt} {flag : Flag}
    (member : attempt ∈ scheduler.attempts)
    (attempted : Attempted now attempt flag scheduler other) :
    other.eventsLeft target now < scheduler.eventsLeft target now := by
  have uses (sampling reports attempts rest ends left : Nat) (fewer : rest + 1 = attempts)
      (one : left ≤ 1) :
      3 * sampling + reports + 2 * rest + left < 3 * sampling + reports + 2 * attempts + ends := by
    omega
  have sampling : Timer.ticksLeft target now other.samplingTimer =
      Timer.ticksLeft target now scheduler.samplingTimer := by
    rw [attempted.samplingTimer]
    split
    · exact Timer.ticksLeft_jobEnded
    · rfl
  have fewer : other.attempts.length + 1 = scheduler.attempts.length := by
    rw [attempted.attempts, List.length_erase_of_mem member]
    exact Nat.sub_add_cancel (List.length_pos_of_mem member)
  unfold eventsLeft
  rw [sampling, attempted.reportTimer]
  exact uses _ _ _ _ _ _ fewer (endsLeft_le _)

theorem eventsLeft_spanEnds {flag : Flag} (steady : scheduler.Steady)
    (due : scheduler.spanTimer.bind Timer.due? = some time) :
    (scheduler.spanEnds now flag).scheduler.eventsLeft target now <
      scheduler.eventsLeft target now := by
  have before : endsLeft scheduler.spanTimer = 1 := by
    rw [endsLeft, due]
    rfl
  have after : endsLeft (scheduler.spanEnds now flag).scheduler.spanTimer = 0 := by
    obtain ⟨timer, found, -⟩ := Option.bind_eq_some_iff.mp due
    simp only [spanEnds, found, Option.map_some, (steady.span timer found).fired now]
    rfl
  refine Nat.add_lt_add_left ?_ _
  rw [before, after]
  exact Nat.zero_lt_one

end

end Stackwatch.Scheduler

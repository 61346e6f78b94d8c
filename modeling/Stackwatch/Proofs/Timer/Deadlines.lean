import Mathlib.Data.Option.Basic
import Stackwatch.Timer.Basic

/-!
# Deadlines of timers

Timers look at the clock once a millisecond. A timer that fires again and again moves its deadline
on with every tick, and never sets one that lies further in the past than the tolerance: up to an
instant it fires only so many times.
-/

namespace Stackwatch

namespace Duration

theorem le_ceilMillis (time : Instant) : time ≤ ceilMillis time := by
  have rounds (time : Nat) : time ≤ (time + 999999) / 1000000 * 1000000 := by omega
  exact rounds time

theorem ceilMillis_mono {earlier later : Instant} (inOrder : earlier ≤ later) :
    ceilMillis earlier ≤ ceilMillis later :=
  Nat.mul_le_mul_right _ (Nat.div_le_div_right (Nat.add_le_add_right inOrder _))

/-- Whole milliseconds behind an instant stay whole. -/
theorem ceilMillis_add (time : Instant) {length : Duration} (whole : 1000000 ∣ length) :
    ceilMillis (time + length) = ceilMillis time + length := by
  have rounds (time length : Nat) (whole : 1000000 ∣ length) :
      (time + length + 999999) / 1000000 * 1000000 =
        (time + 999999) / 1000000 * 1000000 + length := by omega
  exact rounds time length whole

theorem ceilMillis_ceilMillis (time : Instant) :
    ceilMillis (ceilMillis time) = ceilMillis time := by
  have rounds (time : Nat) : ((time + 999999) / 1000000 * 1000000 + 999999) / 1000000 * 1000000 =
      (time + 999999) / 1000000 * 1000000 := by omega
  exact rounds time

end Duration

namespace Timer

theorem isEndless_of_le {shorter longer : Duration} (inOrder : shorter ≤ longer)
    (ending : isEndless longer = false) : isEndless shorter = false := by
  simp only [isEndless, decide_eq_false_iff_not, Nat.not_le] at ending ⊢
  exact Nat.lt_of_le_of_lt (Nat.div_le_div_right inOrder) ending

/-- A timer for one job waits for the end of its delay, if it has one. -/
theorem once_eq {delay : Duration} (now : Instant) (lasting : delay ≠ 0)
    (ending : isEndless delay = false) :
    once now delay = { interval := 0, phase := .delayed (now + delay) } := by
  simp [once, start, lasting, wakeAfter, ending]

/-- A timer without an end of its first interval never fires. -/
theorem every_eq {interval : Duration} (now : Instant) (lasting : interval ≠ 0) :
    every now interval =
      { interval := interval
        phase := if isEndless interval then .finished else .ticking (now + interval) } := by
  unfold every start nextInterval
  cases isEndless interval <;> simp [lasting, await]

theorem interval_every (now : Instant) (interval : Duration) :
    (every now interval).interval = interval := by
  unfold every start
  rw [if_pos rfl]
  cases nextInterval now interval <;> rfl

/-! ### Timers that go on -/

/-- A timer that fires once per interval, without a delay before. -/
structure Steady (timer : Timer) : Prop where
  undelayed : ∀ wake, timer.phase ≠ .delayed wake
  paced : timer.phase = .finished ∨ timer.interval ≠ 0

/-- A timer that fires once at most. -/
inductive Single : Timer → Prop where
  | waiting (wake : Instant) : Single { interval := 0, phase := .delayed wake }
  | over : Single { interval := 0, phase := .finished }

/-- The next deadline, also while a job is under way. -/
def nextDeadline? (timer : Timer) : Option Instant :=
  match timer.phase with
  | .ticking deadline => some deadline
  | .busy next => next
  | _ => none

/-- More than a steady timer, if there is one, can fire up to an instant. -/
def ticksLeft (target now : Instant) (timer : Option Timer) : Nat :=
  match timer.bind nextDeadline? with
  | some deadline => target + tolerance + 1 - max (deadline + tolerance) now
  | none => 0

theorem steady_every (now : Instant) (interval : Duration) : (every now interval).Steady := by
  by_cases lasting : interval = 0
  · subst lasting
    exact ⟨fun _ => nofun, .inl rfl⟩
  · rw [every_eq now lasting]
    refine ⟨fun wake => ?_, .inr lasting⟩
    dsimp only
    split <;> exact nofun

theorem single_once (now : Instant) (delay : Duration) : (once now delay).Single := by
  unfold once start
  split
  · exact .over
  · exact .waiting _

theorem Steady.fire {timer : Timer} (steady : timer.Steady) (now : Instant) :
    (timer.fire now).Steady := by
  obtain ⟨interval, phase⟩ := timer
  obtain ⟨undelayed, paced⟩ := steady
  cases phase with
  | delayed wake => exact absurd rfl (undelayed wake)
  | ticking deadline =>
      exact ⟨fun _ => nofun, .inr (paced.resolve_left nofun)⟩
  | busy next => exact ⟨undelayed, paced⟩
  | finished => exact ⟨undelayed, paced⟩

theorem Steady.jobEnded {timer : Timer} (steady : timer.Steady) : timer.jobEnded.Steady := by
  obtain ⟨interval, phase⟩ := timer
  obtain ⟨undelayed, paced⟩ := steady
  cases phase with
  | delayed wake => exact absurd rfl (undelayed wake)
  | ticking deadline => exact ⟨undelayed, paced⟩
  | finished => exact ⟨undelayed, paced⟩
  | busy next =>
      cases next with
      | none => exact ⟨fun _ => nofun, .inl rfl⟩
      | some deadline =>
          exact ⟨fun _ => nofun, .inr (paced.resolve_left nofun)⟩

/-- A timer that fires once has nothing left to do then. -/
theorem Single.fired {timer : Timer} (single : timer.Single) (now : Instant) :
    (timer.fire now).jobEnded = { interval := 0, phase := .finished } := by
  cases single <;> rfl

/-- The end of a job leaves the next deadline as it is. -/
theorem nextDeadline?_jobEnded (timer : Timer) : timer.jobEnded.nextDeadline? =
    timer.nextDeadline? := by
  obtain ⟨interval, phase⟩ := timer
  cases phase with
  | busy next => cases next <;> rfl
  | _ => rfl

theorem interval_fire (now : Instant) (timer : Timer) :
    (timer.fire now).interval = timer.interval := by
  obtain ⟨interval, phase⟩ := timer
  cases phase <;> rfl

theorem interval_jobEnded (timer : Timer) : timer.jobEnded.interval = timer.interval := by
  obtain ⟨interval, phase⟩ := timer
  cases phase with
  | busy next => cases next <;> rfl
  | _ => rfl

/-! ### Timers that nobody stops -/

/-- What has become of a timer, if there is one, that went on by itself: it fired, and its jobs
    ended. -/
inductive GoesOn (slot : Option Timer) : Option Timer → Prop where
  | begun : GoesOn slot slot
  | fired {later : Option Timer} (goesOn : GoesOn slot later) (now : Instant) :
      GoesOn slot (later.map (fire now))
  | jobEnded {later : Option Timer} (goesOn : GoesOn slot later) :
      GoesOn slot (later.map Timer.jobEnded)

/-- There is a timer, and it will fire again. -/
def Runs (slot : Option Timer) : Prop := ∃ timer ∈ slot, timer.nextDeadline?.isSome = true

/-- A timer will fire again, unless its interval ends behind the end of the clock: then it has ended
    by itself. -/
def RunsIfItCan (timer : Timer) : Prop :=
  if isEndless timer.interval then timer.isFinished = true
  else timer.nextDeadline?.isSome = true

theorem RunsIfItCan.fire {timer : Timer} (runs : timer.RunsIfItCan) (now : Instant) :
    (timer.fire now).RunsIfItCan := by
  obtain ⟨interval, phase⟩ := timer
  unfold RunsIfItCan at runs ⊢
  rw [interval_fire]
  split at runs
  · next endless =>
      rw [if_pos endless]
      cases of_decide_eq_true runs
      rfl
  · next ending =>
      rw [if_neg ending]
      cases phase with
      | delayed wake => cases runs
      | ticking deadline => rfl
      | busy next => exact runs
      | finished => cases runs

theorem RunsIfItCan.jobEnded {timer : Timer} (runs : timer.RunsIfItCan) :
    timer.jobEnded.RunsIfItCan := by
  obtain ⟨interval, phase⟩ := timer
  unfold RunsIfItCan at runs ⊢
  rw [interval_jobEnded, nextDeadline?_jobEnded]
  split at runs
  · next endless =>
      rw [if_pos endless]
      cases of_decide_eq_true runs
      rfl
  · next ending =>
      rw [if_neg ending]
      exact runs

theorem runsIfItCan_every {interval : Duration} (now : Instant) (lasting : interval ≠ 0) :
    (every now interval).RunsIfItCan := by
  rw [every_eq now lasting, RunsIfItCan]
  cases isEndless interval <;> rfl

namespace GoesOn

variable {slot later : Option Timer} (goesOn : GoesOn slot later)

include goesOn

theorem trans {last : Option Timer} (further : GoesOn later last) : GoesOn slot last := by
  induction further with
  | begun => exact goesOn
  | fired _ now inductionHypothesis => exact inductionHypothesis.fired now
  | jobEnded _ inductionHypothesis => exact inductionHypothesis.jobEnded

/-- What firing and the end of a job leave true stays true. -/
theorem forall_mem {holds : Timer → Prop} (fire : ∀ timer now, holds timer → holds (timer.fire now))
    (jobEnded : ∀ timer, holds timer → holds timer.jobEnded)
    (before : ∀ timer ∈ slot, holds timer) : ∀ timer ∈ later, holds timer := by
  induction goesOn with
  | begun => exact before
  | fired _ now inductionHypothesis =>
      refine Option.forall_mem_map.mpr ?_
      intro timer found
      exact fire timer now (inductionHypothesis timer found)
  | jobEnded _ inductionHypothesis =>
      refine Option.forall_mem_map.mpr ?_
      intro timer found
      exact jobEnded timer (inductionHypothesis timer found)

theorem steady (steadyBefore : ∀ timer ∈ slot, Steady timer) : ∀ timer ∈ later, Steady timer :=
  goesOn.forall_mem (fun _ now steady => steady.fire now) (fun _ => Steady.jobEnded) steadyBefore

/-- Where there was no timer there is none. -/
theorem eq_none (empty : slot = none) : later = none := by
  induction goesOn with
  | begun => exact empty
  | fired _ _ inductionHypothesis => rw [inductionHypothesis, Option.map_none]
  | jobEnded _ inductionHypothesis => rw [inductionHypothesis, Option.map_none]

theorem map_interval : later.map Timer.interval = slot.map Timer.interval := by
  induction goesOn with
  | begun => rfl
  | fired _ now inductionHypothesis =>
      rw [← inductionHypothesis, Option.map_map]
      exact congrArg (Option.map · _) (funext (interval_fire now))
  | jobEnded _ inductionHypothesis =>
      rw [← inductionHypothesis, Option.map_map]
      exact congrArg (Option.map · _) (funext interval_jobEnded)

theorem runsIfItCan (runs : ∀ timer ∈ slot, RunsIfItCan timer) :
    ∀ timer ∈ later, RunsIfItCan timer :=
  goesOn.forall_mem (fun _ now runs => runs.fire now) (fun _ => RunsIfItCan.jobEnded) runs

end GoesOn

section Every

variable {since : Option Instant} {interval : Duration} {slot : Option Timer}
  (goesOn : GoesOn (since.map fun time => every time interval) slot) (lasting : interval ≠ 0)

include goesOn lasting

/-- A timer that was started at some time, and that nobody stopped. -/
theorem GoesOn.runsIfItCan_of_every : ∀ timer ∈ slot, timer.RunsIfItCan := by
  refine goesOn.runsIfItCan (Option.forall_mem_map.mpr ?_)
  intro time _
  exact runsIfItCan_every time lasting

/-- It runs if its interval ends, and only if there is one. -/
theorem GoesOn.runs_iff_of_every :
    Runs slot ↔ since.isSome = true ∧ isEndless interval = false := by
  cases since with
  | none =>
      refine iff_of_false ?_ nofun
      rintro ⟨timer, found, -⟩
      cases (goesOn.eq_none rfl).symm.trans found
  | some time =>
      obtain ⟨timer, found, paced⟩ : ∃ timer, slot = some timer ∧ timer.interval = interval := by
        have same := goesOn.map_interval
        rw [Option.map_some, Option.map_some, interval_every] at same
        exact Option.map_eq_some_iff.mp same
      have runs := goesOn.runsIfItCan_of_every lasting timer found
      rw [RunsIfItCan, paced] at runs
      cases endless : isEndless interval with
      | true =>
          rw [endless] at runs
          refine iff_of_false ?_ nofun
          rintro ⟨other, foundOther, again⟩
          obtain rfl : timer = other := Option.some.inj (found.symm.trans foundOther)
          have finished : timer.phase = .finished := of_decide_eq_true runs
          rw [nextDeadline?, finished] at again
          cases again
      | false =>
          rw [endless] at runs
          exact iff_of_true ⟨timer, found, runs⟩ ⟨rfl, rfl⟩

end Every

section Ticks

variable {target now later : Instant} {timer : Option Timer}

theorem ticksLeft_le (target now : Instant) (timer : Option Timer) :
    ticksLeft target now timer ≤ target - now + tolerance + 1 := by
  have bounded (target now point tolerance : Nat) :
      target + tolerance + 1 - max point now ≤ target - now + tolerance + 1 := by omega
  unfold ticksLeft
  split
  · exact bounded ..
  · exact Nat.zero_le _

/-- While time passes a timer does not gain any tick. -/
theorem ticksLeft_anti (inOrder : now ≤ later) :
    ticksLeft target later timer ≤ ticksLeft target now timer := by
  unfold ticksLeft
  split
  · refine Nat.sub_le_sub_left (Nat.max_le.mpr ⟨Nat.le_max_left _ _, ?_⟩) _
    exact Nat.le_trans inOrder (Nat.le_max_right _ _)
  · exact Nat.le_refl _

theorem ticksLeft_jobEnded :
    ticksLeft target now (timer.map jobEnded) = ticksLeft target now timer := by
  unfold ticksLeft
  cases timer with
  | none => rfl
  | some timer => simp only [Option.map_some, Option.bind_some, nextDeadline?_jobEnded]

/-- Every tick uses up one. -/
theorem ticksLeft_fire {time : Instant} (steady : ∀ present ∈ timer, Steady present)
    (due : timer.bind due? = some time) (come : time ≤ now) (ahead : now ≤ target) :
    ticksLeft target now (timer.map (fire now)) < ticksLeft target now timer := by
  have uses (target now deadline interval tolerance : Nat) (come : deadline ≤ now)
      (ahead : now ≤ target) (paced : interval ≠ 0) :
      target + tolerance + 1 -
          max ((if deadline + tolerance < now then now + interval else deadline + interval) +
            tolerance) now <
        target + tolerance + 1 - max (deadline + tolerance) now := by
    split <;> omega
  obtain ⟨⟨interval, phase⟩, rfl, dueTimer⟩ := Option.bind_eq_some_iff.mp due
  obtain ⟨undelayed, paced⟩ := steady _ rfl
  cases phase with
  | delayed wake => exact absurd rfl (undelayed wake)
  | busy next => cases dueTimer
  | finished => cases dueTimer
  | ticking deadline =>
      cases dueTimer
      exact uses target now deadline interval tolerance
        (Nat.le_trans (Duration.le_ceilMillis deadline) come) ahead (paced.resolve_left nofun)

end Ticks

end Timer

end Stackwatch

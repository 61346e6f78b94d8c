import Stackwatch.Proofs.Burst.Calls
import Stackwatch.Proofs.Timer.Deadlines

/-!
# Spans in time

A scheduler begins bursts by itself: its sampling timer puts an attempt off by a random offset, and
the burst that comes of it ends one span later. This module follows one scheduler along the clock.
As long as a span takes any time, a burst under way has a timer that ends it, and whatever a tick of
the sampling timer has led to is over by the next deadline of that timer.

Timers look at the clock once a millisecond, and a tick may be late by a tolerance. For intervals
and spans in whole milliseconds neither shows; for others the end of a span can come a little later.
-/

namespace Stackwatch

namespace Timing

/-- Bursts of this timing take some time, and there is room for them in a sampling interval. -/
structure Bursts (timing : Timing) : Prop where
  lasting : timing.maxSpanDuration ≠ 0
  room : timing.maxSpanDuration < timing.samplingInterval

/-- Timers meet the instants of this timing exactly. -/
def IsWhole (timing : Timing) : Prop :=
  1000000 ∣ timing.samplingInterval ∧ 1000000 ∣ timing.maxSpanDuration

instance : DecidablePred IsWhole := fun timing =>
  inferInstanceAs (Decidable (1000000 ∣ timing.samplingInterval ∧ 1000000 ∣ timing.maxSpanDuration))

/-- By how much a timer can be late that does not meet its instants exactly. -/
def allowance (timing : Timing) (most : Duration) : Duration :=
  if timing.IsWhole then 0 else most

theorem allowance_mono (timing : Timing) {least most : Duration} (inOrder : least ≤ most) :
    timing.allowance least ≤ timing.allowance most := by
  unfold allowance
  split
  · exact Nat.le_refl 0
  · exact inOrder

/-- When a burst ends that began at an instant. -/
def spanEnd (timing : Timing) (begun : Instant) : Instant :=
  Duration.ceilMillis (begun + timing.maxSpanDuration)

variable {timing : Timing}

/-- A timing that can be used leaves room for a span in each sampling interval. -/
theorem room_of_validate (valid : timing.validate = .ok ()) (samples : timing.reportOnly = false) :
    timing.maxSpanDuration < timing.samplingInterval := by
  unfold validate at valid
  split at valid
  · cases valid
  · split at valid
    · cases valid
    · next accepted => simpa [samples] using accepted

theorem Bursts.of_validate (valid : timing.validate = .ok ()) (bursts : timing.reportOnly = false)
    (lasting : timing.maxSpanDuration ≠ 0) : timing.Bursts :=
  ⟨lasting, room_of_validate valid bursts⟩

theorem le_spanEnd (timing : Timing) (begun : Instant) : begun ≤ timing.spanEnd begun :=
  Nat.le_trans (Nat.le_add_right _ _) (Duration.le_ceilMillis _)

/-- A burst that has begun ends within one sampling interval. -/
theorem Bursts.spanEnd_le (bursts : timing.Bursts) {begun now : Instant} (past : begun ≤ now) :
    timing.spanEnd begun ≤ Duration.ceilMillis (now + timing.samplingInterval) :=
  Duration.ceilMillis_mono (Nat.add_le_add past (Nat.le_of_lt bursts.room))

/-- A random offset leaves room for the span, up to the shortest offset that timers know. -/
theorem spanEnd_offset_le (now : Instant) {random : Duration}
    (drawn : random < timing.offsetRange) :
    timing.spanEnd (Duration.ceilMillis (now + timing.offset random)) ≤
      Duration.ceilMillis (now + timing.samplingInterval) +
        timing.allowance (Duration.ofMillis 2) := by
  have exactly (now random interval span : Nat) (drawn : random < interval - span)
      (wholeInterval : 1000000 ∣ interval) (wholeSpan : 1000000 ∣ span) :
      ((now + max random 1000000 + 999999) / 1000000 * 1000000 + span + 999999) / 1000000 *
        1000000 ≤ (now + interval + 999999) / 1000000 * 1000000 := by omega
  have roughly (now random interval span most : Nat) (drawn : random < interval - span)
      (enough : 2000000 ≤ most) :
      ((now + max random 1000000 + 999999) / 1000000 * 1000000 + span + 999999) / 1000000 *
        1000000 ≤ (now + interval + 999999) / 1000000 * 1000000 + most := by omega
  have some : timing.offsetRange ≠ 0 := Nat.ne_zero_of_lt drawn
  rw [offset, if_neg some, allowance]
  split
  · next whole =>
      rw [Nat.add_zero]
      exact exactly now random timing.samplingInterval timing.maxSpanDuration drawn whole.1 whole.2
  · have enough : 2000000 ≤ Duration.ofMillis 2 := by decide
    generalize Duration.ofMillis 2 = most at enough ⊢
    exact roughly now random timing.samplingInterval timing.maxSpanDuration most drawn enough

/-- What is over within one interval from a tick is over by the next deadline. A tick that is late
    by no more than the tolerance sets it as if it had been on time. -/
theorem le_deadlineAfter {now deadline time : Instant} (met : Duration.ceilMillis deadline ≤ now)
    (punctual : timing.IsWhole → now ≤ Duration.ceilMillis deadline)
    (near : time ≤ Duration.ceilMillis (now + timing.samplingInterval) +
      timing.allowance (Duration.ofMillis 2)) :
    time ≤ Duration.ceilMillis (Timer.deadlineAfter now deadline timing.samplingInterval) +
      timing.allowance (Timer.tolerance + Duration.ofMillis 2) := by
  have late (now deadline interval tolerance more : Nat) (onTime : now ≤ deadline + tolerance)
      (whole : 1000000 ∣ tolerance) :
      (now + interval + 999999) / 1000000 * 1000000 + more ≤
        (deadline + interval + 999999) / 1000000 * 1000000 + (tolerance + more) := by omega
  unfold Timer.deadlineAfter
  split
  · exact Nat.le_trans near (Nat.add_le_add_left (timing.allowance_mono (Nat.le_add_left _ _)) _)
  · next onTime =>
      refine Nat.le_trans near ?_
      unfold allowance
      split
      · next whole =>
          have same : now = Duration.ceilMillis deadline := Nat.le_antisymm (punctual whole) met
          have again : Duration.ceilMillis now = now := by
            rw [same]
            exact Duration.ceilMillis_ceilMillis deadline
          refine Nat.le_of_eq ?_
          rw [Duration.ceilMillis_add _ whole.1, Duration.ceilMillis_add _ whole.1, again, same]
      · have whole : 1000000 ∣ Timer.tolerance := by decide
        exact late now deadline timing.samplingInterval Timer.tolerance (Duration.ofMillis 2)
          (Nat.le_of_not_lt onTime) whole

end Timing

/-! ### Schedulers in time -/

namespace Scheduler

section Attempt

variable (now : Instant) (attempt : Attempt) (flag : Flag) (scheduler : Scheduler)

@[simp] theorem attemptEnded_offsets :
    (scheduler.attemptEnded attempt).offsets = scheduler.offsets := by
  unfold attemptEnded
  split <;> rfl

@[simp] theorem attemptEnded_attempts :
    (scheduler.attemptEnded attempt).attempts = scheduler.attempts := by
  unfold attemptEnded
  split <;> rfl

@[simp] theorem attemptEnded_spanTimer :
    (scheduler.attemptEnded attempt).spanTimer = scheduler.spanTimer := by
  unfold attemptEnded
  split <;> rfl

@[simp] theorem attemptEnded_samplingTimer :
    (scheduler.attemptEnded attempt).samplingTimer =
      if attempt.awaited then scheduler.samplingTimer.map Timer.jobEnded
      else scheduler.samplingTimer := by
  unfold attemptEnded
  split <;> rfl

@[simp] theorem attemptEnded_reportTimer :
    (scheduler.attemptEnded attempt).reportTimer = scheduler.reportTimer := by
  unfold attemptEnded
  split <;> rfl

/-- What becomes of a scheduler at the time of an attempt. -/
structure Attempted (scheduler after : Scheduler) : Prop where
  timing : after.timing = scheduler.timing
  offsets : after.offsets = scheduler.offsets
  attempts : after.attempts = scheduler.attempts.erase attempt
  samplingTimer : after.samplingTimer =
    if attempt.awaited then scheduler.samplingTimer.map Timer.jobEnded
    else scheduler.samplingTimer
  reportTimer : after.reportTimer = scheduler.reportTimer
  burst : (after.window.burst = scheduler.window.burst ∧ after.spanTimer = scheduler.spanTimer) ∨
    (scheduler.started.isSet = true ∧
      scheduler.window.startCall? scheduler.timing flag = some (.returned ()) ∧
      after.window.burst = some now ∧
      after.spanTimer = some (Timer.once now scheduler.timing.maxSpanDuration))

/-- An attempt begins a burst, or it leaves the burst and its timer as they are. -/
theorem attempted_attemptDue :
    Attempted now attempt flag scheduler (scheduler.attemptDue now attempt flag).scheduler := by
  cases started : scheduler.started.isSet with
  | false => constructor <;> simp [attemptDue, started]
  | true =>
      cases called : scheduler.window.startCall? scheduler.timing flag with
      | none =>
          have kept : scheduler.window.beginBurst scheduler.timing now flag = _ :=
            Window.beginBurst_of_startCall?_eq_none called
          constructor <;> simp [attemptDue, started, kept]
      | some ending =>
          cases ending with
          | returned =>
              have begins : scheduler.window.beginBurst scheduler.timing now flag = _ :=
                Window.beginBurst_of_returned called
              constructor <;> simp [attemptDue, started, begins, called]
          | failed error =>
              have begins : scheduler.window.beginBurst scheduler.timing now flag = _ :=
                Window.beginBurst_of_failed called
              constructor <;> simp [attemptDue, started, begins]
          | crashed crash =>
              have begins : scheduler.window.beginBurst scheduler.timing now flag = _ :=
                Window.beginBurst_of_crashed called
              constructor <;> simp [attemptDue, started, begins]

end Attempt

/-- What the attempts and the burst of a scheduler lead to is over by a deadline of its sampling
    timer. -/
structure Meets (timing : Timing) (deadline : Instant) (scheduler : Scheduler) : Prop where
  ending : Timer.isEndless timing.samplingInterval = false
  attempts : ∀ attempt ∈ scheduler.attempts,
    timing.spanEnd attempt.wake ≤ Duration.ceilMillis deadline +
      timing.allowance (Timer.tolerance + Duration.ofMillis 2)
  burst : ∀ begun, scheduler.window.burst = some begun →
    timing.spanEnd begun ≤ Duration.ceilMillis deadline +
      timing.allowance (Timer.tolerance + Duration.ofMillis 2)

/-- A sampling timer whose next deadline is met. -/
inductive Paced (timing : Timing) (now : Instant) (scheduler : Scheduler) : Timer → Prop where
  | ticking {deadline : Instant} (meets : scheduler.Meets timing deadline)
      (punctual : timing.IsWhole → now ≤ Duration.ceilMillis deadline) :
      Paced timing now scheduler
        { interval := timing.samplingInterval, phase := .ticking deadline }
  | busy {deadline : Instant} (meets : scheduler.Meets timing deadline) :
      Paced timing now scheduler
        { interval := timing.samplingInterval, phase := .busy (some deadline) }
  | finished :
      Paced timing now scheduler { interval := timing.samplingInterval, phase := .finished }

/-- The bursts of a scheduler are in time. -/
structure InTime (timing : Timing) (now : Instant) (scheduler : Scheduler) : Prop where
  timed : scheduler.timing = timing
  offsets : ∀ count, scheduler.offsets count < timing.offsetRange
  /-- No attempt is overdue, and each leaves room for its span. -/
  attempts : ∀ attempt ∈ scheduler.attempts, now ≤ attempt.wake ∧
    timing.spanEnd attempt.wake ≤ Duration.ceilMillis (now + timing.samplingInterval) +
      timing.allowance (Duration.ofMillis 2)
  ending : scheduler.attempts ≠ [] → Timer.isEndless timing.samplingInterval = false
  /-- A burst under way has a timer, which is not overdue. -/
  underWay : ∀ begun, scheduler.window.burst = some begun →
    begun ≤ now ∧ now ≤ timing.spanEnd begun ∧
      scheduler.spanTimer =
        some { interval := 0, phase := .delayed (begun + timing.maxSpanDuration) }
  /-- Without a burst no timer waits for the end of one. -/
  resting : scheduler.window.burst = none → scheduler.spanTimer.bind Timer.due? = none
  paced : ∀ timer, scheduler.samplingTimer = some timer → Paced timing now scheduler timer

namespace InTime

variable {timing : Timing} {now : Instant} {scheduler : Scheduler}

theorem create (sampler : Sampler) {offsets : Nat → Duration} (created now : Instant)
    (drawn : ∀ count, offsets count < timing.offsetRange) :
    (Scheduler.create sampler timing offsets created).InTime timing now where
  timed := rfl
  offsets := drawn
  attempts := List.forall_mem_nil _
  ending := fun some => absurd rfl some
  underWay := fun _ impossible => nomatch impossible
  resting := fun _ => rfl
  paced := fun _ impossible => nomatch impossible

variable (inTime : scheduler.InTime timing now)

include inTime

/-- A burst under way is due to end exactly when its span is over. -/
theorem due?_spanTimer {begun : Instant} (underWay : scheduler.window.burst = some begun) :
    scheduler.spanTimer.bind Timer.due? = some (timing.spanEnd begun) := by
  rw [(inTime.underWay begun underWay).2.2]
  rfl

/-- A timer for the end of a burst fires exactly at the end of the burst under way. -/
theorem burst_of_due {time : Instant} (due : scheduler.spanTimer.bind Timer.due? = some time)
    (come : time ≤ now) :
    ∃ begun, scheduler.window.burst = some begun ∧ now = timing.spanEnd begun := by
  cases underWay : scheduler.window.burst with
  | none =>
      rw [inTime.resting underWay] at due
      cases due
  | some begun =>
      rw [inTime.due?_spanTimer underWay] at due
      cases due
      exact ⟨begun, rfl, Nat.le_antisymm (inTime.underWay begun underWay).2.1 come⟩

/-- What is in time by a tick is in time by the next deadline. -/
theorem meets {deadline : Instant} (bursts : timing.Bursts)
    (ending : Timer.isEndless timing.samplingInterval = false)
    (next : ∀ time, time ≤ Duration.ceilMillis (now + timing.samplingInterval) +
        timing.allowance (Duration.ofMillis 2) →
      time ≤ Duration.ceilMillis deadline +
        timing.allowance (Timer.tolerance + Duration.ofMillis 2)) :
    scheduler.Meets timing deadline where
  ending := ending
  attempts := fun attempt member => next _ (inTime.attempts attempt member).2
  burst := fun begun underWay =>
    next _ (Nat.le_add_right_of_le (bursts.spanEnd_le (inTime.underWay begun underWay).1))

/-- Time passes, but not beyond anything that is due. -/
theorem wait {instant : Instant}
    (attempts : ∀ attempt ∈ scheduler.attempts, instant ≤ max now attempt.wake)
    (span : ∀ time, scheduler.spanTimer.bind Timer.due? = some time → instant ≤ max now time)
    (tick : ∀ time, scheduler.samplingTimer.bind Timer.due? = some time → instant ≤ max now time) :
    scheduler.InTime timing (max now instant) := by
  have later : now ≤ max now instant := Nat.le_max_left _ _
  have before {time : Instant} (due : instant ≤ max now time) (ahead : now ≤ time) :
      max now instant ≤ time := by
    rw [Nat.max_eq_right ahead] at due
    exact Nat.max_le.mpr ⟨ahead, due⟩
  refine ⟨inTime.timed, inTime.offsets, ?_, inTime.ending, ?_, inTime.resting, ?_⟩
  · intro attempt member
    obtain ⟨ahead, near⟩ := inTime.attempts attempt member
    refine ⟨before (attempts attempt member) ahead, Nat.le_trans near ?_⟩
    exact Nat.add_le_add_right (Duration.ceilMillis_mono (Nat.add_le_add_right later _)) _
  · intro begun underWay
    obtain ⟨past, ahead, timer⟩ := inTime.underWay begun underWay
    have due := span _ (inTime.due?_spanTimer underWay)
    exact ⟨Nat.le_trans past later, before due ahead, timer⟩
  · intro timer found
    cases inTime.paced timer found with
    | ticking meets punctual =>
        refine .ticking meets fun whole => before (tick _ ?_) (punctual whole)
        rw [found]
        rfl
    | busy meets => exact .busy meets
    | finished => exact .finished

/-- Apart from the sampling timer, only what concerns the bursts matters. -/
theorem of_paced {other : Scheduler} (timed : other.timing = scheduler.timing)
    (offsets : other.offsets = scheduler.offsets) (attempts : other.attempts = scheduler.attempts)
    (burst : other.window.burst = scheduler.window.burst)
    (spanTimer : other.spanTimer = scheduler.spanTimer)
    (paced : ∀ timer, other.samplingTimer = some timer → Paced timing now scheduler timer) :
    other.InTime timing now := by
  refine ⟨timed.trans inTime.timed, offsets ▸ inTime.offsets, attempts ▸ inTime.attempts,
    attempts ▸ inTime.ending, ?_, ?_, ?_⟩
  · rw [burst, spanTimer]
    exact inTime.underWay
  · rw [burst, spanTimer]
    exact inTime.resting
  · intro timer found
    have same {deadline : Instant} (meets : scheduler.Meets timing deadline) :
        other.Meets timing deadline :=
      ⟨meets.ending, attempts ▸ meets.attempts, burst ▸ meets.burst⟩
    cases paced timer found with
    | ticking meets punctual => exact .ticking (same meets) punctual
    | busy meets => exact .busy (same meets)
    | finished => exact .finished

/-- The first deadline of a timer that is started now is one interval from now. -/
theorem start (bursts : timing.Bursts) : (scheduler.start now).InTime timing now := by
  by_cases started : scheduler.started.isSet
  · have same : scheduler.start now = scheduler := if_pos started
    rw [same]
    exact inTime
  · have same : scheduler.start now = _ := if_neg started
    rw [same]
    refine inTime.of_paced rfl rfl rfl rfl rfl fun timer found => ?_
    dsimp only at found
    split at found
    · cases found
    · have lasting : timing.samplingInterval ≠ 0 := Nat.ne_zero_of_lt bursts.room
      rw [inTime.timed, Timer.every_eq now lasting] at found
      cases found
      cases ending : Timer.isEndless timing.samplingInterval with
      | true => exact .finished
      | false =>
          refine .ticking (inTime.meets bursts ending fun time near => ?_) fun _ => ?_
          · exact Nat.le_trans near
              (Nat.add_le_add_left (timing.allowance_mono (Nat.le_add_left _ _)) _)
          · exact Nat.le_trans (Nat.le_add_right _ _) (Duration.le_ceilMillis _)

/-- Stopping the timers leaves the attempts and the burst under way as they are. -/
theorem stop : scheduler.stop.InTime timing now where
  timed := inTime.timed
  offsets := inTime.offsets
  attempts := List.forall_mem_map.mpr inTime.attempts
  ending := fun some => inTime.ending fun none => some (by simp [Scheduler.stop, none])
  underWay := inTime.underWay
  resting := inTime.resting
  paced := fun _ impossible => nomatch impossible

/-- A tick puts an attempt off, and sets the next deadline so late that the attempt can be over. -/
theorem samplingTick (bursts : timing.Bursts) {time : Instant}
    (due : scheduler.samplingTimer.bind Timer.due? = some time) (come : time ≤ now) :
    (scheduler.samplingTick now).InTime timing now := by
  obtain rfl := inTime.timed
  obtain ⟨timer, found, dueTimer⟩ := Option.bind_eq_some_iff.mp due
  cases inTime.paced timer found with
  | busy meets => cases dueTimer
  | finished => cases dueTimer
  | @ticking deadline meets punctual =>
      cases dueTimer
      let offset := scheduler.timing.offset (scheduler.offsets scheduler.drawn)
      have ahead : now ≤ Duration.ceilMillis (now + offset) :=
        Nat.le_trans (Nat.le_add_right _ _) (Duration.le_ceilMillis _)
      have near := scheduler.timing.spanEnd_offset_le now (inTime.offsets scheduler.drawn)
      have next := inTime.meets bursts meets.ending fun time near =>
        Timing.le_deadlineAfter come punctual near
      refine ⟨rfl, inTime.offsets, ?_, fun _ => meets.ending, inTime.underWay, inTime.resting, ?_⟩
      · exact List.forall_mem_append.mpr
          ⟨inTime.attempts, List.forall_mem_singleton.mpr ⟨ahead, near⟩⟩
      · intro timer changed
        simp only [Scheduler.samplingTick, found, Option.map_some, Option.some.injEq] at changed
        subst changed
        refine .busy ⟨meets.ending, List.forall_mem_append.mpr ⟨next.attempts, ?_⟩, next.burst⟩
        exact List.forall_mem_singleton.mpr (Timing.le_deadlineAfter come punctual near)

/-- An attempt whose time has come may become a burst. Its place among what the sampling timer
    waits for is taken by the burst. -/
theorem attempted {other : Scheduler} {attempt : Attempt} {flag : Flag} (bursts : timing.Bursts)
    (member : attempt ∈ scheduler.attempts) (come : attempt.wake ≤ now)
    (attempted : Attempted now attempt flag scheduler other) : other.InTime timing now := by
  obtain ⟨timed, offsets, attempts, samplingTimer, -, burst⟩ := attempted
  rw [inTime.timed] at burst
  have same : attempt.wake = now := Nat.le_antisymm come (inTime.attempts attempt member).1
  have ending := inTime.ending (List.ne_nil_of_mem member)
  have remains {rest : Attempt} (left : rest ∈ other.attempts) : rest ∈ scheduler.attempts := by
    rw [attempts] at left
    exact List.mem_of_mem_erase left
  have meets {deadline : Instant} (meets : scheduler.Meets timing deadline) :
      other.Meets timing deadline := by
    refine ⟨ending, fun rest left => meets.attempts rest (remains left), fun begun underWay => ?_⟩
    rcases burst with ⟨kept, -⟩ | ⟨-, -, begins, -⟩
    · exact meets.burst begun (kept ▸ underWay)
    · have now : now = begun := Option.some.inj (begins.symm.trans underWay)
      rw [← now, ← same]
      exact meets.attempts attempt member
  refine ⟨timed.trans inTime.timed, offsets ▸ inTime.offsets,
    fun rest left => inTime.attempts rest (remains left), fun _ => ending, ?_, ?_, ?_⟩
  · intro begun underWay
    rcases burst with ⟨kept, timer⟩ | ⟨-, -, begins, timer⟩
    · rw [timer]
      exact inTime.underWay begun (kept ▸ underWay)
    · have now : now = begun := Option.some.inj (begins.symm.trans underWay)
      have endingSpan := Timer.isEndless_of_le (Nat.le_of_lt bursts.room) ending
      rw [timer, ← now, Timer.once_eq _ bursts.lasting endingSpan]
      exact ⟨Nat.le_refl _, timing.le_spanEnd _, rfl⟩
  · intro none
    rcases burst with ⟨kept, timer⟩ | ⟨-, -, begins, timer⟩
    · rw [timer]
      exact inTime.resting (kept ▸ none)
    · rw [begins] at none
      cases none
  · intro timer found
    rw [samplingTimer] at found
    split at found
    · obtain ⟨before, foundBefore, rfl⟩ := Option.map_eq_some_iff.mp found
      cases inTime.paced before foundBefore with
      | ticking met punctual => exact .ticking (meets met) punctual
      | finished => exact .finished
      | @busy deadline met =>
          refine .ticking (meets met) fun whole => ?_
          have ended := met.attempts attempt member
          rw [Timing.allowance, if_pos whole, Nat.add_zero] at ended
          rw [← same]
          exact Nat.le_trans (timing.le_spanEnd _) ended
    · cases inTime.paced timer found with
      | ticking met punctual => exact .ticking (meets met) punctual
      | busy met => exact .busy (meets met)
      | finished => exact .finished

/-- After the end of a burst its timer has nothing left to do. -/
theorem spanEnds {time : Instant} (flag : Flag)
    (due : scheduler.spanTimer.bind Timer.due? = some time) (come : time ≤ now) :
    (scheduler.spanEnds now flag).scheduler.InTime timing now := by
  obtain ⟨begun, underWay, -⟩ := inTime.burst_of_due due come
  have timer := (inTime.underWay begun underWay).2.2
  have closed : (scheduler.window.endBurst scheduler.timing now flag).window.burst = none := by
    cases called : scheduler.window.stopCall? with
    | none => simp [Window.stopCall?, underWay] at called
    | some ending => exact (Window.endBurst_of_stopCall? _ now flag called).2.1
  refine ⟨inTime.timed, inTime.offsets, inTime.attempts, inTime.ending, ?_, ?_, ?_⟩
  · intro other impossible
    rw [Scheduler.spanEnds, closed] at impossible
    cases impossible
  · intro _
    rw [Scheduler.spanEnds, timer]
    rfl
  · intro timer found
    have meets {deadline : Instant} (meets : scheduler.Meets timing deadline) :
        (scheduler.spanEnds now flag).scheduler.Meets timing deadline := by
      refine ⟨meets.ending, meets.attempts, fun other impossible => ?_⟩
      rw [Scheduler.spanEnds, closed] at impossible
      cases impossible
    cases inTime.paced timer found with
    | ticking met punctual => exact .ticking (meets met) punctual
    | busy met => exact .busy (meets met)
    | finished => exact .finished

end InTime

end Scheduler

end Stackwatch

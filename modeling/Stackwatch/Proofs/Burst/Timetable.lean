import Stackwatch.Proofs.Burst.Accounts
import Stackwatch.Proofs.Burst.Spans
import Stackwatch.Proofs.Timer.Plan

/-!
# The timetable of a scheduler

A scheduler that is started at the start of the clock and then left to its timers has a timetable:
its sampling ticks and its reports come at the multiples of their intervals, the attempt that a tick
puts off comes at its offset, and a burst ends one span after it began. This module says so of one
scheduler, given how many ticks, attempts, reports and ends of bursts there were so far, and how far
a scheduler has got when nothing is due any more.
-/

namespace Stackwatch

/-! ### Times of a timetable -/

/-- How far a scheduler has got. -/
structure Scheduler.Course where
  /-- Ticks of the sampling timer so far. -/
  ticks : Nat := 0
  attempts : Nat := 0
  reports : Nat := 0
  /-- Bursts that ended since the last report. -/
  ended : Nat := 0
  deriving DecidableEq, Repr

namespace Timing

/-- How long an attempt is put off in effect when `random` was drawn. -/
def jitter (timing : Timing) (random : Duration) : Duration :=
  Duration.ceilMillis (timing.offset random)

/-- When the attempt comes that a tick puts off. The first tick has the number one. -/
def attemptAt (timing : Timing) (offsets : Nat → Duration) (tick : Nat) : Instant :=
  tick * timing.samplingInterval + timing.jitter (offsets (tick - 1))

/-- Whether the sampling timer ever ticks. -/
def Samples (timing : Timing) : Prop :=
  timing.reportOnly = false ∧ Timer.isEndless timing.samplingInterval = false

/-- Whether the report timer ever fires. -/
def Reports (timing : Timing) : Prop :=
  timing.reportInterval ≠ 0 ∧ Timer.isEndless timing.reportInterval = false

/-- A timing whose instants timers meet exactly, and offsets that leave room for its spans. -/
structure Exact (timing : Timing) (offsets : Nat → Duration) : Prop where
  lasting : 0 < timing.maxSpanDuration
  room : timing.maxSpanDuration < timing.samplingInterval
  whole : timing.IsWhole
  wholeReport : 1000000 ∣ timing.reportInterval
  jitters : ∀ count, Duration.ofMillis 1 ≤ timing.jitter (offsets count) ∧
    timing.jitter (offsets count) ≤ timing.samplingInterval - timing.maxSpanDuration

/-- Whatever is drawn from the range leaves room for a span. -/
theorem jitter_of_drawn {timing : Timing} {random : Duration} (whole : timing.IsWhole)
    (drawn : random < timing.offsetRange) :
    Duration.ofMillis 1 ≤ timing.jitter random ∧
      timing.jitter random ≤ timing.samplingInterval - timing.maxSpanDuration := by
  have rounds (random interval span : Nat) (drawn : random < interval - span)
      (wholeInterval : 1000000 ∣ interval) (wholeSpan : 1000000 ∣ span) :
      1 * 1000000 ≤ (max random (1 * 1000000) + 999999) / 1000000 * 1000000 ∧
        (max random (1 * 1000000) + 999999) / 1000000 * 1000000 ≤ interval - span := by omega
  have some : timing.offsetRange ≠ 0 := Nat.ne_zero_of_lt drawn
  rw [jitter, offset, if_neg some]
  exact rounds random _ _ drawn whole.1 whole.2

namespace Exact

variable {timing : Timing} {offsets : Nat → Duration} (exact : timing.Exact offsets)

include exact

theorem whole_attemptAt (tick : Nat) : 1000000 ∣ timing.attemptAt offsets tick :=
  Nat.dvd_add (Nat.dvd_mul_left_of_dvd exact.whole.1 tick) (Duration.dvd_ceilMillis _)

theorem lt_attemptAt (tick : Nat) :
    tick * timing.samplingInterval < timing.attemptAt offsets tick :=
  Nat.lt_add_of_pos_right (Nat.lt_of_lt_of_le (by decide) (exact.jitters (tick - 1)).1)

/-- A burst that begins with an attempt is over by the next tick. -/
theorem attemptAt_add_le (tick : Nat) :
    timing.attemptAt offsets tick + timing.maxSpanDuration ≤
      (tick + 1) * timing.samplingInterval := by
  have fits (earlier jitter span interval : Nat) (fits : jitter ≤ interval - span)
      (room : span < interval) : earlier + jitter + span ≤ earlier + interval := by omega
  rw [Nat.succ_mul]
  exact fits _ _ _ _ (exact.jitters (tick - 1)).2 exact.room

theorem attemptAt_mono {earlier later : Nat} (inOrder : earlier ≤ later) :
    timing.attemptAt offsets earlier ≤ timing.attemptAt offsets later := by
  rcases Nat.lt_or_eq_of_le inOrder with before | same
  · calc timing.attemptAt offsets earlier
        ≤ (earlier + 1) * timing.samplingInterval :=
          Nat.le_trans (Nat.le_add_right _ _) (exact.attemptAt_add_le earlier)
      _ ≤ later * timing.samplingInterval := Nat.mul_le_mul_right _ before
      _ ≤ timing.attemptAt offsets later := Nat.le_add_right _ _
  · rw [same]

/-- The timer of an attempt goes off exactly at its time. -/
theorem ceilMillis_attempt (tick : Nat) :
    Duration.ceilMillis ((tick + 1) * timing.samplingInterval + timing.offset (offsets tick)) =
      timing.attemptAt offsets (tick + 1) := by
  have whole : 1000000 ∣ (tick + 1) * timing.samplingInterval :=
    Nat.dvd_mul_left_of_dvd exact.whole.1 _
  rw [Nat.add_comm, Duration.ceilMillis_add _ whole, Nat.add_comm]
  rfl

end Exact

end Timing

/-! ### Schedulers on time -/

namespace Scheduler

/-- A sampling timer ticks at the multiples of its interval, and each tick puts off one attempt. The
    last argument is the time of the last tick while its attempt is put off, else that of the next
    one: a burst under way is over by then. -/
inductive Sampling (timing : Timing) (offsets : Nat → Duration) (now : Instant)
    (ticks made : Nat) (scheduler : Scheduler) : Instant → Prop where
  | silent (never : ¬ timing.Samples)
      (timer : scheduler.samplingTimer.bind Timer.due? = none)
      (attempts : scheduler.attempts = []) (unticked : ticks = 0) (unmade : made = 0) :
      Sampling timing offsets now ticks made scheduler 0
  | waiting (samples : timing.Samples)
      (timer : scheduler.samplingTimer =
        some
          { interval := timing.samplingInterval
            phase := .ticking ((ticks + 1) * timing.samplingInterval) })
      (attempts : scheduler.attempts = []) (answered : made = ticks)
      (behind : ticks ≠ 0 → timing.attemptAt offsets ticks ≤ now)
      (ahead : now ≤ (ticks + 1) * timing.samplingInterval) :
      Sampling timing offsets now ticks made scheduler ((ticks + 1) * timing.samplingInterval)
  | putOff (samples : timing.Samples)
      (timer : scheduler.samplingTimer =
        some
          { interval := timing.samplingInterval
            phase := .busy (some ((ticks + 1) * timing.samplingInterval)) })
      (attempts : scheduler.attempts =
        [{ wake := timing.attemptAt offsets ticks, awaited := true }])
      (answered : ticks = made + 1)
      (behind : ticks * timing.samplingInterval ≤ now)
      (ahead : now ≤ timing.attemptAt offsets ticks) :
      Sampling timing offsets now ticks made scheduler (ticks * timing.samplingInterval)

/-- A burst under way began with one of the attempts made so far. It is over one span later, and by
    a given instant. -/
inductive Capturing (timing : Timing) (offsets : Nat → Duration) (now : Instant) (made : Nat)
    (scheduler : Scheduler) (limit : Instant) : Prop where
  | resting (burst : scheduler.window.burst = none)
      (timer : scheduler.spanTimer.bind Timer.due? = none) :
      Capturing timing offsets now made scheduler limit
  | underWay (attempt : Nat) (numbered : attempt ≠ 0) (past : attempt ≤ made)
      (burst : scheduler.window.burst = some (timing.attemptAt offsets attempt))
      (timer : scheduler.spanTimer =
        some
          { interval := 0
            phase := .delayed (timing.attemptAt offsets attempt + timing.maxSpanDuration) })
      (behind : timing.attemptAt offsets attempt ≤ now)
      (ahead : now ≤ timing.attemptAt offsets attempt + timing.maxSpanDuration)
      (ends : timing.attemptAt offsets attempt + timing.maxSpanDuration ≤ limit) :
      Capturing timing offsets now made scheduler limit

/-- A report timer fires at the multiples of its interval. -/
inductive Reporting (timing : Timing) (now : Instant) (reports : Nat) (timer : Option Timer) :
    Prop where
  | silent (never : ¬ timing.Reports)
      (rests : timer.bind Timer.due? = none) (none : reports = 0) :
      Reporting timing now reports timer
  | waiting
      (waits : timer =
        some
          { interval := timing.reportInterval
            phase := .ticking ((reports + 1) * timing.reportInterval) })
      (behind : reports * timing.reportInterval ≤ now)
      (ahead : now ≤ (reports + 1) * timing.reportInterval) :
      Reporting timing now reports timer

section

variable {timing : Timing} {offsets : Nat → Duration} {now : Instant} {ticks made : Nat}
  {scheduler other : Scheduler} {limit : Instant}

theorem Sampling.of_same (sampling : scheduler.Sampling timing offsets now ticks made limit)
    (timer : other.samplingTimer = scheduler.samplingTimer)
    (attempts : other.attempts = scheduler.attempts) :
    other.Sampling timing offsets now ticks made limit := by
  cases sampling with
  | silent never rests none unticked unmade =>
      exact .silent never (timer ▸ rests) (attempts.trans none) unticked unmade
  | waiting samples waits none answered behind ahead =>
      exact .waiting samples (timer.trans waits) (attempts.trans none) answered behind ahead
  | putOff samples waits one answered behind ahead =>
      exact .putOff samples (timer.trans waits) (attempts.trans one) answered behind ahead

/-- A burst that goes on is over by a later instant as well. -/
theorem Capturing.of_same {later : Instant}
    (capturing : scheduler.Capturing timing offsets now made limit)
    (burst : other.window.burst = scheduler.window.burst)
    (timer : other.spanTimer = scheduler.spanTimer) (inOrder : limit ≤ later) :
    other.Capturing timing offsets now made later := by
  cases capturing with
  | resting rests idle => exact .resting (burst.trans rests) (timer ▸ idle)
  | underWay attempt numbered past begun waits behind ahead ends =>
      exact .underWay attempt numbered past (burst.trans begun) (timer.trans waits) behind ahead
        (Nat.le_trans ends inOrder)

end

/-- Bursts and reports of a scheduler keep to the timetable. -/
structure OnTime (timing : Timing) (offsets : Nat → Duration) (now : Instant) (course : Course)
    (scheduler : Scheduler) : Prop where
  timed : scheduler.timing = timing
  draws : scheduler.offsets = offsets
  drawn : scheduler.drawn = course.ticks
  started : scheduler.started.isSet = true
  bursts : ∃ limit,
    scheduler.Sampling timing offsets now course.ticks course.attempts limit ∧
      scheduler.Capturing timing offsets now course.attempts limit
  reports : Reporting timing now course.reports scheduler.reportTimer
  window : scheduler.window.Counts (course.reports * timing.reportInterval)
    (course.ended * timing.maxSpanDuration)

/-- A timer that is started with the clock goes off at the multiples of its interval. -/
theorem every_zero {interval : Duration} (some : interval ≠ 0)
    (ending : Timer.isEndless interval = false) :
    Timer.every 0 interval =
      { interval := interval, phase := .ticking ((0 + 1) * interval) } := by
  rw [Timer.every_eq 0 some, ending, Nat.zero_add, Nat.one_mul]
  rfl

/-- A timer that never fires is never due. -/
theorem due?_every_zero {interval : Duration}
    (never : ¬ (interval ≠ 0 ∧ Timer.isEndless interval = false)) :
    (Timer.every 0 interval).due? = none := by
  by_cases none : interval = 0
  · rw [none]
    rfl
  · have endless : Timer.isEndless interval = true := by simpa [none] using never
    rw [Timer.every_eq 0 none, endless]
    rfl

/-- A scheduler that is started with the clock is on time. -/
theorem onTime_start {sampler : Sampler} {timing : Timing} {offsets : Nat → Duration}
    {created : Instant} (exact : timing.Exact offsets) (sane : sampler.engine.Sane) :
    ((create sampler timing offsets created).start 0).OnTime timing offsets 0 {} := by
  have lasting : timing.samplingInterval ≠ 0 := Nat.ne_zero_of_lt exact.room
  refine ⟨rfl, rfl, rfl, rfl, ?_, ?_, ?_⟩
  · by_cases samples : timing.Samples
    · refine ⟨_, .waiting samples ?_ rfl rfl (fun some => absurd rfl some) (Nat.zero_le _),
        .resting rfl rfl⟩
      simp [start, create, samples.1, every_zero lasting samples.2]
    · refine ⟨_, .silent samples ?_ rfl rfl rfl, .resting rfl rfl⟩
      have timer : ((create sampler timing offsets created).start 0).samplingTimer =
          if timing.reportOnly then none else some (Timer.every 0 timing.samplingInterval) := rfl
      rw [timer]
      cases reportOnly : timing.reportOnly with
      | true => rfl
      | false => exact due?_every_zero fun ⟨_, ending⟩ => samples ⟨reportOnly, ending⟩
  · by_cases reports : timing.Reports
    · refine .waiting ?_ (Nat.le_of_eq (Nat.zero_mul _)) (Nat.zero_le _)
      simp [start, create, every_zero reports.1 reports.2]
    · exact .silent reports (due?_every_zero reports) rfl
  · have fresh : Window.Counts created 0 { sampler := sampler, openedAt := created } :=
      ⟨sane, rfl, rfl⟩
    rw [Nat.zero_mul, Nat.zero_mul]
    exact fresh.renew

@[simp] theorem attemptEnded_drawn (attempt : Attempt) (scheduler : Scheduler) :
    (scheduler.attemptEnded attempt).drawn = scheduler.drawn := by
  unfold attemptEnded
  split <;> rfl

/-- An attempt changes neither how many offsets were drawn nor whether the scheduler is started. -/
theorem attemptDue_keeps (now : Instant) (attempt : Attempt) (flag : Flag)
    (scheduler : Scheduler) :
    (scheduler.attemptDue now attempt flag).scheduler.drawn = scheduler.drawn ∧
      (scheduler.attemptDue now attempt flag).scheduler.started = scheduler.started := by
  simp only [attemptDue]
  split
  · split <;> simp
  · simp

/-- An interval of which some lie before the end of the clock ends before it. -/
theorem isEndless_of_mul_le {interval : Duration} {count : Nat} {now : Instant}
    (some : count ≠ 0) (within : count * interval ≤ now) (ending : Timer.isEndless now = false) :
    Timer.isEndless interval = false :=
  Timer.isEndless_of_le (Nat.le_trans (Nat.le_mul_of_pos_left _ (Nat.pos_of_ne_zero some)) within)
    ending

/-- Something that a scheduler waits for is due at an instant. -/
def DueAt (scheduler : Scheduler) (time : Instant) : Prop :=
  scheduler.spanTimer.bind Timer.due? = some time ∨
    (∃ attempt ∈ scheduler.attempts, attempt.wake = time) ∨
    scheduler.samplingTimer.bind Timer.due? = some time ∨
    scheduler.reportTimer.bind Timer.due? = some time

/-- A scheduler has got as far as its timetable says of an instant. -/
structure Course.Reaches (timing : Timing) (offsets : Nat → Duration) (target : Instant)
    (course : Course) : Prop where
  ticks : ∀ tick, tick ≠ 0 →
    (tick ≤ course.ticks ↔ timing.reportOnly = false ∧ tick * timing.samplingInterval ≤ target)
  attempts : ∀ tick, tick ≠ 0 →
    (tick ≤ course.attempts ↔
      timing.reportOnly = false ∧ timing.attemptAt offsets tick ≤ target)
  reports : ∀ report, report ≠ 0 →
    (report ≤ course.reports ↔
      timing.reportInterval ≠ 0 ∧ report * timing.reportInterval ≤ target)

section

variable {timing : Timing} {offsets : Nat → Duration} {scheduler after : Scheduler}
  {tick made : Nat} (exact : timing.Exact offsets)

include exact

/-- When an attempt comes, no burst is under way: it was over by the tick. -/
theorem Capturing.rests
    (capturing : scheduler.Capturing timing offsets (timing.attemptAt offsets tick) made
      (tick * timing.samplingInterval)) :
    scheduler.window.burst = none ∧ scheduler.spanTimer.bind Timer.due? = none := by
  cases capturing with
  | resting burst timer => exact ⟨burst, timer⟩
  | underWay attempt numbered past burst timer behind ahead ends =>
      exact absurd (exact.lt_attemptAt tick) (Nat.not_lt.mpr (Nat.le_trans ahead ends))

/-- A burst that an attempt begins is over by the next tick. -/
theorem Attempted.capturing {attempt : Attempt} {flag : Flag}
    (attempted : Attempted (timing.attemptAt offsets tick) attempt flag scheduler after)
    (timed : scheduler.timing = timing)
    (ending : Timer.isEndless timing.samplingInterval = false)
    (rests : scheduler.window.burst = none)
    (idle : scheduler.spanTimer.bind Timer.due? = none) (numbered : tick ≠ 0)
    (past : tick ≤ made) :
    after.Capturing timing offsets (timing.attemptAt offsets tick) made
      ((tick + 1) * timing.samplingInterval) := by
  rcases attempted.burst with ⟨burst, spanTimer⟩ | ⟨-, -, burst, spanTimer⟩
  · exact .resting (burst.trans rests) (spanTimer ▸ idle)
  · have lasting : timing.maxSpanDuration ≠ 0 := Nat.ne_zero_of_lt exact.lasting
    have endingSpan := Timer.isEndless_of_le (Nat.le_of_lt exact.room) ending
    refine .underWay tick numbered past burst ?_ (Nat.le_refl _) (Nat.le_add_right _ _)
      (exact.attemptAt_add_le tick)
    rw [spanTimer, timed, Timer.once_eq _ lasting endingSpan]

end

namespace OnTime

variable {timing : Timing} {offsets : Nat → Duration} {now time : Instant} {course : Course}
  {scheduler : Scheduler}

/-- A deadline in full milliseconds is met exactly. -/
theorem due?_ticking {interval : Duration} (whole : 1000000 ∣ interval) (tick : Nat) :
    Timer.due? { interval := interval, phase := .ticking (tick * interval) } =
      some (tick * interval) :=
  congrArg some (Duration.ceilMillis_of_dvd (Nat.dvd_mul_left_of_dvd whole tick))

variable (exact : timing.Exact offsets) (onTime : scheduler.OnTime timing offsets now course)

include exact

/-- The end of a span is met exactly. -/
theorem due?_span (attempt : Nat) :
    Timer.due?
        { interval := 0
          phase := .delayed (timing.attemptAt offsets attempt + timing.maxSpanDuration) } =
      some (timing.attemptAt offsets attempt + timing.maxSpanDuration) :=
  congrArg some (Duration.ceilMillis_of_dvd
    (Nat.dvd_add (exact.whole_attemptAt attempt) exact.whole.2))

include onTime

/-- Time passes, but not beyond anything that is due. -/
theorem wait {instant : Instant} (before : ∀ time, scheduler.DueAt time → instant ≤ max now time) :
    scheduler.OnTime timing offsets (max now instant) course := by
  have later : now ≤ max now instant := Nat.le_max_left _ _
  have stays {time : Instant} (due : instant ≤ max now time) (ahead : now ≤ time) :
      max now instant ≤ time := by
    rw [Nat.max_eq_right ahead] at due
    exact Nat.max_le.mpr ⟨ahead, due⟩
  obtain ⟨timed, draws, drawn, started, ⟨limit, sampling, capturing⟩, reports, window⟩ := onTime
  refine ⟨timed, draws, drawn, started, ⟨limit, ?_, ?_⟩, ?_, window⟩
  · cases sampling with
    | silent never timer attempts unticked unmade =>
        exact .silent never timer attempts unticked unmade
    | waiting samples timer attempts answered behind ahead =>
        refine .waiting samples timer attempts answered
          (fun numbered => Nat.le_trans (behind numbered) later) (stays (before _ ?_) ahead)
        refine .inr (.inr (.inl ?_))
        rw [timer]
        exact due?_ticking exact.whole.1 _
    | putOff samples timer attempts answered behind ahead =>
        refine .putOff samples timer attempts answered (Nat.le_trans behind later)
          (stays (before _ ?_) ahead)
        exact .inr (.inl ⟨_, attempts ▸ List.mem_singleton_self _, rfl⟩)
  · cases capturing with
    | resting burst timer => exact .resting burst timer
    | underWay attempt numbered past burst timer behind ahead ends =>
        refine .underWay attempt numbered past burst timer (Nat.le_trans behind later)
          (stays (before _ ?_) ahead) ends
        refine .inl ?_
        rw [timer]
        exact due?_span exact attempt
  · cases reports with
    | silent never rests none => exact .silent never rests none
    | waiting waits behind ahead =>
        refine .waiting waits (Nat.le_trans behind later) (stays (before _ ?_) ahead)
        refine .inr (.inr (.inr ?_))
        rw [waits]
        exact due?_ticking exact.wholeReport _

omit onTime

/-- Where nothing is due any more, all ticks and attempts up to now have come. -/
theorem sampling_reaches {ticks made : Nat} {limit : Instant}
    (sampling : scheduler.Sampling timing offsets now ticks made limit)
    (late : ∀ time, scheduler.DueAt time → now < time) (ending : Timer.isEndless now = false)
    {tick : Nat} (numbered : tick ≠ 0) :
    (tick ≤ ticks ↔ timing.reportOnly = false ∧ tick * timing.samplingInterval ≤ now) ∧
      (tick ≤ made ↔ timing.reportOnly = false ∧ timing.attemptAt offsets tick ≤ now) := by
  have before (other : Nat) (within : timing.attemptAt offsets other ≤ now) :
      other * timing.samplingInterval ≤ now :=
    Nat.le_trans (Nat.le_add_right _ _) within
  cases sampling with
  | silent never timer attempts unticked unmade =>
      have never (within : tick * timing.samplingInterval ≤ now) : timing.reportOnly ≠ false :=
        fun samples => never ⟨samples, isEndless_of_mul_le numbered within ending⟩
      have none : ¬ tick ≤ 0 := Nat.not_le.mpr (Nat.pos_of_ne_zero numbered)
      subst unticked unmade
      exact ⟨⟨fun some => absurd some none, fun within => absurd within.1 (never within.2)⟩,
        ⟨fun some => absurd some none, fun within =>
          absurd within.1 (never (before tick within.2))⟩⟩
  | waiting samples timer attempts answered behind ahead =>
      have late : now < (ticks + 1) * timing.samplingInterval := by
        refine late _ (.inr (.inr (.inl ?_)))
        rw [timer]
        exact due?_ticking exact.whole.1 _
      have made (some : tick ≤ ticks) : timing.attemptAt offsets tick ≤ now :=
        Nat.le_trans (exact.attemptAt_mono some)
          (behind (Nat.ne_zero_of_lt (Nat.lt_of_lt_of_le (Nat.pos_of_ne_zero numbered) some)))
      have ticked (within : tick * timing.samplingInterval ≤ now) : tick ≤ ticks :=
        Nat.le_of_lt_succ (Nat.lt_of_mul_lt_mul_right (Nat.lt_of_le_of_lt within late))
      subst answered
      exact ⟨⟨fun some => ⟨samples.1, before tick (made some)⟩, fun within => ticked within.2⟩,
        ⟨fun some => ⟨samples.1, made some⟩, fun within => ticked (before tick within.2)⟩⟩
  | putOff samples timer attempts answered behind ahead =>
      have late : now < timing.attemptAt offsets ticks :=
        late _ (.inr (.inl ⟨_, attempts ▸ List.mem_singleton_self _, rfl⟩))
      have next : timing.attemptAt offsets ticks ≤ (ticks + 1) * timing.samplingInterval :=
        Nat.le_trans (Nat.le_add_right _ _) (exact.attemptAt_add_le ticks)
      refine ⟨⟨fun some => ⟨samples.1, ?_⟩, fun within => ?_⟩,
        ⟨fun some => ⟨samples.1, ?_⟩, fun within => ?_⟩⟩
      · exact Nat.le_trans (Nat.mul_le_mul_right _ some) behind
      · have earlier := Nat.lt_of_lt_of_le (Nat.lt_of_le_of_lt within.2 late) next
        exact Nat.le_of_lt_succ (Nat.lt_of_mul_lt_mul_right earlier)
      · have earlier : (tick + 1) * timing.samplingInterval ≤ ticks * timing.samplingInterval :=
          Nat.mul_le_mul_right _ (answered ▸ Nat.succ_le_succ some)
        exact Nat.le_trans (Nat.le_trans (Nat.le_add_right _ _) (exact.attemptAt_add_le tick))
          (Nat.le_trans earlier behind)
      · have earlier : tick < ticks := Nat.lt_of_not_le fun after =>
          Nat.not_lt.mpr within.2 (Nat.lt_of_lt_of_le late (exact.attemptAt_mono after))
        rw [answered] at earlier
        exact Nat.le_of_lt_succ earlier

/-- Where nothing is due any more, all reports up to now have come. -/
theorem reporting_reaches {reports : Nat} {timer : Option Timer}
    (reporting : Reporting timing now reports timer)
    (late : ∀ time, timer.bind Timer.due? = some time → now < time)
    (ending : Timer.isEndless now = false) {report : Nat} (numbered : report ≠ 0) :
    report ≤ reports ↔
      timing.reportInterval ≠ 0 ∧ report * timing.reportInterval ≤ now := by
  cases reporting with
  | silent never rests unreported =>
      subst unreported
      refine ⟨fun some => absurd some (Nat.not_le.mpr (Nat.pos_of_ne_zero numbered)), ?_⟩
      rintro ⟨some, within⟩
      exact absurd ⟨some, isEndless_of_mul_le numbered within ending⟩ never
  | waiting waits behind ahead =>
      have late : now < (reports + 1) * timing.reportInterval := by
        refine late _ ?_
        rw [waits]
        exact due?_ticking exact.wholeReport _
      refine ⟨fun some => ⟨fun none => ?_, ?_⟩, fun within => ?_⟩
      · rw [none, Nat.mul_zero] at late
        exact absurd late (Nat.not_lt_zero _)
      · exact Nat.le_trans (Nat.mul_le_mul_right _ some) behind
      · exact Nat.le_of_lt_succ (Nat.lt_of_mul_lt_mul_right (Nat.lt_of_le_of_lt within.2 late))

include onTime

theorem reaches (late : ∀ time, scheduler.DueAt time → now < time)
    (ending : Timer.isEndless now = false) : course.Reaches timing offsets now := by
  obtain ⟨_, sampling, -⟩ := onTime.bursts
  refine ⟨fun tick numbered => ?_, fun tick numbered => ?_, fun report numbered => ?_⟩
  · exact (sampling_reaches exact sampling late ending numbered).1
  · exact (sampling_reaches exact sampling late ending numbered).2
  · exact reporting_reaches exact onTime.reports
      (fun time due => late time (.inr (.inr (.inr due)))) ending numbered

/-- A tick comes at its multiple of the interval, and puts an attempt off. -/
theorem samplingTick (due : scheduler.samplingTimer.bind Timer.due? = some time)
    (come : time ≤ now) :
    now = (course.ticks + 1) * timing.samplingInterval ∧
      (scheduler.samplingTick now).OnTime timing offsets now
        { course with ticks := course.ticks + 1 } := by
  obtain ⟨timed, draws, drawn, started, ⟨limit, sampling, capturing⟩, reports, window⟩ := onTime
  cases sampling with
  | silent never timer attempts unticked unmade =>
      rw [timer] at due
      cases due
  | putOff samples timer attempts answered behind ahead =>
      rw [timer] at due
      cases due
  | waiting samples timer attempts answered behind ahead =>
      rw [timer, Option.bind_some, due?_ticking exact.whole.1] at due
      obtain rfl : now = (course.ticks + 1) * timing.samplingInterval :=
        Nat.le_antisymm ahead (Nat.le_trans (Nat.le_of_eq (Option.some.inj due)) come)
      have sampling : (scheduler.samplingTick
          ((course.ticks + 1) * timing.samplingInterval)).Sampling timing offsets
            ((course.ticks + 1) * timing.samplingInterval) (course.ticks + 1) course.attempts
            ((course.ticks + 1) * timing.samplingInterval) := by
        refine .putOff samples ?_ ?_ (congrArg (· + 1) answered.symm) (Nat.le_refl _)
          (Nat.le_of_lt (exact.lt_attemptAt _))
        · simp [Scheduler.samplingTick, timer, Timer.fire, Timer.deadlineAfter, Nat.succ_mul]
        · simp [Scheduler.samplingTick, attempts, timed, draws, drawn, exact.ceilMillis_attempt]
      exact ⟨rfl, timed, draws, congrArg (· + 1) drawn, started,
        ⟨_, sampling, capturing.of_same rfl rfl (Nat.le_refl _)⟩, reports, window⟩

/-- The attempt that the last tick put off comes at its offset, when no burst is under way. -/
theorem attemptDue {attempt : Attempt} (flag : Flag) (member : attempt ∈ scheduler.attempts)
    (come : attempt.wake ≤ now) :
    course.ticks = course.attempts + 1 ∧ now = timing.attemptAt offsets course.ticks ∧
      scheduler.window.burst = none ∧
      (scheduler.attemptDue now attempt flag).scheduler.OnTime timing offsets now
        { course with attempts := course.attempts + 1 } := by
  obtain ⟨timed, draws, drawn, started, ⟨limit, sampling, capturing⟩, reports, window⟩ := onTime
  cases sampling with
  | silent never timer attempts unticked unmade =>
      rw [attempts] at member
      cases member
  | waiting samples timer attempts answered behind ahead =>
      rw [attempts] at member
      cases member
  | putOff samples timer attempts answered behind ahead =>
      rw [attempts, List.mem_singleton] at member
      subst member
      obtain rfl : now = timing.attemptAt offsets course.ticks := Nat.le_antisymm ahead come
      obtain ⟨rests, idle⟩ := capturing.rests exact
      refine ⟨answered, rfl, rests, ?_⟩
      let after := (scheduler.attemptDue (timing.attemptAt offsets course.ticks)
        { wake := timing.attemptAt offsets course.ticks, awaited := true } flag).scheduler
      have attempted : Attempted _ _ flag scheduler after := attempted_attemptDue ..
      obtain ⟨drawnAfter, startedAfter⟩ : after.drawn = scheduler.drawn ∧
          after.started = scheduler.started := attemptDue_keeps ..
      have sampling : after.Sampling timing offsets (timing.attemptAt offsets course.ticks)
          course.ticks (course.attempts + 1) ((course.ticks + 1) * timing.samplingInterval) := by
        refine .waiting samples ?_ ?_ answered.symm (fun _ => Nat.le_refl _) ?_
        · rw [attempted.samplingTimer, timer]
          rfl
        · rw [attempted.attempts, attempts, List.erase_cons_head]
        · exact Nat.le_trans (Nat.le_add_right _ _) (exact.attemptAt_add_le course.ticks)
      refine ⟨attempted.timing.trans timed, attempted.offsets.trans draws, drawnAfter.trans drawn,
        startedAfter ▸ started, ⟨_, sampling, ?_⟩, attempted.reportTimer ▸ reports, ?_⟩
      · have numbered : course.ticks ≠ 0 := answered ▸ Nat.succ_ne_zero _
        exact attempted.capturing exact timed samples.2 rests idle numbered
          (Nat.le_of_eq answered)
      · rw [(attemptDue_of_started _ _ flag started).1]
        exact window.beginBurst

/-- A burst that ends began one span ago; its length is added to what was sampled. -/
theorem spanEnds (flag : Flag) (due : scheduler.spanTimer.bind Timer.due? = some time)
    (come : time ≤ now) :
    (∃ begun, scheduler.window.burst = some begun ∧ now = begun + timing.maxSpanDuration) ∧
      (scheduler.spanEnds now flag).scheduler.window.burst = none ∧
      (scheduler.spanEnds now flag).scheduler.OnTime timing offsets now
        { course with ended := course.ended + 1 } := by
  obtain ⟨timed, draws, drawn, started, ⟨limit, sampling, capturing⟩, reports, window⟩ := onTime
  cases capturing with
  | resting burst timer =>
      rw [timer] at due
      cases due
  | underWay attempt numbered past burst timer behind ahead ends =>
      rw [timer, Option.bind_some, due?_span exact] at due
      have same : now = timing.attemptAt offsets attempt + timing.maxSpanDuration :=
        Nat.le_antisymm ahead (Nat.le_trans (Nat.le_of_eq (Option.some.inj due)) come)
      have closed : (scheduler.spanEnds now flag).scheduler.window.burst = none :=
        Window.burst_endBurst ..
      have idle : (scheduler.spanEnds now flag).scheduler.spanTimer.bind Timer.due? = none := by
        rw [Scheduler.spanEnds, timer]
        rfl
      have length : now - timing.attemptAt offsets attempt = timing.maxSpanDuration := by
        rw [same, Nat.add_sub_cancel_left]
      have counts : (scheduler.spanEnds now flag).scheduler.window.Counts
          (course.reports * timing.reportInterval)
          (course.ended * timing.maxSpanDuration + (now - timing.attemptAt offsets attempt)) :=
        window.endBurst burst
      rw [length, ← Nat.succ_mul] at counts
      exact ⟨⟨_, burst, same⟩, closed, timed, draws, drawn, started,
        ⟨limit, sampling.of_same rfl rfl, .resting closed idle⟩, reports, counts⟩

/-- A report comes at its multiple of the interval; it finds the window one interval old. -/
theorem reportTick (origin : Profile.Origin) (externalProcess : Option String)
    (due : scheduler.reportTimer.bind Timer.due? = some time) (come : time ≤ now) :
    now = (course.reports + 1) * timing.reportInterval ∧
      Scheduler.OnTime timing offsets now { course with reports := course.reports + 1, ended := 0 }
        ({ scheduler with
          window := (scheduler.window.report scheduler.timing now origin
            externalProcess).window }.reportTick now) := by
  obtain ⟨timed, draws, drawn, started, ⟨limit, sampling, capturing⟩, reports, window⟩ := onTime
  cases reports with
  | silent never rests none =>
      rw [rests] at due
      cases due
  | waiting waits behind ahead =>
      rw [waits, Option.bind_some, due?_ticking exact.wholeReport] at due
      obtain rfl : now = (course.reports + 1) * timing.reportInterval :=
        Nat.le_antisymm ahead (Nat.le_trans (Nat.le_of_eq (Option.some.inj due)) come)
      refine ⟨rfl, timed, draws, drawn, started, ⟨limit, sampling.of_same rfl rfl,
        capturing.of_same (Window.report_burst ..) rfl (Nat.le_refl _)⟩, .waiting ?_ ?_ ?_, ?_⟩
      · simp [Scheduler.reportTick, waits, Timer.fire, Timer.deadlineAfter, Timer.jobEnded,
          Timer.await, Nat.succ_mul]
      · exact Nat.le_refl _
      · exact Nat.mul_le_mul_right _ (Nat.le_succ _)
      · rw [Nat.zero_mul]
        exact window.report origin externalProcess

end OnTime

end Scheduler

end Stackwatch

import Mathlib.Data.List.Basic
import Mathlib.Order.Nat
import Stackwatch.Proofs.Timer.Plan

/-!
# A timer keeps to its plan

A run of a timer tells when its jobs begin and end. The main statement says that it tells exactly
what is planned, up to the instant to which the run was let go on, whatever the jobs are: how long
they take is part of the plan, and whether they crash is not. Between two events the run either
waits for the next deadline or for the end of a job, and each event leads from one to the other.
-/

namespace Stackwatch

namespace Timer

/-- The place of the first job. Without a delay there is no job in place zero. -/
def firstPlace (delay : Duration) : Nat := if delay = 0 then 1 else 0

/-- How long the job in a place takes; where there is none it takes no time. -/
def lengthAt (delay : Duration) (jobs : Nat → Job) (place : Nat) : Duration :=
  if place < firstPlace delay then 0 else (jobs (place - firstPlace delay)).length

/-- The plan of a timer and its jobs. -/
def Plan.of (started : Instant) (delay interval : Duration) (jobs : Nat → Job) : Plan where
  origin := Duration.ceilMillis (wakeAfter started delay)
  interval := interval
  length := lengthAt delay jobs

namespace Run

/-- A run of a timer that is started now. -/
def initial (started : Instant) (delay interval : Duration) (jobs : Nat → Job) : Run :=
  { now := started, timer := .start started delay interval, jobs := jobs }

/-- When jobs were begun, in their order. -/
def begins (run : Run) : List Instant :=
  run.events.filterMap fun
    | .began time => some time
    | .ended _ => none

/-- What is told of a job that is over: its beginning and, if it does not crash, its end. -/
def told (plan : Plan) (first : Nat) (jobs : Nat → Job) (count : Nat) : List Event :=
  .began (plan.begins (count + first)) ::
    if (jobs count).crash?.isNone then [.ended (plan.ends (count + first))] else []

/-- What is told of a job up to an instant. -/
def planned (plan : Plan) (first : Nat) (jobs : Nat → Job) (target : Instant) (count : Nat) :
    List Event :=
  .began (plan.begins (count + first)) ::
    if (jobs count).crash?.isNone ∧ plan.ends (count + first) ≤ target then
      [.ended (plan.ends (count + first))]
    else []

/-- All jobs that were begun are over, and the next one is waited for. -/
structure Waiting (plan : Plan) (first : Nat) (run : Run) : Prop where
  idle : run.running = none
  phase : run.timer.phase = .ticking (plan.deadline (run.begun + first)) ∨
    run.begun + first = 0 ∧
      ∃ wake, run.timer.phase = .delayed wake ∧ Duration.ceilMillis wake = plan.origin
  ahead : max run.now (Duration.ceilMillis (plan.deadline (run.begun + first))) =
    plan.begins (run.begun + first)
  past : ∀ count < run.begun, plan.ends (count + first) ≤ run.now
  events : run.events = (List.range run.begun).flatMap (told plan first run.jobs)

/-- The last job that was begun is under way. -/
structure Busy (plan : Plan) (first count : Nat) (run : Run) : Prop where
  begun : run.begun = count + 1
  running : run.running =
    some
      { endsAt := plan.ends (count + first), crash? := (run.jobs count).crash?, awaited := true }
  phase : run.timer.phase = .busy (some (plan.deadline (count + first + 1)))
  behind : plan.begins (count + first) ≤ run.now
  ahead : run.now ≤ plan.ends (count + first)
  past : ∀ earlier < count, plan.ends (earlier + first) ≤ run.now
  events : run.events = (List.range count).flatMap (told plan first run.jobs) ++
    [.began (plan.begins (count + first))]

/-- A run does what is planned. -/
structure Follows (plan : Plan) (first : Nat) (run : Run) : Prop where
  interval : run.timer.interval = plan.interval
  lengths : ∀ count, plan.length (count + first) = (run.jobs count).length
  state : run.Waiting plan first ∨ ∃ count, run.Busy plan first count

/-- More than the number of events of a run up to an instant. -/
def eventsLeft (plan : Plan) (first : Nat) (target : Instant) (run : Run) : Nat :=
  2 * plan.ticksLeft target run.now (run.begun + first) + if run.running.isSome then 1 else 0

section

variable {plan : Plan} {first count : Nat} {run : Run} {target : Instant}

theorem Waiting.due?_eq (waiting : run.Waiting plan first) (whole : plan.Whole) :
    run.due? = some (plan.begins (run.begun + first)) := by
  have due : run.timer.due? = some (Duration.ceilMillis (plan.deadline (run.begun + first))) := by
    rcases waiting.phase with ticking | ⟨none, wake, delayed, origin⟩
    · simp [Timer.due?, ticking]
    · have same : plan.deadline 0 = plan.origin := rfl
      simp [Timer.due?, delayed, origin, none, same, Duration.ceilMillis_of_dvd whole.origin]
  simp [Run.due?, waiting.idle, due, waiting.ahead]

theorem Busy.due?_eq (busy : run.Busy plan first count) :
    run.due? = some (plan.ends (count + first)) := by
  simp [Run.due?, busy.running]

/-- The timer fires and waits for the job. -/
theorem Follows.fire (follows : run.Follows plan first) (waiting : run.Waiting plan first)
    (paced : plan.interval ≠ 0) (ending : isEndless plan.interval = false) :
    run.timer.breaksNext = false ∧
      run.timer.fire (plan.begins (run.begun + first)) =
        { interval := plan.interval
          phase := .busy (some (plan.deadline (run.begun + first + 1))) } := by
  rcases waiting.phase with ticking | ⟨none, wake, delayed, -⟩
  · refine ⟨by simp [breaksNext, ticking], ?_⟩
    simp [Timer.fire, ticking, follows.interval, Plan.deadline_succ]
  · refine ⟨by simp [breaksNext, delayed, follows.interval, ending], ?_⟩
    have next : plan.deadline 1 = plan.begins 0 + plan.interval := by
      have onTime : ¬ plan.deadline 0 + tolerance < plan.begins 0 :=
        Nat.not_lt.mpr (Nat.le_add_right _ _)
      rw [Plan.deadline_succ, deadlineAfter, if_neg onTime]
      rfl
    simp [Timer.fire, delayed, follows.interval, none, next, nextInterval, paced, ending]

/-- What is waited for comes: the next job is begun. -/
theorem Follows.step_waiting (follows : run.Follows plan first)
    (waiting : run.Waiting plan first) (paced : plan.interval ≠ 0)
    (ending : isEndless plan.interval = false) :
    let after := run.step (plan.begins (run.begun + first))
    after.Follows plan first ∧ after.Busy plan first run.begun ∧ after.jobs = run.jobs ∧
      after.now = plan.begins (run.begun + first) := by
  obtain ⟨unbroken, fired⟩ := follows.fire waiting paced ending
  have stepEq : run.step (plan.begins (run.begun + first)) =
      run.beginJob (plan.begins (run.begun + first)) := by
    simp [step, waiting.idle, unbroken]
  have ends : Duration.ceilMillis
      (plan.begins (run.begun + first) + (run.jobs run.begun).length) =
        plan.ends (run.begun + first) := by
    rw [← follows.lengths, Plan.ends]
  have inOrder : run.now ≤ plan.begins (run.begun + first) :=
    waiting.ahead ▸ Nat.le_max_left _ _
  intro after
  rw [show after = _ from stepEq]
  have busy : (run.beginJob (plan.begins (run.begun + first))).Busy plan first run.begun := by
    refine ⟨rfl, ?_, ?_, Nat.le_refl _, plan.begins_le_ends _, ?_, ?_⟩
    · simp [beginJob, ends]
    · simp [beginJob, fired]
    · exact fun earlier before => Nat.le_trans (waiting.past earlier before) inOrder
    · simp [beginJob, waiting.events]
  refine ⟨⟨?_, follows.lengths, .inr ⟨_, busy⟩⟩, busy, rfl, rfl⟩
  simp [beginJob, fired]

/-- A job that crashes differs from one that returns in that its end is not told. -/
theorem endJob_fields (now : Instant) (job : Running) :
    (run.endJob now job).now = now ∧ (run.endJob now job).timer = run.timer.jobEnded ∧
      (run.endJob now job).jobs = run.jobs ∧ (run.endJob now job).begun = run.begun ∧
      (run.endJob now job).running = none ∧
      (run.endJob now job).events =
        run.events ++ if job.crash?.isNone then [.ended now] else [] := by
  unfold endJob
  cases job.crash? with
  | none => exact ⟨rfl, rfl, rfl, rfl, rfl, rfl⟩
  | some crash =>
      dsimp only
      split <;> exact ⟨rfl, rfl, rfl, rfl, rfl, (List.append_nil _).symm⟩

/-- The end of a job comes: the next deadline is waited for. -/
theorem Follows.step_busy (follows : run.Follows plan first) (busy : run.Busy plan first count) :
    let after := run.step (plan.ends (count + first))
    after.Follows plan first ∧ after.Waiting plan first ∧ after.begun = run.begun ∧
      after.jobs = run.jobs ∧ after.now = plan.ends (count + first) := by
  intro after
  obtain ⟨now, timer, jobs, begun, idle, events⟩ := run.endJob_fields (plan.ends (count + first))
    { endsAt := plan.ends (count + first), crash? := (run.jobs count).crash?, awaited := true }
  have stepEq : after = run.endJob (plan.ends (count + first))
      { endsAt := plan.ends (count + first), crash? := (run.jobs count).crash?
        awaited := true } := by
    simp [after, step, busy.running]
  rw [← stepEq] at now timer jobs begun idle events
  have next : count + 1 + first = count + first + 1 := Nat.add_right_comm count 1 first
  have waits : run.timer.jobEnded =
      { interval := plan.interval, phase := .ticking (plan.deadline (count + first + 1)) } := by
    simp [Timer.jobEnded, busy.phase, await, follows.interval]
  have waiting : after.Waiting plan first := by
    refine ⟨idle, .inl ?_, ?_, ?_, ?_⟩
    · rw [timer, waits, begun, busy.begun, next]
    · rw [now, begun, busy.begun, next]
      rfl
    · rw [now, begun, busy.begun]
      intro earlier before
      rcases Nat.lt_succ_iff_lt_or_eq.mp before with before | same
      · exact Nat.le_trans (busy.past earlier before) busy.ahead
      · exact Nat.le_of_eq (by rw [same])
    · rw [events, begun, busy.begun, busy.events, jobs, List.range_succ, List.flatMap_append,
        List.append_assoc]
      simp [told]
  exact ⟨⟨by rw [timer, waits], jobs ▸ follows.lengths, .inl waiting⟩, waiting, begun, jobs, now⟩

/-- A run that follows its plan always waits for something. -/
theorem Follows.due?_isSome (follows : run.Follows plan first) (whole : plan.Whole) :
    run.due?.isSome := by
  rcases follows.state with waiting | ⟨count, busy⟩
  · simp [waiting.due?_eq whole]
  · simp [busy.due?_eq]

/-- Time passes up to an instant before the next event. -/
theorem Follows.wait {due : Instant} (follows : run.Follows plan first) (whole : plan.Whole)
    (ahead : run.now ≤ target) (found : run.due? = some due) (later : target < due) :
    Follows plan first { run with now := target } ∧ due? { run with now := target } = some due := by
  rcases follows.state with waiting | ⟨count, busy⟩
  · obtain rfl : plan.begins (run.begun + first) = due :=
      Option.some.inj ((waiting.due?_eq whole).symm.trans found)
    have stays (now target deadline begins : Nat) (ahead : now ≤ target)
        (later : target < begins) (same : max now deadline = begins) :
        max target deadline = begins := by omega
    have waits : Waiting plan first { run with now := target } :=
      ⟨waiting.idle, waiting.phase, stays _ _ _ _ ahead later waiting.ahead,
        fun count before => Nat.le_trans (waiting.past count before) ahead, waiting.events⟩
    exact ⟨⟨follows.interval, follows.lengths, .inl waits⟩, waits.due?_eq whole⟩
  · obtain rfl : plan.ends (count + first) = due :=
      Option.some.inj (busy.due?_eq.symm.trans found)
    have goesOn : Busy plan first count { run with now := target } :=
      ⟨busy.begun, busy.running, busy.phase, Nat.le_trans busy.behind ahead, Nat.le_of_lt later,
        fun earlier before => Nat.le_trans (busy.past earlier before) ahead, busy.events⟩
    exact ⟨⟨follows.interval, follows.lengths, .inr ⟨count, goesOn⟩⟩, goesOn.due?_eq⟩

/-- A run has got to an instant: nothing is due until then. -/
structure Reached (target : Instant) (run : Run) : Prop where
  now : run.now = target
  late : ∀ due, run.due? = some due → target < due

/-- Whatever comes is planned, and uses up some of what is left. -/
theorem Follows.step {due : Instant} (follows : run.Follows plan first) (whole : plan.Whole)
    (paced : plan.interval ≠ 0) (ending : isEndless plan.interval = false)
    (found : run.due? = some due) (soon : due ≤ target) :
    (run.step due).Follows plan first ∧ (run.step due).now = due ∧
      (run.step due).jobs = run.jobs ∧
      (run.step due).eventsLeft plan first target < run.eventsLeft plan first target := by
  rcases follows.state with waiting | ⟨count, busy⟩
  · obtain rfl : plan.begins (run.begun + first) = due :=
      Option.some.inj ((waiting.due?_eq whole).symm.trans found)
    obtain ⟨followsThen, busyThen, jobs, now⟩ := follows.step_waiting waiting paced ending
    refine ⟨followsThen, now, jobs, ?_⟩
    have uses := Plan.ticksLeft_succ whole paced (waiting.ahead ▸ Nat.le_max_left _ _) soon
    unfold eventsLeft
    rw [now, busyThen.begun, busyThen.running, waiting.idle, Nat.add_right_comm]
    simp only [Option.isSome_some, Option.isSome_none, if_true, Bool.false_eq_true, if_false]
    omega
  · obtain rfl : plan.ends (count + first) = due :=
      Option.some.inj (busy.due?_eq.symm.trans found)
    obtain ⟨followsThen, waitingThen, begun, jobs, now⟩ := follows.step_busy busy
    refine ⟨followsThen, now, jobs, ?_⟩
    have fewer : plan.ticksLeft target (plan.ends (count + first)) (run.begun + first) ≤
        plan.ticksLeft target run.now (run.begun + first) := Timer.ticksLeft_anti busy.ahead
    unfold eventsLeft
    rw [now, begun, waitingThen.idle, busy.running]
    simp only [Option.isSome_some, Option.isSome_none, if_true, Bool.false_eq_true, if_false]
    omega

/-- A run that is let go on does what is planned, and gets to the instant. -/
theorem Follows.advanceWith {fuel : Nat} (follows : run.Follows plan first) (whole : plan.Whole)
    (paced : plan.interval ≠ 0) (ending : isEndless plan.interval = false)
    (ahead : run.now ≤ target) (enough : run.eventsLeft plan first target < fuel) :
    (run.advanceWith target fuel).Follows plan first ∧
      (run.advanceWith target fuel).Reached target ∧
      (run.advanceWith target fuel).jobs = run.jobs := by
  induction fuel generalizing run with
  | zero => exact absurd enough (Nat.not_lt_zero _)
  | succ fuel inductionHypothesis =>
      obtain ⟨due, found⟩ := Option.isSome_iff_exists.mp (follows.due?_isSome whole)
      simp only [Run.advanceWith, found]
      split
      · next soon =>
          obtain ⟨followsThen, now, jobs, fewer⟩ := follows.step whole paced ending found soon
          have enoughThen := Nat.lt_of_lt_of_le fewer (Nat.le_of_lt_succ enough)
          obtain ⟨last, reached, same⟩ :=
            inductionHypothesis followsThen (Nat.le_trans (Nat.le_of_eq now) soon) enoughThen
          exact ⟨last, reached, same.trans jobs⟩
      · next later =>
          obtain ⟨waits, same⟩ := follows.wait whole ahead found (Nat.lt_of_not_le later)
          refine ⟨waits, ⟨rfl, fun due foundThen => ?_⟩, rfl⟩
          obtain rfl := Option.some.inj (same.symm.trans foundThen)
          exact Nat.lt_of_not_le later

theorem eventsLeft_lt_patience (plan : Plan) (first : Nat) (target : Instant) (run : Run) :
    run.eventsLeft plan first target < run.patience target := by
  have bounded := Timer.ticksLeft_le target run.now
    (some (await plan.interval (some (plan.deadline (run.begun + first)))))
  unfold eventsLeft patience Plan.ticksLeft
  split <;> omega

theorem Follows.advance (follows : run.Follows plan first) (whole : plan.Whole)
    (paced : plan.interval ≠ 0) (ending : isEndless plan.interval = false)
    (ahead : run.now ≤ target) :
    (run.advance target).Follows plan first ∧ (run.advance target).Reached target ∧
      (run.advance target).jobs = run.jobs :=
  follows.advanceWith whole paced ending ahead (eventsLeft_lt_patience plan first target run)

/-- A run that has got to an instant has begun the jobs that were to begin by then, and told of all
    that was to come by then. -/
theorem Follows.planned_of_reached (follows : run.Follows plan first) (whole : plan.Whole)
    (reached : run.Reached target) :
    (∀ count, count < run.begun ↔ plan.begins (count + first) ≤ target) ∧
      run.events = (List.range run.begun).flatMap (planned plan first run.jobs target) := by
  rcases follows.state with waiting | ⟨last, busy⟩
  · have later := reached.late _ (waiting.due?_eq whole)
    have past := reached.now ▸ waiting.past
    refine ⟨fun count => ⟨fun before => ?_, fun come => ?_⟩, ?_⟩
    · exact Nat.le_trans (plan.begins_le_ends _) (past count before)
    · refine Nat.lt_of_not_le fun after => Nat.not_lt.mpr come (Nat.lt_of_lt_of_le later ?_)
      exact plan.begins_mono (Nat.add_le_add_right after first)
    · rw [waiting.events]
      refine List.flatMap_congr fun count member => ?_
      simp [told, planned, past count (List.mem_range.mp member)]
  · have later := reached.late _ busy.due?_eq
    have past := reached.now ▸ busy.past
    refine ⟨fun count => ⟨fun before => ?_, fun come => ?_⟩, ?_⟩
    · have notAfter : count ≤ last :=
        Nat.le_of_lt_succ (Nat.lt_of_lt_of_eq before busy.begun)
      exact Nat.le_trans (plan.begins_mono (Nat.add_le_add_right notAfter first))
        (reached.now ▸ busy.behind)
    · rw [busy.begun]
      refine Nat.lt_of_not_le fun after => Nat.not_lt.mpr come (Nat.lt_of_lt_of_le later ?_)
      have next : last + first + 1 ≤ count + first :=
        Nat.add_right_comm last first 1 ▸ Nat.add_le_add_right after first
      exact Nat.le_trans (plan.ends_le_begins _) (plan.begins_mono next)
    · rw [busy.events, busy.begun, List.range_succ, List.flatMap_append]
      congr 1
      · refine List.flatMap_congr fun count member => ?_
        simp [told, planned, past count (List.mem_range.mp member)]
      · simp [planned, Nat.not_le.mpr later]

end

/-! ### From the start on -/

section

variable {started target : Instant} {delay interval : Duration} {jobs : Nat → Job}

theorem le_origin (started : Instant) (delay interval : Duration) (jobs : Nat → Job) :
    started ≤ (Plan.of started delay interval jobs).origin :=
  Nat.le_trans (Nat.le_add_right _ _) (Duration.le_ceilMillis _)

/-- A plan begins at the next full millisecond after the delay. -/
theorem origin_of (delay interval : Duration) (jobs : Nat → Job) (wholeStart : 1000000 ∣ started) :
    (Plan.of started delay interval jobs).origin =
      started + (if isEndless delay then longestDelay else Duration.ceilMillis delay) := by
  have rounds (length : Duration) :
      Duration.ceilMillis (started + length) = started + Duration.ceilMillis length := by
    rw [Nat.add_comm, Duration.ceilMillis_add _ wholeStart, Nat.add_comm]
  rw [Plan.of, wakeAfter, rounds]
  split
  · rw [Duration.ceilMillis_of_dvd (by decide)]
  · rfl

theorem whole_of (whole : 1000000 ∣ interval) : (Plan.of started delay interval jobs).Whole :=
  ⟨Duration.dvd_ceilMillis _, whole⟩

/-- A timer without a delay waits for its first interval at once. -/
theorem waiting_initial (wholeStart : 1000000 ∣ started) (paced : interval ≠ 0)
    (ending : isEndless interval = false) :
    (initial started delay interval jobs).Waiting (Plan.of started delay interval jobs)
      (firstPlace delay) := by
  by_cases delayed : delay = 0
  · subst delayed
    have origin : (Plan.of started 0 interval jobs).origin = started := by
      have none : wakeAfter started 0 = started := rfl
      rw [Plan.of, none, Duration.ceilMillis_of_dvd wholeStart]
    have next : (Plan.of started 0 interval jobs).deadline 1 = started + interval := by
      have onTime : ¬ started + tolerance < started := Nat.not_lt.mpr (Nat.le_add_right _ _)
      rw [Plan.deadline_succ, Plan.begins, Plan.deadline, Plan.tick, origin, deadlineAfter,
        if_neg onTime]
      rfl
    have ended : (Plan.of started 0 interval jobs).ends 0 = started := by
      rw [Plan.ends, Plan.begins, Plan.tick, origin]
      exact Duration.ceilMillis_of_dvd wholeStart
    refine ⟨rfl, .inl ?_, ?_, fun _ before => absurd before (Nat.not_lt_zero _), rfl⟩
    · simp [initial, start, nextInterval, await, paced, ending, firstPlace, next]
    · simp [initial, firstPlace, Plan.begins_succ, ended]
  · refine ⟨rfl, .inr ⟨by simp [initial, firstPlace, delayed], _, ?_, rfl⟩, ?_,
      fun _ before => absurd before (Nat.not_lt_zero _), rfl⟩
    · simp [initial, start, delayed]
    · have behind := le_origin started delay interval jobs
      have same : Duration.ceilMillis (Plan.of started delay interval jobs).origin =
          (Plan.of started delay interval jobs).origin := Duration.ceilMillis_ceilMillis _
      simp [initial, firstPlace, delayed, Plan.deadline, Plan.begins, Plan.tick, same, behind]

theorem follows_initial (wholeStart : 1000000 ∣ started) (paced : interval ≠ 0)
    (ending : isEndless interval = false) :
    (initial started delay interval jobs).Follows (Plan.of started delay interval jobs)
      (firstPlace delay) := by
  refine ⟨?_, fun count => ?_, .inl (waiting_initial wholeStart paced ending)⟩
  · simp only [initial, start, nextInterval, Plan.of]
    split
    · split <;> rfl
    · rfl
  · have behind : ¬ count + firstPlace delay < firstPlace delay :=
      Nat.not_lt.mpr (Nat.le_add_left _ _)
    simp [initial, Plan.of, lengthAt, behind]

/-- Where nothing is waited for, nothing comes. -/
theorem advanceWith_of_idle {run : Run} (idle : run.due? = none) (target : Instant) (fuel : Nat) :
    (run.advanceWith target fuel).events = run.events := by
  cases fuel with
  | zero => rfl
  | succ fuel => simp [Run.advanceWith, idle]

theorem exists_patience (run : Run) (target : Instant) :
    ∃ fuel, run.patience target = fuel + 1 := ⟨_, rfl⟩

/-- A timer whose interval lies beyond the end of the clock begins no job, not even the one at the
    end of its delay. -/
theorem events_of_endless (endless : isEndless interval = true) (target : Instant) :
    ((initial started delay interval jobs).advance target).events = [] := by
  by_cases delayed : delay = 0
  · refine advanceWith_of_idle ?_ target _
    simp [initial, start, delayed, nextInterval, endless, await, Run.due?, Timer.due?]
  · have breaks : (initial started delay interval jobs).timer.breaksNext = true := by
      simp [initial, start, delayed, breaksNext, endless]
    have stops (now : Instant) : ((initial started delay interval jobs).step now).due? = none := by
      simp only [step, initial] at breaks ⊢
      simp only [breaks, if_true]
      rfl
    have tells (now : Instant) : ((initial started delay interval jobs).step now).events = [] := by
      simp only [step, initial] at breaks ⊢
      simp only [breaks, if_true]
    obtain ⟨fuel, patience⟩ := exists_patience (initial started delay interval jobs) target
    rw [advance, patience, Run.advanceWith]
    split
    · split
      · rw [advanceWith_of_idle (stops _), tells]
      · rfl
    · rfl

/-- What a run of a timer does up to an instant: the jobs that are planned to begin by then have
    been begun, at the planned times, and nothing else is told of. -/
theorem planned_of_advance {plan : Plan} (same : Plan.of started delay interval jobs = plan)
    (wholeStart : 1000000 ∣ started) (whole : 1000000 ∣ interval) (paced : interval ≠ 0)
    (ending : isEndless interval = false) (ahead : started ≤ target) {run : Run}
    (advanced : (initial started delay interval jobs).advance target = run) :
    run.now = target ∧
      (∀ count, count < run.begun ↔ plan.begins (count + firstPlace delay) ≤ target) ∧
      run.events =
        (List.range run.begun).flatMap (planned plan (firstPlace delay) jobs target) := by
  have start : (initial started delay interval jobs).Follows plan (firstPlace delay) :=
    same ▸ follows_initial wholeStart paced ending
  have paced : plan.interval ≠ 0 := same ▸ paced
  have ending : isEndless plan.interval = false := same ▸ ending
  have whole : plan.Whole := same ▸ whole_of whole
  obtain ⟨follows, reached, jobs⟩ := start.advance whole paced ending ahead
  rw [advanced] at follows reached jobs
  obtain ⟨begun, events⟩ := follows.planned_of_reached whole reached
  refine ⟨reached.now, begun, events.trans ?_⟩
  rw [jobs]
  rfl

theorem begins_of_planned {plan : Plan} {first : Nat} {run : Run}
    (events : run.events = (List.range run.begun).flatMap (planned plan first jobs target)) :
    run.begins = (List.range run.begun).map fun count => plan.begins (count + first) := by
  have each (count : Nat) : (planned plan first jobs target count).filterMap
      (fun
        | .began time => some time
        | .ended _ => none) = [plan.begins (count + first)] := by
    unfold planned
    split <;> rfl
  rw [begins, events, List.filterMap_flatMap]
  simp only [each]
  exact List.map_eq_flatMap.symm

/-- When jobs are begun does not depend on which of them crash. -/
theorem begins_of_lengths (wholeStart : 1000000 ∣ started) (whole : 1000000 ∣ interval)
    (paced : interval ≠ 0) (ahead : started ≤ target) {others : Nat → Job}
    (same : ∀ count, (others count).length = (jobs count).length) :
    ((initial started delay interval others).advance target).begins =
      ((initial started delay interval jobs).advance target).begins := by
  cases ending : isEndless interval with
  | true => rw [begins, begins, events_of_endless ending, events_of_endless ending]
  | false =>
      have plan : Plan.of started delay interval others = Plan.of started delay interval jobs := by
        have lengths : lengthAt delay others = lengthAt delay jobs := by
          funext place
          simp only [lengthAt, same]
        rw [Plan.of, Plan.of, lengths]
      obtain ⟨-, begunOthers, eventsOthers⟩ :=
        planned_of_advance plan wholeStart whole paced ending ahead rfl
      have own : Plan.of started delay interval jobs = Plan.of started delay interval jobs := rfl
      obtain ⟨-, begun, events⟩ := planned_of_advance own wholeStart whole paced ending ahead rfl
      have asMany : ((initial started delay interval others).advance target).begun =
          ((initial started delay interval jobs).advance target).begun :=
        eq_of_forall_lt_iff fun count => (begunOthers count).trans (begun count).symm
      rw [begins_of_planned eventsOthers, begins_of_planned events, asMany]

/-- The second job crashes at once, the third one after two and a half intervals. -/
def unsteadyJobs : Nat → Job
  | 1 => .crashing (.saying "boom")
  | 2 => .lasting (Duration.ofSeconds 25) (some .silent)
  | _ => .lasting (Duration.ofSeconds 3) none

end

end Run

end Timer

end Stackwatch

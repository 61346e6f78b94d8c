import Stackwatch.Proofs.Burst.Timetable
import Stackwatch.Proofs.Watch.Patience
import Stackwatch.Proofs.Watch.Reports

/-!
# Bursts and reports over a whole run

A scheduler is started at the start of the clock and from then on left to its timers; whatever else
is done to the watch, other schedulers and the flag that they share included, can come in between.
The main statement says when its ticks, its attempts at a burst, the ends of its bursts and its
reports come, however many there were before, and what a report finds in the window. Things of one
instant may come in any order.
-/

namespace Stackwatch

namespace Watch

/-- Whether an operation leaves a scheduler to its timers. To start it again does nothing. -/
def Operation.LeavesToTimers (index : Nat) : Operation → Prop
  | .beginBurst other => other ≠ index
  | .endBurst other => other ≠ index
  | .report other => other ≠ index
  | .stop other => other ≠ index
  | _ => True

theorem Operation.ComesByItself.leavesToTimers {operation : Operation}
    (comes : operation.ComesByItself) (index : Nat) : operation.LeavesToTimers index := by
  cases operation with
  | perform task => trivial
  | moveTo instant => trivial
  | start other => trivial
  | updateRecorder change => trivial
  | beginBurst other => cases comes
  | endBurst other => cases comes
  | report other => cases comes
  | stop other => cases comes

/-- How far a scheduler has got when an operation is over. -/
def courseAfter (index : Nat) (course : Scheduler.Course) : Operation → Scheduler.Course
  | .perform (.samplingTick other) =>
      if other = index then { course with ticks := course.ticks + 1 } else course
  | .perform (.attemptDue other _) =>
      if other = index then { course with attempts := course.attempts + 1 } else course
  | .perform (.spanEnds other) =>
      if other = index then { course with ended := course.ended + 1 } else course
  | .perform (.reportTick other) =>
      if other = index then { course with reports := course.reports + 1, ended := 0 } else course
  | _ => course

/-- How far a scheduler has got when some operations are over. -/
def course (index : Nat) (operations : List Operation) : Scheduler.Course :=
  operations.foldl (courseAfter index) {}

/-- Whether an attempt of a scheduler begins a burst: nobody is capturing, the window has room for
    one more, and the sampler starts. -/
def MayBegin (watch : Watch) (index : Nat) : Prop :=
  ∃ scheduler, watch.schedulers[index]? = some scheduler ∧ watch.active.isSet = false ∧
    scheduler.window.hasRoom scheduler.timing = true ∧
    scheduler.window.sampler.start.1 = .returned ()

/-- What can come next keeps to the timetable of a scheduler, given how far the scheduler has
    got. -/
structure KeepsTimetable (timing : Timing) (offsets : Nat → Duration) (index : Nat)
    (course : Scheduler.Course) (watch : Watch) : Prop where
  /-- A tick comes at its multiple of the sampling interval. -/
  tick : watch.Timely (.perform (.samplingTick index)) →
    watch.now = (course.ticks + 1) * timing.samplingInterval
  /-- The attempt of the last tick comes at its offset. No burst is under way then, and one begins
      exactly if it may. -/
  attempt : ∀ attempt, watch.Timely (.perform (.attemptDue index attempt)) →
    course.ticks = course.attempts + 1 ∧ watch.now = timing.attemptAt offsets course.ticks ∧
      watch.burst index = none ∧
      (watch.MayBegin index →
        (watch.apply (.perform (.attemptDue index attempt))).burst index = some watch.now) ∧
      (¬ watch.MayBegin index →
        (watch.apply (.perform (.attemptDue index attempt))).burst index = none)
  /-- A burst under way began with an attempt, and lasts no longer than a span. -/
  burst : ∀ begun, watch.burst index = some begun →
    (∃ tick, tick ≠ 0 ∧ tick ≤ course.attempts ∧ begun = timing.attemptAt offsets tick) ∧
      begun ≤ watch.now ∧ watch.now ≤ begun + timing.maxSpanDuration
  /-- Nothing but the end of its span ends it. -/
  lasts : ∀ operation begun, watch.Timely operation → operation.LeavesToTimers index →
    operation ≠ .perform (.spanEnds index) → watch.burst index = some begun →
      (watch.apply operation).burst index = some begun
  /-- The end of its span comes one span after it began. -/
  ends : watch.Timely (.perform (.spanEnds index)) →
    ∃ begun, watch.burst index = some begun ∧ watch.now = begun + timing.maxSpanDuration ∧
      (watch.apply (.perform (.spanEnds index))).burst index = none
  /-- A report comes at its multiple of the report interval, one interval after the window was
      opened, and finds as much sampled as bursts have ended since. -/
  report : watch.Timely (.perform (.reportTick index)) →
    watch.now = (course.reports + 1) * timing.reportInterval ∧
      ∃ window, watch.window? index = some window ∧
        watch.now = window.openedAt + timing.reportInterval ∧
        window.sampled = course.ended * timing.maxSpanDuration ∧
        ∀ profile, watch.handedOver? index = some profile →
          profile.timespan = timing.reportInterval ∧
            profile.duration = course.ended * timing.maxSpanDuration

/-- A scheduler of a watch is on time. -/
def OnTime (timing : Timing) (offsets : Nat → Duration) (index : Nat)
    (course : Scheduler.Course) (watch : Watch) : Prop :=
  ∃ scheduler, watch.schedulers[index]? = some scheduler ∧
    scheduler.OnTime timing offsets watch.now course

/-- What a scheduler waits for is on the agenda. -/
theorem exists_mem_agenda {watch : Watch} {index : Nat} {scheduler : Scheduler} {time : Instant}
    (found : watch.schedulers[index]? = some scheduler) (dueAt : scheduler.DueAt time) :
    ∃ due ∈ watch.agenda, due.time = time := by
  have onAgenda {task : Task} (inside : { time := time, task := task } ∈
      dueOfScheduler index scheduler) : ∃ due ∈ watch.agenda, due.time = time :=
    ⟨_, mem_agenda_of_mem found inside, rfl⟩
  rcases dueAt with span | ⟨attempt, member, wakes⟩ | tick | report
  · exact onAgenda (mem_dueOfScheduler_iff.mpr (.inl ⟨span, rfl⟩))
  · exact onAgenda (mem_dueOfScheduler_iff.mpr (.inr (.inl ⟨attempt, member, wakes, rfl⟩)))
  · exact onAgenda (mem_dueOfScheduler_iff.mpr (.inr (.inr (.inl ⟨tick, rfl⟩))))
  · exact onAgenda (mem_dueOfScheduler_iff.mpr (.inr (.inr (.inr ⟨report, rfl⟩))))

section

variable {timing : Timing} {offsets : Nat → Duration} {index : Nat} {course : Scheduler.Course}
  {watch : Watch} {scheduler : Scheduler} (exact : timing.Exact offsets)
  (found : watch.schedulers[index]? = some scheduler)
  (onTime : scheduler.OnTime timing offsets watch.now course)

include exact found onTime

/-- A task that has come leaves a scheduler on time. -/
theorem onTime_perform {task : Task} (timely : watch.Timely (.perform task)) :
    (watch.schedulerAfter index scheduler (.perform task)).OnTime timing offsets watch.now
      (courseAfter index course (.perform task)) := by
  cases task with
  | sendingEnds => exact onTime
  | flushTick => exact onTime
  | samplingTick other =>
      simp only [schedulerAfter, courseAfter]
      split
      · next same =>
          subst same
          obtain ⟨time, due, come⟩ := due_of_samplingTick found timely
          exact (onTime.samplingTick exact due come).2
      · exact onTime
  | attemptDue other attempt =>
      simp only [schedulerAfter, courseAfter]
      split
      · next same =>
          subst same
          obtain ⟨member, come⟩ := mem_attempts_of_attemptDue found timely
          obtain ⟨-, -, -, after⟩ := onTime.attemptDue exact watch.active member come
          exact after
      · exact onTime
  | spanEnds other =>
      simp only [schedulerAfter, courseAfter]
      split
      · next same =>
          subst same
          obtain ⟨time, due, come⟩ := due_of_spanEnds found timely
          exact (onTime.spanEnds exact watch.active due come).2.2
      · exact onTime
  | reportTick other =>
      simp only [schedulerAfter, courseAfter]
      split
      · next same =>
          subst same
          obtain ⟨time, due, come⟩ := due_of_reportTick found timely
          exact (onTime.reportTick exact watch.origin watch.externalProcess due come).2
      · exact onTime

/-- Whatever comes in time leaves a scheduler on time. -/
theorem onTime_schedulerAfter {operation : Operation} (timely : watch.Timely operation)
    (leaves : operation.LeavesToTimers index) :
    (watch.schedulerAfter index scheduler operation).OnTime timing offsets
      (watch.apply operation).now (courseAfter index course operation) := by
  have others {other : Nat} (different : other ≠ index) (changed : Scheduler) :
      Scheduler.OnTime timing offsets watch.now course
        (if other = index then changed else scheduler) := by
    rw [if_neg different]
    exact onTime
  rw [now_apply]
  cases operation with
  | beginBurst other => exact others leaves _
  | endBurst other => exact others leaves _
  | report other => exact others leaves _
  | stop other => exact others leaves _
  | start other =>
      have same : scheduler.start watch.now = scheduler := if_pos onTime.started
      simp only [schedulerAfter, courseAfter, same, ite_self]
      exact onTime
  | perform task => exact onTime_perform exact found onTime timely
  | updateRecorder change => exact onTime
  | moveTo instant =>
      refine onTime.wait exact fun time dueAt => ?_
      obtain ⟨due, member, rfl⟩ := exists_mem_agenda found dueAt
      exact timely due member

end

/-- A burst begins with an attempt exactly if it may. -/
theorem burst_attemptDue {watch : Watch} {index : Nat} {scheduler : Scheduler}
    (attempt : Scheduler.Attempt) (found : watch.schedulers[index]? = some scheduler)
    (started : scheduler.started.isSet = true) (rests : scheduler.window.burst = none) :
    (watch.MayBegin index →
        (scheduler.attemptDue watch.now attempt watch.active).scheduler.window.burst =
          some watch.now) ∧
      (¬ watch.MayBegin index →
        (scheduler.attemptDue watch.now attempt watch.active).scheduler.window.burst = none) := by
  constructor
  · rintro ⟨same, foundSame, free, room, starts⟩
    obtain rfl : scheduler = same := Option.some.inj (found.symm.trans foundSame)
    have called : scheduler.window.startCall? scheduler.timing watch.active =
        some (.returned ()) := by
      simp [Window.startCall?, free, room, starts]
    rw [(Scheduler.attemptDue_of_started watch.now attempt watch.active started).1,
      Window.beginBurst_of_returned called]
  · intro barred
    rcases (Scheduler.attempted_attemptDue watch.now attempt watch.active scheduler).burst with
      ⟨kept, -⟩ | ⟨-, called, -, -⟩
    · exact kept.trans rests
    · obtain ⟨free, room, starts⟩ := Window.flag_of_startCall? called
      exact absurd ⟨scheduler, found, free, room, starts⟩ barred

namespace OnTime

variable {timing : Timing} {offsets : Nat → Duration} {index : Nat} {course : Scheduler.Course}
  {watch : Watch} (exact : timing.Exact offsets)

include exact

theorem run {operations : List Operation} (onTime : watch.OnTime timing offsets index course)
    (plays : watch.Plays index operations)
    (left : ∀ operation ∈ operations, operation.LeavesToTimers index) :
    (watch.run operations).OnTime timing offsets index
      (operations.foldl (courseAfter index) course) := by
  induction operations generalizing watch course with
  | nil => exact onTime
  | cons operation rest inductionHypothesis =>
      obtain ⟨scheduler, found, ofScheduler⟩ := onTime
      obtain ⟨timely, -, playsRest⟩ := plays
      obtain ⟨leaves, leftRest⟩ := List.forall_mem_cons.mp left
      exact inductionHypothesis
        ⟨_, getElem?_apply found operation,
          onTime_schedulerAfter exact found ofScheduler timely leaves⟩ playsRest leftRest

/-- Nothing but the end of its span ends a burst. -/
theorem burst_schedulerAfter {scheduler : Scheduler} {operation : Operation} {begun : Instant}
    (found : watch.schedulers[index]? = some scheduler)
    (onTime : scheduler.OnTime timing offsets watch.now course)
    (timely : watch.Timely operation) (leaves : operation.LeavesToTimers index)
    (other : operation ≠ .perform (.spanEnds index))
    (underWay : scheduler.window.burst = some begun) :
    (watch.schedulerAfter index scheduler operation).window.burst = some begun := by
  have ofOwn {own : Prop} [Decidable own] {changed : Scheduler}
      (after : own → changed.window.burst = some begun) :
      (if own then changed else scheduler).window.burst = some begun := by
    split
    · next same => exact after same
    · exact underWay
  cases operation with
  | beginBurst other => exact ofOwn fun same => absurd same leaves
  | endBurst other => exact ofOwn fun same => absurd same leaves
  | report other => exact ofOwn fun same => absurd same leaves
  | stop other => exact ofOwn fun same => absurd same leaves
  | start other =>
      have same : scheduler.start watch.now = scheduler := if_pos onTime.started
      exact ofOwn fun _ => by rw [same, underWay]
  | moveTo instant => exact underWay
  | updateRecorder change => exact underWay
  | perform task =>
      cases task with
      | sendingEnds => exact underWay
      | flushTick => exact underWay
      | samplingTick position => exact ofOwn fun _ => underWay
      | reportTick position => exact ofOwn fun _ => (Window.report_burst ..).trans underWay
      | spanEnds position =>
          exact ofOwn fun same => absurd (by rw [same]) other
      | attemptDue position attempt =>
          refine ofOwn fun same => ?_
          subst same
          obtain ⟨member, come⟩ := mem_attempts_of_attemptDue found timely
          obtain ⟨-, -, rests, -⟩ := onTime.attemptDue exact watch.active member come
          rw [rests] at underWay
          cases underWay

/-- Who is on time keeps to the timetable. -/
theorem keepsTimetable (onTime : watch.OnTime timing offsets index course) :
    watch.KeepsTimetable timing offsets index course := by
  obtain ⟨scheduler, found, ofScheduler⟩ := onTime
  have burstEq : watch.burst index = scheduler.window.burst :=
    burst_eq_of_window? (window?_of_getElem? found)
  have burstAfter (operation : Operation) : (watch.apply operation).burst index =
      (watch.schedulerAfter index scheduler operation).window.burst :=
    burst_eq_of_window? (window?_of_getElem? (getElem?_apply found operation))
  refine ⟨?_, ?_, ?_, ?_, ?_, ?_⟩
  · intro timely
    obtain ⟨time, due, come⟩ := due_of_samplingTick found timely
    exact (ofScheduler.samplingTick exact due come).1
  · intro attempt timely
    obtain ⟨member, come⟩ := mem_attempts_of_attemptDue found timely
    obtain ⟨answered, now, rests, -⟩ := ofScheduler.attemptDue exact watch.active member come
    have begins := burst_attemptDue attempt found ofScheduler.started rests
    have after := burstAfter (.perform (.attemptDue index attempt))
    rw [schedulerAfter, if_pos rfl] at after
    rw [← after] at begins
    exact ⟨answered, now, burstEq.trans rests, begins⟩
  · intro begun underWay
    rw [burstEq] at underWay
    obtain ⟨_, -, capturing⟩ := ofScheduler.bursts
    cases capturing with
    | resting rests idle =>
        rw [rests] at underWay
        cases underWay
    | underWay attempt numbered past burst timer behind ahead ends =>
        rw [burst] at underWay
        cases underWay
        exact ⟨⟨attempt, numbered, past, rfl⟩, behind, ahead⟩
  · intro operation begun timely leaves other underWay
    rw [burstEq] at underWay
    exact (burstAfter operation).trans
      (burst_schedulerAfter exact found ofScheduler timely leaves other underWay)
  · intro timely
    obtain ⟨time, due, come⟩ := due_of_spanEnds found timely
    obtain ⟨⟨begun, underWay, now⟩, closed, -⟩ :=
      ofScheduler.spanEnds exact watch.active due come
    refine ⟨begun, burstEq.trans underWay, now, (burstAfter _).trans ?_⟩
    rw [schedulerAfter, if_pos rfl]
    exact closed
  · intro timely
    obtain ⟨time, due, come⟩ := due_of_reportTick found timely
    obtain ⟨now, -⟩ :=
      ofScheduler.reportTick exact watch.origin watch.externalProcess due come
    have timespan : watch.now = scheduler.window.openedAt + timing.reportInterval := by
      rw [ofScheduler.window.opened, now, Nat.succ_mul]
    refine ⟨now, _, window?_of_getElem? found, timespan, ofScheduler.window.sampled, ?_⟩
    intro profile handed
    rw [handedOver?, found] at handed
    obtain ⟨duration, spans⟩ := Window.times_of_report handed
    rw [duration, spans, ofScheduler.window.sampled, timespan, Nat.add_sub_cancel_left]
    exact ⟨rfl, rfl⟩

/-- A watch that has got to an instant has brought a scheduler as far as its timetable says. -/
theorem reaches {target : Instant} (onTime : watch.OnTime timing offsets index course)
    (reached : watch.Reached target) (ending : Timer.isEndless target = false) :
    course.Reaches timing offsets target := by
  obtain ⟨scheduler, found, ofScheduler⟩ := onTime
  rw [reached.now] at ofScheduler
  refine ofScheduler.reaches exact (fun time dueAt => ?_) ending
  obtain ⟨due, member, rfl⟩ := exists_mem_agenda found dueAt
  exact reached.agenda due member

end OnTime

/-- A scheduler that is started at the start of the clock and then left to its timers keeps to its
    timetable in every run, whatever the offsets of its attempts, and whatever is done to the other
    schedulers and to the recorder: its bursts never overlap, and a report finds sampled just the
    bursts that ended since the report before. All it takes is that its sampler does not crash when
    its engine is asked for data. A watch that is let run gets as far as the timetable says,
    provided that nobody tampers with the timers. -/
theorem bursts_and_reports_keep_timetable (watch : Watch) (index : Nat) (sampler : Sampler)
    (timing : Timing) (offsets : Nat → Duration) (created : Instant)
    (found : watch.schedulers[index]? = some (.create sampler timing offsets created))
    (origin : watch.now = 0) (exact : timing.Exact offsets) (sane : sampler.engine.Sane)
    (operations : List Operation)
    (plays : (watch.apply (.start index)).Plays index operations)
    (left : ∀ operation ∈ operations, operation.LeavesToTimers index) :
    let present := (watch.apply (.start index)).run operations
    present.KeepsTimetable timing offsets index (course index operations) ∧
      (watch.Steady → (∀ operation ∈ operations, operation.KeepsSteady) →
        ∀ target, present.now ≤ target → Timer.isEndless target = false →
          ∃ later, present.advance target = present.run later ∧ present.Plays index later ∧
            (∀ operation ∈ later, operation.LeavesToTimers index) ∧
            (course index (operations ++ later)).Reaches timing offsets target) := by
  intro present
  have fresh : (watch.apply (.start index)).OnTime timing offsets index {} := by
    refine ⟨_, getElem?_apply found _, ?_⟩
    rw [now_apply, schedulerAfter, if_pos rfl, origin]
    exact Scheduler.onTime_start exact sane
  have onTime : present.OnTime timing offsets index (course index operations) :=
    fresh.run exact plays left
  refine ⟨onTime.keepsTimetable exact, fun steady keep target ahead ending => ?_⟩
  obtain ⟨later, playsLater, unaided, same⟩ := exists_unaided_of_runWith index target
    (fun _ => false) (present.patience target) present
  have leftLater : ∀ operation ∈ later, operation.LeavesToTimers index :=
    fun operation member => (unaided operation member).leavesToTimers index
  have steadyStart : (watch.apply (.start index)).Steady := steady.apply trivial
  have reached : (present.advance target).Reached target :=
    reached_advance (steadyStart.run keep) ahead
  rw [advance, same] at reached
  refine ⟨later, same, playsLater, leftLater, ?_⟩
  rw [course, List.foldl_append]
  exact (onTime.run exact playsLater leftLater).reaches exact reached ending

/-- Reports come after every other burst at the latest. -/
def briefWindows : Timing := { Timing.cpu with reportInterval := Duration.ofSeconds 12 }

/-- One scheduler of processor time with brief windows. -/
def briefWatch : Watch :=
  { mainWatch with
    schedulers := mainWatch.schedulers.map fun scheduler =>
      { scheduler with timing := briefWindows } }

/-- What the timers bring about in the first window. -/
def firstWindow : List Operation :=
  [.moveTo (Duration.ofMillis 8000), .perform (.samplingTick 0), .moveTo (Duration.ofMillis 8001),
    .perform (.attemptDue 0 { wake := Duration.ofMillis 8001, awaited := true }),
    .moveTo (Duration.ofMillis 10001), .perform (.spanEnds 0), .moveTo (Duration.ofMillis 12000)]

theorem briefWatch_steady : briefWatch.Steady where
  recorder := fun _ => nofun
  schedulers := by
    intro index scheduler found
    match index with
    | 0 =>
        cases found
        exact Scheduler.steady_create ..
    | _ + 1 => cases found

/-- The first report finds one burst; within a minute there are seven ticks and five reports. -/
theorem bursts_and_reports_keep_timetable_brief :
    let present := (briefWatch.apply (.start 0)).run firstWindow
    (∃ profile, present.handedOver? 0 = some profile ∧
      profile.timespan = Duration.ofSeconds 12 ∧ profile.duration = Duration.ofSeconds 2) ∧
    ∃ later, present.advance (Duration.ofSeconds 60) = present.run later ∧
      (course 0 (firstWindow ++ later)).ticks = 7 ∧
      (course 0 (firstWindow ++ later)).reports = 5 := by
  intro present
  have exact : briefWindows.Exact fun _ => 0 :=
    ⟨by decide, by decide, by decide, by decide, fun _ =>
      Timing.jitter_of_drawn (by decide) (by decide)⟩
  have plays : (briefWatch.apply (.start 0)).Plays 0 firstWindow := by decide +kernel
  have left : ∀ operation ∈ firstWindow, operation.LeavesToTimers 0 := by
    simp [firstWindow, Operation.LeavesToTimers]
  have keep : ∀ operation ∈ firstWindow, operation.KeepsSteady := by
    simp [firstWindow, Operation.KeepsSteady]
  have timely : present.Timely (.perform (.reportTick 0)) := by decide +kernel
  have handed : (present.handedOver? 0).isSome = true := by decide +kernel
  have ahead : present.now ≤ Duration.ofSeconds 60 := by decide +kernel
  obtain ⟨keeps, gets⟩ := bursts_and_reports_keep_timetable briefWatch 0 _ briefWindows
    (fun _ => 0) 0 rfl rfl exact (fun _ => rfl) firstWindow plays left
  obtain ⟨-, window, -, -, -, times⟩ := keeps.report timely
  obtain ⟨profile, found⟩ := Option.isSome_iff_exists.mp handed
  obtain ⟨later, same, -, -, reaches⟩ := gets briefWatch_steady keep _ ahead (by decide)
  refine ⟨⟨profile, found, (times profile found).1, (times profile found).2⟩, later, same, ?_, ?_⟩
  · refine Nat.le_antisymm (Nat.le_of_not_lt fun more => ?_) ?_
    · exact absurd ((reaches.ticks 8 (by decide)).mp more) (by decide)
    · exact (reaches.ticks 7 (by decide)).mpr (by decide)
  · refine Nat.le_antisymm (Nat.le_of_not_lt fun more => ?_) ?_
    · exact absurd ((reaches.reports 6 (by decide)).mp more) (by decide)
    · exact (reaches.reports 5 (by decide)).mpr (by decide)

end Watch

end Stackwatch

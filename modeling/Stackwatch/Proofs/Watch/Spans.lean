import Stackwatch.Proofs.Burst.Spans
import Stackwatch.Proofs.Watch.Patience
import Stackwatch.Proofs.Watch.Release

/-!
# Every span ends

A burst that a scheduler begins by itself is ended by a timer of its own, one span later, and before
that no sampling tick of the scheduler comes. The main statement follows such a burst through all
that can happen to the watch meanwhile. It needs spans that take some time: a timer without a delay
never fires, so that a burst of no length would never end.
-/

namespace Stackwatch

namespace Watch

/-! ### Watches in time -/

/-- The bursts of a scheduler are in time and exclude all others. -/
structure InTime (timing : Timing) (index : Nat) (watch : Watch) : Prop where
  exclusive : Exclusive watch
  scheduler : ∃ scheduler, watch.schedulers[index]? = some scheduler ∧
    scheduler.InTime timing watch.now

section

variable {timing : Timing} {index : Nat} {watch : Watch} {scheduler : Scheduler}

/-- Time passes no further than to what a scheduler has on the agenda. -/
theorem inTime_wait {instant : Instant} (found : watch.schedulers[index]? = some scheduler)
    (inTime : scheduler.InTime timing watch.now) (timely : watch.Timely (.moveTo instant)) :
    scheduler.InTime timing (max watch.now instant) := by
  have before {due : Due} (member : due ∈ dueOfScheduler index scheduler) :
      instant ≤ max watch.now due.time := timely due (mem_agenda_of_mem found member)
  refine inTime.wait ?_ ?_ ?_
  · intro attempt member
    have member : { time := attempt.wake, task := .attemptDue index attempt } ∈
        dueOfScheduler index scheduler :=
      mem_dueOfScheduler_iff.mpr (.inr (.inl ⟨attempt, member, rfl, rfl⟩))
    exact before member
  · intro time due
    have member : { time := time, task := .spanEnds index } ∈ dueOfScheduler index scheduler :=
      mem_dueOfScheduler_iff.mpr (.inl ⟨due, rfl⟩)
    exact before member
  · intro time due
    have member : { time := time, task := .samplingTick index } ∈ dueOfScheduler index scheduler :=
      mem_dueOfScheduler_iff.mpr (.inr (.inr (.inl ⟨due, rfl⟩)))
    exact before member

/-- What concerns another scheduler leaves a scheduler in time. -/
theorem inTime_of_own {now : Instant} {own : Prop} [Decidable own] {changed : Scheduler}
    (inTime : scheduler.InTime timing now) (after : own → changed.InTime timing now) :
    Scheduler.InTime timing now (if own then changed else scheduler) := by
  split
  · next same => exact after same
  · exact inTime

/-- A task that has come leaves a scheduler in time. -/
theorem inTime_perform {task : Task} (bursts : timing.Bursts)
    (found : watch.schedulers[index]? = some scheduler)
    (inTime : scheduler.InTime timing watch.now) (timely : watch.Timely (.perform task)) :
    (watch.schedulerAfter index scheduler (.perform task)).InTime timing watch.now := by
  cases task with
  | sendingEnds => exact inTime
  | flushTick => exact inTime
  | samplingTick other =>
      refine inTime_of_own inTime fun same => ?_
      subst same
      obtain ⟨time, due, come⟩ := due_of_samplingTick found timely
      exact inTime.samplingTick bursts due come
  | attemptDue other attempt =>
      refine inTime_of_own inTime fun same => ?_
      subst same
      obtain ⟨member, come⟩ := mem_attempts_of_attemptDue found timely
      exact inTime.attempted bursts member come (Scheduler.attempted_attemptDue ..)
  | spanEnds other =>
      refine inTime_of_own inTime fun same => ?_
      subst same
      obtain ⟨time, due, come⟩ := due_of_spanEnds found timely
      exact inTime.spanEnds watch.active due come
  | reportTick other =>
      refine inTime_of_own inTime fun _ => ?_
      exact inTime.of_paced rfl rfl rfl (Window.report_burst ..) rfl inTime.paced

/-- Whatever comes in time leaves a scheduler in time. -/
theorem inTime_schedulerAfter {operation : Operation} (bursts : timing.Bursts)
    (found : watch.schedulers[index]? = some scheduler)
    (inTime : scheduler.InTime timing watch.now) (timely : watch.Timely operation)
    (leaves : operation.LeavesBursts index) :
    (watch.schedulerAfter index scheduler operation).InTime timing
      (watch.apply operation).now := by
  rw [now_apply]
  cases operation with
  | beginBurst other => exact inTime_of_own inTime fun same => absurd same leaves
  | endBurst other => exact inTime_of_own inTime fun same => absurd same leaves
  | report other =>
      refine inTime_of_own inTime fun _ => ?_
      exact inTime.of_paced rfl rfl rfl (Window.report_burst ..) rfl inTime.paced
  | start other => exact inTime_of_own inTime fun _ => inTime.start bursts
  | stop other => exact inTime_of_own inTime fun _ => inTime.stop
  | perform task => exact inTime_perform bursts found inTime timely
  | moveTo instant => exact inTime_wait found inTime timely
  | updateRecorder change => exact inTime

end

namespace InTime

variable {timing : Timing} {index : Nat} {watch : Watch} {begun : Instant}

theorem apply {operation : Operation} (bursts : timing.Bursts) (inTime : watch.InTime timing index)
    (timely : watch.Timely operation) (leaves : operation.LeavesBursts index) :
    (watch.apply operation).InTime timing index := by
  obtain ⟨exclusive, scheduler, found, ofScheduler⟩ := inTime
  exact ⟨exclusive.turn (turn_apply watch operation), _, getElem?_apply found operation,
    inTime_schedulerAfter bursts found ofScheduler timely leaves⟩

theorem run {operations : List Operation} (bursts : timing.Bursts)
    (inTime : watch.InTime timing index) (plays : watch.Plays index operations) :
    (watch.run operations).InTime timing index := by
  induction operations generalizing watch with
  | nil => exact inTime
  | cons operation rest inductionHypothesis =>
      obtain ⟨timely, leaves, playsRest⟩ := plays
      exact inductionHypothesis (inTime.apply bursts timely leaves) playsRest

end InTime

/-! ### The end of a burst -/

section

variable {watch after : Watch} {index : Nat} {begun : Instant}

/-- The sampler of a scheduler is stopped by hand or by the timer of the span. -/
theorem eq_of_stop_mem_callsOf {operation : Operation} {ending : Outcome SamplerError Unit}
    (stopped : .stop index ending ∈ watch.callsOf operation) :
    operation = .endBurst index ∨ operation = .perform (.spanEnds index) := by
  obtain ⟨other, ⟨started, -⟩ | ⟨stopped, caller⟩⟩ := of_mem_callsOf stopped
  · obtain ⟨_, impossible⟩ := eq_of_mem_startCalls started
    cases impossible
  · obtain ⟨_, same⟩ := eq_of_mem_stopCalls stopped
    cases same
    exact caller

/-- The sampler of a scheduler is started by hand or by an attempt that a sampling tick put off. -/
theorem eq_of_start_mem_callsOf {operation : Operation} {ending : Outcome SamplerError Unit}
    (started : .start index ending ∈ watch.callsOf operation) :
    operation = .beginBurst index ∨
      ∃ attempt, operation = .perform (.attemptDue index attempt) := by
  obtain ⟨other, ⟨started, caller⟩ | ⟨stopped, -⟩⟩ := of_mem_callsOf started
  · obtain ⟨_, same⟩ := eq_of_mem_startCalls started
    cases same
    exact caller
  · obtain ⟨_, impossible⟩ := eq_of_mem_stopCalls stopped
    cases impossible

/-- A burst begins at the call that starts its sampler. -/
theorem Turn.of_begun {calls : List Call} (turn : Turn watch calls after)
    (closed : watch.burst index = none) (begins : after.burst index = some begun) :
    calls = [.start index (.returned ())] ∧ begun = watch.now := by
  have unchanged (bursts : after.burst = watch.burst) : False := by
    rw [bursts, closed] at begins
    cases begins
  have ended {other : Nat} (bursts : after.burst = Function.update watch.burst other none) :
      False := by
    rw [bursts] at begins
    by_cases same : index = other
    · rw [same, Function.update_self] at begins
      cases begins
    · rw [Function.update_of_ne same, closed] at begins
      cases begins
  cases turn with
  | begun other clear flag bursts =>
      by_cases same : index = other
      · subst same
        rw [bursts, Function.update_self] at begins
        exact ⟨rfl, (Option.some.inj begins).symm⟩
      · rw [bursts, Function.update_of_ne same, closed] at begins
        cases begins
  | quiet flag bursts => exact (unchanged bursts).elim
  | refused other error clear flag bursts => exact (unchanged bursts).elim
  | startCrashed other crash clear flag bursts => exact (unchanged bursts).elim
  | ended other ending sane underWay flag bursts => exact (ended bursts).elim
  | stopCrashed other crash underWay flag bursts => exact (ended bursts).elim

/-- While a burst is under way nothing but its own end changes any burst. -/
theorem Exclusive.burst_eq {calls : List Call} (exclusive : Exclusive watch)
    (turn : Turn watch calls after) (underWay : watch.burst index ≠ none)
    (unended : ∀ ending, .stop index ending ∉ calls) : after.burst = watch.burst := by
  have set := exclusive.flagged index underWay
  cases turn with
  | quiet flag bursts => exact bursts
  | begun other clear flag bursts => simp [set] at clear
  | refused other error clear flag bursts => exact bursts
  | startCrashed other crash clear flag bursts => exact bursts
  | ended other ending sane otherUnderWay flag bursts =>
      have same := exclusive.unique index other underWay otherUnderWay
      exact absurd (by simp [same]) (unended ending)
  | stopCrashed other crash otherUnderWay flag bursts =>
      have same := exclusive.unique index other underWay otherUnderWay
      exact absurd (by simp [same]) (unended (.crashed crash))

/-- The end of a burst is the end in every case, and it clears the flag unless the sampler
    crashes. -/
theorem Turn.of_stop {ending : Outcome SamplerError Unit}
    (turn : Turn watch [.stop index ending] after) :
    after.burst index = none ∧ (ending.crash? = none → after.active.isSet = false) := by
  cases turn with
  | ended _ _ sane underWay flag bursts =>
      exact ⟨by rw [bursts, Function.update_self], fun _ => flag⟩
  | stopCrashed _ crash underWay flag bursts =>
      exact ⟨by rw [bursts, Function.update_self], fun impossible => nomatch impossible⟩

theorem now_le_now_run (watch : Watch) (operations : List Operation) :
    watch.now ≤ (watch.run operations).now := by
  induction operations generalizing watch with
  | nil => exact Nat.le_refl _
  | cons operation rest inductionHypothesis =>
      refine Nat.le_trans ?_ (inductionHypothesis (watch.apply operation))
      rw [now_apply]
      split
      · exact Nat.le_max_left _ _
      · exact Nat.le_refl _

theorem mem_calls_append {call : Call} (watch : Watch) (before : List Operation)
    (operation : Operation) (rest : List Operation)
    (called : call ∈ (watch.run before).callsOf operation) :
    call ∈ watch.calls (before ++ operation :: rest) := by
  induction before generalizing watch with
  | nil => exact List.mem_append_left _ called
  | cons first others inductionHypothesis =>
      exact List.mem_append_right _ (inductionHypothesis (watch.apply first) called)

end

namespace InTime

variable {timing : Timing} {index : Nat} {watch : Watch} {begun : Instant}

/-- A burst under way is not overdue, and its end is on the agenda. -/
theorem end_mem_agenda (inTime : watch.InTime timing index)
    (underWay : watch.burst index = some begun) :
    begun ≤ watch.now ∧ watch.now ≤ timing.spanEnd begun ∧
      { time := timing.spanEnd begun, task := .spanEnds index } ∈ watch.agenda := by
  obtain ⟨-, scheduler, found, ofScheduler⟩ := inTime
  rw [burst_eq_of_window? (window?_of_getElem? found)] at underWay
  obtain ⟨past, ahead, -⟩ := ofScheduler.underWay begun underWay
  refine ⟨past, ahead, mem_agenda_of_mem found (mem_dueOfScheduler_iff.mpr (.inl ⟨?_, rfl⟩))⟩
  exact ofScheduler.due?_spanTimer underWay

/-- The timer of the span fires at the end of the span and ends the burst. -/
theorem apply_spanEnds (inTime : watch.InTime timing index)
    (underWay : watch.burst index = some begun)
    (timely : watch.Timely (.perform (.spanEnds index))) :
    watch.now = timing.spanEnd begun ∧
      (watch.apply (.perform (.spanEnds index))).burst index = none ∧
      ((∀ call ∈ watch.callsOf (.perform (.spanEnds index)), call.crash? = none) →
        (watch.apply (.perform (.spanEnds index))).active.isSet = false) := by
  obtain ⟨-, scheduler, found, ofScheduler⟩ := inTime
  obtain ⟨time, due, come⟩ := due_of_spanEnds found timely
  obtain ⟨other, otherUnderWay, now⟩ := ofScheduler.burst_of_due due come
  have same : some begun = some other := by
    rw [← underWay, ← otherUnderWay]
    exact burst_eq_of_window? (window?_of_getElem? found)
  cases same
  obtain ⟨ending, calls⟩ := exists_stopCalls_eq underWay
  have turn := turn_apply watch (.perform (.spanEnds index))
  simp only [callsOf, calls] at turn ⊢
  obtain ⟨ended, cleared⟩ := turn.of_stop
  exact ⟨now, ended, fun sane => cleared (sane _ (List.mem_singleton_self _))⟩

/-- Nothing else ends a burst. -/
theorem burst_apply {operation : Operation} (inTime : watch.InTime timing index)
    (underWay : watch.burst index = some begun) (leaves : operation.LeavesBursts index)
    (other : operation ≠ .perform (.spanEnds index)) :
    (watch.apply operation).burst index = some begun := by
  have unended (ending : Outcome SamplerError Unit) :
      .stop index ending ∉ watch.callsOf operation := by
    intro stopped
    rcases eq_of_stop_mem_callsOf stopped with byHand | byTimer
    · subst byHand
      exact leaves rfl
    · exact other byTimer
  have isUnderWay : watch.burst index ≠ none := by simp [underWay]
  rw [inTime.exclusive.burst_eq (turn_apply watch operation) isUnderWay unended, underWay]

/-- A burst lasts as long as its end does not come, and that comes at the end of the span. -/
theorem run_underWay {later : List Operation} (bursts : timing.Bursts)
    (inTime : watch.InTime timing index) (underWay : watch.burst index = some begun)
    (plays : watch.Plays index later) :
    (watch.run later).burst index = some begun ∨
      ∃ before rest, later = before ++ .perform (.spanEnds index) :: rest ∧
        (watch.run before).InTime timing index ∧
        (watch.run before).burst index = some begun ∧
        (watch.run before).Timely (.perform (.spanEnds index)) := by
  induction later generalizing watch with
  | nil => exact .inl underWay
  | cons operation rest inductionHypothesis =>
      obtain ⟨timely, leaves, playsRest⟩ := plays
      by_cases ends : operation = .perform (.spanEnds index)
      · subst ends
        exact .inr ⟨[], rest, rfl, inTime, underWay, timely⟩
      · rcases inductionHypothesis (inTime.apply bursts timely leaves)
            (inTime.burst_apply underWay leaves ends) playsRest with
          lasts | ⟨before, after, split, inTimeThen, underWayThen, timelyThen⟩
        · exact .inl lasts
        · exact .inr ⟨operation :: before, after, by rw [split]; rfl, inTimeThen, underWayThen,
            timelyThen⟩

/-- A sampling tick finds no burst under way whose end is still to come. -/
theorem spanEnd_le_of_samplingTick (inTime : watch.InTime timing index)
    (underWay : watch.burst index = some begun)
    (timely : watch.Timely (.perform (.samplingTick index))) :
    timing.spanEnd begun ≤
      watch.now + timing.allowance (Timer.tolerance + Duration.ofMillis 2) := by
  obtain ⟨-, scheduler, found, ofScheduler⟩ := inTime
  rw [burst_eq_of_window? (window?_of_getElem? found)] at underWay
  obtain ⟨time, due, come⟩ := due_of_samplingTick found timely
  obtain ⟨timer, foundTimer, dueTimer⟩ := Option.bind_eq_some_iff.mp due
  cases ofScheduler.paced timer foundTimer with
  | busy meets => cases dueTimer
  | finished => cases dueTimer
  | ticking meets punctual =>
      cases dueTimer
      exact Nat.le_trans (meets.burst begun underWay) (Nat.add_le_add_right come _)

end InTime

/-- One of some operations is the timer that ends a burst, just when its span is over; unless the
    sampler crashes the flag is clear then. -/
def EndsWithSpan (watch : Watch) (timing : Timing) (index : Nat) (begun : Instant)
    (operations : List Operation) : Prop :=
  ∃ before rest, operations = before ++ .perform (.spanEnds index) :: rest ∧
    (watch.run before).burst index = some begun ∧
    (watch.run before).now = timing.spanEnd begun ∧
    ((watch.run before).apply (.perform (.spanEnds index))).burst index = none ∧
    ((∀ call ∈ watch.calls operations, call.crash? = none) →
      ((watch.run before).apply (.perform (.spanEnds index))).active.isSet = false)

namespace InTime

variable {timing : Timing} {index : Nat} {watch : Watch} {begun : Instant}

/-- A burst is under way until its own timer ends it. -/
theorem underWay_or_endsWithSpan {later : List Operation} (bursts : timing.Bursts)
    (inTime : watch.InTime timing index) (underWay : watch.burst index = some begun)
    (plays : watch.Plays index later) :
    ((watch.run later).burst index = some begun ∧ (watch.run later).now ≤ timing.spanEnd begun) ∨
      watch.EndsWithSpan timing index begun later := by
  rcases inTime.run_underWay bursts underWay plays with
    lasts | ⟨before, rest, split, inTimeThen, underWayThen, timely⟩
  · exact .inl ⟨lasts, ((inTime.run bursts plays).end_mem_agenda lasts).2.1⟩
  · obtain ⟨now, ended, cleared⟩ := inTimeThen.apply_spanEnds underWayThen timely
    refine .inr ⟨before, rest, split, underWayThen, now, ended, fun sane => cleared ?_⟩
    intro call called
    refine sane call ?_
    rw [split]
    exact mem_calls_append watch before _ rest called

/-- A watch that gets to the end of a span has come past the timer that ends the burst. -/
theorem endsWithSpan_of_reached {later : List Operation} {target : Instant}
    (bursts : timing.Bursts) (inTime : watch.InTime timing index)
    (underWay : watch.burst index = some begun) (plays : watch.Plays index later)
    (reached : (watch.run later).Reached target) (far : timing.spanEnd begun ≤ target) :
    watch.EndsWithSpan timing index begun later := by
  rcases inTime.underWay_or_endsWithSpan bursts underWay plays with ⟨lasts, -⟩ | ends
  · obtain ⟨-, -, onAgenda⟩ := (inTime.run bursts plays).end_mem_agenda lasts
    exact absurd far (Nat.not_le.mpr (reached.agenda _ onAgenda))
  · exact ends

/-- No sampling tick comes before the end of the span of a burst that was under way. -/
theorem spanEnd_le_of_later_samplingTick {before rest : List Operation} (bursts : timing.Bursts)
    (inTime : watch.InTime timing index) (underWay : watch.burst index = some begun)
    (plays : watch.Plays index (before ++ .perform (.samplingTick index) :: rest)) :
    timing.spanEnd begun ≤ (watch.run before).now +
      timing.allowance (Timer.tolerance + Duration.ofMillis 2) := by
  obtain ⟨playsBefore, timely, -⟩ := plays_append.mp plays
  rcases inTime.run_underWay bursts underWay playsBefore with
    lasts | ⟨first, second, split, inTimeThen, underWayThen, timelyEnd⟩
  · exact (inTime.run bursts playsBefore).spanEnd_le_of_samplingTick lasts timely
  · -- The burst is over already, and the clock does not go back.
    have now := (inTimeThen.apply_spanEnds underWayThen timelyEnd).1
    rw [← now, split, run_append]
    exact Nat.le_add_right_of_le (now_le_now_run _ _)

end InTime

/-- A burst of a scheduler that is left to its timers begins with an attempt that a sampling tick
    put off. As long as it is under way the flag is set and its end is on the agenda, one span after
    its beginning; time does not pass beyond that. So the burst lasts until its own timer ends it at
    just that instant, and unless the sampler crashes the flag is clear then. The next sampling tick
    does not come before that; only where intervals and spans are not whole milliseconds can it
    come a few milliseconds early. A watch that is let run gets there: the burst does end, provided
    that nobody tampers with the timers. -/
theorem bursts_end_with_their_span (watch : Watch) (index : Nat) (sampler : Sampler)
    (timing : Timing) (offsets : Nat → Duration) (created : Instant)
    (found : watch.schedulers[index]? = some (.create sampler timing offsets created))
    (idle : ∀ other, watch.burst other = none) (valid : timing.validate = .ok ())
    (sampling : timing.reportOnly = false) (lasting : timing.maxSpanDuration ≠ 0)
    (drawn : ∀ count, offsets count < timing.offsetRange) (operations : List Operation)
    (plays : watch.Plays index operations) :
    let present := watch.run operations
    (∀ operation begun, operation.LeavesBursts index → present.burst index = none →
      (present.apply operation).burst index = some begun →
      begun = present.now ∧ ∃ attempt, operation = .perform (.attemptDue index attempt)) ∧
    ∀ begun, present.burst index = some begun →
      present.active.isSet = true ∧ present.now ≤ timing.spanEnd begun ∧
      { time := timing.spanEnd begun, task := .spanEnds index } ∈ present.agenda ∧
      (∀ later, present.Plays index later →
        (((present.run later).burst index = some begun ∧
            (present.run later).now ≤ timing.spanEnd begun) ∨
          present.EndsWithSpan timing index begun later) ∧
        ∀ before rest, later = before ++ .perform (.samplingTick index) :: rest →
          timing.spanEnd begun ≤ (present.run before).now +
            timing.allowance (Timer.tolerance + Duration.ofMillis 2)) ∧
      (watch.Steady → (∀ operation ∈ operations, operation.KeepsSteady) →
        ∀ target, timing.spanEnd begun ≤ target →
          ∃ later, present.advance target = present.run later ∧
            present.Plays index later ∧ present.EndsWithSpan timing index begun later) := by
  intro present
  have bursts := Timing.Bursts.of_validate valid sampling lasting
  have fresh : watch.InTime timing index :=
    ⟨.of_idle idle, _, found, .create sampler created watch.now drawn⟩
  have inTime : present.InTime timing index := fresh.run bursts plays
  refine ⟨?_, ?_⟩
  · intro operation begun leaves closed begins
    obtain ⟨calls, now⟩ := (turn_apply present operation).of_begun closed begins
    have started : .start index (.returned ()) ∈ present.callsOf operation := by
      rw [calls]
      exact List.mem_singleton_self _
    rcases eq_of_start_mem_callsOf started with byHand | byTimer
    · subst byHand
      exact absurd rfl leaves
    · exact ⟨now, byTimer⟩
  · intro begun underWay
    obtain ⟨-, ahead, onAgenda⟩ := inTime.end_mem_agenda underWay
    refine ⟨inTime.exclusive.flagged index (by simp [underWay]), ahead, onAgenda, ?_, ?_⟩
    · intro later playsLater
      refine ⟨inTime.underWay_or_endsWithSpan bursts underWay playsLater, ?_⟩
      rintro before rest rfl
      exact inTime.spanEnd_le_of_later_samplingTick bursts underWay playsLater
    · intro steady keep target far
      obtain ⟨later, playsLater, same⟩ := exists_plays_of_runWith index target (fun _ => false)
        (present.patience target) present
      have reached : (present.advance target).Reached target :=
        reached_advance (steady.run keep) (Nat.le_trans ahead far)
      rw [advance, same] at reached
      exact ⟨later, same, playsLater,
        inTime.endsWithSpan_of_reached bursts underWay playsLater reached far⟩

/-- One scheduler of processor time. -/
def sampleWatch (timing : Timing) : Watch :=
  { clock := { startedAt := 0 }
    recorder := .create .discarding 1 0
    schedulers := [.create
      (.cpu
        { engine :=
            { startAnswer := fun _ => .returned ()
              writeAnswer := fun _ => .failed .notRunning }
          filter := {} })
      timing (fun _ => 0) 0]
    process := "observed" }

/-- The scheduler is started, its first tick comes, and so does the attempt that it put off. -/
def firstBurst : List Operation :=
  [.start 0, .moveTo (Duration.ofMillis 8000), .perform (.samplingTick 0),
    .moveTo (Duration.ofMillis 8001),
    .perform (.attemptDue 0 { wake := Duration.ofMillis 8001, awaited := true })]

theorem sampleWatch_idle (timing : Timing) (index : Nat) :
    (sampleWatch timing).burst index = none := by
  match index with
  | 0 => rfl
  | _ + 1 => rfl

theorem sampleWatch_steady (timing : Timing) : (sampleWatch timing).Steady where
  recorder := fun _ => nofun
  schedulers := by
    intro index scheduler found
    match index with
    | 0 =>
        cases found
        exact Scheduler.steady_create ..
    | _ + 1 => cases found

/-- A burst of two seconds is over two seconds after it began. -/
theorem bursts_end_with_their_span_cpu :
    let present := (sampleWatch .cpu).run firstBurst
    (sampleWatch .cpu).Plays 0 firstBurst ∧ present.burst 0 = some (Duration.ofMillis 8001) ∧
      present.now ≤ Duration.ofMillis 10001 ∧
      ∀ target, Duration.ofMillis 10001 ≤ target →
        ∃ before rest,
          present.advance target = present.run (before ++ .perform (.spanEnds 0) :: rest) ∧
            (present.run before).now = Duration.ofMillis 10001 := by
  intro present
  have plays : (sampleWatch .cpu).Plays 0 firstBurst := by decide
  have underWay : present.burst 0 = some (Duration.ofMillis 8001) := by decide
  obtain ⟨-, ends⟩ := bursts_end_with_their_span (sampleWatch .cpu) 0 _ .cpu (fun _ => 0) 0 rfl
    (sampleWatch_idle .cpu) rfl rfl (by decide) (fun _ => by decide) firstBurst plays
  obtain ⟨-, ahead, -, -, gets⟩ := ends _ underWay
  refine ⟨plays, underWay, ahead, fun target far => ?_⟩
  have keep : ∀ operation ∈ firstBurst, operation.KeepsSteady := by
    simp [firstBurst, Operation.KeepsSteady]
  obtain ⟨later, same, -, before, rest, split, -, now, -⟩ :=
    gets (sampleWatch_steady .cpu) keep target far
  exact ⟨before, rest, by rw [same, split], now⟩

/-- A burst of no length is not ended: its timer never fires. -/
theorem burst_of_no_length_lasts :
    ¬ ∀ (watch : Watch) (index : Nat) (sampler : Sampler) (timing : Timing)
      (offsets : Nat → Duration) (created : Instant),
      watch.schedulers[index]? = some (.create sampler timing offsets created) →
      (∀ other, watch.burst other = none) → timing.validate = .ok () →
      timing.reportOnly = false → (∀ count, offsets count < timing.offsetRange) →
      ∀ operations, watch.Plays index operations →
        ∀ begun, (watch.run operations).burst index = some begun →
          (watch.run operations).now ≤ timing.spanEnd begun := by
  intro inTime
  let timing : Timing := { Timing.cpu with maxSpanDuration := 0 }
  let operations := firstBurst ++ [.moveTo (Duration.ofMillis 16000), .perform (.samplingTick 0)]
  have plays : (sampleWatch timing).Plays 0 operations := by decide
  have underWay : ((sampleWatch timing).run operations).burst 0 =
      some (Duration.ofMillis 8001) := by decide
  have ended := inTime (sampleWatch timing) 0 _ timing (fun _ => 0) 0 rfl (sampleWatch_idle timing)
    rfl rfl (fun _ => by decide) operations plays _ underWay
  exact absurd ended (by decide)

end Watch

end Stackwatch

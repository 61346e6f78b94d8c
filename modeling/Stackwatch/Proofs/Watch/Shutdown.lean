import Stackwatch.Proofs.Burst.Shutdown
import Stackwatch.Proofs.Burst.Timetable
import Stackwatch.Proofs.Watch.Spans

/-!
# A watch whose schedulers are stopped

Stopping a scheduler takes effect at once for its ticks and reports, but an attempt that was put off
still comes, and a burst under way has its span to finish. This module follows a watch in which no
scheduler is started any more: attempts that come are given up, no burst begins, and those under way
end when their spans are over. After the longest of these spans nothing is left.
-/

namespace Stackwatch

namespace Watch

/-- Nothing is done to the schedulers by hand, nor to the timer of the recorder. -/
def Operation.LeavesSchedulers : Operation → Prop
  | .perform _ => True
  | .moveTo _ => True
  | .updateRecorder change => ∀ recorder : Recorder, recorder.Steady → (change recorder).Steady
  | _ => False

namespace Operation.LeavesSchedulers

variable {operation : Operation} (leaves : operation.LeavesSchedulers)

include leaves

theorem keepsSteady : operation.KeepsSteady := by
  cases operation with
  | updateRecorder change => exact leaves
  | _ => trivial

theorem leavesBursts (index : Nat) : operation.LeavesBursts index := by
  cases operation with
  | beginBurst other => cases leaves
  | endBurst other => cases leaves
  | _ => trivial

end Operation.LeavesSchedulers

/-- Operations that can come one after the other while the schedulers are left to themselves. -/
def PlaysByItself : Watch → List Operation → Prop
  | _, [] => True
  | watch, operation :: rest =>
      watch.Timely operation ∧ operation.LeavesSchedulers ∧
        (watch.apply operation).PlaysByItself rest

theorem PlaysByItself.plays {watch : Watch} {operations : List Operation}
    (plays : watch.PlaysByItself operations) (index : Nat) : watch.Plays index operations := by
  induction operations generalizing watch with
  | nil => trivial
  | cons operation rest inductionHypothesis =>
      obtain ⟨timely, leaves, playsRest⟩ := plays
      exact ⟨timely, leaves.leavesBursts index, inductionHypothesis playsRest⟩

theorem PlaysByItself.append {watch : Watch} {first second : List Operation}
    (playsFirst : watch.PlaysByItself first)
    (playsSecond : (watch.run first).PlaysByItself second) :
    watch.PlaysByItself (first ++ second) := by
  induction first generalizing watch with
  | nil => exact playsSecond
  | cons operation rest inductionHypothesis =>
      obtain ⟨timely, leaves, playsRest⟩ := playsFirst
      exact ⟨timely, leaves, inductionHypothesis playsRest playsSecond⟩

/-- What comes by itself leaves the schedulers to themselves. -/
theorem playsByItself_of_unaided {watch : Watch} {operations : List Operation} {index : Nat}
    (plays : watch.Plays index operations)
    (unaided : ∀ operation ∈ operations, operation.ComesByItself) :
    watch.PlaysByItself operations := by
  induction operations generalizing watch with
  | nil => trivial
  | cons operation rest inductionHypothesis =>
      obtain ⟨timely, -, playsRest⟩ := plays
      obtain ⟨comes, unaidedRest⟩ := List.forall_mem_cons.mp unaided
      refine ⟨timely, ?_, inductionHypothesis playsRest unaidedRest⟩
      cases operation with
      | perform task => trivial
      | moveTo instant => trivial
      | _ => cases comes

/-! ### Orderly watches -/

/-- A watch that can be shut down. -/
structure Orderly (watch : Watch) : Prop where
  balanced : Balanced watch
  steady : watch.Steady
  held : ∀ index window, watch.window? index = some window → window.Held
  schedulers : ∀ (index : Nat) (scheduler : Scheduler), watch.schedulers[index]? = some scheduler →
    scheduler.Orderly watch.now ∧ scheduler.Disarmed

section Effects

variable {watch after : Watch} {calls : List Call}
  (heldBefore : ∀ index window, watch.window? index = some window → window.Held)

include heldBefore

theorem held_of_update {index : Nat} {other : Window}
    (windows : after.window? = Function.update watch.window? index (some other))
    (heldOther : other.Held) : ∀ index window, after.window? index = some window → window.Held := by
  intro position window found
  rw [windows] at found
  by_cases same : position = index
  · rw [same, Function.update_self] at found
    exact Option.some.inj found ▸ heldOther
  · rw [Function.update_of_ne same] at found
    exact heldBefore position window found

/-- Whatever is done to the windows, their samplers do not crash. -/
theorem Effect.held (effect : Effect watch calls after) :
    ∀ index window, after.window? index = some window → window.Held := by
  cases effect with
  | quiet flag windows => exact windows ▸ heldBefore
  | begins found flag windows =>
      have held := heldBefore _ _ (window?_of_getElem? found)
      exact held_of_update heldBefore windows held.beginBurst
  | ends found flag windows =>
      have held := heldBefore _ _ (window?_of_getElem? found)
      exact held_of_update heldBefore windows held.endBurst
  | reports found flag windows =>
      have held := heldBefore _ _ (window?_of_getElem? found)
      exact held_of_update heldBefore windows (held.report _ _)
  | renews found flag windows =>
      exact held_of_update heldBefore windows (heldBefore _ _ found).renew

theorem Effect.calm (effect : Effect watch calls after) : ∀ call ∈ calls, call.crash? = none := by
  intro call called
  cases effect with
  | quiet => cases called
  | reports => cases called
  | renews => cases called
  | @begins _ index scheduler found flag windows =>
      obtain ⟨ending, started, rfl⟩ := Option.map_eq_some_iff.mp (Option.mem_toList.mp called)
      rw [found, Option.bind_some] at started
      exact (heldBefore _ _ (window?_of_getElem? found)).crash?_startCall started
  | @ends _ index scheduler found flag windows =>
      obtain ⟨ending, stopped, rfl⟩ := Option.map_eq_some_iff.mp (Option.mem_toList.mp called)
      rw [found, Option.bind_some] at stopped
      exact (heldBefore _ _ (window?_of_getElem? found)).crash?_stopCall stopped

end Effects

section Steps

variable {watch : Watch} {index : Nat} {scheduler : Scheduler} {operation : Operation}

theorem of_own {own : Prop} [Decidable own] {changed : Scheduler} {property : Scheduler → Prop}
    (before : property scheduler) (after : own → property changed) :
    property (if own then changed else scheduler) := by
  split
  · next same => exact after same
  · exact before

/-- What comes by itself leaves a scheduler orderly. -/
theorem orderly_schedulerAfter (found : watch.schedulers[index]? = some scheduler)
    (orderly : scheduler.Orderly watch.now) (timely : watch.Timely operation)
    (leaves : operation.LeavesSchedulers) :
    (watch.schedulerAfter index scheduler operation).Orderly (watch.apply operation).now := by
  rw [now_apply]
  cases operation with
  | beginBurst other => cases leaves
  | endBurst other => cases leaves
  | report other => cases leaves
  | start other => cases leaves
  | stop other => cases leaves
  | updateRecorder change => exact orderly
  | moveTo instant =>
      exact orderly.of_same (fun inTime => inTime_wait found inTime timely) rfl
        (fun none _ => none) rfl rfl rfl
  | perform task =>
      cases task with
      | sendingEnds => exact orderly
      | flushTick => exact orderly
      | samplingTick other =>
          refine of_own orderly fun same => ?_
          subst same
          obtain ⟨time, due, come⟩ := due_of_samplingTick found timely
          exact orderly.samplingTick due come
      | attemptDue other attempt =>
          refine of_own orderly fun same => ?_
          subst same
          obtain ⟨member, come⟩ := mem_attempts_of_attemptDue found timely
          exact orderly.attempted member come (Scheduler.attempted_attemptDue ..)
      | spanEnds other =>
          refine of_own orderly fun same => ?_
          subst same
          obtain ⟨time, due, come⟩ := due_of_spanEnds found timely
          exact orderly.spanEnds watch.active due come
      | reportTick other =>
          refine of_own orderly fun _ => ?_
          refine orderly.of_same (fun inTime => ?_) rfl (fun none _ => none) rfl
            (Window.report_burst ..) rfl
          exact inTime.of_paced rfl rfl rfl (Window.report_burst ..) rfl inTime.paced

/-- What comes by itself neither starts nor stops a scheduler. -/
theorem started_schedulerAfter (watch : Watch) (index : Nat) (scheduler : Scheduler)
    (leaves : operation.LeavesSchedulers) :
    (watch.schedulerAfter index scheduler operation).started = scheduler.started := by
  have ofOwn {own : Prop} [Decidable own] {changed : Scheduler}
      (same : changed.started = scheduler.started) :
      (if own then changed else scheduler).started = scheduler.started := by
    split
    · exact same
    · rfl
  cases operation with
  | beginBurst other => cases leaves
  | endBurst other => cases leaves
  | report other => cases leaves
  | start other => cases leaves
  | stop other => cases leaves
  | updateRecorder change => rfl
  | moveTo instant => rfl
  | perform task =>
      cases task with
      | sendingEnds => rfl
      | flushTick => rfl
      | samplingTick other => exact ofOwn rfl
      | attemptDue other attempt => exact ofOwn (Scheduler.attemptDue_keeps ..).2
      | spanEnds other => exact ofOwn rfl
      | reportTick other => exact ofOwn rfl

theorem disarmed_schedulerAfter (watch : Watch) (index : Nat) (disarmed : scheduler.Disarmed)
    (leaves : operation.LeavesSchedulers) :
    (watch.schedulerAfter index scheduler operation).Disarmed := by
  have mapped {timer : Option Timer} {change : Timer → Timer} (none : timer = none) :
      timer.map change = Option.none := by
    rw [none]
    rfl
  cases operation with
  | beginBurst other => cases leaves
  | endBurst other => cases leaves
  | report other => cases leaves
  | start other => cases leaves
  | stop other => cases leaves
  | updateRecorder change => exact disarmed
  | moveTo instant => exact disarmed
  | perform task =>
      cases task with
      | sendingEnds => exact disarmed
      | flushTick => exact disarmed
      | samplingTick other => exact of_own disarmed fun _ => disarmed.of_same rfl mapped id
      | spanEnds other => exact of_own disarmed fun _ => disarmed.of_same rfl id id
      | reportTick other => exact of_own disarmed fun _ => disarmed.of_same rfl id mapped
      | attemptDue other attempt =>
          refine of_own disarmed fun _ => ?_
          have attempted :=
            Scheduler.attempted_attemptDue watch.now attempt watch.active scheduler
          refine disarmed.of_same (Scheduler.attemptDue_keeps ..).2 (fun none => ?_) fun none => ?_
          · rw [attempted.samplingTimer, none]
            split <;> rfl
          · rw [attempted.reportTimer, none]

theorem Orderly.apply (orderly : watch.Orderly) (timely : watch.Timely operation)
    (leaves : operation.LeavesSchedulers) : (watch.apply operation).Orderly where
  balanced := by
    have calm := (effect_apply watch operation).calm orderly.held
    rcases orderly.balanced.turn (turn_apply watch operation) with ⟨balanced, -⟩ | ⟨-, crashed⟩
    · exact balanced
    · obtain ⟨call, called, crash⟩ := crashed
      exact absurd (calm call called) crash
  steady := orderly.steady.apply leaves.keepsSteady
  held := (effect_apply watch operation).held orderly.held
  schedulers := by
    intro index after found
    obtain ⟨scheduler, foundBefore, rfl⟩ := exists_of_getElem?_apply found
    obtain ⟨ofScheduler, disarmed⟩ := orderly.schedulers index scheduler foundBefore
    exact ⟨orderly_schedulerAfter foundBefore ofScheduler timely leaves,
      disarmed_schedulerAfter watch index disarmed leaves⟩

theorem Orderly.run {operations : List Operation} (orderly : watch.Orderly)
    (plays : watch.PlaysByItself operations) : (watch.run operations).Orderly := by
  induction operations generalizing watch with
  | nil => exact orderly
  | cons operation rest inductionHypothesis =>
      obtain ⟨timely, leaves, playsRest⟩ := plays
      exact inductionHypothesis (orderly.apply timely leaves) playsRest

/-- All schedulers are changed in a way that spares bursts and timers. -/
theorem Orderly.changed {after : Watch} (orderly : watch.Orderly) (change : Scheduler → Scheduler)
    (schedulers : after.schedulers = watch.schedulers.map change)
    (active : after.active = watch.active) (now : after.now = watch.now)
    (recorder : after.recorder.Steady)
    (spares : ∀ scheduler : Scheduler, (change scheduler).window.burst = scheduler.window.burst ∧
      (scheduler.window.Held → (change scheduler).window.Held) ∧
      (scheduler.Steady → (change scheduler).Steady) ∧
      (scheduler.Orderly watch.now → (change scheduler).Orderly watch.now) ∧
      (scheduler.Disarmed → (change scheduler).Disarmed)) : after.Orderly := by
  have found (index : Nat) : after.schedulers[index]? = watch.schedulers[index]?.map change := by
    rw [schedulers, List.getElem?_map]
  have bursts : after.burst = watch.burst := by
    funext index
    unfold burst window?
    rw [found]
    cases watch.schedulers[index]? with
    | none => rfl
    | some scheduler => exact (spares scheduler).1
  refine ⟨?_, ⟨recorder, ?_⟩, ?_, ?_⟩
  · rcases orderly.balanced.turn (.quiet active bursts) with ⟨balanced, -⟩ | ⟨-, _, called, -⟩
    · exact balanced
    · cases called
  · intro index scheduler present
    obtain ⟨before, foundBefore, rfl⟩ :=
      Option.map_eq_some_iff.mp ((found index).symm.trans present)
    exact (spares before).2.2.1 (orderly.steady.schedulers index before foundBefore)
  · intro index window present
    obtain ⟨scheduler, presentScheduler, rfl⟩ := Option.map_eq_some_iff.mp present
    obtain ⟨before, foundBefore, rfl⟩ :=
      Option.map_eq_some_iff.mp ((found index).symm.trans presentScheduler)
    exact (spares before).2.1 (orderly.held index _ (window?_of_getElem? foundBefore))
  · intro index scheduler present
    obtain ⟨before, foundBefore, rfl⟩ :=
      Option.map_eq_some_iff.mp ((found index).symm.trans present)
    obtain ⟨ofScheduler, disarmed⟩ := orderly.schedulers index before foundBefore
    rw [now]
    exact ⟨(spares before).2.2.2.1 ofScheduler, (spares before).2.2.2.2 disarmed⟩

end Steps

/-! ### Watches that are shut down -/

/-- No scheduler is started. -/
def Halted (watch : Watch) : Prop :=
  ∀ (index : Nat) (scheduler : Scheduler), watch.schedulers[index]? = some scheduler →
    scheduler.started.isSet = false

/-- No sampler is capturing, and the flag that they share is clear. -/
structure Quiet (watch : Watch) : Prop where
  idle : ∀ index, watch.burst index = none
  still : ∀ index window, watch.window? index = some window → window.sampler.running = false
  clear : watch.active.isSet = false

/-- The longest of the spans of bursts. -/
def longestSpan (watch : Watch) : Duration :=
  watch.schedulers.foldr (fun scheduler longest =>
    if scheduler.timing.reportOnly then longest
    else max scheduler.timing.maxSpanDuration longest) 0

theorem le_longestSpan {watch : Watch} {index : Nat} {scheduler : Scheduler}
    (found : watch.schedulers[index]? = some scheduler)
    (sampling : scheduler.timing.reportOnly = false) :
    scheduler.timing.maxSpanDuration ≤ watch.longestSpan := by
  have member := List.mem_of_getElem? found
  unfold longestSpan
  generalize watch.schedulers = schedulers at member
  clear found
  induction schedulers with
  | nil => cases member
  | cons first rest inductionHypothesis =>
      rw [List.foldr_cons]
      rcases List.mem_cons.mp member with rfl | later
      · rw [sampling]
        exact Nat.le_max_left _ _
      · split
        · exact inductionHypothesis later
        · exact Nat.le_trans (inductionHypothesis later) (Nat.le_max_right _ _)

section

variable {watch after : Watch} {index : Nat} {begun : Instant} {operation : Operation}
  {operations : List Operation}

theorem Halted.apply (halted : watch.Halted) (leaves : operation.LeavesSchedulers) :
    (watch.apply operation).Halted := by
  intro index after found
  obtain ⟨scheduler, foundBefore, rfl⟩ := exists_of_getElem?_apply found
  rw [started_schedulerAfter watch index scheduler leaves]
  exact halted index scheduler foundBefore

theorem Halted.isStarted (halted : watch.Halted) (index : Nat) : watch.isStarted index = false := by
  unfold Watch.isStarted
  cases found : watch.schedulers[index]? with
  | none => rfl
  | some scheduler => exact halted index scheduler found

/-- An attempt that comes is given up. -/
theorem Halted.unstarted (halted : watch.Halted) (leaves : operation.LeavesSchedulers)
    (index : Nat) (ending : Outcome SamplerError Unit) :
    .start index ending ∉ watch.callsOf operation := by
  intro started
  rcases eq_of_start_mem_callsOf started with byHand | ⟨attempt, byTimer⟩
  · subst byHand
    cases leaves
  · subst byTimer
    simp only [callsOf, halted.isStarted, Bool.false_eq_true, if_false] at started
    cases started

/-- No tick and no report comes. -/
theorem Orderly.tickless (orderly : watch.Orderly) (halted : watch.Halted)
    (timely : watch.Timely operation) (index : Nat) :
    operation ≠ .perform (.samplingTick index) ∧ operation ≠ .perform (.reportTick index) := by
  have never {task : Task} (own : task.scheduler? = some index)
      (tick : task = .samplingTick index ∨ task = .reportTick index) :
      operation ≠ .perform task := by
    rintro rfl
    obtain ⟨due, member, rfl, -⟩ := timely
    rcases of_mem_agenda member with ofRecorder | ⟨other, scheduler, found, inside⟩
    · cases (scheduler?_of_mem_dueOfRecorder ofRecorder).symm.trans own
    · obtain ⟨noSampling, noReport⟩ :=
        (orderly.schedulers other scheduler found).2 (halted other scheduler found)
      rcases mem_dueOfScheduler_iff.mp inside with
        ⟨-, task⟩ | ⟨_, -, -, task⟩ | ⟨dueTimer, -⟩ | ⟨dueTimer, -⟩
      · rcases tick with tick | tick <;> cases task.symm.trans tick
      · rcases tick with tick | tick <;> cases task.symm.trans tick
      · rw [noSampling] at dueTimer
        cases dueTimer
      · rw [noReport] at dueTimer
        cases dueTimer
  exact ⟨never rfl (.inl rfl), never rfl (.inr rfl)⟩

/-- Where no sampler is started no burst begins. -/
theorem Turn.burst_of_unstarted {calls : List Call} (turn : Turn watch calls after)
    (unstarted : ∀ index ending, .start index ending ∉ calls)
    (underWay : after.burst index = some begun) : watch.burst index = some begun := by
  have ended {other : Nat} (bursts : after.burst = Function.update watch.burst other none) :
      watch.burst index = some begun := by
    rw [bursts] at underWay
    by_cases same : index = other
    · rw [same, Function.update_self] at underWay
      cases underWay
    · rwa [Function.update_of_ne same] at underWay
  cases turn with
  | quiet flag bursts => exact bursts ▸ underWay
  | begun other => exact absurd (List.mem_singleton_self _) (unstarted other _)
  | refused other => exact absurd (List.mem_singleton_self _) (unstarted other _)
  | startCrashed other => exact absurd (List.mem_singleton_self _) (unstarted other _)
  | ended other ending sane otherUnderWay flag bursts => exact ended bursts
  | stopCrashed other crash otherUnderWay flag bursts => exact ended bursts

/-- What a watch does by itself after its schedulers are stopped. -/
structure Winds (watch : Watch) (operations : List Operation) : Prop where
  halted : (watch.run operations).Halted
  tickless : ∀ index, .perform (.samplingTick index) ∉ operations ∧
    .perform (.reportTick index) ∉ operations
  unstarted : ∀ index ending, .start index ending ∉ watch.calls operations
  bursts : ∀ index begun, (watch.run operations).burst index = some begun →
    watch.burst index = some begun

theorem Orderly.winds (orderly : watch.Orderly) (halted : watch.Halted)
    (plays : watch.PlaysByItself operations) : watch.Winds operations := by
  induction operations generalizing watch with
  | nil =>
      exact ⟨halted, fun _ => ⟨nofun, nofun⟩, fun _ _ => nofun, fun _ _ underWay => underWay⟩
  | cons operation rest inductionHypothesis =>
      obtain ⟨timely, leaves, playsRest⟩ := plays
      have unstarted := halted.unstarted leaves
      have later :=
        inductionHypothesis (orderly.apply timely leaves) (halted.apply leaves) playsRest
      refine ⟨later.halted, fun index => ?_, fun index ending => ?_, fun index begun underWay => ?_⟩
      · obtain ⟨noTick, noReport⟩ := orderly.tickless halted timely index
        obtain ⟨noTickLater, noReportLater⟩ := later.tickless index
        exact ⟨List.not_mem_cons_of_ne_of_not_mem (Ne.symm noTick) noTickLater,
          List.not_mem_cons_of_ne_of_not_mem (Ne.symm noReport) noReportLater⟩
      · rw [calls, List.mem_append, not_or]
        exact ⟨unstarted index ending, later.unstarted index ending⟩
      · exact (turn_apply watch operation).burst_of_unstarted unstarted
          (later.bursts index begun underWay)

/-- A burst of an orderly watch is in time, and ends one span after it began. -/
theorem Orderly.exists_inTime (orderly : watch.Orderly)
    (underWay : watch.burst index = some begun) :
    ∃ scheduler, watch.schedulers[index]? = some scheduler ∧
      scheduler.timing.reportOnly = false ∧ scheduler.timing.Bursts ∧
      watch.InTime scheduler.timing index ∧
      scheduler.timing.spanEnd begun = begun + scheduler.timing.maxSpanDuration := by
  obtain ⟨window, foundWindow, burst⟩ := Option.bind_eq_some_iff.mp underWay
  obtain ⟨scheduler, found, rfl⟩ := Option.map_eq_some_iff.mp foundWindow
  cases (orderly.schedulers index scheduler found).1 with
  | reporting _ _ _ noBurst => cases noBurst.symm.trans burst
  | bursting sampling bursts whole inTime _ begins =>
      exact ⟨scheduler, found, sampling, bursts,
        ⟨orderly.balanced.exclusive, scheduler, found, inTime⟩,
        Scheduler.spanEnd_eq_add (begins begun burst) whole⟩

/-- One longest span after the schedulers are stopped nothing is left to end. -/
theorem Orderly.quiet_of_late (orderly : watch.Orderly) (halted : watch.Halted)
    (plays : watch.PlaysByItself operations)
    (late : ∀ due ∈ (watch.run operations).agenda,
      watch.now + watch.longestSpan < max due.time (watch.run operations).now) :
    (watch.run operations).Quiet := by
  have orderlyThen := orderly.run plays
  have idle (index : Nat) : (watch.run operations).burst index = none := by
    by_contra some
    obtain ⟨begun, underWay⟩ := Option.ne_none_iff_exists'.mp some
    have underWayBefore := (orderly.winds halted plays).bursts index begun underWay
    obtain ⟨scheduler, found, sampling, bursts, inTime, ends⟩ :=
      orderly.exists_inTime underWayBefore
    obtain ⟨past, -, -⟩ := inTime.end_mem_agenda underWayBefore
    obtain ⟨-, ahead, onAgenda⟩ := (inTime.run bursts (plays.plays index)).end_mem_agenda underWay
    refine absurd (late _ onAgenda) (Nat.not_lt.mpr ?_)
    rw [Nat.max_eq_left ahead, ends]
    exact Nat.add_le_add past (le_longestSpan found sampling)
  refine ⟨idle, fun index window found => ?_, ?_⟩
  · by_contra running
    have underWay := (orderlyThen.held index window found).capturing (by simpa using running)
    exact underWay (burst_eq_of_window? found ▸ idle index)
  · by_contra set
    obtain ⟨index, underWay⟩ := orderlyThen.balanced.held (by simpa using set)
    exact underWay (idle index)

end

end Watch

end Stackwatch

import Stackwatch.Proofs.Watch.Operations

/-!
# One scheduler among many

An operation changes one scheduler at most, and tells the others apart by their place. This module
says what an operation makes of a single scheduler, whatever the others are.
-/

namespace Stackwatch

namespace Watch

/-- What an operation makes of a scheduler. -/
def schedulerAfter (watch : Watch) (index : Nat) (scheduler : Scheduler) : Operation → Scheduler
  | .beginBurst other =>
      if other = index then
        { scheduler with
          window := (scheduler.window.beginBurst scheduler.timing watch.now watch.active).window }
      else scheduler
  | .endBurst other =>
      if other = index then
        { scheduler with
          window := (scheduler.window.endBurst scheduler.timing watch.now watch.active).window }
      else scheduler
  | .report other =>
      if other = index then
        { scheduler with
          window := (scheduler.window.report scheduler.timing watch.now watch.origin
            watch.externalProcess).window }
      else scheduler
  | .start other => if other = index then scheduler.start watch.now else scheduler
  | .stop other => if other = index then scheduler.stop else scheduler
  | .perform (.samplingTick other) =>
      if other = index then scheduler.samplingTick watch.now else scheduler
  | .perform (.attemptDue other attempt) =>
      if other = index then (scheduler.attemptDue watch.now attempt watch.active).scheduler
      else scheduler
  | .perform (.spanEnds other) =>
      if other = index then (scheduler.spanEnds watch.now watch.active).scheduler else scheduler
  | .perform (.reportTick other) =>
      if other = index then
        { scheduler with
          window := (scheduler.window.report scheduler.timing watch.now watch.origin
            watch.externalProcess).window }.reportTick watch.now
      else scheduler
  | _ => scheduler

section

variable {watch : Watch} {index other : Nat} {scheduler : Scheduler}

/-- Where one scheduler is put in the place of another, each is what it was or what is made of
    it. -/
theorem getElem?_of_set {after : Watch} (change : Scheduler → Scheduler)
    (found : watch.schedulers[index]? = some scheduler)
    (missing : watch.schedulers[other]? = none → after.schedulers = watch.schedulers)
    (changed : ∀ scheduler, watch.schedulers[other]? = some scheduler →
      after.schedulers = watch.schedulers.set other (change scheduler)) :
    after.schedulers[index]? = some (if other = index then change scheduler else scheduler) := by
  have inRange : index < watch.schedulers.length := (List.getElem?_eq_some_iff.mp found).1
  cases foundOther : watch.schedulers[other]? with
  | none =>
      have different : other ≠ index := fun same => by simp [same, found] at foundOther
      rw [missing foundOther, if_neg different]
      exact found
  | some otherScheduler =>
      rw [changed otherScheduler foundOther]
      by_cases same : other = index
      · subst same
        rw [found] at foundOther
        cases foundOther
        simp [inRange]
      · simp [same, found]

theorem getElem?_updateScheduler (found : watch.schedulers[index]? = some scheduler)
    (change : Scheduler → Scheduler) :
    (watch.updateScheduler other change).schedulers[index]? =
      some (if other = index then change scheduler else scheduler) := by
  simp only [updateScheduler, List.getElem?_modify, found]
  split <;> rfl

theorem getElem?_runScheduler (found : watch.schedulers[index]? = some scheduler)
    (event : Flag → Scheduler → Scheduler.Step) :
    (watch.runScheduler other event).schedulers[index]? =
      some (if other = index then (event watch.active scheduler).scheduler else scheduler) :=
  getElem?_of_set (fun scheduler => (event watch.active scheduler).scheduler) found
    (fun missing => by simp [runScheduler, missing])
    (fun scheduler found => by simp [runScheduler, found, tell])

theorem getElem?_report (found : watch.schedulers[index]? = some scheduler) :
    (watch.report other).2.schedulers[index]? =
      some (watch.schedulerAfter index scheduler (.report other)) :=
  getElem?_of_set
    (fun scheduler =>
      { scheduler with
        window := (scheduler.window.report scheduler.timing watch.now watch.origin
          watch.externalProcess).window })
    found (fun missing => by simp [report, missing])
    (fun scheduler found => by simp [report, found, tell])

@[simp] theorem beginBurst_now (watch : Watch) : (watch.beginBurst index).2.now = watch.now := by
  unfold beginBurst
  split <;> rfl

@[simp] theorem endBurst_now (watch : Watch) : (watch.endBurst index).2.now = watch.now := by
  unfold endBurst
  split <;> rfl

@[simp] theorem report_now (watch : Watch) : (watch.report index).2.now = watch.now := by
  unfold report
  split <;> rfl

@[simp] theorem runScheduler_now (watch : Watch) (event : Flag → Scheduler → Scheduler.Step) :
    (watch.runScheduler index event).now = watch.now := by
  unfold runScheduler
  split <;> rfl

theorem getElem?_perform (found : watch.schedulers[index]? = some scheduler) (task : Task) :
    (watch.perform task).schedulers[index]? =
      some (watch.schedulerAfter index scheduler (.perform task)) := by
  cases task with
  | sendingEnds => exact found
  | flushTick => exact found
  | samplingTick other => exact getElem?_updateScheduler found _
  | attemptDue other attempt => exact getElem?_runScheduler found _
  | spanEnds other => exact getElem?_runScheduler found _
  | reportTick other =>
      let reported := (watch.report other).2
      have ticked : (reported.updateScheduler other
          (Scheduler.reportTick reported.now)).schedulers[index]? = _ :=
        getElem?_updateScheduler (getElem?_report found) _
      have same : (watch.perform (.reportTick other)).schedulers =
          (reported.updateScheduler other (Scheduler.reportTick reported.now)).schedulers := by
        simp only [perform]
        split <;> rfl
      rw [same, ticked, report_now]
      simp only [schedulerAfter]
      split <;> rfl

/-- An operation makes of a scheduler what is said of it. -/
theorem getElem?_apply (found : watch.schedulers[index]? = some scheduler)
    (operation : Operation) :
    (watch.apply operation).schedulers[index]? =
      some (watch.schedulerAfter index scheduler operation) := by
  cases operation with
  | beginBurst other =>
      exact getElem?_of_set
        (fun scheduler =>
          { scheduler with
            window := (scheduler.window.beginBurst scheduler.timing watch.now
              watch.active).window })
        found (fun missing => by simp [apply, beginBurst, missing])
        (fun scheduler found => by simp [apply, beginBurst, found, tell])
  | endBurst other =>
      exact getElem?_of_set
        (fun scheduler =>
          { scheduler with
            window := (scheduler.window.endBurst scheduler.timing watch.now
              watch.active).window })
        found (fun missing => by simp [apply, endBurst, missing])
        (fun scheduler found => by simp [apply, endBurst, found, tell])
  | report other => exact getElem?_report found
  | start other => exact getElem?_updateScheduler found _
  | stop other => exact getElem?_updateScheduler found _
  | perform task => exact getElem?_perform found task
  | moveTo instant => exact found
  | updateRecorder change => exact found

/-- What the report timer brings about in the recorder is a report. -/
theorem recorder_reportTick (watch : Watch) (index : Nat) :
    (watch.perform (.reportTick index)).recorder = (watch.report index).2.recorder := by
  simp only [perform]
  split <;> rfl

/-- No operation adds or removes a scheduler. -/
theorem length_schedulers_apply (watch : Watch) (operation : Operation) :
    (watch.apply operation).schedulers.length = watch.schedulers.length := by
  have runs (watch : Watch) (index : Nat) (event : Flag → Scheduler → Scheduler.Step) :
      (watch.runScheduler index event).schedulers.length = watch.schedulers.length := by
    unfold runScheduler
    split <;> simp [tell]
  have reports (watch : Watch) (index : Nat) :
      (watch.report index).2.schedulers.length = watch.schedulers.length := by
    unfold report
    split <;> simp [tell]
  cases operation with
  | beginBurst other =>
      simp only [apply, beginBurst]
      split <;> simp [tell]
  | endBurst other =>
      simp only [apply, endBurst]
      split <;> simp [tell]
  | report other => exact reports watch other
  | start other => simp [apply, updateScheduler]
  | stop other => simp [apply, updateScheduler]
  | moveTo instant => rfl
  | updateRecorder change => rfl
  | perform task =>
      cases task with
      | sendingEnds => rfl
      | flushTick => rfl
      | samplingTick other => simp [apply, perform, updateScheduler]
      | attemptDue other attempt => exact runs watch other _
      | spanEnds other => exact runs watch other _
      | reportTick other =>
          simp only [apply, perform]
          split <;> simp [updateScheduler, reports, tell]

/-- Whatever is there after an operation was made by it of what was there before. -/
theorem exists_of_getElem?_apply {operation : Operation} {after : Scheduler}
    (found : (watch.apply operation).schedulers[index]? = some after) :
    ∃ scheduler, watch.schedulers[index]? = some scheduler ∧
      after = watch.schedulerAfter index scheduler operation := by
  have inRange := (List.getElem?_eq_some_iff.mp found).1
  rw [length_schedulers_apply] at inRange
  have foundBefore := List.getElem?_eq_getElem inRange
  rw [getElem?_apply foundBefore, Option.some.injEq] at found
  exact ⟨_, foundBefore, found.symm⟩

theorem now_apply (watch : Watch) (operation : Operation) :
    (watch.apply operation).now =
      match operation with
      | .moveTo instant => max watch.now instant
      | _ => watch.now := by
  cases operation with
  | beginBurst other => exact beginBurst_now watch
  | endBurst other => exact endBurst_now watch
  | report other => exact report_now watch
  | start other => rfl
  | stop other => rfl
  | moveTo instant => rfl
  | updateRecorder change => rfl
  | perform task =>
      cases task with
      | sendingEnds => rfl
      | flushTick => rfl
      | samplingTick other => rfl
      | attemptDue other attempt => exact runScheduler_now watch _
      | spanEnds other => exact runScheduler_now watch _
      | reportTick other =>
          simp only [apply, perform]
          split <;> exact report_now watch

end

end Watch

end Stackwatch

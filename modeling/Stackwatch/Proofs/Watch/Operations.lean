import Mathlib.Logic.Function.Basic
import Stackwatch.Proofs.Burst.Calls
import Stackwatch.Watch.Basic

/-!
# Operations on a watch

Bursts and reports are brought about by hand or by the timers of the schedulers. This module says
once what each operation can do to the windows of the schedulers and to the flag that they share,
and which calls of the samplers it makes. What holds along all runs is derived from that.
-/

namespace Stackwatch

namespace Watch

/-- What can be done to a watch, or can happen to it by itself. -/
inductive Operation where
  | beginBurst (scheduler : Nat)
  | endBurst (scheduler : Nat)
  | report (scheduler : Nat)
  | start (scheduler : Nat)
  | stop (scheduler : Nat)
  /-- A timer fires or a delivery ends. -/
  | perform (task : Task)
  /-- Time passes. -/
  | moveTo (instant : Instant)
  /-- Something happens to the recorder. -/
  | updateRecorder (change : Recorder → Recorder)

/-- Carries out an operation. -/
def apply (watch : Watch) : Operation → Watch
  | .beginBurst index => (watch.beginBurst index).2
  | .endBurst index => (watch.endBurst index).2
  | .report index => (watch.report index).2
  | .start index => watch.updateScheduler index (Scheduler.start watch.now)
  | .stop index => watch.updateScheduler index Scheduler.stop
  | .perform task => watch.perform task
  | .moveTo instant => watch.moveTo instant
  | .updateRecorder change => watch.updateRecorder change

/-- Carries out operations one after the other. -/
def run (watch : Watch) (operations : List Operation) : Watch := operations.foldl apply watch

/-- A call of a sampler, and how it ended. -/
inductive Call where
  | start (scheduler : Nat) (ending : Outcome SamplerError Unit)
  | stop (scheduler : Nat) (ending : Outcome SamplerError Unit)

/-- The call that an attempt of a scheduler at a burst makes. -/
def startCalls (index : Nat) (watch : Watch) : List Call :=
  ((watch.schedulers[index]?.bind fun scheduler =>
    scheduler.window.startCall? scheduler.timing watch.active).map (Call.start index)).toList

/-- The call that the end of a scheduler's burst makes. -/
def stopCalls (index : Nat) (watch : Watch) : List Call :=
  ((watch.schedulers[index]?.bind fun scheduler =>
    scheduler.window.stopCall?).map (Call.stop index)).toList

/-- Whether a scheduler is started. -/
def isStarted (index : Nat) (watch : Watch) : Bool :=
  (watch.schedulers[index]?.map fun scheduler => scheduler.started.isSet).getD false

/-- The calls that an operation makes. -/
def callsOf (watch : Watch) : Operation → List Call
  | .beginBurst index => watch.startCalls index
  | .endBurst index => watch.stopCalls index
  | .perform (.attemptDue index _) => if watch.isStarted index then watch.startCalls index else []
  | .perform (.spanEnds index) => watch.stopCalls index
  | _ => []

/-- The calls that some operations make, one after the other. -/
def calls : Watch → List Operation → List Call
  | _, [] => []
  | watch, operation :: rest => watch.callsOf operation ++ (watch.apply operation).calls rest

/-- The window of a scheduler. -/
def window? (watch : Watch) (index : Nat) : Option Window :=
  watch.schedulers[index]?.map fun scheduler => scheduler.window

/-- When the burst under way of a scheduler was begun. -/
def burst (watch : Watch) (index : Nat) : Option Instant :=
  (watch.window? index).bind fun window => window.burst

/-- How often the engine of a scheduler was asked to begin a capture. -/
def starts (watch : Watch) (index : Nat) : Nat :=
  ((watch.window? index).map fun window => window.sampler.engine.starts).getD 0

/-! ### Who calls -/

section Calls

variable {watch : Watch} {call : Call} {index : Nat}

theorem eq_of_mem_startCalls (called : call ∈ watch.startCalls index) :
    ∃ ending, call = .start index ending := by
  obtain ⟨ending, -, same⟩ := Option.map_eq_some_iff.mp (Option.mem_toList.mp called)
  exact ⟨ending, same.symm⟩

theorem eq_of_mem_stopCalls (called : call ∈ watch.stopCalls index) :
    ∃ ending, call = .stop index ending := by
  obtain ⟨ending, -, same⟩ := Option.map_eq_some_iff.mp (Option.mem_toList.mp called)
  exact ⟨ending, same.symm⟩

/-- Samplers are called where bursts begin or end, by hand or by a timer. -/
theorem of_mem_callsOf {operation : Operation} (called : call ∈ watch.callsOf operation) :
    ∃ index,
      (call ∈ watch.startCalls index ∧
        (operation = .beginBurst index ∨
          ∃ attempt, operation = .perform (.attemptDue index attempt))) ∨
      (call ∈ watch.stopCalls index ∧
        (operation = .endBurst index ∨ operation = .perform (.spanEnds index))) := by
  cases operation with
  | beginBurst index => exact ⟨index, .inl ⟨called, .inl rfl⟩⟩
  | endBurst index => exact ⟨index, .inr ⟨called, .inl rfl⟩⟩
  | report index => cases called
  | start index => cases called
  | stop index => cases called
  | moveTo instant => cases called
  | updateRecorder change => cases called
  | perform task =>
      cases task with
      | sendingEnds => cases called
      | flushTick => cases called
      | samplingTick index => cases called
      | reportTick index => cases called
      | spanEnds index => exact ⟨index, .inr ⟨called, .inr rfl⟩⟩
      | attemptDue index attempt =>
          rw [callsOf] at called
          split at called
          · exact ⟨index, .inl ⟨called, .inr ⟨attempt, rfl⟩⟩⟩
          · cases called

end Calls

/-- What an operation can do to the windows and to the flag. -/
inductive Effect (watch : Watch) : List Call → Watch → Prop where
  | quiet {after : Watch} (flag : after.active = watch.active)
      (windows : after.window? = watch.window?) : Effect watch [] after
  | begins {after : Watch} {index : Nat} {scheduler : Scheduler}
      (found : watch.schedulers[index]? = some scheduler)
      (flag : after.active =
        (scheduler.window.beginBurst scheduler.timing watch.now watch.active).flag)
      (windows : after.window? = Function.update watch.window? index
        (some (scheduler.window.beginBurst scheduler.timing watch.now watch.active).window)) :
      Effect watch (watch.startCalls index) after
  | ends {after : Watch} {index : Nat} {scheduler : Scheduler}
      (found : watch.schedulers[index]? = some scheduler)
      (flag : after.active =
        (scheduler.window.endBurst scheduler.timing watch.now watch.active).flag)
      (windows : after.window? = Function.update watch.window? index
        (some (scheduler.window.endBurst scheduler.timing watch.now watch.active).window)) :
      Effect watch (watch.stopCalls index) after
  | reports {after : Watch} {index : Nat} {scheduler : Scheduler}
      (found : watch.schedulers[index]? = some scheduler)
      (flag : after.active = watch.active)
      (windows : after.window? = Function.update watch.window? index
        (some (scheduler.window.report scheduler.timing watch.now watch.origin
          watch.externalProcess).window)) :
      Effect watch [] after
  | renews {after : Watch} {index : Nat} {window : Window}
      (found : watch.window? index = some window) (flag : after.active = watch.active)
      (windows : after.window? =
        Function.update watch.window? index (some (window.renew watch.now))) :
      Effect watch [] after

/-! ### Windows after a change -/

section Windows

variable {watch : Watch} {index : Nat}

theorem window?_of_getElem? {scheduler : Scheduler}
    (found : watch.schedulers[index]? = some scheduler) :
    watch.window? index = some scheduler.window := by
  simp [window?, found]

theorem burst_eq_of_window? {window : Window} (found : watch.window? index = some window) :
    watch.burst index = window.burst := by
  simp [burst, found]

/-- Who ends a burst under way calls the stop of its sampler. -/
theorem exists_stopCalls_eq {begun : Instant} (underWay : watch.burst index = some begun) :
    ∃ ending, watch.stopCalls index = [.stop index ending] := by
  obtain ⟨window, found, burst⟩ := Option.bind_eq_some_iff.mp underWay
  obtain ⟨scheduler, foundScheduler, rfl⟩ := Option.map_eq_some_iff.mp found
  exact ⟨scheduler.window.sampler.stop.1, by
    simp [stopCalls, foundScheduler, Window.stopCall?, burst]⟩

/-- Putting another scheduler in the place of one changes its window alone. -/
theorem window?_of_set {after : Watch} {scheduler other : Scheduler}
    (found : watch.schedulers[index]? = some scheduler)
    (schedulers : after.schedulers = watch.schedulers.set index other) :
    after.window? = Function.update watch.window? index (some other.window) := by
  funext position
  have inRange : index < watch.schedulers.length :=
    (List.getElem?_eq_some_iff.mp found).1
  by_cases same : position = index
  · subst same
    simp [window?, schedulers, inRange]
  · simp [window?, schedulers, List.getElem?_set_ne (Ne.symm same), Function.update_of_ne same]

/-- A change of a scheduler that spares its window changes no window. -/
theorem window?_updateScheduler {change : Scheduler → Scheduler}
    (spares : ∀ scheduler, (change scheduler).window = scheduler.window) :
    (watch.updateScheduler index change).window? = watch.window? := by
  funext position
  by_cases same : index = position
  · subst same
    simp [window?, updateScheduler, Function.comp_def, spares]
  · simp [window?, updateScheduler, same]

end Windows

/-! ### Effects -/

section Effects

variable (watch : Watch) (index : Nat)

/-- Only the flag and the windows count. -/
theorem Effect.of_eq {watch middle after : Watch} {calls : List Call}
    (effect : Effect watch calls middle) (flag : after.active = middle.active)
    (windows : after.window? = middle.window?) : Effect watch calls after := by
  cases effect with
  | quiet flagEq windowsEq => exact .quiet (flag.trans flagEq) (windows.trans windowsEq)
  | begins found flagEq windowsEq =>
      exact .begins found (flag.trans flagEq) (windows.trans windowsEq)
  | ends found flagEq windowsEq => exact .ends found (flag.trans flagEq) (windows.trans windowsEq)
  | reports found flagEq windowsEq =>
      exact .reports found (flag.trans flagEq) (windows.trans windowsEq)
  | renews found flagEq windowsEq =>
      exact .renews found (flag.trans flagEq) (windows.trans windowsEq)

/-- Who changes nothing and calls no sampler is quiet. -/
theorem Effect.of_unchanged {watch after : Watch} {calls : List Call} (uncalled : calls = [])
    (unchanged : after = watch) : Effect watch calls after := by
  rw [uncalled, unchanged]
  exact .quiet rfl rfl

theorem effect_beginBurst : Effect watch (watch.startCalls index) (watch.beginBurst index).2 := by
  cases found : watch.schedulers[index]? with
  | none =>
      refine .of_unchanged ?_ ?_
      · simp [startCalls, found]
      · simp [beginBurst, found]
  | some scheduler =>
      let burst := scheduler.window.beginBurst scheduler.timing watch.now watch.active
      have schedulers : (watch.beginBurst index).2.schedulers =
          watch.schedulers.set index { scheduler with window := burst.window } := by
        simp [beginBurst, found, tell, burst]
      refine .begins found ?_ (window?_of_set found schedulers)
      simp [beginBurst, found, tell]

theorem effect_endBurst : Effect watch (watch.stopCalls index) (watch.endBurst index).2 := by
  cases found : watch.schedulers[index]? with
  | none =>
      refine .of_unchanged ?_ ?_
      · simp [stopCalls, found]
      · simp [endBurst, found]
  | some scheduler =>
      let burst := scheduler.window.endBurst scheduler.timing watch.now watch.active
      have schedulers : (watch.endBurst index).2.schedulers =
          watch.schedulers.set index { scheduler with window := burst.window } := by
        simp [endBurst, found, tell, burst]
      refine .ends found ?_ (window?_of_set found schedulers)
      simp [endBurst, found, tell]

theorem effect_report : Effect watch [] (watch.report index).2 := by
  cases found : watch.schedulers[index]? with
  | none =>
      refine .of_unchanged rfl ?_
      simp [report, found]
  | some scheduler =>
      let report := scheduler.window.report scheduler.timing watch.now watch.origin
        watch.externalProcess
      have schedulers : (watch.report index).2.schedulers =
          watch.schedulers.set index { scheduler with window := report.window } := by
        simp [Watch.report, found, tell, report]
      refine .reports found ?_ (window?_of_set found schedulers)
      simp [Watch.report, found, tell]

theorem effect_start :
    Effect watch [] (watch.updateScheduler index (Scheduler.start watch.now)) := by
  cases found : watch.schedulers[index]? with
  | none =>
      refine .quiet rfl ?_
      funext position
      by_cases same : index = position
      · subst same
        simp [window?, updateScheduler, found]
      · simp [window?, updateScheduler, same]
  | some scheduler =>
      have schedulers : (watch.updateScheduler index (Scheduler.start watch.now)).schedulers =
          watch.schedulers.set index (scheduler.start watch.now) := by
        simp [updateScheduler, List.modify_eq_set, found]
      have windows := window?_of_set found schedulers
      by_cases started : scheduler.started.isSet
      · have unchanged : scheduler.start watch.now = scheduler := by
          simp [Scheduler.start, started]
        refine .quiet rfl ?_
        rw [windows, unchanged, ← window?_of_getElem? found, Function.update_eq_self]
      · refine .renews (window?_of_getElem? found) rfl ?_
        rw [windows]
        simp [Scheduler.start, started]

/-- An attempt whose time has come begins a burst if the scheduler is still started. -/
theorem effect_attemptDue (attempt : Scheduler.Attempt) :
    Effect watch (watch.callsOf (.perform (.attemptDue index attempt)))
      (watch.perform (.attemptDue index attempt)) := by
  cases found : watch.schedulers[index]? with
  | none =>
      refine .of_unchanged ?_ ?_
      · simp [callsOf, isStarted, found]
      · simp [perform, runScheduler, found]
  | some scheduler =>
      let step := scheduler.attemptDue watch.now attempt watch.active
      have schedulers : (watch.perform (.attemptDue index attempt)).schedulers =
          watch.schedulers.set index step.scheduler := by
        simp [perform, runScheduler, found, tell, step]
      have windows := window?_of_set found schedulers
      have flag : (watch.perform (.attemptDue index attempt)).active = step.flag := by
        simp [perform, runScheduler, found, tell, step]
      cases started : scheduler.started.isSet with
      | false =>
          obtain ⟨windowEq, flagEq⟩ :=
            Scheduler.attemptDue_of_stopped watch.now attempt watch.active started
          have uncalled : watch.callsOf (.perform (.attemptDue index attempt)) = [] := by
            simp [callsOf, isStarted, found, started]
          rw [uncalled]
          refine .quiet (flag.trans flagEq) ?_
          rw [windows, windowEq, ← window?_of_getElem? found, Function.update_eq_self]
      | true =>
          obtain ⟨windowEq, flagEq⟩ :=
            Scheduler.attemptDue_of_started watch.now attempt watch.active started
          have called :
              watch.callsOf (.perform (.attemptDue index attempt)) = watch.startCalls index := by
            simp [callsOf, isStarted, found, started]
          rw [called]
          exact .begins found (flag.trans flagEq) (windows.trans (by rw [windowEq]))

theorem effect_spanEnds :
    Effect watch (watch.stopCalls index) (watch.perform (.spanEnds index)) := by
  cases found : watch.schedulers[index]? with
  | none =>
      refine .of_unchanged ?_ ?_
      · simp [stopCalls, found]
      · simp [perform, runScheduler, found]
  | some scheduler =>
      have schedulers : (watch.perform (.spanEnds index)).schedulers =
          watch.schedulers.set index (scheduler.spanEnds watch.now watch.active).scheduler := by
        simp [perform, runScheduler, found, tell]
      refine .ends found ?_ (window?_of_set found schedulers)
      simp [perform, runScheduler, found, tell, Scheduler.spanEnds]

/-- What a timer brings about. -/
theorem effect_perform (task : Task) :
    Effect watch (watch.callsOf (.perform task)) (watch.perform task) := by
  cases task with
  | sendingEnds => exact .quiet rfl rfl
  | flushTick => exact .quiet rfl rfl
  | samplingTick index => exact .quiet rfl (window?_updateScheduler fun _ => rfl)
  | attemptDue index attempt => exact effect_attemptDue watch index attempt
  | spanEnds index => exact effect_spanEnds watch index
  | reportTick index =>
      let reported := (watch.report index).2
      have spared : (reported.updateScheduler index (Scheduler.reportTick reported.now)).window? =
          reported.window? := window?_updateScheduler fun _ => rfl
      refine (effect_report watch index).of_eq ?_ ?_
      · simp only [perform]
        split <;> rfl
      · simp only [perform]
        split <;> exact spared

/-- Every operation has one of the effects. -/
theorem effect_apply (operation : Operation) :
    Effect watch (watch.callsOf operation) (watch.apply operation) := by
  cases operation with
  | beginBurst index => exact effect_beginBurst watch index
  | endBurst index => exact effect_endBurst watch index
  | report index => exact effect_report watch index
  | start index => exact effect_start watch index
  | stop index => exact .quiet rfl (window?_updateScheduler fun _ => rfl)
  | perform task => exact effect_perform watch task
  | moveTo instant => exact .quiet rfl rfl
  | updateRecorder change => exact .quiet rfl rfl

end Effects

end Watch

end Stackwatch

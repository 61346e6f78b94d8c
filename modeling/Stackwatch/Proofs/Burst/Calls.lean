import Stackwatch.Burst.Scheduler

/-!
# Calls of a sampler

A sampler is asked to start when a burst begins and to stop when it ends. This module says when a
window makes either call, and what it does with each way in which the call can end; nothing else
touches the burst of a window.
-/

namespace Stackwatch

/-- The crash in which a call ended, if it did. -/
def Outcome.crash? {ε α : Type} : Outcome ε α → Option Crash
  | .crashed crash => some crash
  | _ => none

namespace Sampler

/-- Starting a sampler is the only call that asks its engine to start. -/
theorem starts_stop (sampler : Sampler) : sampler.stop.2.engine.starts = sampler.engine.starts := by
  cases sampler with
  | cpu sampler =>
      simp only [stop, CpuTime.stop, Prod.map]
      split <;> (try split) <;> rfl
  | heap sampler => rfl
  | block sampler =>
      simp only [stop, Contention.stop, Prod.map]
      split <;> (try split) <;> rfl

theorem starts_build (sampler : Sampler) (origin : Profile.Origin) (duration timespan : Duration) :
    (sampler.build origin duration timespan).2.engine.starts = sampler.engine.starts := by
  cases sampler <;> rfl

theorem starts_reset (sampler : Sampler) : sampler.reset.engine.starts = sampler.engine.starts := by
  cases sampler <;> rfl

end Sampler

namespace Window

/-- How the sampler's start ends that an attempt at a burst calls, if it calls it at all. -/
def startCall? (timing : Timing) (flag : Flag) (window : Window) :
    Option (Outcome SamplerError Unit) :=
  if !flag.isSet && window.hasRoom timing then some window.sampler.start.1 else none

/-- How the sampler's stop ends that the end of a burst calls, if it calls it at all. -/
def stopCall? (window : Window) : Option (Outcome SamplerError Unit) :=
  window.burst.map fun _ => window.sampler.stop.1

section Attempt

variable {timing : Timing} {now : Instant} {flag : Flag} {window : Window}

/-- The sampler is only started by somebody who finds the flag clear. -/
theorem flag_of_startCall? {ending : Outcome SamplerError Unit}
    (called : window.startCall? timing flag = some ending) :
    flag.isSet = false ∧ window.hasRoom timing = true ∧ window.sampler.start.1 = ending := by
  unfold startCall? at called
  split at called
  · next free =>
      obtain ⟨clear, room⟩ := Bool.and_eq_true_iff.mp free
      exact ⟨by simpa using clear, room, Option.some.inj called⟩
  · cases called

/-- An attempt without a call changes nothing. -/
theorem beginBurst_of_startCall?_eq_none (uncalled : window.startCall? timing flag = none) :
    window.beginBurst timing now flag =
      { result := .ok false, flag := flag, window := window } := by
  unfold startCall? at uncalled
  unfold beginBurst
  split
  · rfl
  · next clear =>
      split
      · next room => simp [clear, room] at uncalled
      · rfl

theorem beginBurst_of_returned (called : window.startCall? timing flag = some (.returned ())) :
    window.beginBurst timing now flag =
      { result := .ok true
        flag := { isSet := true }
        window :=
          { window with
            sampler := window.sampler.start.2
            burst := some now
            spans := window.spans + 1 } } := by
  obtain ⟨clear, room, outcome⟩ := flag_of_startCall? called
  simp [beginBurst, clear, room, outcome]

theorem beginBurst_of_failed {error : SamplerError}
    (called : window.startCall? timing flag = some (.failed error)) :
    window.beginBurst timing now flag =
      { result := .ok false
        flag := {}
        window := { window with sampler := window.sampler.start.2 }
        notices := [.startFailed timing.name error] } := by
  obtain ⟨clear, room, outcome⟩ := flag_of_startCall? called
  simp [beginBurst, clear, room, outcome]

theorem beginBurst_of_crashed {crash : Crash}
    (called : window.startCall? timing flag = some (.crashed crash)) :
    window.beginBurst timing now flag =
      { result := .error crash
        flag := { isSet := true }
        window := { window with sampler := window.sampler.start.2 } } := by
  obtain ⟨clear, room, outcome⟩ := flag_of_startCall? called
  simp [beginBurst, clear, room, outcome]

/-- A burst has begun exactly if the sampler was started without an error. -/
theorem beginBurst_result_eq_true_iff :
    (window.beginBurst timing now flag).result = .ok true ↔
      window.startCall? timing flag = some (.returned ()) := by
  constructor
  · intro begun
    cases called : window.startCall? timing flag with
    | none => simp [beginBurst_of_startCall?_eq_none called] at begun
    | some ending =>
        cases ending with
        | returned => rfl
        | failed error => simp [beginBurst_of_failed called] at begun
        | crashed crash => simp [beginBurst_of_crashed called] at begun
  · intro called
    rw [beginBurst_of_returned called]

/-- Where no burst is under way there is nothing to end. -/
theorem endBurst_of_stopCall?_eq_none (uncalled : window.stopCall? = none) :
    window.endBurst timing now flag = { result := .ok (), flag := flag, window := window } := by
  have closed : window.burst = none := Option.map_eq_none_iff.mp uncalled
  simp [endBurst, closed]

end Attempt

/-- The end of a burst clears the flag unless the sampler crashes, and it is the end in every
    case. -/
theorem endBurst_of_stopCall? (timing : Timing) (now : Instant) (flag : Flag) {window : Window}
    {ending : Outcome SamplerError Unit} (called : window.stopCall? = some ending) :
    window.burst ≠ none ∧
      (window.endBurst timing now flag).window.burst = none ∧
      (window.endBurst timing now flag).window.sampler = window.sampler.stop.2 ∧
      (window.endBurst timing now flag).flag =
        (match ending with
          | .crashed _ => flag
          | _ => {}) := by
  obtain ⟨begun, underWay, outcome⟩ := Option.map_eq_some_iff.mp called
  refine ⟨by simp [underWay], ?_⟩
  simp only [endBurst, underWay, outcome]
  cases ending <;> exact ⟨rfl, rfl, rfl⟩

/-- A report leaves the burst under way alone. -/
theorem report_burst (timing : Timing) (now : Instant) (origin : Profile.Origin)
    (externalProcess : Option String) (window : Window) :
    (window.report timing now origin externalProcess).window.burst = window.burst := by
  unfold report
  split
  · dsimp only
    split <;> rfl
  · rfl

/-- A report does not start the sampler. -/
theorem report_starts (timing : Timing) (now : Instant) (origin : Profile.Origin)
    (externalProcess : Option String) (window : Window) :
    (window.report timing now origin externalProcess).window.sampler.engine.starts =
      window.sampler.engine.starts := by
  unfold report
  split
  · dsimp only
    split <;> simp [renew, Sampler.starts_reset, Sampler.starts_build]
  · exact Sampler.starts_reset window.sampler

end Window

namespace Scheduler

section Attempt

variable (now : Instant) (attempt : Attempt) (flag : Flag) {scheduler : Scheduler}

@[simp] theorem attemptEnded_window :
    (scheduler.attemptEnded attempt).window = scheduler.window := by
  unfold attemptEnded
  split <;> rfl

@[simp] theorem attemptEnded_timing :
    (scheduler.attemptEnded attempt).timing = scheduler.timing := by
  unfold attemptEnded
  split <;> rfl

@[simp] theorem attemptEnded_started :
    (scheduler.attemptEnded attempt).started = scheduler.started := by
  unfold attemptEnded
  split <;> rfl

/-- An attempt of a started scheduler is an attempt at a burst. -/
theorem attemptDue_of_started (started : scheduler.started.isSet = true) :
    (scheduler.attemptDue now attempt flag).scheduler.window =
        (scheduler.window.beginBurst scheduler.timing now flag).window ∧
      (scheduler.attemptDue now attempt flag).flag =
        (scheduler.window.beginBurst scheduler.timing now flag).flag := by
  simp only [attemptDue, attemptEnded_started, attemptEnded_window, attemptEnded_timing, started,
    if_true]
  split <;> exact ⟨rfl, rfl⟩

/-- An attempt of a scheduler that was stopped is given up. -/
theorem attemptDue_of_stopped (stopped : scheduler.started.isSet = false) :
    (scheduler.attemptDue now attempt flag).scheduler.window = scheduler.window ∧
      (scheduler.attemptDue now attempt flag).flag = flag := by
  simp [attemptDue, stopped]

end Attempt

end Scheduler

end Stackwatch

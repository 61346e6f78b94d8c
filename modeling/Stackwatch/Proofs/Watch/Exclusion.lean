import Stackwatch.Proofs.Watch.Operations

/-!
# Bursts exclude each other

Any number of schedulers share one flag. The main statement follows a burst from the call that
starts its sampler to the call that stops it: in between, whatever is done to the schedulers and
however the calls of the samplers end, the flag is set, no sampler is started, and no other burst is
under way. A step can do six things to the flag and to the bursts; each of them keeps the flag set
while a burst is under way.
-/

namespace Stackwatch

namespace Watch

/-- What an operation can do to the flag and to the bursts. -/
inductive Turn (watch : Watch) : List Call → Watch → Prop where
  | quiet {after : Watch} (flag : after.active = watch.active)
      (bursts : after.burst = watch.burst) : Turn watch [] after
  | begun {after : Watch} (index : Nat) (clear : watch.active.isSet = false)
      (flag : after.active.isSet = true)
      (bursts : after.burst = Function.update watch.burst index (some watch.now)) :
      Turn watch [.start index (.returned ())] after
  | refused {after : Watch} (index : Nat) (error : SamplerError)
      (clear : watch.active.isSet = false) (flag : after.active.isSet = false)
      (bursts : after.burst = watch.burst) : Turn watch [.start index (.failed error)] after
  | startCrashed {after : Watch} (index : Nat) (crash : Crash)
      (clear : watch.active.isSet = false) (flag : after.active.isSet = true)
      (bursts : after.burst = watch.burst) : Turn watch [.start index (.crashed crash)] after
  | ended {after : Watch} (index : Nat) (ending : Outcome SamplerError Unit)
      (sane : ending.crash? = none) (underWay : watch.burst index ≠ none)
      (flag : after.active.isSet = false)
      (bursts : after.burst = Function.update watch.burst index none) :
      Turn watch [.stop index ending] after
  | stopCrashed {after : Watch} (index : Nat) (crash : Crash)
      (underWay : watch.burst index ≠ none) (flag : after.active = watch.active)
      (bursts : after.burst = Function.update watch.burst index none) :
      Turn watch [.stop index (.crashed crash)] after

theorem burst_of_window?_eq_update {watch after : Watch} {index : Nat} {window : Window}
    (windows : after.window? = Function.update watch.window? index (some window)) :
    after.burst = Function.update watch.burst index window.burst := by
  funext position
  by_cases same : position = index
  · subst same
    simp [burst, windows]
  · simp [burst, windows, same]

/-- A change of one window that spares its burst changes no burst. -/
theorem burst_of_spared {watch after : Watch} {index : Nat} {window other : Window}
    (found : watch.window? index = some window)
    (windows : after.window? = Function.update watch.window? index (some other))
    (spared : other.burst = window.burst) :
    after.burst = watch.burst := by
  rw [burst_of_window?_eq_update windows, spared, ← burst_eq_of_window? found,
    Function.update_eq_self]

/-- An attempt at a burst can be given up, be refused by the sampler, crash in it, or succeed. -/
theorem turn_of_begins {watch after : Watch} {index : Nat} {scheduler : Scheduler}
    (found : watch.schedulers[index]? = some scheduler)
    (flag : after.active =
      (scheduler.window.beginBurst scheduler.timing watch.now watch.active).flag)
    (windows : after.window? = Function.update watch.window? index
      (some (scheduler.window.beginBurst scheduler.timing watch.now watch.active).window)) :
    Turn watch (watch.startCalls index) after := by
  have window := window?_of_getElem? found
  cases called : scheduler.window.startCall? scheduler.timing watch.active with
  | none =>
      have uncalled : watch.startCalls index = [] := by
        simp [startCalls, found, called]
      rw [Window.beginBurst_of_startCall?_eq_none called] at flag windows
      rw [uncalled]
      exact .quiet flag (burst_of_spared window windows rfl)
  | some ending =>
      have calls : watch.startCalls index = [.start index ending] := by
        simp [startCalls, found, called]
      have clear := (Window.flag_of_startCall? called).1
      rw [calls]
      cases ending with
      | returned =>
          rw [Window.beginBurst_of_returned called] at flag windows
          refine .begun index clear ?_ (burst_of_window?_eq_update windows)
          rw [flag]
      | failed error =>
          rw [Window.beginBurst_of_failed called] at flag windows
          refine .refused index error clear ?_ (burst_of_spared window windows rfl)
          rw [flag]
      | crashed crash =>
          rw [Window.beginBurst_of_crashed called] at flag windows
          refine .startCrashed index crash clear ?_ (burst_of_spared window windows rfl)
          rw [flag]

/-- The burst is over in every case; whether the flag is cleared depends on the sampler. -/
theorem turn_of_ends {watch after : Watch} {index : Nat} {scheduler : Scheduler}
    (found : watch.schedulers[index]? = some scheduler)
    (flag : after.active =
      (scheduler.window.endBurst scheduler.timing watch.now watch.active).flag)
    (windows : after.window? = Function.update watch.window? index
      (some (scheduler.window.endBurst scheduler.timing watch.now watch.active).window)) :
    Turn watch (watch.stopCalls index) after := by
  have window := window?_of_getElem? found
  cases called : scheduler.window.stopCall? with
  | none =>
      have uncalled : watch.stopCalls index = [] := by
        simp [stopCalls, found, called]
      rw [Window.endBurst_of_stopCall?_eq_none called] at flag windows
      rw [uncalled]
      exact .quiet flag (burst_of_spared window windows rfl)
  | some ending =>
      have calls : watch.stopCalls index = [.stop index ending] := by
        simp [stopCalls, found, called]
      obtain ⟨underWay, closed, -, flagEq⟩ := Window.endBurst_of_stopCall?
        scheduler.timing watch.now watch.active called
      have bursts := burst_of_window?_eq_update windows
      rw [closed] at bursts
      rw [flagEq] at flag
      rw [← burst_eq_of_window? window] at underWay
      rw [calls]
      cases ending with
      | returned => exact .ended index _ rfl underWay (by rw [flag]) bursts
      | failed error => exact .ended index _ rfl underWay (by rw [flag]) bursts
      | crashed crash => exact .stopCrashed index crash underWay flag bursts

theorem Effect.turn {watch after : Watch} {calls : List Call} (effect : Effect watch calls after) :
    Turn watch calls after := by
  cases effect with
  | quiet flag windows =>
      refine .quiet flag ?_
      unfold burst
      rw [windows]
  | begins found flag windows => exact turn_of_begins found flag windows
  | ends found flag windows => exact turn_of_ends found flag windows
  | reports found flag windows =>
      exact .quiet flag
        (burst_of_spared (window?_of_getElem? found) windows (Window.report_burst ..))
  | renews found flag windows => exact .quiet flag (burst_of_spared found windows rfl)

theorem turn_apply (watch : Watch) (operation : Operation) :
    Turn watch (watch.callsOf operation) (watch.apply operation) :=
  (effect_apply watch operation).turn

/-- The start of a sampler that returned has begun a burst. -/
theorem Turn.burst_of_started {watch after : Watch} {calls : List Call}
    (turn : Turn watch calls after) {index : Nat}
    (started : .start index (.returned ()) ∈ calls) : after.burst index ≠ none := by
  cases turn with
  | quiet flag bursts => cases started
  | begun other clear flag bursts =>
      have same : index = other := by simpa using started
      simp [bursts, same]
  | refused other error clear flag bursts => simp at started
  | startCrashed other crash clear flag bursts => simp at started
  | ended other ending sane underWay flag bursts => simp at started
  | stopCrashed other crash underWay flag bursts => simp at started

/-! ### At most one burst -/

/-- At most one burst is under way, and the flag is set then. -/
structure Exclusive (watch : Watch) : Prop where
  unique : ∀ index other, watch.burst index ≠ none → watch.burst other ≠ none → index = other
  flagged : ∀ index, watch.burst index ≠ none → watch.active.isSet = true

namespace Exclusive

variable {watch after : Watch} {calls : List Call}

theorem of_idle (idle : ∀ index, watch.burst index = none) : Exclusive watch where
  unique := fun index _ underWay _ => absurd (idle index) underWay
  flagged := fun index underWay => absurd (idle index) underWay

/-- Where the flag is clear no burst is under way. -/
theorem burst_eq_none (exclusive : Exclusive watch) (clear : watch.active.isSet = false)
    (index : Nat) : watch.burst index = none := by
  by_contra underWay
  rw [exclusive.flagged index underWay] at clear
  cases clear

/-- After the end of a burst none is under way. -/
theorem burst_of_ended (exclusive : Exclusive watch) {index : Nat}
    (underWay : watch.burst index ≠ none)
    (bursts : after.burst = Function.update watch.burst index none) (position : Nat) :
    after.burst position = none := by
  by_cases same : position = index
  · rw [bursts, same, Function.update_self]
  · rw [bursts, Function.update_of_ne same]
    by_contra other
    exact same (exclusive.unique position index other underWay)

theorem turn (exclusive : Exclusive watch) (turn : Turn watch calls after) : Exclusive after := by
  cases turn with
  | quiet flag bursts => exact ⟨bursts ▸ exclusive.unique, flag ▸ bursts ▸ exclusive.flagged⟩
  | begun index clear flag bursts =>
      have only (position : Nat) (underWay : after.burst position ≠ none) : position = index := by
        by_contra different
        rw [bursts, Function.update_of_ne different] at underWay
        exact underWay (exclusive.burst_eq_none clear position)
      exact ⟨fun position other left right => (only position left).trans (only other right).symm,
        fun _ _ => flag⟩
  | refused index error clear flag bursts =>
      exact of_idle fun position => bursts ▸ exclusive.burst_eq_none clear position
  | startCrashed index crash clear flag bursts =>
      exact of_idle fun position => bursts ▸ exclusive.burst_eq_none clear position
  | ended index ending sane underWay flag bursts =>
      exact of_idle (exclusive.burst_of_ended underWay bursts)
  | stopCrashed index crash underWay flag bursts =>
      exact of_idle (exclusive.burst_of_ended underWay bursts)

theorem run (exclusive : Exclusive watch) (operations : List Operation) :
    Exclusive (watch.run operations) := by
  induction operations generalizing watch with
  | nil => exact exclusive
  | cons operation rest inductionHypothesis =>
      exact inductionHypothesis (exclusive.turn (turn_apply watch operation))

/-- A burst lasts until its sampler is stopped, and no sampler is started before that. -/
theorem turn_underWay (exclusive : Exclusive watch) (turn : Turn watch calls after) {index : Nat}
    (underWay : watch.burst index ≠ none) (unended : ∀ ending, .stop index ending ∉ calls) :
    after.burst index ≠ none ∧ ∀ other ending, .start other ending ∉ calls := by
  have set := exclusive.flagged index underWay
  -- A start needs a clear flag, and the only burst that can end is this one.
  cases turn with
  | quiet flag bursts => exact ⟨bursts ▸ underWay, by simp⟩
  | begun other clear flag bursts => simp [set] at clear
  | refused other error clear flag bursts => simp [set] at clear
  | startCrashed other crash clear flag bursts => simp [set] at clear
  | ended other ending sane otherUnderWay flag bursts =>
      have same := exclusive.unique index other underWay otherUnderWay
      exact absurd (by simp [same]) (unended ending)
  | stopCrashed other crash otherUnderWay flag bursts =>
      have same := exclusive.unique index other underWay otherUnderWay
      exact absurd (by simp [same]) (unended (.crashed crash))

theorem run_underWay (exclusive : Exclusive watch) {index : Nat}
    (underWay : watch.burst index ≠ none) (operations : List Operation)
    (unended : ∀ ending, .stop index ending ∉ watch.calls operations) :
    (watch.run operations).burst index ≠ none ∧
      ∀ other ending, .start other ending ∉ watch.calls operations := by
  induction operations generalizing watch with
  | nil => exact ⟨underWay, by simp [Watch.calls]⟩
  | cons operation rest inductionHypothesis =>
      simp only [Watch.calls, List.mem_append, not_or] at unended ⊢
      have turn := turn_apply watch operation
      obtain ⟨still, unstarted⟩ :=
        exclusive.turn_underWay turn underWay fun ending => (unended ending).1
      obtain ⟨lasting, unstartedLater⟩ :=
        inductionHypothesis (exclusive.turn turn) still fun ending => (unended ending).2
      exact ⟨lasting, fun other ending => ⟨unstarted other ending, unstartedLater other ending⟩⟩

end Exclusive

/-! ### What the engines see -/

theorem starts_of_spared {watch after : Watch} {index : Nat} {window other : Window}
    (found : watch.window? index = some window)
    (windows : after.window? = Function.update watch.window? index (some other))
    (spared : other.sampler.engine.starts = window.sampler.engine.starts) :
    after.starts = watch.starts := by
  funext position
  by_cases same : position = index
  · subst same
    simp [starts, windows, found, spared]
  · simp [starts, windows, same]

/-- An engine is asked to begin a capture only by a call that starts its sampler. -/
theorem Effect.starts_eq {watch after : Watch} {calls : List Call}
    (effect : Effect watch calls after) {index : Nat}
    (unstarted : ∀ ending, .start index ending ∉ calls) :
    after.starts index = watch.starts index := by
  cases effect with
  | quiet flag windows => simp [starts, windows]
  | @begins after other scheduler found flag windows =>
      by_cases same : index = other
      · subst same
        cases called : scheduler.window.startCall? scheduler.timing watch.active with
        | none =>
            rw [Window.beginBurst_of_startCall?_eq_none called] at windows
            rw [starts_of_spared (window?_of_getElem? found) windows rfl]
        | some ending =>
            exact absurd (by simp [startCalls, found, called]) (unstarted ending)
      · simp [starts, windows, same]
  | @ends after other scheduler found flag windows =>
      refine congrFun (starts_of_spared (window?_of_getElem? found) windows ?_) index
      cases called : scheduler.window.stopCall? with
      | none => rw [Window.endBurst_of_stopCall?_eq_none called]
      | some ending =>
          obtain ⟨-, -, stopped, -⟩ := Window.endBurst_of_stopCall? scheduler.timing watch.now
            watch.active called
          rw [stopped]
          exact Sampler.starts_stop _
  | reports found flag windows =>
      exact congrFun
        (starts_of_spared (window?_of_getElem? found) windows (Window.report_starts ..)) index
  | renews found flag windows =>
      exact congrFun (starts_of_spared found windows (Sampler.starts_reset _)) index

theorem run_starts_eq (watch : Watch) (operations : List Operation) {index : Nat}
    (unstarted : ∀ ending, .start index ending ∉ watch.calls operations) :
    (watch.run operations).starts index = watch.starts index := by
  induction operations generalizing watch with
  | nil => rfl
  | cons operation rest inductionHypothesis =>
      simp only [calls, List.mem_append, not_or] at unstarted
      have later := inductionHypothesis (watch.apply operation) fun ending => (unstarted ending).2
      exact later.trans
        ((effect_apply watch operation).starts_eq fun ending => (unstarted ending).1)

/-- Ending a burst where none is under way changes nothing at all. -/
theorem endBurst_of_burst_eq_none {watch : Watch} {index : Nat}
    (closed : watch.burst index = none) : watch.endBurst index = (.ok (), watch) := by
  cases found : watch.schedulers[index]? with
  | none => simp [endBurst, found]
  | some scheduler =>
      rw [burst_eq_of_window? (window?_of_getElem? found)] at closed
      have uncalled : scheduler.window.stopCall? = none := Option.map_eq_none_iff.mpr closed
      have same : watch.schedulers.set index scheduler = watch.schedulers := by
        obtain ⟨inRange, rfl⟩ := List.getElem?_eq_some_iff.mp found
        exact List.set_getElem_self inRange
      simp [endBurst, found, Window.endBurst_of_stopCall?_eq_none uncalled, same, tell]

/-- A burst has begun by hand exactly if the sampler was started without an error. -/
theorem beginBurst_eq_true_iff (watch : Watch) (index : Nat) :
    (watch.beginBurst index).1 = .ok true ↔
      .start index (.returned ()) ∈ watch.callsOf (.beginBurst index) := by
  cases found : watch.schedulers[index]? with
  | none => simp [beginBurst, callsOf, startCalls, found]
  | some scheduler =>
      simp only [beginBurst, found, Window.beginBurst_result_eq_true_iff, callsOf, startCalls]
      cases called : scheduler.window.startCall? scheduler.timing watch.active with
      | none => simp [called]
      | some ending => simp [called, eq_comm]

/-! ### From start to stop -/

/-- A scheduler of processor time; `answer` is what becomes of the attempts to start its engine. -/
def sampleScheduler (answer : Outcome EngineError Unit) : Scheduler :=
  .create
    (.cpu
      { engine :=
          { startAnswer := fun _ => answer
            writeAnswer := fun _ => .failed .notRunning }
        filter := {} })
    .cpu (fun _ => 0) 0

/-- Two schedulers that share a flag. -/
def samplePair (answer : Outcome EngineError Unit) : Watch :=
  { clock := { startedAt := 0 }
    recorder := .create .discarding 1 0
    schedulers := [sampleScheduler answer, sampleScheduler (.returned ())]
    process := "observed" }

theorem samplePair_idle (answer : Outcome EngineError Unit) (index : Nat) :
    (samplePair answer).burst index = none := by
  match index with
  | 0 => rfl
  | 1 => rfl
  | _ + 2 => rfl

/-- From the start of its sampler until the sampler is stopped, a burst is alone: the flag is set,
    no other burst is under way, no sampler is started and no engine is asked to begin a capture.
    Who ends a burst that is not under way changes nothing. -/
theorem bursts_exclude_each_other (watch : Watch) (idle : ∀ index, watch.burst index = none)
    (operations : List Operation) :
    let present := watch.run operations
    (∀ index other, present.burst index ≠ none → present.burst other ≠ none → index = other) ∧
      (∀ index, present.burst index ≠ none → present.active.isSet = true) ∧
      (∀ index, present.burst index = none → present.endBurst index = (.ok (), present)) ∧
      (∀ index, (present.beginBurst index).1 = .ok true ↔
        .start index (.returned ()) ∈ present.callsOf (.beginBurst index)) ∧
      ∀ operation index later,
        .start index (.returned ()) ∈ present.callsOf operation →
        (∀ ending, .stop index ending ∉ (present.apply operation).calls later) →
        (∀ other ending, .start other ending ∉ (present.apply operation).calls later) ∧
          ((present.apply operation).run later).burst index ≠ none ∧
          ((present.apply operation).run later).active.isSet = true ∧
          ((present.apply operation).run later).starts = (present.apply operation).starts := by
  intro present
  have exclusive : Exclusive present := (Exclusive.of_idle idle).run operations
  refine ⟨exclusive.unique, exclusive.flagged, fun index => endBurst_of_burst_eq_none,
    beginBurst_eq_true_iff present, ?_⟩
  intro operation index later started unended
  have turn := turn_apply present operation
  have begun : (present.apply operation).burst index ≠ none := turn.burst_of_started started
  have next := exclusive.turn turn
  obtain ⟨underWay, unstarted⟩ := next.run_underWay begun later unended
  refine ⟨unstarted, underWay, (next.run later).flagged index underWay, ?_⟩
  funext other
  exact run_starts_eq (present.apply operation) later (unstarted other)

/-- While the first of two schedulers samples, the second one is refused. -/
theorem bursts_exclude_each_other_pair :
    let present := samplePair (.returned ())
    let sampling := present.apply (.beginBurst 0)
    let later : List Operation := [.beginBurst 1, .report 0, .start 1]
    (∀ index, present.burst index = none) ∧
      .start 0 (.returned ()) ∈ present.callsOf (.beginBurst 0) ∧
      (∀ ending, .stop 0 ending ∉ sampling.calls later) ∧
      (∀ other ending, .start other ending ∉ sampling.calls later) ∧
      (sampling.run later).burst 0 ≠ none ∧
      (sampling.run later).active.isSet = true ∧
      (sampling.run later).starts = sampling.starts := by
  intro present sampling later
  have started : .start 0 (.returned ()) ∈ present.callsOf (.beginBurst 0) :=
    List.mem_singleton.mpr rfl
  have unended : ∀ ending, .stop 0 ending ∉ sampling.calls later := by
    intro ending ended
    cases (show Call.stop 0 ending ∈ [] from ended)
  obtain ⟨-, -, -, -, alone⟩ :=
    bursts_exclude_each_other present (samplePair_idle (.returned ())) []
  exact ⟨samplePair_idle (.returned ()), started, unended,
    alone (.beginBurst 0) 0 later started unended⟩

end Watch

end Stackwatch

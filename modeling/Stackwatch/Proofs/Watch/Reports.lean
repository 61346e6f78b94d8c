import Stackwatch.Proofs.Burst.Gathering
import Stackwatch.Proofs.Watch.OneScheduler
import Stackwatch.Snapshot.Encode

/-!
# What reports hand over

Bursts and reports of a scheduler come in any order, and a report may come in the middle of a burst.
The main statement says that a profile has the tree of exactly the samples that were folded since
the window was opened: none is lost, none counts twice, and none is moved to another report. All
that it takes is that no burst ends in the instant in which it began.
-/

namespace Stackwatch

namespace Watch

/-- What calls fold in the tree of a scheduler's sampler. -/
def foldedByCalls (watch : Watch) (index : Nat) (calls : List Call) : List Measured :=
  calls.flatMap fun
    | .start _ _ => []
    | .stop other ending =>
        if other = index then
          ((watch.window? index).map fun window =>
            foldedBy window.sampler.pending ending).getD []
        else []

/-- Whether an operation opens a new window of a scheduler. -/
def opensWindow (watch : Watch) (index : Nat) : Operation → Bool
  | .report other => other == index
  | .perform (.reportTick other) => other == index
  | .start other => other == index && !watch.isStarted index
  | _ => false

/-- What was folded in the window of a scheduler when an operation is over, given what was folded in
    it before. -/
def foldedAfter (watch : Watch) (index : Nat) (operation : Operation) (folded : List Measured) :
    List Measured :=
  if watch.opensWindow index operation then []
  else folded ++ watch.foldedByCalls index (watch.callsOf operation)

/-- What was folded in the window of a scheduler when some operations are over. -/
def foldedSince (index : Nat) : Watch → List Measured → List Operation → List Measured
  | _, folded, [] => folded
  | watch, folded, operation :: rest =>
      foldedSince index (watch.apply operation) (watch.foldedAfter index operation folded) rest

/-- Whether an operation ends the burst of a scheduler, if one is under way. -/
def Operation.endsBurst (index : Nat) : Operation → Bool
  | .endBurst other => other == index
  | .perform (.spanEnds other) => other == index
  | _ => false

/-- No burst of a scheduler ends in the instant in which it began. -/
def BurstsLast (index : Nat) : Watch → List Operation → Prop
  | _, [] => True
  | watch, operation :: rest =>
      (operation.endsBurst index = true → ∀ begun ∈ watch.burst index, begun < watch.now) ∧
        (watch.apply operation).BurstsLast index rest

/-- Whether bursts last can be found out by carrying the operations out. -/
instance decidableBurstsLast (index : Nat) :
    (watch : Watch) → (operations : List Operation) →
      Decidable (watch.BurstsLast index operations)
  | _, [] => .isTrue trivial
  | watch, operation :: rest =>
      have := decidableBurstsLast index (watch.apply operation) rest
      inferInstanceAs (Decidable
        ((operation.endsBurst index = true → ∀ begun ∈ watch.burst index, begun < watch.now) ∧
          (watch.apply operation).BurstsLast index rest))

/-- The profile that a report hands over to the recorder. -/
def handedOver? (watch : Watch) (index : Nat) : Option Profile :=
  watch.schedulers[index]?.bind fun scheduler =>
    (scheduler.window.report scheduler.timing watch.now watch.origin
      watch.externalProcess).profile?

/-- The window of a scheduler has gathered exactly some samples. -/
def Gathered (watch : Watch) (index : Nat) (filter : FrameFilter) (folded : List Measured) :
    Prop :=
  ∃ scheduler, watch.schedulers[index]? = some scheduler ∧
    scheduler.window.Gathered filter folded

section

variable {watch : Watch} {index : Nat} {filter : FrameFilter} {folded : List Measured}
  {scheduler : Scheduler}

theorem foldedByCalls_startCalls (other : Nat) :
    watch.foldedByCalls index (watch.startCalls other) = [] := by
  unfold startCalls
  cases watch.schedulers[other]?.bind fun scheduler =>
    scheduler.window.startCall? scheduler.timing watch.active <;> rfl

/-- The end of a scheduler's own burst folds what its sampler has to fold, that of another's
    nothing. -/
theorem foldedByCalls_stopCalls (found : watch.schedulers[index]? = some scheduler)
    (other : Nat) :
    watch.foldedByCalls index (watch.stopCalls other) =
      if other = index then scheduler.window.foldedAtEnd else [] := by
  split
  · next same =>
      subst same
      simp only [stopCalls, found, Option.bind_some, Window.foldedAtEnd]
      cases scheduler.window.stopCall? with
      | none => rfl
      | some ending => simp [foldedByCalls, window?_of_getElem? found]
  · next different =>
      unfold stopCalls
      cases watch.schedulers[other]?.bind fun scheduler => scheduler.window.stopCall? with
      | none => rfl
      | some ending => simp [foldedByCalls, different]

theorem isStarted_eq (found : watch.schedulers[index]? = some scheduler) :
    watch.isStarted index = scheduler.started.isSet := by
  simp [isStarted, found]

theorem foldedAfter_of_opens {operation : Operation}
    (opens : watch.opensWindow index operation = true) :
    watch.foldedAfter index operation folded = [] := by
  rw [foldedAfter, if_pos opens]

/-- In an open window nothing is dropped. -/
theorem foldedAfter_of_not_opens {operation : Operation}
    (stays : watch.opensWindow index operation = false) :
    watch.foldedAfter index operation folded =
      folded ++ watch.foldedByCalls index (watch.callsOf operation) := by
  rw [foldedAfter, stays]
  rfl

theorem foldedAfter_of_silent {operation : Operation}
    (stays : watch.opensWindow index operation = false)
    (silent : watch.foldedByCalls index (watch.callsOf operation) = []) :
    watch.foldedAfter index operation folded = folded := by
  rw [foldedAfter_of_not_opens stays, silent, List.append_nil]

end

section

variable {watch : Watch} {index : Nat} {filter : FrameFilter} {folded : List Measured}
  {scheduler : Scheduler} (found : watch.schedulers[index]? = some scheduler)
  (gathered : scheduler.window.Gathered filter folded)

include gathered

/-- An attempt at a burst keeps what was gathered. -/
theorem gathered_attemptDue (now : Instant) (attempt : Scheduler.Attempt) (flag : Flag) :
    (scheduler.attemptDue now attempt flag).scheduler.window.Gathered filter folded := by
  cases started : scheduler.started.isSet with
  | false =>
      rw [(Scheduler.attemptDue_of_stopped now attempt flag started).1]
      exact gathered
  | true =>
      rw [(Scheduler.attemptDue_of_started now attempt flag started).1]
      exact gathered.beginBurst

/-- A report leaves nothing in the window, if it is the scheduler's own. -/
theorem gathered_report {other : Nat} :
    (watch.schedulerAfter index scheduler (.report other)).window.Gathered filter
      (watch.foldedAfter index (.report other) folded) := by
  by_cases same : other = index
  · rw [foldedAfter_of_opens (by simp [opensWindow, same]), schedulerAfter, if_pos same]
    exact gathered.report watch.origin watch.externalProcess
  · rw [foldedAfter_of_silent (by simp [opensWindow, same]) rfl, schedulerAfter, if_neg same]
    exact gathered

include found

/-- The end of a burst adds what it folds, if it is the scheduler's own. -/
theorem gathered_endBurst {other : Nat}
    (lasts : other = index → ∀ begun ∈ watch.burst index, begun < watch.now) :
    (watch.schedulerAfter index scheduler (.endBurst other)).window.Gathered filter
      (watch.foldedAfter index (.endBurst other) folded) := by
  have folds : watch.foldedAfter index (.endBurst other) folded =
      folded ++ watch.foldedByCalls index (watch.stopCalls other) :=
    foldedAfter_of_not_opens rfl
  rw [folds, foldedByCalls_stopCalls found, schedulerAfter]
  rw [burst_eq_of_window? (window?_of_getElem? found)] at lasts
  split
  · next same => exact gathered.endBurst (lasts same)
  · rw [List.append_nil]
    exact gathered

/-- What a task makes of a window has gathered what was folded in it. -/
theorem gathered_perform {task : Task}
    (lasts : Operation.endsBurst index (.perform task) = true →
      ∀ begun ∈ watch.burst index, begun < watch.now) :
    (watch.schedulerAfter index scheduler (.perform task)).window.Gathered filter
      (watch.foldedAfter index (.perform task) folded) := by
  cases task with
  | sendingEnds =>
      rw [foldedAfter_of_silent rfl rfl]
      exact gathered
  | flushTick =>
      rw [foldedAfter_of_silent rfl rfl]
      exact gathered
  | samplingTick other =>
      rw [foldedAfter_of_silent rfl rfl, schedulerAfter]
      split <;> exact gathered
  | attemptDue other attempt =>
      have silent :
          watch.foldedByCalls index (watch.callsOf (.perform (.attemptDue other attempt))) =
            [] := by
        rw [callsOf]
        split
        · exact foldedByCalls_startCalls other
        · rfl
      rw [foldedAfter_of_silent rfl silent, schedulerAfter]
      split
      · exact gathered_attemptDue gathered watch.now attempt watch.active
      · exact gathered
  | spanEnds other =>
      have windowEq : (watch.schedulerAfter index scheduler (.perform (.spanEnds other))).window =
          (watch.schedulerAfter index scheduler (.endBurst other)).window := by
        simp only [schedulerAfter]
        split <;> rfl
      rw [windowEq]
      exact gathered_endBurst found gathered fun same => lasts (beq_iff_eq.mpr same)
  | reportTick other =>
      have windowEq : (watch.schedulerAfter index scheduler (.perform (.reportTick other))).window =
          (watch.schedulerAfter index scheduler (.report other)).window := by
        simp only [schedulerAfter]
        split <;> rfl
      rw [windowEq]
      exact gathered_report gathered

/-- What an operation makes of a window has gathered what was folded in it. -/
theorem gathered_schedulerAfter {operation : Operation}
    (lasts : operation.endsBurst index = true →
      ∀ begun ∈ watch.burst index, begun < watch.now) :
    (watch.schedulerAfter index scheduler operation).window.Gathered filter
      (watch.foldedAfter index operation folded) := by
  cases operation with
  | beginBurst other =>
      rw [foldedAfter_of_silent rfl (foldedByCalls_startCalls other), schedulerAfter]
      split
      · exact gathered.beginBurst
      · exact gathered
  | endBurst other =>
      exact gathered_endBurst found gathered fun same => lasts (beq_iff_eq.mpr same)
  | report other => exact gathered_report gathered
  | start other =>
      by_cases same : other = index
      · subst same
        rw [schedulerAfter, if_pos rfl, Scheduler.start]
        split
        · next started =>
            rw [foldedAfter_of_silent (by simp [opensWindow, isStarted_eq found, started]) rfl]
            exact gathered
        · next stopped =>
            rw [foldedAfter_of_opens (by simp [opensWindow, isStarted_eq found, stopped])]
            exact gathered.renew
      · rw [foldedAfter_of_silent (by simp [opensWindow, same]) rfl, schedulerAfter, if_neg same]
        exact gathered
  | stop other =>
      rw [foldedAfter_of_silent rfl rfl, schedulerAfter]
      split <;> exact gathered
  | perform task => exact gathered_perform found gathered lasts
  | moveTo instant =>
      rw [foldedAfter_of_silent rfl rfl]
      exact gathered
  | updateRecorder change =>
      rw [foldedAfter_of_silent rfl rfl]
      exact gathered

end

namespace Gathered

variable {watch : Watch} {index : Nat} {filter : FrameFilter} {folded : List Measured}

theorem run {operations : List Operation} (gathered : watch.Gathered index filter folded)
    (lasting : watch.BurstsLast index operations) :
    (watch.run operations).Gathered index filter
      (foldedSince index watch folded operations) := by
  induction operations generalizing watch folded with
  | nil => exact gathered
  | cons operation rest inductionHypothesis =>
      obtain ⟨scheduler, found, ofWindow⟩ := gathered
      obtain ⟨lasts, restLasts⟩ := lasting
      exact inductionHypothesis ⟨_, getElem?_apply found operation,
        gathered_schedulerAfter found ofWindow lasts⟩ restLasts

end Gathered

theorem recorder_report (watch : Watch) (index : Nat) :
    (watch.report index).2.recorder =
      match watch.handedOver? index with
      | some profile => watch.recorder.record profile.toJson
      | none => watch.recorder := by
  unfold report handedOver?
  cases watch.schedulers[index]? <;> rfl

/-- Whatever is done to the schedulers of a watch, a report of a sampler that gathers samples hands
    over the tree of exactly the samples that were folded since its window was opened, and it hands
    over nothing exactly if none of them counts. What it hands over is what the recorder takes. -/
theorem reports_hand_over_what_was_folded (watch : Watch) (index : Nat) (sampler : Sampler)
    (timing : Timing) (offsets : Nat → Duration) (created : Instant)
    (found : watch.schedulers[index]? = some (.create sampler timing offsets created))
    (gathers : sampler.gathers = true) (bare : sampler.tree = .root) (operations : List Operation)
    (lasting : watch.BurstsLast index operations) :
    let present := watch.run operations
    let folded := foldedSince index watch [] operations
    (present.handedOver? index = none ↔
      ∀ measured ∈ folded, sampler.filter.records measured.sample = false) ∧
    (∀ profile, present.handedOver? index = some profile →
      profile.roots = (sampler.filter.foldAll folded .root).children) ∧
    ∀ operation, operation = .report index ∨ operation = .perform (.reportTick index) →
      (present.apply operation).recorder =
        match present.handedOver? index with
        | some profile => present.recorder.record profile.toJson
        | none => present.recorder := by
  intro present folded
  have fresh : (Scheduler.create sampler timing offsets created).window.Gathered
      sampler.filter [] := ⟨gathers, rfl, bare, fun _ => rfl⟩
  have gatheredThen : present.Gathered index sampler.filter folded :=
    Gathered.run ⟨_, found, fresh⟩ lasting
  obtain ⟨scheduler, foundThen, gathered⟩ := gatheredThen
  have handsOver : present.handedOver? index =
      (scheduler.window.report scheduler.timing present.now present.origin
        present.externalProcess).profile? := by
    rw [handedOver?, foundThen]
    rfl
  obtain ⟨nothing, something⟩ := gathered.profile?_report scheduler.timing present.now
    present.origin present.externalProcess
  rw [← handsOver] at nothing something
  refine ⟨nothing, something, ?_⟩
  rintro operation (rfl | rfl)
  · exact recorder_report present index
  · exact (recorder_reportTick present index).trans (recorder_report present index)

/-- A snapshot with one sample, taken in the function `main`. -/
def mainSnapshot : Snapshot.Encoded.Profile :=
  { sampleTypes := [{ kind := 1, unit := 2 }, { kind := 3, unit := 4 }]
    samples := [{ locationIds := [1], values := [1, 10000000] }]
    locations := [{ id := 1, address := 0, lines := [{ functionId := 1, line := 7 }] }]
    functions := [{ id := 1, name := 5, systemName := 5, fileName := 6 }]
    strings := ["", "samples", "count", "cpu", "nanoseconds", "main", "main.rs"]
    timeNanos := 0
    durationNanos := 0 }

/-- One scheduler of processor time, whose bursts find one sample each. -/
def mainWatch : Watch :=
  { clock := { startedAt := 0 }
    recorder := .create .discarding 1 0
    schedulers := [.create
      (.cpu
        { engine :=
            { startAnswer := fun _ => .returned ()
              writeAnswer := fun _ => .returned mainSnapshot.encode }
          filter := {} })
      .cpu (fun _ => 0) 0]
    process := "observed" }

/-- A burst with a report in its middle. -/
def straddlingBurst : List Operation :=
  [.beginBurst 0, .moveTo (Duration.ofMillis 1), .report 0, .moveTo (Duration.ofMillis 2),
    .endBurst 0]

/-- The report in the middle hands over nothing; the sample of the burst goes to the next one. -/
theorem reports_hand_over_what_was_folded_main :
    let folded := foldedSince 0 mainWatch [] straddlingBurst
    mainWatch.BurstsLast 0 straddlingBurst ∧
      (mainWatch.run (straddlingBurst.take 2)).handedOver? 0 = none ∧
      folded.map (fun measured => measured.sample.values) = [[1, 10000000]] ∧
      ∃ profile, (mainWatch.run straddlingBurst).handedOver? 0 = some profile ∧
        profile.roots = (FrameFilter.foldAll {} folded .root).children := by
  intro folded
  have lasting : mainWatch.BurstsLast 0 straddlingBurst := by decide
  have lastingBefore : mainWatch.BurstsLast 0 (straddlingBurst.take 2) := by decide
  obtain ⟨nothingBefore, -⟩ := reports_hand_over_what_was_folded mainWatch 0 _ .cpu (fun _ => 0) 0
    rfl rfl rfl (straddlingBurst.take 2) lastingBefore
  obtain ⟨nothing, something, -⟩ := reports_hand_over_what_was_folded mainWatch 0 _ .cpu
    (fun _ => 0) 0 rfl rfl rfl straddlingBurst lasting
  have counted : ¬ ∀ measured ∈ folded, FrameFilter.records {} measured.sample = false := by
    decide +kernel
  refine ⟨lasting, nothingBefore.mpr (by decide +kernel), by decide +kernel, ?_⟩
  obtain ⟨profile, handed⟩ := Option.ne_none_iff_exists'.mp (mt nothing.mp counted)
  exact ⟨profile, handed, something profile handed⟩

end Watch

end Stackwatch

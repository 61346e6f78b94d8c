import Stackwatch.Proofs.Sampler.Baselines
import Stackwatch.Proofs.Sampler.Lifecycle
import Stackwatch.Proofs.Watch.Reports

/-!
# Reports open clean windows

A report that does not crash ends in one of four ways: nothing was sampled, the profile could not be
built, it has no call paths, or it is recorded. The main statement says that they all leave the same
window behind, with nothing of the last one in it, and that the recorder is touched in the last case
only. What does not belong to the window stays as it is, the burst under way and the baselines of
the sampler above all.
-/

namespace Stackwatch

/-- The profile under the name by which its process is known elsewhere, if it has one. -/
def Profile.inProcess (externalProcess : Option String) (profile : Profile) : Profile :=
  externalProcess.elim profile profile.withProcess

namespace Sampler

variable (sampler : Sampler) (origin : Profile.Origin) (duration timespan : Duration)

/-- A profile says where it comes from. -/
theorem origin_of_build {profile : Profile}
    (returned : (sampler.build origin duration timespan).1 = .returned profile) :
    profile.origin = origin := by
  cases sampler with
  | cpu sampler =>
      cases returned
      rfl
  | block sampler =>
      cases returned
      rfl
  | heap sampler =>
      simp only [build, LiveHeap.build, Prod.map] at returned
      cases answer : sampler.engine.takeSnapshot.1 with
      | crashed crash => simp [answer, Outcome.andThen] at returned
      | failed error => simp [answer, Outcome.andThen] at returned
      | returned snapshot =>
          cases tree : LiveHeap.treeOf sampler.filter snapshot with
          | error error =>
              simp [answer, Outcome.andThen, tree, bind, Except.bind, Outcome.ofExcept] at returned
          | ok found =>
              simp [answer, Outcome.andThen, tree, bind, Except.bind, Outcome.ofExcept] at returned
              rw [← returned]

end Sampler

namespace Window

/-- Whether a report builds a profile. -/
def owes (timing : Timing) (window : Window) : Bool :=
  timing.reportOnly || window.sampled != 0

/-- What a report builds. -/
def built (now : Instant) (origin : Profile.Origin) (window : Window) :
    Outcome SamplerError Profile × Sampler :=
  window.sampler.build origin window.sampled (now - window.openedAt)

/-- A new window that was opened now, in place of another. -/
structure Renewed (now : Instant) (window after : Window) : Prop where
  openedAt : after.openedAt = now
  sampled : after.sampled = 0
  spans : after.spans = 0
  tree : after.sampler.tree = .root
  burst : after.burst = window.burst
  baselines : after.sampler.baselines = window.sampler.baselines
  running : after.sampler.running = window.sampler.running
  /-- Of a sampler that gathers samples nothing but the tree is lost. -/
  gathering : window.sampler.gathers = true → after.sampler = window.sampler.reset

/-- The ways in which a report can end that does not crash. -/
inductive Reported (timing : Timing) (now : Instant) (origin : Profile.Origin)
    (externalProcess : Option String) (window : Window) : Report → Prop where
  | nothing (idle : window.owes timing = false) :
      Reported timing now origin externalProcess window
        { result := .ok (), window := window.renew now }
  | failed {error : SamplerError} {sampler : Sampler} (due : window.owes timing = true)
      (ending : window.built now origin = (.failed error, sampler)) :
      Reported timing now origin externalProcess window
        { result := .ok ()
          window := { window with sampler := sampler }.renew now
          notices := [.buildFailed timing.name error] }
  | discarded {profile : Profile} {sampler : Sampler} (due : window.owes timing = true)
      (ending : window.built now origin = (.returned profile, sampler))
      (bare : profile.roots = []) :
      Reported timing now origin externalProcess window
        { result := .ok (), window := { window with sampler := sampler }.renew now }
  | recorded {profile : Profile} {sampler : Sampler} (due : window.owes timing = true)
      (ending : window.built now origin = (.returned profile, sampler))
      (rooted : profile.roots ≠ []) :
      Reported timing now origin externalProcess window
        { result := .ok ()
          window := { window with sampler := sampler }.renew now
          profile? := some (profile.inProcess externalProcess) }

section

variable {timing : Timing} {now : Instant} {origin : Profile.Origin}
  {externalProcess : Option String} {window : Window} {report : Report}

theorem recordable_of_rooted {profile : Profile} (rooted : profile.roots ≠ []) :
    recordable externalProcess profile = some (profile.inProcess externalProcess) := by
  unfold recordable Profile.inProcess
  cases roots : profile.roots with
  | nil => exact absurd roots rooted
  | cons first rest => cases externalProcess <;> rfl

theorem reported_report (uncrashed : window.owes timing = true → ∀ crash,
    (window.built now origin).1 ≠ .crashed crash) :
    window.Reported timing now origin externalProcess
      (window.report timing now origin externalProcess) := by
  unfold report
  cases due : window.owes timing with
  | false =>
      have idle : (timing.reportOnly || window.sampled != 0) = false := due
      rw [idle]
      exact .nothing due
  | true =>
      have owing : (timing.reportOnly || window.sampled != 0) = true := due
      have building : window.sampler.build origin window.sampled (now - window.openedAt) =
          window.built now origin := rfl
      rw [if_pos owing, building]
      have uncrashedThen := uncrashed due
      generalize ending : window.built now origin = result at uncrashedThen ⊢
      obtain ⟨outcome, sampler⟩ := result
      cases outcome with
      | crashed crash => exact absurd rfl (uncrashedThen crash)
      | failed error => exact .failed due ending
      | returned profile =>
          by_cases bare : profile.roots = []
          · simp only [recordable_eq_none_iff.mpr bare]
            exact .discarded due ending bare
          · simp only [recordable_of_rooted bare]
            exact .recorded due ending bare

/-- To open a new window is to forget what was sampled in the last one. -/
theorem renewed_renew (now : Instant) (window : Window) :
    window.Renewed now (window.renew now) where
  openedAt := rfl
  sampled := rfl
  spans := rfl
  tree := window.sampler.tree_reset
  burst := rfl
  baselines := window.sampler.reset_keeps.1
  running := window.sampler.reset_keeps.2
  gathering := fun _ => rfl

theorem renewed_of_built {outcome : Outcome SamplerError Profile} {sampler : Sampler}
    (ending : window.built now origin = (outcome, sampler)) :
    window.Renewed now ({ window with sampler := sampler }.renew now) := by
  obtain ⟨baselines, running, gathering⟩ :=
    window.sampler.build_keeps origin window.sampled (now - window.openedAt)
  rw [show window.sampler.build _ _ _ = _ from ending] at baselines running gathering
  have renewed := renewed_renew now { window with sampler := sampler }
  exact
    { renewed with
      baselines := renewed.baselines.trans baselines
      running := renewed.running.trans running
      gathering := fun gathers => congrArg Sampler.reset (gathering gathers) }

/-- All ways in which a report can end come to the same window. -/
theorem Reported.renewed (reported : window.Reported timing now origin externalProcess report) :
    window.Renewed now report.window := by
  cases reported with
  | nothing => exact renewed_renew now window
  | failed due ending => exact renewed_of_built ending
  | discarded due ending => exact renewed_of_built ending
  | recorded due ending => exact renewed_of_built ending

/-- A profile that has call paths is handed over. -/
theorem Reported.profile?_of_rooted
    (reported : window.Reported timing now origin externalProcess report) {profile : Profile}
    (due : window.owes timing = true) (returned : (window.built now origin).1 = .returned profile)
    (rooted : profile.roots ≠ []) :
    report.profile? = some (profile.inProcess externalProcess) := by
  cases reported with
  | nothing idle => cases due.symm.trans idle
  | failed _ ending => rw [ending] at returned; cases returned
  | discarded _ ending bare => rw [ending] at returned; cases returned; exact absurd bare rooted
  | recorded _ ending => rw [ending] at returned; cases returned; rfl

/-- Nothing else is. -/
theorem Reported.profile?_of_bare
    (reported : window.Reported timing now origin externalProcess report)
    (nothing : window.owes timing = true → ∀ profile,
      (window.built now origin).1 = .returned profile → profile.roots = []) :
    report.profile? = none := by
  cases reported with
  | nothing => rfl
  | failed => rfl
  | discarded => rfl
  | recorded due ending rooted => exact absurd (nothing due _ (congrArg Prod.fst ending)) rooted

end

end Window

namespace Watch

variable {watch : Watch} {index : Nat} {scheduler : Scheduler} {operation : Operation}

/-- A report, by hand or by the report timer. -/
inductive Operation.Reports (index : Nat) : Operation → Prop where
  | byHand : Reports index (.report index)
  | byTimer : Reports index (.perform (.reportTick index))

theorem Operation.Reports.recorder (reports : operation.Reports index) (watch : Watch) :
    (watch.apply operation).recorder = (watch.report index).2.recorder := by
  cases reports with
  | byHand => rfl
  | byTimer => exact recorder_reportTick watch index

theorem Operation.Reports.active (reports : operation.Reports index) (watch : Watch) :
    (watch.apply operation).active = watch.active := by
  have report : (watch.report index).2.active = watch.active := by
    unfold Watch.report
    split <;> rfl
  cases reports with
  | byHand => exact report
  | byTimer =>
      simp only [apply, Watch.perform]
      split <;> exact report

/-- A report changes the window of its scheduler and, if a timer brought it about, the timer. -/
theorem Operation.Reports.schedulerAfter (reports : operation.Reports index) (watch : Watch)
    (scheduler : Scheduler) :
    (watch.schedulerAfter index scheduler operation).window =
        (scheduler.window.report scheduler.timing watch.now watch.origin
          watch.externalProcess).window ∧
      ∃ reportTimer, watch.schedulerAfter index scheduler operation =
        { scheduler with
          window := (watch.schedulerAfter index scheduler operation).window
          reportTimer := reportTimer } := by
  cases reports with
  | byHand =>
      rw [Watch.schedulerAfter, if_pos rfl]
      exact ⟨rfl, _, rfl⟩
  | byTimer =>
      rw [Watch.schedulerAfter, if_pos rfl]
      exact ⟨rfl, _, rfl⟩

theorem Operation.Reports.schedulerAfter_other (reports : operation.Reports index) {other : Nat}
    (different : other ≠ index) (watch : Watch) (scheduler : Scheduler) :
    watch.schedulerAfter other scheduler operation = scheduler := by
  cases reports <;> exact if_neg (Ne.symm different)

/-- A report spares the other schedulers. -/
theorem Operation.Reports.getElem?_other (reports : operation.Reports index) {other : Nat}
    (different : other ≠ index) (watch : Watch) :
    (watch.apply operation).schedulers[other]? = watch.schedulers[other]? := by
  cases found : watch.schedulers[other]? with
  | some scheduler =>
      rw [getElem?_apply found operation, reports.schedulerAfter_other different]
  | none =>
      rw [List.getElem?_eq_none_iff] at found ⊢
      rwa [length_schedulers_apply]

/-- The last profile in the queue is the one that was recorded last, if there is room for any. -/
theorem getLast?_queue_record {recorder : Recorder} (room : 0 < recorder.outbox.capacity)
    (profile : Json) :
    (recorder.record profile).outbox.queue =
        keepLast recorder.outbox.capacity (recorder.outbox.queue ++ [profile]) ∧
      (recorder.record profile).outbox.queue.getLast? = some profile := by
  have queue : (recorder.record profile).outbox.queue =
      keepLast recorder.outbox.capacity (recorder.outbox.queue ++ [profile]) := by
    rw [Recorder.record, Outbox.add, if_neg (Nat.not_lt.mpr room)]
  have last : keepLast recorder.outbox.capacity [profile] = [profile] := by
    rw [keepLast, List.length_singleton, Nat.sub_eq_zero_of_le room]
    rfl
  refine ⟨queue, ?_⟩
  rw [queue, keepLast_append, last, List.getLast?_concat]

/-- A report that does not crash, by hand or by its timer, whatever the state of the schedulers: it
    records one profile if something was sampled and the profile that is built from that has call
    paths, under the name by which the process is known elsewhere, if it has one, and otherwise
    leaves the recorder as it is. In any case the window after it is a new one, while the burst
    under way, the baselines, the shared flag, the timers and the other schedulers stay. -/
theorem report_opens_clean_window (watch : Watch) (index : Nat) (scheduler : Scheduler)
    (found : watch.schedulers[index]? = some scheduler)
    (uncrashed : scheduler.window.owes scheduler.timing = true → ∀ crash,
      (scheduler.window.built watch.now watch.origin).1 ≠ .crashed crash)
    (operation : Operation) (reports : operation.Reports index) :
    let window := scheduler.window
    let after := watch.apply operation
    (∀ profile, window.owes scheduler.timing = true →
      (window.built watch.now watch.origin).1 = .returned profile → profile.roots ≠ [] →
        let recorded := profile.inProcess watch.externalProcess
        recorded.process = watch.externalProcess.getD watch.process ∧
          after.recorder = watch.recorder.record recorded.toJson ∧
          (0 < watch.recorder.outbox.capacity →
            after.recorder.outbox.queue = keepLast watch.recorder.outbox.capacity
              (watch.recorder.outbox.queue ++ [recorded.toJson]) ∧
            after.recorder.outbox.queue.getLast? = some recorded.toJson)) ∧
    ((window.owes scheduler.timing = true → ∀ profile,
      (window.built watch.now watch.origin).1 = .returned profile → profile.roots = []) →
        after.recorder = watch.recorder) ∧
    after.active = watch.active ∧
    (∀ other, other ≠ index → after.schedulers[other]? = watch.schedulers[other]?) ∧
    ∃ left, after.schedulers[index]? = some left ∧ window.Renewed watch.now left.window ∧
      ∃ reportTimer,
        left = { scheduler with window := left.window, reportTimer := reportTimer } := by
  intro window after
  have reported : window.Reported scheduler.timing watch.now watch.origin watch.externalProcess
      (window.report scheduler.timing watch.now watch.origin watch.externalProcess) :=
    Window.reported_report uncrashed
  have handsOver : watch.handedOver? index = (window.report scheduler.timing watch.now watch.origin
      watch.externalProcess).profile? := by
    rw [handedOver?, found]
    rfl
  have recorder := (reports.recorder watch).trans (recorder_report watch index)
  refine ⟨?_, ?_, reports.active watch, fun other different => ?_, ?_⟩
  · intro profile due returned rooted recorded
    rw [handsOver, reported.profile?_of_rooted due returned rooted] at recorder
    refine ⟨?_, recorder, fun room => recorder ▸ getLast?_queue_record room _⟩
    have origin : profile.origin = watch.origin := window.sampler.origin_of_build _ _ _ returned
    have process : profile.process = watch.process := congrArg Profile.Origin.process origin
    unfold recorded Profile.inProcess
    cases watch.externalProcess with
    | none => exact process
    | some name => rfl
  · intro nothing
    rwa [handsOver, reported.profile?_of_bare nothing] at recorder
  · exact reports.getElem?_other different watch
  · obtain ⟨windowEq, reportTimer, same⟩ := reports.schedulerAfter watch scheduler
    exact ⟨_, getElem?_apply found operation, windowEq ▸ reported.renewed, reportTimer, same⟩

/-- One burst is over, and another is under way. -/
def secondBurst : Watch :=
  { mainWatch with externalProcess := some "elsewhere" }.run
    [.beginBurst 0, .moveTo (Duration.ofMillis 1), .endBurst 0, .moveTo (Duration.ofMillis 2),
      .beginBurst 0, .moveTo (Duration.ofMillis 3)]

/-- What the first burst found is recorded, and the second one goes on in the new window. -/
theorem report_opens_clean_window_second :
    ∃ scheduler, secondBurst.schedulers[0]? = some scheduler ∧
      (scheduler.window.owes scheduler.timing = true ∧ ∀ crash,
        (scheduler.window.built secondBurst.now secondBurst.origin).1 ≠ .crashed crash) ∧
      Operation.Reports 0 (.report 0) ∧
      (∃ recorded : Profile, recorded.process = "elsewhere" ∧
        (secondBurst.apply (.report 0)).recorder.outbox.queue.getLast? = some recorded.toJson) ∧
      ∃ left, (secondBurst.apply (.report 0)).schedulers[0]? = some left ∧
        left.window.sampled = 0 ∧ left.window.burst = some (Duration.ofMillis 2) := by
  have facts : (secondBurst.schedulers[0]?.map fun scheduler =>
      (scheduler.window.owes scheduler.timing, scheduler.window.sampler.gathers,
        scheduler.window.sampler.tree.children.isEmpty, scheduler.window.burst)) =
      some (true, true, false, some (Duration.ofMillis 2)) := by
    decide +kernel
  obtain ⟨scheduler, found, same⟩ := Option.map_eq_some_iff.mp facts
  simp only [Prod.mk.injEq] at same
  obtain ⟨due, gathers, rooted, burst⟩ := same
  obtain ⟨profile, built, roots⟩ := Sampler.exists_build_eq gathers secondBurst.origin
    scheduler.window.sampled (secondBurst.now - scheduler.window.openedAt)
  have returned : (scheduler.window.built secondBurst.now secondBurst.origin).1 =
      .returned profile := congrArg Prod.fst built
  have uncrashed : ∀ crash,
      (scheduler.window.built secondBurst.now secondBurst.origin).1 ≠ .crashed crash := by
    intro crash crashed
    cases returned.symm.trans crashed
  obtain ⟨records, -, -, -, left, foundThen, renewed, -⟩ :=
    report_opens_clean_window secondBurst 0 scheduler found (fun _ => uncrashed) (.report 0) .byHand
  have someRoots : profile.roots ≠ [] := by
    rw [roots]
    exact List.isEmpty_eq_false_iff.mp rooted
  obtain ⟨process, -, queue⟩ := records profile due returned someRoots
  have room : 0 < secondBurst.recorder.outbox.capacity := by decide +kernel
  have named : secondBurst.externalProcess.getD secondBurst.process = "elsewhere" := by
    decide +kernel
  exact ⟨scheduler, found, ⟨due, uncrashed⟩, .byHand, ⟨_, process.trans named, (queue room).2⟩,
    left, foundThen, renewed.sampled, renewed.burst.trans burst⟩

end Watch

end Stackwatch

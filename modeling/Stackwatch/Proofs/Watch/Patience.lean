import Mathlib.Algebra.Order.BigOperators.Group.List
import Mathlib.Algebra.Order.Group.Nat
import Mathlib.Tactic.Ring
import Stackwatch.Proofs.Burst.Patience
import Stackwatch.Proofs.Delivery.Patience
import Stackwatch.Proofs.Watch.OneScheduler
import Stackwatch.Proofs.Watch.Punctual

/-!
# Patience is enough

A watch that is left to itself does what is due until nothing is due any more, and its patience
limits how much it does. The main statement says that the limit is never reached: a watch always
gets to the instant to which it is let run. Every timer has only so many ticks left up to an
instant, a tick leads to a limited number of other things, and whatever happens uses up some of
that.
-/

namespace Stackwatch

namespace Watch

/-- All timers of a watch fire as they were started. -/
structure Steady (watch : Watch) : Prop where
  recorder : watch.recorder.Steady
  schedulers : ∀ (index : Nat) (scheduler : Scheduler),
    watch.schedulers[index]? = some scheduler → scheduler.Steady

/-- An operation that tampers with no timer. -/
def Operation.KeepsSteady : Operation → Prop
  | .updateRecorder change => ∀ recorder : Recorder, recorder.Steady → (change recorder).Steady
  | _ => True

/-- More than can happen by itself up to an instant. -/
def eventsLeft (target : Instant) (watch : Watch) : Nat :=
  watch.recorder.eventsLeft target watch.now +
    (watch.schedulers.map fun scheduler => scheduler.eventsLeft target watch.now).sum

/-- A report fills the outbox of the recorder and leaves the rest of it alone. -/
theorem exists_recorder_report_eq (watch : Watch) (index : Nat) :
    ∃ outbox, (watch.report index).2.recorder = { watch.recorder with outbox := outbox } := by
  unfold report
  split
  · exact ⟨_, rfl⟩
  · dsimp only [tell]
    split <;> exact ⟨_, rfl⟩

/-! ### Timers stay steady -/

namespace Steady

variable {watch : Watch} (steady : watch.Steady)

include steady

theorem recorder_report (index : Nat) : (watch.report index).2.recorder.Steady := by
  obtain ⟨outbox, recorderEq⟩ := exists_recorder_report_eq watch index
  rw [recorderEq]
  exact steady.recorder

theorem recorder_apply {operation : Operation} (keeps : operation.KeepsSteady) :
    (watch.apply operation).recorder.Steady := by
  have runs (index : Nat) (event : Flag → Scheduler → Scheduler.Step) :
      (watch.runScheduler index event).recorder.Steady := by
    unfold runScheduler
    split <;> exact steady.recorder
  cases operation with
  | beginBurst other =>
      simp only [apply, beginBurst]
      split <;> exact steady.recorder
  | endBurst other =>
      simp only [apply, endBurst]
      split <;> exact steady.recorder
  | report other => exact steady.recorder_report other
  | start other => exact steady.recorder
  | stop other => exact steady.recorder
  | moveTo instant => exact steady.recorder
  | updateRecorder change => exact keeps watch.recorder steady.recorder
  | perform task =>
      cases task with
      | sendingEnds => exact Recorder.Steady.sendingEnds watch.clock steady.recorder
      | flushTick => exact Recorder.Steady.tick watch.clock steady.recorder
      | samplingTick other => exact steady.recorder
      | attemptDue other attempt => exact runs other _
      | spanEnds other => exact runs other _
      | reportTick other =>
          rw [apply, recorder_reportTick]
          exact steady.recorder_report other

theorem schedulerAfter {index : Nat} {scheduler : Scheduler}
    (found : watch.schedulers[index]? = some scheduler) (operation : Operation) :
    (watch.schedulerAfter index scheduler operation).Steady := by
  have before := steady.schedulers index scheduler found
  have ofOwn {own : Prop} [Decidable own] {changed : Scheduler} (after : changed.Steady) :
      Scheduler.Steady (if own then changed else scheduler) := by
    split
    · exact after
    · exact before
  cases operation with
  | beginBurst other => exact ofOwn (before.withWindow _)
  | endBurst other => exact ofOwn (before.withWindow _)
  | report other => exact ofOwn (before.withWindow _)
  | start other => exact ofOwn (before.start watch.now)
  | stop other => exact ofOwn before.stop
  | moveTo instant => exact before
  | updateRecorder change => exact before
  | perform task =>
      cases task with
      | sendingEnds => exact before
      | flushTick => exact before
      | samplingTick other => exact ofOwn (before.samplingTick watch.now)
      | attemptDue other attempt =>
          exact ofOwn (before.attempted _ _ (Scheduler.attempted_attemptDue ..))
      | spanEnds other => exact ofOwn (before.spanEnds watch.now watch.active)
      | reportTick other => exact ofOwn ((before.withWindow _).reportTick watch.now)

theorem apply {operation : Operation} (keeps : operation.KeepsSteady) :
    (watch.apply operation).Steady where
  recorder := steady.recorder_apply keeps
  schedulers := by
    intro index after found
    obtain ⟨scheduler, foundBefore, rfl⟩ := exists_of_getElem?_apply found
    exact steady.schedulerAfter foundBefore operation

theorem moveTo (instant : Instant) : (watch.moveTo instant).Steady := by
  have moved : (watch.apply (.moveTo instant)).Steady := steady.apply trivial
  exact moved

theorem perform (task : Task) : (watch.perform task).Steady := by
  have performed : (watch.apply (.perform task)).Steady := steady.apply trivial
  exact performed

theorem run {operations : List Operation}
    (keep : ∀ operation ∈ operations, operation.KeepsSteady) : (watch.run operations).Steady := by
  induction operations generalizing watch with
  | nil => exact steady
  | cons operation rest inductionHypothesis =>
      obtain ⟨keeps, keepRest⟩ := List.forall_mem_cons.mp keep
      exact inductionHypothesis (steady.apply keeps) keepRest

end Steady

/-! ### What happens uses up what is left -/

theorem sum_map_set {α : Type} (weight : α → Nat) {all : List α} {index : Nat} {old : α}
    (found : all[index]? = some old) (new : α) :
    ((all.set index new).map weight).sum + weight old = (all.map weight).sum + weight new := by
  induction all generalizing index with
  | nil => cases found
  | cons first rest inductionHypothesis =>
      cases index with
      | zero =>
          cases found
          simp only [List.set_cons_zero, List.map_cons, List.sum_cons]
          omega
      | succ index =>
          have ofRest := inductionHypothesis found
          simp only [List.set_cons_succ, List.map_cons, List.sum_cons]
          omega

section Uses

variable {watch : Watch} {target : Instant} {index : Nat} {scheduler : Scheduler} {task : Task}

/-- A task leaves alone whose task it is not. -/
theorem schedulerAfter_of_ne (other : task.scheduler? ≠ some index) :
    watch.schedulerAfter index scheduler (.perform task) = scheduler := by
  cases task with
  | sendingEnds => rfl
  | flushTick => rfl
  | samplingTick position => exact if_neg fun same => other (congrArg some same)
  | attemptDue position attempt => exact if_neg fun same => other (congrArg some same)
  | spanEnds position => exact if_neg fun same => other (congrArg some same)
  | reportTick position => exact if_neg fun same => other (congrArg some same)

/-- A task of a scheduler puts another in its place. -/
theorem schedulers_perform (found : watch.schedulers[index]? = some scheduler)
    (own : task.scheduler? = some index) :
    (watch.perform task).schedulers =
      watch.schedulers.set index (watch.schedulerAfter index scheduler (.perform task)) := by
  have length : (watch.perform task).schedulers.length = watch.schedulers.length :=
    length_schedulers_apply watch (.perform task)
  have inRange : index < watch.schedulers.length := (List.getElem?_eq_some_iff.mp found).1
  refine List.ext_getElem? fun position => ?_
  by_cases same : index = position
  · subst same
    rw [getElem?_perform found, List.getElem?_set_self inRange]
  · rw [List.getElem?_set_ne same]
    cases foundOther : watch.schedulers[position]? with
    | none => rwa [List.getElem?_eq_none_iff, length, ← List.getElem?_eq_none_iff]
    | some other =>
        have different : task.scheduler? ≠ some position := by
          rw [own]
          exact fun impossible => same (Option.some.inj impossible)
        rw [getElem?_perform foundOther, schedulerAfter_of_ne different]

/-- A task of a scheduler leaves the recorder with as much to do as before. -/
theorem recorder_eventsLeft_perform (own : task.scheduler? = some index) :
    (watch.perform task).recorder.eventsLeft target watch.now =
      watch.recorder.eventsLeft target watch.now := by
  have runs (index : Nat) (event : Flag → Scheduler → Scheduler.Step) :
      (watch.runScheduler index event).recorder = watch.recorder := by
    unfold runScheduler
    split <;> rfl
  cases task with
  | sendingEnds => cases own
  | flushTick => cases own
  | samplingTick position => rfl
  | attemptDue position attempt => rw [perform, runs]
  | spanEnds position => rw [perform, runs]
  | reportTick position =>
      obtain ⟨outbox, recorderEq⟩ := exists_recorder_report_eq watch position
      rw [recorder_reportTick, recorderEq]
      rfl

/-- What is left to a watch is the sum of what is left to its parts. -/
theorem eventsLeft_of_fewer (found : watch.schedulers[index]? = some scheduler)
    (own : task.scheduler? = some index)
    (fewer : (watch.schedulerAfter index scheduler (.perform task)).eventsLeft target watch.now <
      scheduler.eventsLeft target watch.now) :
    (watch.perform task).eventsLeft target < watch.eventsLeft target := by
  have now : (watch.perform task).now = watch.now := now_apply watch (.perform task)
  have sum := sum_map_set (fun scheduler => scheduler.eventsLeft target watch.now) found
    (watch.schedulerAfter index scheduler (.perform task))
  unfold eventsLeft
  rw [now, recorder_eventsLeft_perform own, schedulers_perform found own]
  exact Nat.add_lt_add_left (Nat.lt_of_add_lt_add_right (sum ▸ Nat.add_lt_add_left fewer _)) _

/-- Whatever happens when it is due uses up some of what is left. -/
theorem eventsLeft_perform {due : Due} (steady : watch.Steady) (member : due ∈ watch.agenda)
    (come : due.time ≤ watch.now) (ahead : watch.now ≤ target) :
    (watch.perform due.task).eventsLeft target < watch.eventsLeft target := by
  rcases of_mem_agenda member with ofRecorder | ⟨index, scheduler, found, inside⟩
  · rcases List.mem_append.mp ofRecorder with sending | flush
    · obtain ⟨sending, busy, rfl⟩ := Option.map_eq_some_iff.mp (Option.mem_toList.mp sending)
      exact Nat.add_lt_add_right (Recorder.eventsLeft_sendingEnds watch.clock busy) _
    · obtain ⟨dueTimer, task⟩ := mem_dueOfTimer_iff.mp flush
      rw [task]
      exact Nat.add_lt_add_right
        (Recorder.eventsLeft_tick watch.clock steady.recorder dueTimer come ahead) _
  · have ofScheduler := steady.schedulers index scheduler found
    rcases mem_dueOfScheduler_iff.mp inside with
      ⟨dueTimer, task⟩ | ⟨attempt, waits, -, task⟩ | ⟨dueTimer, task⟩ | ⟨dueTimer, task⟩
    all_goals
      rw [task]
      refine eventsLeft_of_fewer found rfl ?_
      rw [schedulerAfter, if_pos rfl]
    · exact Scheduler.eventsLeft_spanEnds ofScheduler dueTimer
    · exact Scheduler.eventsLeft_attempted waits (Scheduler.attempted_attemptDue ..)
    · exact Scheduler.eventsLeft_samplingTick ofScheduler dueTimer come ahead
    · exact Scheduler.eventsLeft_reportTick (ofScheduler.withWindow _) dueTimer come ahead

/-- While time passes there is no more to do. -/
theorem eventsLeft_moveTo (watch : Watch) (target instant : Instant) :
    (watch.moveTo instant).eventsLeft target ≤ watch.eventsLeft target := by
  have inOrder : watch.now ≤ (watch.moveTo instant).now := Nat.le_max_left _ _
  refine Nat.add_le_add (Recorder.eventsLeft_anti target inOrder watch.recorder) ?_
  exact List.sum_le_sum fun scheduler _ => scheduler.eventsLeft_anti target inOrder

end Uses

/-! ### Letting a watch run -/

/-- A watch has got to an instant: the clock shows it, and all that is left is due later. -/
structure Reached (target : Instant) (watch : Watch) : Prop where
  now : watch.now = target
  agenda : ∀ due ∈ watch.agenda, target < due.time

theorem reached_runWith {watch : Watch} {target : Instant} {fuel : Nat} (steady : watch.Steady)
    (ahead : watch.now ≤ target) (enough : watch.eventsLeft target < fuel) :
    (watch.runWith target (fun _ => false) fuel).Reached target := by
  induction fuel generalizing watch with
  | zero => exact absurd enough (Nat.not_lt_zero _)
  | succ fuel inductionHypothesis =>
      have moved : (watch.moveTo target).now = target := Nat.max_eq_right ahead
      simp only [runWith, Bool.false_eq_true, if_false]
      split
      · next due found =>
          obtain ⟨member, least⟩ := mem_of_earliest? found
          split
          · next soon =>
              let present := watch.moveTo due.time
              have steadyNow : present.Steady := steady.moveTo due.time
              have aheadNow : present.now ≤ target := Nat.max_le.mpr ⟨ahead, soon⟩
              have fewer : (present.perform due.task).eventsLeft target < watch.eventsLeft target :=
                Nat.lt_of_lt_of_le
                  (eventsLeft_perform steadyNow member (Nat.le_max_right _ _) aheadNow)
                  (eventsLeft_moveTo watch target due.time)
              have now : (present.perform due.task).now = present.now :=
                now_apply present (.perform due.task)
              exact inductionHypothesis (steadyNow.perform due.task) (now ▸ aheadNow)
                (Nat.lt_of_lt_of_le fewer (Nat.le_of_lt_succ enough))
          · next late =>
              exact ⟨moved, fun other otherMember =>
                Nat.lt_of_lt_of_le (Nat.not_le.mp late) (least other otherMember)⟩
      · next nothing =>
          have empty : (watch.moveTo target).agenda = [] := earliest?_eq_none_iff.mp nothing
          refine ⟨moved, ?_⟩
          rw [empty]
          exact List.forall_mem_nil _

theorem sum_eventsLeft_le (target now : Instant) (schedulers : List Scheduler) :
    (schedulers.map fun scheduler => scheduler.eventsLeft target now).sum + 4 ≤
      schedulers.length * (4 * (target - now + Timer.tolerance + 1)) +
        (schedulers.map fun scheduler => 2 * scheduler.attempts.length + 1).foldr (· + ·) 4 := by
  induction schedulers with
  | nil => simp
  | cons first rest inductionHypothesis =>
      have ofFirst := first.eventsLeft_le target now
      simp only [List.map_cons, List.sum_cons, List.length_cons, List.foldr_cons,
        Nat.add_one_mul rest.length]
      omega

theorem eventsLeft_lt_patience (watch : Watch) (target : Instant) :
    watch.eventsLeft target < watch.patience target := by
  have assemble (ticks count line ofRecorder ofSchedulers attempts : Nat)
      (recorder : ofRecorder ≤ 2 * ticks + (line + 1))
      (schedulers : ofSchedulers + 4 ≤ count * (4 * ticks) + attempts) :
      ofRecorder + ofSchedulers < (ticks + 3) * (2 + 4 * count) + line + attempts := by
    have product : (ticks + 3) * (2 + 4 * count) =
        2 * ticks + count * (4 * ticks) + 6 + 12 * count := by ring
    omega
  exact assemble _ _ _ _ _ _ (Recorder.eventsLeft_le target watch.now watch.recorder)
    (sum_eventsLeft_le target watch.now watch.schedulers)

/-- A watch that is let run until an instant gets there. -/
theorem reached_advance {watch : Watch} {target : Instant} (steady : watch.Steady)
    (ahead : watch.now ≤ target) : (watch.advance target).Reached target :=
  reached_runWith steady ahead (eventsLeft_lt_patience watch target)

end Watch

end Stackwatch

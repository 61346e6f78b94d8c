import Stackwatch.Proofs.Watch.Operations

/-!
# Operations in time

By itself a watch does nothing but what is on its agenda, and only when it is due; time passes no
further than to the next thing that is due. Whatever else is done to a watch can come in between.
The tasks of one instant may come in any order. The main statement says that letting a watch run is
a sequence of such operations.
-/

namespace Stackwatch

namespace Watch

/-- Whether an operation can come next: a task whose time has come, as much time as passes before
    something is due, or something that is done by hand. -/
def Timely (watch : Watch) : Operation → Prop
  | .perform task => ∃ due ∈ watch.agenda, due.task = task ∧ due.time ≤ watch.now
  | .moveTo instant => ∀ due ∈ watch.agenda, instant ≤ max watch.now due.time
  | _ => True

/-- Whether an operation leaves it to the timers of a scheduler when its bursts begin and end. -/
def Operation.LeavesBursts (index : Nat) : Operation → Prop
  | .beginBurst other => other ≠ index
  | .endBurst other => other ≠ index
  | _ => True

/-- Operations that can come one after the other while the bursts of a scheduler are left to its
    timers. -/
def Plays (index : Nat) : Watch → List Operation → Prop
  | _, [] => True
  | watch, operation :: rest =>
      watch.Timely operation ∧ operation.LeavesBursts index ∧
        (watch.apply operation).Plays index rest

instance (watch : Watch) : DecidablePred watch.Timely
  | .beginBurst _ => .isTrue trivial
  | .endBurst _ => .isTrue trivial
  | .report _ => .isTrue trivial
  | .start _ => .isTrue trivial
  | .stop _ => .isTrue trivial
  | .perform task =>
      inferInstanceAs (Decidable (∃ due ∈ watch.agenda, due.task = task ∧ due.time ≤ watch.now))
  | .moveTo instant =>
      inferInstanceAs (Decidable (∀ due ∈ watch.agenda, instant ≤ max watch.now due.time))
  | .updateRecorder _ => .isTrue trivial

instance (index : Nat) : DecidablePred (Operation.LeavesBursts index)
  | .beginBurst other => inferInstanceAs (Decidable (other ≠ index))
  | .endBurst other => inferInstanceAs (Decidable (other ≠ index))
  | .report _ => .isTrue trivial
  | .start _ => .isTrue trivial
  | .stop _ => .isTrue trivial
  | .perform _ => .isTrue trivial
  | .moveTo _ => .isTrue trivial
  | .updateRecorder _ => .isTrue trivial

/-- Whether some operations can come one after the other can be found out by carrying them out. -/
instance decidablePlays (index : Nat) :
    (watch : Watch) → (operations : List Operation) → Decidable (watch.Plays index operations)
  | _, [] => .isTrue trivial
  | watch, operation :: rest =>
      have := decidablePlays index (watch.apply operation) rest
      inferInstanceAs (Decidable (watch.Timely operation ∧ operation.LeavesBursts index ∧
        (watch.apply operation).Plays index rest))

section

variable {watch : Watch} {index : Nat}

theorem run_append (watch : Watch) (first second : List Operation) :
    watch.run (first ++ second) = (watch.run first).run second :=
  List.foldl_append

theorem plays_append {first second : List Operation} :
    watch.Plays index (first ++ second) ↔
      watch.Plays index first ∧ (watch.run first).Plays index second := by
  induction first generalizing watch with
  | nil => simp [Plays, run]
  | cons operation rest inductionHypothesis =>
      simp only [List.cons_append, Plays, inductionHypothesis, and_assoc]
      rfl

end

/-! ### The agenda -/

section Agenda

variable {watch : Watch} {index : Nat} {scheduler : Scheduler}

theorem mem_dueOfTimer_iff {task : Task} {timer : Option Timer} {due : Due} :
    due ∈ dueOfTimer task timer ↔ timer.bind Timer.due? = some due.time ∧ due.task = task := by
  obtain ⟨time, other⟩ := due
  rw [dueOfTimer]
  cases timer.bind Timer.due? <;> simp [eq_comm]

theorem mem_agenda_of_mem {due : Due} (found : watch.schedulers[index]? = some scheduler)
    (member : due ∈ dueOfScheduler index scheduler) : due ∈ watch.agenda := by
  refine List.mem_append_right _ (List.mem_flatten.mpr ⟨_, ?_, member⟩)
  refine List.mem_iff_getElem?.mpr ⟨index, ?_⟩
  simp [List.getElem?_mapIdx, found]

theorem of_mem_agenda {due : Due} (member : due ∈ watch.agenda) :
    due ∈ dueOfRecorder watch.recorder ∨
      ∃ index scheduler, watch.schedulers[index]? = some scheduler ∧
        due ∈ dueOfScheduler index scheduler := by
  rcases List.mem_append.mp member with ofRecorder | ofScheduler
  · exact .inl ofRecorder
  · obtain ⟨dues, member, inside⟩ := List.mem_flatten.mp ofScheduler
    obtain ⟨index, inRange, rfl⟩ := List.mem_mapIdx.mp member
    exact .inr ⟨index, _, List.getElem?_eq_getElem inRange, inside⟩

/-- A task that belongs to a scheduler. -/
def Task.scheduler? : Task → Option Nat
  | .sendingEnds => none
  | .flushTick => none
  | .samplingTick index => some index
  | .attemptDue index _ => some index
  | .spanEnds index => some index
  | .reportTick index => some index

theorem scheduler?_of_mem_dueOfRecorder {recorder : Recorder} {due : Due}
    (member : due ∈ dueOfRecorder recorder) : due.task.scheduler? = none := by
  rcases List.mem_append.mp member with sending | flush
  · obtain ⟨_, -, rfl⟩ := Option.map_eq_some_iff.mp (Option.mem_toList.mp sending)
    rfl
  · rw [(mem_dueOfTimer_iff.mp flush).2]
    rfl

/-- Everything that a scheduler can have on the agenda. -/
theorem mem_dueOfScheduler_iff {due : Due} :
    due ∈ dueOfScheduler index scheduler ↔
      (scheduler.spanTimer.bind Timer.due? = some due.time ∧ due.task = .spanEnds index) ∨
      (∃ attempt ∈ scheduler.attempts, attempt.wake = due.time ∧
        due.task = .attemptDue index attempt) ∨
      (scheduler.samplingTimer.bind Timer.due? = some due.time ∧ due.task = .samplingTick index) ∨
      (scheduler.reportTimer.bind Timer.due? = some due.time ∧ due.task = .reportTick index) := by
  obtain ⟨time, task⟩ := due
  simp only [dueOfScheduler, List.mem_append, mem_dueOfTimer_iff, List.mem_map, Due.mk.injEq,
    or_assoc, eq_comm]

theorem scheduler?_of_mem_dueOfScheduler {due : Due}
    (member : due ∈ dueOfScheduler index scheduler) : due.task.scheduler? = some index := by
  rcases mem_dueOfScheduler_iff.mp member with
    ⟨-, task⟩ | ⟨_, -, -, task⟩ | ⟨-, task⟩ | ⟨-, task⟩ <;> rw [task] <;> rfl

/-- The tasks of a scheduler are on the agenda only as its own. -/
theorem mem_dueOfScheduler_of_agenda {due : Due}
    (found : watch.schedulers[index]? = some scheduler) (member : due ∈ watch.agenda)
    (own : due.task.scheduler? = some index) : due ∈ dueOfScheduler index scheduler := by
  rcases of_mem_agenda member with ofRecorder | ⟨other, otherScheduler, otherFound, inside⟩
  · rw [scheduler?_of_mem_dueOfRecorder ofRecorder] at own
    cases own
  · rw [scheduler?_of_mem_dueOfScheduler inside] at own
    cases own
    rw [found] at otherFound
    cases otherFound
    exact inside

/-- A task of a scheduler can only come when the scheduler has it on the agenda. -/
theorem due_of_timely {task : Task} (found : watch.schedulers[index]? = some scheduler)
    (timely : watch.Timely (.perform task)) (own : task.scheduler? = some index) :
    ∃ time, { time := time, task := task } ∈ dueOfScheduler index scheduler ∧
      time ≤ watch.now := by
  obtain ⟨⟨time, task⟩, member, rfl, come⟩ := timely
  exact ⟨time, mem_dueOfScheduler_of_agenda found member own, come⟩

/-- A sampling tick comes when its timer fires. -/
theorem due_of_samplingTick (found : watch.schedulers[index]? = some scheduler)
    (timely : watch.Timely (.perform (.samplingTick index))) :
    ∃ time, scheduler.samplingTimer.bind Timer.due? = some time ∧ time ≤ watch.now := by
  obtain ⟨time, inside, come⟩ := due_of_timely found timely rfl
  rw [mem_dueOfScheduler_iff] at inside
  exact ⟨time, by simpa using inside, come⟩

/-- An attempt is due when it was to wake. -/
theorem mem_attempts_of_attemptDue {attempt : Scheduler.Attempt}
    (found : watch.schedulers[index]? = some scheduler)
    (timely : watch.Timely (.perform (.attemptDue index attempt))) :
    attempt ∈ scheduler.attempts ∧ attempt.wake ≤ watch.now := by
  obtain ⟨time, inside, come⟩ := due_of_timely found timely rfl
  rw [mem_dueOfScheduler_iff] at inside
  obtain ⟨same, member, rfl, rfl⟩ : ∃ same ∈ scheduler.attempts, same.wake = time ∧
      attempt = same := by simpa using inside
  exact ⟨member, come⟩

/-- A burst ends when the timer of its span fires. -/
theorem due_of_spanEnds (found : watch.schedulers[index]? = some scheduler)
    (timely : watch.Timely (.perform (.spanEnds index))) :
    ∃ time, scheduler.spanTimer.bind Timer.due? = some time ∧ time ≤ watch.now := by
  obtain ⟨time, inside, come⟩ := due_of_timely found timely rfl
  rw [mem_dueOfScheduler_iff] at inside
  exact ⟨time, by simpa using inside, come⟩

/-- A report comes when its timer fires. -/
theorem due_of_reportTick (found : watch.schedulers[index]? = some scheduler)
    (timely : watch.Timely (.perform (.reportTick index))) :
    ∃ time, scheduler.reportTimer.bind Timer.due? = some time ∧ time ≤ watch.now := by
  obtain ⟨time, inside, come⟩ := due_of_timely found timely rfl
  rw [mem_dueOfScheduler_iff] at inside
  exact ⟨time, by simpa using inside, come⟩

end Agenda

/-! ### Letting a watch run -/

theorem mem_of_earliest? {dues : List Due} {due : Due} (found : earliest? dues = some due) :
    due ∈ dues ∧ ∀ other ∈ dues, due.time ≤ other.time := by
  induction dues generalizing due with
  | nil => cases found
  | cons first rest inductionHypothesis =>
      simp only [earliest?] at found
      split at found
      · next nothing =>
          cases found
          cases rest with
          | nil => simp
          | cons second others =>
              simp only [earliest?] at nothing
              split at nothing <;> (try split at nothing) <;> cases nothing
      · next other earliest =>
          obtain ⟨member, least⟩ := inductionHypothesis earliest
          split at found
          · next earlier =>
              cases found
              refine ⟨List.mem_cons_of_mem first member, ?_⟩
              rw [List.forall_mem_cons]
              exact ⟨Nat.le_of_lt earlier, least⟩
          · next later =>
              cases found
              refine ⟨List.mem_cons_self, ?_⟩
              rw [List.forall_mem_cons]
              refine ⟨Nat.le_refl _, fun third thirdMember => ?_⟩
              exact Nat.le_trans (Nat.not_lt.mp later) (least third thirdMember)

theorem earliest?_eq_none_iff {dues : List Due} : earliest? dues = none ↔ dues = [] := by
  cases dues with
  | nil => simp [earliest?]
  | cons first rest =>
      simp only [earliest?, reduceCtorEq, iff_false]
      split <;> (try split) <;> simp

/-- An operation that nobody carries out by hand. -/
def Operation.ComesByItself : Operation → Prop
  | .perform _ => True
  | .moveTo _ => True
  | _ => False

/-- A watch that runs does what is due when it is due, and nothing else. -/
theorem exists_unaided_of_runWith (index : Nat) (target : Instant) (enough : Watch → Bool)
    (fuel : Nat) (watch : Watch) :
    ∃ operations, watch.Plays index operations ∧
      (∀ operation ∈ operations, operation.ComesByItself) ∧
      watch.runWith target enough fuel = watch.run operations := by
  induction fuel generalizing watch with
  | zero => exact ⟨[], trivial, List.forall_mem_nil _, rfl⟩
  | succ fuel inductionHypothesis =>
      have waits : ∀ operation ∈ [Operation.moveTo target], operation.ComesByItself :=
        List.forall_mem_singleton.mpr trivial
      simp only [runWith]
      split
      · exact ⟨[], trivial, List.forall_mem_nil _, rfl⟩
      · split
        · next due found =>
            obtain ⟨member, least⟩ := mem_of_earliest? found
            split
            · obtain ⟨rest, plays, unaided, same⟩ :=
                inductionHypothesis ((watch.moveTo due.time).perform due.task)
              have moves : watch.Timely (.moveTo due.time) := fun other otherMember =>
                Nat.le_trans (least other otherMember) (Nat.le_max_right _ _)
              have performs : (watch.moveTo due.time).Timely (.perform due.task) :=
                ⟨due, member, rfl, Nat.le_max_right _ _⟩
              exact ⟨.moveTo due.time :: .perform due.task :: rest,
                ⟨moves, trivial, performs, trivial, plays⟩,
                List.forall_mem_cons.mpr ⟨trivial, List.forall_mem_cons.mpr ⟨trivial, unaided⟩⟩,
                same⟩
            · next late =>
                have moves : watch.Timely (.moveTo target) := by
                  intro other otherMember
                  have beyond := Nat.le_trans (Nat.le_of_not_le late) (least other otherMember)
                  exact Nat.le_trans beyond (Nat.le_max_right _ _)
                exact ⟨[.moveTo target], ⟨moves, trivial, trivial⟩, waits, rfl⟩
        · next nothing =>
            have empty : watch.agenda = [] := earliest?_eq_none_iff.mp nothing
            have moves : watch.Timely (.moveTo target) := by
              rw [Timely, empty]
              exact List.forall_mem_nil _
            exact ⟨[.moveTo target], ⟨moves, trivial, trivial⟩, waits, rfl⟩

theorem exists_plays_of_runWith (index : Nat) (target : Instant) (enough : Watch → Bool)
    (fuel : Nat) (watch : Watch) :
    ∃ operations, watch.Plays index operations ∧
      watch.runWith target enough fuel = watch.run operations := by
  obtain ⟨operations, plays, -, same⟩ :=
    exists_unaided_of_runWith index target enough fuel watch
  exact ⟨operations, plays, same⟩

end Watch

end Stackwatch

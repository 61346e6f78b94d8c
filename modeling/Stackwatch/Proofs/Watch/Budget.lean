import Stackwatch.Proofs.Burst.Budget
import Stackwatch.Proofs.Burst.Spans
import Stackwatch.Proofs.Watch.Coverage
import Stackwatch.Proofs.Watch.Exclusion

/-!
# The budget of a scheduler

Bursts of a scheduler are attempted, begun and ended by hand or by its timers, and reports come in
between. The main statement compares the window of the scheduler, all along a run, with a logbook of
the calls of its sampler: between two openings of the window no more bursts begin than are allowed,
none begins once too much was sampled, and an attempt that begins none costs nothing. So no more is
sampled in a window than is allowed and the length of one burst, wherever the reports come.
-/

namespace Stackwatch

namespace Watch

/-- The scheduler whose sampler is called. -/
def Call.scheduler : Call → Nat
  | .start scheduler _ => scheduler
  | .stop scheduler _ => scheduler

/-- Whether an operation is an attempt of a scheduler at a burst. -/
def Operation.attempts (index : Nat) : Operation → Bool
  | .beginBurst other => other == index
  | .perform (.attemptDue other _) => other == index
  | _ => false

end Watch

namespace Logbook

/-- Enters a call in the logbook of a scheduler. The calls of other samplers do not matter. -/
def enter (index : Nat) (now : Instant) (logbook : Logbook) : Watch.Call → Logbook
  | .start scheduler ending => if scheduler = index then logbook.started now ending else logbook
  | .stop scheduler ending => if scheduler = index then logbook.stopped now ending else logbook

section

variable {index : Nat} {now : Instant} {logbook : Logbook}

theorem enter_of_scheduler_ne {call : Watch.Call} (other : call.scheduler ≠ index) :
    logbook.enter index now call = logbook := by
  cases call with
  | start scheduler ending => exact if_neg other
  | stop scheduler ending => exact if_neg other

theorem foldl_enter_eq_self {calls : List Watch.Call}
    (idle : ∀ call ∈ calls, logbook.enter index now call = logbook) :
    calls.foldl (enter index now) logbook = logbook := by
  induction calls with
  | nil => rfl
  | cons call rest inductionHypothesis =>
      obtain ⟨idleCall, idleRest⟩ := List.forall_mem_cons.mp idle
      rw [List.foldl_cons, idleCall, inductionHypothesis idleRest]

end

end Logbook

namespace Watch

/-- The logbook of a scheduler when an operation is over, given what it was before. -/
def logbookAfter (watch : Watch) (index : Nat) (operation : Operation) (logbook : Logbook) :
    Logbook :=
  let entered := (watch.callsOf operation).foldl (Logbook.enter index watch.now) logbook
  if watch.renewsWindow index operation then entered.renewed else entered

/-- The logbook of a scheduler when some operations are over. -/
def logbookSince (index : Nat) : Watch → Logbook → List Operation → Logbook
  | _, logbook, [] => logbook
  | watch, logbook, operation :: rest =>
      logbookSince index (watch.apply operation) (watch.logbookAfter index operation logbook) rest

/-- What an operation can make of the window of a scheduler, which calls of its sampler it makes for
    that, and whether the window is a new one then. -/
inductive WindowStep (watch : Watch) (index : Nat) (scheduler : Scheduler)
    (operation : Operation) : Window → Prop where
  | spared (silent : ∀ call ∈ watch.callsOf operation, call.scheduler ≠ index)
      (stays : watch.renewsWindow index operation = false) :
      WindowStep watch index scheduler operation scheduler.window
  | attempted (calls : watch.callsOf operation = watch.startCalls index)
      (stays : watch.renewsWindow index operation = false) :
      WindowStep watch index scheduler operation
        (scheduler.window.beginBurst scheduler.timing watch.now watch.active).window
  | ended (calls : watch.callsOf operation = watch.stopCalls index)
      (stays : watch.renewsWindow index operation = false) :
      WindowStep watch index scheduler operation
        (scheduler.window.endBurst scheduler.timing watch.now watch.active).window
  | reported (calls : watch.callsOf operation = [])
      (renews : watch.renewsWindow index operation = (watch.report index).1.isOk) :
      WindowStep watch index scheduler operation
        (scheduler.window.report scheduler.timing watch.now watch.origin
          watch.externalProcess).window
  | renewed (calls : watch.callsOf operation = [])
      (renews : watch.renewsWindow index operation = true) :
      WindowStep watch index scheduler operation (scheduler.window.renew watch.now)

section Steps

variable {watch : Watch} {index other : Nat} {scheduler : Scheduler} {operation : Operation}

/-- What neither calls a sampler nor opens a window leaves every window as it is. -/
theorem WindowStep.idle (calls : watch.callsOf operation = [])
    (stays : watch.renewsWindow index operation = false) :
    WindowStep watch index scheduler operation scheduler.window :=
  .spared (by simp [calls]) stays

theorem scheduler_of_mem_startCalls {call : Call} (called : call ∈ watch.startCalls other) :
    call.scheduler = other := by
  obtain ⟨ending, rfl⟩ := eq_of_mem_startCalls called
  rfl

theorem scheduler_of_mem_stopCalls {call : Call} (called : call ∈ watch.stopCalls other) :
    call.scheduler = other := by
  obtain ⟨ending, rfl⟩ := eq_of_mem_stopCalls called
  rfl

theorem windowStep_beginBurst :
    WindowStep watch index scheduler (.beginBurst other)
      (watch.schedulerAfter index scheduler (.beginBurst other)).window := by
  simp only [schedulerAfter]
  split
  · next same =>
      subst same
      exact .attempted rfl rfl
  · next different =>
      exact .spared (fun _ called => scheduler_of_mem_startCalls called ▸ different) rfl

theorem windowStep_endBurst (calls : watch.callsOf operation = watch.stopCalls other)
    (stays : watch.renewsWindow index operation = false) :
    WindowStep watch index scheduler operation
      (watch.schedulerAfter index scheduler (.endBurst other)).window := by
  simp only [schedulerAfter]
  split
  · next same =>
      subst same
      exact .ended calls stays
  · next different =>
      refine .spared (fun call called => ?_) stays
      rw [calls] at called
      exact scheduler_of_mem_stopCalls called ▸ different

theorem windowStep_report (calls : watch.callsOf operation = [])
    (renews : watch.renewsWindow index operation =
      (other == index && (watch.report index).1.isOk)) :
    WindowStep watch index scheduler operation
      (watch.schedulerAfter index scheduler (.report other)).window := by
  simp only [schedulerAfter]
  split
  · next same => exact .reported calls (by simp [renews, same])
  · next different => exact .idle calls (by simp [renews, different])

variable (found : watch.schedulers[index]? = some scheduler)

include found

theorem windowStep_start :
    WindowStep watch index scheduler (.start other)
      (watch.schedulerAfter index scheduler (.start other)).window := by
  have renews : watch.renewsWindow index (.start other) =
      (other == index && !scheduler.started.isSet) := by
    rw [renewsWindow, opensWindow, isStarted_eq found]
  simp only [schedulerAfter]
  split
  · next same =>
      subst same
      rw [Scheduler.start]
      split
      · next started => exact .idle rfl (by simp [renews, started])
      · next stopped => exact .renewed rfl (by simp [renews, stopped])
  · next different => exact .idle rfl (by simp [renews, different])

/-- An attempt is made unless the scheduler was stopped meanwhile. -/
theorem windowStep_attemptDue (attempt : Scheduler.Attempt) :
    WindowStep watch index scheduler (.perform (.attemptDue other attempt))
      (watch.schedulerAfter index scheduler (.perform (.attemptDue other attempt))).window := by
  simp only [schedulerAfter]
  split
  · next same =>
      subst same
      have calls : watch.callsOf (.perform (.attemptDue other attempt)) =
          if scheduler.started.isSet then watch.startCalls other else [] := by
        rw [callsOf, isStarted_eq found]
      cases started : scheduler.started.isSet with
      | false =>
          rw [(Scheduler.attemptDue_of_stopped watch.now attempt watch.active started).1]
          exact .idle (by simp [calls, started]) rfl
      | true =>
          rw [(Scheduler.attemptDue_of_started watch.now attempt watch.active started).1]
          exact .attempted (by simp [calls, started]) rfl
  · next different =>
      refine .spared (fun call called => ?_) rfl
      rw [callsOf] at called
      split at called
      · exact scheduler_of_mem_startCalls called ▸ different
      · cases called

theorem windowStep_perform (task : Task) :
    WindowStep watch index scheduler (.perform task)
      (watch.schedulerAfter index scheduler (.perform task)).window := by
  cases task with
  | sendingEnds => exact .idle rfl rfl
  | flushTick => exact .idle rfl rfl
  | samplingTick other =>
      have spared : (watch.schedulerAfter index scheduler
          (.perform (.samplingTick other))).window = scheduler.window := by
        simp only [schedulerAfter]
        split <;> rfl
      rw [spared]
      exact .idle rfl rfl
  | attemptDue other attempt => exact windowStep_attemptDue found attempt
  | spanEnds other =>
      have windowEq : (watch.schedulerAfter index scheduler (.perform (.spanEnds other))).window =
          (watch.schedulerAfter index scheduler (.endBurst other)).window := by
        simp only [schedulerAfter]
        split <;> rfl
      rw [windowEq]
      exact windowStep_endBurst rfl rfl
  | reportTick other =>
      have windowEq : (watch.schedulerAfter index scheduler (.perform (.reportTick other))).window =
          (watch.schedulerAfter index scheduler (.report other)).window := by
        simp only [schedulerAfter]
        split <;> rfl
      rw [windowEq]
      exact windowStep_report rfl rfl

/-- Every operation makes one of these steps with the window of every scheduler. -/
theorem windowStep_schedulerAfter (operation : Operation) :
    WindowStep watch index scheduler operation
      (watch.schedulerAfter index scheduler operation).window := by
  cases operation with
  | beginBurst other => exact windowStep_beginBurst
  | endBurst other => exact windowStep_endBurst rfl rfl
  | report other => exact windowStep_report rfl rfl
  | start other => exact windowStep_start found
  | stop other =>
      have spared : (watch.schedulerAfter index scheduler (.stop other)).window =
          scheduler.window := by
        simp only [schedulerAfter]
        split <;> rfl
      rw [spared]
      exact .idle rfl rfl
  | perform task => exact windowStep_perform found task
  | moveTo instant => exact .idle rfl rfl
  | updateRecorder change => exact .idle rfl rfl

end Steps

theorem timing_of_own {own : Prop} [Decidable own] {scheduler changed : Scheduler}
    (same : changed.timing = scheduler.timing) :
    (if own then changed else scheduler).timing = scheduler.timing := by
  split
  · exact same
  · rfl

/-- No operation changes the timing of a scheduler. -/
theorem timing_schedulerAfter (watch : Watch) (index : Nat) (scheduler : Scheduler)
    (operation : Operation) :
    (watch.schedulerAfter index scheduler operation).timing = scheduler.timing := by
  cases operation with
  | beginBurst other => exact timing_of_own rfl
  | endBurst other => exact timing_of_own rfl
  | report other => exact timing_of_own rfl
  | start other =>
      apply timing_of_own
      rw [Scheduler.start]
      split <;> rfl
  | stop other => exact timing_of_own rfl
  | moveTo instant => rfl
  | updateRecorder change => rfl
  | perform task =>
      cases task with
      | sendingEnds => rfl
      | flushTick => rfl
      | samplingTick other => exact timing_of_own rfl
      | attemptDue other attempt =>
          exact timing_of_own (Scheduler.attempted_attemptDue ..).timing
      | spanEnds other => exact timing_of_own rfl
      | reportTick other => exact timing_of_own rfl

/-! ### What the logbook says -/

section Logbooks

variable {watch : Watch} {index : Nat} {scheduler : Scheduler} {operation : Operation}
  {timing : Timing} {logbook : Logbook}

theorem foldl_enter_startCalls (found : watch.schedulers[index]? = some scheduler)
    (now : Instant) :
    (watch.startCalls index).foldl (Logbook.enter index now) logbook =
      (scheduler.window.startCall? scheduler.timing watch.active).elim logbook
        (logbook.started now) := by
  rw [startCalls, found, Option.bind_some]
  cases scheduler.window.startCall? scheduler.timing watch.active with
  | none => rfl
  | some ending => exact if_pos rfl

theorem foldl_enter_stopCalls (found : watch.schedulers[index]? = some scheduler)
    (now : Instant) :
    (watch.stopCalls index).foldl (Logbook.enter index now) logbook =
      scheduler.window.stopCall?.elim logbook (logbook.stopped now) := by
  rw [stopCalls, found, Option.bind_some]
  cases scheduler.window.stopCall? with
  | none => rfl
  | some ending => exact if_pos rfl

theorem logbookAfter_of_renews (calls : watch.callsOf operation = [])
    (renews : watch.renewsWindow index operation = true) :
    watch.logbookAfter index operation logbook = logbook.renewed := by
  simp [logbookAfter, calls, renews]

theorem logbookAfter_of_stays (stays : watch.renewsWindow index operation = false) :
    watch.logbookAfter index operation logbook =
      (watch.callsOf operation).foldl (Logbook.enter index watch.now) logbook := by
  simp [logbookAfter, stays]

/-- The calls of an attempt are starts of the sampler. One that does not return is not entered. -/
theorem logbookAfter_of_attempt (attempts : operation.attempts index = true)
    (unbegun : .start index (.returned ()) ∉ watch.callsOf operation) :
    watch.logbookAfter index operation logbook = logbook := by
  have starts : ∀ call ∈ watch.callsOf operation, ∃ ending, call = .start index ending := by
    intro call called
    obtain ⟨other, ⟨started, caller⟩ | ⟨-, caller⟩⟩ := of_mem_callsOf called
    · rcases caller with rfl | ⟨attempt, rfl⟩
      · exact beq_iff_eq.mp attempts ▸ eq_of_mem_startCalls started
      · exact beq_iff_eq.mp attempts ▸ eq_of_mem_startCalls started
    · rcases caller with rfl | rfl <;> cases attempts
  have stays : watch.renewsWindow index operation = false := by
    cases operation with
    | beginBurst other => rfl
    | perform task => cases task <;> first | rfl | cases attempts
    | endBurst other => cases attempts
    | report other => cases attempts
    | start other => cases attempts
    | stop other => cases attempts
    | moveTo instant => cases attempts
    | updateRecorder change => cases attempts
  rw [logbookAfter_of_stays stays]
  apply Logbook.foldl_enter_eq_self
  intro call called
  obtain ⟨ending, rfl⟩ := starts call called
  cases ending with
  | returned => exact absurd called unbegun
  | failed error => exact if_pos rfl
  | crashed crash => exact if_pos rfl

/-- The window of a scheduler counts what its logbook says, and that is within its timing. -/
structure Keeps (timing : Timing) (logbook : Logbook) (scheduler : Scheduler) : Prop where
  timed : scheduler.timing = timing
  account : scheduler.window.account = logbook.account
  within : logbook.Within timing

/-- Whoever starts the sampler of a scheduler has found room for one more burst. -/
theorem Keeps.room {ending : Outcome SamplerError Unit} (keeps : Keeps timing logbook scheduler)
    (found : watch.schedulers[index]? = some scheduler)
    (started : .start index ending ∈ watch.startCalls index) : logbook.Room timing := by
  obtain ⟨_, called, same⟩ := Option.map_eq_some_iff.mp (Option.mem_toList.mp started)
  cases same
  rw [found, Option.bind_some] at called
  exact keeps.timed ▸ Window.room_of_startCall? keeps.account called

/-- What an operation makes of a window is what the logbook then says. -/
theorem Keeps.windowStep {after : Window} (keeps : Keeps timing logbook scheduler)
    (found : watch.schedulers[index]? = some scheduler)
    (step : WindowStep watch index scheduler operation after) :
    after.account = (watch.logbookAfter index operation logbook).account ∧
      (watch.logbookAfter index operation logbook).Within timing := by
  cases step with
  | spared silent stays =>
      have unchanged : watch.logbookAfter index operation logbook = logbook := by
        rw [logbookAfter_of_stays stays]
        apply Logbook.foldl_enter_eq_self
        intro call called
        exact Logbook.enter_of_scheduler_ne (silent call called)
      rw [unchanged]
      exact ⟨keeps.account, keeps.within⟩
  | attempted calls stays =>
      rw [logbookAfter_of_stays stays, calls, foldl_enter_startCalls found]
      refine ⟨Window.account_beginBurst keeps.account, ?_⟩
      cases called : scheduler.window.startCall? scheduler.timing watch.active with
      | none => exact keeps.within
      | some ending =>
          have room := Window.room_of_startCall? keeps.account called
          exact keeps.within.started watch.now (keeps.timed ▸ room)
  | ended calls stays =>
      rw [logbookAfter_of_stays stays, calls, foldl_enter_stopCalls found]
      refine ⟨Window.account_endBurst keeps.account, ?_⟩
      cases scheduler.window.stopCall? with
      | none => exact keeps.within
      | some ending => exact keeps.within.stopped watch.now
  | reported calls renews =>
      rw [report_result found] at renews
      rcases Window.account_report keeps.account watch.origin watch.externalProcess with
        ⟨result, account⟩ | ⟨⟨crash, result⟩, account⟩
      · rw [result] at renews
        rw [logbookAfter_of_renews calls renews]
        exact ⟨account, .renewed timing logbook⟩
      · rw [result] at renews
        rw [logbookAfter_of_stays renews, calls]
        exact ⟨account, keeps.within⟩
  | renewed calls renews =>
      rw [logbookAfter_of_renews calls renews]
      exact ⟨Window.account_renew keeps.account, .renewed timing logbook⟩

theorem Keeps.schedulerAfter (keeps : Keeps timing logbook scheduler)
    (found : watch.schedulers[index]? = some scheduler) (operation : Operation) :
    Keeps timing (watch.logbookAfter index operation logbook)
      (watch.schedulerAfter index scheduler operation) := by
  obtain ⟨account, within⟩ := keeps.windowStep found (windowStep_schedulerAfter found operation)
  exact ⟨(timing_schedulerAfter ..).trans keeps.timed, account, within⟩

end Logbooks

/-- One of the schedulers of a watch keeps to its logbook. -/
def KeepsBudget (timing : Timing) (logbook : Logbook) (index : Nat) (watch : Watch) : Prop :=
  ∃ scheduler, watch.schedulers[index]? = some scheduler ∧ Keeps timing logbook scheduler

namespace KeepsBudget

variable {timing : Timing} {logbook : Logbook} {index : Nat} {watch : Watch}
  (keeps : watch.KeepsBudget timing logbook index)

include keeps

theorem apply (operation : Operation) :
    (watch.apply operation).KeepsBudget timing (watch.logbookAfter index operation logbook)
      index := by
  obtain ⟨scheduler, found, ofScheduler⟩ := keeps
  exact ⟨_, getElem?_apply found operation, ofScheduler.schedulerAfter found operation⟩

theorem run (operations : List Operation) :
    (watch.run operations).KeepsBudget timing (logbookSince index watch logbook operations)
      index := by
  induction operations generalizing watch logbook with
  | nil => exact keeps
  | cons operation rest inductionHypothesis => exact inductionHypothesis (keeps.apply operation)

theorem account_eq : (watch.window? index).map Window.account = some logbook.account := by
  obtain ⟨scheduler, found, ofScheduler⟩ := keeps
  rw [window?_of_getElem? found, Option.map_some, ofScheduler.account]

theorem within : logbook.Within timing := by
  obtain ⟨_, -, ofScheduler⟩ := keeps
  exact ofScheduler.within

/-- Nobody starts the sampler of a scheduler without room for one more burst. -/
theorem room {operation : Operation} {ending : Outcome SamplerError Unit}
    (started : .start index ending ∈ watch.callsOf operation) : logbook.Room timing := by
  obtain ⟨scheduler, found, ofScheduler⟩ := keeps
  obtain ⟨other, ⟨called, -⟩ | ⟨called, -⟩⟩ := of_mem_callsOf started
  · have same : index = other := scheduler_of_mem_startCalls called
    subst same
    exact ofScheduler.room found called
  · obtain ⟨_, impossible⟩ := eq_of_mem_stopCalls called
    cases impossible

end KeepsBudget

/-- In every run of a watch, the window of a scheduler counts exactly what the calls of its sampler
    tell since the window was opened. No more bursts begin in it than are allowed, and the sampler
    is not even asked to start once that many have begun or more was sampled than is allowed. An
    attempt that begins no burst leaves the account as it was. If no burst that ends in the window
    lasts longer than some time, no more is sampled than is allowed and that time, whether or not a
    burst was under way when the window was opened. -/
theorem bursts_keep_to_budget (watch : Watch) (index : Nat) (sampler : Sampler) (timing : Timing)
    (offsets : Nat → Duration) (created : Instant)
    (found : watch.schedulers[index]? = some (.create sampler timing offsets created))
    (operations : List Operation) :
    let present := watch.run operations
    let logbook := logbookSince index watch {} operations
    (present.window? index).map Window.account = some logbook.account ∧
      logbook.spans ≤ timing.maxSpanCount ∧
      (∀ operation ending, .start index ending ∈ present.callsOf operation →
        logbook.spans < timing.maxSpanCount ∧ logbook.sampled ≤ timing.maxProfileDuration) ∧
      ((present.beginBurst index).1 = .ok true ↔
        .start index (.returned ()) ∈ present.callsOf (.beginBurst index)) ∧
      (∀ operation, operation.attempts index = true →
        .start index (.returned ()) ∉ present.callsOf operation →
          ((present.apply operation).window? index).map Window.account =
            (present.window? index).map Window.account) ∧
      ∀ longest, (∀ length ∈ logbook.lengths, length ≤ longest) →
        logbook.sampled ≤ timing.maxProfileDuration + longest := by
  intro present logbook
  have fresh : watch.KeepsBudget timing {} index := ⟨_, found, rfl, rfl, .renewed timing {}⟩
  have keeps : present.KeepsBudget timing logbook index := fresh.run operations
  refine ⟨keeps.account_eq, keeps.within.spans, ?_, beginBurst_eq_true_iff present index, ?_, ?_⟩
  · intro operation ending started
    exact ⟨(keeps.room started).spans, (keeps.room started).sampled⟩
  · intro operation attempts unbegun
    have kept := keeps.apply operation
    rw [logbookAfter_of_attempt attempts unbegun] at kept
    rw [kept.account_eq, keeps.account_eq]
  · intro longest each
    exact keeps.within.sampled_le each

/-- Eleven bursts of two seconds. A report comes in the middle of the first one. -/
def elevenBursts : List Operation :=
  [.beginBurst 0, .moveTo (Duration.ofSeconds 1), .report 0, .moveTo (Duration.ofSeconds 2),
    .endBurst 0] ++
  (List.range 10).flatMap fun count =>
    [.beginBurst 0, .moveTo (Duration.ofSeconds (2 * count + 4)), .endBurst 0]

/-- The last of these bursts begins when exactly as much was sampled as is allowed, so all that can
    be sampled is sampled. One more is refused. -/
theorem bursts_keep_to_budget_eleven :
    let present := mainWatch.run elevenBursts
    let logbook := logbookSince 0 mainWatch {} elevenBursts
    (present.window? 0).map Window.account = some logbook.account ∧
      logbook.lengths = List.replicate 11 (Duration.ofSeconds 2) ∧ logbook.spans = 10 ∧
      logbook.sampled = Timing.cpu.maxProfileDuration + Duration.ofSeconds 2 ∧
      (present.beginBurst 0).1 = .ok false ∧
      ((present.apply (.beginBurst 0)).window? 0).map Window.account =
        (present.window? 0).map Window.account := by
  intro present logbook
  have lengths : logbook.lengths = List.replicate 11 (Duration.ofSeconds 2) := by decide +kernel
  have refused : (present.beginBurst 0).1 = .ok false := by decide +kernel
  obtain ⟨account, -, -, begins, costless, bounded⟩ := bursts_keep_to_budget mainWatch 0 _ .cpu
    (fun _ => 0) 0 rfl elevenBursts
  have unbegun : .start 0 (.returned ()) ∉ present.callsOf (.beginBurst 0) := by
    rw [← begins, refused]
    simp
  refine ⟨account, lengths, by decide +kernel, ?_, refused, costless _ rfl unbegun⟩
  apply Nat.le_antisymm
  · apply bounded
    intro length member
    exact Nat.le_of_eq (List.eq_of_mem_replicate (lengths ▸ member))
  · have sampled : logbook.sampled = Duration.ofSeconds 22 := by decide +kernel
    rw [sampled]
    decide

end Watch

end Stackwatch

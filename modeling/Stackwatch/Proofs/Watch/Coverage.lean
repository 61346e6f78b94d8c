import Stackwatch.Proofs.Burst.Coverage
import Stackwatch.Proofs.Watch.Punctual
import Stackwatch.Proofs.Watch.Reports

/-!
# Sampled time and the time it is said to lie in

A profile states how long was sampled and how much time its window spans. Reports come in the middle
of bursts as well, and a burst counts as a whole in the window in which it ends. The main statement
says how far the first number can exceed the second: by what the burst under way had lasted when the
window was opened, less what the burst under way has lasted at the end, which is left to the next
window. Without such a burst the sampled time lies in the window; with one it need not.
-/

namespace Stackwatch

namespace Watch

/-- Whether an operation opens a new window of a scheduler. A report whose sampler crashes leaves
    the window as it is. -/
def renewsWindow (watch : Watch) (index : Nat) : Operation → Bool
  | .start other => watch.opensWindow index (.start other)
  | operation => watch.opensWindow index operation && (watch.report index).1.isOk

/-- How long the burst under way of a scheduler has lasted, if there is one. -/
def underWayFor (watch : Watch) (index : Nat) : Duration :=
  ((watch.window? index).map fun window => window.underWayFor watch.now).getD 0

/-- What the window of a scheduler has taken over when an operation is over, given what it had taken
    over before: the length so far of the burst under way when it was opened. -/
def carriedAfter (watch : Watch) (index : Nat) (operation : Operation) (carried : Duration) :
    Duration :=
  if watch.renewsWindow index operation then watch.underWayFor index else carried

/-- What the window of a scheduler has taken over when some operations are over. -/
def carriedSince (index : Nat) : Watch → Duration → List Operation → Duration
  | _, carried, [] => carried
  | watch, carried, operation :: rest =>
      carriedSince index (watch.apply operation) (watch.carriedAfter index operation carried) rest

section

variable {watch : Watch} {index : Nat} {scheduler : Scheduler} {carried : Duration}

theorem underWayFor_eq (found : watch.schedulers[index]? = some scheduler) :
    watch.underWayFor index = scheduler.window.underWayFor watch.now := by
  rw [underWayFor, window?_of_getElem? found]
  rfl

theorem carriedAfter_of_renews {operation : Operation}
    (renews : watch.renewsWindow index operation = true) :
    watch.carriedAfter index operation carried = watch.underWayFor index := by
  rw [carriedAfter, if_pos renews]

theorem carriedAfter_of_stays {operation : Operation}
    (stays : watch.renewsWindow index operation = false) :
    watch.carriedAfter index operation carried = carried := by
  rw [carriedAfter, stays]
  rfl

theorem report_result (found : watch.schedulers[index]? = some scheduler) :
    (watch.report index).1 =
      (scheduler.window.report scheduler.timing watch.now watch.origin
        watch.externalProcess).result := by
  rw [report, found]

variable (found : watch.schedulers[index]? = some scheduler)
  (covers : scheduler.window.Covers carried watch.now)

include covers

/-- What concerns another scheduler leaves the window as it is. -/
theorem covers_of_own {own : Prop} [Decidable own] {changed : Scheduler}
    (after : own → changed.window.Covers carried watch.now) :
    Window.Covers carried watch.now (if own then changed else scheduler).window := by
  split
  · next same => exact after same
  · exact covers

include found

/-- A report takes over what the burst under way has lasted, if it is the scheduler's own. -/
theorem covers_report {other : Nat} :
    (watch.schedulerAfter index scheduler (.report other)).window.Covers
      (watch.carriedAfter index (.report other) carried) watch.now := by
  by_cases same : other = index
  · subst same
    have renews : watch.renewsWindow other (.report other) = (watch.report other).1.isOk := by
      simp [renewsWindow, opensWindow]
    rw [schedulerAfter, if_pos rfl, carriedAfter, renews, report_result found,
      underWayFor_eq found]
    exact covers.report watch.origin watch.externalProcess
  · rw [carriedAfter_of_stays (by simp [renewsWindow, opensWindow, same]), schedulerAfter,
      if_neg same]
    exact covers

/-- A start that is not ignored takes over what the burst under way has lasted. -/
theorem covers_start {other : Nat} :
    (watch.schedulerAfter index scheduler (.start other)).window.Covers
      (watch.carriedAfter index (.start other) carried) watch.now := by
  have renews : watch.renewsWindow index (.start other) =
      (other == index && !scheduler.started.isSet) := by
    rw [renewsWindow, opensWindow, isStarted_eq found]
  by_cases same : other = index
  · subst same
    rw [schedulerAfter, if_pos rfl, Scheduler.start]
    split
    · next started =>
        rw [carriedAfter_of_stays (by simp [renews, started])]
        exact covers
    · next stopped =>
        rw [carriedAfter_of_renews (by simp [renews, stopped]), underWayFor_eq found]
        exact .opening covers.begun rfl rfl rfl
  · rw [carriedAfter_of_stays (by simp [renews, same]), schedulerAfter, if_neg same]
    exact covers

theorem covers_perform (task : Task) :
    (watch.schedulerAfter index scheduler (.perform task)).window.Covers
      (watch.carriedAfter index (.perform task) carried) watch.now := by
  cases task with
  | sendingEnds => exact covers
  | flushTick => exact covers
  | samplingTick other =>
      rw [carriedAfter_of_stays rfl]
      exact covers_of_own covers fun _ => covers
  | attemptDue other attempt =>
      rw [carriedAfter_of_stays rfl]
      refine covers_of_own covers fun _ => ?_
      cases started : scheduler.started.isSet with
      | false =>
          rw [(Scheduler.attemptDue_of_stopped watch.now attempt watch.active started).1]
          exact covers
      | true =>
          rw [(Scheduler.attemptDue_of_started watch.now attempt watch.active started).1]
          exact covers.beginBurst
  | spanEnds other =>
      rw [carriedAfter_of_stays rfl]
      exact covers_of_own covers fun _ => covers.endBurst
  | reportTick other =>
      have windowEq : (watch.schedulerAfter index scheduler (.perform (.reportTick other))).window =
          (watch.schedulerAfter index scheduler (.report other)).window := by
        simp only [schedulerAfter]
        split <;> rfl
      rw [windowEq]
      exact covers_report found covers

/-- What an operation makes of a window counts no other time. -/
theorem covers_schedulerAfter (operation : Operation) :
    (watch.schedulerAfter index scheduler operation).window.Covers
      (watch.carriedAfter index operation carried) (watch.apply operation).now := by
  rw [now_apply]
  cases operation with
  | beginBurst other =>
      rw [carriedAfter_of_stays rfl]
      exact covers_of_own covers fun _ => covers.beginBurst
  | endBurst other =>
      rw [carriedAfter_of_stays rfl]
      exact covers_of_own covers fun _ => covers.endBurst
  | report other => exact covers_report found covers
  | start other => exact covers_start found covers
  | stop other =>
      rw [carriedAfter_of_stays rfl]
      exact covers_of_own covers fun _ => covers
  | perform task => exact covers_perform found covers task
  | moveTo instant =>
      rw [carriedAfter_of_stays rfl]
      exact covers.wait (Nat.le_max_left _ _)
  | updateRecorder change => exact covers

end

/-- The window of a scheduler counts no time but its own and some that it has taken over. -/
def Covers (watch : Watch) (index : Nat) (carried : Duration) : Prop :=
  ∃ scheduler, watch.schedulers[index]? = some scheduler ∧
    scheduler.window.Covers carried watch.now

theorem Covers.run {watch : Watch} {index : Nat} {carried : Duration}
    (covers : watch.Covers index carried) (operations : List Operation) :
    (watch.run operations).Covers index (carriedSince index watch carried operations) := by
  induction operations generalizing watch carried with
  | nil => exact covers
  | cons operation rest inductionHypothesis =>
      obtain ⟨scheduler, found, ofWindow⟩ := covers
      exact inductionHypothesis
        ⟨_, getElem?_apply found operation, covers_schedulerAfter found ofWindow operation⟩

/-- In every run of a watch, the time that a profile says was sampled is at most the time that its
    window spans and what the burst under way had lasted when the window was opened; what the burst
    under way has lasted at the end does not count yet. So it lies in the window unless a burst
    was under way when the window was opened. -/
theorem duration_le_timespan_and_carried (watch : Watch) (index : Nat) (sampler : Sampler)
    (timing : Timing) (offsets : Nat → Duration) (created : Instant)
    (found : watch.schedulers[index]? = some (.create sampler timing offsets created))
    (past : created ≤ watch.now) (operations : List Operation) :
    let present := watch.run operations
    let carried := carriedSince index watch 0 operations
    ∀ profile, present.handedOver? index = some profile →
      profile.duration + present.underWayFor index ≤ profile.timespan + carried := by
  intro present carried profile handed
  have fresh : watch.Covers index 0 := ⟨_, found, past, nofun, Nat.zero_le _⟩
  obtain ⟨scheduler, foundThen, covers⟩ := fresh.run operations
  rw [handedOver?, foundThen] at handed
  obtain ⟨duration, timespan⟩ := Window.times_of_report handed
  rw [duration, timespan, underWayFor_eq foundThen]
  exact covers.account

/-- Reports come more often than bursts, and a burst takes almost as long as there is time between
    two of them. -/
def frequentReports : Timing :=
  { Timing.cpu with
    maxSpanDuration := Duration.ofMillis 7999
    samplingInterval := Duration.ofMillis 8000
    reportInterval := Duration.ofMillis 3000 }

/-- One scheduler of processor time with frequent reports. -/
def reportingWatch : Watch :=
  { mainWatch with
    schedulers := mainWatch.schedulers.map fun scheduler =>
      { scheduler with timing := frequentReports } }

/-- What the timers bring about in the first eighteen seconds, up to the report at their end. Three
    reports come while the first burst is under way. -/
def straddledReports : List Operation :=
  [.start 0, .moveTo (Duration.ofMillis 3000), .perform (.reportTick 0),
    .moveTo (Duration.ofMillis 6000), .perform (.reportTick 0),
    .moveTo (Duration.ofMillis 8000), .perform (.samplingTick 0),
    .moveTo (Duration.ofMillis 8001),
    .perform (.attemptDue 0 { wake := Duration.ofMillis 8001, awaited := true }),
    .moveTo (Duration.ofMillis 9000), .perform (.reportTick 0),
    .moveTo (Duration.ofMillis 12000), .perform (.reportTick 0),
    .moveTo (Duration.ofMillis 15000), .perform (.reportTick 0),
    .moveTo (Duration.ofMillis 16000), .perform (.spanEnds 0), .perform (.samplingTick 0),
    .moveTo (Duration.ofMillis 16001),
    .perform (.attemptDue 0 { wake := Duration.ofMillis 16001, awaited := true }),
    .moveTo (Duration.ofMillis 18000)]

/-- The window since the last report took over what the first burst had lasted by then. -/
theorem duration_le_timespan_and_carried_straddled :
    let present := reportingWatch.run straddledReports
    carriedSince 0 reportingWatch 0 straddledReports = Duration.ofMillis 6999 ∧
      ∃ profile, present.handedOver? 0 = some profile ∧
        profile.duration + present.underWayFor 0 ≤ profile.timespan + Duration.ofMillis 6999 := by
  intro present
  have carried : carriedSince 0 reportingWatch 0 straddledReports = Duration.ofMillis 6999 := by
    decide +kernel
  have handed : (present.handedOver? 0).isSome = true := by decide +kernel
  obtain ⟨profile, found⟩ := Option.isSome_iff_exists.mp handed
  refine ⟨carried, profile, found, ?_⟩
  rw [← carried]
  exact duration_le_timespan_and_carried reportingWatch 0 _ frequentReports (fun _ => 0) 0 rfl
    (Nat.le_refl 0) straddledReports profile found

/-- The sampled time need not lie in the window: a burst of eight seconds counts as a whole in a
    window of three. -/
theorem sampled_before_window :
    ¬ ∀ (watch : Watch) (index : Nat) (sampler : Sampler) (timing : Timing)
      (offsets : Nat → Duration) (created : Instant),
      watch.schedulers[index]? = some (.create sampler timing offsets created) →
      created ≤ watch.now → timing.validate = .ok () →
      (∀ count, offsets count < timing.offsetRange) →
      ∀ operations, watch.Plays index operations →
        ∀ profile, (watch.run operations).handedOver? index = some profile →
          profile.duration ≤ profile.timespan := by
  intro inside
  have plays : reportingWatch.Plays 0 straddledReports := by decide +kernel
  have handed : ((reportingWatch.run straddledReports).handedOver? 0).isSome = true := by
    decide +kernel
  have exceeds : ∀ profile ∈ (reportingWatch.run straddledReports).handedOver? 0,
      profile.timespan < profile.duration := by
    decide +kernel
  obtain ⟨profile, found⟩ := Option.isSome_iff_exists.mp handed
  exact absurd (exceeds profile found)
    (Nat.not_lt.mpr (inside reportingWatch 0 _ frequentReports (fun _ => 0) 0 rfl (Nat.le_refl 0)
      rfl (fun _ => by decide) straddledReports plays profile found))

end Watch

end Stackwatch

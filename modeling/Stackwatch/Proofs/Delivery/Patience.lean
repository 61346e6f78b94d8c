import Mathlib.Data.Option.Basic
import Stackwatch.Proofs.Delivery.Run
import Stackwatch.Proofs.Timer.Deadlines

/-!
# How much a recorder can still do

A tick of the flush timer leads to one delivery at most, at once or after those in line. So what a
recorder does by itself up to an instant is limited by the ticks that its timer has left and by the
length of the line.
-/

namespace Stackwatch.Recorder

/-- The flush timer fires once per interval. -/
def Steady (recorder : Recorder) : Prop := ∀ timer ∈ recorder.timer, timer.Steady

/-- The delivery under way, and those that may come of the line. -/
def deliveriesLeft (recorder : Recorder) : Nat :=
  (if recorder.sending.isSome then 1 else 0) + recorder.line.length

/-- More than a recorder can do by itself up to an instant. -/
def eventsLeft (target now : Instant) (recorder : Recorder) : Nat :=
  2 * Timer.ticksLeft target now recorder.timer + recorder.deliveriesLeft

/-- A recorder that nobody starts or stops: its flush timer goes on by itself. -/
structure GoesOn (recorder after : Recorder) : Prop where
  timer : Timer.GoesOn recorder.timer after.timer
  started : after.started = recorder.started
  flushInterval : after.flushInterval = recorder.flushInterval

/-- The flush timer is left alone, or goes on after a job. -/
structure KeepsTimer (recorder after : Recorder) : Prop extends GoesOn recorder after where
  ticks : ∀ target now,
    Timer.ticksLeft target now after.timer = Timer.ticksLeft target now recorder.timer

theorem GoesOn.refl (recorder : Recorder) : GoesOn recorder recorder := ⟨.begun, rfl, rfl⟩

theorem GoesOn.trans {recorder middle after : Recorder} (first : GoesOn recorder middle)
    (second : GoesOn middle after) : GoesOn recorder after where
  timer := first.timer.trans second.timer
  started := second.started.trans first.started
  flushInterval := second.flushInterval.trans first.flushInterval

theorem GoesOn.steady {recorder after : Recorder} (goesOn : GoesOn recorder after)
    (steady : recorder.Steady) : after.Steady := goesOn.timer.steady steady

theorem KeepsTimer.trans {recorder middle after : Recorder} (first : KeepsTimer recorder middle)
    (second : KeepsTimer middle after) : KeepsTimer recorder after where
  toGoesOn := first.toGoesOn.trans second.toGoesOn
  ticks := fun target now => (second.ticks target now).trans (first.ticks target now)

theorem KeepsTimer.of_eq {recorder after : Recorder} (same : after.timer = recorder.timer)
    (started : after.started = recorder.started)
    (flushInterval : after.flushInterval = recorder.flushInterval) : KeepsTimer recorder after where
  timer := same ▸ .begun
  started := started
  flushInterval := flushInterval
  ticks := fun _ _ => by rw [same]

theorem KeepsTimer.of_jobEnded {recorder after : Recorder}
    (ended : after.timer = recorder.timer.map Timer.jobEnded)
    (started : after.started = recorder.started)
    (flushInterval : after.flushInterval = recorder.flushInterval) : KeepsTimer recorder after where
  timer := ended ▸ Timer.GoesOn.begun.jobEnded
  started := started
  flushInterval := flushInterval
  ticks := fun _ _ => by rw [ended, Timer.ticksLeft_jobEnded]

section

variable (clock : Clock) (caller : Caller) {target now : Instant}

theorem eventsLeft_le (target now : Instant) (recorder : Recorder) :
    recorder.eventsLeft target now ≤
      2 * (target - now + Timer.tolerance + 1) + (recorder.line.length + 1) := by
  have one : (if recorder.sending.isSome then 1 else 0) ≤ 1 := by
    split
    · exact Nat.le_refl 1
    · exact Nat.zero_le 1
  refine Nat.add_le_add (Nat.mul_le_mul_left 2 (Timer.ticksLeft_le ..)) ?_
  rw [Nat.add_comm recorder.line.length]
  exact Nat.add_le_add_right one _

/-- While time passes there is no more to do. -/
theorem eventsLeft_anti {later : Instant} (target : Instant) (inOrder : now ≤ later)
    (recorder : Recorder) : recorder.eventsLeft target later ≤ recorder.eventsLeft target now :=
  Nat.add_le_add_right (Nat.mul_le_mul_left 2 (Timer.ticksLeft_anti inOrder)) _

theorem keepsTimer_answer (crash? : Option Crash) (recorder : Recorder) :
    KeepsTimer recorder (recorder.answer caller crash?) := by
  cases caller with
  | timer => exact .of_jobEnded rfl rfl rfl
  | waiting => exact .of_eq rfl rfl rfl
  | background => exact .of_eq rfl rfl rfl

/-- Of some callers each is served at once or waits for the delivery of another. -/
theorem serve_left (callers : List Caller) {recorder : Recorder} (idle : recorder.sending = none) :
    KeepsTimer recorder (recorder.serve clock callers) ∧
      (recorder.serve clock callers).deliveriesLeft ≤ callers.length := by
  induction callers generalizing recorder with
  | nil => exact ⟨.of_eq rfl rfl rfl, by simp [serve, deliveriesLeft, idle]⟩
  | cons caller rest inductionHypothesis =>
      rw [serve]
      split
      · refine ⟨.of_eq rfl rfl rfl, ?_⟩
        rw [List.length_cons, Nat.add_comm]
        exact Nat.le_refl _
      · have still : (recorder.answer caller none).sending = none := by
          rw [answer_sending, idle]
        obtain ⟨keeps, fewer⟩ := inductionHypothesis still
        exact ⟨(keepsTimer_answer caller none recorder).trans keeps, Nat.le_succ_of_le fewer⟩

/-- A flush adds one delivery at most. -/
theorem flush_left (recorder : Recorder) :
    KeepsTimer recorder (recorder.flush clock caller) ∧
      (recorder.flush clock caller).deliveriesLeft ≤ recorder.deliveriesLeft + 1 := by
  unfold flush
  split
  · refine ⟨.of_eq rfl rfl rfl, ?_⟩
    simp [deliveriesLeft, Nat.add_assoc]
  · next free =>
      have idle : recorder.sending = none := by simpa using free
      obtain ⟨keeps, one⟩ := serve_left clock [caller] idle
      exact ⟨keeps, Nat.le_trans one (Nat.le_add_left _ _)⟩

/-- The end of a delivery leads to another only if somebody is in line. -/
theorem sendingEnds_left {recorder : Recorder} {sending : Sending}
    (busy : recorder.sending = some sending) :
    KeepsTimer recorder (recorder.sendingEnds clock) ∧
      (recorder.sendingEnds clock).deliveriesLeft < recorder.deliveriesLeft := by
  rw [sendingEnds_of_some busy]
  obtain ⟨keeps, fewer⟩ := serve_left clock recorder.line (settled_sending sending recorder)
  have settles : KeepsTimer recorder (recorder.settled sending) := by
    refine KeepsTimer.trans ?_ (keepsTimer_answer ..)
    exact .of_eq rfl rfl rfl
  refine ⟨settles.trans keeps, Nat.lt_of_le_of_lt fewer ?_⟩
  simp [deliveriesLeft, busy]

theorem goesOn_tick (recorder : Recorder) : GoesOn recorder (recorder.tick clock) := by
  have fires : GoesOn recorder
      { recorder with timer := recorder.timer.map (Timer.fire clock.now) } :=
    ⟨Timer.GoesOn.begun.fired clock.now, rfl, rfl⟩
  exact fires.trans (flush_left clock .timer _).1.toGoesOn

theorem goesOn_sendingEnds (recorder : Recorder) :
    GoesOn recorder (recorder.sendingEnds clock) := by
  cases busy : recorder.sending with
  | none =>
      rw [Recorder.sendingEnds, busy]
      exact .refl recorder
  | some sending => exact (sendingEnds_left clock busy).1.toGoesOn

theorem Steady.tick {recorder : Recorder} (steady : recorder.Steady) :
    (recorder.tick clock).Steady := (goesOn_tick clock recorder).steady steady

theorem Steady.sendingEnds {recorder : Recorder} (steady : recorder.Steady) :
    (recorder.sendingEnds clock).Steady := (goesOn_sendingEnds clock recorder).steady steady

theorem Steady.start {recorder : Recorder} (steady : recorder.Steady) :
    (recorder.start clock).Steady := by
  unfold Recorder.start
  split
  · exact steady
  · rintro timer ⟨⟩
    exact Timer.steady_every ..

/-- An event that neither starts nor stops the flush timer. -/
def Event.LeavesTimer : Event → Prop
  | .start _ => False
  | .stop => False
  | _ => True

theorem goesOn_apply (recorder : Recorder) {event : Event} (leaves : event.LeavesTimer) :
    GoesOn recorder (recorder.apply event) := by
  cases event with
  | record profile => exact ⟨.begun, rfl, rfl⟩
  | flush clock caller => exact (flush_left clock caller recorder).1.toGoesOn
  | tick clock => exact goesOn_tick clock recorder
  | sendingEnds clock => exact goesOn_sendingEnds clock recorder
  | start clock => cases leaves
  | stop => cases leaves
  | reporterChanges change => exact ⟨.begun, rfl, rfl⟩

/-- Nothing that can happen to a recorder tampers with its timer. -/
theorem Steady.apply {recorder : Recorder} (steady : recorder.Steady) (event : Event) :
    (recorder.apply event).Steady := by
  by_cases leaves : event.LeavesTimer
  · exact (goesOn_apply recorder leaves).steady steady
  · cases event with
    | start clock => exact steady.start clock
    | stop => exact fun _ => nofun
    | _ => exact absurd trivial leaves

/-- A tick of the flush timer leads to one delivery at most. -/
theorem eventsLeft_tick {recorder : Recorder} {time : Instant} (steady : recorder.Steady)
    (due : recorder.timer.bind Timer.due? = some time) (come : time ≤ clock.now)
    (ahead : clock.now ≤ target) :
    (recorder.tick clock).eventsLeft target clock.now < recorder.eventsLeft target clock.now := by
  have uses (before after left more : Nat) (fewer : after < before) (one : more ≤ left + 1) :
      2 * after + more < 2 * before + left := by omega
  obtain ⟨keeps, one⟩ :=
    flush_left clock .timer { recorder with timer := recorder.timer.map (Timer.fire clock.now) }
  have fewer : Timer.ticksLeft target clock.now (recorder.tick clock).timer <
      Timer.ticksLeft target clock.now recorder.timer := by
    rw [tick, keeps.ticks]
    exact Timer.ticksLeft_fire steady due come ahead
  exact uses _ _ _ _ fewer one

theorem eventsLeft_sendingEnds {recorder : Recorder} {sending : Sending}
    (busy : recorder.sending = some sending) :
    (recorder.sendingEnds clock).eventsLeft target now < recorder.eventsLeft target now := by
  obtain ⟨keeps, fewer⟩ := sendingEnds_left clock busy
  unfold eventsLeft
  rw [keeps.ticks]
  exact Nat.add_lt_add_left fewer _

end

end Stackwatch.Recorder

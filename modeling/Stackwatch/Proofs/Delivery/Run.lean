import Stackwatch.Delivery.Recorder

/-!
# Runs of a recorder

A recorder lives through events in any order: profiles arrive, callers want to flush, deliveries
end, the flush timer fires. This module says what each of its operations does to the outbox, to the
reporter and to the delivery under way, so that what holds along all runs can be proved event by
event.
-/

namespace Stackwatch

namespace Outbox

/-- A delivery takes all that waits, and only if something waits and no backoff forbids it. -/
theorem take?_eq_some_iff {now : Instant} {outbox rest : Outbox} {batch : List Json} :
    outbox.take? now = some (batch, rest) ↔
      outbox.isReady now = true ∧ outbox.queue ≠ [] ∧ batch = outbox.queue ∧
        rest = { outbox with queue := [], lastAttempt := some now } := by
  unfold take?
  by_cases free : (outbox.isReady now && !outbox.queue.isEmpty) = true
  · have filled : outbox.queue ≠ [] := by
      simpa using (Bool.and_eq_true_iff.mp free).2
    rw [if_pos free, Option.some.injEq, Prod.mk.injEq]
    constructor
    · rintro ⟨rfl, rfl⟩
      exact ⟨(Bool.and_eq_true_iff.mp free).1, filled, rfl, rfl⟩
    · rintro ⟨-, -, rfl, rfl⟩
      exact ⟨rfl, rfl⟩
  · rw [if_neg free]
    constructor
    · intro impossible
      cases impossible
    · rintro ⟨ready, filled, -⟩
      exact absurd (by simp [ready, filled]) free

end Outbox

namespace Recorder

/-- What can happen to a recorder. -/
inductive Event where
  | record (profile : Json)
  | flush (clock : Clock) (caller : Caller)
  /-- The flush timer fires. -/
  | tick (clock : Clock)
  | sendingEnds (clock : Clock)
  | start (clock : Clock)
  | stop
  /-- The reporter will treat the next batches in another way. -/
  | reporterChanges (change : Reporter → Reporter)

/-- The profile that an event brings. -/
def Event.profile? : Event → Option Json
  | .record profile => some profile
  | _ => none

/-- Lets an event happen. -/
def apply (recorder : Recorder) : Event → Recorder
  | .record profile => recorder.record profile
  | .flush clock caller => recorder.flush clock caller
  | .tick clock => recorder.tick clock
  | .sendingEnds clock => recorder.sendingEnds clock
  | .start clock => recorder.start clock
  | .stop => recorder.stop
  | .reporterChanges change => { recorder with reporter := change recorder.reporter }

/-- Lets events happen one after the other. -/
def run (events : List Event) (recorder : Recorder) : Recorder := events.foldl apply recorder

/-- Whether one of some callers finds something to send. -/
def finds (clock : Clock) (callers : List Caller) (recorder : Recorder) : Bool :=
  !callers.isEmpty && (recorder.outbox.take? clock.now).isSome

section Views

variable (clock : Clock) (caller : Caller) (crash? : Option Crash) (notices : List Notice)
  (recorder : Recorder)

@[simp] theorem tell_outbox : (recorder.tell notices).outbox = recorder.outbox := rfl

@[simp] theorem tell_reporter : (recorder.tell notices).reporter = recorder.reporter := rfl

@[simp] theorem tell_sending : (recorder.tell notices).sending = recorder.sending := rfl

@[simp] theorem tell_line : (recorder.tell notices).line = recorder.line := rfl

@[simp] theorem answer_outbox : (recorder.answer caller crash?).outbox = recorder.outbox := by
  cases caller <;> rfl

@[simp] theorem answer_reporter : (recorder.answer caller crash?).reporter = recorder.reporter := by
  cases caller <;> rfl

@[simp] theorem answer_sending : (recorder.answer caller crash?).sending = recorder.sending := by
  cases caller <;> rfl

@[simp] theorem answer_line : (recorder.answer caller crash?).line = recorder.line := by
  cases caller <;> rfl

end Views

/-- Serving callers none of whom finds anything changes neither outbox nor reporter, and begins no
    delivery. -/
theorem serve_of_finds_eq_false {clock : Clock} {callers : List Caller} {recorder : Recorder}
    (idle : recorder.finds clock callers = false) :
    (recorder.serve clock callers).outbox = recorder.outbox ∧
      (recorder.serve clock callers).reporter = recorder.reporter ∧
      (recorder.serve clock callers).sending = recorder.sending := by
  induction callers generalizing recorder with
  | nil => exact ⟨rfl, rfl, rfl⟩
  | cons caller rest inductionHypothesis =>
      have nothing : recorder.outbox.take? clock.now = none := by
        simpa [finds] using idle
      have still : (recorder.answer caller none).finds clock rest = false := by
        simp [finds, nothing]
      obtain ⟨outbox, reporter, sending⟩ := inductionHypothesis still
      simp only [serve, nothing]
      exact ⟨outbox.trans (answer_outbox ..), reporter.trans (answer_reporter ..),
        sending.trans (answer_sending ..)⟩

/-- The first caller who finds something empties the queue and hands the reporter all that was in
    it. -/
theorem serve_of_finds {clock : Clock} {callers : List Caller} {recorder : Recorder}
    (found : recorder.finds clock callers = true) :
    recorder.outbox.queue ≠ [] ∧
      (recorder.serve clock callers).outbox =
        { recorder.outbox with queue := [], lastAttempt := some clock.now } ∧
      (recorder.serve clock callers).reporter =
        (recorder.reporter.deliver clock recorder.outbox.queue).2 ∧
      ∃ sending, (recorder.serve clock callers).sending = some sending ∧
        sending.batch = recorder.outbox.queue ∧
        sending.ending = (recorder.reporter.deliver clock recorder.outbox.queue).1.ending := by
  cases callers with
  | nil => simp [finds] at found
  | cons caller rest =>
      have taken : (recorder.outbox.take? clock.now).isSome = true := by
        simpa [finds] using found
      obtain ⟨⟨batch, outbox⟩, taken⟩ := Option.isSome_iff_exists.mp taken
      obtain ⟨-, filled, rfl, rfl⟩ := Outbox.take?_eq_some_iff.mp taken
      simp only [serve, taken]
      exact ⟨filled, rfl, rfl, _, rfl, rfl, rfl⟩

/-- The recorder after the end of a delivery, before those in line are served. -/
def settled (sending : Sending) (recorder : Recorder) : Recorder :=
  ({ recorder with
      outbox := (settle sending recorder.outbox).1
      sending := none }.tell (settle sending recorder.outbox).2).answer
    sending.caller sending.crash?

@[simp] theorem settled_outbox (sending : Sending) (recorder : Recorder) :
    (recorder.settled sending).outbox = (settle sending recorder.outbox).1 :=
  answer_outbox ..

@[simp] theorem settled_reporter (sending : Sending) (recorder : Recorder) :
    (recorder.settled sending).reporter = recorder.reporter :=
  answer_reporter ..

@[simp] theorem settled_sending (sending : Sending) (recorder : Recorder) :
    (recorder.settled sending).sending = none :=
  answer_sending ..

@[simp] theorem settled_line (sending : Sending) (recorder : Recorder) :
    (recorder.settled sending).line = recorder.line :=
  answer_line ..

/-- A delivery under way ends by settling its batch and serving those in line. -/
theorem sendingEnds_of_some {recorder : Recorder} {sending : Sending}
    (busy : recorder.sending = some sending) (clock : Clock) :
    recorder.sendingEnds clock = (recorder.settled sending).serve clock recorder.line := by
  rw [← settled_line sending recorder]
  simp only [sendingEnds, busy]
  rfl

end Recorder

end Stackwatch

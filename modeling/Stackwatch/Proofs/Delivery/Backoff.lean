import Mathlib.Algebra.Ring.Nat
import Mathlib.Data.List.Basic
import Mathlib.Data.Option.Basic
import Stackwatch.Proofs.Delivery.Run

/-!
# The backoff of a recorder

How long a recorder waits before it tries again depends on its history alone: on when its last
delivery began, and on how many have failed in a row. A chronicle keeps that history beside the
recorder; it is read off the deliveries that are under way before and after each event. The main
statement is that a recorder follows its chronicle in every run: it never tries too early, whoever
wants to flush and finds something to send once the backoff is over does send, and a flush that
comes too early or finds nothing leaves no trace.
-/

namespace Stackwatch

namespace Outbox

theorem isReady_iff {now : Instant} {outbox : Outbox} :
    outbox.isReady now = true ↔ ∀ last ∈ outbox.lastAttempt, last + outbox.backoff ≤ now := by
  unfold isReady
  cases outbox.lastAttempt <;> simp

/-- Whether a flush at this time takes anything out. -/
def Sendable (now : Instant) (outbox : Outbox) : Prop :=
  outbox.isReady now = true ∧ outbox.queue ≠ []

/-- What a flush leaves behind that takes everything out. -/
def emptiedAt (now : Instant) (outbox : Outbox) : Outbox :=
  { outbox with queue := [], lastAttempt := some now }

theorem take?_of_sendable {now : Instant} {outbox : Outbox} (sendable : outbox.Sendable now) :
    outbox.take? now = some (outbox.queue, outbox.emptiedAt now) :=
  take?_eq_some_iff.mpr ⟨sendable.1, sendable.2, rfl, rfl⟩

theorem take?_of_not_sendable {now : Instant} {outbox : Outbox}
    (held : ¬ outbox.Sendable now) : outbox.take? now = none := by
  cases taken : outbox.take? now with
  | none => rfl
  | some found =>
      obtain ⟨ready, filled, -⟩ := take?_eq_some_iff.mp taken
      exact absurd ⟨ready, filled⟩ held

theorem add_keeps (profile : Json) (outbox : Outbox) :
    (outbox.add profile).backoff = outbox.backoff ∧
      (outbox.add profile).lastAttempt = outbox.lastAttempt := by
  unfold add
  split <;> exact ⟨rfl, rfl⟩

end Outbox

/-- The backoff after a number of failures in a row: ten seconds, then twice as long each time, and
    a minute at most. -/
def backoffAfter : (failures : Nat) → Duration
  | 0 => 0
  | failures + 1 => min (Duration.ofSeconds (10 * 2 ^ failures)) (Duration.ofSeconds 60)

theorem nextBackoff_backoffAfter (failures : Nat) :
    Outbox.nextBackoff (backoffAfter failures) = backoffAfter (failures + 1) := by
  have doubled (length : Nat) :
      min (min (length * 1000000000) 60000000000 * 2) 60000000000 =
        min (length * 2 * 1000000000) 60000000000 := by
    omega
  cases failures with
  | zero => rfl
  | succ failures =>
      have positive : 0 < 10 * 2 ^ failures :=
        Nat.mul_pos (by decide) (Nat.two_pow_pos failures)
      have waiting : min (10 * 2 ^ failures * 1000000000) 60000000000 ≠ 0 := by omega
      have shorter : backoffAfter (failures + 1 + 1) =
          min (10 * 2 ^ failures * 2 * 1000000000) 60000000000 := by
        rw [backoffAfter, Nat.pow_succ, ← Nat.mul_assoc]
        rfl
      rw [shorter, ← doubled]
      exact if_neg waiting

example : ([0, 1, 2, 3, 4, 5].map fun failures => (backoffAfter failures).seconds) =
    [0, 10, 20, 40, 60, 60] := by
  decide

namespace Recorder

/-! ### Turns -/

/-- Who is first in line when a delivery is possible sends all that waits; those behind stay in
    line. -/
theorem serve_of_sendable {clock : Clock} {recorder : Recorder}
    (sendable : recorder.outbox.Sendable clock.now) (caller : Caller) (rest : List Caller) :
    (recorder.serve clock (caller :: rest)).outbox = recorder.outbox.emptiedAt clock.now ∧
      (recorder.serve clock (caller :: rest)).line = rest ∧
      ∃ sending, (recorder.serve clock (caller :: rest)).sending = some sending ∧
        sending.caller = caller ∧ sending.batch = recorder.outbox.queue := by
  simp only [serve, Outbox.take?_of_sendable sendable]
  exact ⟨rfl, rfl, _, rfl, rfl, rfl⟩

/-- As long as no delivery is possible, all who are in line go away and nothing changes. -/
theorem serve_of_not_sendable {clock : Clock} {recorder : Recorder}
    (held : ¬ recorder.outbox.Sendable clock.now) (callers : List Caller) :
    (recorder.serve clock callers).outbox = recorder.outbox ∧
      (recorder.serve clock callers).line = [] ∧
      (recorder.serve clock callers).sending = recorder.sending := by
  induction callers generalizing recorder with
  | nil => exact ⟨rfl, rfl, rfl⟩
  | cons caller rest inductionHypothesis =>
      have heldStill : ¬ (recorder.answer caller none).outbox.Sendable clock.now := by
        rwa [answer_outbox]
      obtain ⟨outbox, line, sending⟩ := inductionHypothesis heldStill
      simp only [serve, Outbox.take?_of_not_sendable held]
      exact ⟨outbox.trans (answer_outbox ..), line, sending.trans (answer_sending ..)⟩

/-- What becomes of some callers who want to flush while nothing is under way. -/
inductive Turns (clock : Clock) (callers : List Caller) (recorder after : Recorder) : Prop where
  /-- The first of them sends all that waits. -/
  | sends (caller : Caller) (rest : List Caller) (sending : Sending)
      (callers_eq : callers = caller :: rest)
      (sendable : recorder.outbox.Sendable clock.now)
      (outbox : after.outbox = recorder.outbox.emptiedAt clock.now)
      (line : after.line = rest)
      (underWay : after.sending = some sending)
      (sender : sending.caller = caller)
      (batch : sending.batch = recorder.outbox.queue)
  /-- None of them has anything to send, or there are none. -/
  | rests (held : callers ≠ [] → ¬ recorder.outbox.Sendable clock.now)
      (outbox : after.outbox = recorder.outbox)
      (line : after.line = [])
      (idle : after.sending = none)

theorem turns_serve {recorder : Recorder} (idle : recorder.sending = none) (clock : Clock)
    (callers : List Caller) : Turns clock callers recorder (recorder.serve clock callers) := by
  cases callers with
  | nil => exact .rests (fun some => absurd rfl some) rfl rfl idle
  | cons caller rest =>
      by_cases sendable : recorder.outbox.Sendable clock.now
      · obtain ⟨outbox, line, sending, underWay, sender, batch⟩ :=
          serve_of_sendable sendable caller rest
        exact .sends caller rest sending rfl sendable outbox line underWay sender batch
      · obtain ⟨outbox, line, sending⟩ := serve_of_not_sendable sendable (caller :: rest)
        exact .rests (fun _ => sendable) outbox line (sending.trans idle)

/-- Who wants to flush with an event, and when: somebody who says so, or the timer. -/
def Event.flushes? : Event → Option (Clock × Caller)
  | .flush clock caller => some (clock, caller)
  | .tick clock => some (clock, .timer)
  | _ => none

section

variable {recorder : Recorder} {event : Event} {clock : Clock} {caller : Caller}

/-- A flush is a flush of the recorder, apart from the timer. -/
theorem exists_flush_eq (recorder : Recorder) (wants : event.flushes? = some (clock, caller)) :
    ∃ ready : Recorder, recorder.apply event = ready.flush clock caller ∧
      ready.outbox = recorder.outbox ∧ ready.line = recorder.line ∧
      ready.sending = recorder.sending := by
  cases event with
  | flush time other =>
      cases wants
      exact ⟨recorder, rfl, rfl, rfl, rfl⟩
  | tick time =>
      cases wants
      exact ⟨_, rfl, rfl, rfl, rfl⟩
  | record profile => cases wants
  | sendingEnds time => cases wants
  | start time => cases wants
  | stop => cases wants
  | reporterChanges change => cases wants

/-- While nothing is under way, whoever wants to flush has a turn at once. -/
theorem turns_of_flushes? (wants : event.flushes? = some (clock, caller))
    (idle : recorder.sending = none) :
    Turns clock [caller] recorder (recorder.apply event) := by
  obtain ⟨ready, applied, outbox, -, sending⟩ := exists_flush_eq recorder wants
  have free : ready.sending = none := sending.trans idle
  have turns := turns_serve free clock [caller]
  have served : ready.flush clock caller = ready.serve clock [caller] := by
    rw [flush, free]
    rfl
  rw [applied, served]
  cases turns with
  | sends first rest new callers_eq sendable outboxAfter line underWay sender batch =>
      rw [outbox] at sendable outboxAfter batch
      exact .sends first rest new callers_eq sendable outboxAfter line underWay sender batch
  | rests held outboxAfter line idleAfter =>
      rw [outbox] at held outboxAfter
      exact .rests held outboxAfter line idleAfter

/-- While a delivery is under way, whoever wants to flush joins the line, and that is all. -/
theorem waits_of_flushes? (wants : event.flushes? = some (clock, caller)) {sending : Sending}
    (busy : recorder.sending = some sending) :
    (recorder.apply event).outbox = recorder.outbox ∧
      (recorder.apply event).line = recorder.line ++ [caller] ∧
      (recorder.apply event).sending = some sending := by
  obtain ⟨ready, applied, outbox, line, same⟩ := exists_flush_eq recorder wants
  have underWay : ready.sending = some sending := same.trans busy
  have waits : ready.flush clock caller = { ready with line := ready.line ++ [caller] } := by
    rw [flush, underWay]
    rfl
  rw [applied, waits]
  exact ⟨outbox, congrArg (· ++ [caller]) line, underWay⟩

/-- When a delivery is over, those in line have their turns. -/
theorem turns_of_sendingEnds {sending : Sending} (busy : recorder.sending = some sending) :
    Turns clock recorder.line (recorder.settled sending)
      (recorder.apply (.sendingEnds clock)) := by
  have applied : recorder.apply (.sendingEnds clock) =
      (recorder.settled sending).serve clock recorder.line :=
    sendingEnds_of_some busy clock
  rw [applied]
  exact turns_serve (settled_sending ..) clock recorder.line

end

/-! ### Chronicles -/

/-- A delivery that was tried. -/
structure Trial where
  began : Instant
  ending : Outcome String Unit
  deriving Inhabited

/-- The deliveries that a recorder has tried. -/
structure Chronicle where
  /-- Those that are over, oldest first. -/
  past : List Trial := []
  underWay : Option Trial := none
  deriving Inhabited

/-- When something happens that may begin a delivery. -/
def Event.clock? : Event → Option Clock
  | .flush clock _ => some clock
  | .tick clock => some clock
  | .sendingEnds clock => some clock
  | _ => none

/-- Whether the delivery under way is over with an event. -/
def Event.ends : Event → Bool
  | .sendingEnds _ => true
  | _ => false

/-- The delivery that an event begins: it is under way afterwards and was not before. -/
def begun? (recorder : Recorder) (event : Event) : Option Trial :=
  match event.clock?, (recorder.apply event).sending with
  | some clock, some sending =>
      if recorder.sending.isNone || event.ends then
        some { began := clock.now, ending := sending.ending }
      else
        none
  | _, _ => none

namespace Chronicle

/-- All deliveries, oldest first. -/
def trials (chronicle : Chronicle) : List Trial := chronicle.past ++ chronicle.underWay.toList

/-- The delivery under way is over. -/
def close (chronicle : Chronicle) : Chronicle := { past := chronicle.trials }

/-- A delivery begins, if there is one. -/
def begin (trial? : Option Trial) (chronicle : Chronicle) : Chronicle :=
  match trial? with
  | some trial => { chronicle with underWay := some trial }
  | none => chronicle

/-- The chronicle after an event. -/
def follow (recorder : Recorder) (chronicle : Chronicle) (event : Event) : Chronicle :=
  (if event.ends then chronicle.close else chronicle).begin (recorder.begun? event)

/-- The chronicle after some events. -/
def after : List Event → Recorder → Chronicle → Chronicle
  | [], _, chronicle => chronicle
  | event :: rest, recorder, chronicle =>
      after rest (recorder.apply event) (chronicle.follow recorder event)

end Chronicle

/-- One more delivery is over: a failure counts, a success starts the count again, and a crash is
    neither. -/
def countFailure (failures : Nat) (trial : Trial) : Nat :=
  match trial.ending with
  | .returned () => 0
  | .failed _ => failures + 1
  | .crashed _ => failures

/-- How many deliveries have failed since the last that was a success. -/
def failuresInARow (trials : List Trial) : Nat := trials.foldl countFailure 0

theorem failuresInARow_append (trials : List Trial) (trial : Trial) :
    failuresInARow (trials ++ [trial]) = countFailure (failuresInARow trials) trial := by
  rw [failuresInARow, List.foldl_append]
  rfl

/-- After a failure no delivery begins before the backoff is over that is in force from then on,
    counted from the beginning of the delivery that failed. -/
def WaitsOut (trials : List Trial) : Prop :=
  ∀ earlier failed later error, trials = earlier ++ failed :: later →
    failed.ending = .failed error →
      ∀ trial ∈ later,
        failed.began + backoffAfter (failuresInARow (earlier ++ [failed])) ≤ trial.began

/-- The last of some deliveries began so long ago that the backoff after them is over. -/
def OverBy (now : Instant) (trials : List Trial) : Prop :=
  ∀ last ∈ trials.getLast?, last.began + backoffAfter (failuresInARow trials) ≤ now

theorem WaitsOut.nil : WaitsOut [] := by
  intro earlier failed later error split
  simp at split

theorem WaitsOut.append {trials : List Trial} (waitsOut : WaitsOut trials) {next : Trial}
    (ready : OverBy next.began trials) : WaitsOut (trials ++ [next]) := by
  intro earlier failed later error split ending trial member
  rcases List.eq_nil_or_concat' later with rfl | ⟨front, last, rfl⟩
  · cases member
  · rw [← List.cons_append, ← List.append_assoc] at split
    obtain ⟨whole, same⟩ := List.append_inj' split rfl
    cases same
    rcases List.mem_append.mp member with before | here
    · exact waitsOut earlier failed front error whole ending trial before
    · cases List.mem_singleton.mp here
      rcases List.eq_nil_or_concat' front with rfl | ⟨middle, newest, rfl⟩
      · -- The failure is the newest of the deliveries so far.
        rw [whole] at ready
        exact ready failed (by simp)
      · have first := waitsOut earlier failed (middle ++ [newest]) error whole ending newest
          (by simp)
        have last : trials.getLast? = some newest := by
          rw [whole, ← List.cons_append, ← List.append_assoc, List.getLast?_concat]
        have second := ready newest last
        exact Nat.le_trans first (Nat.le_trans (Nat.le_add_right ..) second)

/-- A recorder is where its chronicle says. -/
structure Follows (chronicle : Chronicle) (recorder : Recorder) : Prop where
  underWay : chronicle.underWay.map Trial.ending = recorder.sending.map Sending.ending
  backoff : recorder.outbox.backoff = backoffAfter (failuresInARow chronicle.past)
  lastAttempt : recorder.outbox.lastAttempt = chronicle.trials.getLast?.map Trial.began
  waitsOut : WaitsOut chronicle.trials

namespace Follows

variable {chronicle : Chronicle} {recorder after : Recorder}

/-- Only the delivery under way and the backoff matter. -/
theorem of_same (follows : Follows chronicle recorder)
    (sending : after.sending.map Sending.ending = recorder.sending.map Sending.ending)
    (backoff : after.outbox.backoff = recorder.outbox.backoff)
    (lastAttempt : after.outbox.lastAttempt = recorder.outbox.lastAttempt) :
    Follows chronicle after where
  underWay := follows.underWay.trans sending.symm
  backoff := backoff.trans follows.backoff
  lastAttempt := lastAttempt.trans follows.lastAttempt
  waitsOut := follows.waitsOut

theorem underWay_eq_none (follows : Follows chronicle recorder)
    (idle : recorder.sending = none) : chronicle.underWay = none := by
  have same := follows.underWay
  rw [idle] at same
  exact Option.map_eq_none_iff.mp same

theorem trials_eq (follows : Follows chronicle recorder) (idle : recorder.sending = none) :
    chronicle.trials = chronicle.past := by
  rw [Chronicle.trials, follows.underWay_eq_none idle]
  exact List.append_nil _

/-- Whether the backoff is over can be told from the chronicle. -/
theorem isReady_iff (follows : Follows chronicle recorder) (idle : recorder.sending = none)
    {now : Instant} : recorder.outbox.isReady now = true ↔ OverBy now chronicle.past := by
  rw [Outbox.isReady_iff, follows.lastAttempt, follows.backoff, follows.trials_eq idle, OverBy]
  exact Option.forall_mem_map

theorem close (follows : Follows chronicle recorder) {sending : Sending}
    (busy : recorder.sending = some sending) :
    Follows chronicle.close (recorder.settled sending) := by
  have same := follows.underWay
  rw [busy, Option.map_some, Option.map_eq_some_iff] at same
  obtain ⟨trial, found, ending⟩ := same
  have trials : chronicle.trials = chronicle.past ++ [trial] := by
    rw [Chronicle.trials, found]
    rfl
  have closed : chronicle.close.trials = chronicle.trials := List.append_nil _
  refine ⟨?_, ?_, ?_, ?_⟩
  · rw [settled_sending]
    rfl
  · rw [settled_outbox, Chronicle.close, trials, failuresInARow_append, countFailure, ending,
      settle]
    cases sending.ending with
    | returned => rfl
    | failed error => exact (congrArg _ follows.backoff).trans (nextBackoff_backoffAfter _)
    | crashed crash => exact follows.backoff
  · rw [settled_outbox, closed, ← follows.lastAttempt, settle]
    cases sending.ending <;> rfl
  · rw [closed]
    exact follows.waitsOut

/-- A delivery that begins is the newest of the chronicle. -/
theorem begin (follows : Follows chronicle recorder) (idle : recorder.sending = none)
    {clock : Clock} {callers : List Caller} (turns : Turns clock callers recorder after) :
    Follows
      (chronicle.begin (after.sending.map fun sending => ⟨clock.now, sending.ending⟩)) after := by
  cases turns with
  | rests held outbox line idleAfter =>
      rw [idleAfter]
      exact follows.of_same (by rw [idle, idleAfter]) (by rw [outbox]) (by rw [outbox])
  | sends caller rest sending callers_eq sendable outbox line underWay sender batch =>
      rw [underWay, Option.map_some]
      have ready := (follows.isReady_iff idle).mp sendable.1
      have trials : (chronicle.begin (some ⟨clock.now, sending.ending⟩)).trials =
          chronicle.past ++ [⟨clock.now, sending.ending⟩] := rfl
      refine ⟨?_, ?_, ?_, ?_⟩
      · rw [underWay]
        rfl
      · rw [outbox]
        exact follows.backoff
      · rw [outbox, trials, List.getLast?_concat]
        rfl
      · rw [trials]
        refine WaitsOut.append ?_ ready
        rw [← follows.trials_eq idle]
        exact follows.waitsOut

/-- Where a delivery may begin, all that is under way afterwards has begun. -/
theorem begun?_eq {event : Event} {clock : Clock} (timed : event.clock? = some clock)
    (free : recorder.sending = none ∨ event.ends = true) :
    recorder.begun? event =
      (recorder.apply event).sending.map fun sending => ⟨clock.now, sending.ending⟩ := by
  have may : (recorder.sending.isNone || event.ends) = true := by
    rcases free with idle | ends
    · rw [idle]
      rfl
    · rw [ends, Bool.or_true]
  unfold begun?
  rw [timed]
  cases (recorder.apply event).sending with
  | none => rfl
  | some sending => exact if_pos may

/-- What a flush does, by whomever it is wanted. -/
theorem flush (follows : Follows chronicle recorder) {event : Event} {clock : Clock}
    {caller : Caller} (wants : event.flushes? = some (clock, caller))
    (timed : event.clock? = some clock) (goesOn : event.ends = false) :
    Follows (chronicle.follow recorder event) (recorder.apply event) := by
  rw [Chronicle.follow, goesOn, if_neg Bool.false_ne_true]
  cases under : recorder.sending with
  | none =>
      rw [begun?_eq timed (.inl under)]
      exact follows.begin under (turns_of_flushes? wants under)
  | some sending =>
      obtain ⟨outbox, -, same⟩ := waits_of_flushes? wants under
      have nothing : recorder.begun? event = none := by
        unfold begun?
        rw [timed, under, goesOn]
        cases (recorder.apply event).sending <;> rfl
      rw [nothing]
      exact follows.of_same (by rw [same, under]) (by rw [outbox]) (by rw [outbox])

theorem sendingEnds (follows : Follows chronicle recorder) (clock : Clock) :
    Follows (chronicle.follow recorder (.sendingEnds clock))
      (recorder.apply (.sendingEnds clock)) := by
  have begins : chronicle.follow recorder (.sendingEnds clock) =
      chronicle.close.begin ((recorder.apply (.sendingEnds clock)).sending.map
        fun sending => ⟨clock.now, sending.ending⟩) := by
    rw [← begun?_eq rfl (.inr rfl)]
    rfl
  rw [begins]
  cases under : recorder.sending with
  | none =>
      have nothing : recorder.apply (.sendingEnds clock) = recorder := by
        simp only [Recorder.apply, Recorder.sendingEnds, under]
      have closed : chronicle.close = chronicle := by
        rw [Chronicle.close, follows.trials_eq under]
        cases chronicle
        exact congrArg _ (follows.underWay_eq_none under).symm
      rw [nothing, under, closed]
      exact follows
  | some sending =>
      exact (follows.close under).begin (settled_sending ..) (turns_of_sendingEnds under)

/-- Every event takes the recorder where the chronicle says. -/
theorem apply (follows : Follows chronicle recorder) (event : Event) :
    Follows (chronicle.follow recorder event) (recorder.apply event) := by
  cases event with
  | record profile =>
      obtain ⟨backoff, lastAttempt⟩ := recorder.outbox.add_keeps profile
      exact follows.of_same rfl backoff lastAttempt
  | flush clock caller => exact follows.flush rfl rfl rfl
  | tick clock => exact follows.flush rfl rfl rfl
  | sendingEnds clock => exact follows.sendingEnds clock
  | start clock =>
      refine follows.of_same ?_ ?_ ?_ <;>
      · simp only [Recorder.apply, Recorder.start]
        split <;> rfl
  | stop =>
      refine follows.of_same ?_ rfl rfl
      simp only [Recorder.apply, Recorder.stop]
      cases recorder.sending <;> rfl
  | reporterChanges change => exact follows.of_same rfl rfl rfl

theorem run (follows : Follows chronicle recorder) (events : List Event) :
    Follows (Chronicle.after events recorder chronicle) (recorder.run events) := by
  induction events generalizing chronicle recorder with
  | nil => exact follows
  | cons event rest inductionHypothesis => exact inductionHypothesis (follows.apply event)

end Follows

/-! ### Lines -/

/-- Nobody waits in line unless a delivery is under way. -/
def Attended (recorder : Recorder) : Prop := recorder.sending = none → recorder.line = []

theorem Turns.attended {clock : Clock} {callers : List Caller} {recorder after : Recorder}
    (turns : Turns clock callers recorder after) : after.Attended := by
  intro idle
  cases turns with
  | rests held outbox line idleAfter => exact line
  | sends caller rest sending callers_eq sendable outbox line underWay sender batch =>
      rw [idle] at underWay
      cases underWay

theorem attended_of_flushes? {recorder : Recorder} {event : Event} {clock : Clock}
    {caller : Caller} (wants : event.flushes? = some (clock, caller)) :
    (recorder.apply event).Attended := by
  cases under : recorder.sending with
  | none => exact (turns_of_flushes? wants under).attended
  | some sending =>
      intro idle
      cases (waits_of_flushes? wants under).2.2.symm.trans idle

theorem Attended.apply {recorder : Recorder} (attended : recorder.Attended) (event : Event) :
    (recorder.apply event).Attended := by
  cases event with
  | record profile => exact attended
  | flush clock caller => exact attended_of_flushes? rfl
  | tick clock => exact attended_of_flushes? rfl
  | start clock =>
      simp only [Recorder.apply, Recorder.start]
      split <;> exact attended
  | stop =>
      intro idle
      have idleBefore : recorder.sending = none := Option.map_eq_none_iff.mp idle
      exact congrArg (List.map Caller.orphaned) (attended idleBefore)
  | reporterChanges change => exact attended
  | sendingEnds clock =>
      cases under : recorder.sending with
      | none =>
          simp only [Recorder.apply, sendingEnds, under]
          exact attended
      | some sending => exact (turns_of_sendingEnds under).attended

theorem Attended.run {recorder : Recorder} (attended : recorder.Attended) (events : List Event) :
    (recorder.run events).Attended := by
  induction events generalizing recorder with
  | nil => exact attended
  | cons event rest inductionHypothesis => exact inductionHypothesis (attended.apply event)

/-! ### Runs -/

/-- In every run of a recorder the backoff is that of the failures since the last success, and
    after a failure no delivery begins before it is over. A flush that has its turn then, and finds
    something, sends all that waits; any other leaves the outbox as it is. A flush has its turn at
    once if nothing is under way; otherwise it waits in line, and when the delivery under way is
    over, either the first in line sends or nobody in line could. -/
theorem deliveries_wait_out_backoff (reporter : Reporter) (capacity : Nat)
    (flushInterval : Duration) (events : List Event) :
    let created := create reporter capacity flushInterval
    let recorder := created.run events
    let chronicle := Chronicle.after events created {}
    recorder.outbox.backoff = backoffAfter (failuresInARow chronicle.past) ∧
      recorder.outbox.lastAttempt = chronicle.trials.getLast?.map Trial.began ∧
      recorder.sending.map Sending.ending = chronicle.underWay.map Trial.ending ∧
      WaitsOut chronicle.trials ∧
      (recorder.sending = none → recorder.line = [] ∧
        ∀ now, recorder.outbox.Sendable now ↔
          OverBy now chronicle.past ∧ recorder.outbox.queue ≠ []) ∧
      (∀ sending, recorder.sending = some sending →
        ∀ now, (recorder.settled sending).outbox.Sendable now ↔
          OverBy now chronicle.trials ∧ (recorder.settled sending).outbox.queue ≠ []) ∧
      (∀ event clock caller, event.flushes? = some (clock, caller) →
        (recorder.sending = none → Turns clock [caller] recorder (recorder.apply event)) ∧
        ∀ sending, recorder.sending = some sending →
          (recorder.apply event).outbox = recorder.outbox ∧
            (recorder.apply event).line = recorder.line ++ [caller] ∧
            (recorder.apply event).sending = some sending) ∧
      ∀ clock sending, recorder.sending = some sending →
        Turns clock recorder.line (recorder.settled sending)
          (recorder.apply (.sendingEnds clock)) := by
  intro created recorder chronicle
  have begun : Follows {} created := ⟨rfl, rfl, rfl, .nil⟩
  have unattended : created.Attended := fun _ => rfl
  have follows : Follows chronicle recorder := begun.run events
  have attended : recorder.Attended := unattended.run events
  refine ⟨follows.backoff, follows.lastAttempt, follows.underWay.symm, follows.waitsOut, ?_, ?_,
    ?_, fun clock sending busy => turns_of_sendingEnds busy⟩
  · intro idle
    exact ⟨attended idle, fun now => and_congr_left' (follows.isReady_iff idle)⟩
  · intro sending busy now
    exact and_congr_left' ((follows.close busy).isReady_iff (settled_sending ..))
  · intro event clock caller wants
    exact ⟨turns_of_flushes? wants, fun sending busy => waits_of_flushes? wants busy⟩

end Recorder

end Stackwatch

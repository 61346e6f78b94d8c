import Stackwatch.Delivery.Outbox
import Stackwatch.Delivery.Reporter
import Stackwatch.Flag
import Stackwatch.Timer.Basic

/-!
# The recorder

The recorder takes profiles into its outbox and hands them to its reporter. There is at most one
delivery at a time: whoever wants to flush while one is under way waits in line. A flush that finds
nothing to do ends at once.
-/

namespace Stackwatch

namespace Recorder

/-- Who wants to flush. -/
inductive Caller where
  /-- The flush timer, which waits for the end. -/
  | timer
  /-- Somebody who waits for the end. -/
  | waiting
  /-- Nobody waits for the end. -/
  | background
  deriving DecidableEq, Repr, Inhabited

/-- A delivery under way. -/
structure Sending where
  caller : Caller
  batch : List Json
  endsAt : Instant
  ending : Outcome String Unit
  deriving Inhabited

end Recorder

structure Recorder where
  outbox : Outbox
  reporter : Reporter
  flushInterval : Duration
  started : Flag := {}
  timer : Option Timer := none
  sending : Option Recorder.Sending := none
  /-- Who waits for the end of the delivery under way, in the order of arrival. -/
  line : List Recorder.Caller := []
  /-- How the last flush ended that somebody waited for. -/
  waited : Option (Option Crash) := none
  notices : List Notice := []
  deriving Inhabited

namespace Recorder

/-- A recorder that is not started. -/
def create (reporter : Reporter) (capacity : Nat) (flushInterval : Duration) : Recorder :=
  { outbox := { capacity := capacity }, reporter := reporter, flushInterval := flushInterval }

/-- Takes a profile. -/
def record (profile : Json) (recorder : Recorder) : Recorder :=
  { recorder with outbox := recorder.outbox.add profile }

def tell (notices : List Notice) (recorder : Recorder) : Recorder :=
  { recorder with notices := recorder.notices ++ notices }

/-- A flush is over. -/
def answer (caller : Caller) (crash? : Option Crash) (recorder : Recorder) : Recorder :=
  match caller with
  | .timer =>
      { recorder with timer := recorder.timer.map Timer.jobEnded }.tell
        (crash?.toList.map Notice.jobCrashed)
  | .waiting => { recorder with waited := some crash? }
  | .background => recorder

/-- Hands a batch that was taken out of the outbox to the reporter. -/
def send (clock : Clock) (caller : Caller) (batch : List Json) (recorder : Recorder) : Recorder :=
  let (delivery, reporter) := recorder.reporter.deliver clock batch
  { recorder with
    reporter := reporter
    sending := some
      { caller := caller
        batch := batch
        endsAt := Duration.ceilMillis (clock.now + delivery.lasts)
        ending := delivery.ending } }.tell delivery.notices

/-- Lets callers flush one after the other until one of them has something to send; those behind it
    are in line. -/
def serve (clock : Clock) : List Caller → Recorder → Recorder
  | [], recorder => { recorder with line := [] }
  | caller :: rest, recorder =>
      match recorder.outbox.take? clock.now with
      | some (batch, outbox) =>
          { recorder with outbox := outbox, line := rest }.send clock caller batch
      | none => serve clock rest (recorder.answer caller none)

/-- Somebody wants to flush. -/
def flush (clock : Clock) (caller : Caller) (recorder : Recorder) : Recorder :=
  if recorder.sending.isSome then { recorder with line := recorder.line ++ [caller] }
  else recorder.serve clock [caller]

/-- What becomes of the outbox when a delivery ends, and what is told of it. A crash loses the
    batch. -/
def settle (sending : Sending) (outbox : Outbox) : Outbox × List Notice :=
  match sending.ending with
  | .returned () => (outbox.delivered, [])
  | .failed error =>
      (outbox.putBack sending.batch,
        [.sendFailed error sending.batch.length (outbox.evictedBy sending.batch)
          (Outbox.nextBackoff outbox.backoff)])
  | .crashed _ => (outbox, [])

def Sending.crash? (sending : Sending) : Option Crash :=
  match sending.ending with
  | .crashed crash => some crash
  | _ => none

/-- The delivery under way ends, and the next in line may flush. -/
def sendingEnds (clock : Clock) (recorder : Recorder) : Recorder :=
  match recorder.sending with
  | none => recorder
  | some sending =>
      let (outbox, notices) := settle sending recorder.outbox
      let recorder := ({ recorder with outbox := outbox, sending := none }.tell notices).answer
        sending.caller sending.crash?
      recorder.serve clock recorder.line

/-- The flush timer fires. -/
def tick (clock : Clock) (recorder : Recorder) : Recorder :=
  { recorder with timer := recorder.timer.map (Timer.fire clock.now) }.flush clock .timer

/-- Starts to flush every flush interval, unless that was started before. -/
def start (clock : Clock) (recorder : Recorder) : Recorder :=
  if recorder.started.isSet then recorder
  else
    { recorder with
      started := { isSet := true }
      timer := some (Timer.every clock.now recorder.flushInterval) }

/-- A flush of the timer goes on without it. -/
def Caller.orphaned : Caller → Caller
  | .timer => .background
  | caller => caller

/-- Stops the flush timer. What waits keeps waiting, and a flush under way goes on. -/
def stop (recorder : Recorder) : Recorder :=
  { recorder with
    started := {}
    timer := none
    sending := recorder.sending.map fun sending =>
      { sending with caller := sending.caller.orphaned }
    line := recorder.line.map Caller.orphaned }

end Recorder

end Stackwatch

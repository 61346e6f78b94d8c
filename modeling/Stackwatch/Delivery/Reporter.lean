import Stackwatch.Clock
import Stackwatch.Delivery.Collector
import Stackwatch.Delivery.Folder
import Stackwatch.Notice

/-!
# Reporters

A reporter takes a batch of profiles somewhere else. How long that takes and how it ends is fixed
when the batch arrives. A fan-out hands the batch to all its members at once and ends when the
slowest of them ends; the first failure in the order of the members is its own.
-/

namespace Stackwatch

/-- A batch that arrived at a reporter of the observed program. -/
structure Attempt where
  time : Instant
  batch : List Json
  deriving Inhabited

/-- What a reporter of the observed program does with the next batch. -/
structure Reply where
  delay : Duration := 0
  ending : Outcome String Unit := .returned ()
  deriving Inhabited

inductive Reporter where
  /-- Drops every batch. -/
  | discarding
  /-- Supplied by the observed program. -/
  | custom (reply : Reply) (attempts : List Attempt)
  | folder (folder : Folder)
  /-- Sends requests, each of which is answered with the same text, or not at all. -/
  | collector (collector : Collector) (answer : Option String)
  /-- Hands every batch to all members. -/
  | fanOut (members : List Reporter)
  deriving Inhabited

/-- A delivery, seen from its beginning. -/
structure Delivery where
  lasts : Duration
  ending : Outcome String Unit
  notices : List Notice := []
  deriving Inhabited

namespace Delivery

def crash? (delivery : Delivery) : Option Crash :=
  match delivery.ending with
  | .crashed crash => some crash
  | _ => none

def error? (delivery : Delivery) : Option String :=
  match delivery.ending with
  | .failed error => some error
  | _ => none

def crashesAtOnce (delivery : Delivery) : Bool := delivery.lasts = 0 && delivery.crash?.isSome

/-- The earliest crash, and its time. -/
def firstCrash? (deliveries : List Delivery) : Option (Duration × Crash) :=
  deliveries.foldl (fun found delivery =>
    match delivery.crash?, found with
    | none, _ => found
    | some crash, none => some (delivery.lasts, crash)
    | some crash, some (time, earlier) =>
        if delivery.lasts < time then some (delivery.lasts, crash) else some (time, earlier)) none

/-- The time of the slowest. -/
def slowest (deliveries : List Delivery) : Duration :=
  deliveries.foldl (fun longest delivery => max longest delivery.lasts) 0

/-- Several deliveries at once. A crash of one of them ends all. -/
def together (deliveries : List Delivery) : Delivery :=
  let notices := deliveries.flatMap (·.notices)
  match firstCrash? deliveries with
  | some (time, crash) => { lasts := time, ending := .crashed crash, notices := notices }
  | none =>
      { lasts := slowest deliveries
        ending := match deliveries.findSome? error? with
          | some error => .failed error
          | none => .returned ()
        notices := notices }

end Delivery

namespace Reporter

/-- A batch arrives at a reporter of the observed program. -/
def deliverOne (clock : Clock) (batch : List Json) (reply : Reply) (attempts : List Attempt) :
    Delivery × Reporter :=
  ({ lasts := reply.delay, ending := reply.ending },
    .custom reply (attempts ++ [{ time := clock.now, batch := batch }]))

def deliverToFolder (clock : Clock) (batch : List Json) (target : Folder) : Delivery × Reporter :=
  let (result, target) := target.deliver clock.epochSeconds batch
  ({ lasts := 0, ending := (Outcome.ofExcept result).mapError Place.Error.message },
    .folder target)

/-- What comes of sending a batch to a collector. -/
def sendTo (collector : Collector) (answer : Option String) (batch : List Json) :
    Outcome String Unit :=
  (Outcome.ofExcept (collector.send answer batch)).mapError Collector.Error.message

mutual

/-- Hands a batch to a reporter. -/
def deliver (clock : Clock) (batch : List Json) : Reporter → Delivery × Reporter
  | .discarding =>
      ({ lasts := 0, ending := .returned (), notices := [.profilesDropped batch.length] },
        .discarding)
  | .custom reply attempts => deliverOne clock batch reply attempts
  | .folder target => deliverToFolder clock batch target
  | .collector target answer =>
      ({ lasts := 0, ending := sendTo target answer batch }, .collector target answer)
  | .fanOut members =>
      let (deliveries, members) := deliverAll clock batch members
      (.together deliveries, .fanOut members)

/-- Members behind one that crashes at once are not reached. -/
def deliverAll (clock : Clock) (batch : List Json) :
    List Reporter → List Delivery × List Reporter
  | [] => ([], [])
  | member :: rest =>
      let (delivery, member) := deliver clock batch member
      if delivery.crashesAtOnce then
        ([delivery], member :: rest)
      else
        let (deliveries, rest) := deliverAll clock batch rest
        (delivery :: deliveries, member :: rest)

end

mutual

/-- The batches that arrived at each reporter of the observed program. -/
def attempts : Reporter → List (List Attempt)
  | .custom _ attempts => [attempts]
  | .fanOut members => attemptsOfAll members
  | _ => []

def attemptsOfAll : List Reporter → List (List Attempt)
  | [] => []
  | member :: rest => attempts member ++ attemptsOfAll rest

end

mutual

/-- The longest time that a delivery can take. -/
def longestDelay : Reporter → Duration
  | .custom reply _ => reply.delay
  | .fanOut members => longestDelayOfAll members
  | _ => 0

def longestDelayOfAll : List Reporter → Duration
  | [] => 0
  | member :: rest => max (longestDelay member) (longestDelayOfAll rest)

end

/-- Changes what a reporter of the observed program does with the next batch. -/
def setReply (reply : Reply) : Reporter → Reporter
  | .custom _ attempts => .custom reply attempts
  | reporter => reporter

end Reporter

end Stackwatch

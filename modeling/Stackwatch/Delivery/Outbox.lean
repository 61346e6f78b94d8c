import Stackwatch.Duration
import Stackwatch.Json.Value

/-!
# The outbox

The outbox holds the profiles that wait to be delivered, at most as many as its capacity; the oldest
ones go first. A delivery takes all that wait. If it fails, the batch goes back in front of what was
added meanwhile, and no delivery is attempted during a backoff that doubles with every failure in a
row.
-/

namespace Stackwatch

/-- The last `count` elements. -/
def keepLast {α : Type} (count : Nat) (items : List α) : List α := items.drop (items.length - count)

section KeepLast

variable {α β : Type} (count : Nat)

theorem length_keepLast (items : List α) :
    (keepLast count items).length = min count items.length := by
  rw [keepLast, List.length_drop]
  omega

/-- What was left out stands in front of what was kept. -/
theorem take_append_keepLast (items : List α) :
    items.take (items.length - count) ++ keepLast count items = items :=
  List.take_append_drop _ items

theorem map_keepLast (change : α → β) (items : List α) :
    (keepLast count items).map change = keepLast count (items.map change) := by
  rw [keepLast, keepLast, List.map_drop, List.length_map]

theorem keepLast_append (front back : List α) :
    keepLast count (front ++ back) =
      keepLast (count - back.length) front ++ keepLast count back := by
  simp only [keepLast, List.length_append, List.drop_append]
  congr 1
  · by_cases fits : back.length ≤ count
    · congr 1
      omega
    · rw [List.drop_eq_nil_of_le (by omega), List.drop_eq_nil_of_le (by omega)]
  · congr 1
    omega

theorem keepLast_keepLast (more : Nat) (items : List α) :
    keepLast count (keepLast more items) = keepLast (min count more) items := by
  simp only [keepLast, List.length_drop, List.drop_drop]
  congr 1
  omega

/-- Shortening the front first comes to the same as shortening once. -/
theorem keepLast_append_left (front back : List α) :
    keepLast count (keepLast count front ++ back) = keepLast count (front ++ back) := by
  rw [keepLast_append, keepLast_append, keepLast_keepLast, Nat.min_eq_left (Nat.sub_le _ _)]

/-- Shortening the back first comes to the same as shortening once. -/
theorem keepLast_append_right (front back : List α) :
    keepLast count (front ++ keepLast count back) = keepLast count (front ++ back) := by
  rw [keepLast_append, keepLast_append, keepLast_keepLast, Nat.min_self, length_keepLast]
  congr 2
  omega

end KeepLast

structure Outbox where
  capacity : Nat
  /-- What waits, oldest first. -/
  queue : List Json := []
  /-- When the last delivery was attempted. -/
  lastAttempt : Option Instant := none
  /-- How long to wait since then. -/
  backoff : Duration := 0
  deriving Inhabited

namespace Outbox

def firstBackoff : Duration := Duration.ofSeconds 10

def longestBackoff : Duration := Duration.ofSeconds 60

/-- The backoff after one more failure. -/
def nextBackoff (backoff : Duration) : Duration :=
  if backoff = 0 then firstBackoff else min (backoff * 2) longestBackoff

/-- Adds a profile. Without any capacity it is dropped. -/
def add (profile : Json) (outbox : Outbox) : Outbox :=
  if outbox.capacity < 1 then outbox
  else { outbox with queue := keepLast outbox.capacity (outbox.queue ++ [profile]) }

/-- Whether the backoff is over. -/
def isReady (now : Instant) (outbox : Outbox) : Bool :=
  match outbox.lastAttempt with
  | none => true
  | some last => last + outbox.backoff ≤ now

/-- Takes everything out for a delivery; nothing happens during a backoff, or if nothing waits. -/
def take? (now : Instant) (outbox : Outbox) : Option (List Json × Outbox) :=
  if outbox.isReady now && !outbox.queue.isEmpty then
    some (outbox.queue, { outbox with queue := [], lastAttempt := some now })
  else
    none

/-- A batch was delivered. -/
def delivered (outbox : Outbox) : Outbox := { outbox with backoff := 0 }

/-- A batch was not delivered and goes back in front. -/
def putBack (batch : List Json) (outbox : Outbox) : Outbox :=
  { outbox with
    queue := keepLast outbox.capacity (batch ++ outbox.queue)
    backoff := nextBackoff outbox.backoff }

/-- A profile that is added joins the end of the queue, also where there is no room for any. -/
theorem add_eq {outbox : Outbox} (fits : outbox.queue.length ≤ outbox.capacity) (profile : Json) :
    outbox.add profile =
      { outbox with queue := keepLast outbox.capacity (outbox.queue ++ [profile]) } := by
  by_cases none : outbox.capacity < 1
  · have empty : outbox.queue = [] := List.eq_nil_of_length_eq_zero (by omega)
    have zero : outbox.capacity = 0 := by omega
    cases outbox
    simp_all [add, keepLast]
  · simp [add, none]

/-- How many profiles have to go when a batch is put back. -/
def evictedBy (batch : List Json) (outbox : Outbox) : Nat :=
  batch.length + outbox.queue.length - outbox.capacity

end Outbox

end Stackwatch

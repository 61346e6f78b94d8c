import Stackwatch.CallTree.Document
import Stackwatch.Duration

/-!
# Profiles

A profile is what one report window measured: a forest of call paths, the time spent sampling, and
the time that the window spans. Profiles leave the profiler as JSON objects with sorted keys.
-/

namespace Stackwatch

namespace Profile

/-- What is measured. -/
inductive Category where
  | cpu
  | memory
  | time
  deriving DecidableEq, Repr, Inhabited

def Category.name : Category → String
  | .cpu => "cpu"
  | .memory => "memory"
  | .time => "time"

inductive Kind where
  | cpuUsage
  | memoryAllocations
  | blockingCalls
  deriving DecidableEq, Repr, Inhabited

def Kind.name : Kind → String
  | .cpuUsage => "cpu-usage"
  | .memoryAllocations => "memory-allocations"
  | .blockingCalls => "blocking-calls"

/-- The unit of the measurements. -/
inductive Unit where
  | dimensionless
  | millisecond
  | microsecond
  | nanosecond
  | byte
  | kilobyte
  | percent
  deriving DecidableEq, Repr, Inhabited

def Unit.name : Unit → String
  | .dimensionless => ""
  | .millisecond => "millisecond"
  | .microsecond => "microsecond"
  | .nanosecond => "nanosecond"
  | .byte => "byte"
  | .kilobyte => "kilobyte"
  | .percent => "percent"

/-- Where and when a profile was made. -/
structure Origin where
  /-- A number that no other profile of the process has. -/
  serial : Nat
  process : String
  /-- Milliseconds since the epoch. -/
  epochMillis : Nat
  deriving DecidableEq, Repr, Inhabited

end Profile

structure Profile where
  origin : Profile.Origin
  category : Profile.Category
  kind : Profile.Kind
  unit : Profile.Unit
  /-- The outermost callers. -/
  roots : List CallTree
  /-- Time spent sampling. -/
  duration : Duration
  /-- Time covered by the report window. -/
  timespan : Duration
  deriving Inhabited

namespace Profile

/-- The number of hexadecimal digits in an id. -/
def idLength : Nat := 64

def Origin.id (origin : Origin) : String :=
  let digits := Nat.toDigits 16 origin.serial
  String.ofList (List.replicate (idLength - digits.length) '0' ++ digits)

def id (profile : Profile) : String := profile.origin.id

def process (profile : Profile) : String := profile.origin.process

def epochMillis (profile : Profile) : Nat := profile.origin.epochMillis

/-- Reports the process under the name by which it is known elsewhere. -/
def withProcess (process : String) (profile : Profile) : Profile :=
  { profile with origin := { profile.origin with process := process } }

/-- Times are written as full milliseconds in an unsigned word. -/
def millisJson (duration : Duration) : Json := .integer (duration.millis % Nat.pow 2 64 : Nat)

/-- The form in which a profile is queued and delivered. -/
def toJson (profile : Profile) : Json :=
  .sorted <| .object
    [("id", .string profile.id),
      ("pid", .string profile.process),
      ("runtime", .string "rust"),
      ("category", .string profile.category.name),
      ("type", .string profile.kind.name),
      ("unit", .string profile.unit.name),
      ("roots", .array (CallTree.childrenJson profile.roots)),
      ("duration", millisJson profile.duration),
      ("timespan", millisJson profile.timespan),
      ("timestamp", .integer profile.epochMillis)]

end Profile

end Stackwatch

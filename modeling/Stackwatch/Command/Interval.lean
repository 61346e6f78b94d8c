import Stackwatch.Duration
import Stackwatch.Text.Blank
import Stackwatch.Text.Quoted

/-!
# Durations in words

A duration is written as a sequence of numbers with units, such as `1h 30min` or `1.5s`. The parts
are added up. All counting is done in words of 64 bits, and what does not fit into them is an error,
as is a fraction that is no whole number of nanoseconds. Only if the very last nanosecond makes the
seconds overflow does the reader break off instead.
-/

namespace Stackwatch.Command

inductive IntervalError where
  | empty
  /-- A character at this byte that cannot stand there. -/
  | invalidCharacter (offset : Nat)
  | numberExpected (offset : Nat)
  /-- A number without a unit, or with an unknown one. -/
  | unknownUnit (unit : String) (number : Nat)
  | outOfRange
  /-- The reader breaks off. -/
  | broken
  deriving DecidableEq, Repr, Inhabited

def IntervalError.message : IntervalError → String
  | .empty => "value was empty"
  | .invalidCharacter offset => "invalid character at " ++ toString offset
  | .numberExpected offset => "expected number at " ++ toString offset
  | .unknownUnit unit number =>
      if unit.isEmpty then
        "time unit needed, for example " ++ toString number ++ "sec or " ++ toString number ++ "ms"
      else
        "unknown time unit " ++ Text.quoted unit ++
          ", supported units: ns, us/µs, ms, sec, min, " ++
          "hours, days, weeks, months, years (and few variations)"
  | .outOfRange =>
      "number is too large or cannot be represented without a lack of precision " ++
        "(values below 1ns are not supported)"
  | .broken => ""

/-! ## Units -/

inductive TimeUnit where
  | nanosecond
  | microsecond
  | millisecond
  | second
  | minute
  | hour
  | day
  | week
  | month
  | year
  deriving DecidableEq, Repr, Inhabited

namespace TimeUnit

/-- The names of all units. -/
def names : List (TimeUnit × List String) :=
  [(.nanosecond, ["nanos", "nsec", "ns"]),
    (.microsecond, ["usec", "us", "µs"]),
    (.millisecond, ["millis", "msec", "ms"]),
    (.second, ["seconds", "second", "secs", "sec", "s"]),
    (.minute, ["minutes", "minute", "min", "mins", "m"]),
    (.hour, ["hours", "hour", "hrs", "hr", "h"]),
    (.day, ["days", "day", "d"]),
    (.week, ["weeks", "week", "wks", "wk", "w"]),
    (.month, ["months", "month", "M"]),
    (.year, ["years", "year", "yrs", "yr", "y"])]

def ofName? (name : String) : Option TimeUnit :=
  (names.find? fun (_, names) => names.contains name).map (·.1)

/-- Full units in seconds; zero for those shorter than a second. A month is 30.44 days, a year
    365.25. -/
def seconds : TimeUnit → Nat
  | .second => 1
  | .minute => 60
  | .hour => 3600
  | .day => 86400
  | .week => 604800
  | .month => 2630016
  | .year => 31557600
  | _ => 0

/-- Units shorter than a second in nanoseconds; zero for the others. -/
def nanoseconds : TimeUnit → Nat
  | .nanosecond => 1
  | .microsecond => 1000
  | .millisecond => 1000000
  | _ => 0

/-- In which pieces a fraction of the unit is counted, which is either in seconds or in
    nanoseconds: the number of seconds in a unit, and that of nanoseconds. Nothing is smaller than a
    nanosecond. -/
def pieces : TimeUnit → Option (Nat × Nat)
  | .nanosecond => none
  | .microsecond => some (0, 1000)
  | .millisecond => some (0, 1000000)
  | .second => some (0, 1000000000)
  | .minute => some (0, 60000000000)
  | .hour => some (3600, 0)
  | .day => some (86400, 0)
  | .week => some (604800, 0)
  | .month => some (2630016, 0)
  | .year => some (31557600, 0)

end TimeUnit

/-! ## Sums -/

/-- A number that fits into a word. -/
def inWord (number : Nat) : Except IntervalError Nat :=
  if number < Nat.pow 2 64 then .ok number else .error .outOfRange

/-- Seconds and nanoseconds added to a total. A second is carried from the nanoseconds before the
    seconds are added, unless they make up just one. -/
def addTo (total : Duration) (seconds nanos : Nat) : Except IntervalError Duration := do
  let nanos ← inWord (total.subsecond + nanos)
  let carried := if 1000000000 < nanos then nanos / 1000000000 else 0
  let seconds ← inWord (total.seconds + (← inWord (seconds + carried)))
  let sum := Duration.ofSeconds seconds + (nanos - carried * 1000000000)
  if sum.seconds < Nat.pow 2 64 then .ok sum else .error .broken

/-- A fraction of a number. -/
structure Fraction where
  numerator : Nat
  denominator : Nat
  deriving DecidableEq, Repr, Inhabited

/-- A share of a whole that has to come out even. -/
def Fraction.of (whole : Nat) (fraction : Fraction) : Except IntervalError Nat := do
  let product ← inWord (fraction.numerator * whole)
  if product % fraction.denominator = 0 then .ok (product / fraction.denominator)
  else .error .outOfRange

/-- Adds a number of units and a fraction of a unit to a total. -/
def addUnits (total : Duration) (number : Nat) (fraction : Option Fraction) (unitName : List Char) :
    Except IntervalError Duration := do
  match TimeUnit.ofName? (String.ofList unitName) with
  | none => .error (.unknownUnit (String.ofList unitName) number)
  | some unit =>
      let seconds ← inWord (number * unit.seconds)
      let nanos ← inWord (number * unit.nanoseconds)
      let total ← addTo total seconds nanos
      match fraction with
      | none => .ok total
      | some fraction =>
          match unit.pieces with
          | none => .error .outOfRange
          | some (seconds, nanos) =>
              let seconds ← fraction.of seconds
              let nanos ← fraction.of nanos
              addTo total seconds nanos

/-! ## Reading -/

def isUnitChar (char : Char) : Bool := char.isAlpha || char == 'µ'

def digitValue (char : Char) : Nat := char.toNat - '0'.toNat

/-- What is being read. Offsets count bytes. -/
inductive Place where
  /-- The first digit of a number; `since` is where the search for it began. -/
  | start (since : Nat)
  /-- The digits of a number. -/
  | digits (number : Nat)
  /-- The digits behind the point, which are blamed for an error at `blamed`. -/
  | fraction (number : Nat) (fraction : Fraction) (blamed : Nat)
  /-- The name of a unit. -/
  | unit (number : Nat) (fraction : Option Fraction) (name : List Char)
  deriving DecidableEq, Repr, Inhabited

/-- Reads the characters from `offset` on; there is no total before the first unit. -/
def readFrom (offset : Nat) (total : Option Duration) :
    Place → List Char → Except IntervalError Duration
  | .start _, [] =>
      match total with
      | some total => .ok total
      | none => .error .empty
  | .digits number, [] => addUnits (total.getD 0) number none []
  | .fraction number fraction blamed, [] =>
      if fraction.denominator = 1 then .error (.invalidCharacter blamed)
      else addUnits (total.getD 0) number (some fraction) []
  | .unit number fraction name, [] => addUnits (total.getD 0) number fraction name
  | .start since, char :: rest =>
      let next := offset + char.utf8Size
      if char.isDigit then readFrom next total (.digits (digitValue char)) rest
      else if Text.isBlank char then readFrom next total (.start since) rest
      else .error (.numberExpected since)
  | .digits number, char :: rest =>
      let next := offset + char.utf8Size
      if char.isDigit then do
        let number ← inWord (number * 10 + digitValue char)
        readFrom next total (.digits number) rest
      else if Text.isBlank char then readFrom next total (.digits number) rest
      else if isUnitChar char then readFrom next total (.unit number none [char]) rest
      else if char = '.' then readFrom next total (.fraction number ⟨0, 1⟩ offset) rest
      else .error (.invalidCharacter offset)
  | .fraction number fraction blamed, char :: rest =>
      let next := offset + char.utf8Size
      if char.isDigit then do
        let denominator ← inWord (fraction.denominator * 10)
        let numerator ← inWord (fraction.numerator * 10 + digitValue char)
        readFrom next total (.fraction number ⟨numerator, denominator⟩ next) rest
      else if Text.isBlank char then
        readFrom next total (.fraction number fraction next) rest
      else if isUnitChar char && fraction.denominator != 1 then
        readFrom next total (.unit number (some fraction) [char]) rest
      else .error (.invalidCharacter blamed)
  | .unit number fraction name, char :: rest =>
      let next := offset + char.utf8Size
      if char.isDigit then do
        let total ← addUnits (total.getD 0) number fraction name
        readFrom next (some total) (.digits (digitValue char)) rest
      else if Text.isBlank char then do
        let total ← addUnits (total.getD 0) number fraction name
        readFrom next (some total) (.start next) rest
      else if isUnitChar char then
        readFrom next total (.unit number fraction (name ++ [char])) rest
      else .error (.invalidCharacter offset)

/-- Reads a duration. Zero needs no unit. -/
def readInterval (text : String) : Except IntervalError Duration :=
  if text = "0" then .ok 0 else readFrom 0 none (.start 0) text.toList

end Stackwatch.Command

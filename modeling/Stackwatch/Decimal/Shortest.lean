import Stackwatch.Decimal.Double

/-!
# Shortest decimals

The shortest decimal of a double is the one with the fewest digits among those that are read back as
the same double, and of those the nearest to it. The doubles read from a decimal are decided by an
interval around each double, which contains its ends exactly if the significand is even; so the
search needs whole numbers only.
-/

namespace Stackwatch.Decimal

/-- The positive number `coefficient * 10 ^ exponent`. -/
structure Numeral where
  coefficient : Nat
  exponent : Int
  deriving DecidableEq, Repr, Inhabited

/-- A positive number between two ends, all three over one denominator. -/
structure Interval where
  low : Nat
  value : Nat
  high : Nat
  denominator : Nat
  closed : Bool
  deriving DecidableEq, Repr, Inhabited

/-- The decimals that are read back as `significand * 2 ^ exponent`, in units of
    `10 ^ decimalExponent`. A power of two is nearer to its lower neighbour than to its upper
    one. -/
def interval (significand : Nat) (exponent decimalExponent : Int) : Interval :=
  let (up, down) := powerFraction 2 (exponent - 2)
  let (tenUp, tenDown) := powerFraction 10 decimalExponent
  let scale := up * tenDown
  let below := if significand = Nat.pow 2 52 ∧ leastExponent < exponent then 1 else 2
  { low := (4 * significand - below) * scale
    value := 4 * significand * scale
    high := (4 * significand + 2) * scale
    denominator := down * tenUp
    closed := significand % 2 = 0 }

def Interval.contains (interval : Interval) (candidate : Nat) : Bool :=
  let scaled := candidate * interval.denominator
  if interval.closed then interval.low ≤ scaled && scaled ≤ interval.high
  else interval.low < scaled && scaled < interval.high

/-- Of the two whole numbers around the value, the one in the interval; the nearer one if both are,
    and the even one if both are equally near. -/
def Interval.pick? (interval : Interval) : Option Nat :=
  let floor := interval.value / interval.denominator
  match interval.contains floor, interval.contains (floor + 1) with
  | true, true => some (roundDiv interval.value interval.denominator)
  | true, false => some floor
  | false, true => some (floor + 1)
  | false, false => none

/-- The number of decimal digits. -/
def digitCount (number : Nat) : Nat := (Nat.toDigits 10 number).length

/-- The place of the first digit: the number lies in `[10 ^ place, 10 ^ (place + 1))`. -/
def leadingPlace (significand : Nat) (exponent : Int) : Int :=
  let (up, down) := powerFraction 2 exponent
  (digitCount (significand * up * Nat.pow 10 400 / down) : Int) - 401

/-- Tries decimals whose last digit has the place `place`, and then finer ones. -/
def searchFrom (significand : Nat) (exponent : Int) : (tries : Nat) → (place : Int) → Numeral
  | 0, place => ⟨0, place⟩
  | tries + 1, place =>
      match (interval significand exponent place).pick? with
      | some coefficient => ⟨coefficient, place⟩
      | none => searchFrom significand exponent tries (place - 1)

/-- Every double is told apart by this many digits. -/
def maxDigits : Nat := 17

/-- The shortest decimal of a positive finite double. -/
def shortest (significand : Nat) (exponent : Int) : Numeral :=
  searchFrom significand exponent maxDigits (leadingPlace significand exponent)

/-- The digits of a numeral without zeros at the end, and the place of the first one. -/
def Numeral.digits (numeral : Numeral) : List Char × Int :=
  let all := Nat.toDigits 10 numeral.coefficient
  ((all.reverse.dropWhile (· == '0')).reverse, numeral.exponent + all.length - 1)

end Stackwatch.Decimal

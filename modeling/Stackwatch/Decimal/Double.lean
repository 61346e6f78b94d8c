/-!
# Doubles as exact numbers

A finite double is a whole number times a power of two. This module takes doubles apart into these
parts and finds the double nearest to a decimal number, both in exact arithmetic, so that statements
about the text of a measurement can be proved without knowing how a machine rounds.
-/

namespace Stackwatch.Decimal

/-- The parts of a double; a finite one is `significand * 2 ^ exponent`, with a sign. -/
inductive Double where
  | finite (negative : Bool) (significand : Nat) (exponent : Int)
  | infinite (negative : Bool)
  | notANumber
  deriving DecidableEq, Repr, Inhabited

/-- The exponent of the doubles closest to zero. -/
def leastExponent : Int := -1074

/-- The exponent of the largest doubles. -/
def greatestExponent : Int := 971

namespace Double

def ofBits (bits : Nat) : Double :=
  let negative := bits.testBit 63
  let biased := bits / Nat.pow 2 52 % Nat.pow 2 11
  let fraction := bits % Nat.pow 2 52
  if biased = 2047 then
    if fraction = 0 then .infinite negative else .notANumber
  else if biased = 0 then
    .finite negative fraction leastExponent
  else
    .finite negative (Nat.pow 2 52 + fraction) (leastExponent + (biased - 1 : Nat))

def toBits : Double → Nat
  | .finite negative significand exponent =>
      negative.toNat * Nat.pow 2 63 +
        (if significand < Nat.pow 2 52 then significand
          else ((exponent - leastExponent).toNat + 1) * Nat.pow 2 52 + (significand - Nat.pow 2 52))
  | .infinite negative => negative.toNat * Nat.pow 2 63 + 2047 * Nat.pow 2 52
  | .notANumber => 2047 * Nat.pow 2 52 + Nat.pow 2 51

def ofFloat (value : Float) : Double := ofBits value.toBits.toNat

def toFloat (double : Double) : Float := Float.ofBits (UInt64.ofNat double.toBits)

/-- The whole number reached by dropping the digits behind the point; zero for what is no number,
    and the nearest bound for what lies outside `[low, high]`. -/
def truncate (low high : Int) : Double → Int
  | .finite negative significand exponent =>
      let size := if 0 ≤ exponent then significand * Nat.pow 2 exponent.toNat
        else significand / Nat.pow 2 (-exponent).toNat
      max low (min high (if negative then -(size : Int) else size))
  | .infinite negative => if negative then low else high
  | .notANumber => 0

end Double

/-- A fraction of two whole numbers, rounded to the nearest whole number, a half to the even one. -/
def roundDiv (numerator denominator : Nat) : Nat :=
  let quotient := numerator / denominator
  let twice := 2 * (numerator % denominator)
  if twice < denominator then quotient
  else if denominator < twice then quotient + 1
  else if quotient % 2 = 0 then quotient
  else quotient + 1

/-- The power `base ^ exponent` as a fraction. -/
def powerFraction (base : Nat) (exponent : Int) : Nat × Nat :=
  (Nat.pow base exponent.toNat, Nat.pow base (-exponent).toNat)

/-- The double nearest to a positive fraction. -/
def nearestFraction (numerator denominator : Nat) : Double :=
  let estimate : Int := (numerator.log2 : Int) - denominator.log2 - 53
  let exponent := max leastExponent estimate
  let (up, down) := powerFraction 2 exponent
  let wide := roundDiv (numerator * down) (denominator * up)
  let exponent := if wide < Nat.pow 2 53 then exponent else exponent + 1
  let (up, down) := powerFraction 2 exponent
  let significand := roundDiv (numerator * down) (denominator * up)
  let (significand, exponent) :=
    if significand = Nat.pow 2 53 then (Nat.pow 2 52, exponent + 1) else (significand, exponent)
  if greatestExponent < exponent then .infinite false else .finite false significand exponent

/-- The double nearest to `coefficient * 10 ^ exponent`. Exponents far outside the range of doubles
    are answered without computing the power. -/
def nearest (coefficient : Nat) (exponent : Int) : Double :=
  if coefficient = 0 ∨ exponent < -(400 + coefficient.log2 : Int) then
    .finite false 0 leastExponent
  else if 400 < exponent then
    .infinite false
  else
    let (up, down) := powerFraction 10 exponent
    nearestFraction (coefficient * up) down

end Stackwatch.Decimal

import Stackwatch.Decimal.Shortest
import Stackwatch.Json.Value

/-!
# JSON text

The text of a value has no spaces. In strings only quotes, backslashes and control characters are
escaped; a number that is not whole is written with the fewest digits that read back as the same
number. Writers put their text in front of a given rest, so that the text of a value is one walk
over it.
-/

namespace Stackwatch.Json

def hexDigit (value : Nat) : Char := "0123456789abcdef".toList.getD value '0'

/-- How a character stands between quotes. -/
def escape (char : Char) : List Char :=
  match char with
  | '"' => ['\\', '"']
  | '\\' => ['\\', '\\']
  | '\n' => ['\\', 'n']
  | '\r' => ['\\', 'r']
  | '\t' => ['\\', 't']
  | '\x08' => ['\\', 'b']
  | '\x0c' => ['\\', 'f']
  | _ =>
      if char.toNat < 32 then
        ['\\', 'u', '0', '0', hexDigit (char.toNat / 16), hexDigit (char.toNat % 16)]
      else
        [char]

def writeString (text : String) (rest : List Char) : List Char :=
  '"' :: (text.toList.flatMap escape ++ '"' :: rest)

/-- Real numbers are written in full when their first digit has a place in this range, and with an
    exponent otherwise. -/
def leastPlainPlace : Int := -5

def greatestPlainPlace : Int := 15

/-- The text of a positive number with these digits, the first of which has the place `place`. -/
def layoutDigits (digits : List Char) (place : Int) : List Char :=
  if leastPlainPlace ≤ place ∧ place ≤ greatestPlainPlace then
    if place < 0 then
      '0' :: '.' :: (List.replicate (-place - 1).toNat '0' ++ digits)
    else
      let whole := (place + 1).toNat
      let padded := digits ++ List.replicate (whole - digits.length) '0'
      let fraction := padded.drop whole
      padded.take whole ++ '.' :: (if fraction.isEmpty then ['0'] else fraction)
  else
    let fraction := digits.drop 1
    digits.take 1 ++ (if fraction.isEmpty then [] else '.' :: fraction) ++
      'e' :: (if place < 0 then '-' else '+') :: Nat.toDigits 10 place.natAbs

/-- What is no number has no text of its own. -/
def realText (value : Float) : List Char :=
  match Decimal.Double.ofFloat value with
  | .finite negative significand exponent =>
      let sign := if negative then ['-'] else []
      if significand = 0 then
        sign ++ ['0', '.', '0']
      else
        let (digits, place) := (Decimal.shortest significand exponent).digits
        sign ++ layoutDigits digits place
  | _ => ['n', 'u', 'l', 'l']

def integerText (value : Int) : List Char :=
  if value < 0 then '-' :: Nat.toDigits 10 value.natAbs else Nat.toDigits 10 value.natAbs

mutual

/-- Writes a value in front of `rest`. -/
def write : Json → List Char → List Char
  | .null, rest => 'n' :: 'u' :: 'l' :: 'l' :: rest
  | .bool true, rest => 't' :: 'r' :: 'u' :: 'e' :: rest
  | .bool false, rest => 'f' :: 'a' :: 'l' :: 's' :: 'e' :: rest
  | .integer value, rest => integerText value ++ rest
  | .real value, rest => realText value ++ rest
  | .string text, rest => writeString text rest
  | .array items, rest => '[' :: writeItems items (']' :: rest)
  | .object fields, rest => '{' :: writeFields fields ('}' :: rest)

def writeItems : List Json → List Char → List Char
  | [], rest => rest
  | item :: others, rest => item.write (writeMoreItems others rest)

def writeMoreItems : List Json → List Char → List Char
  | [], rest => rest
  | item :: others, rest => ',' :: item.write (writeMoreItems others rest)

def writeFields : List (String × Json) → List Char → List Char
  | [], rest => rest
  | (key, value) :: others, rest =>
      writeString key (':' :: value.write (writeMoreFields others rest))

def writeMoreFields : List (String × Json) → List Char → List Char
  | [], rest => rest
  | (key, value) :: others, rest =>
      ',' :: writeString key (':' :: value.write (writeMoreFields others rest))

end

/-- The text of a value. -/
def text (value : Json) : String := String.ofList (value.write [])

end Stackwatch.Json

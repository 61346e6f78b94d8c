import Stackwatch.Decimal.Double
import Stackwatch.Json.Value

/-!
# Reading JSON

The reader accepts the JSON grammar with any blanks between tokens. A number without point and
exponent is whole if it fits into 64 bits; every other number is the nearest double.
-/

namespace Stackwatch.Json

def isBlank (char : Char) : Bool :=
  char == ' ' || char == '\n' || char == '\r' || char == '\t'

def skipBlanks (chars : List Char) : List Char := chars.dropWhile isBlank

def hexValue? (char : Char) : Option Nat :=
  if char.isDigit then some (char.toNat - '0'.toNat)
  else if 'a' ≤ char ∧ char ≤ 'f' then some (char.toNat - 'a'.toNat + 10)
  else if 'A' ≤ char ∧ char ≤ 'F' then some (char.toNat - 'A'.toNat + 10)
  else none

/-- A number of four hexadecimal digits. -/
def readHex : List Char → Option (Nat × List Char)
  | first :: second :: third :: fourth :: rest => do
      let high ← hexValue? first
      let next ← hexValue? second
      let middle ← hexValue? third
      let low ← hexValue? fourth
      some (((high * 16 + next) * 16 + middle) * 16 + low, rest)
  | _ => none

/-- The character of an escape, without its backslash. -/
def readEscape : List Char → Option (Char × List Char)
  | '"' :: rest => some ('"', rest)
  | '\\' :: rest => some ('\\', rest)
  | '/' :: rest => some ('/', rest)
  | 'n' :: rest => some ('\n', rest)
  | 'r' :: rest => some ('\r', rest)
  | 't' :: rest => some ('\t', rest)
  | 'b' :: rest => some ('\x08', rest)
  | 'f' :: rest => some ('\x0c', rest)
  | 'u' :: rest => do
      let (code, rest) ← readHex rest
      if 0xD800 ≤ code ∧ code < 0xDC00 then
        match rest with
        | '\\' :: 'u' :: rest => do
            let (low, rest) ← readHex rest
            if 0xDC00 ≤ low ∧ low < 0xE000 then
              some (Char.ofNat (0x10000 + (code - 0xD800) * 0x400 + (low - 0xDC00)), rest)
            else
              none
        | _ => none
      else if 0xDC00 ≤ code ∧ code < 0xE000 then
        none
      else
        some (Char.ofNat code, rest)
  | _ => none

/-- The characters up to the closing quote. -/
def readCharacters : (fuel : Nat) → List Char → Option (List Char × List Char)
  | 0, _ => none
  | _ + 1, [] => none
  | _ + 1, '"' :: rest => some ([], rest)
  | fuel + 1, '\\' :: rest => do
      let (char, rest) ← readEscape rest
      let (chars, rest) ← readCharacters fuel rest
      some (char :: chars, rest)
  | fuel + 1, char :: rest =>
      if char.toNat < 32 then
        none
      else do
        let (chars, rest) ← readCharacters fuel rest
        some (char :: chars, rest)

def digitsValue (digits : List Char) : Nat :=
  digits.foldl (fun value digit => 10 * value + (digit.toNat - '0'.toNat)) 0

def readDigits (chars : List Char) : List Char × List Char :=
  (chars.takeWhile Char.isDigit, chars.dropWhile Char.isDigit)

/-- The digits before the point: a single zero, or digits that do not start with one. -/
def readWhole (chars : List Char) : Option (List Char × List Char) :=
  match readDigits chars with
  | ([], _) => none
  | ('0' :: _ :: _, _) => none
  | found => some found

/-- The digits behind the point; there are none without a point. -/
def readFraction : List Char → Option (List Char × List Char)
  | '.' :: rest =>
      match readDigits rest with
      | ([], _) => none
      | found => some found
  | chars => some ([], chars)

def readSign : List Char → Bool × List Char
  | '-' :: rest => (true, rest)
  | '+' :: rest => (false, rest)
  | chars => (false, chars)

/-- The exponent, if there is one. -/
def readExponent : List Char → Option (Option Int × List Char)
  | char :: rest =>
      if char == 'e' || char == 'E' then
        let (negative, rest) := readSign rest
        match readDigits rest with
        | ([], _) => none
        | (digits, rest) =>
            let size : Int := digitsValue digits
            some (some (if negative then -size else size), rest)
      else
        some (none, char :: rest)
  | [] => some (none, [])

def negateFloat (negative : Bool) (double : Decimal.Double) : Float :=
  match double with
  | .finite _ significand exponent => (Decimal.Double.finite negative significand exponent).toFloat
  | .infinite _ => (Decimal.Double.infinite negative).toFloat
  | .notANumber => Decimal.Double.notANumber.toFloat

/-- The whole numbers that stay whole. -/
def isWhole (value : Int) : Bool := -(Nat.pow 2 63) ≤ value && value < Nat.pow 2 64

def readNumber (chars : List Char) : Option (Json × List Char) := do
  let (negative, chars) :=
    match chars with
    | '-' :: rest => (true, rest)
    | _ => (false, chars)
  let (whole, chars) ← readWhole chars
  let (fraction, chars) ← readFraction chars
  let (exponent?, chars) ← readExponent chars
  let coefficient := digitsValue (whole ++ fraction)
  let value : Int := if negative then -(coefficient : Int) else coefficient
  if fraction.isEmpty && exponent?.isNone && isWhole value && !(negative && coefficient == 0) then
    some (.integer value, chars)
  else
    let exponent := exponent?.getD 0 - fraction.length
    some (.real (negateFloat negative (Decimal.nearest coefficient exponent)), chars)

mutual

/-- A value at the start of `chars`, and what follows it. -/
def readValue : (fuel : Nat) → List Char → Option (Json × List Char)
  | 0, _ => none
  | fuel + 1, chars =>
      match skipBlanks chars with
      | 'n' :: 'u' :: 'l' :: 'l' :: rest => some (.null, rest)
      | 't' :: 'r' :: 'u' :: 'e' :: rest => some (.bool true, rest)
      | 'f' :: 'a' :: 'l' :: 's' :: 'e' :: rest => some (.bool false, rest)
      | '"' :: rest => do
          let (text, rest) ← readCharacters (rest.length + 1) rest
          some (.string (String.ofList text), rest)
      | '[' :: rest =>
          match skipBlanks rest with
          | ']' :: rest => some (.array [], rest)
          | rest => do
              let (items, rest) ← readItems fuel rest
              some (.array items, rest)
      | '{' :: rest =>
          match skipBlanks rest with
          | '}' :: rest => some (.object [], rest)
          | rest => do
              let (fields, rest) ← readFields fuel rest
              some (.object fields, rest)
      | rest => readNumber rest

/-- One or more items up to the closing bracket. -/
def readItems : (fuel : Nat) → List Char → Option (List Json × List Char)
  | 0, _ => none
  | fuel + 1, chars => do
      let (item, rest) ← readValue fuel chars
      match skipBlanks rest with
      | ']' :: rest => some ([item], rest)
      | ',' :: rest => do
          let (items, rest) ← readItems fuel rest
          some (item :: items, rest)
      | _ => none

/-- One or more fields up to the closing brace. -/
def readFields : (fuel : Nat) → List Char → Option (List (String × Json) × List Char)
  | 0, _ => none
  | fuel + 1, chars =>
      match skipBlanks chars with
      | '"' :: rest => do
          let (key, rest) ← readCharacters (rest.length + 1) rest
          match skipBlanks rest with
          | ':' :: rest => do
              let (value, rest) ← readValue fuel rest
              let field := (String.ofList key, value)
              match skipBlanks rest with
              | '}' :: rest => some ([field], rest)
              | ',' :: rest => do
                  let (fields, rest) ← readFields fuel rest
                  some (field :: fields, rest)
              | _ => none
          | _ => none
      | _ => none

end

/-- The value whose text this is. -/
def read? (text : String) : Option Json := do
  let chars := text.toList
  let (value, rest) ← readValue (2 * chars.length + 1) chars
  if (skipBlanks rest).isEmpty then some value else none

end Stackwatch.Json

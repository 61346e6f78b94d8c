import Stackwatch.Url.Domain.Basic
import Stackwatch.Url.Encode

/-!
# Hosts

The host of a web address is a domain name, or a number of four or sixteen bytes. A name whose last
part is a number has to be a number of four bytes as a whole. Hosts of other addresses are not
interpreted.
-/

namespace Stackwatch.Url

/-- What cannot stand in any host. -/
def notInHost (char : Char) : Bool :=
  char == '\x00' || "\t\n\r #/:<>?@[\\]^|".contains char

/-- The value of digits in a base. -/
def digitsValue? (base : Nat) (digits : List Char) : Option Nat :=
  digits.foldl (fun value char => do
    let value ← value
    let digit ← hexDigit? char
    if digit < base then some (value * base + digit) else none) (some 0)

/-- A number in decimal, octal or hexadecimal digits; no digits are zero. -/
def partValue? : List Char → Option Nat
  | '0' :: 'x' :: digits => digitsValue? 16 digits
  | '0' :: 'X' :: digits => digitsValue? 16 digits
  | '0' :: digits => digitsValue? 8 digits
  | [] => none
  | digits => digitsValue? 10 digits

/-- The parts of a name, without an empty one at the end. -/
def nameParts (name : List Char) : List (List Char) :=
  let parts := name.splitOn '.'
  match parts.reverse with
  | [] :: last :: rest => (last :: rest).reverse
  | _ => parts

/-- Whether the last part of a name is a number. -/
def endsInNumber (name : List Char) : Bool :=
  match (nameParts name).getLast? with
  | none => false
  | some last => (!last.isEmpty && last.all Char.isDigit) || (partValue? last).isSome

/-- The bytes of a number of at most four parts, the last of which fills up what is left. -/
def shortNumber? (name : List Char) : Option Nat := do
  let parts := nameParts name
  if 4 < parts.length then none
  else
    let values ← parts.mapM partValue?
    let last ← values.getLast?
    let leading := values.dropLast
    if leading.any (255 < ·) || Nat.pow 256 (4 - leading.length) ≤ last then none
    else
      let weighted := leading.mapIdx fun index value => value * Nat.pow 256 (3 - index)
      some (weighted.foldr (· + ·) last)

/-- Four bytes with points between them. -/
def shortNumberText (value : Nat) : List Char :=
  ['.'].intercalate
    ([value / 256 / 256 / 256, value / 256 / 256 % 256, value / 256 % 256, value % 256].map
      (Nat.toDigits 10))

/-- The groups of a long number that has no gap. -/
def groups? (chars : List Char) : Option (List Nat) :=
  if chars.isEmpty then some []
  else
    ((chars.splitOn ':').mapM fun group =>
      if group.isEmpty || 4 < group.length then none
      else (digitsValue? 16 group).map fun value => [value]).map List.flatten

/-- Four bytes at the end of a long number as two groups. -/
def tailGroups? (chars : List Char) : Option (List Nat) := do
  let parts := chars.splitOn '.'
  let values ← parts.mapM fun part =>
    if part.isEmpty || (part.head? == some '0' && 1 < part.length) then none
    else digitsValue? 10 part
  match values with
  | [first, second, third, fourth] =>
      if values.any (255 < ·) then none else some [first * 256 + second, third * 256 + fourth]
  | _ => none

/-- The groups of a part of a long number, at the end of which four bytes may stand. -/
def groupsWithTail? (chars : List Char) : Option (List Nat) :=
  if chars.contains '.' then do
    let tail := (chars.reverse.takeWhile (· != ':')).reverse
    let front := chars.take (chars.length - tail.length)
    let frontGroups ← if front.isEmpty then some [] else groups? front.dropLast
    let tailGroups ← tailGroups? tail
    some (frontGroups ++ tailGroups)
  else
    groups? chars

/-- The text before and behind the first double colon. -/
def splitGap : List Char → Option (List Char × List Char)
  | ':' :: ':' :: rest => some ([], rest)
  | char :: rest => (splitGap rest).map fun (before, behind) => (char :: before, behind)
  | [] => none

/-- The eight groups of a number of sixteen bytes. -/
def longNumber? (chars : List Char) : Option (List Nat) :=
  match splitGap chars with
  | none => do
      let groups ← groupsWithTail? chars
      if groups.length = 8 then some groups else none
  | some (before, behind) => do
      let front ← groups? before
      let back ← groupsWithTail? behind
      if front.length + back.length < 8 then
        some (front ++ List.replicate (8 - front.length - back.length) 0 ++ back)
      else none

/-- Length of the run of zeros in front. -/
def zerosInFront (groups : List Nat) : Nat := (groups.takeWhile (· == 0)).length

/-- Place and length of the first longest run of zeros. -/
def longestZeros (groups : List Nat) : Nat × Nat :=
  (List.range groups.length).foldl (fun best place =>
    let length := zerosInFront (groups.drop place)
    if best.2 < length then (place, length) else best) (0, 0)

def groupsText (groups : List Nat) : List Char := [':'].intercalate (groups.map (Nat.toDigits 16))

/-- Eight groups; the longest run of zeros is left out if it is longer than one. -/
def longNumberText (groups : List Nat) : List Char :=
  let (place, length) := longestZeros groups
  if length < 2 then groupsText groups
  else groupsText (groups.take place) ++ [':', ':'] ++ groupsText (groups.drop (place + length))

/-- The number in brackets. -/
def bracketed? (chars : List Char) : Option (List Char) :=
  match chars.reverse with
  | ']' :: inner =>
      (longNumber? inner.reverse).map fun groups => '[' :: longNumberText groups ++ [']']
  | _ => none

/-- The host of a web address in its usual form. -/
def webHost? (chars : List Char) : Option (List Char) :=
  match chars with
  | '[' :: rest => bracketed? rest
  | _ => do
      let name ← Domain.read? (← decode? chars)
      if name.isEmpty then none
      else if endsInNumber name then (shortNumber? name).map shortNumberText
      else some name

/-- The host of any other address. -/
def plainHost? (chars : List Char) : Option (List Char) :=
  match chars with
  | '[' :: rest => bracketed? rest
  | _ => if chars.any notInHost then none else some (encode isControl chars)

end Stackwatch.Url

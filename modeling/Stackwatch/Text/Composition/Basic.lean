import Stackwatch.Text.Composition.Table

/-!
# Composition

A text has one composed form: every character is taken apart, the marks behind it are put in order,
and then the parts are put together again wherever there is a character for them. Syllables of
Korean are put together from their letters by a rule.
-/

namespace Stackwatch.Text.Composition

/-! ## Syllables -/

def firstSyllable : Nat := 0xac00
def firstLead : Nat := 0x1100
def firstVowel : Nat := 0x1161
/-- The code before the first letter that can end a syllable. -/
def noTail : Nat := 0x11a7

def leads : Nat := 19
def vowels : Nat := 21
def tails : Nat := 28

/-- The two parts of a syllable: its lead and vowel, or what is in front of its tail, and that. -/
def syllableParts? (code : Nat) : Option (Nat × Nat) :=
  if firstSyllable ≤ code ∧ code < firstSyllable + leads * vowels * tails then
    let index := code - firstSyllable
    let tail := index % tails
    if tail = 0 then
      some (firstLead + index / (vowels * tails), firstVowel + index / tails % vowels)
    else some (code - tail, noTail + tail)
  else none

/-- The syllable that begins with a lead, or with a syllable without a tail. -/
def syllable? (first second : Nat) : Option Nat :=
  if firstLead ≤ first ∧ first < firstLead + leads ∧
      firstVowel ≤ second ∧ second < firstVowel + vowels then
    some (firstSyllable + ((first - firstLead) * vowels + (second - firstVowel)) * tails)
  else if firstSyllable ≤ first ∧ first < firstSyllable + leads * vowels * tails ∧
      (first - firstSyllable) % tails = 0 ∧ noTail < second ∧ second < noTail + tails then
    some (first + (second - noTail))
  else none

/-! ## Parts -/

/-- The two parts of a character. -/
def parts? (code : Nat) : Option (Nat × Nat) :=
  (syllableParts? code).or (compositeTable.lookup code)

/-- The character with the given parts. -/
def composite? (first second : Nat) : Option Nat :=
  (syllable? first second).or
    ((compositeTable.find? fun entry => entry.2 == (first, second)).map (·.1))

/-- The place of a mark in the order of marks; zero for what is no mark or keeps its place. -/
def order (code : Nat) : Nat :=
  match orderTable.find? fun (first, last, _) => first ≤ code && code ≤ last with
  | some (_, _, order) => order
  | none => 0

/-- How often the first part of a character can have parts itself. -/
def depth : Nat := 4

/-- All parts of a character. -/
def takenApart : (depth code : Nat) → List Nat
  | 0, code => [code]
  | depth + 1, code =>
      match parts? code with
      | some (first, second) => takenApart depth first ++ [second]
      | none => [code]

/-- Puts a character in front of a text in order; a mark goes behind those that come first. -/
def putInOrder (code : Nat) : List Nat → List Nat
  | [] => [code]
  | next :: rest =>
      if 0 < order next ∧ order next < order code then next :: putInOrder code rest
      else code :: next :: rest

/-- Puts a character together with what follows it. Between them are marks, the last one first. A
    mark of the same place in the order, or a later one, keeps the two apart. -/
def putTogether (code : Nat) (marks : List Nat) : List Nat → List Nat
  | [] => code :: marks.reverse
  | next :: rest =>
      let isApart : Bool := match marks with
        | last :: _ => order next ≤ order last
        | [] => false
      match if isApart then none else composite? code next with
      | some whole => putTogether whole marks rest
      | none =>
          if order next = 0 then code :: (marks.reverse ++ putTogether next [] rest)
          else putTogether code (next :: marks) rest

/-- The composed form of a text. -/
def compose (chars : List Char) : List Char :=
  let codes := (chars.flatMap fun char => takenApart depth char.toNat).foldr putInOrder []
  (match codes with
    | first :: rest => putTogether first [] rest
    | [] => []).map Char.ofNat

end Stackwatch.Text.Composition

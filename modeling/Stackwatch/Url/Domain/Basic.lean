import Stackwatch.Text.Composition.Basic
import Stackwatch.Text.Direction
import Stackwatch.Text.Joining
import Stackwatch.Url.Domain.Table
import Stackwatch.Url.Punycode

/-!
# Domain names

A domain name is a sequence of labels between points. In its usual form it is written in plain small
letters: every character is replaced by its plain form, and labels that still hold foreign letters
are written with plain ones behind `xn--`. A label that is written so already has to be the usual
form of the label that it stands for.
-/

namespace Stackwatch.Url.Domain

/-- The code that replaces one in a range. -/
def shift? (code : Nat) : Option Nat :=
  (shiftTable.find? fun (first, last, step, _) =>
    first ≤ code && code ≤ last && (code - first) % step == 0).map
    fun (first, _, _, target) => target + (code - first)

/-- The code that replaces one of several successive ones. -/
def replacement? (code : Nat) : Option Nat :=
  (replacementTable.find? fun (first, targets) =>
    first ≤ code && code < first + targets.length).bind
    fun (first, targets) => targets[code - first]?

/-- What stands for a character in the usual form; nothing if it cannot stand in a name. -/
def plainForm? (char : Char) : Option (List Char) :=
  let code := char.toNat
  match (shift? code).or (replacement? code), expansionTable.lookup code with
  | some code, _ => some [Char.ofNat code]
  | none, some codes => some (codes.map Char.ofNat)
  | none, none =>
      if Text.within ignoredRanges code then some []
      else if Text.within refusedRanges code then none
      else some [char]

/-- ASCII characters that cannot stand in a name. -/
def isForbidden (char : Char) : Bool :=
  char.toNat ≤ 0x20 || char == '\x7f' || "%#/:<>?@[\\]^|".contains char

/-! ## Labels -/

/-- What a label begins with whose foreign letters are written with plain ones. -/
def encodedStart : List Char := ['x', 'n', '-', '-']

def isJoiner (char : Char) : Bool := char == '\u200d'

def isSeparator (char : Char) : Bool := char == '\u200c'

/-- Whether a character takes the vowel away from the consonant before it. -/
def isVowelKiller (char : Char) : Bool := Text.Composition.order char.toNat == 9

/-- Whether invisible joiners and separators stand only where they make a difference; `before` is
    what stands in front, the last character first. -/
def joinsWell (before : List Char) : List Char → Bool
  | [] => true
  | char :: rest =>
      let isFine :=
        !(isJoiner char || isSeparator char) ||
          (match before with
            | last :: _ => isVowelKiller last
            | [] => false) ||
          (isSeparator char && Text.joinsNext before && Text.joinsPrevious rest)
      isFine && joinsWell (char :: before) rest

/-- How many characters a label with foreign letters can have. -/
def longestLabel : Nat := 1000

/-- How many plain letters can stand for one. -/
def longestEncoding : Nat := 2000

/-- Whether a label can stand in a name that is mixed of directions of writing, or is not. -/
def isSound (isMixed : Bool) (label : List Char) : Bool :=
  (match label with
    | first :: _ => !Text.isMark first
    | [] => true) &&
    joinsWell [] label && (!isMixed || Text.Direction.isConsistent label)

/-- The label that plain letters stand for. It has to be in its usual form. -/
def decodeLabel? (label : List Char) : Option (List Char) :=
  if encodedStart.isPrefixOf label then
    let text := label.drop encodedStart.length
    if text.isEmpty || text.getLast? == some '-' || longestEncoding < text.length ||
        !text.all Punycode.isPlain then none
    else do
      let decoded ← Punycode.decode? text
      if decoded.all (fun char => plainForm? char == some [char]) &&
          !encodedStart.isPrefixOf decoded && Text.Composition.compose decoded == decoded then
        some decoded
      else none
  else some label

/-- The label in plain letters. -/
def encodeLabel? (label : List Char) : Option (List Char) :=
  if label.all Punycode.isPlain then some label
  else if longestLabel < label.length then none
  else some (encodedStart ++ Punycode.encode label)

/-! ## Names -/

/-- The usual form of a name. -/
def read? (chars : List Char) : Option (List Char) := do
  let plain ← chars.mapM plainForm?
  let name := Text.Composition.compose plain.flatten
  if name.any isForbidden then none
  else
    let labels ← (name.splitOn '.').mapM decodeLabel?
    let isMixed := Text.Direction.isMixed labels.flatten
    if labels.all (isSound isMixed) then
      return ['.'].intercalate (← labels.mapM encodeLabel?)
    else none

end Stackwatch.Url.Domain

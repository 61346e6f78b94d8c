/-!
# Names in plain letters

A name with foreign letters is written with plain ones: first the plain letters of the name, then,
behind a hyphen, the others in the order of their codes. Each of them is a number that says how far
its code and its place are from those of the one before. The digits of a number are letters and
digits; which of them ends it depends on how large the numbers before it were.
-/

namespace Stackwatch.Url.Punycode

def digitChar (digit : Nat) : Char :=
  if digit < 26 then Char.ofNat ('a'.toNat + digit) else Char.ofNat ('0'.toNat + digit - 26)

def digitValue? (char : Char) : Option Nat :=
  if char.isLower then some (char.toNat - 'a'.toNat)
  else if char.isUpper then some (char.toNat - 'A'.toNat)
  else if char.isDigit then some (char.toNat - '0'.toNat + 26)
  else none

/-- A digit below the threshold of its place ends a number. -/
def threshold (place bias : Nat) : Nat :=
  if place ≤ bias then 1 else if bias + 26 ≤ place then 26 else place - bias

theorem one_le_threshold (place bias : Nat) : 1 ≤ threshold place bias := by
  unfold threshold
  split
  · omega
  · split <;> omega

/-- Counts the places of a large number. -/
def shrink (delta places : Nat) : Nat × Nat :=
  if 455 < delta then shrink (delta / 35) (places + 36) else (delta, places)
termination_by delta
decreasing_by exact Nat.div_lt_self (by omega) (by omega)

/-- The bias behind a number, of which the given count are written. -/
def adapt (delta count : Nat) (isFirst : Bool) : Nat :=
  let halved := if isFirst then delta / 700 else delta / 2
  let (small, places) := shrink (halved + halved / count) 0
  places + 36 * small / (small + 38)

/-! ## Writing -/

/-- The digits of a number from a place on. -/
def encodeNumber (bias place number : Nat) : List Char :=
  let limit := threshold place bias
  if number < limit then [digitChar number]
  else
    digitChar (limit + (number - limit) % (36 - limit)) ::
      encodeNumber bias (place + 36) ((number - limit) / (36 - limit))
termination_by number
decreasing_by
  have := one_le_threshold place bias
  exact Nat.lt_of_le_of_lt (Nat.div_le_self _ _) (by omega)

/-- What has been written so far. -/
structure Writing where
  text : List Char := []
  delta : Nat := 0
  bias : Nat := 72
  /-- How many letters of the name are written. -/
  written : Nat

/-- Goes over a letter of the name while those with a certain code are written. -/
def Writing.pass (plain code : Nat) (writing : Writing) (char : Char) : Writing :=
  if char.toNat < code then { writing with delta := writing.delta + 1 }
  else if char.toNat = code then
    { text := writing.text ++ encodeNumber writing.bias 36 writing.delta
      delta := 0
      bias := adapt writing.delta (writing.written + 1) (writing.written == plain)
      written := writing.written + 1 }
  else writing

/-- Writes the letters with the given codes, which ascend; `next` is the least that is not passed
    yet. -/
def writeForeign (name : List Char) (plain : Nat) :
    (codes : List Nat) → (next : Nat) → Writing → Writing
  | [], _, writing => writing
  | code :: rest, next, writing =>
      let writing := { writing with
        delta := writing.delta + (code - next) * (writing.written + 1) }
      let writing := name.foldl (Writing.pass plain code) writing
      writeForeign name plain rest (code + 1) { writing with delta := writing.delta + 1 }

def isPlain (char : Char) : Bool := char.toNat < 0x80

/-- The name in plain letters. -/
def encode (name : List Char) : List Char :=
  let plain := name.filter isPlain
  let codes := ((name.filter fun char => !isPlain char).map Char.toNat).mergeSort.eraseDups
  plain ++ (if plain.isEmpty then [] else ['-']) ++
    (writeForeign name plain.length codes 0x80 { written := plain.length }).text

/-! ## Reading -/

/-- Adds the number that stands first to a sum, and returns what follows it. -/
def decodeNumber (bias : Nat) :
    (digits : List Char) → (place weight sum : Nat) → Option (Nat × List Char)
  | [], _, _, _ => none
  | char :: rest, place, weight, sum =>
      match digitValue? char with
      | none => none
      | some digit =>
          let sum := sum + digit * weight
          let limit := threshold place bias
          if digit < limit then some (sum, rest)
          else decodeNumber bias rest (place + 36) (weight * (36 - limit)) sum

/-- A number takes at least one digit. -/
theorem length_lt_of_decodeNumber {bias : Nat} {digits : List Char} {place weight sum : Nat}
    {result : Nat × List Char} (h : decodeNumber bias digits place weight sum = some result) :
    result.2.length < digits.length := by
  induction digits generalizing place weight sum with
  | nil => simp [decodeNumber] at h
  | cons char rest ih =>
      rw [decodeNumber] at h
      split at h
      · simp at h
      · simp only at h
        split at h
        · rw [← Option.some.inj h]
          simp
        · have := ih h
          simp only [List.length_cons]
          omega

/-- Puts the letters that the numbers stand for into a name; `next` is the least code that is not
    passed yet, and `place` the place behind the last letter. -/
def readForeign (bias next place : Nat) (name digits : List Char) : Option (List Char) :=
  match digits with
  | [] => some name
  | first :: others =>
      match _h : decodeNumber bias (first :: others) 36 1 place with
      | none => none
      | some (sum, rest) =>
          let count := name.length + 1
          let code := next + sum / count
          if code.isValidChar then
            readForeign (adapt (sum - place) count (place == 0)) code (sum % count + 1)
              (name.insertIdx (sum % count) (Char.ofNat code)) rest
          else none
termination_by digits.length
decreasing_by
  have := length_lt_of_decodeNumber _h
  simpa using this

/-- The name that is written in plain letters. -/
def decode? (text : List Char) : Option (List Char) :=
  let digits := (text.reverse.takeWhile (· != '-')).reverse
  let plain := (text.take (text.length - digits.length)).dropLast
  if plain.isEmpty then readForeign 72 0x80 0 [] text
  else readForeign 72 0x80 0 plain digits

end Stackwatch.Url.Punycode

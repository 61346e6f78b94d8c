/-!
# The grammar of JSON

The texts that are JSON, as lists of characters. The grammar knows neither the writer nor the reader
of this library: it allows blanks between tokens, escapes for every character and numbers of any
size.
-/

namespace Stackwatch.Json.Grammar

/-! ### Numbers -/

/-- One or more digits. -/
structure Digits (chars : List Char) : Prop where
  some : chars ≠ []
  all : ∀ char ∈ chars, char.isDigit = true

/-- The digits before the point: a single zero, or digits that do not start with one. -/
inductive Whole : List Char → Prop
  | zero : Whole ['0']
  | digits {first : Char} {others : List Char} (notZero : first ≠ '0')
      (all : ∀ char ∈ first :: others, char.isDigit = true) : Whole (first :: others)

theorem Whole.exists_cons {chars : List Char} (whole : Whole chars) :
    ∃ first others, chars = first :: others ∧ first.isDigit = true := by
  cases whole with
  | zero => exact ⟨'0', [], rfl, rfl⟩
  | @digits first others notZero all => exact ⟨first, others, rfl, all first List.mem_cons_self⟩

inductive Fraction : List Char → Prop
  | absent : Fraction []
  | digits {digits : List Char} (some : Digits digits) : Fraction ('.' :: digits)

inductive Exponent : List Char → Prop
  | absent : Exponent []
  | digits {marker : Char} {sign digits : List Char} (marked : marker = 'e' ∨ marker = 'E')
      (signed : sign = [] ∨ sign = ['+'] ∨ sign = ['-']) (some : Digits digits) :
      Exponent (marker :: (sign ++ digits))

inductive Number : List Char → Prop
  | intro {sign whole fraction exponent : List Char} (signed : sign = [] ∨ sign = ['-'])
      (wholeDigits : Whole whole) (fractionDigits : Fraction fraction)
      (exponentDigits : Exponent exponent) : Number (sign ++ whole ++ fraction ++ exponent)

/-! ### Strings -/

def IsHexDigit (char : Char) : Prop :=
  char.isDigit = true ∨ 'a' ≤ char ∧ char ≤ 'f' ∨ 'A' ≤ char ∧ char ≤ 'F'

/-- One character between quotes. -/
inductive Character : List Char → Prop
  | plain {char : Char} (notQuote : char ≠ '"') (notBackslash : char ≠ '\\')
      (notControl : 0x20 ≤ char.toNat) : Character [char]
  | escaped {char : Char} (member : char ∈ ['"', '\\', '/', 'b', 'f', 'n', 'r', 't']) :
      Character ['\\', char]
  | code {first second third fourth : Char} (isFirst : IsHexDigit first)
      (isSecond : IsHexDigit second) (isThird : IsHexDigit third) (isFourth : IsHexDigit fourth) :
      Character ['\\', 'u', first, second, third, fourth]

inductive Characters : List Char → Prop
  | none : Characters []
  | more {character rest : List Char} (first : Character character) (others : Characters rest) :
      Characters (character ++ rest)

/-! ### Values -/

def Blank (chars : List Char) : Prop :=
  ∀ char ∈ chars, char = ' ' ∨ char = '\n' ∨ char = '\r' ∨ char = '\t'

mutual

inductive Value : List Char → Prop
  | null : Value ['n', 'u', 'l', 'l']
  | true : Value ['t', 'r', 'u', 'e']
  | false : Value ['f', 'a', 'l', 's', 'e']
  | number {chars : List Char} (number : Number chars) : Value chars
  | string {chars : List Char} (characters : Characters chars) : Value ('"' :: (chars ++ ['"']))
  | emptyArray {blanks : List Char} (blank : Blank blanks) : Value ('[' :: (blanks ++ [']']))
  | array {chars : List Char} (elements : Elements chars) : Value ('[' :: (chars ++ [']']))
  | emptyObject {blanks : List Char} (blank : Blank blanks) : Value ('{' :: (blanks ++ ['}']))
  | object {chars : List Char} (members : Members chars) : Value ('{' :: (chars ++ ['}']))

/-- A value with blanks around it; a whole text is one such element. -/
inductive Element : List Char → Prop
  | intro {before chars after : List Char} (blankBefore : Blank before) (value : Value chars)
      (blankAfter : Blank after) : Element (before ++ chars ++ after)

/-- One or more elements of an array. -/
inductive Elements : List Char → Prop
  | one {chars : List Char} (element : Element chars) : Elements chars
  | more {chars rest : List Char} (element : Element chars) (others : Elements rest) :
      Elements (chars ++ ',' :: rest)

/-- A key and an element. -/
inductive Member : List Char → Prop
  | intro {before key between chars : List Char} (blankBefore : Blank before)
      (characters : Characters key) (blankBetween : Blank between) (element : Element chars) :
      Member (before ++ '"' :: (key ++ '"' :: (between ++ ':' :: chars)))

/-- One or more members of an object. -/
inductive Members : List Char → Prop
  | one {chars : List Char} (member : Member chars) : Members chars
  | more {chars rest : List Char} (member : Member chars) (others : Members rest) :
      Members (chars ++ ',' :: rest)

end

/-- The text is JSON. -/
def Valid (text : String) : Prop := Element text.toList

end Stackwatch.Json.Grammar

import Stackwatch.Json.Reader
import Stackwatch.Json.Writer
import Stackwatch.Proofs.Decimal.Shortest
import Stackwatch.Proofs.Json.Grammar

/-!
# The text of numbers

A number is laid out with a sign, some digits, a fraction and an exponent. Whatever is laid out
properly is read as the decimal that its digits say, up to the first character that cannot belong to
a number; and that decimal is the whole number or the double that was written.
-/

namespace Stackwatch.Json

open Grammar (Digits Whole Fraction Exponent Number)

/-- The parts of the text of a number. Without a fraction there is no point. -/
structure Layout where
  negative : Bool := false
  whole : List Char
  fraction : List Char := []
  /-- A sign and digits. -/
  exponent? : Option (Bool × List Char) := none

namespace Layout

def fractionText (layout : Layout) : List Char :=
  if layout.fraction.isEmpty then [] else '.' :: layout.fraction

def exponentText (layout : Layout) : List Char :=
  match layout.exponent? with
  | none => []
  | some (negative, digits) => 'e' :: (if negative then '-' else '+') :: digits

def text (layout : Layout) : List Char :=
  (if layout.negative then ['-'] else []) ++ layout.whole ++ layout.fractionText ++
    layout.exponentText

structure Proper (layout : Layout) : Prop where
  whole : Whole layout.whole
  fraction : ∀ char ∈ layout.fraction, char.isDigit = true
  exponent : ∀ negative digits, layout.exponent? = some (negative, digits) → Digits digits

/-- What is laid out properly is a number of the grammar. -/
theorem Proper.number {layout : Layout} (proper : layout.Proper) : Number layout.text := by
  refine .intro ?_ proper.whole ?_ ?_
  · cases layout.negative with
    | true => exact .inr rfl
    | false => exact .inl rfl
  · unfold fractionText
    split
    · exact .absent
    · next some => exact .digits ⟨by simpa using some, proper.fraction⟩
  · unfold exponentText
    split
    · exact .absent
    · next negative digits found =>
        have digits := proper.exponent negative digits found
        cases negative with
        | true => exact .digits (.inl rfl) (.inr (.inr rfl)) digits
        | false => exact .digits (.inl rfl) (.inr (.inl rfl)) digits

def coefficient (layout : Layout) : Nat := digitsValue (layout.whole ++ layout.fraction)

/-- The exponent that is written, if any. -/
def shift? (layout : Layout) : Option Int :=
  layout.exponent?.map fun (negative, digits) =>
    if negative then -(digitsValue digits : Int) else digitsValue digits

/-- The place of the last digit. -/
def place (layout : Layout) : Int := layout.shift?.getD 0 - layout.fraction.length

/-- The number with its sign, if there is no point and no exponent. -/
def signed (layout : Layout) : Int :=
  if layout.negative then -(layout.coefficient : Int) else layout.coefficient

/-- What is read. -/
def value (layout : Layout) : Json :=
  if layout.fraction.isEmpty && layout.shift?.isNone && isWhole layout.signed &&
      !(layout.negative && layout.coefficient == 0) then
    .integer layout.signed
  else
    .real (negateFloat layout.negative (Decimal.nearest layout.coefficient layout.place))

end Layout

/-! ### Reading -/

/-- The text does not go on with a character that could belong to a number. -/
def Ended (rest : List Char) : Prop :=
  ∀ char ∈ rest.head?, char.isDigit = false ∧ char ≠ '.' ∧ char ≠ 'e' ∧ char ≠ 'E'

section

variable {digits rest : List Char}

theorem readDigits_append (all : ∀ char ∈ digits, char.isDigit = true)
    (ended : ∀ char ∈ rest.head?, char.isDigit = false) :
    readDigits (digits ++ rest) = (digits, rest) := by
  have stops : rest.takeWhile Char.isDigit = [] ∧ rest.dropWhile Char.isDigit = rest := by
    cases rest with
    | nil => exact ⟨rfl, rfl⟩
    | cons char others =>
        have other : ¬ char.isDigit = true := by simp [ended char rfl]
        exact ⟨List.takeWhile_cons_of_neg other, List.dropWhile_cons_of_neg other⟩
  rw [readDigits, List.takeWhile_append_of_pos all, List.dropWhile_append_of_pos all, stops.1,
    stops.2, List.append_nil]

theorem readWhole_append (whole : Whole digits)
    (ended : ∀ char ∈ rest.head?, char.isDigit = false) :
    readWhole (digits ++ rest) = some (digits, rest) := by
  cases whole with
  | zero =>
      have all : ∀ char ∈ ['0'], char.isDigit = true := List.forall_mem_singleton.mpr rfl
      rw [readWhole, readDigits_append all ended]
      rfl
  | digits notZero all =>
      rw [readWhole, readDigits_append all ended]
      split
      · next none => cases none
      · next zero =>
          cases zero
          exact absurd rfl notZero
      · rfl

theorem readFraction_append {fraction : List Char}
    (all : ∀ char ∈ fraction, char.isDigit = true)
    (ended : ∀ char ∈ rest.head?, char.isDigit = false ∧ char ≠ '.') :
    readFraction ((if fraction.isEmpty then [] else '.' :: fraction) ++ rest) =
      some (fraction, rest) := by
  cases fraction with
  | nil =>
      cases rest with
      | nil => rfl
      | cons char others =>
          have other : char ≠ '.' := (ended char rfl).2
          unfold readFraction
          split
          · next same => exact absurd (List.cons.inj same).1 other
          · rfl
  | cons first others =>
      have found := readDigits_append all fun char member => (ended char member).1
      rw [List.cons_append] at found
      simp only [readFraction, List.isEmpty_cons, Bool.false_eq_true, if_false, List.cons_append,
        found]

theorem readExponent_none (ended : ∀ char ∈ rest.head?, char ≠ 'e' ∧ char ≠ 'E') :
    readExponent rest = some (none, rest) := by
  cases rest with
  | nil => rfl
  | cons char others =>
      obtain ⟨small, capital⟩ := ended char rfl
      simp [readExponent, small, capital]

theorem readExponent_append {negative : Bool} (all : Digits digits)
    (ended : ∀ char ∈ rest.head?, char.isDigit = false) :
    readExponent ('e' :: (if negative then '-' else '+') :: (digits ++ rest)) =
      some (some (if negative then -(digitsValue digits : Int) else digitsValue digits), rest) := by
  obtain ⟨first, others, rfl⟩ := List.exists_cons_of_ne_nil all.some
  have found := readDigits_append all.all ended
  rw [List.cons_append] at found ⊢
  cases negative with
  | true => simp [readExponent, readSign, found]
  | false => simp [readExponent, readSign, found]

end

namespace Layout

variable {layout : Layout} {rest : List Char}

theorem Proper.readExponent (proper : layout.Proper) (ended : Ended rest) :
    Json.readExponent (layout.exponentText ++ rest) = some (layout.shift?, rest) := by
  unfold exponentText shift?
  cases found : layout.exponent? with
  | none => exact readExponent_none fun char member => (ended char member).2.2
  | some parts =>
      obtain ⟨negative, digits⟩ := parts
      exact readExponent_append (proper.exponent negative digits found) fun char member =>
        (ended char member).1

theorem head_exponentText (ended : Ended rest) :
    ∀ char ∈ (layout.exponentText ++ rest).head?, char.isDigit = false ∧ char ≠ '.' := by
  unfold exponentText
  split
  · exact fun char member => ⟨(ended char member).1, (ended char member).2.1⟩
  · intro char member
    cases member
    decide

theorem head_fractionText (ended : Ended rest) :
    ∀ char ∈ (layout.fractionText ++ (layout.exponentText ++ rest)).head?,
      char.isDigit = false := by
  unfold fractionText
  split
  · exact fun char member => (head_exponentText ended char member).1
  · intro char member
    cases member
    decide

end Layout

/-- Reads a number behind its sign. -/
def readUnsigned (negative : Bool) (chars : List Char) : Option (Json × List Char) := do
  let (whole, chars) ← readWhole chars
  let (fraction, chars) ← readFraction chars
  let (exponent?, chars) ← readExponent chars
  let coefficient := digitsValue (whole ++ fraction)
  let value : Int := if negative then -(coefficient : Int) else coefficient
  if fraction.isEmpty && exponent?.isNone && isWhole value && !(negative && coefficient == 0) then
    some (.integer value, chars)
  else
    let exponent := exponent?.getD 0 - fraction.length
    some (.real (negateFloat negative (Decimal.nearest coefficient exponent)), chars)

theorem readNumber_minus (chars : List Char) :
    readNumber ('-' :: chars) = readUnsigned true chars := rfl

theorem readNumber_plain {chars : List Char} (plain : ∀ char ∈ chars.head?, char ≠ '-') :
    readNumber chars = readUnsigned false chars := by
  unfold readNumber
  split
  next negative rest same =>
    split at same
    · exact absurd rfl (plain '-' rfl)
    · cases same
      rfl

namespace Layout

variable {layout : Layout} {rest : List Char}

theorem Proper.readUnsigned (proper : layout.Proper) (ended : Ended rest) :
    readUnsigned layout.negative
        (layout.whole ++ (layout.fractionText ++ (layout.exponentText ++ rest))) =
      some (layout.value, rest) := by
  have behindWhole : ∀ char ∈ (layout.fractionText ++ (layout.exponentText ++ rest)).head?,
      char.isDigit = false := head_fractionText ended
  have whole := readWhole_append proper.whole behindWhole
  have fraction : readFraction (layout.fractionText ++ (layout.exponentText ++ rest)) =
      some (layout.fraction, layout.exponentText ++ rest) :=
    readFraction_append proper.fraction (head_exponentText ended)
  have exponent := proper.readExponent ended
  simp only [Json.readUnsigned, whole, fraction, exponent, Option.bind_eq_bind, Option.bind_some]
  exact (apply_ite (fun read => some (read, rest)) ..).symm

/-- What is laid out properly is read up to the end of its text. -/
theorem Proper.readNumber (proper : layout.Proper) (ended : Ended rest) :
    readNumber (layout.text ++ rest) = some (layout.value, rest) := by
  have read := proper.readUnsigned ended
  have text : layout.text ++ rest = (if layout.negative then ['-'] else []) ++
      (layout.whole ++ (layout.fractionText ++ (layout.exponentText ++ rest))) := by
    simp only [Layout.text, List.append_assoc]
  rw [text]
  cases sign : layout.negative with
  | true =>
      rw [sign] at read
      exact (readNumber_minus _).trans read
  | false =>
      rw [sign] at read
      rw [← read]
      refine readNumber_plain fun char member => ?_
      obtain ⟨first, others, same, digit⟩ := proper.whole.exists_cons
      rw [same] at member
      cases member
      rintro rfl
      cases digit

end Layout

end Stackwatch.Json

import Stackwatch.Json.Reader
import Stackwatch.Json.Writer
import Stackwatch.Proofs.Json.Grammar
import Mathlib

/-!
# The text of strings

Every character stands between quotes as itself or as an escape, and either is read as that
character again; so a string of any characters is read back from its text.
-/

namespace Stackwatch.Json

open Grammar (Character Characters IsHexDigit)

/-- The ways in which a character stands between quotes. -/
inductive Escaped (char : Char) : List Char → Prop
  | letter {letter : Char} (member : letter ∈ ['"', '\\', '/', 'b', 'f', 'n', 'r', 't'])
      (reads : ∀ rest, readEscape (letter :: rest) = some (char, rest)) :
      Escaped char ['\\', letter]
  | code (control : char.toNat < 32) :
      Escaped char
        ['\\', 'u', '0', '0', hexDigit (char.toNat / 16), hexDigit (char.toNat % 16)]
  | plain (notQuote : char ≠ '"') (notBackslash : char ≠ '\\') (printable : 32 ≤ char.toNat) :
      Escaped char [char]

theorem escaped_escape (char : Char) : Escaped char (escape char) := by
  unfold escape
  split
  · exact .letter (by decide) fun _ => rfl
  · exact .letter (by decide) fun _ => rfl
  · exact .letter (by decide) fun _ => rfl
  · exact .letter (by decide) fun _ => rfl
  · exact .letter (by decide) fun _ => rfl
  · exact .letter (by decide) fun _ => rfl
  · exact .letter (by decide) fun _ => rfl
  · next notQuote notBackslash _ _ _ _ _ =>
      split
      · next control => exact .code control
      · next printable => exact .plain notQuote notBackslash (not_lt.mp printable)

theorem isHexDigit_hexDigit {value : Nat} (small : value < 16) : IsHexDigit (hexDigit value) := by
  have all : ∀ value : Fin 16, IsHexDigit (hexDigit value) := by
    unfold IsHexDigit
    decide
  exact all ⟨value, small⟩

theorem hexValue?_hexDigit {value : Nat} (small : value < 16) :
    hexValue? (hexDigit value) = some value := by
  have all : ∀ value : Fin 16, hexValue? (hexDigit value) = some value.val := by decide
  exact all ⟨value, small⟩

theorem Escaped.character {char : Char} {text : List Char} (escaped : Escaped char text) :
    Character text := by
  cases escaped with
  | letter member reads => exact .escaped member
  | code control =>
      exact .code (.inl rfl) (.inl rfl) (isHexDigit_hexDigit (by omega))
        (isHexDigit_hexDigit (Nat.mod_lt _ (by decide)))
  | plain notQuote notBackslash printable => exact .plain notQuote notBackslash printable

theorem Escaped.length_pos {char : Char} {text : List Char} (escaped : Escaped char text) :
    0 < text.length := by
  cases escaped <;> exact Nat.succ_pos _

theorem characters_escape (chars : List Char) : Characters (chars.flatMap escape) := by
  induction chars with
  | nil => exact .none
  | cons char others inductionHypothesis =>
      rw [List.flatMap_cons]
      exact .more (escaped_escape char).character inductionHypothesis

/-! ### Reading -/

/-- An escaped control character is read from its code. -/
theorem readEscape_code {char : Char} (control : char.toNat < 32) (rest : List Char) :
    readEscape ('u' :: '0' :: '0' :: hexDigit (char.toNat / 16) :: hexDigit (char.toNat % 16) ::
      rest) = some (char, rest) := by
  have high : hexValue? (hexDigit (char.toNat / 16)) = some (char.toNat / 16) :=
    hexValue?_hexDigit (by omega)
  have low : hexValue? (hexDigit (char.toNat % 16)) = some (char.toNat % 16) :=
    hexValue?_hexDigit (Nat.mod_lt _ (by decide))
  have zero : hexValue? '0' = some 0 := rfl
  have code : ((0 * 16 + 0) * 16 + char.toNat / 16) * 16 + char.toNat % 16 = char.toNat := by omega
  simp only [readEscape, readHex, high, low, zero, Option.bind_eq_bind, Option.bind_some, code]
  rw [if_neg (by omega), if_neg (by omega), Char.ofNat_toNat]

theorem Escaped.readCharacters {char : Char} {text : List Char} (escaped : Escaped char text)
    (fuel : Nat) (rest : List Char) :
    readCharacters (fuel + 1) (text ++ rest) =
      (readCharacters fuel rest).map fun (chars, rest) => (char :: chars, rest) := by
  have bound (read : Option (List Char × List Char)) :
      (read.bind fun found => some (char :: found.1, found.2)) =
        read.map fun (chars, rest) => (char :: chars, rest) := by
    cases read <;> rfl
  cases escaped with
  | letter member reads =>
      simp only [List.cons_append, List.nil_append, Json.readCharacters, reads,
        Option.bind_eq_bind, Option.bind_some]
      exact bound _
  | code control =>
      simp only [List.cons_append, List.nil_append, Json.readCharacters, readEscape_code control,
        Option.bind_eq_bind, Option.bind_some]
      exact bound _
  | plain notQuote notBackslash printable =>
      rw [List.singleton_append, Json.readCharacters, if_neg (not_lt.mpr printable)]
      · exact bound _
      · exact notQuote
      · exact notBackslash

/-- A string is read back up to its closing quote. -/
theorem readCharacters_append {chars : List Char} (rest : List Char) {fuel : Nat}
    (enough : chars.length < fuel) :
    readCharacters fuel (chars.flatMap escape ++ '"' :: rest) = some (chars, rest) := by
  induction chars generalizing fuel with
  | nil =>
      obtain ⟨fuel, rfl⟩ := Nat.exists_eq_add_of_lt enough
      rfl
  | cons char others inductionHypothesis =>
      obtain ⟨fuel, rfl⟩ := Nat.exists_eq_add_of_lt enough
      rw [List.flatMap_cons, List.append_assoc, (escaped_escape char).readCharacters,
        inductionHypothesis]
      · rfl
      · exact Nat.lt_of_lt_of_le (Nat.lt_succ_self _) (Nat.le_add_right _ _)

/-- The text of a string is no shorter than the string. -/
theorem length_le_escape (chars : List Char) : chars.length ≤ (chars.flatMap escape).length := by
  induction chars with
  | nil => exact Nat.le_refl _
  | cons char others inductionHypothesis =>
      have some : 0 < (escape char).length := (escaped_escape char).length_pos
      rw [List.flatMap_cons, List.length_append, List.length_cons]
      omega

end Stackwatch.Json

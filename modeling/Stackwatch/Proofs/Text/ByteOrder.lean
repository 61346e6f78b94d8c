import Stackwatch.Input

/-!
# The order of texts

Texts are ordered by the numbers of their characters. In UTF-8 a greater character has greater
bytes: the first byte says how many there are, more for greater numbers, and the bytes hold the
number from its highest digits on. The main statement is that the order of texts is the order of
their bytes.
-/

namespace Stackwatch.Text

/-- The bytes of a text in UTF-8. -/
def bytes (text : String) : Bytes := text.toUTF8.data.toList

theorem bytes_eq (text : String) : bytes text = text.toList.flatMap String.utf8EncodeChar := by
  have encoded (chars : List Char) :
      bytes (String.ofList chars) = chars.flatMap String.utf8EncodeChar := by
    rw [bytes, String.toUTF8_eq_toByteArray, String.toByteArray_ofList, List.utf8Encode,
      List.toList_data_toByteArray]
  rw [← encoded, String.ofList_toList]

/-- The order of words: a beginning comes before what it is the beginning of, and else the first
    bytes that differ decide. -/
def Precedes (first second : Bytes) : Prop := List.Lex (· < ·) first second

/-! ### Characters -/

/-- Which characters take one byte, two, three and four, and what these bytes are. -/
theorem utf8EncodeChar_cases (char : Char) :
    let code := char.toNat
    (code < 0x80 ∧ String.utf8EncodeChar char = [.ofNat code]) ∨
      (0x80 ≤ code ∧ code < 0x800 ∧ String.utf8EncodeChar char =
        [.ofNat (code / 64 + 0xc0), .ofNat (code % 64 + 0x80)]) ∨
      (0x800 ≤ code ∧ code < 0x10000 ∧ String.utf8EncodeChar char =
        [.ofNat (code / 4096 + 0xe0), .ofNat (code / 64 % 64 + 0x80), .ofNat (code % 64 + 0x80)]) ∨
      (0x10000 ≤ code ∧ code < 0x110000 ∧ String.utf8EncodeChar char =
        [.ofNat (code / 262144 + 0xf0), .ofNat (code / 4096 % 64 + 0x80),
          .ofNat (code / 64 % 64 + 0x80), .ofNat (code % 64 + 0x80)]) := by
  intro code
  have bound : code < 0x110000 := by
    rcases char.valid with low | high
    · exact Nat.lt_trans low (by decide)
    · exact high.2
  have same : char.val.toNat = code := rfl
  unfold String.utf8EncodeChar
  simp only [same]
  split
  · exact .inl ⟨by omega, rfl⟩
  · split
    · rw [Nat.mod_eq_of_lt (by omega)]
      exact .inr (.inl ⟨by omega, by omega, rfl⟩)
    · split
      · rw [Nat.mod_eq_of_lt (by omega)]
        exact .inr (.inr (.inl ⟨by omega, by omega, rfl⟩))
      · rw [Nat.mod_eq_of_lt (by omega)]
        exact .inr (.inr (.inr ⟨by omega, by omega, rfl⟩))

theorem ofNat_cons_precedes_iff {low high : Nat} {after later : Bytes} (lowSmall : low < 256)
    (highSmall : high < 256) :
    Precedes (UInt8.ofNat low :: after) (UInt8.ofNat high :: later) ↔
      low < high ∨ low = high ∧ Precedes after later := by
  rw [Precedes, List.cons_lex_cons_iff, UInt8.lt_iff_toNat_lt, ← UInt8.toNat_inj,
    UInt8.toNat_ofNat_of_lt' lowSmall, UInt8.toNat_ofNat_of_lt' highSmall]
  rfl

/-- The bytes of a character come before those of a greater one, whatever follows either. -/
theorem precedes_utf8EncodeChar {first second : Char} (less : first < second)
    (after later : Bytes) :
    Precedes (String.utf8EncodeChar first ++ after) (String.utf8EncodeChar second ++ later) := by
  have lessCode : first.toNat < second.toNat := less
  have firstBytes := utf8EncodeChar_cases first
  have secondBytes := utf8EncodeChar_cases second
  simp only at firstBytes secondBytes
  generalize first.toNat = low at *
  generalize second.toNat = high at *
  -- A greater number does not take fewer bytes; if it takes more, the first byte decides.
  rcases firstBytes with ⟨_, short⟩ | ⟨_, _, short⟩ | ⟨_, _, short⟩ | ⟨_, _, short⟩ <;>
    rcases secondBytes with ⟨_, long⟩ | ⟨_, _, long⟩ | ⟨_, _, long⟩ | ⟨_, _, long⟩ <;>
    try omega
  all_goals
    rw [short, long]
    simp (disch := omega) only [List.cons_append, List.nil_append, ofNat_cons_precedes_iff]
    omega

/-! ### Texts -/

theorem Precedes.append_left {first second : Bytes} (precedes : Precedes first second)
    (front : Bytes) : Precedes (front ++ first) (front ++ second) := by
  induction front with
  | nil => exact precedes
  | cons byte front inductionHypothesis => exact .cons inductionHypothesis

theorem precedes_flatMap {first second : List Char} (less : List.Lex (· < ·) first second) :
    Precedes (first.flatMap String.utf8EncodeChar) (second.flatMap String.utf8EncodeChar) := by
  induction less with
  | @nil char rest =>
      obtain ⟨byte, more, some⟩ :=
        List.exists_cons_of_ne_nil (l := String.utf8EncodeChar char) String.utf8EncodeChar_ne_nil
      rw [List.flatMap_nil, List.flatMap_cons, some, List.cons_append]
      exact .nil
  | cons less inductionHypothesis =>
      rw [List.flatMap_cons, List.flatMap_cons]
      exact inductionHypothesis.append_left _
  | rel less =>
      rw [List.flatMap_cons, List.flatMap_cons]
      exact precedes_utf8EncodeChar less _ _

/-- Texts are in the order of their bytes. -/
theorem lt_iff_precedes (first second : String) :
    first < second ↔ Precedes (bytes first) (bytes second) := by
  have keeps {first second : String} (less : first < second) :
      Precedes (bytes first) (bytes second) := by
    rw [bytes_eq, bytes_eq]
    exact precedes_flatMap less
  constructor
  · exact keeps
  · intro precedes
    apply Decidable.byContradiction
    intro notLess
    by_cases greater : second < first
    · exact List.lt_asymm precedes (keeps greater)
    · obtain rfl : first = second := String.le_antisymm greater notLess
      exact List.lt_irrefl _ precedes

end Stackwatch.Text

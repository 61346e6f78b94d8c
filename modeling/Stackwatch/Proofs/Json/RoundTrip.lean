import Stackwatch.Proofs.Json.Layouts
import Stackwatch.Proofs.Json.Strings

/-!
# JSON is read back

Whatever is written is JSON by its grammar, and the reader finds in it what was written: every
value comes back that has only finite doubles and whole numbers of 64 bits, with its fields and
items in their order. So no two such values have the same text.
-/

namespace Stackwatch.Json

open Grammar

/-! ### What is written is JSON -/

theorem value_integerText (value : Int) : Value (integerText value) := by
  obtain ⟨layout, proper, same, -⟩ := exists_layout_of_integer value
  rw [same]
  exact .number proper.number

theorem value_realText (value : Float) : Value (realText value) := by
  by_cases finite : value.toBits.toNat / 2 ^ 52 % 2 ^ 11 = 2047
  · have none : realText value = ['n', 'u', 'l', 'l'] := by
      unfold realText Decimal.Double.ofFloat Decimal.Double.ofBits
      simp only [Nat.pow_eq, finite, if_true]
      split
      · next found => split at found <;> cases found
      · rfl
    rw [none]
    exact .null
  · obtain ⟨negative, significand, exponent, taken, parts, -⟩ :=
      Decimal.exists_parts_of_bits value.toBits.toNat_lt finite
    obtain ⟨layout, proper, same, -⟩ := exists_layout_of_real taken parts
    rw [same]
    exact .number proper.number

theorem blank_nil : Blank [] := List.forall_mem_nil _

theorem Grammar.Value.element {chars : List Char} (value : Value chars) : Element chars := by
  have alone := Element.intro blank_nil value blank_nil
  rwa [List.nil_append, List.append_nil] at alone

theorem member_of_value {chars : List Char} (key : String) (value : Value chars) :
    Member (writeString key (':' :: chars)) :=
  .intro blank_nil (characters_escape key.toList) blank_nil value.element

theorem writeString_append (text : String) (first rest : List Char) :
    writeString text first ++ rest = writeString text (first ++ rest) := by
  simp only [writeString, List.cons_append, List.append_assoc]

mutual

/-- The text of a value is JSON, and it stands in front of the rest. -/
theorem exists_value_text : ∀ value : Json,
    ∃ chars, Value chars ∧ ∀ rest, value.write rest = chars ++ rest
  | .null => ⟨_, .null, fun _ => rfl⟩
  | .bool true => ⟨_, .true, fun _ => rfl⟩
  | .bool false => ⟨_, .false, fun _ => rfl⟩
  | .integer value => ⟨_, value_integerText value, fun _ => rfl⟩
  | .real value => ⟨_, value_realText value, fun _ => rfl⟩
  | .string text => ⟨_, .string (characters_escape text.toList), fun rest => by
      simp only [write, writeString, List.cons_append, List.append_assoc, List.nil_append]⟩
  | .array [] => ⟨_, .emptyArray blank_nil, fun _ => rfl⟩
  | .array (item :: others) => by
      obtain ⟨first, value, writtenFirst⟩ := exists_value_text item
      obtain ⟨chars, elements, written⟩ := exists_items_text others value.element
      refine ⟨_, .array elements, fun rest => ?_⟩
      simp only [write, writeItems, writtenFirst, written, List.cons_append, List.append_assoc,
        List.nil_append]
  | .object [] => ⟨_, .emptyObject blank_nil, fun _ => rfl⟩
  | .object ((key, item) :: others) => by
      obtain ⟨first, value, writtenFirst⟩ := exists_value_text item
      obtain ⟨chars, members, written⟩ := exists_fields_text others (member_of_value key value)
      refine ⟨_, .object members, fun rest => ?_⟩
      simp only [write, writeFields, writtenFirst, written, List.cons_append, List.append_assoc,
        List.nil_append, writeString_append]

theorem exists_items_text : ∀ (others : List Json) {first : List Char}, Element first →
    ∃ chars, Elements (first ++ chars) ∧ ∀ rest, writeMoreItems others rest = chars ++ rest
  | [], first, element => ⟨[], by rw [List.append_nil]; exact .one element, fun _ => rfl⟩
  | item :: others, first, element => by
      obtain ⟨next, value, writtenNext⟩ := exists_value_text item
      obtain ⟨chars, elements, written⟩ := exists_items_text others value.element
      refine ⟨',' :: (next ++ chars), .more element elements, fun rest => ?_⟩
      simp only [writeMoreItems, writtenNext, written, List.cons_append, List.append_assoc]

theorem exists_fields_text : ∀ (others : List (String × Json)) {first : List Char}, Member first →
    ∃ chars, Members (first ++ chars) ∧ ∀ rest, writeMoreFields others rest = chars ++ rest
  | [], first, member => ⟨[], by rw [List.append_nil]; exact .one member, fun _ => rfl⟩
  | (key, item) :: others, first, member => by
      obtain ⟨next, value, writtenNext⟩ := exists_value_text item
      obtain ⟨chars, members, written⟩ := exists_fields_text others (member_of_value key value)
      refine ⟨',' :: (writeString key (':' :: next) ++ chars), .more member members, fun rest => ?_⟩
      simp only [writeMoreFields, writtenNext, written, List.cons_append, List.append_assoc,
        writeString_append]

end

/-- The text of a value is JSON. -/
theorem valid_text (value : Json) : Valid value.text := by
  obtain ⟨chars, isValue, written⟩ := exists_value_text value
  rw [Valid, text, String.toList_ofList, written, List.append_nil]
  exact isValue.element

/-! ### What is written is read back -/

mutual

/-- Values that lose nothing in their text: whole numbers of 64 bits, and finite doubles. -/
def Faithful : Json → Prop
  | .integer value => isWhole value = true
  | .real value => value.isFinite = true
  | .array items => FaithfulItems items
  | .object fields => FaithfulFields fields
  | _ => True

def FaithfulItems : List Json → Prop
  | [] => True
  | item :: others => item.Faithful ∧ FaithfulItems others

def FaithfulFields : List (String × Json) → Prop
  | [] => True
  | (_, value) :: others => value.Faithful ∧ FaithfulFields others

end

theorem length_le_write (value : Json) (rest : List Char) :
    rest.length ≤ (value.write rest).length := by
  obtain ⟨chars, -, written⟩ := exists_value_text value
  rw [written, List.length_append]
  exact Nat.le_add_left _ _

theorem writeItems_more (item other : Json) (others : List Json) (rest : List Char) :
    writeItems (item :: other :: others) rest =
      item.write (',' :: writeItems (other :: others) rest) := rfl

theorem writeFields_more (key : String) (value : Json) (other : String × Json)
    (others : List (String × Json)) (rest : List Char) :
    writeFields ((key, value) :: other :: others) rest =
      writeString key (':' :: value.write (',' :: writeFields (other :: others) rest)) := rfl

theorem length_le_writeString (text : String) (rest : List Char) :
    rest.length ≤ (writeString text rest).length := by
  rw [writeString, List.length_cons, List.length_append, List.length_cons]
  omega

/-- A number starts with a digit or with a sign. -/
theorem exists_cons_of_number {chars : List Char} (number : Number chars) :
    ∃ first others, chars = first :: others ∧ (first.isDigit = true ∨ first = '-') := by
  obtain ⟨signed, whole, -, -⟩ := number
  rcases signed with rfl | rfl
  · obtain ⟨first, others, rfl, digit⟩ := whole.exists_cons
    exact ⟨first, _, rfl, .inl digit⟩
  · exact ⟨'-', _, rfl, .inr rfl⟩

theorem ne_of_number_start {first : Char} (start : first.isDigit = true ∨ first = '-')
    {other : Char} (notDigit : other.isDigit = false) (notMinus : other ≠ '-') : first ≠ other := by
  rintro rfl
  rcases start with digit | minus
  · cases digit.symm.trans notDigit
  · exact notMinus minus

theorem isBlank_of_number_start {first : Char} (start : first.isDigit = true ∨ first = '-') :
    isBlank first = false := by
  have space : first ≠ ' ' := ne_of_number_start start (by decide) (by decide)
  have newline : first ≠ '\n' := ne_of_number_start start (by decide) (by decide)
  have carriageReturn : first ≠ '\r' := ne_of_number_start start (by decide) (by decide)
  have tab : first ≠ '\t' := ne_of_number_start start (by decide) (by decide)
  simp [isBlank, space, newline, carriageReturn, tab]

/-- Values start with a character that is no blank and closes no bracket. -/
theorem exists_cons_of_value {chars : List Char} (value : Value chars) :
    ∃ first others, chars = first :: others ∧ isBlank first = false ∧ first ≠ ']' := by
  cases value with
  | null => exact ⟨_, _, rfl, rfl, by decide⟩
  | true => exact ⟨_, _, rfl, rfl, by decide⟩
  | false => exact ⟨_, _, rfl, rfl, by decide⟩
  | string characters => exact ⟨_, _, rfl, rfl, by decide⟩
  | emptyArray blank => exact ⟨_, _, rfl, rfl, by decide⟩
  | array elements => exact ⟨_, _, rfl, rfl, by decide⟩
  | emptyObject blank => exact ⟨_, _, rfl, rfl, by decide⟩
  | object members => exact ⟨_, _, rfl, rfl, by decide⟩
  | number number =>
      obtain ⟨first, others, same, start⟩ := exists_cons_of_number number
      exact ⟨first, others, same, isBlank_of_number_start start,
        ne_of_number_start start (by decide) (by decide)⟩

theorem skipBlanks_cons {first : Char} (notBlank : isBlank first = false) (rest : List Char) :
    skipBlanks (first :: rest) = first :: rest :=
  List.dropWhile_cons_of_neg (by simp [notBlank])

theorem ended_cons {first : Char} (mark : first = ',' ∨ first = ']' ∨ first = '}')
    (rest : List Char) : Ended (first :: rest) := by
  intro char member
  cases member
  rcases mark with rfl | rfl | rfl <;> decide

theorem readValue_layout {layout : Layout} (proper : layout.Proper) {rest : List Char}
    (ended : Ended rest) (fuel : Nat) :
    readValue (fuel + 1) (layout.text ++ rest) = some (layout.value, rest) := by
  obtain ⟨first, others, same, start⟩ := exists_cons_of_number proper.number
  have other {mark : Char} (notDigit : mark.isDigit = false) (notMinus : mark ≠ '-') :
      first ≠ mark := ne_of_number_start start notDigit notMinus
  rw [← proper.readNumber ended, same, List.cons_append]
  rw [readValue, skipBlanks_cons (isBlank_of_number_start start)]
  split
  · next found => exact absurd (List.cons.inj found).1 (other (by decide) (by decide))
  · next found => exact absurd (List.cons.inj found).1 (other (by decide) (by decide))
  · next found => exact absurd (List.cons.inj found).1 (other (by decide) (by decide))
  · next found => exact absurd (List.cons.inj found).1 (other (by decide) (by decide))
  · next found => exact absurd (List.cons.inj found).1 (other (by decide) (by decide))
  · next found => exact absurd (List.cons.inj found).1 (other (by decide) (by decide))
  · rfl

/-- A string is read back from between its quotes. -/
theorem readCharacters_text (text : String) (rest : List Char) :
    readCharacters ((text.toList.flatMap escape ++ '"' :: rest).length + 1)
      (text.toList.flatMap escape ++ '"' :: rest) = some (text.toList, rest) := by
  refine readCharacters_append rest ?_
  have enough := length_le_escape text.toList
  rw [List.length_append]
  omega

theorem exists_cons_of_write (value : Json) (rest : List Char) :
    ∃ first others, value.write rest = first :: others ∧ isBlank first = false ∧ first ≠ ']' := by
  obtain ⟨chars, isValue, written⟩ := exists_value_text value
  obtain ⟨first, others, rfl, notBlank, notBracket⟩ := exists_cons_of_value isValue
  exact ⟨first, _, written rest, notBlank, notBracket⟩

/-- Behind an opening bracket the items are read. -/
theorem readValue_array {item : Json} {others : List Json} {rest : List Char} {fuel : Nat}
    (read : readItems fuel (writeItems (item :: others) (']' :: rest)) =
      some (item :: others, rest)) :
    readValue (fuel + 1) ('[' :: writeItems (item :: others) (']' :: rest)) =
      some (.array (item :: others), rest) := by
  obtain ⟨first, tail, same, notBlank, notBracket⟩ :=
    exists_cons_of_write item (writeMoreItems others (']' :: rest))
  rw [writeItems, same] at read ⊢
  rw [readValue, skipBlanks_cons (by decide)]
  simp only [skipBlanks_cons notBlank]
  split
  · next found => exact absurd (List.cons.inj found).1 notBracket
  · rw [read]
    rfl

/-- Behind an opening brace the fields are read. -/
theorem readValue_object {field : String × Json} {others : List (String × Json)}
    {rest : List Char} {fuel : Nat}
    (read : readFields fuel (writeFields (field :: others) ('}' :: rest)) =
      some (field :: others, rest)) :
    readValue (fuel + 1) ('{' :: writeFields (field :: others) ('}' :: rest)) =
      some (.object (field :: others), rest) := by
  obtain ⟨key, value⟩ := field
  rw [writeFields, writeString] at read ⊢
  have quote (chars : List Char) : skipBlanks ('"' :: chars) = '"' :: chars :=
    skipBlanks_cons (by decide) chars
  rw [readValue, skipBlanks_cons (by decide)]
  simp only [quote]
  split
  · next found => exact absurd (List.cons.inj found).1 (by decide)
  · rw [read]
    rfl

section

variable {chars next rest : List Char} {fuel : Nat}

theorem readItems_last {item : Json} (read : readValue fuel chars = some (item, ']' :: rest)) :
    readItems (fuel + 1) chars = some ([item], rest) := by
  rw [readItems, read]
  rfl

theorem readItems_more {item : Json} {items : List Json}
    (read : readValue fuel chars = some (item, ',' :: next))
    (readOthers : readItems fuel next = some (items, rest)) :
    readItems (fuel + 1) chars = some (item :: items, rest) := by
  have comma : skipBlanks (',' :: next) = ',' :: next := skipBlanks_cons (by decide) next
  rw [readItems, read]
  simp only [Option.bind_eq_bind, Option.bind_some, comma, readOthers]

theorem readFields_last {value : Json} (key : String)
    (read : readValue fuel chars = some (value, '}' :: rest)) :
    readFields (fuel + 1) (writeString key (':' :: chars)) = some ([(key, value)], rest) := by
  have colon : skipBlanks (':' :: chars) = ':' :: chars := skipBlanks_cons (by decide) chars
  have brace : skipBlanks ('}' :: rest) = '}' :: rest := skipBlanks_cons (by decide) rest
  rw [writeString, readFields, skipBlanks_cons (by decide)]
  simp only [readCharacters_text, Option.bind_eq_bind, Option.bind_some, String.ofList_toList,
    colon, read, brace]

theorem readFields_more {value : Json} {fields : List (String × Json)} (key : String)
    (read : readValue fuel chars = some (value, ',' :: next))
    (readOthers : readFields fuel next = some (fields, rest)) :
    readFields (fuel + 1) (writeString key (':' :: chars)) =
      some ((key, value) :: fields, rest) := by
  have colon : skipBlanks (':' :: chars) = ':' :: chars := skipBlanks_cons (by decide) chars
  have comma : skipBlanks (',' :: next) = ',' :: next := skipBlanks_cons (by decide) next
  rw [writeString, readFields, skipBlanks_cons (by decide)]
  simp only [readCharacters_text, Option.bind_eq_bind, Option.bind_some, String.ofList_toList,
    colon, read, comma, readOthers]

end

mutual

theorem readValue_write : ∀ value : Json, value.Faithful → ∀ {rest : List Char}, Ended rest →
    ∀ {fuel : Nat}, 2 * (value.write rest).length < fuel →
      readValue fuel (value.write rest) = some (value, rest)
  | .null, _, rest, _, fuel + 1, _ => rfl
  | .bool true, _, rest, _, fuel + 1, _ => rfl
  | .bool false, _, rest, _, fuel + 1, _ => rfl
  | .integer value, faithful, rest, ended, fuel + 1, _ => by
      obtain ⟨layout, proper, same, read⟩ := exists_layout_of_integer value
      rw [write, same, readValue_layout proper ended, read faithful]
  | .real value, faithful, rest, ended, fuel + 1, _ => by
      obtain ⟨negative, significand, exponent, taken, parts, together⟩ :=
        Decimal.exists_parts faithful
      obtain ⟨layout, proper, same, read⟩ := exists_layout_of_real taken parts
      rw [write, same, readValue_layout proper ended, read, together]
  | .string text, _, rest, _, fuel + 1, _ => by
      rw [write, writeString, readValue, skipBlanks_cons (by decide)]
      simp only [readCharacters_text, Option.bind_eq_bind, Option.bind_some, String.ofList_toList]
  | .array [], _, rest, _, fuel + 1, _ => rfl
  | .array (item :: others), faithful, rest, _, fuel + 1, enough => by
      rw [write] at enough ⊢
      rw [List.length_cons] at enough
      exact readValue_array
        (readItems_write (item :: others) (List.cons_ne_nil _ _) faithful (by omega))
  | .object [], _, rest, _, fuel + 1, _ => rfl
  | .object (field :: others), faithful, rest, _, fuel + 1, enough => by
      rw [write] at enough ⊢
      rw [List.length_cons] at enough
      exact readValue_object
        (readFields_write (field :: others) (List.cons_ne_nil _ _) faithful (by omega))

theorem readItems_write : ∀ items : List Json, items ≠ [] → FaithfulItems items →
    ∀ {rest : List Char} {fuel : Nat},
      2 * (writeItems items (']' :: rest)).length + 1 < fuel →
        readItems fuel (writeItems items (']' :: rest)) = some (items, rest)
  | [], notNil, _, _, _, _ => absurd rfl notNil
  | [item], _, faithful, rest, fuel + 1, enough => by
      rw [writeItems, writeMoreItems] at enough ⊢
      exact readItems_last
        (readValue_write item faithful.1 (ended_cons (.inr (.inl rfl)) rest) (by omega))
  | item :: other :: others, _, faithful, rest, fuel + 1, enough => by
      have readOthers :=
        @readItems_write (other :: others) (List.cons_ne_nil _ _) faithful.2 rest fuel
      rw [writeItems_more] at enough ⊢
      generalize writeItems (other :: others) (']' :: rest) = next at readOthers enough ⊢
      have longer := length_le_write item (',' :: next)
      rw [List.length_cons] at longer
      have read := @readValue_write item faithful.1 _ (ended_cons (.inl rfl) next) fuel
      exact readItems_more (read (by omega)) (readOthers (by omega))

theorem readFields_write : ∀ fields : List (String × Json), fields ≠ [] → FaithfulFields fields →
    ∀ {rest : List Char} {fuel : Nat},
      2 * (writeFields fields ('}' :: rest)).length + 1 < fuel →
        readFields fuel (writeFields fields ('}' :: rest)) = some (fields, rest)
  | [], notNil, _, _, _, _ => absurd rfl notNil
  | [(key, value)], _, faithful, rest, fuel + 1, enough => by
      rw [writeFields, writeMoreFields] at enough ⊢
      have shorter := length_le_writeString key (':' :: value.write ('}' :: rest))
      rw [List.length_cons] at shorter
      exact readFields_last key
        (readValue_write value faithful.1 (ended_cons (.inr (.inr rfl)) rest) (by omega))
  | (key, value) :: other :: others, _, faithful, rest, fuel + 1, enough => by
      have readOthers :=
        @readFields_write (other :: others) (List.cons_ne_nil _ _) faithful.2 rest fuel
      rw [writeFields_more] at enough ⊢
      generalize writeFields (other :: others) ('}' :: rest) = next at readOthers enough ⊢
      have longer := length_le_write value (',' :: next)
      have shorter := length_le_writeString key (':' :: value.write (',' :: next))
      rw [List.length_cons] at longer shorter
      have read := @readValue_write value faithful.1 _ (ended_cons (.inl rfl) next) fuel
      exact readFields_more key (read (by omega)) (readOthers (by omega))

end

/-- A faithful value is read back from its text. -/
theorem read?_text {value : Json} (faithful : value.Faithful) : read? value.text = some value := by
  have nothing : Ended [] := fun char member => by cases member
  have read := readValue_write value faithful nothing
    (Nat.lt_succ_self (2 * (value.write []).length))
  rw [read?, text]
  simp only [String.toList_ofList, read, Option.bind_eq_bind, Option.bind_some]
  rfl

/-- Two faithful values with one text are the same. -/
theorem eq_of_text_eq {value other : Json} (faithful : value.Faithful)
    (faithfulOther : other.Faithful) (same : value.text = other.text) : value = other := by
  have read := read?_text faithful
  rw [same, read?_text faithfulOther] at read
  exact (Option.some.inj read).symm

end Stackwatch.Json

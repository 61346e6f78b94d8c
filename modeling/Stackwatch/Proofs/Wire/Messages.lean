import Stackwatch.Proofs.Wire.Fields

/-!
# Fields of messages

A field is a key and a payload. The readers of all payloads are local, and so is the reader of a
field, known or not; hence messages can be written one behind the other, and the fields of the whole
are those of the parts. What the writer makes of a value is a field with that value.
-/

namespace Stackwatch.Wire

variable {α β : Type}

/-! ### Payloads -/

section Payloads

variable {read : Input → Read (α × Input)} {front : Bytes} {value : α}

theorem Local.map (isLocal : Local read) (change : α → β) :
    Local (fun input => read input >>= fun found => .ok (change found.1, found.2)) := by
  constructor
  intro input value rest found
  obtain ⟨⟨value, after⟩, reading, same⟩ := bind_eq_ok.mp found
  cases same
  obtain ⟨front, split, reads⟩ := isLocal.of_ok reading
  refine ⟨front, split, reads.takes, fun more => ?_⟩
  simp only [reads.finds, bind, Except.bind]

theorem Reads.map (reads : Reads read front value) (change : α → β) :
    Reads (fun input => read input >>= fun found => .ok (change found.1, found.2)) front
      (change value) := by
  refine ⟨reads.takes, fun rest => ?_⟩
  simp only [reads.finds, bind, Except.bind]

theorem Local.expecting (isLocal : Local read) (expected wire : WireType) :
    Local (fun input => expectWire expected wire >>= fun _ => read input) := by
  constructor
  intro input value rest found
  obtain ⟨_, expects, reading⟩ := bind_eq_ok.mp found
  obtain ⟨front, split, reads⟩ := isLocal.of_ok reading
  refine ⟨front, split, reads.takes, fun more => ?_⟩
  simp only [expects, reads.finds, bind, Except.bind]

theorem Reads.expecting (reads : Reads read front value) (wire : WireType) :
    Reads (fun input => expectWire wire wire >>= fun _ => read input) front value := by
  refine ⟨reads.takes, fun rest => ?_⟩
  simp only [expectWire, if_true, reads.finds, bind, Except.bind]

end Payloads

theorem local_readUnsigned (wire : WireType) : Local (readUnsigned wire) :=
  local_readVarint.expecting .varint wire

theorem local_readSigned (wire : WireType) : Local (readSigned wire) :=
  (local_readUnsigned wire).map signed64

theorem reads_readUnsigned {number : Nat} (fits : number < 2 ^ 64) :
    Reads (readUnsigned .varint) (writeVarint number) number :=
  (numberForm_writeVarint fits).reads.expecting .varint

theorem toNat_unsigned64 (value : Int) :
    ((unsigned64 value : Nat) : Int) = value % ((2 ^ 64 : Nat) : Int) :=
  Int.toNat_of_nonneg (Int.emod_nonneg value (by decide))

theorem unsigned64_lt (value : Int) : unsigned64 value < 2 ^ 64 := by
  have below : value % ((2 ^ 64 : Nat) : Int) < (2 ^ 64 : Nat) :=
    Int.emod_lt_of_pos value (by decide)
  rw [← toNat_unsigned64] at below
  exact Int.ofNat_lt.mp below

/-- The two ways to read the same 64 bits undo each other. -/
theorem signed64_unsigned64 {value : Int} (least : -2 ^ 63 ≤ value) (greatest : value < 2 ^ 63) :
    signed64 (unsigned64 value) = value := by
  have folded : signed64 (unsigned64 value) = value.bmod (2 ^ 64) := by
    unfold signed64
    rw [toNat_unsigned64, Nat.pow_eq, Int.emod_bmod]
  rw [folded]
  exact Int.bmod_eq_of_le (by omega) (by omega)

theorem unsigned64_eq_zero_iff {value : Int} (least : -2 ^ 63 ≤ value)
    (greatest : value < 2 ^ 63) : unsigned64 value = 0 ↔ value = 0 := by
  constructor
  · intro zero
    rw [← signed64_unsigned64 least greatest, zero]
    rfl
  · rintro rfl
    rfl

theorem reads_readSigned {value : Int} (least : -2 ^ 63 ≤ value) (greatest : value < 2 ^ 63) :
    Reads (readSigned .varint) (writeVarint (unsigned64 value)) value := by
  have reads : Reads (readSigned .varint) (writeVarint (unsigned64 value))
      (signed64 (unsigned64 value)) := (reads_readUnsigned (unsigned64_lt value)).map signed64
  rwa [signed64_unsigned64 least greatest] at reads

theorem toList_loop_eq (bytes : ByteArray) (position : Nat) (done : Bytes) :
    ByteArray.toList.loop bytes position done =
      done.reverse ++ bytes.data.toList.drop position := by
  fun_induction ByteArray.toList.loop bytes position done with
  | case1 position done inside inductionHypothesis =>
      have inRange : position < bytes.data.toList.length := by
        simpa using inside
      have same : bytes.get! position = bytes.data.toList[position] :=
        getElem!_pos bytes.data position inside
      rw [inductionHypothesis, List.drop_eq_getElem_cons inRange]
      simp [same]
  | case2 position done outside =>
      have behind : bytes.data.toList.length ≤ position := by
        simpa using outside
      simp [List.drop_eq_nil_of_le behind]

/-- The bytes of a text are read as this text. -/
theorem fromUTF8?_toUTF8 (text : String) :
    String.fromUTF8? ⟨text.toUTF8.toList.toArray⟩ = some text := by
  have all : text.toUTF8.toList = text.toUTF8.data.toList := toList_loop_eq text.toUTF8 0 []
  rw [all]
  exact dif_pos text.isValidUTF8

theorem local_readText (wire : WireType) : Local (readText wire) := by
  constructor
  intro input text rest found
  obtain ⟨_, expects, found⟩ := bind_eq_ok.mp found
  obtain ⟨⟨chunk, after⟩, chunkRead, found⟩ := bind_eq_ok.mp found
  dsimp only at found
  split at found
  · next decoded =>
      cases found
      obtain ⟨front, split, reads⟩ := local_readChunk.of_ok chunkRead
      refine ⟨front, split, reads.takes, fun more => ?_⟩
      simp only [readText, expects, reads.finds, decoded, bind, Except.bind]
  · cases found

theorem reads_readText {text : String} (fits : text.toUTF8.toList.length < 2 ^ 64) :
    Reads (readText .lengthDelimited)
      (writeVarint text.toUTF8.toList.length ++ text.toUTF8.toList) text := by
  have length : NumberForm (writeVarint text.toUTF8.toList.length) text.toUTF8.toList.length :=
    numberForm_writeVarint fits
  have chunk := readChunk_append length
  refine ⟨chunk.takes, fun rest => ?_⟩
  simp only [readText, expectWire, if_true, chunk.finds, fromUTF8?_toUTF8, bind, Except.bind]

theorem local_readRepeated {readOne : WireType → Input → Read (α × Input)}
    (isLocal : ∀ wire, Local (readOne wire)) (wire : WireType) :
    Local (readRepeated readOne wire) := by
  unfold readRepeated
  by_cases packed : wire = .lengthDelimited
  · simp only [packed, if_true]
    exact local_readDelimited ((isLocal .varint).map some)
  · simp only [packed, if_false]
    exact (isLocal wire).map fun value => [value]

/-- Numbers one behind the other are read as a packed list. -/
theorem reads_readRepeated {readOne : WireType → Input → Read (α × Input)} {values : List α}
    {write : α → Bytes} (isLocal : ∀ wire, Local (readOne wire))
    (each : ∀ value ∈ values, Reads (readOne .varint) (write value) value)
    (fits : (values.flatMap write).length < 2 ^ 64) :
    Reads (readRepeated readOne .lengthDelimited)
      (writeVarint (values.flatMap write).length ++ values.flatMap write) values := by
  have filled : Fills (fun input => readOne .varint input >>= fun found =>
      .ok (some found.1, found.2)) (values.flatMap write) (values.map id) :=
    .flatMap fun value member => .of_reads ((each value member).map some)
  rw [List.map_id] at filled
  unfold readRepeated
  simp only [if_true]
  exact filled.readDelimited ((isLocal .varint).map some) (numberForm_writeVarint fits)

/-! ### Fields -/

namespace Schema

variable {schema : Schema α} {levels : Nat}

/-- The readers of all known payloads are local. -/
structure IsLocal (schema : Schema α) : Prop where
  payload : ∀ {tag fieldName read}, schema.field? tag = some (fieldName, read) →
    ∀ wire, Local (read wire)

theorem readField_known {key : Key} {keyBytes payload : Bytes} {fieldName : String}
    {read : WireType → Input → Read (α × Input)} {field : α} (form : KeyForm keyBytes key)
    (known : schema.field? key.tag = some (fieldName, read))
    (reads : Reads (read key.wire) payload field) :
    Reads (schema.readField levels) (keyBytes ++ payload) (some field) := by
  refine ⟨List.append_ne_nil_of_left_ne_nil form.ne_nil payload, fun rest => ?_⟩
  rw [List.append_assoc]
  simp only [readField, readKey_append form, bind, Except.bind, known, reads.finds]

theorem readField_unknown {key : Key} {keyBytes payload : Bytes} (form : KeyForm keyBytes key)
    (unknown : schema.field? key.tag = none) (skips : Skips (skipPayload levels key) payload) :
    Reads (schema.readField levels) (keyBytes ++ payload) none := by
  refine ⟨List.append_ne_nil_of_left_ne_nil form.ne_nil payload, fun rest => ?_⟩
  rw [List.append_assoc]
  simp only [readField, readKey_append form, bind, Except.bind, unknown, skips.passes]

/-- What is read as a field is a key of a known tag and its payload, or is skipped. -/
theorem of_readField (isLocal : schema.IsLocal) {input rest : Input} {field? : Option α}
    (found : schema.readField levels input = .ok (field?, rest)) :
    ∃ keyBytes key payload, input.bytes = keyBytes ++ payload ++ rest.bytes ∧
      KeyForm keyBytes key ∧
      ((∃ fieldName read field, schema.field? key.tag = some (fieldName, read) ∧
          field? = some field ∧ Reads (read key.wire) payload field) ∨
        schema.field? key.tag = none ∧ field? = none ∧ Skips (skipPayload levels key) payload) := by
  obtain ⟨⟨key, after⟩, keyRead, found⟩ := bind_eq_ok.mp found
  obtain ⟨keyBytes, split, form⟩ := keyForm_of_readKey keyRead
  dsimp only at found
  split at found
  · next fieldName read known =>
      split at found
      · next field last reading =>
          cases found
          obtain ⟨payload, splitAfter, reads⟩ := (isLocal.payload known key.wire).of_ok reading
          exact ⟨keyBytes, key, payload, by rw [split, splitAfter, List.append_assoc], form,
            .inl ⟨fieldName, read, field, known, rfl, reads⟩⟩
      · cases found
  · next unknown =>
      obtain ⟨last, skipped, same⟩ := bind_eq_ok.mp found
      cases same
      obtain ⟨payload, splitAfter, skips⟩ := (localSkip_skipPayload levels key).of_ok skipped
      exact ⟨keyBytes, key, payload, by rw [split, splitAfter, List.append_assoc], form,
        .inr ⟨unknown, rfl, skips⟩⟩

theorem local_readField (isLocal : schema.IsLocal) : Local (schema.readField levels) := by
  constructor
  intro input field? rest found
  obtain ⟨keyBytes, key, payload, split, form, known | unknown⟩ := of_readField isLocal found
  · obtain ⟨fieldName, read, field, known, rfl, reads⟩ := known
    exact ⟨keyBytes ++ payload, split, readField_known form known reads⟩
  · obtain ⟨unknown, rfl, skips⟩ := unknown
    exact ⟨keyBytes ++ payload, split, readField_unknown form unknown skips⟩

theorem local_readNested (isLocal : schema.IsLocal) (levels : Nat) (wire : WireType) :
    Local (schema.readNested levels wire) := by
  cases levels with
  | zero =>
      constructor
      intro input fields rest found
      obtain ⟨_, -, impossible⟩ := bind_eq_ok.mp found
      cases impossible
  | succ below =>
      exact (local_readDelimited (local_readField isLocal)).expecting .lengthDelimited wire

/-! ### Whole messages -/

/-- The fields of a message are what fills its bytes. -/
theorem readWhole_eq_ok_iff (isLocal : schema.IsLocal) {bytes : Bytes} {fields : List α} :
    schema.readWhole bytes = .ok fields ↔
      Fills (schema.readField nestingLimit) bytes fields := by
  constructor
  · intro found
    obtain ⟨⟨read, rest⟩, reading, same⟩ := bind_eq_ok.mp found
    cases same
    obtain ⟨front, split, ends, fills⟩ :=
      fills_of_readUntil (local_readField isLocal) reading
    have nothing : rest.bytes = [] := List.eq_nil_of_length_eq_zero (rest.size_eq ▸ ends)
    have whole : bytes = front := by
      rw [nothing, List.append_nil] at split
      exact split
    exact whole ▸ fills
  · intro fills
    have read := fills.readUntil (local_readField isLocal) []
    simp only [List.append_nil, List.length_nil] at read
    simp only [readWhole, read, bind, Except.bind]

/-- Messages one behind the other have the fields of both; what is wrong with the second is wrong
    with the whole. -/
theorem readWhole_append (isLocal : schema.IsLocal) {front : Bytes} {fields : List α}
    (fills : Fills (schema.readField nestingLimit) front fields) (back : Bytes) :
    schema.readWhole (front ++ back) = (schema.readWhole back).map (fields ++ ·) := by
  have read := fills.readUntil_append (local_readField isLocal) back (Nat.zero_le _)
  simp only [readWhole, read, bind, Except.bind]
  cases readUntil (schema.readField nestingLimit) 0 back.length (.ofBytes back) <;> rfl

end Schema

end Stackwatch.Wire

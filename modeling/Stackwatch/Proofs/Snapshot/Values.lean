import Stackwatch.Proofs.Snapshot.RoundTrip

/-!
# The values of a snapshot

Whatever bytes a snapshot is read from, each value of each of its samples is a signed number of 64
bits: it was made of the bits of one number in the bytes, alone or in a packed list. A column that a
sample lacks counts as zero, so the same holds of what is looked up.
-/

namespace Stackwatch

open Wire

variable {α β : Type}

/-! ### From a list to one of its items -/

/-- Items that fill some bytes were read, each for itself. -/
theorem Wire.Fills.exists_reads {readItem : Input → Read (Option α × Input)} {bytes : Bytes}
    {items : List α} {item : α} (fills : Fills readItem bytes items) (member : item ∈ items) :
    ∃ front, Reads readItem front (some item) := by
  induction fills with
  | nil => cases member
  | @cons first rest item? others head tail inductionHypothesis =>
      rcases List.mem_append.mp member with here | later
      · rw [Option.mem_toList] at here
        exact ⟨first, here ▸ head⟩
      · exact inductionHypothesis later

/-- A field of a message was read by the reader that its schema has for some tag. -/
theorem Wire.Schema.exists_reads_of_mem {schema : Schema α} (isLocal : schema.IsLocal)
    {levels : Nat} {bytes : Bytes} {fields : List α} {field : α}
    (fills : Fills (schema.readField levels) bytes fields) (member : field ∈ fields) :
    ∃ tag fieldName read wire payload, schema.field? tag = some (fieldName, read) ∧
      Reads (read wire) payload field := by
  obtain ⟨front, reads⟩ := fills.exists_reads member
  obtain ⟨keyBytes, key, payload, -, -, found⟩ := Schema.of_readField isLocal (reads.finds [])
  obtain ⟨fieldName, read, found, known, same, inner⟩ | ⟨-, nothing, -⟩ := found
  · cases same
    exact ⟨key.tag, fieldName, read, key.wire, payload, known, inner⟩
  · cases nothing

/-- The fields of a sub-message fill some bytes. -/
theorem Wire.Schema.exists_fills_of_readNested {schema : Schema α} (isLocal : schema.IsLocal)
    {levels : Nat} {wire : WireType} {input rest : Input} {fields : List α}
    (found : schema.readNested levels wire input = .ok (fields, rest)) :
    ∃ below bytes, Fills (schema.readField below) bytes fields := by
  obtain ⟨_, -, found⟩ := bind_eq_ok.mp found
  cases levels with
  | zero => cases found
  | succ below =>
      obtain ⟨length, front, -, -, fills⟩ :=
        of_readDelimited (Schema.local_readField isLocal) found
      exact ⟨below, front, fills⟩

section Steps

variable {ε φ : Type}

/-- Two steps that succeed, one after the other. -/
theorem exists_of_bind {first : Except ε α} {next : α → Except ε β} {result : β}
    (found : (first >>= next) = .ok result) :
    ∃ value, first = .ok value ∧ next value = .ok result := by
  cases first with
  | error error => cases found
  | ok value => exact ⟨value, rfl, found⟩

theorem eq_ok_of_mapError {found : Except ε α} {change : ε → φ} {value : α}
    (same : found.mapError change = .ok value) : found = .ok value := by
  cases found with
  | error error => cases same
  | ok found =>
      cases same
      rfl

/-- What a mapping that succeeds makes of a list, it makes of its items. -/
theorem exists_mem_of_mapM {next : α → Except ε β} {values : List α} {results : List β}
    (mapped : values.mapM next = .ok results) {result : β} (member : result ∈ results) :
    ∃ value ∈ values, next value = .ok result := by
  induction values generalizing results with
  | nil =>
      cases mapped
      cases member
  | cons first rest inductionHypothesis =>
      rw [List.mapM_cons] at mapped
      obtain ⟨found, head, mapped⟩ := exists_of_bind mapped
      obtain ⟨others, tail, same⟩ := exists_of_bind mapped
      cases same
      rcases List.mem_cons.mp member with rfl | later
      · exact ⟨first, List.mem_cons_self, head⟩
      · obtain ⟨value, among, same⟩ := inductionHypothesis tail later
        exact ⟨value, List.mem_cons_of_mem first among, same⟩

end Steps

namespace Snapshot

open Encoded

/-! ### Signed numbers -/

theorem fitsSigned_signed64 (number : Nat) : FitsSigned (signed64 number) := by
  unfold signed64
  rw [Nat.pow_eq]
  constructor
  · have least := @Int.le_bmod number (2 ^ 64) (by decide)
    omega
  · have greatest := @Int.bmod_lt number (2 ^ 64) (by decide)
    omega

theorem fitsSigned_of_readSigned {wire : WireType} {input rest : Input} {value : Int}
    (found : readSigned wire input = .ok (value, rest)) : FitsSigned value := by
  obtain ⟨⟨number, after⟩, -, same⟩ := bind_eq_ok.mp found
  obtain ⟨rfl, -⟩ := Prod.mk.inj (Except.ok.inj same)
  exact fitsSigned_signed64 number

/-- All numbers of a repeated field are signed numbers, be they packed or alone. -/
theorem fitsSigned_of_readRepeated {wire : WireType} {input rest : Input} {values : List Int}
    (found : readRepeated readSigned wire input = .ok (values, rest)) :
    ∀ value ∈ values, FitsSigned value := by
  intro value member
  unfold readRepeated at found
  split at found
  · obtain ⟨length, front, -, -, fills⟩ :=
      of_readDelimited ((local_readSigned .varint).map some) found
    obtain ⟨bytes, reads⟩ := fills.exists_reads member
    obtain ⟨⟨number, after⟩, one, same⟩ := bind_eq_ok.mp (reads.finds [])
    cases same
    exact fitsSigned_of_readSigned one
  · obtain ⟨⟨number, after⟩, one, same⟩ := bind_eq_ok.mp found
    cases same
    cases List.mem_singleton.mp member
    exact fitsSigned_of_readSigned one

/-! ### Samples -/

/-- What one field of a sample contributes to its values. -/
theorem fitsSigned_of_reads_field {tag : Nat} {fieldName : String} {wire : WireType}
    {payload : Bytes} {read : WireType → Input → Read (Encoded.Sample.Field × Input)}
    {values : List Int} (known : Encoded.Sample.schema.field? tag = some (fieldName, read))
    (reads : Reads (read wire) payload (.values values)) :
    ∀ value ∈ values, FitsSigned value := by
  simp only [Encoded.Sample.schema] at known
  split at known
  · cases known
    obtain ⟨⟨ids, rest⟩, -, same⟩ := bind_eq_ok.mp (reads.finds [])
    cases same
  · cases known
    obtain ⟨⟨numbers, rest⟩, found, same⟩ := bind_eq_ok.mp (reads.finds [])
    cases same
    exact fitsSigned_of_readRepeated found
  · cases known

theorem fitsSigned_ofFields {levels : Nat} {bytes : Bytes} {fields : List Encoded.Sample.Field}
    (fills : Fills (Encoded.Sample.schema.readField levels) bytes fields) :
    ∀ value ∈ (Encoded.Sample.ofFields fields).values, FitsSigned value := by
  intro value member
  obtain ⟨field, among, part⟩ := List.mem_flatMap.mp member
  obtain ⟨tag, fieldName, read, wire, payload, known, reads⟩ :=
    Schema.exists_reads_of_mem Encoded.Sample.isLocal_schema fills among
  cases field with
  | locationIds ids => cases part
  | values values => exact fitsSigned_of_reads_field known reads value part

/-- A sample of a profile was made of the fields of a sub-message. -/
theorem exists_fills_of_reads_sample {tag : Nat} {fieldName : String} {wire : WireType}
    {payload : Bytes} {read : WireType → Input → Read (Encoded.Profile.Field × Input)}
    {sample : Encoded.Sample} (known : Encoded.Profile.schema.field? tag = some (fieldName, read))
    (reads : Reads (read wire) payload (.sample sample)) :
    ∃ levels bytes fields, Fills (Encoded.Sample.schema.readField levels) bytes fields ∧
      sample = Encoded.Sample.ofFields fields := by
  simp only [Encoded.Profile.schema] at known
  -- Only the field of samples makes a sample, so `same` settles all other tags.
  split at known <;> cases known <;>
    obtain ⟨⟨inner, rest⟩, found, same⟩ := bind_eq_ok.mp (reads.finds []) <;> cases same
  obtain ⟨below, bytes, fills⟩ :=
    Schema.exists_fills_of_readNested Encoded.Sample.isLocal_schema found
  exact ⟨below, bytes, inner, fills, rfl⟩

theorem Encoded.Profile.fitsSigned_of_decode {bytes : Bytes} {profile : Encoded.Profile}
    (decoded : Encoded.Profile.decode bytes = .ok profile) :
    ∀ sample ∈ profile.samples, ∀ value ∈ sample.values, FitsSigned value := by
  obtain ⟨fields, fills, rfl⟩ := Encoded.Profile.decode_eq_ok_iff.mp decoded
  intro sample member
  obtain ⟨field, among, picked⟩ := List.mem_filterMap.mp member
  obtain ⟨tag, fieldName, read, wire, payload, known, reads⟩ :=
    Schema.exists_reads_of_mem Encoded.Profile.isLocal_schema fills among
  cases field with
  | sample found =>
      cases picked
      obtain ⟨levels, inner, parts, nested, rfl⟩ := exists_fills_of_reads_sample known reads
      exact fitsSigned_ofFields nested
  | _ => cases picked

/-! ### Snapshots -/

/-- Following references leaves values as they are. -/
theorem exists_sample_of_resolve {profile : Encoded.Profile} {snapshot : Snapshot}
    (resolved : resolve profile = .ok snapshot) {sample : Sample}
    (member : sample ∈ snapshot.samples) :
    ∃ encoded ∈ profile.samples, sample.values = encoded.values := by
  obtain ⟨functions, -, resolved⟩ := exists_of_bind resolved
  obtain ⟨columns, -, resolved⟩ := exists_of_bind resolved
  obtain ⟨samples, followed, same⟩ := exists_of_bind resolved
  cases same
  obtain ⟨encoded, among, stacked⟩ := exists_mem_of_mapM followed member
  obtain ⟨stack, -, same⟩ := exists_of_bind stacked
  cases same
  exact ⟨encoded, among, rfl⟩

theorem fitsSigned_of_ofEncoded {bytes : Bytes} {snapshot : Snapshot}
    (found : ofEncoded bytes = .ok snapshot) :
    ∀ sample ∈ snapshot.samples, ∀ value ∈ sample.values, FitsSigned value := by
  intro sample member
  obtain ⟨profile, decoded, resolved⟩ := exists_of_bind found
  obtain ⟨encoded, among, same⟩ :=
    exists_sample_of_resolve (eq_ok_of_mapError resolved) member
  rw [same]
  exact Encoded.Profile.fitsSigned_of_decode (eq_ok_of_mapError decoded) encoded among

/-- The values of a snapshot that was read are signed numbers of 64 bits. -/
theorem fitsSigned_of_read {bytes : Bytes} {snapshot : Snapshot}
    (found : Snapshot.read bytes = .ok snapshot) :
    ∀ sample ∈ snapshot.samples, ∀ value ∈ sample.values, FitsSigned value := by
  unfold Snapshot.read at found
  split at found
  · obtain ⟨contents, -, found⟩ := exists_of_bind found
    exact fitsSigned_of_ofEncoded found
  · exact fitsSigned_of_ofEncoded found

theorem fitsSigned_value {sample : Sample} (fits : ∀ value ∈ sample.values, FitsSigned value)
    (column : Nat) : FitsSigned (sample.value column) := by
  unfold Sample.value
  cases found : sample.values[column]? with
  | none =>
      rw [List.getD_eq_getElem?_getD, found]
      decide
  | some value =>
      rw [List.getD_eq_getElem?_getD, found]
      exact fits value (List.mem_of_getElem? found)

end Snapshot

end Stackwatch

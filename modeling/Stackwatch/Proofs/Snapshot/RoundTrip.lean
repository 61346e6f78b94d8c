import Mathlib.Tactic.MkIffOfInductiveProp
import Stackwatch.Proofs.Snapshot.Schemas
import Stackwatch.Snapshot.Decode
import Stackwatch.Snapshot.Encode

/-!
# What is written is read back

A profile is written field by field in the order of the tags: numbers other than zero, repeated
numbers packed into one field, sub-messages and texts behind their lengths. The main statement says
that reading finds exactly the profile again, and that its bytes cannot be mistaken for an envelope.
-/

namespace Stackwatch.Snapshot.Encoded

open Stackwatch.Wire

/-- A number that a signed word can hold. -/
@[mk_iff]
structure FitsSigned (value : Int) : Prop where
  least : -2 ^ 63 ≤ value
  greatest : value < 2 ^ 63

instance : DecidablePred FitsSigned := fun value =>
  decidable_of_iff' _ (fitsSigned_iff value)

/-! ### Written fields -/

section Written

variable {α β : Type} {schema : Schema α} {levels tag : Nat} {fieldName : String}

theorem keyForm_writeVarint (wire : WireType) (positive : 0 < tag) (small : tag < 2 ^ 29) :
    KeyForm (writeVarint (8 * tag + wire.code)) ⟨tag, wire⟩ := by
  have code := wire.code_lt
  exact ⟨numberForm_writeVarint (by omega), positive, small⟩

/-- The field of a value, which is left out for the value that absence stands for. -/
def kept [DecidableEq β] (absent : β) (field : β → α) (value : β) : List α :=
  if value = absent then [] else [field value]

theorem fills_writeUnsigned {field : Nat → α} {number : Nat}
    (known : schema.field? tag = some (fieldName, reading field readUnsigned))
    (positive : 0 < tag) (small : tag < 2 ^ 29) (fits : number < 2 ^ 64) :
    Fills (schema.readField levels) (writeUnsigned tag number) (kept 0 field number) := by
  unfold writeUnsigned kept
  split
  · exact .nil
  · have key : KeyForm (writeNumberKey tag) ⟨tag, .varint⟩ :=
      keyForm_writeVarint .varint positive small
    exact .of_reads (Schema.readField_known key known
      (reads_reading (reads_readUnsigned fits) field))

theorem fills_writeSigned {field : Int → α} {value : Int}
    (known : schema.field? tag = some (fieldName, reading field readSigned))
    (positive : 0 < tag) (small : tag < 2 ^ 29) (fits : FitsSigned value) :
    Fills (schema.readField levels) (writeSigned tag value) (kept 0 field value) := by
  unfold writeSigned writeUnsigned kept
  simp only [unsigned64_eq_zero_iff fits.least fits.greatest]
  split
  · exact .nil
  · have key : KeyForm (writeNumberKey tag) ⟨tag, .varint⟩ :=
      keyForm_writeVarint .varint positive small
    exact .of_reads (Schema.readField_known key known
      (reads_reading (reads_readSigned fits.least fits.greatest) field))

theorem fills_writeDelimited {read : WireType → Input → Read (β × Input)} {field : β → α}
    {contents : Bytes} {value : β}
    (known : schema.field? tag = some (fieldName, reading field read))
    (positive : 0 < tag) (small : tag < 2 ^ 29)
    (reads : Reads (read .lengthDelimited) (writeVarint contents.length ++ contents) value) :
    Fills (schema.readField levels) (writeDelimited tag contents) [field value] := by
  have key : KeyForm (writeVarint (8 * tag + 2)) ⟨tag, .lengthDelimited⟩ :=
    keyForm_writeVarint .lengthDelimited positive small
  rw [writeDelimited, List.append_assoc]
  exact .of_reads (Schema.readField_known key known (reads_reading reads field))

theorem length_le_writeDelimited (tag : Nat) (contents : Bytes) :
    contents.length ≤ (writeDelimited tag contents).length := by
  simp only [writeDelimited, List.length_append]
  omega

theorem length_le_flatMap {things : List β} {thing : β} (member : thing ∈ things)
    (write : β → Bytes) : (write thing).length ≤ (things.flatMap write).length := by
  rw [List.flatMap_def]
  exact (List.sublist_flatten_of_mem (List.mem_map_of_mem member)).length_le

/-- Sub-messages, or texts, one behind the other. -/
theorem fills_flatMap_writeDelimited {γ : Type} {read : WireType → Input → Read (γ × Input)}
    {field : γ → α} {things : List β} {encode : β → Bytes} {value : β → γ} {item : β → α}
    (known : schema.field? tag = some (fieldName, reading field read))
    (positive : 0 < tag) (small : tag < 2 ^ 29)
    (fits : (things.flatMap fun thing => writeDelimited tag (encode thing)).length < 2 ^ 64)
    (names : ∀ thing, field (value thing) = item thing)
    (each : ∀ thing ∈ things, (encode thing).length < 2 ^ 64 →
      Reads (read .lengthDelimited) (writeVarint (encode thing).length ++ encode thing)
        (value thing)) :
    Fills (schema.readField levels) (things.flatMap fun thing => writeDelimited tag (encode thing))
      (things.map item) := by
  refine .flatMap fun thing member => ?_
  have part := length_le_flatMap member fun thing => writeDelimited tag (encode thing)
  have inner := length_le_writeDelimited tag (encode thing)
  rw [← names]
  exact fills_writeDelimited known positive small (each thing member (by omega))

/-- Repeated numbers, which are left out if there are none. -/
theorem fills_writePacked {readOne : WireType → Input → Read (β × Input)} {field : List β → α}
    {values : List β} (number : β → Nat)
    (known : schema.field? tag = some (fieldName, reading field (readRepeated readOne)))
    (positive : 0 < tag) (small : tag < 2 ^ 29) (isLocal : ∀ wire, Local (readOne wire))
    (each : ∀ value ∈ values, Reads (readOne .varint) (writeVarint (number value)) value)
    (fits : (writePacked tag (values.map number)).length < 2 ^ 64) :
    Fills (schema.readField levels) (writePacked tag (values.map number))
      (if values.isEmpty then [] else [field values]) := by
  unfold writePacked at fits ⊢
  simp only [List.isEmpty_map] at fits ⊢
  split
  · exact .nil
  · next filled =>
      rw [if_neg filled] at fits
      have inner := length_le_writeDelimited tag ((values.map number).flatMap writeVarint)
      rw [List.flatMap_map] at inner fits ⊢
      exact fills_writeDelimited known positive small
        (reads_readRepeated isLocal each (by omega))

theorem reads_readNested {inner : Schema β} (isLocal : inner.IsLocal) {contents : Bytes}
    {fields : List β} (fills : Fills (inner.readField levels) contents fields)
    (fits : contents.length < 2 ^ 64) :
    Reads (inner.readNested (levels + 1) .lengthDelimited)
      (writeVarint contents.length ++ contents) fields :=
  (fills.readDelimited (Schema.local_readField isLocal) (numberForm_writeVarint fits)).expecting
    .lengthDelimited

end Written

/-! ### Kept values -/

section Kept

variable {α β : Type} {field : β → α}

theorem filterMap_map_self {pick : α → Option β} (picks : ∀ value, pick (field value) = some value)
    (values : List β) : (values.map field).filterMap pick = values := by
  have same : pick ∘ field = some := funext picks
  rw [List.filterMap_map, same, List.filterMap_some]

theorem filterMap_map_other {γ : Type} {pick : α → Option γ}
    (skips : ∀ value, pick (field value) = none) (values : List β) :
    (values.map field).filterMap pick = [] := by
  refine List.filterMap_eq_nil_iff.mpr fun written member => ?_
  obtain ⟨value, -, rfl⟩ := List.mem_map.mp member
  exact skips value

variable [DecidableEq β] {absent : β}

theorem filterMap_kept_self {pick : α → Option β} (picks : ∀ value, pick (field value) = some value)
    (value : β) : (kept absent field value).filterMap pick = kept absent id value := by
  unfold kept
  split <;> simp [picks]

theorem filterMap_kept_other {γ : Type} {pick : α → Option γ}
    (skips : ∀ value, pick (field value) = none) (value : β) :
    (kept absent field value).filterMap pick = [] := by
  unfold kept
  split <;> simp [skips]

/-- Nothing is lost by leaving out what absence stands for. -/
theorem lastOr_kept (absent value : β) : lastOr absent (kept absent id value) = value := by
  unfold kept
  split
  · next same => exact same.symm
  · rfl

end Kept

/-! ### Messages -/

@[mk_iff]
structure ValueType.Fits (column : ValueType) : Prop where
  kind : FitsSigned column.kind
  unit : FitsSigned column.unit

instance : DecidablePred ValueType.Fits := fun column =>
  decidable_of_iff' _ (ValueType.fits_iff column)

def ValueType.toFields (column : ValueType) : List ValueType.Field :=
  kept 0 .kind column.kind ++ kept 0 .unit column.unit

theorem ValueType.ofFields_toFields (column : ValueType) : ofFields column.toFields = column := by
  simp [ofFields, toFields, filterMap_kept_self, filterMap_kept_other, lastOr_kept]

theorem ValueType.fills_encode {column : ValueType} (fits : column.Fits) (levels : Nat) :
    Fills (ValueType.schema.readField levels) column.encode column.toFields :=
  (fills_writeSigned rfl (by decide) (by decide) fits.kind).append
    (fills_writeSigned rfl (by decide) (by decide) fits.unit)

@[mk_iff]
structure Sample.Fits (sample : Sample) : Prop where
  locationIds : ∀ id ∈ sample.locationIds, id < 2 ^ 64
  values : ∀ value ∈ sample.values, FitsSigned value

instance : DecidablePred Sample.Fits := fun sample =>
  decidable_of_iff' _ (Sample.fits_iff sample)

def Sample.toFields (sample : Sample) : List Sample.Field :=
  (if sample.locationIds.isEmpty then [] else [.locationIds sample.locationIds]) ++
    if sample.values.isEmpty then [] else [.values sample.values]

theorem Sample.ofFields_toFields (sample : Sample) : ofFields sample.toFields = sample := by
  obtain ⟨locationIds, values⟩ := sample
  cases locationIds <;> cases values <;> simp [ofFields, toFields]

theorem Sample.fills_encode {sample : Sample} (fits : sample.Fits)
    (small : sample.encode.length < 2 ^ 64) (levels : Nat) :
    Fills (Sample.schema.readField levels) sample.encode sample.toFields := by
  rw [encode, List.length_append] at small
  refine .append ?_ ?_
  · have packed : Fills (Sample.schema.readField levels)
        (writePacked 1 (sample.locationIds.map id)) _ :=
      fills_writePacked id rfl (by decide) (by decide) local_readUnsigned
        (fun id member => reads_readUnsigned (fits.locationIds id member))
        (by rw [List.map_id]; omega)
    rwa [List.map_id] at packed
  · exact fills_writePacked unsigned64 rfl (by decide) (by decide) local_readSigned
      (fun value member =>
        reads_readSigned (fits.values value member).least (fits.values value member).greatest)
      (by omega)

@[mk_iff]
structure Line.Fits (line : Line) : Prop where
  functionId : line.functionId < 2 ^ 64
  line : FitsSigned line.line

instance : DecidablePred Line.Fits := fun line =>
  decidable_of_iff' _ (Line.fits_iff line)

def Line.toFields (line : Line) : List Line.Field :=
  kept 0 .functionId line.functionId ++ kept 0 .line line.line

theorem Line.ofFields_toFields (line : Line) : ofFields line.toFields = line := by
  simp [ofFields, toFields, filterMap_kept_self, filterMap_kept_other, lastOr_kept]

theorem Line.fills_encode {line : Line} (fits : line.Fits) (levels : Nat) :
    Fills (Line.schema.readField levels) line.encode line.toFields :=
  (fills_writeUnsigned rfl (by decide) (by decide) fits.functionId).append
    (fills_writeSigned rfl (by decide) (by decide) fits.line)

@[mk_iff]
structure Location.Fits (location : Location) : Prop where
  id : location.id < 2 ^ 64
  address : location.address < 2 ^ 64
  lines : ∀ line ∈ location.lines, line.Fits

instance : DecidablePred Location.Fits := fun location =>
  decidable_of_iff' _ (Location.fits_iff location)

def Location.toFields (location : Location) : List Location.Field :=
  kept 0 .id location.id ++ kept 0 .address location.address ++ location.lines.map .line

theorem Location.ofFields_toFields (location : Location) :
    ofFields location.toFields = location := by
  simp only [ofFields, toFields, List.filterMap_append, filterMap_kept_self, filterMap_kept_other,
    filterMap_map_self, filterMap_map_other, lastOr_kept, List.append_nil, List.nil_append,
    implies_true]

theorem Location.fills_encode {location : Location} (fits : location.Fits)
    (small : location.encode.length < 2 ^ 64) (below levels : Nat) :
    Fills ((Location.schema (below + 1)).readField levels) location.encode location.toFields := by
  rw [encode, List.length_append] at small
  refine .append (.append ?_ ?_) ?_
  · exact fills_writeUnsigned rfl (by decide) (by decide) fits.id
  · exact fills_writeUnsigned rfl (by decide) (by decide) fits.address
  · refine fills_flatMap_writeDelimited rfl (by decide) (by decide) (by omega)
      (fun line => congrArg Field.line line.ofFields_toFields) ?_
    intro line member shorter
    exact reads_readNested Line.isLocal_schema (Line.fills_encode (fits.lines line member) below)
      shorter

@[mk_iff]
structure Function.Fits (function : Function) : Prop where
  id : function.id < 2 ^ 64
  name : FitsSigned function.name
  systemName : FitsSigned function.systemName
  fileName : FitsSigned function.fileName

instance : DecidablePred Function.Fits := fun function =>
  decidable_of_iff' _ (Function.fits_iff function)

def Function.toFields (function : Function) : List Function.Field :=
  kept 0 .id function.id ++ kept 0 .name function.name ++
    kept 0 .systemName function.systemName ++ kept 0 .fileName function.fileName

theorem Function.ofFields_toFields (function : Function) :
    ofFields function.toFields = function := by
  simp [ofFields, toFields, filterMap_kept_self, filterMap_kept_other, lastOr_kept]

theorem Function.fills_encode {function : Function} (fits : function.Fits) (levels : Nat) :
    Fills (Function.schema.readField levels) function.encode function.toFields := by
  refine .append (.append (.append ?_ ?_) ?_) ?_
  · exact fills_writeUnsigned rfl (by decide) (by decide) fits.id
  · exact fills_writeSigned rfl (by decide) (by decide) fits.name
  · exact fills_writeSigned rfl (by decide) (by decide) fits.systemName
  · exact fills_writeSigned rfl (by decide) (by decide) fits.fileName

/-- All numbers of a profile have 64 bits, and so has the number of its bytes. -/
@[mk_iff]
structure Profile.Fits (profile : Profile) : Prop where
  sampleTypes : ∀ column ∈ profile.sampleTypes, column.Fits
  samples : ∀ sample ∈ profile.samples, sample.Fits
  locations : ∀ location ∈ profile.locations, location.Fits
  functions : ∀ function ∈ profile.functions, function.Fits
  timeNanos : FitsSigned profile.timeNanos
  durationNanos : FitsSigned profile.durationNanos
  length : profile.encode.length < 2 ^ 64

instance : DecidablePred Profile.Fits := fun profile =>
  decidable_of_iff' _ (Profile.fits_iff profile)

def Profile.toFields (profile : Profile) : List Profile.Field :=
  profile.sampleTypes.map .sampleType ++ profile.samples.map .sample ++
    profile.locations.map .location ++ profile.functions.map .function ++
    profile.strings.map .string ++ kept 0 .timeNanos profile.timeNanos ++
    kept 0 .durationNanos profile.durationNanos

theorem Profile.ofFields_toFields (profile : Profile) : ofFields profile.toFields = profile := by
  simp only [ofFields, toFields, List.filterMap_append, filterMap_kept_self, filterMap_kept_other,
    filterMap_map_self, filterMap_map_other, lastOr_kept, List.append_nil, List.nil_append,
    implies_true]

theorem Profile.fills_encode {profile : Profile} (fits : profile.Fits) :
    Fills (Profile.schema.readField nestingLimit) profile.encode profile.toFields := by
  have length := fits.length
  simp only [encode, List.length_append] at length
  refine .append (.append (.append (.append (.append (.append ?_ ?_) ?_) ?_) ?_) ?_) ?_
  · refine fills_flatMap_writeDelimited rfl (by decide) (by decide) (by omega)
      (fun column => congrArg Field.sampleType column.ofFields_toFields) ?_
    intro column member shorter
    exact reads_readNested ValueType.isLocal_schema
      (ValueType.fills_encode (fits.sampleTypes column member) _) shorter
  · refine fills_flatMap_writeDelimited rfl (by decide) (by decide) (by omega)
      (fun sample => congrArg Field.sample sample.ofFields_toFields) ?_
    intro sample member shorter
    exact reads_readNested Sample.isLocal_schema
      (Sample.fills_encode (fits.samples sample member) shorter _) shorter
  · refine fills_flatMap_writeDelimited rfl (by decide) (by decide) (by omega)
      (fun location => congrArg Field.location location.ofFields_toFields) ?_
    intro location member shorter
    exact reads_readNested (Location.isLocal_schema _)
      (Location.fills_encode (fits.locations location member) shorter _ _) shorter
  · refine fills_flatMap_writeDelimited rfl (by decide) (by decide) (by omega)
      (fun function => congrArg Field.function function.ofFields_toFields) ?_
    intro function member shorter
    exact reads_readNested Function.isLocal_schema
      (Function.fills_encode (fits.functions function member) _) shorter
  · have texts : (profile.strings.flatMap fun text =>
        writeDelimited 6 text.toUTF8.toList).length < 2 ^ 64 := by
      change (profile.strings.flatMap (writeText 6)).length < 2 ^ 64
      omega
    refine fills_flatMap_writeDelimited rfl (by decide) (by decide) texts (fun text => rfl) ?_
    intro text member shorter
    exact reads_readText shorter
  · exact fills_writeSigned rfl (by decide) (by decide) fits.timeNanos
  · exact fills_writeSigned rfl (by decide) (by decide) fits.durationNanos

/-! ### Profiles and envelopes -/

/-- The first byte of an envelope would announce a wire type that does not exist. -/
theorem head_ne_of_keyForm {front rest : Bytes} {key : Key} (form : KeyForm front key) :
    (front ++ rest).head? ≠ some 0x1f := by
  intro head
  have number := form.form
  generalize sum : 8 * key.tag + key.wire.code = total at number
  cases number with
  | @last _ byte ends fits =>
      have first : byte.toNat = 31 := by
        rw [show byte = 0x1f by simpa using head]
        rfl
      cases wire : key.wire <;> simp only [wire, WireType.code] at sum <;> omega
  | @more _ byte others value continues form =>
      have first : byte.toNat = 31 := by
        rw [show byte = 0x1f by simpa using head]
        rfl
      omega

theorem Profile.hasMagic_eq_false {bytes : Bytes} {profile : Profile}
    (decoded : Profile.decode bytes = .ok profile) : Gzip.hasMagic bytes = false := by
  obtain ⟨fields, fills, -⟩ := decode_eq_ok_iff.mp decoded
  cases fills with
  | nil => rfl
  | @cons first rest item? items head tail =>
      obtain ⟨keyBytes, key, payload, split, form, -⟩ :=
        Schema.of_readField isLocal_schema (head.finds rest)
      rw [Input.bytes_ofBytes, List.append_assoc] at split
      have head : (keyBytes ++ (payload ++ (Input.ofBytes rest).bytes)).head? ≠ some 0x1f :=
        head_ne_of_keyForm form
      rw [split]
      cases all : keyBytes ++ (payload ++ (Input.ofBytes rest).bytes) with
      | nil => rfl
      | cons byte others =>
          rw [all, List.head?_cons] at head
          have other : (0x1f == byte) = false := by
            rw [beq_eq_false_iff_ne]
            exact fun same => head (congrArg some same.symm)
          simp only [Gzip.hasMagic, Gzip.magic, List.isPrefixOf, other, Bool.false_and]

/-- Reading the bytes of a profile finds exactly this profile. They are no envelope, so a snapshot
    is read from them by following the references of the profile. -/
theorem Profile.decode_encode (profile : Profile) (fits : profile.Fits) :
    Profile.decode profile.encode = .ok profile ∧
      Gzip.hasMagic profile.encode = false ∧
      Snapshot.read profile.encode = (Snapshot.resolve profile).mapError .dangling := by
  have decoded : Profile.decode profile.encode = .ok profile :=
    decode_eq_ok_iff.mpr ⟨profile.toFields, fills_encode fits, profile.ofFields_toFields.symm⟩
  have plain := hasMagic_eq_false decoded
  refine ⟨decoded, plain, ?_⟩
  rw [Snapshot.read, if_neg (by rw [plain]; exact Bool.false_ne_true), ofEncoded, decoded]
  rfl

/-- A profile with extreme numbers, an inlined call and a text outside ASCII. -/
def sampleProfile : Profile :=
  { sampleTypes := [{ kind := 1, unit := 2 }, { kind := -1, unit := 0 }]
    samples :=
      [{ locationIds := [1, 2 ^ 64 - 1], values := [-2 ^ 63, 2 ^ 63 - 1, 0, 300] },
        { locationIds := [], values := [] }]
    locations :=
      [{ id := 1
         address := 2 ^ 64 - 1
         lines := [{ functionId := 7, line := -12 }, { functionId := 0, line := 0 }] }]
    functions := [{ id := 7, name := 1, systemName := 0, fileName := 2 ^ 31 }]
    strings := ["", "größe", "→"]
    timeNanos := -5
    durationNanos := 128 }

theorem Profile.decode_encode_sample :
    sampleProfile.Fits ∧ Profile.decode sampleProfile.encode = .ok sampleProfile ∧
      Gzip.hasMagic sampleProfile.encode = false ∧
      Snapshot.read sampleProfile.encode =
        (Snapshot.resolve sampleProfile).mapError .dangling := by
  have fits : sampleProfile.Fits := by
    decide +kernel
  exact ⟨fits, Profile.decode_encode sampleProfile fits⟩

end Stackwatch.Snapshot.Encoded

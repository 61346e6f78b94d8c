import Stackwatch.Proofs.Wire.Stray
import Stackwatch.Proofs.Snapshot.Schemas

/-!
# Profiles one behind the other

The bytes of two profiles, one behind the other, are the bytes of a profile: repeated fields are
those of both, and of a plain field the last entry counts. What is wrong with the second part is
wrong with the whole, and nothing in front of it changes what is reported. Fields that a profile
does not know can stand between any two others.
-/

namespace Stackwatch.Snapshot.Encoded

open Stackwatch.Wire

variable {α β : Type}

/-! ### The last entry -/

theorem lastOr_append (absent : α) (first second : List α) :
    lastOr absent (first ++ second) = lastOr (lastOr absent first) second := by
  unfold lastOr
  rw [List.getLast?_append]
  cases second.getLast? <;> rfl

/-- What absence stands for does not matter where there is an entry. -/
theorem lastOr_eq_of_ne_nil {entries : List α} (some : entries ≠ []) (absent other : α) :
    lastOr absent entries = lastOr other entries := by
  simp only [lastOr, List.getLast?_eq_some_getLast some, Option.getD_some]

/-! ### Fields and their tags -/

theorem exists_of_reads_reading {read : WireType → Input → Read (α × Input)} {wire : WireType}
    {front : Bytes} {field : α → β} {value : β}
    (reads : Reads (reading field read wire) front value) :
    ∃ inner, value = field inner := by
  obtain ⟨⟨inner, rest⟩, -, same⟩ := bind_eq_ok.mp (reads.finds [])
  cases same
  exact ⟨inner, rfl⟩

namespace Profile

def Field.tag : Field → Nat
  | .sampleType _ => 1
  | .sample _ => 2
  | .location _ => 4
  | .function _ => 5
  | .string _ => 6
  | .timeNanos _ => 9
  | .durationNanos _ => 10

/-- The readers of a profile make fields of the tag that they are for. -/
theorem tag_of_reads {tag : Nat} {fieldName : String}
    {read : WireType → Input → Read (Field × Input)} {wire : WireType} {payload : Bytes}
    {field : Field}
    (known : schema.field? tag = some (fieldName, read)) (reads : Reads (read wire) payload field) :
    field.tag = tag := by
  simp only [schema] at known
  split at known <;> cases known <;> obtain ⟨inner, rfl⟩ := exists_of_reads_reading reads <;> rfl

/-- A field with this tag stands in the bytes of a profile: in front of its key there is a profile
    already. -/
def Holds (tag : Nat) (bytes : Bytes) : Prop :=
  ∃ before keyBytes wire after profile, bytes = before ++ (keyBytes ++ after) ∧
    decode before = .ok profile ∧ KeyForm keyBytes ⟨tag, wire⟩

/-- The first field is the one whose key comes first. -/
theorem exists_mem_of_key {tag : Nat} {wire : WireType} {keyBytes after : Bytes}
    {fields : List Field} (known : schema.field? tag ≠ none) (form : KeyForm keyBytes ⟨tag, wire⟩)
    (fills : Fills (schema.readField nestingLimit) (keyBytes ++ after) fields) :
    ∃ field ∈ fields, field.tag = tag := by
  generalize bytes : keyBytes ++ after = all at fills
  cases fills with
  | nil => exact absurd (List.append_eq_nil_iff.mp bytes).1 form.ne_nil
  | @cons first rest field? others head tail =>
      obtain ⟨otherBytes, key, payload, split, otherForm, field⟩ :=
        Schema.of_readField isLocal_schema (head.finds rest)
      rw [Input.bytes_ofBytes, Input.bytes_ofBytes, ← bytes, List.append_assoc] at split
      have sameKey : key = ⟨tag, wire⟩ := by
        have found := readKey_append form after
        rw [split, readKey_append otherForm] at found
        exact (Prod.mk.inj (Except.ok.inj found)).1
      subst sameKey
      obtain ⟨fieldName, read, field, entry, rfl, reads⟩ | ⟨unknown, -, -⟩ := field
      · exact ⟨field, List.mem_append_left others (List.mem_singleton_self field),
          tag_of_reads entry reads⟩
      · exact absurd unknown known

/-- What stands in the bytes is among the fields that are read: reading comes past the profile in
    front of it. -/
theorem exists_mem_of_holds {tag : Nat} {bytes : Bytes} {fields : List Field}
    (known : schema.field? tag ≠ none)
    (fills : Fills (schema.readField nestingLimit) bytes fields) (holds : Holds tag bytes) :
    ∃ field ∈ fields, field.tag = tag := by
  obtain ⟨before, keyBytes, wire, after, profile, rfl, decoded, form⟩ := holds
  obtain ⟨inFront, fillsFront, -⟩ := decode_eq_ok_iff.mp decoded
  have whole := (Schema.readWhole_eq_ok_iff isLocal_schema).mpr fills
  rw [Schema.readWhole_append isLocal_schema fillsFront] at whole
  cases behind : schema.readWhole (keyBytes ++ after) with
  | error fault =>
      rw [behind] at whole
      cases whole
  | ok others =>
      rw [behind] at whole
      cases whole
      obtain ⟨field, member, same⟩ := exists_mem_of_key known form
        ((Schema.readWhole_eq_ok_iff isLocal_schema).mp behind)
      exact ⟨field, List.mem_append_right inFront member, same⟩

/-- What is among the fields stands in the bytes, behind the fields that are read before it. -/
theorem holds_of_mem {bytes : Bytes} {fields : List Field} {field : Field}
    (fills : Fills (schema.readField nestingLimit) bytes fields) (member : field ∈ fields) :
    Holds field.tag bytes := by
  induction fills with
  | nil => cases member
  | @cons first rest field? others head tail inductionHypothesis =>
      rcases List.mem_append.mp member with here | later
      · obtain ⟨keyBytes, key, payload, split, form, read⟩ :=
          Schema.of_readField isLocal_schema (head.finds rest)
        rw [Input.bytes_ofBytes, Input.bytes_ofBytes, List.append_assoc] at split
        obtain ⟨fieldName, reader, found, entry, rfl, reads⟩ | ⟨-, rfl, -⟩ := read
        · cases List.mem_singleton.mp here
          have sameTag := tag_of_reads entry reads
          exact ⟨[], keyBytes, key.wire, payload ++ rest, ofFields [], split, rfl,
            sameTag ▸ form⟩
        · cases here
      · obtain ⟨before, keyBytes, wire, after, profile, rfl, decoded, form⟩ :=
          inductionHypothesis later
        obtain ⟨inFront, fillsFront, -⟩ := decode_eq_ok_iff.mp decoded
        have decodedMore := decode_eq_ok_iff.mpr ⟨_, .cons head fillsFront, rfl⟩
        exact ⟨first ++ before, keyBytes, wire, after, _, by rw [List.append_assoc],
          decodedMore, form⟩

/-- A known field stands in the bytes exactly if it is among the fields that are read. -/
theorem holds_iff {tag : Nat} {bytes : Bytes} {fields : List Field}
    (known : schema.field? tag ≠ none)
    (fills : Fills (schema.readField nestingLimit) bytes fields) :
    Holds tag bytes ↔ ∃ field ∈ fields, field.tag = tag := by
  constructor
  · intro holds
    exact exists_mem_of_holds known fills holds
  · rintro ⟨field, member, rfl⟩
    exact holds_of_mem fills member

/-! ### Two profiles -/

/-- The profile `whole` that comes of `first` when `back` is put behind its bytes and `second` is
    the profile in `back`. -/
structure Joins (back : Bytes) (first second whole : Profile) : Prop where
  sampleTypes : whole.sampleTypes = first.sampleTypes ++ second.sampleTypes
  samples : whole.samples = first.samples ++ second.samples
  locations : whole.locations = first.locations ++ second.locations
  functions : whole.functions = first.functions ++ second.functions
  strings : whole.strings = first.strings ++ second.strings
  laterTime : Holds 9 back → whole.timeNanos = second.timeNanos
  earlierTime : ¬ Holds 9 back → whole.timeNanos = first.timeNanos
  laterDuration : Holds 10 back → whole.durationNanos = second.durationNanos
  earlierDuration : ¬ Holds 10 back → whole.durationNanos = first.durationNanos

/-- Of a plain field the last entry counts, wherever it stands. -/
theorem lastOr_filterMap_append {tag : Nat} {back : Bytes} {others : List Field}
    (pick : Field → Option Int) (fields : List Field) (known : schema.field? tag ≠ none)
    (fills : Fills (schema.readField nestingLimit) back others)
    (picks : ∀ field, (pick field).isSome ↔ field.tag = tag) :
    (Holds tag back →
      lastOr 0 ((fields ++ others).filterMap pick) = lastOr 0 (others.filterMap pick)) ∧
    (¬ Holds tag back →
      lastOr 0 ((fields ++ others).filterMap pick) = lastOr 0 (fields.filterMap pick)) := by
  rw [List.filterMap_append, lastOr_append, holds_iff known fills]
  constructor
  · rintro ⟨field, member, same⟩
    obtain ⟨value, picked⟩ := Option.isSome_iff_exists.mp ((picks field).mpr same)
    have some : others.filterMap pick ≠ [] :=
      List.ne_nil_of_mem (List.mem_filterMap.mpr ⟨field, member, picked⟩)
    exact lastOr_eq_of_ne_nil some _ _
  · intro without
    have none : others.filterMap pick = [] := by
      rw [List.filterMap_eq_nil_iff]
      intro field member
      by_contra picked
      have isSome : (pick field).isSome := Option.isSome_iff_ne_none.mpr picked
      exact without ⟨field, member, (picks field).mp isSome⟩
    rw [none]
    rfl

theorem joins_ofFields {back : Bytes} {others : List Field} (fields : List Field)
    (fills : Fills (schema.readField nestingLimit) back others) :
    Joins back (ofFields fields) (ofFields others) (ofFields (fields ++ others)) := by
  have time : schema.field? 9 ≠ none := by simp [schema]
  have duration : schema.field? 10 ≠ none := by simp [schema]
  obtain ⟨laterTime, earlierTime⟩ :
      (Holds 9 back →
        (ofFields (fields ++ others)).timeNanos = (ofFields others).timeNanos) ∧
      (¬ Holds 9 back →
        (ofFields (fields ++ others)).timeNanos = (ofFields fields).timeNanos) :=
    lastOr_filterMap_append _ fields time fills
      (by rintro (_ | _ | _ | _ | _ | _ | _) <;> simp [Field.tag])
  obtain ⟨laterDuration, earlierDuration⟩ :
      (Holds 10 back →
        (ofFields (fields ++ others)).durationNanos = (ofFields others).durationNanos) ∧
      (¬ Holds 10 back →
        (ofFields (fields ++ others)).durationNanos = (ofFields fields).durationNanos) :=
    lastOr_filterMap_append _ fields duration fills
      (by rintro (_ | _ | _ | _ | _ | _ | _) <;> simp [Field.tag])
  exact
    { sampleTypes := List.filterMap_append
      samples := List.filterMap_append
      locations := List.filterMap_append
      functions := List.filterMap_append
      strings := List.filterMap_append
      laterTime := laterTime
      earlierTime := earlierTime
      laterDuration := laterDuration
      earlierDuration := earlierDuration }

/-- Bytes that are no profile are no profile behind a profile either, for the same reason. -/
theorem decode_append_of_fills {front : Bytes} {fields : List Field}
    (fills : Fills (schema.readField nestingLimit) front fields) (back : Bytes) :
    decode (front ++ back) = (schema.readWhole back).map fun others =>
      ofFields (fields ++ others) := by
  rw [decode, Schema.readWhole_append isLocal_schema fills]
  cases schema.readWhole back <;> rfl

/-- Behind the bytes of a profile, the bytes of another one add their fields, bytes that are no
    profile make the whole invalid for the reason they have themselves, and well-formed fields that
    a profile does not know change nothing, whatever follows them. -/
theorem decode_append {front : Bytes} {first : Profile} (decoded : decode front = .ok first)
    (back : Bytes) :
    (∀ second, decode back = .ok second →
      ∃ whole, decode (front ++ back) = .ok whole ∧ Joins back first second whole) ∧
    (∀ fault, decode back = .error fault → decode (front ++ back) = .error fault) ∧
    (∀ pieces : List Piece, (∀ piece ∈ pieces, KeyForm piece.keyBytes piece.key) →
      (∀ piece ∈ pieces, schema.field? piece.key.tag = none) →
      (∀ piece ∈ pieces, PayloadForm nestingLimit piece.key piece.payload) →
      decode (front ++ (pieces.flatMap Piece.bytes ++ back)) = decode (front ++ back)) := by
  obtain ⟨fields, fills, rfl⟩ := decode_eq_ok_iff.mp decoded
  refine ⟨?_, ?_, ?_⟩
  · intro second decodedBack
    obtain ⟨others, fillsBack, rfl⟩ := decode_eq_ok_iff.mp decodedBack
    have decodedWhole := decode_eq_ok_iff.mpr ⟨_, fills.append fillsBack, rfl⟩
    exact ⟨_, decodedWhole, joins_ofFields fields fillsBack⟩
  · intro fault failed
    rw [decode_append_of_fills fills]
    unfold decode at failed
    cases read : schema.readWhole back with
    | error other =>
        rw [read] at failed
        cases failed
        rfl
    | ok others =>
        rw [read] at failed
        cases failed
  · intro pieces keys unknown payloads
    have stray := Schema.fills_stray keys unknown payloads
    have fillsMore := fills.append stray
    rw [List.append_nil] at fillsMore
    rw [← List.append_assoc, decode_append_of_fills fillsMore, decode_append_of_fills fills]

/-- A profile of nothing but its times. -/
def ofTimes (timeNanos durationNanos : Int) : Profile :=
  { sampleTypes := [], samples := [], locations := [], functions := [], strings := []
    timeNanos := timeNanos, durationNanos := durationNanos }

/-- A group of the unknown tag 15, with one number in it. -/
def strayGroup : Piece where
  keyBytes := [0x7b]
  key := ⟨15, .startGroup⟩
  payload := [0x08, 0x96, 0x01] ++ [0x7c]

theorem payloadForm_strayGroup : PayloadForm nestingLimit strayGroup.key strayGroup.payload := by
  have key : KeyForm [0x08] ⟨1, .varint⟩ := ⟨.last (by decide) (by decide), by decide, by decide⟩
  have number : NumberForm [0x96, 0x01] 150 :=
    .more (by decide) (.last (by decide) (by decide))
  have closes : KeyForm [0x7c] ⟨15, .endGroup⟩ :=
    ⟨.last (by decide) (by decide), by decide, by decide⟩
  have inside : PayloadForm 99 ⟨1, .varint⟩ [0x96, 0x01] := .varint number
  show PayloadForm (99 + 1) ⟨15, .startGroup⟩
    ([(⟨[0x08], ⟨1, .varint⟩, [0x96, 0x01]⟩ : Piece)].flatMap Piece.bytes ++ [0x7c])
  exact .group (List.forall_mem_singleton.mpr key) (List.forall_mem_singleton.mpr inside) closes

/-- Behind a time: a later time with a duration, a time that is cut off, and a stray group. -/
theorem decode_append_times :
    decode [0x48, 5] = .ok (ofTimes 5 0) ∧
      (∃ whole, decode ([0x48, 5] ++ [0x48, 7, 0x50, 3]) = .ok whole ∧
        Joins [0x48, 7, 0x50, 3] (ofTimes 5 0) (ofTimes 7 3) whole) ∧
      decode ([0x48, 5] ++ [0x48]) = .error ⟨.invalidVarint, [⟨"Profile", "time_nanos"⟩]⟩ ∧
      decode ([0x48, 5] ++ ([strayGroup].flatMap Piece.bytes ++ [0x50, 3])) =
        decode ([0x48, 5] ++ [0x50, 3]) := by
  have decoded : decode [0x48, 5] = .ok (ofTimes 5 0) := by decide +kernel
  have later : decode [0x48, 7, 0x50, 3] = .ok (ofTimes 7 3) := by decide +kernel
  have cut : decode [0x48] = .error ⟨.invalidVarint, [⟨"Profile", "time_nanos"⟩]⟩ := by
    decide +kernel
  have key : KeyForm [0x7b] ⟨15, .startGroup⟩ :=
    ⟨.last (by decide) (by decide), by decide, by decide⟩
  exact ⟨decoded, (decode_append decoded _).1 _ later, (decode_append decoded _).2.1 _ cut,
    (decode_append decoded _).2.2 [strayGroup] (List.forall_mem_singleton.mpr key)
      (List.forall_mem_singleton.mpr rfl) (List.forall_mem_singleton.mpr payloadForm_strayGroup)⟩

end Profile

end Stackwatch.Snapshot.Encoded

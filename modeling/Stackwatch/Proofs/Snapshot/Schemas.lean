import Stackwatch.Proofs.Wire.Messages
import Stackwatch.Snapshot.Encoded

/-!
# The messages of an encoded profile

The readers of every message of an encoded profile are local: what a field holds is decided by its
own bytes.
-/

namespace Stackwatch.Snapshot.Encoded

open Stackwatch.Wire

variable {α β : Type}

theorem local_reading {read : WireType → Input → Read (α × Input)} {wire : WireType}
    (isLocal : Local (read wire)) (field : α → β) : Local (reading field read wire) :=
  isLocal.map field

theorem reads_reading {read : WireType → Input → Read (α × Input)} {wire : WireType}
    {front : Bytes} {value : α} (reads : Reads (read wire) front value) (field : α → β) :
    Reads (reading field read wire) front (field value) :=
  reads.map field

/-- A field that is known by its place in a schema is read as its contents are. -/
theorem local_of_known {read : WireType → Input → Read (α × Input)} {field : α → β}
    {name fieldName : String} {other : WireType → Input → Read (β × Input)}
    (known : some (name, reading field read) = some (fieldName, other))
    (isLocal : ∀ wire, Local (read wire)) (wire : WireType) : Local (other wire) := by
  cases known
  exact local_reading (isLocal wire) field

theorem ValueType.isLocal_schema : ValueType.schema.IsLocal := by
  constructor
  intro tag fieldName read known wire
  simp only [schema] at known
  split at known
  · exact local_of_known known local_readSigned wire
  · exact local_of_known known local_readSigned wire
  · cases known

theorem Sample.isLocal_schema : Sample.schema.IsLocal := by
  constructor
  intro tag fieldName read known wire
  simp only [schema] at known
  split at known
  · exact local_of_known known (local_readRepeated local_readUnsigned) wire
  · exact local_of_known known (local_readRepeated local_readSigned) wire
  · cases known

theorem Line.isLocal_schema : Line.schema.IsLocal := by
  constructor
  intro tag fieldName read known wire
  simp only [schema] at known
  split at known
  · exact local_of_known known local_readUnsigned wire
  · exact local_of_known known local_readSigned wire
  · cases known

theorem Location.isLocal_schema (levels : Nat) : (Location.schema levels).IsLocal := by
  constructor
  intro tag fieldName read known wire
  simp only [schema] at known
  split at known
  · exact local_of_known known local_readUnsigned wire
  · exact local_of_known known local_readUnsigned wire
  · exact local_of_known known (Schema.local_readNested Line.isLocal_schema levels) wire
  · cases known

theorem Function.isLocal_schema : Function.schema.IsLocal := by
  constructor
  intro tag fieldName read known wire
  simp only [schema] at known
  split at known
  · exact local_of_known known local_readUnsigned wire
  · exact local_of_known known local_readSigned wire
  · exact local_of_known known local_readSigned wire
  · exact local_of_known known local_readSigned wire
  · cases known

theorem Profile.isLocal_schema : Profile.schema.IsLocal := by
  constructor
  intro tag fieldName read known wire
  simp only [schema] at known
  split at known
  · exact local_of_known known (Schema.local_readNested ValueType.isLocal_schema nestingLimit) wire
  · exact local_of_known known (Schema.local_readNested Sample.isLocal_schema nestingLimit) wire
  · exact local_of_known known
      (Schema.local_readNested (Location.isLocal_schema (nestingLimit - 1)) nestingLimit) wire
  · exact local_of_known known (Schema.local_readNested Function.isLocal_schema nestingLimit) wire
  · exact local_of_known known local_readText wire
  · exact local_of_known known local_readSigned wire
  · exact local_of_known known local_readSigned wire
  · cases known

/-- A profile is decoded exactly if fields fill its bytes, and it is made of these fields. -/
theorem Profile.decode_eq_ok_iff {bytes : Bytes} {profile : Profile} :
    Profile.decode bytes = .ok profile ↔
      ∃ fields, Fills (Profile.schema.readField nestingLimit) bytes fields ∧
        profile = Profile.ofFields fields := by
  rw [Profile.decode, bind_eq_ok]
  simp only [Schema.readWhole_eq_ok_iff Profile.isLocal_schema, Except.ok.injEq, eq_comm]

end Stackwatch.Snapshot.Encoded

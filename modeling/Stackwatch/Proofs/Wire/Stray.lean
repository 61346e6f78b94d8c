import Stackwatch.Proofs.Wire.Messages

/-!
# Stray fields

A message may hold fields that it does not know: numbers, fixed payloads, chunks, and groups of
fields within fields. This module says when such a field is well formed, and that all well-formed
ones are passed over, in any number.
-/

namespace Stackwatch.Wire

/-- A field as it stands in the bytes. -/
structure Piece where
  keyBytes : Bytes
  key : Key
  payload : Bytes

def Piece.bytes (piece : Piece) : Bytes := piece.keyBytes ++ piece.payload

/-- The payload that a key announces, at a place where `levels` more levels may be opened. Skipping
    anything takes a level, and the fields of a group are one level further down than the group. -/
inductive PayloadForm : (levels : Nat) → Key → Bytes → Prop where
  | varint {levels tag number : Nat} {payload : Bytes} (form : NumberForm payload number) :
      PayloadForm (levels + 1) ⟨tag, .varint⟩ payload
  | fixed64 {levels tag : Nat} {payload : Bytes} (eight : payload.length = 8) :
      PayloadForm (levels + 1) ⟨tag, .fixed64⟩ payload
  | fixed32 {levels tag : Nat} {payload : Bytes} (four : payload.length = 4) :
      PayloadForm (levels + 1) ⟨tag, .fixed32⟩ payload
  | lengthDelimited {levels tag : Nat} {length contents : Bytes}
      (form : NumberForm length contents.length) :
      PayloadForm (levels + 1) ⟨tag, .lengthDelimited⟩ (length ++ contents)
  | group {levels tag : Nat} {pieces : List Piece} {closing : Bytes}
      (keys : ∀ piece ∈ pieces, KeyForm piece.keyBytes piece.key)
      (payloads : ∀ piece ∈ pieces, PayloadForm levels piece.key piece.payload)
      (closes : KeyForm closing ⟨tag, .endGroup⟩) :
      PayloadForm (levels + 1) ⟨tag, .startGroup⟩ (pieces.flatMap Piece.bytes ++ closing)

/-! ### Inside groups -/

/-- Goes on behind the end of a group. -/
def leaveGroup (fuel levels : Nat) (outer : List Nat) (input : Input) : Read Input :=
  match outer with
  | [] => .ok input
  | enclosing :: further => skipGroups fuel (levels + 1) enclosing further input

theorem skipGroups_closing {closing : Bytes} {tag : Nat} (form : KeyForm closing ⟨tag, .endGroup⟩)
    (fuel levels : Nat) (outer : List Nat) (rest : Bytes) :
    skipGroups (fuel + 1) levels tag outer (.ofBytes (closing ++ rest)) =
      leaveGroup fuel levels outer (.ofBytes rest) := by
  simp only [skipGroups, readKey_append form, bind, Except.bind, if_true]
  cases outer <;> rfl

theorem skipGroups_scalar {piece : Piece} (form : KeyForm piece.keyBytes piece.key)
    (scalar : piece.key.wire ≠ .startGroup) (inner : piece.key.wire ≠ .endGroup)
    (skips : Skips (skipScalar piece.key.wire) piece.payload) (fuel levels innermost : Nat)
    (outer : List Nat) (rest : Bytes) :
    skipGroups (fuel + 1) (levels + 1) innermost outer (.ofBytes (piece.bytes ++ rest)) =
      skipGroups fuel (levels + 1) innermost outer (.ofBytes rest) := by
  rw [Piece.bytes, List.append_assoc, skipGroups]
  simp only [readKey_append form, bind, Except.bind, scalar, if_false, skips.passes]

theorem skipGroups_opening {piece : Piece} (form : KeyForm piece.keyBytes piece.key)
    (opens : piece.key.wire = .startGroup) (fuel levels innermost : Nat) (outer : List Nat)
    (rest : Bytes) :
    skipGroups (fuel + 1) (levels + 1) innermost outer (.ofBytes (piece.bytes ++ rest)) =
      skipGroups fuel levels piece.key.tag (innermost :: outer)
        (.ofBytes (piece.payload ++ rest)) := by
  rw [Piece.bytes, List.append_assoc, skipGroups]
  simp only [readKey_append form, bind, Except.bind, opens, if_true]

/-- A payload that is passed over: a scalar one in one step, a group in at most as many steps as it
    has bytes. -/
inductive Passable : (levels : Nat) → Key → Bytes → Prop where
  | scalar {levels : Nat} {key : Key} {payload : Bytes} (scalar : key.wire ≠ .startGroup)
      (inner : key.wire ≠ .endGroup) (skips : Skips (skipScalar key.wire) payload) :
      Passable (levels + 1) key payload
  | group {levels : Nat} {key : Key} {payload : Bytes} (opens : key.wire = .startGroup)
      (some : payload ≠ [])
      (steps : Nat) (few : steps ≤ payload.length)
      (passes : ∀ fuel outer rest,
        skipGroups (fuel + steps) levels key.tag outer (.ofBytes (payload ++ rest)) =
          leaveGroup fuel levels outer (.ofBytes rest)) :
      Passable (levels + 1) key payload

/-- Passable fields inside a group are passed over one after the other. -/
theorem exists_steps_of_passable {levels : Nat} {pieces : List Piece}
    (keys : ∀ piece ∈ pieces, KeyForm piece.keyBytes piece.key)
    (passable : ∀ piece ∈ pieces, Passable levels piece.key piece.payload) :
    ∃ steps, steps ≤ (pieces.flatMap Piece.bytes).length ∧
      ∀ fuel innermost outer rest,
        skipGroups (fuel + steps) levels innermost outer
            (.ofBytes (pieces.flatMap Piece.bytes ++ rest)) =
          skipGroups fuel levels innermost outer (.ofBytes rest) := by
  induction pieces with
  | nil => exact ⟨0, Nat.le_refl 0, fun _ _ _ _ => rfl⟩
  | cons piece others inductionHypothesis =>
      obtain ⟨key, keysOfOthers⟩ := List.forall_mem_cons.mp keys
      obtain ⟨payload, passableOthers⟩ := List.forall_mem_cons.mp passable
      obtain ⟨steps, few, passes⟩ := inductionHypothesis keysOfOthers passableOthers
      have some : 0 < piece.keyBytes.length := List.length_pos_iff.mpr key.ne_nil
      have length : ((piece :: others).flatMap Piece.bytes).length =
          piece.keyBytes.length + piece.payload.length + (others.flatMap Piece.bytes).length := by
        rw [List.flatMap_cons, List.length_append, Piece.bytes, List.length_append]
      cases payload with
      | scalar scalar inner skips =>
          refine ⟨steps + 1, by omega, fun fuel innermost outer rest => ?_⟩
          rw [List.flatMap_cons, List.append_assoc, ← Nat.add_assoc,
            skipGroups_scalar key scalar inner skips]
          exact passes fuel innermost outer rest
      | group opens filled inside fewInside passesInside =>
          refine ⟨steps + inside + 1, by omega, fun fuel innermost outer rest => ?_⟩
          rw [List.flatMap_cons, List.append_assoc, ← Nat.add_assoc, ← Nat.add_assoc,
            skipGroups_opening key opens, passesInside]
          exact passes fuel innermost outer rest

/-- Every well-formed payload is passable. The induction follows the groups inwards. -/
theorem PayloadForm.passable {levels : Nat} {key : Key} {payload : Bytes}
    (form : PayloadForm levels key payload) : Passable levels key payload := by
  induction form with
  | varint form =>
      refine .scalar (by simp) (by simp) ⟨VarintForm.ne_nil form, fun rest => ?_⟩
      simp only [skipScalar, readVarint_append form, bind, Except.bind]
  | @fixed64 levels tag payload eight =>
      have some : payload ≠ [] := List.length_pos_iff.mp (by omega)
      have skips := skips_skipBytes some
      rw [eight] at skips
      exact .scalar (by simp) (by simp) skips
  | @fixed32 levels tag payload four =>
      have some : payload ≠ [] := List.length_pos_iff.mp (by omega)
      have skips := skips_skipBytes some
      rw [four] at skips
      exact .scalar (by simp) (by simp) skips
  | lengthDelimited form =>
      have chunk := readChunk_append form
      refine .scalar (by simp) (by simp) ⟨chunk.takes, fun rest => ?_⟩
      simp only [skipScalar, chunk.finds, bind, Except.bind]
  | @group levels tag pieces closing keys payloads closes inductionHypothesis =>
      obtain ⟨steps, few, passes⟩ := exists_steps_of_passable keys inductionHypothesis
      have some : 0 < closing.length := List.length_pos_iff.mpr closes.ne_nil
      refine .group rfl (List.append_ne_nil_of_right_ne_nil _ closes.ne_nil) (steps + 1) ?_
        fun fuel outer rest => ?_
      · rw [List.length_append]
        omega
      · have more : fuel + (steps + 1) = fuel + 1 + steps := by omega
        rw [more, List.append_assoc, passes]
        exact skipGroups_closing closes fuel levels outer rest

theorem Passable.skips {levels : Nat} {key : Key} {payload : Bytes}
    (passable : Passable levels key payload) : Skips (skipPayload levels key) payload := by
  cases passable with
  | scalar scalar inner skips =>
      refine ⟨skips.takes, fun rest => ?_⟩
      simp only [skipPayload, scalar, if_false]
      exact skips.passes rest
  | group opens some steps few passes =>
      refine ⟨some, fun rest => ?_⟩
      obtain ⟨fuel, enough⟩ : ∃ fuel, (Input.ofBytes (payload ++ rest)).size = fuel + steps :=
        ⟨(payload ++ rest).length - steps, by
          simp only [Input.size_ofBytes, List.length_append]
          omega⟩
      simp only [skipPayload, opens, if_true]
      rw [enough, passes]
      rfl

/-! ### Inside messages -/

/-- Well-formed fields that a message does not know fill their bytes with nothing. -/
theorem Schema.fills_stray {α : Type} {schema : Schema α} {levels : Nat} {pieces : List Piece}
    (keys : ∀ piece ∈ pieces, KeyForm piece.keyBytes piece.key)
    (unknown : ∀ piece ∈ pieces, schema.field? piece.key.tag = none)
    (payloads : ∀ piece ∈ pieces, PayloadForm levels piece.key piece.payload) :
    Fills (schema.readField levels) (pieces.flatMap Piece.bytes) [] := by
  induction pieces with
  | nil => exact .nil
  | cons piece others inductionHypothesis =>
      obtain ⟨key, keysOfOthers⟩ := List.forall_mem_cons.mp keys
      obtain ⟨tag, unknownOthers⟩ := List.forall_mem_cons.mp unknown
      obtain ⟨payload, payloadsOfOthers⟩ := List.forall_mem_cons.mp payloads
      have reads : Reads (schema.readField levels) piece.bytes none :=
        readField_unknown key tag payload.passable.skips
      rw [List.flatMap_cons]
      exact .cons reads (inductionHypothesis keysOfOthers unknownOthers payloadsOfOthers)

end Stackwatch.Wire

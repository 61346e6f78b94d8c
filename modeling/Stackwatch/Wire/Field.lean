import Stackwatch.Wire.Varint

/-!
# Fields of a message

A message is a sequence of fields, each a key (tag and wire type) and a payload. Reading turns the
bytes into the list of the known fields in their order; how a message is assembled from that list is
the business of the message. Because reading a field never looks at what was read before it, the
fields of two inputs written one after the other are the fields of the first and then of the second.
-/

namespace Stackwatch.Wire

/-- How many levels of known sub-messages and unknown groups may be open inside a message. -/
def nestingLimit : Nat := 100

structure Key where
  tag : Nat
  wire : WireType
  deriving DecidableEq, Repr, Inhabited

def readKey (input : Input) : Read (Key × Input) := do
  let (key, rest) ← readVarint input
  if Nat.pow 2 32 ≤ key then
    fail (.invalidKey key)
  else
    match WireType.ofCode? (key % 8) with
    | none => fail (.unknownWireType (key % 8))
    | some wire => if key / 8 = 0 then fail .zeroTag else .ok (⟨key / 8, wire⟩, rest)

def expectWire (expected actual : WireType) : Read Unit :=
  if actual = expected then .ok () else fail (.unexpectedWireType actual expected)

def skipBytes (count : Nat) (input : Input) : Read Input :=
  match input.skip? count with
  | some rest => .ok rest
  | none => fail .underflow

/-- A length and that many bytes. -/
def readChunk (input : Input) : Read (Bytes × Input) := do
  let (length, rest) ← readVarint input
  match rest.take? length with
  | some chunk => .ok chunk
  | none => fail .underflow

/-- Skips the payload of an unknown field that is no group. -/
def skipScalar (wire : WireType) (input : Input) : Read Input :=
  match wire with
  | .varint => do
      let (_, rest) ← readVarint input
      .ok rest
  | .fixed64 => skipBytes 8 input
  | .fixed32 => skipBytes 4 input
  | .lengthDelimited => do
      let (_, rest) ← readChunk input
      .ok rest
  | .startGroup | .endGroup => fail .unexpectedEndGroup

/-- Skips to the end of the outermost of the groups `innermost :: outer`, whose tags are given
    innermost first. `levels` more levels may be opened. -/
def skipGroups : (fuel levels innermost : Nat) → (outer : List Nat) → Input → Read Input
  | 0, _, _, _, _ => fail .invalidVarint
  | fuel + 1, levels, innermost, outer, input => do
      let (key, rest) ← readKey input
      match key.wire with
      | .endGroup =>
          if key.tag = innermost then
            match outer with
            | [] => .ok rest
            | enclosing :: further => skipGroups fuel (levels + 1) enclosing further rest
          else
            fail .unexpectedEndGroup
      | wire =>
          match levels with
          | 0 => fail .nestedTooDeeply
          | below + 1 =>
              if wire = .startGroup then
                skipGroups fuel below key.tag (innermost :: outer) rest
              else do
                let next ← skipScalar wire rest
                skipGroups fuel (below + 1) innermost outer next

/-- Skips the payload of an unknown field at a place where `levels` more levels may be opened. -/
def skipPayload (levels : Nat) (key : Key) (input : Input) : Read Input :=
  match levels with
  | 0 => fail .nestedTooDeeply
  | below + 1 =>
      if key.wire = .startGroup then
        skipGroups input.size below key.tag [] input
      else
        skipScalar key.wire input

/-- The fields a message knows: for a tag, the field's name and the reader of its payload. -/
structure Schema (α : Type) where
  name : String
  field? : Nat → Option (String × (WireType → Input → Read (α × Input)))

/-- One field, or nothing if its tag is unknown. -/
def Schema.readField {α : Type} (schema : Schema α) (levels : Nat) (input : Input) :
    Read (Option α × Input) := do
  let (key, payload) ← readKey input
  match schema.field? key.tag with
  | some (fieldName, read) =>
      match read key.wire payload with
      | .ok (field, rest) => .ok (some field, rest)
      | .error fault => .error (fault.within ⟨schema.name, fieldName⟩)
  | none => do
      let rest ← skipPayload levels key payload
      .ok (none, rest)

/-- Reads items until at most `stop` bytes are left, which must then be exactly `stop`. Every item
    takes at least one byte, so the number of bytes is fuel enough. -/
def readUntil {α : Type} (readItem : Input → Read (Option α × Input)) (stop : Nat) :
    (fuel : Nat) → Input → Read (List α × Input)
  | 0, input => if input.size = stop then .ok ([], input) else fail .lengthExceeded
  | fuel + 1, input =>
      if input.size ≤ stop then
        if input.size = stop then .ok ([], input) else fail .lengthExceeded
      else do
        let (item?, next) ← readItem input
        let (items, rest) ← readUntil readItem stop fuel next
        .ok (item?.toList ++ items, rest)

/-- A length, which must not reach past the end of the whole input, and items that fill it. -/
def readDelimited {α : Type} (readItem : Input → Read (Option α × Input)) (input : Input) :
    Read (List α × Input) := do
  let (length, rest) ← readVarint input
  if rest.size < length then
    fail .underflow
  else
    readUntil readItem (rest.size - length) rest.size rest

/-- The payload of a sub-message: its fields in order. -/
def Schema.readNested {α : Type} (schema : Schema α) (levels : Nat) (wire : WireType)
    (input : Input) : Read (List α × Input) := do
  expectWire .lengthDelimited wire
  match levels with
  | 0 => fail .nestedTooDeeply
  | below + 1 => readDelimited (schema.readField below) input

/-- A whole input as one message: its fields in order. -/
def Schema.readWhole {α : Type} (schema : Schema α) (bytes : Bytes) : Read (List α) := do
  let (fields, _) ← readUntil (schema.readField nestingLimit) 0 bytes.length (.ofBytes bytes)
  .ok fields

/-! ## Payloads -/

def readUnsigned (wire : WireType) (input : Input) : Read (Nat × Input) := do
  expectWire .varint wire
  readVarint input

def readSigned (wire : WireType) (input : Input) : Read (Int × Input) := do
  let (value, rest) ← readUnsigned wire input
  .ok (signed64 value, rest)

def readText (wire : WireType) (input : Input) : Read (String × Input) := do
  expectWire .lengthDelimited wire
  let (chunk, rest) ← readChunk input
  match String.fromUTF8? ⟨chunk.toArray⟩ with
  | some text => .ok (text, rest)
  | none => fail .invalidUtf8

/-- One entry of a repeated integer field: a single integer, or a packed list of them. -/
def readRepeated {α : Type} (readOne : WireType → Input → Read (α × Input)) (wire : WireType)
    (input : Input) : Read (List α × Input) :=
  if wire = .lengthDelimited then
    readDelimited
      (fun here => do
        let (value, rest) ← readOne .varint here
        .ok (some value, rest))
      input
  else do
    let (value, rest) ← readOne wire input
    .ok ([value], rest)

end Stackwatch.Wire

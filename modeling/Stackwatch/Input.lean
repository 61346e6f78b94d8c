/-!
# Byte inputs

Profiling engines hand over byte strings. A reader works on an `Input`: the bytes that are still to
be read, together with their number, so that "how much is left" is known without walking the list.
The number is tied to the bytes by a proof, and `Input.ext_bytes` says that the bytes alone decide.
-/

namespace Stackwatch

abbrev Bytes := List UInt8

/-- The bytes still to be read. -/
structure Input where
  bytes : Bytes
  size : Nat
  size_eq : size = bytes.length

namespace Input

def ofBytes (bytes : Bytes) : Input := ⟨bytes, bytes.length, rfl⟩

theorem ext_bytes {first second : Input} (same : first.bytes = second.bytes) : first = second := by
  cases first with
  | mk firstBytes firstSize firstEq =>
    cases second with
    | mk secondBytes secondSize secondEq =>
      cases same
      cases firstEq
      cases secondEq
      rfl

@[simp]
theorem bytes_ofBytes (bytes : Bytes) : (ofBytes bytes).bytes = bytes := rfl

@[simp]
theorem size_ofBytes (bytes : Bytes) : (ofBytes bytes).size = bytes.length := rfl

/-- The next byte and what follows it. -/
def next? : Input → Option (UInt8 × Input)
  | ⟨[], _, _⟩ => none
  | ⟨byte :: rest, size, size_eq⟩ =>
      some (byte, ⟨rest, size - 1, by simp at size_eq; omega⟩)

@[simp]
theorem next?_nil : (ofBytes []).next? = none := rfl

@[simp]
theorem next?_cons (byte : UInt8) (rest : Bytes) :
    (ofBytes (byte :: rest)).next? = some (byte, ofBytes rest) := by
  simp [ofBytes, next?]

/-- The next `count` bytes and what follows them; nothing if fewer are left. -/
def take? (count : Nat) (input : Input) : Option (Bytes × Input) :=
  if enough : count ≤ input.size then
    some (input.bytes.take count,
      ⟨input.bytes.drop count, input.size - count, by
        have := input.size_eq
        simp; omega⟩)
  else
    none

theorem take?_append (front rest : Bytes) :
    (ofBytes (front ++ rest)).take? front.length = some (front, ofBytes rest) := by
  unfold take?
  rw [dif_pos (by simp)]
  refine congrArg some (Prod.ext ?_ (ext_bytes ?_)) <;> simp

/-- The input without its first `count` bytes; nothing if fewer are left. -/
def skip? (count : Nat) (input : Input) : Option Input :=
  (input.take? count).map (·.2)

theorem skip?_append (front rest : Bytes) :
    (ofBytes (front ++ rest)).skip? front.length = some (ofBytes rest) := by
  simp [skip?, take?_append]

end Input

end Stackwatch

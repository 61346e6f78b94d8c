/-!
# What can be wrong with an encoded message

A message is read in one pass, and the first fault ends it. A `Fault` is the cause together with the
fields inside which it was met, innermost first, so that its text leads from the fault outwards.
-/

namespace Stackwatch.Wire

/-- The six kinds of payload a field key can announce. -/
inductive WireType where
  | varint
  | fixed64
  | lengthDelimited
  | startGroup
  | endGroup
  | fixed32
  deriving DecidableEq, Repr, Inhabited

namespace WireType

def ofCode? : Nat → Option WireType
  | 0 => some .varint
  | 1 => some .fixed64
  | 2 => some .lengthDelimited
  | 3 => some .startGroup
  | 4 => some .endGroup
  | 5 => some .fixed32
  | _ => none

def code : WireType → Nat
  | .varint => 0
  | .fixed64 => 1
  | .lengthDelimited => 2
  | .startGroup => 3
  | .endGroup => 4
  | .fixed32 => 5

theorem ofCode?_code (wire : WireType) : ofCode? wire.code = some wire := by
  cases wire <;> rfl

def label : WireType → String
  | .varint => "Varint"
  | .fixed64 => "SixtyFourBit"
  | .lengthDelimited => "LengthDelimited"
  | .startGroup => "StartGroup"
  | .endGroup => "EndGroup"
  | .fixed32 => "ThirtyTwoBit"

end WireType

inductive Cause where
  | invalidVarint
  | invalidKey (key : Nat)
  | unknownWireType (code : Nat)
  | zeroTag
  | unexpectedWireType (actual expected : WireType)
  /-- A length, or a fixed payload, reaches past the end of the whole input. -/
  | underflow
  /-- A field ends after the message or packed list that holds it. -/
  | lengthExceeded
  | invalidUtf8
  | unexpectedEndGroup
  | nestedTooDeeply
  deriving DecidableEq, Repr, Inhabited

def Cause.message : Cause → String
  | .invalidVarint => "invalid varint"
  | .invalidKey key => "invalid key value: " ++ toString key
  | .unknownWireType code => "invalid wire type value: " ++ toString code
  | .zeroTag => "invalid tag value: 0"
  | .unexpectedWireType actual expected =>
      "invalid wire type: " ++ actual.label ++ " (expected " ++ expected.label ++ ")"
  | .underflow => "buffer underflow"
  | .lengthExceeded => "delimited length exceeded"
  | .invalidUtf8 => "invalid string value: data is not UTF-8 encoded"
  | .unexpectedEndGroup => "unexpected end group tag"
  | .nestedTooDeeply => "recursion limit reached"

/-- A message and one of its fields, by name. -/
structure Place where
  message : String
  field : String
  deriving DecidableEq, Repr, Inhabited

structure Fault where
  cause : Cause
  path : List Place := []
  deriving DecidableEq, Repr, Inhabited

/-- The same fault seen from the message that holds the field it was met in. -/
def Fault.within (place : Place) (fault : Fault) : Fault :=
  { fault with path := fault.path ++ [place] }

def Fault.message (fault : Fault) : String :=
  fault.path.foldr (fun place text => place.message ++ "." ++ place.field ++ ": " ++ text)
    fault.cause.message

abbrev Read (α : Type) := Except Fault α

def fail {α : Type} (cause : Cause) : Read α := .error { cause := cause }

end Stackwatch.Wire

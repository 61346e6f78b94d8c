import Stackwatch.Wire.Field

/-!
# Writing fields

The usual form of a message: numbers in as few bytes as possible, repeated numbers packed into one
field, and nothing for a number that is zero.
-/

namespace Stackwatch.Wire

/-- A number in groups of seven bits, the lowest group first. -/
def writeVarint (value : Nat) : Bytes :=
  if value < 128 then [UInt8.ofNat value]
  else UInt8.ofNat (value % 128 + 128) :: writeVarint (value / 128)
termination_by value

/-- The bits of a signed number, as an unsigned one. -/
def unsigned64 (value : Int) : Nat := (value % Nat.pow 2 64).toNat

/-- The key of a field whose value is a number. -/
def writeNumberKey (tag : Nat) : Bytes := writeVarint (8 * tag)

/-- A field that tells its length, with its contents. -/
def writeDelimited (tag : Nat) (contents : Bytes) : Bytes :=
  writeVarint (8 * tag + 2) ++ writeVarint contents.length ++ contents

/-- A number; zero is left out. -/
def writeUnsigned (tag value : Nat) : Bytes :=
  if value = 0 then [] else writeNumberKey tag ++ writeVarint value

def writeSigned (tag : Nat) (value : Int) : Bytes := writeUnsigned tag (unsigned64 value)

/-- Several numbers in one field. -/
def writePacked (tag : Nat) (values : List Nat) : Bytes :=
  if values.isEmpty then [] else writeDelimited tag (values.flatMap writeVarint)

def writeText (tag : Nat) (text : String) : Bytes := writeDelimited tag text.toUTF8.toList

end Stackwatch.Wire

import Stackwatch.Deflate.Inflate
import Stackwatch.Gzip.Checksum

/-!
# Gzip envelopes

An envelope is a header with optional fields, compressed contents, and a trailer with the checksum
and length of the contents. Only the first envelope of the input is opened; what follows is ignored.
-/

namespace Stackwatch.Gzip

inductive Fault where
  | invalidHeader
  | fieldTooLong
  /-- The header or the trailer is cut off. -/
  | endOfInput
  | mismatch
  | contents (fault : Deflate.Fault)
  deriving DecidableEq, Repr, Inhabited

def Fault.message : Fault → String
  | .invalidHeader => "invalid gzip header"
  | .fieldTooLong => "gzip header field too long"
  | .endOfInput => "unexpected end of file"
  | .mismatch => "corrupt gzip stream does not have a matching checksum"
  | .contents .incomplete => "incomplete deflate stream"
  | .contents .corrupt => "corrupt deflate stream"

abbrev Read (α : Type) := Except Fault α

/-- The first two bytes of an envelope. -/
def magic : Bytes := [0x1f, 0x8b]

def hasMagic (bytes : Bytes) : Bool := magic.isPrefixOf bytes

/-- The flags of a header, by bit. -/
structure Flags where
  checksum : Bool
  extra : Bool
  name : Bool
  comment : Bool
  reserved : Bool
  deriving DecidableEq, Repr, Inhabited

def Flags.ofByte (byte : UInt8) : Flags where
  checksum := byte.toNat.testBit 1
  extra := byte.toNat.testBit 2
  name := byte.toNat.testBit 3
  comment := byte.toNat.testBit 4
  reserved := byte.toNat / 32 ≠ 0

/-- The longest name or comment. -/
def maxFieldLength : Nat := 65535

/-- The number written in little-endian order. -/
def littleEndian (bytes : Bytes) : Nat :=
  bytes.foldr (fun byte value => byte.toNat + 256 * value) 0

def takeBytes (count : Nat) (bytes : Bytes) : Read (Bytes × Bytes) :=
  let front := bytes.take count
  if front.length < count then .error .endOfInput else .ok (front, bytes.drop count)

/-- Skips a text and the zero byte behind it; `room` more bytes are allowed in the text. -/
def skipText : (room : Nat) → Bytes → Read Bytes
  | _, [] => .error .endOfInput
  | 0, byte :: rest => if byte = 0 then .ok rest else .error .fieldTooLong
  | room + 1, byte :: rest => if byte = 0 then .ok rest else skipText room rest

def skipExtra (bytes : Bytes) : Read Bytes := do
  let (length, rest) ← takeBytes 2 bytes
  let (_, rest) ← takeBytes (littleEndian length) rest
  .ok rest

/-- Checks the last field of the header against the header bytes before it. -/
def checkHeader (whole bytes : Bytes) : Read Bytes := do
  let (stated, rest) ← takeBytes 2 bytes
  let header := whole.take (whole.length - bytes.length)
  if (checksum header).toNat % Nat.pow 2 16 = littleEndian stated then .ok rest
  else .error .mismatch

/-- The bytes behind the header. -/
def skipHeader (bytes : Bytes) : Read Bytes := do
  let (fixed, rest) ← takeBytes 10 bytes
  let flags := Flags.ofByte (fixed.getD 3 0)
  if ¬hasMagic fixed ∨ fixed.getD 2 0 ≠ 8 ∨ flags.reserved then
    .error .invalidHeader
  else
    let rest ← if flags.extra then skipExtra rest else .ok rest
    let rest ← if flags.name then skipText maxFieldLength rest else .ok rest
    let rest ← if flags.comment then skipText maxFieldLength rest else .ok rest
    if flags.checksum then checkHeader bytes rest else .ok rest

/-- Compares the contents with what the trailer says about them. -/
def checkTrailer (contents bytes : Bytes) : Read Unit := do
  let (statedChecksum, rest) ← takeBytes 4 bytes
  let (statedLength, _) ← takeBytes 4 rest
  if (checksum contents).toNat = littleEndian statedChecksum ∧
      contents.length % Nat.pow 2 32 = littleEndian statedLength then
    .ok ()
  else
    .error .mismatch

/-- The contents of the envelope at the start of the input. -/
def unpack (bytes : Bytes) : Read Bytes := do
  let body ← skipHeader bytes
  match Deflate.inflate body with
  | .error fault => .error (.contents fault)
  | .ok (contents, trailer) => do
      checkTrailer contents trailer
      .ok contents

end Stackwatch.Gzip

/-!
# Percent encoding

Characters that cannot stand in a part of an address are written as the bytes of their encoding,
each behind a percent sign. Which characters those are depends on the part.
-/

namespace Stackwatch.Url

/-- Controls and everything beyond ASCII. -/
def isControl (char : Char) : Bool := char.toNat < 0x20 || 0x7e < char.toNat

/-- What cannot stand in a fragment. -/
def notInFragment (char : Char) : Bool := isControl char || " \"<>\x60".contains char

/-- What cannot stand in a path. -/
def notInPath (char : Char) : Bool := notInFragment char || "#?\x7b\x7d".contains char

/-- What cannot stand in user information. -/
def notInUserInfo (char : Char) : Bool := notInPath char || "/:;=@[\\]^|".contains char

/-- What cannot stand in a query. -/
def notInQuery (char : Char) : Bool := isControl char || " \"#<>".contains char

/-- What cannot stand in the query of a web address. -/
def notInWebQuery (char : Char) : Bool := notInQuery char || char == '\''

def upperHexDigit (value : Nat) : Char := "0123456789ABCDEF".toList.getD value '0'

/-- A byte behind a percent sign. -/
def encodeByte (byte : UInt8) : List Char :=
  ['%', upperHexDigit (byte.toNat / 16), upperHexDigit (byte.toNat % 16)]

def encodeChar (excluded : Char → Bool) (char : Char) : List Char :=
  if excluded char then (String.singleton char).toUTF8.toList.flatMap encodeByte else [char]

/-- Encodes what cannot stand in a part. -/
def encode (excluded : Char → Bool) (chars : List Char) : List Char :=
  chars.flatMap (encodeChar excluded)

def hexDigit? (char : Char) : Option Nat :=
  if char.isDigit then some (char.toNat - '0'.toNat)
  else if 'a' ≤ char ∧ char ≤ 'f' then some (char.toNat - 'a'.toNat + 10)
  else if 'A' ≤ char ∧ char ≤ 'F' then some (char.toNat - 'A'.toNat + 10)
  else none

/-- The bytes of a text in which bytes may be written behind percent signs. -/
def decodeBytes : List Char → List UInt8
  | '%' :: high :: low :: rest =>
      match hexDigit? high, hexDigit? low with
      | some first, some second => UInt8.ofNat (16 * first + second) :: decodeBytes rest
      | _, _ => 0x25 :: decodeBytes (high :: low :: rest)
  | char :: rest => (String.singleton char).toUTF8.toList ++ decodeBytes rest
  | [] => []

/-- The text without percent encoding, unless its bytes are no text. -/
def decode? (chars : List Char) : Option (List Char) :=
  (String.fromUTF8? ⟨(decodeBytes chars).toArray⟩).map String.toList

end Stackwatch.Url

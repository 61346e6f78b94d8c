/-!
# Framing of a request

The headers of a request say where its body ends: by its length in bytes, or by sending it in chunks
each of which is preceded by its length. What the headers say about it already is kept as far as it
makes sense.
-/

namespace Stackwatch.Http

/-- Headers with the body as it is sent. -/
structure Framed where
  headers : List (String × String)
  text : String
  /-- Whether the headers announce more than is sent. -/
  isCutShort : Bool := false
  deriving DecidableEq, Repr, Inhabited

def lengthHeader : String := "content-length"

def codingHeader : String := "transfer-encoding"

/-- A length in decimal digits. -/
def readLength? (text : String) : Option Nat :=
  let digits := text.trimAscii.toString.toList
  if digits.isEmpty || !digits.all Char.isDigit then none
  else
    let length := digits.foldl (fun length digit => 10 * length + (digit.toNat - '0'.toNat)) 0
    if length < Nat.pow 2 64 then some length else none

/-- The length that is announced; of several ones all have to be the same. -/
def announcedLength? (headers : List (String × String)) : Option Nat := do
  let texts := (headers.filter (·.1 == lengthHeader)).flatMap (·.2.splitOn ",")
  match ← texts.mapM readLength? with
  | first :: others => if others.all (· == first) then some first else none
  | [] => none

/-- Whether the last of the codings is that in chunks. Codings have names in ASCII. -/
def endsInChunks (codings : String) : Bool :=
  match (codings.splitOn ",").getLast? with
  | some last =>
      last.trimAscii.toString.toLower == "chunked" && codings.toList.all fun char => char < '\x7f'
  | none => false

/-- The codings with that in chunks at the end. -/
def withChunks (codings : String) : String :=
  if endsInChunks codings then codings else codings ++ ", chunked"

def upperHex (number : Nat) : String :=
  String.ofList ((Nat.toDigits 16 number).map Char.toUpper)

/-- A text as one chunk, behind which nothing comes. -/
def asChunk (text : String) : String :=
  upperHex text.utf8ByteSize ++ "\r\n" ++ text ++ "\r\n0\r\n\r\n"

/-- What is shown for a character that is cut through. -/
def cutChar : Char := '\ufffd'

/-- The first bytes of a text. -/
def firstBytes : (count : Nat) → List Char → List Char
  | 0, _ => []
  | _, [] => []
  | count, char :: rest =>
      if char.utf8Size ≤ count then char :: firstBytes (count - char.utf8Size) rest
      else [cutChar]

/-- Sets a header; one of the same name is replaced where it stands. -/
def setHeader (name value : String) (headers : List (String × String)) : List (String × String) :=
  if headers.any (·.1 == name) then
    headers.map fun header => if header.1 == name then (name, value) else header
  else headers ++ [(name, value)]

/-- The headers and the body that are sent. A coding takes precedence over a length, and a length
    that can be read over the true one. -/
def frame (headers : List (String × String)) (body : String) : Framed :=
  match headers.lookup codingHeader, announcedLength? headers with
  | some codings, length? =>
      let kept := if length?.isSome then headers.filter (·.1 != lengthHeader) else headers
      { headers := setHeader codingHeader (withChunks codings) kept, text := asChunk body }
  | none, some length =>
      { headers := headers
        text := String.ofList (firstBytes length body.toList)
        isCutShort := body.utf8ByteSize < length }
  | none, none =>
      { headers := setHeader lengthHeader (toString body.utf8ByteSize) headers, text := body }

end Stackwatch.Http

import Stackwatch.Http.Framing
import Stackwatch.Http.Status

/-!
# Responses

A response begins with a head: a line with the status, one line for each header, and an empty line.
A head that only announces another response is skipped. What follows the head does not matter here,
but the head has to say clearly how long it is.
-/

namespace Stackwatch.Http

/-- What has been read of a response, line by line. -/
inductive Head where
  /-- The line with the status comes next. -/
  | awaited
  /-- Headers come next. -/
  | begun (code : Nat) (headers : List (String × String))
  | complete (code : Nat)
  | faulty
  deriving DecidableEq, Repr, Inhabited

/-- A line without the return in front of its end. -/
def withoutReturn (line : List Char) : List Char :=
  if line.getLast? == some '\r' then line.dropLast else line

/-- The lines of a text. What is behind the last end of a line is none. -/
def splitLines (text : List Char) : List (List Char) :=
  (text.splitOn '\n').dropLast.map withoutReturn

/-- The versions of responses. -/
def versions : List (List Char) := ["HTTP/1.1 ".toList, "HTTP/1.0 ".toList]

/-- The code in the first line of a response. -/
def readStatusLine? (line : List Char) : Option Nat :=
  if versions.any (·.isPrefixOf line) then readStatus? (line.drop 9) else none

/-- Whether a character can stand in the name of a header. -/
def isNameChar (char : Char) : Bool :=
  char.isAlphanum || "!#$%&'*+-.^_\x60|~".contains char

/-- A header, by its name in small letters. -/
def readHeader? (line : List Char) : Option (String × String) :=
  let name := line.takeWhile (· != ':')
  match line.dropWhile (· != ':') with
  | _ :: value =>
      if !name.isEmpty && name.all isNameChar && value.all isTextChar then
        some (String.ofList (name.map Char.toLower), (String.ofList value).trimAscii.toString)
      else none
  | [] => none

/-- Whether responses with a code have no body, whatever their headers say. -/
def isBare (code : Nat) : Bool := [101, 204, 304].contains code

/-- Whether the headers leave it open how long the response is, in that they tell its length in more
    than one way. Sent in chunks it needs no length. -/
def isUnclear (code : Nat) (headers : List (String × String)) : Bool :=
  !isBare code && !headers.any (·.1 == codingHeader) && headers.any (·.1 == lengthHeader) &&
    (announcedLength? headers).isNone

/-- The head behind its last line. -/
def closed (code : Nat) (headers : List (String × String)) : Head :=
  if isInterim code then .awaited
  else if isUnclear code headers then .faulty
  else .complete code

namespace Head

/-- Goes on with the next line. -/
def next (line : List Char) : Head → Head
  | .awaited =>
      if line.isEmpty then .awaited
      else match readStatusLine? line with
        | some code => .begun code []
        | none => .faulty
  | .begun code headers =>
      if line.isEmpty then closed code headers
      else match readHeader? line with
        | some header => .begun code (headers ++ [header])
        | none => .faulty
  | head => head

/-- The code of a response, if it has been told. -/
def code? : Head → Option Nat
  | .complete code => some code
  | _ => none

end Head

/-- The code of the response that a text begins with. -/
def responseCode? (text : String) : Option Nat :=
  ((splitLines text.toList).foldl (fun (head : Head) line => head.next line) .awaited).code?

end Stackwatch.Http

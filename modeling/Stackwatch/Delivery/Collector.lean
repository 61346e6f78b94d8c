import Stackwatch.Http.Response
import Stackwatch.Json.Writer
import Stackwatch.Text.Base64
import Stackwatch.Url.Basic

/-!
# Delivery to a collector

A collector takes every batch as the JSON body of one request. Any response but a successful one is
a failure, and so is an address to which nothing can be sent.
-/

namespace Stackwatch

structure Collector where
  url : String
  /-- Headers of every request, by their names in small letters. -/
  headers : List (String × String) := []
  deriving DecidableEq, Repr, Inhabited

namespace Collector

/-- Why a batch was not delivered. -/
inductive Error where
  /-- The address cannot be read. -/
  | unreadable
  /-- The address is not one of the web. -/
  | unusable (url : String)
  /-- The request could not be sent or was not answered. -/
  | unanswered (url : String)
  /-- The collector answered with a code that is not a success. -/
  | refused (code : Nat)
  deriving DecidableEq, Repr, Inhabited

def Error.message : Error → String
  | .unreadable => "failed to send profiles: builder error"
  | .unusable url => "failed to send profiles: builder error for url (" ++ url ++ ")"
  | .unanswered url => "failed to send profiles: error sending request for url (" ++ url ++ ")"
  | .refused code => "collector responded with " ++ Http.statusText code

/-- Adds a header to every request; one of the same name is replaced. -/
def withHeader (name value : String) (collector : Collector) : Collector :=
  let name := String.ofList (name.toList.map Char.toLower)
  { collector with headers := collector.headers.filter (·.1 != name) ++ [(name, value)] }

/-- Where a request can be sent to, and what name and password are told there. -/
structure Destination where
  /-- The address without name and password. -/
  url : Url
  /-- Missing if there is neither a name nor a password, or if they cannot be told. -/
  credentials : Option (String × Option String) := none
  deriving DecidableEq, Repr, Inhabited

/-- What cannot stand in the host of a request. -/
def isRefusedInHost (char : Char) : Bool := "\"\x60\x7b\x7d".contains char

/-- How long an address can be. -/
def longestAddress : Nat := 65534

/-- Whether requests can be sent to an address. -/
def isUsable (url : Url) : Bool :=
  ["http", "https"].contains (String.ofList url.scheme) && !url.host.any isRefusedInHost &&
    url.toText.utf8ByteSize ≤ longestAddress

/-- The destination of the requests. Name and password are not part of the address then, unless they
    cannot be told. -/
def destination (collector : Collector) : Except Error Destination :=
  match Url.read? collector.url with
  | none => .error .unreadable
  | some url =>
      let destination := match url.credentials? with
        | some credentials => { url := url.withoutUserInfo, credentials := some credentials }
        | none => { url := url }
      if isUsable destination.url then .ok destination
      else .error (.unusable destination.url.toText)

/-- Name and password as the value of a header. -/
def credentialsText (name : String) (password : Option String) : String :=
  let text := name ++ ":" ++ password.getD ""
  "Basic " ++ String.ofList (Text.base64 text.toUTF8.toList)

structure Request where
  /-- Path and query. -/
  target : String
  headers : List (String × String)
  /-- What is sent as the body. -/
  body : String
  /-- Whether the headers announce more than that. -/
  isCutShort : Bool := false
  deriving DecidableEq, Repr, Inhabited

/-- The first line of a request. -/
def Request.line (request : Request) : String := "POST " ++ request.target ++ " HTTP/1.1"

/-- The request for a batch. The type of the body is told behind all other headers. -/
def request (destination : Destination) (batch : List Json) (collector : Collector) : Request :=
  let own := match destination.credentials with
    | some (name, password) => [("authorization", credentialsText name password)]
    | none => []
  let headers :=
    own.filter (fun (name, _) => !collector.headers.any (·.1 == name)) ++ collector.headers ++
      [("content-type", "application/json")]
  let body := Http.frame headers (Json.array batch).text
  { target := String.ofList destination.url.target
    headers := body.headers
    body := body.text
    isCutShort := body.isCutShort }

/-- What comes of a request that is answered with a text, or not at all. A text that is no response
    is no answer, nor is anything one to a request that was cut short. -/
def judge (destination : Destination) (request : Request) (answer : Option String) :
    Except Error Unit :=
  match answer.bind Http.responseCode? with
  | some code =>
      if request.isCutShort then .error (.unanswered destination.url.toText)
      else if Http.isSuccess code then .ok ()
      else .error (.refused code)
  | none => .error (.unanswered destination.url.toText)

/-- Sends a batch, and is answered with a text or not at all. -/
def send (answer : Option String) (batch : List Json) (collector : Collector) :
    Except Error Unit := do
  let destination ← collector.destination
  judge destination (collector.request destination batch) answer

end Collector

end Stackwatch

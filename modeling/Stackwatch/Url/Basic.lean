import Stackwatch.Url.Host

/-!
# Addresses

An address names its scheme, a host, the number of a service on it, a path and a query. Reading an
address brings all parts into their usual form: case of scheme and host, the usual service of a
scheme, dots in the path, percent encoding. Addresses that are relative to another one cannot be
read.
-/

namespace Stackwatch

structure Url where
  scheme : List Char
  /-- Whether two slashes follow the scheme. -/
  hasAuthority : Bool
  /-- The name that stands in front of the host. -/
  user : List Char := []
  /-- The password behind the name. -/
  password : Option (List Char) := none
  /-- Empty if there is no host. -/
  host : List Char := []
  /-- Missing for the usual service of the scheme. -/
  service : Option Nat := none
  path : List Char
  query : Option (List Char) := none
  fragment : Option (List Char) := none
  deriving DecidableEq, Repr, Inhabited

namespace Url

/-- Schemes of web addresses, with their usual services. -/
def webSchemes : List (String × Nat) :=
  [("http", 80), ("https", 443), ("ws", 80), ("wss", 443), ("ftp", 21)]

def usualService? (scheme : List Char) : Option Nat := webSchemes.lookup (String.ofList scheme)

/-- Web addresses always have a host. -/
def isWeb (scheme : List Char) : Bool := (usualService? scheme).isSome

def isFile (scheme : List Char) : Bool := scheme == ['f', 'i', 'l', 'e']

/-- Web addresses and those of files, in which a backslash is a slash. -/
def isSpecial (scheme : List Char) : Bool := isWeb scheme || isFile scheme

def isSlash (special : Bool) (char : Char) : Bool := char == '/' || (special && char == '\\')

/-- Whether the authority or a segment of a path ends at a character. -/
def endsPart (special : Bool) (char : Char) : Bool :=
  isSlash special char || char == '?' || char == '#'

/-! ## Text -/

/-- Whether a name or a password stands in front of the host. -/
def hasUserInfo (url : Url) : Bool := !url.user.isEmpty || url.password.isSome

/-- Name and password, as they stand in front of the host. -/
def userInfo (url : Url) : List Char :=
  if url.hasUserInfo then
    url.user ++ (match url.password with
      | some password => ':' :: password
      | none => []) ++ ['@']
  else []

/-- The address without name and password. -/
def withoutUserInfo (url : Url) : Url := { url with user := [], password := none }

/-- Name and password in clear text. A password that is no text is left out; a name that is none
    cannot be told, and neither can the password behind it. -/
def credentials? (url : Url) : Option (String × Option String) := do
  let user ← decode? url.user
  let password := url.password.bind decode?
  if user.isEmpty && password.isNone then none
  else some (String.ofList user, password.map String.ofList)

/-- Path and query, as they are asked for. -/
def target (url : Url) : List Char :=
  url.path ++ (match url.query with
    | some query => '?' :: query
    | none => [])

/-- The address as a whole. -/
def toText (url : Url) : String :=
  let authority :=
    if url.hasAuthority then
      ['/', '/'] ++ url.userInfo ++ url.host ++
        (match url.service with
          | some service => ':' :: Nat.toDigits 10 service
          | none => [])
    else if ['/', '/'].isPrefixOf url.path then ['/', '.']
    else []
  let fragment := match url.fragment with
    | some fragment => '#' :: fragment
    | none => []
  String.ofList (url.scheme ++ ':' :: (authority ++ url.target ++ fragment))

/-! ## Reading -/

def isSchemeChar (char : Char) : Bool :=
  char.isAlphanum || char == '+' || char == '-' || char == '.'

/-- The scheme in small letters, and what follows the colon behind it. -/
def readScheme? (chars : List Char) : Option (List Char × List Char) :=
  let scheme := chars.takeWhile isSchemeChar
  match scheme, chars.dropWhile isSchemeChar with
  | first :: _, ':' :: rest => if first.isAlpha then some (scheme.map Char.toLower, rest) else none
  | _, _ => none

/-- Splits at the last at sign. -/
def splitUserInfo (authority : List Char) : List Char × List Char :=
  if authority.contains '@' then
    let host := (authority.reverse.takeWhile (· != '@')).reverse
    (authority.take (authority.length - host.length - 1), host)
  else
    ([], authority)

/-- Adds name and password with everything encoded that could be misread. -/
def withUserInfo (chars : List Char) (url : Url) : Url :=
  let password := (chars.dropWhile (· != ':')).drop 1
  { url with
    user := encode notInUserInfo (chars.takeWhile (· != ':'))
    password := if password.isEmpty then none else some (encode notInUserInfo password) }

/-- The host, and what follows it. A colon in brackets belongs to the host. -/
def splitHost (special : Bool) : (bracketed : Bool) → List Char → List Char × List Char
  | _, [] => ([], [])
  | bracketed, char :: rest =>
      if endsPart special char || (char == ':' && !bracketed) then ([], char :: rest)
      else
        let (host, behind) :=
          splitHost special (char == '[' || (bracketed && char != ']')) rest
        (char :: host, behind)

/-- The number of a service behind a colon, and what follows it; the usual one of the scheme is left
    out. -/
def readService? (scheme : List Char) : List Char → Option (Option Nat × List Char)
  | ':' :: chars => do
      let digits := chars.takeWhile Char.isDigit
      let rest := chars.dropWhile Char.isDigit
      let service ← digitsValue? 10 digits
      if 65535 < service || !(rest.head?.all (endsPart true)) then none
      else if digits.isEmpty || usualService? scheme = some service then some (none, rest)
      else some (some service, rest)
  | chars => some (none, chars)

/-- Whether a segment stands for the folder itself. -/
def isSingleDot (segment : List Char) : Bool :=
  ["." , "%2e"].contains (String.ofList (segment.map Char.toLower))

/-- Whether a segment stands for the folder above. -/
def isDoubleDot (segment : List Char) : Bool :=
  ["..", ".%2e", "%2e.", "%2e%2e"].contains (String.ofList (segment.map Char.toLower))

/-- Whether a segment names a drive: a letter with a colon, for which a bar may stand. -/
def isDrive : List Char → Bool
  | [letter, sign] => letter.isAlpha && (sign == ':' || sign == '|')
  | _ => false

/-- Goes to the folder above. There is none above a drive or the root. -/
def goUp : (above : List (List Char)) → List (List Char)
  | segment :: above => if isDrive segment then segment :: above else above
  | [] => []

/-- A segment as it is written below others; a drive in front of a file's path has a colon. -/
def written (file : Bool) (above : List (List Char)) (segment : List Char) : List Char :=
  if file && above.isEmpty && isDrive segment then segment.take 1 ++ [':'] else segment

/-- The segments of a path, with dots followed. -/
def followDots (file : Bool) : (segments above : List (List Char)) → List (List Char)
  | [], above => above.reverse
  | segment :: rest, above =>
      let folder (above : List (List Char)) := if rest.isEmpty then [] :: above else above
      if isDoubleDot segment then followDots file rest (folder (goUp above))
      else if isSingleDot segment then followDots file rest (folder above)
      else followDots file rest (written file above segment :: above)

/-- The segments between slashes. -/
def splitSegments (special : Bool) : List Char → List (List Char)
  | [] => [[]]
  | char :: rest =>
      if isSlash special char then [] :: splitSegments special rest
      else
        match splitSegments special rest with
        | segment :: others => (char :: segment) :: others
        | [] => [[char]]

/-- The segments of a path. The slash in front of the first one is not among the characters. -/
def readSegments (special file : Bool) (chars : List Char) : List (List Char) :=
  followDots file ((splitSegments special chars).map (encode notInPath)) []

/-- A path of segments. -/
def pathOf (segments : List (List Char)) : List Char := segments.flatMap ('/' :: ·)

/-- The characters without a slash in front. -/
def withoutSlash (special : Bool) : List Char → List Char
  | first :: rest => if isSlash special first then rest else first :: rest
  | [] => []

/-- Path, query and fragment as they stand. -/
def splitTarget (chars : List Char) : List Char × Option (List Char) × Option (List Char) :=
  let beforeFragment := chars.takeWhile (· != '#')
  let fragment := match chars.dropWhile (· != '#') with
    | _ :: rest => some rest
    | [] => none
  let query := match beforeFragment.dropWhile (· != '?') with
    | _ :: rest => some rest
    | [] => none
  (beforeFragment.takeWhile (· != '?'), query, fragment)

/-- Adds path, query and fragment. -/
def withTarget (readPath : List Char → List Char) (chars : List Char) (url : Url) : Url :=
  let (path, query, fragment) := splitTarget chars
  { url with
    path := readPath path
    query := query.map (encode (if isSpecial url.scheme then notInWebQuery else notInQuery))
    fragment := fragment.map (encode notInFragment) }

/-- A path behind an authority. Web addresses have one even if it is empty. -/
def pathBehindAuthority (special : Bool) (chars : List Char) : List Char :=
  if chars.isEmpty && !special then []
  else pathOf (readSegments special false (withoutSlash special chars))

/-- An address whose authority comes next. -/
def readAuthority? (scheme chars : List Char) : Option Url := do
  let special := isSpecial scheme
  let authority := chars.takeWhile fun char => !endsPart special char
  let rest := chars.dropWhile fun char => !endsPart special char
  let (user, hostAndService) := splitUserInfo authority
  let url := { scheme := scheme, hasAuthority := true, path := [] : Url }.withUserInfo user
  let (name, behind) := splitHost special false (hostAndService ++ rest)
  let host ← if isWeb scheme then webHost? name else plainHost? name
  let lacksHost := authority == ['@'] && !rest.isEmpty
  if host.isEmpty && (url.hasUserInfo || behind.head? == some ':' || lacksHost) then none
  else
    let (service, rest) ← readService? scheme behind
    some (withTarget (pathBehindAuthority special) rest
      { url with host := host, service := service })

/-- The path of a file without empty segments in front. -/
def filePath (segments : List (List Char)) : List Char :=
  match segments.dropWhile List.isEmpty with
  | [] => ['/']
  | segments => pathOf segments

/-- The address of a file whose path comes next. -/
def fileWith (url : Url) (chars : List Char) : Url :=
  withTarget (fun path => filePath (readSegments true true path)) chars url

/-- The address of a file on a host. Where its path begins with a drive the host is left out. -/
def fileOn (url : Url) (host chars : List Char) : Url :=
  let first := (readSegments true true (splitTarget chars).1).head?
  fileWith (if first.any isDrive then url else { url with host := host }) chars

/-- The address of a file; on this computer if no host is given. What stands in the place of the
    host may be a drive. -/
def readFile? (scheme chars : List Char) : Option Url := do
  let here := { scheme := scheme, hasAuthority := true, path := [] : Url }
  let slashes := (chars.takeWhile (isSlash true)).length
  if slashes < 2 then some (fileWith here (withoutSlash true chars))
  else
    let chars := chars.drop 2
    let name := chars.takeWhile fun char => !endsPart true char
    let rest := chars.dropWhile fun char => !endsPart true char
    if isDrive name then some (fileWith here chars)
    else
      let host ← if name.isEmpty then some [] else webHost? name
      if host.isEmpty || host == "localhost".toList then some (fileWith here rest)
      else some (fileOn here host (withoutSlash true rest))

/-- An address with any other scheme. -/
def readPlain? (scheme : List Char) : List Char → Option Url
  | '/' :: '/' :: rest => readAuthority? scheme rest
  | '/' :: rest =>
      some (withTarget (fun path => pathOf (readSegments false false path)) rest
        { scheme := scheme, hasAuthority := false, path := [] })
  | chars =>
      some (withTarget (encode isControl) chars
        { scheme := scheme, hasAuthority := false, path := [] })

def isIgnored (char : Char) : Bool := char == '\t' || char == '\n' || char == '\r'

/-- Controls and blanks around an address are left out. -/
def trim (chars : List Char) : List Char :=
  let strip (chars : List Char) : List Char := chars.dropWhile fun char => char.toNat ≤ 0x20
  (strip (strip chars).reverse).reverse

/-- Reads an address. -/
def read? (text : String) : Option Url := do
  let chars := (trim text.toList).filter fun char => !isIgnored char
  let (scheme, rest) ← readScheme? chars
  if isFile scheme then readFile? scheme rest
  else if isWeb scheme then readAuthority? scheme (rest.dropWhile (isSlash true))
  else readPlain? scheme rest

end Url

end Stackwatch

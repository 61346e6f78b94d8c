import Stackwatch.Command.Pattern
import Stackwatch.Text.Blank

/-!
# Which messages are shown

A filter is a list of directives. Each gives the least important level that is shown of the messages
from one place, or of all; it may be limited to messages with certain fields, or to those within an
activity. The most specific directive that is about a message decides; a message to which none
applies is not shown.
-/

namespace Stackwatch.Command

/-- How important a message has to be. -/
inductive LogLevel where
  | off
  | error
  | warning
  | info
  | debug
  | trace
  deriving DecidableEq, Repr, Inhabited

namespace LogLevel

def all : List LogLevel := [.off, .error, .warning, .info, .debug, .trace]

def name : LogLevel → String
  | .off => "off"
  | .error => "error"
  | .warning => "warn"
  | .info => "info"
  | .debug => "debug"
  | .trace => "trace"

def rank : LogLevel → Nat
  | .off => 0
  | .error => 1
  | .warning => 2
  | .info => 3
  | .debug => 4
  | .trace => 5

/-- The value of decimal digits, in front of which a plus sign may stand. -/
def readRank? (chars : List Char) : Option Nat :=
  let digits := match chars with
    | '+' :: rest => rest
    | chars => chars
  if digits.isEmpty || !digits.all Char.isDigit then none
  else some (digits.foldl (fun value digit => 10 * value + (digit.toNat - '0'.toNat)) 0)

/-- Reads a level by its name or its rank; case does not count. -/
def read? (chars : List Char) : Option LogLevel :=
  let lower := String.ofList (chars.map Char.toLower)
  match readRank? chars with
  | some value => all.find? (·.rank == value)
  | none => all.find? (·.name == lower)

end LogLevel

/-- Shows messages down to a level. -/
structure Directive where
  /-- What the place begins with from which messages come; missing for all places. -/
  place : Option String := none
  /-- The activity within which messages are sent. -/
  activity : Option String := none
  /-- Fields of the messages, with their values if these count. -/
  fields : List (String × Option String) := []
  level : LogLevel := .trace
  deriving DecidableEq, Repr, Inhabited

/-- Why a filter does not come about. -/
inductive FilterFault where
  | unreadable
  /-- The text would be cut within a character. -/
  | broken
  deriving DecidableEq, Repr, Inhabited

namespace Directive

/-! ## Reading -/

/-- The text without its first bytes. -/
def dropBytes : (count : Nat) → List Char → Except FilterFault (List Char)
  | 0, chars => .ok chars
  | count + 1, char :: rest =>
      if char.utf8Size ≤ count + 1 then dropBytes (count + 1 - char.utf8Size) rest
      else .error .broken
  | _ + 1, [] => .error .broken
termination_by _ chars => chars.length

/-- The first bytes of a text. -/
def takeBytes : (count : Nat) → List Char → Except FilterFault (List Char)
  | 0, _ => .ok []
  | count + 1, char :: rest =>
      if char.utf8Size ≤ count + 1 then do
        .ok (char :: (← takeBytes (count + 1 - char.utf8Size) rest))
      else .error .broken
  | _ + 1, [] => .error .broken
termination_by _ chars => chars.length

/-- The text between two offsets in bytes. -/
def slice (text : List Char) (first last : Nat) : Except FilterFault (List Char) := do
  takeBytes (last - first) (← dropBytes first text)

/-- What is being read, and at which byte it began. -/
inductive Part where
  | start
  | levelOrPlace (since : Nat)
  | activity (since : Nat)
  | field (since : Nat)
  /-- Behind a field. -/
  | fieldEnd
  /-- Behind the brackets. -/
  | bracketEnd
  | level (since : Nat)
  deriving DecidableEq, Repr, Inhabited

/-- Whether a level or a place may begin with a character. -/
def isFirstChar (char : Char) : Bool := "-:_".contains char || Text.isLetterOrNumber char

/-- A field, behind whose equals sign its value may stand. -/
def readField (chars : List Char) : String × Option String :=
  let name := String.ofList (chars.takeWhile (· != '='))
  match chars.dropWhile (· != '=') with
  | _ :: rest => (name, some (String.ofList (rest.takeWhile (· != '='))))
  | [] => (name, none)

/-- Whether a text is a number in digits, which may have a point and an exponent. -/
def isNumeral (chars : List Char) : Bool :=
  let mantissa := chars.takeWhile fun char => char.isDigit || char == '.'
  let digits := mantissa.filter Char.isDigit
  let exponent := match chars.drop mantissa.length with
    | [] => ['0']
    | sign :: rest => if sign.toLower != 'e' then [] else match rest with
      | '+' :: rest => rest
      | '-' :: rest => rest
      | rest => rest
  !digits.isEmpty && mantissa.length ≤ digits.length + 1 && !exponent.isEmpty &&
    exponent.all Char.isDigit

/-- Whether a text is a number behind a plus sign. Words stand for those that have no digits. -/
def isPositive (chars : List Char) : Bool :=
  match chars with
  | '+' :: rest =>
      isNumeral rest ||
        ["inf", "infinity", "nan"].contains (String.ofList (rest.map Char.toLower))
  | _ => false

/-- Adds a field, which must not be empty. Its value is a number or a pattern. -/
def withField (chars : List Char) (directive : Directive) : Except FilterFault Directive :=
  let field := readField chars
  let isValue (value : String) : Bool := isPositive value.toList || isPattern value.toList
  if chars.isEmpty || !field.2.all isValue then .error .unreadable
  else .ok { directive with fields := directive.fields ++ [field] }

/-- Sets the level; without one everything is shown. -/
def withLevel (chars : List Char) (directive : Directive) : Except FilterFault Directive :=
  if chars.isEmpty then .ok { directive with level := .trace }
  else match LogLevel.read? chars with
    | some level => .ok { directive with level := level }
    | none => .error .unreadable

/-- Sets what is a level if it can be read as one, and else a place. -/
def withLevelOrPlace (chars : List Char) (directive : Directive) : Directive :=
  match LogLevel.read? chars with
  | some level => { directive with level := level, place := none }
  | none => { directive with level := .trace, place := some (String.ofList chars) }

/-- Goes on with the next character, which stands at an offset. Parts are cut out of the whole
    text. -/
def step (text : List Char) (offset : Nat) (char : Char) :
    Part × Directive → Except FilterFault (Part × Directive)
  | (.start, directive) =>
      if char = '[' then .ok (.activity (offset + 1), directive)
      else if isFirstChar char then .ok (.levelOrPlace offset, directive)
      else .error .unreadable
  | (.levelOrPlace since, directive) =>
      if char = '=' || char = '[' then do
        let place := String.ofList (← slice text since offset)
        let next : Part := if char = '=' then .level (offset + 1) else .activity (offset + 1)
        .ok (next, { directive with place := some place })
      else .ok (.levelOrPlace since, directive)
  | (.activity since, directive) =>
      if char = ']' || char = '\x7b' then do
        let name := String.ofList (← slice text since offset)
        if char = ']' then .ok (.bracketEnd, { directive with activity := some name })
        else
          let activity := if name.isEmpty then none else some name
          .ok (.field (offset + 1), { directive with activity := activity })
      else .ok (.activity since, directive)
  | (.field since, directive) =>
      if char = '\x7d' then do
        .ok (.fieldEnd, ← directive.withField (← slice text since offset))
      else .ok (.field since, directive)
  | (.fieldEnd, directive) =>
      if char = ']' then .ok (.bracketEnd, directive) else .error .unreadable
  | (.bracketEnd, directive) =>
      if char = '=' then .ok (.level (offset + 1), directive) else .error .unreadable
  | (.level since, directive) => .ok (.level since, directive)

/-- Nothing more comes. -/
def finish (text : List Char) : Part × Directive → Except FilterFault Directive
  | (.levelOrPlace since, directive) => do
      .ok (directive.withLevelOrPlace (← dropBytes since text))
  | (.level since, directive) => do directive.withLevel (← dropBytes since text)
  | (.bracketEnd, directive) => .ok directive
  | _ => .error .unreadable

/-- The text without blanks around it. -/
def trimmed (text : List Char) : List Char :=
  ((text.dropWhile Text.isBlank).reverse.dropWhile Text.isBlank).reverse

/-- Reads a directive. Blanks around it do not count, but offsets do as if there were none in
    front. -/
def read (text : List Char) : Except FilterFault Directive := do
  let (_, state) ← (trimmed text).foldlM
    (fun (offset, state) char => do
      .ok (offset + char.utf8Size, ← step text offset char state)) (0, (.start, {}))
  finish text state

/-! ## Use -/

/-- Whether the directive is about messages within an activity, or about values of fields. Nothing
    here happens within an activity. -/
def isConditional (directive : Directive) : Bool :=
  directive.activity.isSome || directive.fields.any (·.2.isSome)

def fieldNames (directive : Directive) : List String := directive.fields.map (·.1)

/-- Whether the directive is about messages from a place with certain fields. -/
def isAbout (place : String) (fields : List String) (directive : Directive) : Bool :=
  !directive.isConditional &&
    (directive.place.all fun start => start.toList.isPrefixOf place.toList) &&
    directive.fieldNames.all fields.contains

/-- Which of two lists comes first. -/
def compareLists (first second : List String) : Ordering :=
  match first, second with
  | [], [] => .eq
  | [], _ :: _ => .lt
  | _ :: _, [] => .gt
  | one :: first, other :: second => (compare one other).then (compareLists first second)

/-- How specific directives are: what counts is first the length of the place, then the number of
    fields; the rest only tells different ones apart. -/
def compareSpecific (first second : Directive) : Ordering :=
  let size (directive : Directive) : Nat := match directive.place with
    | some place => place.utf8ByteSize + 1
    | none => 0
  ((compare (size first) (size second)).then
      (compare first.fields.length second.fields.length)).then
    ((compare (first.place.getD "") (second.place.getD "")).then
      (compareLists first.fieldNames second.fieldNames))

end Directive

abbrev LogFilter := List Directive

namespace LogFilter

/-- What is shown if nothing else is asked for. -/
def standard : LogFilter := [{ level := .info }]

/-- Reads directives between commas. -/
def read (text : String) : Except FilterFault LogFilter :=
  let parts := (text.splitOn ",").filter fun part => !part.isEmpty
  if parts.isEmpty then .ok [{ level := .error }]
  else parts.mapM fun part => Directive.read part.toList

/-- The filter that is asked for, or the standard one if that cannot be read; none if the program
    breaks down over it. -/
def choose? (wanted : Option String) : Option LogFilter :=
  match wanted.map read with
  | some (.ok filter) => some filter
  | some (.error .broken) => none
  | _ => some standard

/-- The directive that decides about a message; of two equally specific ones the later. -/
def deciding? (place : String) (fields : List String) (filter : LogFilter) : Option Directive :=
  (filter.filter (Directive.isAbout place fields)).foldl (fun best directive =>
    match best with
    | some other =>
        if Directive.compareSpecific directive other == .lt then best else some directive
    | none => some directive) none

/-- Whether messages of a level with certain fields are shown that come from a place. -/
def shows (place : String) (fields : List String) (level : LogLevel) (filter : LogFilter) : Bool :=
  match filter.deciding? place fields with
  | some directive => level.rank ≤ directive.level.rank
  | none => false

end LogFilter

end Stackwatch.Command

import Stackwatch.Text.Letters

/-!
# Patterns for values of fields

A pattern stands for a set of texts. It has sets of characters in square brackets, groups in round
ones, choices and repetitions; a backslash takes the meaning from a character or gives it one. Here
nothing is compared with patterns. What counts is whether a text is one, for the text in which it
stands cannot be read otherwise.

A pattern is the value of a field, in which a curly bracket cannot be closed; so there is none that
opens. There are no classes of characters with names of their own, and case cannot be ignored.
-/

namespace Stackwatch.Command

/-- Where a character stands that is written in a roundabout way. -/
inductive PatternPlace where
  | outside
  /-- In a set. -/
  | member
  /-- In a set, as the last of a range. -/
  | last (first : Char)
  deriving DecidableEq, Repr, Inhabited

/-- What the next character of a pattern is part of. -/
inductive PatternPart where
  /-- An item; whether what stands in front of it can be repeated. -/
  | item (repeatable : Bool)
  /-- Behind the bracket that opens a group. -/
  | group
  /-- Behind the question mark that follows it. -/
  | groupKind
  /-- Behind the letter that may stand in front of a name. -/
  | groupLetter
  /-- The name of a group, the last character first. -/
  | groupName (name : List Char)
  /-- Flags, and whether a minus sign was among them, at the end or at all. -/
  | flags (given : List Char) (minusAtEnd minus : Bool)
  /-- Behind the bracket that opens a set. -/
  | setStart
  /-- Behind the sign that turns a set around. -/
  | setTurned
  /-- Behind dashes in front of a set. -/
  | setDashes
  /-- A member of a set. -/
  | member
  /-- Behind a dash in the place of a member. -/
  | dash
  /-- Behind a member with which a range may begin. -/
  | behindMember (first : Char)
  /-- Behind the dash of a range. -/
  | range (first : Char)
  /-- Behind a backslash. -/
  | escape (place : PatternPlace)
  /-- Hexadecimal digits of a character. -/
  | code (place : PatternPlace) (left value : Nat)
  deriving DecidableEq, Repr, Inhabited

/-- A pattern, read up to some character. -/
structure PatternReading where
  part : PatternPart := .item false
  /-- How many groups are open. -/
  groups : Nat := 0
  /-- How many sets are open. -/
  sets : Nat := 0
  /-- The names of groups. -/
  names : List (List Char) := []
  deriving Inhabited

namespace PatternReading

def goTo (part : PatternPart) (reading : PatternReading) : PatternReading :=
  { reading with part := part }

/-! ## Items and groups -/

def stepItem (repeatable : Bool) (char : Char) (reading : PatternReading) :
    Option PatternReading :=
  if char = '(' then some (reading.goTo .group)
  else if char = ')' then
    if reading.groups = 0 then none
    else some { reading with part := .item true, groups := reading.groups - 1 }
  else if char = '|' then some (reading.goTo (.item false))
  else if char = '[' then some { reading with part := .setStart, sets := 1 }
  else if char = '\\' then some (reading.goTo (.escape .outside))
  else if char = '\x7b' then none
  else if "?*+".contains char then if repeatable then some (reading.goTo (.item true)) else none
  else some (reading.goTo (.item true))

/-- A group that has been opened. -/
def opened (reading : PatternReading) : PatternReading :=
  { reading with part := .item false, groups := reading.groups + 1 }

/-- Whether the name of a group may begin with a character. -/
def isNameStart (char : Char) : Bool :=
  char == '_' || (Text.isLetterOrNumber char && !char.isDigit)

/-- Whether the name of a group may go on with a character. -/
def isNameChar (char : Char) : Bool := "_.[]".contains char || Text.isLetterOrNumber char

def stepName (name : List Char) (char : Char) (reading : PatternReading) :
    Option PatternReading :=
  if char = '>' then
    if name.isEmpty || reading.names.contains name then none
    else some { reading.opened with names := name :: reading.names }
  else if if name.isEmpty then isNameStart char else isNameChar char then
    some (reading.goTo (.groupName (char :: name)))
  else none

/-- Flags other than that for case. -/
def otherFlags : List Char := ['m', 's', 'U', 'u', 'R', 'x']

def stepFlags (given : List Char) (minusAtEnd minus : Bool) (char : Char)
    (reading : PatternReading) : Option PatternReading :=
  if char = ':' then if minusAtEnd then none else some reading.opened
  else if char = ')' then
    if minusAtEnd || given.isEmpty then none else some (reading.goTo (.item false))
  else if char = '-' then if minus then none else some (reading.goTo (.flags given true true))
  else if given.contains char then none
  else if otherFlags.contains char || (char == 'i' && minus) then
    some (reading.goTo (.flags (char :: given) false minus))
  else none

/-! ## Sets -/

/-- The set that was opened last is closed. -/
def closeSet (reading : PatternReading) : PatternReading :=
  { reading with
    part := if reading.sets ≤ 1 then .item true else .member
    sets := reading.sets - 1 }

def stepMember (char : Char) (reading : PatternReading) : PatternReading :=
  if char = ']' then reading.closeSet
  else if char = '[' then { reading with part := .setStart, sets := reading.sets + 1 }
  else if char = '\\' then reading.goTo (.escape .member)
  else if char = '-' then reading.goTo .dash
  else reading.goTo (.behindMember char)

/-- A bracket that would close a set at once is a member of it. -/
def stepSetStart (char : Char) (reading : PatternReading) : PatternReading :=
  if char = '-' then reading.goTo .setDashes
  else if char = ']' then reading.goTo .member
  else reading.stepMember char

/-- Two of some signs part a set from the next one that counts for it. -/
def stepBehind (first char : Char) (reading : PatternReading) : PatternReading :=
  if char = '-' then reading.goTo (.range first)
  else if char = first && "&~".contains char then reading.goTo .member
  else reading.stepMember char

/-- A character in its place, if it can stand there. -/
def put (place : PatternPlace) (char : Char) (reading : PatternReading) : Option PatternReading :=
  match place with
  | .outside => some (reading.goTo (.item true))
  | .member => some (reading.goTo (.behindMember char))
  | .last first => if first ≤ char then some (reading.goTo .member) else none

def stepRange (first char : Char) (reading : PatternReading) : Option PatternReading :=
  if char = ']' then some reading.closeSet
  else if char = '-' then some (reading.goTo .member)
  else if char = '\\' then some (reading.goTo (.escape (.last first)))
  else reading.put (.last first) char

/-! ## Backslashes -/

/-- Letters that stand for controls. -/
def controls : List (Char × Char) :=
  [('a', '\x07'), ('f', '\x0c'), ('t', '\t'), ('n', '\n'), ('r', '\r'), ('v', '\x0b')]

/-- Letters behind which the code of a character follows, with the number of its digits. -/
def codeLengths : List (Char × Nat) := [('x', 2), ('u', 4), ('U', 8)]

/-- Whether a backslash takes the meaning from a character. -/
def isSign (char : Char) : Bool :=
  char.toNat < 0x80 && !char.isAlphanum && char != '<' && char != '>'

def stepEscape (place : PatternPlace) (char : Char) (reading : PatternReading) :
    Option PatternReading :=
  match controls.lookup char, codeLengths.lookup char with
  | some control, _ => reading.put place control
  | none, some length => some (reading.goTo (.code place length 0))
  | none, none =>
      if isSign char then reading.put place char
      else if (char == 'A' || char == 'z') && place == .outside then
        some (reading.goTo (.item true))
      else none

def hexValue? (char : Char) : Option Nat :=
  "0123456789abcdef".toList.idxOf? char.toLower

def stepCode (place : PatternPlace) (left value : Nat) (char : Char) (reading : PatternReading) :
    Option PatternReading := do
  let value := 16 * value + (← hexValue? char)
  if 1 < left then some (reading.goTo (.code place (left - 1) value))
  else if value.isValidChar then reading.put place (Char.ofNat value)
  else none

/-! ## Reading -/

def step (char : Char) (reading : PatternReading) : Option PatternReading :=
  match reading.part with
  | .item repeatable => reading.stepItem repeatable char
  | .group =>
      if char = '?' then some (reading.goTo .groupKind) else reading.opened.stepItem false char
  | .groupKind =>
      if char = 'P' then some (reading.goTo .groupLetter)
      else if char = '<' then some (reading.goTo (.groupName []))
      else reading.stepFlags [] false false char
  | .groupLetter => if char = '<' then some (reading.goTo (.groupName [])) else none
  | .groupName name => reading.stepName name char
  | .flags given minusAtEnd minus => reading.stepFlags given minusAtEnd minus char
  | .setStart =>
      some (if char = '^' then reading.goTo .setTurned else reading.stepSetStart char)
  | .setTurned => some (reading.stepSetStart char)
  | .setDashes => some (if char = '-' then reading else reading.stepMember char)
  | .member => some (reading.stepMember char)
  | .dash => some (if char = '-' then reading.goTo .member else reading.stepMember char)
  | .behindMember first => some (reading.stepBehind first char)
  | .range first => reading.stepRange first char
  | .escape place => reading.stepEscape place char
  | .code place left value => reading.stepCode place left value char

/-- Whether nothing is open. -/
def isComplete (reading : PatternReading) : Bool :=
  match reading.part with
  | .item _ => reading.groups = 0
  | _ => false

end PatternReading

/-- Whether a text is a pattern. -/
def isPattern (text : List Char) : Bool :=
  ((text.foldlM (fun (reading : PatternReading) char => reading.step char) {}).map
    PatternReading.isComplete).getD false

end Stackwatch.Command

/-!
# What is seen of a text

A text may hold sequences with which a terminal is controlled. They begin with an escape character
and are not seen, nor are controls other than those that count as space. A sequence that is not
complete swallows the rest of the text.
-/

namespace Stackwatch.Command.Terminal

/-- Where in a sequence a character stands. -/
inductive Phase where
  /-- Outside of sequences. -/
  | plain
  /-- Behind the escape character. -/
  | escape
  /-- Behind further signs of a short sequence. -/
  | tail
  /-- Within the parameters of a command. -/
  | command
  /-- Within a text for the system that shows the terminal. -/
  | title
  /-- Within the parameters in front of a text for a device. -/
  | device
  /-- Within a text of another kind. -/
  | message
  deriving DecidableEq, Repr, Inhabited

/-- Whether a control counts as space. -/
def isSpace (char : Char) : Bool :=
  char == '\t' || char == '\n' || char == '\x0c' || char == '\r'

def isControl (char : Char) : Bool := char.toNat < 0x20

/-- Whether a code of ASCII lies between two others. -/
def isBetween (first last : Nat) (char : Char) : Bool := first ≤ char.toNat && char.toNat ≤ last

/-- Whether the sign that ends a message is one of the bytes of a character. -/
def hasEndByte (char : Char) : Bool := (String.singleton char).toUTF8.toList.contains 0x9c

/-- The phase behind the character that follows the escape character. -/
def afterEscape (char : Char) : Phase :=
  if isBetween 0x20 0x2f char then .tail
  else if char == '[' then .command
  else if char == ']' then .title
  else if char == 'P' then .device
  else if char == 'X' || char == '^' || char == '_' then .message
  else if isBetween 0x30 0x7e char then .plain
  else .escape

/-- The phase behind a character that is not seen, if it neither begins a sequence nor breaks one
    off. -/
def next (char : Char) : Phase → Phase
  | .plain => .plain
  | .escape => afterEscape char
  | .tail => if isBetween 0x30 0x7e char then .plain else .tail
  | .command => if isBetween 0x40 0x7e char then .plain else .command
  | .title => if char == '\x07' then .plain else .title
  | .device => if isBetween 0x40 0x7e char then .message else .device
  | .message => if hasEndByte char then .plain else .message

/-- Whether controls within the sequence have their usual effect. -/
def Phase.admitsControls : Phase → Bool
  | .escape => true
  | .tail => true
  | .command => true
  | _ => false

/-- Whether a character is seen. Spaces within a sequence end it. -/
def isSeen (char : Char) (phase : Phase) : Bool :=
  match phase with
  | .plain => isSpace char || !(isControl char || char == '\x7f')
  | phase => phase.admitsControls && isSpace char

/-- The characters that are seen from a phase on. -/
def seenFrom : Phase → List Char → List Char
  | _, [] => []
  | phase, char :: rest =>
      if char == '\x1b' then seenFrom .escape rest
      else if char == '\x18' || char == '\x1a' then seenFrom .plain rest
      else if isSeen char phase then char :: seenFrom .plain rest
      else seenFrom (next char phase) rest

/-- What is seen of a text. -/
def seen (text : String) : String := String.ofList (seenFrom .plain text.toList)

end Stackwatch.Command.Terminal

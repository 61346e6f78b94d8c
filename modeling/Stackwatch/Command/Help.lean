import Stackwatch.Command.Arguments
import Stackwatch.Command.Terminal

/-!
# Help and refusals in words

Help lists the switches in two columns. A refusal says what is wrong, what might have been meant and
how the command is to be called. Of the arguments it shows what would be seen on a terminal.
-/

namespace Stackwatch.Command

def about : String := "Simple program to test the profiler"

/-- What help says about a switch. -/
def Switch.about : Switch → String
  | .outputDir => "Directory the profiles are written to"
  | .url => "Collector endpoint the profiles are POSTed to"
  | .duration => ""
  | .reportInterval => "[default: 2m]"
  | .flushInterval => "[default: 5s]"
  | .workerThreads => ""
  | .includeProfilerFrames => "Keep the profiler's own frames in the call trees"
  | .help => "Print help"

/-- The switch with its short name, if it has one. -/
def Switch.column : Switch → String
  | .help => "  -h, " ++ Switch.help.shown
  | switch => "      " ++ switch.shown

def columnWidth : Nat :=
  (Switch.all.map fun switch => switch.column.length).foldl max 0

def helpLine (switch : Switch) : String :=
  let column := switch.column
  column ++ String.ofList (List.replicate (columnWidth - column.length + 2) ' ') ++ switch.about

def helpText : String :=
  about ++ "\n\nUsage: " ++ Usage.general.text ++ "\n\nOptions:\n" ++
    String.join (Switch.all.map fun switch => helpLine switch ++ "\n")

namespace Refusal

/-- What is wrong. -/
def message : Refusal → String
  | .help => ""
  | .unknown argument _ _ => "unexpected argument '" ++ Terminal.seen argument ++ "' found"
  | .missingValue switch =>
      "a value is required for '" ++ switch.shown ++ "' but none was supplied"
  | .invalidValue switch value reason =>
      "invalid value '" ++ Terminal.seen value ++ "' for '" ++ switch.shown ++ "': " ++ reason
  | .repeated switch => "the argument '" ++ switch.shown ++ "' cannot be used multiple times"
  | .surplusValue switch value _ =>
      "unexpected value '" ++ Terminal.seen value ++ "' for '" ++ switch.shown ++
        "' found; no more were expected"
  | .missingDestination _ =>
      "the following required arguments were not provided:\n  " ++
        choice (Switch.all.filter Switch.isDestination)
  | .broken => ""

/-- What might have been meant. -/
def tip? : Refusal → Option String
  | .unknown _ (some similar) _ => some ("a similar argument exists: '--" ++ similar.name ++ "'")
  | _ => none

def usage? : Refusal → Option Usage
  | .unknown _ _ usage => some usage
  | .repeated _ => some .general
  | .surplusValue _ _ usage => some usage
  | .missingDestination usage => some usage
  | _ => none

/-- The refusal in full. -/
def text (refusal : Refusal) : String :=
  "error: " ++ refusal.message ++ "\n\n" ++
    (match refusal.tip? with
      | some tip => "  tip: " ++ tip ++ "\n\n"
      | none => "") ++
    (match refusal.usage? with
      | some usage => "Usage: " ++ usage.text ++ "\n\n"
      | none => "") ++
    "For more information, try '--help'.\n"

end Refusal

end Stackwatch.Command

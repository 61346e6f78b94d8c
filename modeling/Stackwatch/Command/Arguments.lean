import Stackwatch.Command.Interval
import Stackwatch.Command.Resemblance

/-!
# Arguments of the command

The command takes switches by their long names, with values behind an equals sign or as the next
argument. A value is checked when the next switch comes, or at the end. An argument that is not
known ends the reading at once, whatever is wrong with the value before it.
-/

namespace Stackwatch.Command

/-- What can be set on the command line, in the order in which help tells of it. -/
inductive Switch where
  | outputDir
  | url
  | duration
  | reportInterval
  | flushInterval
  | workerThreads
  | includeProfilerFrames
  | help
  deriving DecidableEq, Repr, Inhabited

namespace Switch

def all : List Switch :=
  [.outputDir, .url, .duration, .reportInterval, .flushInterval, .workerThreads,
    .includeProfilerFrames, .help]

def name : Switch → String
  | .outputDir => "output-dir"
  | .url => "url"
  | .duration => "duration"
  | .reportInterval => "report-interval"
  | .flushInterval => "flush-interval"
  | .workerThreads => "worker-threads"
  | .includeProfilerFrames => "include-profiler-frames"
  | .help => "help"

/-- What stands for the value of a switch that takes one. -/
def placeholder? : Switch → Option String
  | .outputDir => some "OUTPUT_DIR"
  | .url => some "URL"
  | .duration => some "DURATION"
  | .reportInterval => some "REPORT_INTERVAL"
  | .flushInterval => some "FLUSH_INTERVAL"
  | .workerThreads => some "WORKER_THREADS"
  | .includeProfilerFrames => none
  | .help => none

/-- The switch as usage texts show it. -/
def shown (switch : Switch) : String :=
  "--" ++ switch.name ++
    (match switch.placeholder? with
      | some placeholder => " <" ++ placeholder ++ ">"
      | none => "")

def ofName? (name : String) : Option Switch := all.find? (·.name == name)

/-- Whether the switch says where profiles go; one such switch is needed. -/
def isDestination : Switch → Bool
  | .outputDir => true
  | .url => true
  | _ => false

/-- All but the one that asks for help. -/
def settings : List Switch := all.filter (· != .help)

end Switch

/-! ## Usage -/

/-- How the command is to be called. -/
inductive Usage where
  | general
  /-- With these switches, or, if everything counts, with any of the settings. -/
  | naming (switches : List Switch) (everything : Bool)
  deriving DecidableEq, Repr, Inhabited

/-- A choice among switches. -/
def choice (switches : List Switch) : String :=
  "<" ++ String.intercalate "|" (switches.map Switch.shown) ++ ">"

def programName : String := "simple"

def Usage.text (usage : Usage) : String :=
  let destinations := choice (Switch.all.filter Switch.isDestination)
  let parts := match usage with
    | .general => ["[OPTIONS]", destinations]
    | .naming switches false =>
        (switches.filter fun switch => !switch.isDestination).map Switch.shown ++ [destinations]
    | .naming switches true =>
        (switches.filter (· == .help)).map Switch.shown ++
          [destinations, choice Switch.settings]
  String.intercalate " " (programName :: parts)

/-! ## Values -/

structure Arguments where
  outputDir : Option String := none
  url : Option String := none
  duration : Option Duration := none
  reportInterval : Duration := Duration.ofSeconds 120
  flushInterval : Duration := Duration.ofSeconds 5
  workerThreads : Option Nat := none
  includeProfilerFrames : Bool := false
  deriving DecidableEq, Repr, Inhabited

/-- Why a value cannot be read. -/
inductive ValueFault where
  | invalid (reason : String)
  /-- The reader breaks off. -/
  | broken
  deriving DecidableEq, Repr, Inhabited

def ValueFault.ofInterval : IntervalError → ValueFault
  | .broken => .broken
  | error => .invalid error.message

/-- Appends a digit to a number. -/
def appendDigit (number : Nat) (digit : Char) : Except ValueFault Nat :=
  let number := number * 10 + digitValue digit
  if !digit.isDigit then .error (.invalid "invalid digit found in string")
  else if number < Nat.pow 2 64 then .ok number
  else .error (.invalid "number too large to fit in target type")

/-- The number of decimal digits, in front of which a plus sign may stand. -/
def readCount (text : String) : Except ValueFault Nat :=
  let digits := match text.toList with
    | '+' :: rest => if rest.isEmpty then ['+'] else rest
    | chars => chars
  if text.isEmpty then .error (.invalid "cannot parse integer from empty string")
  else digits.foldlM appendDigit 0

/-- Sets what a switch stands for. -/
def Arguments.set (switch : Switch) (value : String) (arguments : Arguments) :
    Except ValueFault Arguments :=
  let interval := (readInterval value).mapError ValueFault.ofInterval
  match switch with
  | .outputDir => .ok { arguments with outputDir := some value }
  | .url => .ok { arguments with url := some value }
  | .duration => interval.map fun duration => { arguments with duration := some duration }
  | .reportInterval => interval.map fun duration => { arguments with reportInterval := duration }
  | .flushInterval => interval.map fun duration => { arguments with flushInterval := duration }
  | .workerThreads =>
      (readCount value).map fun count => { arguments with workerThreads := some count }
  | .includeProfilerFrames => .ok { arguments with includeProfilerFrames := true }
  | .help => .ok arguments

/-! ## Reading -/

/-- Why the arguments are not those of a run. -/
inductive Refusal where
  /-- Help was asked for. -/
  | help
  | unknown (argument : String) (similar : Option Switch) (usage : Usage)
  | missingValue (switch : Switch)
  | invalidValue (switch : Switch) (value reason : String)
  | repeated (switch : Switch)
  /-- A value for a switch that takes none. -/
  | surplusValue (switch : Switch) (value : String) (usage : Usage)
  /-- There is no destination. -/
  | missingDestination (usage : Usage)
  /-- The reader breaks off. -/
  | broken
  deriving DecidableEq, Repr, Inhabited

/-- What has been read so far. -/
structure Reading where
  arguments : Arguments := {}
  /-- The switches that were set, in their order. -/
  given : List Switch := []
  /-- Whether there was any switch at all. -/
  anyGiven : Bool := false
  /-- The last switch that takes a value, whose value may be still to come. -/
  pending : Option (Switch × Option String) := none
  /-- Whether no more switches are expected. -/
  switchesOver : Bool := false
  deriving Inhabited

namespace Reading

/-- Sets a switch. What is wrong with it comes together with the reading as it is then. -/
def store (switch : Switch) (value : String) (reading : Reading) : Reading × Option Refusal :=
  if reading.given.contains switch then
    ({ reading with given := reading.given.erase switch }, some (.repeated switch))
  else
    let reading := { reading with given := reading.given ++ [switch], anyGiven := true }
    match reading.arguments.set switch value with
    | .ok arguments => ({ reading with arguments := arguments }, none)
    | .error (.invalid reason) => (reading, some (.invalidValue switch value reason))
    | .error .broken => (reading, some .broken)

/-- Sets the switch whose value was still to be checked. -/
def settle (reading : Reading) : Reading × Option Refusal :=
  match reading.pending with
  | none => (reading, none)
  | some (switch, none) => ({ reading with pending := none }, some (.missingValue switch))
  | some (switch, some value) => { reading with pending := none }.store switch value

/-- A reading with which nothing is wrong. -/
def sound : Reading × Option Refusal → Except Refusal Reading
  | (reading, none) => .ok reading
  | (_, some refusal) => .error refusal

/-- A usage that names switches. -/
def usageOf (switches : List Switch) (everything : Bool) : Usage :=
  if switches.isEmpty then .general else .naming switches everything

/-- The switches with one more at the end, if it is not among them. -/
def including (switch : Switch) (switches : List Switch) : List Switch :=
  if switches.contains switch then switches else switches ++ [switch]

/-- Refuses an argument. The value before it is still read, but what is wrong with it does not
    matter. -/
def refuse (refusal : Reading → Refusal) (reading : Reading) : Refusal :=
  match reading.settle with
  | (_, some .broken) => .broken
  | (reading, _) => refusal reading

/-- The refusal of an unknown name. -/
def refuseName (name : String) (reading : Reading) : Refusal :=
  let similar := (mostSimilar? name (Switch.all.map Switch.name)).bind Switch.ofName?
  .unknown ("--" ++ name) similar
    (usageOf (match similar with
      | some switch => including switch reading.given
      | none => reading.given) false)

/-- Reads a switch by its long name; its value follows an equals sign, if there is one. -/
def readSwitch (name : String) (attached : Option String) (reading : Reading) :
    Except Refusal Reading :=
  match Switch.ofName? name with
  | none => .error (reading.refuse (refuseName name))
  | some switch =>
      match switch.placeholder?, attached with
      | some _, some value => do
          let reading ← sound reading.settle
          sound (reading.store switch value)
      | some _, none => do
          let reading ← sound reading.settle
          .ok { reading with pending := some (switch, none) }
      | none, some value =>
          .error (reading.refuse fun _ =>
            .surplusValue switch value
              (usageOf (including switch reading.given) reading.anyGiven))
      | none, none => do
          let reading ← sound reading.settle
          if switch = .help then .error .help else sound (reading.store switch "")

/-- Reads a switch by its short name. There is only one. -/
def readShort (name : Char) (reading : Reading) : Except Refusal Reading :=
  if name = 'h' then do
    let _ ← sound reading.settle
    .error .help
  else .error (reading.refuse fun _ => .unknown (String.ofList ['-', name]) none .general)

/-- Reads an argument that is no switch: the value of the last one, if that is still to come. -/
def readValue (value : String) (reading : Reading) : Except Refusal Reading :=
  match reading.pending, reading.switchesOver with
  | some (switch, none), false => .ok { reading with pending := some (switch, some value) }
  | _, _ => .error (reading.refuse fun _ => .unknown value none .general)

def readArgument (argument : String) (reading : Reading) : Except Refusal Reading :=
  if reading.switchesOver then reading.readValue argument
  else
    match argument.toList with
    | ['-', '-'] => .ok { reading with switchesOver := true }
    | '-' :: '-' :: chars =>
        let name := String.ofList (chars.takeWhile (· != '='))
        match chars.dropWhile (· != '=') with
        | _ :: value => reading.readSwitch name (some (String.ofList value))
        | [] => reading.readSwitch name none
    | '-' :: char :: _ => reading.readShort char
    | _ => reading.readValue argument

/-- Nothing more comes. -/
def finish (reading : Reading) : Except Refusal Arguments := do
  let reading ← sound reading.settle
  if reading.given.any Switch.isDestination then .ok reading.arguments
  else .error (.missingDestination (.naming reading.given false))

end Reading

/-- Reads the arguments of the command. -/
def readArguments (arguments : List String) : Except Refusal Arguments := do
  let reading ← arguments.foldlM
    (fun (reading : Reading) argument => reading.readArgument argument) {}
  reading.finish

end Stackwatch.Command

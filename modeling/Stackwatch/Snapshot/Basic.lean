import Stackwatch.Snapshot.Encoded

/-!
# Snapshots

A snapshot is a profile whose cross references have been followed: every sample carries the frames
of its stack by name, file and line. References are not all treated alike. A missing string or an
unknown location is an error, a line of an unknown function is left out, and of two entries with the
same id the later one counts.
-/

namespace Stackwatch

/-- A source position. -/
structure Frame where
  function : String
  file : String
  line : Int
  deriving DecidableEq, Repr, Inhabited

/-- The text that identifies a source position, for example `main (src/main.rs:12)`. -/
def Frame.key (frame : Frame) : String :=
  frame.function ++ " (" ++ frame.file ++ ":" ++ toString frame.line ++ ")"

/-- A program location of a stack. -/
structure Location where
  /-- The instruction address, 0 when unknown. -/
  address : Nat
  /-- The source positions at this address, inlined callee first. -/
  lines : List Frame
  deriving DecidableEq, Repr, Inhabited

/-- The position that stands for the location in a call tree. -/
def Location.frame? (location : Location) : Option Frame := location.lines.head?

/-- Lower-case hexadecimal digits without leading zeros. -/
def hexText (value : Nat) : String := String.ofList (Nat.toDigits 16 value)

/-- The text that identifies the location in successive snapshots: its address, or its frame where
    the address is unknown. -/
def Location.key (location : Location) : String :=
  match location.address, location.frame? with
  | 0, some frame => frame.key
  | address, _ => hexText address

/-- One stack with its measured values. -/
structure Sample where
  /-- The stack, leaf first. -/
  locations : List Location
  /-- One value for each column of the snapshot. -/
  values : List Int
  deriving DecidableEq, Repr, Inhabited

namespace Sample

/-- Identifies the stack across successive snapshots. -/
def stackKey (sample : Sample) : String :=
  String.intercalate ":" (sample.locations.map Location.key)

/-- The value in a column; a short sample has zeros in the columns it lacks. -/
def value (sample : Sample) (column : Nat) : Int := sample.values.getD column 0

end Sample

/-- A named column of sample values. -/
structure Column where
  kind : String
  unit : String
  deriving DecidableEq, Repr, Inhabited

structure Snapshot where
  columns : List Column
  samples : List Sample
  /-- Collection time since the epoch, 0 if unknown. -/
  timeNanos : Int
  /-- Collection duration, 0 if unknown. -/
  durationNanos : Int
  deriving DecidableEq, Repr, Inhabited

namespace Snapshot

/-- The first column of this kind. -/
def column? (snapshot : Snapshot) (kind : String) : Option Nat :=
  snapshot.columns.findIdx? (·.kind == kind)

/-- A reference that leads nowhere. -/
inductive Dangling where
  | string (index : Int)
  | location (id : Nat)
  deriving DecidableEq, Repr, Inhabited

def Dangling.message : Dangling → String
  | .string index => "string table index " ++ toString index ++ " out of range"
  | .location id => "sample references unknown location " ++ toString id

def resolveString (strings : Array String) (index : Int) : Except Dangling String :=
  match index with
  | .ofNat position =>
      match strings[position]? with
      | some text => .ok text
      | none => .error (.string index)
  | .negSucc _ => .error (.string index)

/-- A function's id, name and file. -/
def resolveFunction (strings : Array String) (function : Encoded.Function) :
    Except Dangling (Nat × String × String) := do
  let name ← resolveString strings function.name
  let file ← resolveString strings function.fileName
  .ok (function.id, name, file)

/-- The last entry with this id. -/
def lastWithId {α : Type} (id : Nat) (entries : List (Nat × α)) : Option α :=
  (entries.reverse.find? (·.1 == id)).map (·.2)

/-- Lines of unknown functions are left out. -/
def resolveLocation (functions : List (Nat × String × String)) (location : Encoded.Location) :
    Nat × Location :=
  (location.id,
    { address := location.address
      lines := location.lines.filterMap fun line =>
        (lastWithId line.functionId functions).map fun (name, file) =>
          { function := name, file := file, line := line.line } })

def resolveColumn (strings : Array String) (column : Encoded.ValueType) :
    Except Dangling Column := do
  let kind ← resolveString strings column.kind
  let unit ← resolveString strings column.unit
  .ok { kind := kind, unit := unit }

def resolveSample (locations : List (Nat × Location)) (sample : Encoded.Sample) :
    Except Dangling Sample := do
  let stack ← sample.locationIds.mapM fun id =>
    match lastWithId id locations with
    | some location => .ok location
    | none => .error (.location id)
  .ok { locations := stack, values := sample.values }

/-- Follows all references. Functions are resolved first, then columns, then samples, and the first
    reference that leads nowhere is the error. -/
def resolve (profile : Encoded.Profile) : Except Dangling Snapshot := do
  let strings := profile.strings.toArray
  let functions ← profile.functions.mapM (resolveFunction strings)
  let locations := profile.locations.map (resolveLocation functions)
  let columns ← profile.sampleTypes.mapM (resolveColumn strings)
  let samples ← profile.samples.mapM (resolveSample locations)
  .ok
    { columns := columns
      samples := samples
      timeNanos := profile.timeNanos
      durationNanos := profile.durationNanos }

end Snapshot

end Stackwatch

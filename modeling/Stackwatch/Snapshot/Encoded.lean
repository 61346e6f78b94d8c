import Stackwatch.Wire.Field

/-!
# Encoded profiles

The messages of the pprof format, as they stand in the bytes: names are indices into one string
table, stacks are lists of location ids. Each message is assembled from the list of its fields. Of a
repeated field all entries count, in order; of a plain one the last entry wins, and one that never
occurs is zero.
-/

namespace Stackwatch.Snapshot.Encoded

open Stackwatch.Wire

/-- The value of a plain field, given all its entries. -/
def lastOr {α : Type} (absent : α) (entries : List α) : α := entries.getLast?.getD absent

/-! ## Columns -/

/-- What one column of sample values measures; both parts are string indices. -/
structure ValueType where
  kind : Int
  unit : Int
  deriving DecidableEq, Repr, Inhabited

inductive ValueType.Field where
  | kind (index : Int)
  | unit (index : Int)
  deriving DecidableEq, Repr, Inhabited

def ValueType.ofFields (fields : List ValueType.Field) : ValueType where
  kind := lastOr 0 (fields.filterMap fun | .kind index => some index | _ => none)
  unit := lastOr 0 (fields.filterMap fun | .unit index => some index | _ => none)

/-- The reader of a field that makes `field` of what `read` finds. -/
def reading {α β : Type} (field : α → β) (read : WireType → Input → Read (α × Input))
    (wire : WireType) (input : Input) : Read (β × Input) := do
  let (value, rest) ← read wire input
  .ok (field value, rest)

def ValueType.schema : Schema ValueType.Field where
  name := "ValueType"
  field?
    | 1 => some ("ty", reading .kind readSigned)
    | 2 => some ("unit", reading .unit readSigned)
    | _ => none

/-! ## Samples -/

structure Sample where
  /-- The stack, leaf first. -/
  locationIds : List Nat
  values : List Int
  deriving DecidableEq, Repr, Inhabited

inductive Sample.Field where
  | locationIds (ids : List Nat)
  | values (values : List Int)
  deriving DecidableEq, Repr, Inhabited

def Sample.ofFields (fields : List Sample.Field) : Sample where
  locationIds := fields.flatMap fun | .locationIds ids => ids | _ => []
  values := fields.flatMap fun | .values values => values | _ => []

def Sample.schema : Schema Sample.Field where
  name := "Sample"
  field?
    | 1 => some ("location_id", reading .locationIds (readRepeated readUnsigned))
    | 2 => some ("value", reading .values (readRepeated readSigned))
    | _ => none

/-! ## Locations -/

structure Line where
  functionId : Nat
  line : Int
  deriving DecidableEq, Repr, Inhabited

inductive Line.Field where
  | functionId (id : Nat)
  | line (number : Int)
  deriving DecidableEq, Repr, Inhabited

def Line.ofFields (fields : List Line.Field) : Line where
  functionId := lastOr 0 (fields.filterMap fun | .functionId id => some id | _ => none)
  line := lastOr 0 (fields.filterMap fun | .line number => some number | _ => none)

def Line.schema : Schema Line.Field where
  name := "Line"
  field?
    | 1 => some ("function_id", reading .functionId readUnsigned)
    | 2 => some ("line", reading .line readSigned)
    | _ => none

structure Location where
  id : Nat
  address : Nat
  /-- Inlined callee first. -/
  lines : List Line
  deriving DecidableEq, Repr, Inhabited

inductive Location.Field where
  | id (id : Nat)
  | address (address : Nat)
  | line (line : Line)
  deriving DecidableEq, Repr, Inhabited

def Location.ofFields (fields : List Location.Field) : Location where
  id := lastOr 0 (fields.filterMap fun | .id id => some id | _ => none)
  address := lastOr 0 (fields.filterMap fun | .address address => some address | _ => none)
  lines := fields.filterMap fun | .line line => some line | _ => none

/-- A location's lines are one level further down than the location. -/
def Location.schema (levels : Nat) : Schema Location.Field where
  name := "Location"
  field?
    | 1 => some ("id", reading .id readUnsigned)
    | 3 => some ("address", reading .address readUnsigned)
    | 4 => some ("line", reading (.line ∘ Line.ofFields) (Line.schema.readNested levels))
    | _ => none

/-! ## Functions -/

structure Function where
  id : Nat
  name : Int
  systemName : Int
  fileName : Int
  deriving DecidableEq, Repr, Inhabited

inductive Function.Field where
  | id (id : Nat)
  | name (index : Int)
  | systemName (index : Int)
  | fileName (index : Int)
  deriving DecidableEq, Repr, Inhabited

def Function.ofFields (fields : List Function.Field) : Function where
  id := lastOr 0 (fields.filterMap fun | .id id => some id | _ => none)
  name := lastOr 0 (fields.filterMap fun | .name index => some index | _ => none)
  systemName := lastOr 0 (fields.filterMap fun | .systemName index => some index | _ => none)
  fileName := lastOr 0 (fields.filterMap fun | .fileName index => some index | _ => none)

def Function.schema : Schema Function.Field where
  name := "Function"
  field?
    | 1 => some ("id", reading .id readUnsigned)
    | 2 => some ("name", reading .name readSigned)
    | 3 => some ("system_name", reading .systemName readSigned)
    | 4 => some ("filename", reading .fileName readSigned)
    | _ => none

/-! ## Profiles -/

structure Profile where
  sampleTypes : List ValueType
  samples : List Sample
  locations : List Location
  functions : List Function
  strings : List String
  timeNanos : Int
  durationNanos : Int
  deriving DecidableEq, Repr, Inhabited

inductive Profile.Field where
  | sampleType (column : ValueType)
  | sample (sample : Sample)
  | location (location : Location)
  | function (function : Function)
  | string (text : String)
  | timeNanos (nanos : Int)
  | durationNanos (nanos : Int)
  deriving DecidableEq, Repr, Inhabited

def Profile.ofFields (fields : List Profile.Field) : Profile where
  sampleTypes := fields.filterMap fun | .sampleType column => some column | _ => none
  samples := fields.filterMap fun | .sample sample => some sample | _ => none
  locations := fields.filterMap fun | .location location => some location | _ => none
  functions := fields.filterMap fun | .function function => some function | _ => none
  strings := fields.filterMap fun | .string text => some text | _ => none
  timeNanos := lastOr 0 (fields.filterMap fun | .timeNanos nanos => some nanos | _ => none)
  durationNanos :=
    lastOr 0 (fields.filterMap fun | .durationNanos nanos => some nanos | _ => none)

def Profile.schema : Schema Profile.Field where
  name := "Profile"
  field?
    | 1 => some ("sample_type",
        reading (.sampleType ∘ ValueType.ofFields) (ValueType.schema.readNested nestingLimit))
    | 2 => some ("sample",
        reading (.sample ∘ Sample.ofFields) (Sample.schema.readNested nestingLimit))
    | 4 => some ("location",
        reading (.location ∘ Location.ofFields)
          ((Location.schema (nestingLimit - 1)).readNested nestingLimit))
    | 5 => some ("function",
        reading (.function ∘ Function.ofFields) (Function.schema.readNested nestingLimit))
    | 6 => some ("string_table", reading .string readText)
    | 9 => some ("time_nanos", reading .timeNanos readSigned)
    | 10 => some ("duration_nanos", reading .durationNanos readSigned)
    | _ => none

/-- The profile encoded by the whole of `bytes`. -/
def Profile.decode (bytes : Bytes) : Read Profile := do
  let fields ← Profile.schema.readWhole bytes
  .ok (Profile.ofFields fields)

end Stackwatch.Snapshot.Encoded

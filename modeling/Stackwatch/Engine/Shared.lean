import Stackwatch.Engine.Basic
import Stackwatch.Snapshot.Encode

/-!
# The facility shared by the built-in engines

A process has one facility that samples its processor time, and it comes from elsewhere. Whoever
starts it gets a hold on it, and it is told when the hold is given up. A built-in engine keeps its
hold as long as its capture is under way.
-/

namespace Stackwatch

/-- A facility that samples processor time, seen from those who use it. -/
structure SharedFacility (State : Type) where
  /-- Starts to take so many samples in a second. -/
  start : (frequency : Int) → State → Except String Unit × State
  /-- A hold is given up. -/
  release : State → State

/-- How the steps end by which a capture becomes data. -/
structure Harvest where
  /-- The samples are put together while the facility is still held. -/
  report : Outcome String Unit
  encoding : Outcome String Bytes
  writing : Outcome String Unit

structure BuiltInEngine where
  /-- Samples taken in a second. -/
  frequency : Int := 100
  /-- Whether the engine has a hold on the facility. -/
  holds : Bool := false
  deriving DecidableEq, Repr, Inhabited

/-- The built-in engines of a process and the state of the facility that they share. -/
structure BuiltInEngines (Index State : Type) where
  state : State
  engine : Index → BuiltInEngine

namespace SharedFacility

/-- A facility of which no more is known than whether it is running. -/
def plain : SharedFacility Bool where
  start _ running :=
    if running then (.error "start running cpu profiler error", true) else (.ok (), true)
  release _ := false

/-- The profile of a capture without samples. It has a column for the number of samples and one for
    their time. -/
def emptyProfile : Bytes :=
  Snapshot.Encoded.Profile.encode
    { sampleTypes := [{ kind := 1, unit := 2 }, { kind := 3, unit := 4 }]
      samples := []
      locations := []
      functions := []
      strings := ["", "samples", "count", "cpu", "nanoseconds"]
      timeNanos := 0
      durationNanos := 0 }

end SharedFacility

namespace Harvest

/-- A capture in which there was nothing to sample. -/
def withoutSamples : Harvest :=
  { report := .returned ()
    encoding := .returned SharedFacility.emptyProfile
    writing := .returned () }

/-- What comes of the samples once they are put together. -/
def written (harvest : Harvest) : Outcome EngineError Bytes :=
  match harvest.encoding with
  | .failed reason => .failed (.facility reason)
  | .crashed crash => .crashed crash
  | .returned bytes =>
      match harvest.writing with
      | .failed reason => .failed (.sink reason)
      | .crashed crash => .crashed crash
      | .returned () => .returned bytes

end Harvest

namespace BuiltInEngine

variable {State : Type}

/-- Begins a capture. -/
def start (facility : SharedFacility State) (state : State) (engine : BuiltInEngine) :
    Except EngineError Unit × State × BuiltInEngine :=
  if engine.holds then
    (.error .alreadyRunning, state, engine)
  else
    match facility.start engine.frequency state with
    | (.error reason, state) => (.error (.facility reason), state, engine)
    | (.ok (), state) => (.ok (), state, { engine with holds := true })

/-- Ends a capture. The engine parts with its hold at once. The hold is given up as soon as the
    samples are put together, or when that goes wrong; encoding and writing come after that. -/
def stop (facility : SharedFacility State) (harvest : Harvest) (state : State)
    (engine : BuiltInEngine) : Outcome EngineError Bytes × State × BuiltInEngine :=
  if engine.holds then
    let parted := { engine with holds := false }
    match harvest.report with
    | .failed reason => (.failed (.facility reason), facility.release state, parted)
    | .crashed crash => (.crashed crash, facility.release state, parted)
    | .returned () => (harvest.written, facility.release state, parted)
  else
    (.failed .notRunning, state, engine)

end BuiltInEngine

namespace BuiltInEngines

variable {Index State : Type} [DecidableEq Index]

/-- Puts a facility and one of its engines in a new state. -/
def change (index : Index) (after : State × BuiltInEngine)
    (engines : BuiltInEngines Index State) : BuiltInEngines Index State :=
  { state := after.1
    engine := fun other => if other = index then after.2 else engines.engine other }

/-- One of the engines begins a capture. -/
def start (facility : SharedFacility State) (index : Index)
    (engines : BuiltInEngines Index State) :
    Except EngineError Unit × BuiltInEngines Index State :=
  ((engines.engine index).start facility engines.state).map id (engines.change index ·)

/-- One of the engines ends its capture. -/
def stop (facility : SharedFacility State) (index : Index) (harvest : Harvest)
    (engines : BuiltInEngines Index State) :
    Outcome EngineError Bytes × BuiltInEngines Index State :=
  ((engines.engine index).stop facility harvest engines.state).map id (engines.change index ·)

end BuiltInEngines

end Stackwatch

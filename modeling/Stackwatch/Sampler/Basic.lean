import Stackwatch.CallTree.Filter
import Stackwatch.Engine.Basic
import Stackwatch.Profile
import Stackwatch.Snapshot.Decode

/-!
# What samplers have in common

A sampler asks its engine for snapshots and folds them into a call tree. An error is the end of one
call only: whatever the sampler had gathered before stays.
-/

namespace Stackwatch

/-- Why a call to a sampler failed. -/
inductive SamplerError where
  | engine (error : EngineError)
  | snapshot (error : Snapshot.ReadError)
  | missingColumn (kind : String)
  | blockProfileUnavailable
  | notStarted
  deriving DecidableEq, Repr, Inhabited

def SamplerError.message : SamplerError → String
  | .engine error => error.message
  | .snapshot error => error.message
  | .missingColumn kind => "unrecognized profile data: no \"" ++ kind ++ "\" sample type"
  | .blockProfileUnavailable => "block profile is not available"
  | .notStarted => "sampler was not started"

/-- The place of a column that a sampler cannot do without. -/
def Snapshot.requireColumn (snapshot : Snapshot) (kind : String) : Except SamplerError Nat :=
  match snapshot.column? kind with
  | some column => .ok column
  | none => .error (.missingColumn kind)

/-- Asks the engine for its data and reads them. -/
def Engine.takeSnapshot (engine : Engine) : Outcome SamplerError Snapshot × Engine :=
  let (answer, engine) := engine.write
  ((answer.mapError SamplerError.engine).andThen fun bytes =>
    (Snapshot.read bytes).mapError SamplerError.snapshot, engine)

/-- Nanoseconds as a number of milliseconds. -/
def millisOfNanos (nanos : Float) : Float := nanos / 1000000.0

end Stackwatch

import Stackwatch.Input
import Stackwatch.Outcome

/-!
# Profiling engines

An engine collects raw profile data. How its calls end is not known beforehand: an engine is an
arbitrary answer to each of its calls, together with a record of the calls that were made.
-/

namespace Stackwatch

/-- Why an engine failed. -/
inductive EngineError where
  /-- The data could not be written. -/
  | sink (reason : String)
  /-- The facility that all built-in engines share cannot start, or cannot give its samples. -/
  | facility (reason : String)
  | alreadyRunning
  | notRunning
  | other (reason : String)
  deriving DecidableEq, Repr, Inhabited

def EngineError.message : EngineError → String
  | .sink reason => "profiling engine i/o error: " ++ reason
  | .facility reason => "pprof error: " ++ reason
  | .alreadyRunning => "profiling engine is already running"
  | .notRunning => "profiling engine is not running"
  | .other reason => "profiling engine error: " ++ reason

structure Engine where
  /-- How the calls that begin a capture end, in the order in which they are made. -/
  startAnswer : Nat → Outcome EngineError Unit
  /-- How the calls that ask for data end. -/
  writeAnswer : Nat → Outcome EngineError Bytes
  /-- Calls made so far to begin a capture. -/
  starts : Nat := 0
  /-- Calls made so far to get data. -/
  writes : Nat := 0
  /-- All capture rates set so far, the latest one last. -/
  rates : List Int := []
  deriving Inhabited

namespace Engine

def start (engine : Engine) : Outcome EngineError Unit × Engine :=
  (engine.startAnswer engine.starts, { engine with starts := engine.starts + 1 })

def write (engine : Engine) : Outcome EngineError Bytes × Engine :=
  (engine.writeAnswer engine.writes, { engine with writes := engine.writes + 1 })

def setRate (rate : Int) (engine : Engine) : Engine :=
  { engine with rates := engine.rates ++ [rate] }

end Engine

end Stackwatch

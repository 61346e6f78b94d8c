import Stackwatch.CallTree.Basic

/-!
# Which frames are counted

A stack is taken by the sampling engine and holds its frames on top, and it ends in the frames that
start a thread. Neither belongs to the program that is observed. A sample taken while the profiler
itself was running measures the profiler, and is left out whole.
-/

namespace Stackwatch

/-- Decides which samples and frames are left out of a call tree. -/
structure FrameFilter where
  /-- Whether frames of the profiler and of the sampling engine are counted. -/
  includeProfilerFrames : Bool := false
  deriving DecidableEq, Repr, Inhabited

namespace FrameFilter

/-- Functions of the profiler itself. -/
def profilerModule : String := "autoprofile::"

/-- Functions of the sampling engine. -/
def engineModules : List String := ["pprof::", "backtrace::"]

/-- Functions that start a thread. -/
def threadEntries : List String :=
  ["start_thread", "clone", "clone3", "__clone", "__clone3", "_start", "__libc_start_main",
    "__libc_start_call_main"]

/-- Whether a function lies in a module. The name of a method starts with brackets around its type,
    which are not looked at. -/
def inModule (moduleName function : String) : Bool :=
  moduleName.toList.isPrefixOf (function.toList.dropWhile (· == '<'))

def isProfilerFrame (frame : Frame) : Bool := inModule profilerModule frame.function

def isEngineFrame (frame : Frame) : Bool := engineModules.any (inModule · frame.function)

def isThreadEntry (frame : Frame) : Bool := threadEntries.contains frame.function

/-- Whether a frame is cut out of the stack. -/
def skips (filter : FrameFilter) (frame : Frame) : Bool :=
  isThreadEntry frame || (!filter.includeProfilerFrames && isEngineFrame frame)

/-- Whether a sample is left out whole. -/
def skipsSample (filter : FrameFilter) (sample : Sample) : Bool :=
  !filter.includeProfilerFrames && (sample.locations.filterMap Location.frame?).any isProfilerFrame

/-- The call path that a sample is counted on, outermost caller first; empty if the sample does not
    count. -/
def path (filter : FrameFilter) (sample : Sample) : List Frame :=
  if filter.skipsSample sample then []
  else (sample.locations.reverse.filterMap Location.frame?).filter fun frame => !filter.skips frame

/-- Whether anything of a sample counts. -/
def records (filter : FrameFilter) (sample : Sample) : Bool :=
  !filter.skipsSample sample &&
    (sample.locations.filterMap Location.frame?).any fun frame => !filter.skips frame

/-- Adds a measurement to every node on the sample's call path, if anything of it counts. -/
def fold (filter : FrameFilter) (sample : Sample) (value : Float) (count : Int) (tree : CallTree) :
    CallTree :=
  if filter.records sample then tree.record value count (filter.path sample) else tree

end FrameFilter

end Stackwatch

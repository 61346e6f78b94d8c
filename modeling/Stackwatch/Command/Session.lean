import Stackwatch.Command.FolderTree
import Stackwatch.Command.Help
import Stackwatch.Command.LogFilter
import Stackwatch.Engine.Shared
import Stackwatch.Watch.Settings

/-!
# Sessions

A session is one run of the command: the profiler watches the process for a while. What happens in
it, apart from the passing of time, is decided by the arguments, by what the folder for the profiles
turns out to be, and by which messages are to be shown.
-/

namespace Stackwatch.Command

/-- What a session reports about its progress. -/
inductive Milestone where
  | mainStarted
  | startingProfiler
  | profilerStarted
  | profilerEnabled
  | schedulerStarted
  | schedulerStopped
  | profilerDisabled
  deriving DecidableEq, Repr, Inhabited

namespace Milestone

def all : List Milestone :=
  [.mainStarted, .startingProfiler, .profilerStarted, .profilerEnabled, .schedulerStarted,
    .schedulerStopped, .profilerDisabled]

def message : Milestone → String
  | .mainStarted => "main started"
  | .startingProfiler => "starting profiler"
  | .profilerStarted => "profiler started"
  | .profilerEnabled => "profiler enabled"
  | .schedulerStarted => "sampler scheduler started"
  | .schedulerStopped => "sampler scheduler stopped"
  | .profilerDisabled => "profiler disabled"

/-- The place from which the message comes. -/
def place : Milestone → String
  | .mainStarted => "simple"
  | .startingProfiler => "simple"
  | .profilerStarted => "simple"
  | .profilerEnabled => "autoprofile::profiler"
  | .schedulerStarted => "autoprofile::scheduler"
  | .schedulerStopped => "autoprofile::scheduler"
  | .profilerDisabled => "autoprofile::profiler"

/-- The fields of the message beside its text. -/
def particulars : Milestone → List String
  | .profilerEnabled => ["samplers"]
  | .schedulerStarted => ["sampler"]
  | .schedulerStopped => ["sampler"]
  | _ => []

def fields (milestone : Milestone) : List String := "message" :: milestone.particulars

end Milestone

/-- How a session ends. -/
inductive Ending where
  | done
  | failed (message : String)
  /-- The process breaks down. -/
  | broken
  deriving DecidableEq, Repr, Inhabited

def Ending.exitCode : Ending → Nat
  | .done => 0
  | .failed _ => 1
  | .broken => 101

/-- What is written about a failure. -/
def Ending.complaint : Ending → String
  | .failed message => "Error: " ++ message ++ "\n"
  | _ => ""

structure Session where
  milestones : List Milestone
  ending : Ending
  deriving DecidableEq, Repr, Inhabited

/-- The built-in engine, whose captures are without samples. -/
def builtInEngine : Engine :=
  { startAnswer := fun _ => .returned ()
    writeAnswer := fun _ => .returned SharedFacility.emptyProfile }

/-- The profiler that a session sets up. -/
def Arguments.settings (arguments : Arguments) (reporter : Reporter) : Settings :=
  { reporter := some reporter
    includeProfilerFrames := arguments.includeProfilerFrames
    flushInterval := some arguments.flushInterval
    cpuTiming := some { Timing.cpu with reportInterval := arguments.reportInterval } }

/-- What is wrong with the arguments as far as it shows only when the session runs. -/
def Arguments.fault? (arguments : Arguments) : Option Profiler.Error :=
  match { Timing.cpu with reportInterval := arguments.reportInterval }.validate with
  | .ok () => none
  | .error error => some (.timing error)

/-- No list can have this many elements. -/
def workerLimit : Nat := Nat.pow 2 60

/-- Whether there are as many workers as can be. -/
def Arguments.canWork (arguments : Arguments) : Bool :=
  arguments.workerThreads.all fun count => 0 < count && count < workerLimit

/-- The folder that is to be made for the profiles; nothing is made if the session breaks down
    before. -/
def Arguments.wantedFolder? (filter : Option LogFilter) (arguments : Arguments) : Option String :=
  if arguments.canWork && filter.isSome then arguments.outputDir else none

/-- The course of a session, given the filter for its messages, if there is one, and what came of
    making the folder for the profiles. -/
def session (filter : Option LogFilter) (made : Except Place.Error Unit) (arguments : Arguments) :
    Session :=
  if !arguments.canWork || filter.isNone then { milestones := [], ending := .broken }
  else
    match made, arguments.fault? with
    | .error error, _ => { milestones := [.mainStarted], ending := .failed error.message }
    | .ok (), some error => { milestones := [.mainStarted], ending := .failed error.message }
    | .ok (), none => { milestones := Milestone.all, ending := .done }

def LogFilter.showsMilestone (milestone : Milestone) (filter : LogFilter) : Bool :=
  filter.shows milestone.place milestone.fields .info

/-- The messages of a session that are shown. -/
def Session.shown (filter : LogFilter) (session : Session) : List String :=
  (session.milestones.filter filter.showsMilestone).map Milestone.message

end Stackwatch.Command

import Std.Time.DateTime.Timestamp
import Stackwatch.Command.Session

/-!
# The command

Runs a session: makes the folder, lets the profiler watch until the time is over, and writes what it
delivered into files.
-/

namespace Stackwatch.Command

/-- What came of a call to the system. -/
def answered (call : IO Unit) : IO (Except Place.Error Unit) := do
  try
    call
    return .ok ()
  catch error =>
    match error with
    | .noFileOrDirectory .. => return .error .notFound
    | .alreadyExists .. => return .error .exists
    | .inappropriateType .. => return .error .notAFolder
    | .invalidArgument .. => return .error .nameTooLong
    | _ => throw error

/-- Makes a folder and all those above it that are missing. -/
def makeFolder (path : String) : IO (Except Place.Error Unit) :=
  let text (parts : List String) : String :=
    (if path.startsWith "/" then "/" else "") ++ String.intercalate "/" parts
  let maker : FolderMaker IO :=
    { make := fun parts => answered (IO.FS.createDir (text parts))
      isFolder := fun parts => do
        return (← answered (IO.FS.createDirAll (text parts))).isOk }
  maker.makeAll (pathParts path)

def showMilestones (filter : LogFilter) (milestones : List Milestone) : IO Unit := do
  for milestone in milestones do
    if filter.showsMilestone milestone then
      IO.println (" INFO " ++ milestone.place ++ ": " ++ milestone.message)

def showNotices (filter : LogFilter) (notices : List Notice) : IO Unit := do
  for notice in notices do
    let level := match notice.level with
      | .warning => LogLevel.warning
      | .error => LogLevel.error
    if filter.shows "autoprofile" ("message" :: notice.fields.map (·.1)) level then
      IO.println (" " ++ notice.level.name ++ " autoprofile: " ++ notice.message)

/-- Writes the files of a folder that are not written yet, and leaves the folder without them. -/
def writeFolder (folder : Folder) : IO Folder := do
  match folder.place with
  | .folder files =>
      for (name, text) in files do
        IO.FS.writeFile (folder.path ++ "/" ++ name) text
      return { folder with place := .folder [] }
  | _ => return folder

def writeReporter : Reporter → IO Reporter
  | .fanOut members => do
      let members ← members.mapM fun member => match member with
        | .folder folder => do return .folder (← writeFolder folder)
        | other => return other
      return .fanOut members
  | reporter => return reporter

/-- Brings the profiler up to the present, then tells and writes what came of it. -/
def catchUp (filter : LogFilter) (begun : Nat) (change : Profiler → Profiler)
    (profiler : Profiler) : IO Profiler := do
  let now ← IO.monoNanosNow
  let profiler := { profiler with watch := profiler.watch.advance (now - begun) }
  let profiler := change profiler
  let watch := profiler.watch
  showNotices filter watch.notices
  let reporter ← writeReporter watch.recorder.reporter
  let recorder := { watch.recorder with reporter := reporter }
  return { profiler with watch := { watch with notices := [], recorder := recorder } }

/-- How often a running profiler catches up, in milliseconds. -/
def beat : Nat := 100

/-- Lets the profiler run until the time is over; without an end if no duration is given. -/
partial def runUntil (filter : LogFilter) (begun : Nat) (duration : Option Duration)
    (profiler : Profiler) : IO Profiler := do
  let elapsed := (← IO.monoNanosNow) - begun
  let left := match duration with
    | some duration => (duration - elapsed + 999999) / 1000000
    | none => beat
  if left = 0 then
    return profiler
  IO.sleep (UInt32.ofNat (min beat left))
  runUntil filter begun duration (← catchUp filter begun id profiler)

/-- Random offsets of bursts, spread over the span of time that is there for them. -/
def randomOffsets (seed : Nat) (timing : Timing) (index : Nat) : Duration :=
  (seed + index * 6364136223846793005) * 2862933555777941757 % max 1 timing.offsetRange

def watchProcess (filter : LogFilter) (arguments : Arguments) : IO Unit := do
  let reporters :=
    (arguments.outputDir.map fun path =>
      Reporter.folder { path := path, place := .folder [] }).toList ++
      (arguments.url.map fun url => Reporter.collector { url := url } none).toList
  let startedAt := (← Std.Time.Timestamp.now).toMillisecondsSinceUnixEpoch.toInt.toNat
  let seed ← IO.rand 0 (Nat.pow 2 62)
  let host : Host :=
    { clock := { startedAt := startedAt }
      process := "self"
      builtIn := builtInEngine
      offsets := randomOffsets seed .cpu }
  match (arguments.settings (.fanOut reporters)).build host with
  | .error _ => return
  | .ok profiler =>
      let begun ← IO.monoNanosNow
      let profiler ← runUntil filter begun arguments.duration profiler.start
      let _ ← catchUp filter begun (fun profiler =>
        let profiler := profiler.disable
        { profiler with watch := profiler.watch.flush.2 }) profiler

def runSession (arguments : Arguments) : IO UInt32 := do
  let filter := LogFilter.choose? (← IO.getEnv "RUST_LOG")
  let made ← match arguments.wantedFolder? filter with
    | some path => makeFolder path
    | none => pure (.ok ())
  let session := session filter made arguments
  let filter := filter.getD []
  let (before, after) := session.milestones.span fun milestone =>
    milestone != .schedulerStopped
  showMilestones filter before
  if session.ending = .done then
    watchProcess filter arguments
  showMilestones filter after
  IO.eprint session.ending.complaint
  return UInt32.ofNat session.ending.exitCode

end Stackwatch.Command

open Stackwatch.Command in
def main (arguments : List String) : IO UInt32 := do
  match readArguments arguments with
  | .ok arguments => runSession arguments
  | .error .help =>
      IO.print helpText
      return 0
  | .error .broken => return UInt32.ofNat Ending.broken.exitCode
  | .error refusal =>
      IO.eprint refusal.text
      return 2

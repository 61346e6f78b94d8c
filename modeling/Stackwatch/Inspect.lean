import Stackwatch.Engine.Shared
import Stackwatch.Text.Quoted
import Stackwatch.Watch.Settings

/-!
# Inspection

The state of a part as text, for those who look for a fault: the name of the part with its fields in
braces, where two points stand for what is not shown.
-/

namespace Stackwatch.Inspect

/-- A part with its fields. -/
def record (name : String) (fields : List (String × String)) (more : Bool) : String :=
  let shown := fields.map (fun (field, value) => field ++ ": " ++ value) ++
    (if more then [".."] else [])
  if shown.isEmpty then name
  else name ++ " \x7b " ++ String.intercalate ", " shown ++ " \x7d"

def list (items : List String) : String := "[" ++ String.intercalate ", " items ++ "]"

def option : Option String → String
  | some text => "Some(" ++ text ++ ")"
  | none => "None"

def bool (value : Bool) : String := if value then "true" else "false"

def filter (filter : FrameFilter) : String :=
  record "FrameFilter" [("include_profiler_frames", bool filter.includeProfilerFrames)] false

def flag (flag : Flag) : String := record "Flag" [("value", bool flag.isSet)] false

def timing (timing : Timing) : String :=
  record "SamplerConfig"
    [("name", Text.quoted timing.name),
      ("report_only", bool timing.reportOnly),
      ("max_profile_duration", timing.maxProfileDuration.text),
      ("max_span_duration", timing.maxSpanDuration.text),
      ("max_span_count", toString timing.maxSpanCount),
      ("sampling_interval", timing.samplingInterval.text),
      ("report_interval", timing.reportInterval.text)] false

def timingError : Timing.Error → String
  | .samplingIntervalTooShort sampler samplingInterval maxSpanDuration =>
      record "SamplingIntervalTooShort"
        [("sampler", Text.quoted sampler),
          ("sampling_interval", samplingInterval.text),
          ("max_span_duration", maxSpanDuration.text)] false
  | .zeroReportInterval sampler =>
      record "ZeroReportInterval" [("sampler", Text.quoted sampler)] false

/-- When a capture was started is of no interest, only whether it was. -/
def sampler : Sampler → String
  | .cpu sampler =>
      record "CpuSampler"
        [("filter", filter sampler.filter),
          ("started_at", option (if sampler.started then some ".." else none))] true
  | .heap sampler => record "AllocationSampler" [("filter", filter sampler.filter)] true
  | .block sampler =>
      record "BlockSampler"
        [("filter", filter sampler.filter),
          ("running", bool sampler.running),
          ("tracked_stacks", toString sampler.baselines.length)] true

def builtInEngine (engine : BuiltInEngine) : String :=
  record "PprofCpuEngine"
    [("frequency", toString engine.frequency), ("running", bool engine.holds)] false

mutual

def reporter : Reporter → String
  | .discarding => record "NoopReporter" [] false
  | .custom .. => record "Reporter" [] true
  | .folder target =>
      record "LocalReporter"
        [("directory", Text.quoted target.path), ("sequence", toString target.sequence)] false
  | .collector .. => record "HttpReporter" [] true
  | .fanOut members => record "MultiReporter" [("reporters", list (reporters members))] false

def reporters : List Reporter → List String
  | [] => []
  | member :: rest => reporter member :: reporters rest

end

def recorder (recorder : Recorder) : String :=
  record "ProfileRecorder"
    [("reporter", reporter recorder.reporter),
      ("max_buffered", toString recorder.outbox.capacity),
      ("flush_interval", recorder.flushInterval.text),
      ("queued", toString recorder.outbox.queue.length)] true

def scheduler (scheduler : Scheduler) : String :=
  record "SamplerScheduler"
    [("config", timing scheduler.timing), ("started", bool scheduler.started.isSet)] true

def options (settings : Settings) : String :=
  record "AutoProfilerOptions"
    [("include_profiler_frames", bool settings.includeProfilerFrames),
      ("max_buffered_profiles", toString settings.capacity)] false

def settings (settings : Settings) : String :=
  let hasCpu := match settings.cpu with
    | .off => false
    | _ => true
  record "AutoProfilerBuilder"
    [("reporter", option (settings.reporter.map reporter)),
      ("options", options settings),
      ("flush_interval", option (settings.flushInterval.map Duration.text)),
      ("cpu", bool hasCpu),
      ("heap", bool settings.heap.isSome),
      ("block", bool settings.block.isSome)] true

def profiler (profiler : Profiler) : String :=
  record "AutoProfiler"
    [("recorder", recorder profiler.watch.recorder),
      ("schedulers", list (profiler.watch.schedulers.map scheduler)),
      ("enabled", bool profiler.enabled.isSet)] false

end Stackwatch.Inspect

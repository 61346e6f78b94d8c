import Stackwatch.Duration

/-!
# Timing of a sampler

Once per sampling interval, at a random offset, a sampler takes samples for one span; once per
report interval a profile is made of them. The spans of a report window are limited in number and in
their total length.
-/

namespace Stackwatch

/-- The timing of one sampler. -/
structure Timing where
  /-- The name under which notices speak of the sampler. -/
  name : String
  /-- The sampler takes snapshots for its reports and nothing else. -/
  reportOnly : Bool
  /-- No span begins in a window once more than this was sampled. -/
  maxProfileDuration : Duration
  /-- The length of a span. -/
  maxSpanDuration : Duration
  /-- No more spans begin in a window. -/
  maxSpanCount : Nat
  samplingInterval : Duration
  reportInterval : Duration
  deriving DecidableEq, Repr, Inhabited

namespace Timing

def cpu : Timing :=
  { name := "cpu"
    reportOnly := false
    maxProfileDuration := Duration.ofSeconds 20
    maxSpanDuration := Duration.ofSeconds 2
    maxSpanCount := 30
    samplingInterval := Duration.ofSeconds 8
    reportInterval := Duration.ofSeconds 120 }

def allocation : Timing :=
  { name := "allocation"
    reportOnly := true
    maxProfileDuration := 0
    maxSpanDuration := 0
    maxSpanCount := 0
    samplingInterval := 0
    reportInterval := Duration.ofSeconds 120 }

def block : Timing :=
  { name := "block"
    reportOnly := false
    maxProfileDuration := Duration.ofSeconds 20
    maxSpanDuration := Duration.ofSeconds 4
    maxSpanCount := 30
    samplingInterval := Duration.ofSeconds 16
    reportInterval := Duration.ofSeconds 120 }

/-- Why a timing cannot be used. -/
inductive Error where
  /-- There is no room for a random offset before a span. -/
  | samplingIntervalTooShort (sampler : String) (samplingInterval maxSpanDuration : Duration)
  | zeroReportInterval (sampler : String)
  deriving DecidableEq, Repr, Inhabited

def Error.message : Error → String
  | .samplingIntervalTooShort sampler samplingInterval maxSpanDuration =>
      sampler ++ ": sampling interval " ++ samplingInterval.text ++
        " must exceed the span duration " ++ maxSpanDuration.text
  | .zeroReportInterval sampler => sampler ++ ": report interval must be non-zero"

/-- Checks that the intervals fit together. -/
def validate (timing : Timing) : Except Error Unit :=
  if timing.reportInterval = 0 then
    .error (.zeroReportInterval timing.name)
  else if !timing.reportOnly && timing.samplingInterval ≤ timing.maxSpanDuration then
    .error (.samplingIntervalTooShort timing.name timing.samplingInterval timing.maxSpanDuration)
  else
    .ok ()

/-- The random offset of a span is smaller than this. -/
def offsetRange (timing : Timing) : Duration := timing.samplingInterval - timing.maxSpanDuration

/-- Timers cannot wait for less than this. -/
def shortestOffset : Duration := Duration.ofMillis 1

/-- How long a span is put off when `random` was drawn. -/
def offset (timing : Timing) (random : Duration) : Duration :=
  if timing.offsetRange = 0 then 0 else max random shortestOffset

end Timing

end Stackwatch

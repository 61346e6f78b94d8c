import Stackwatch.Burst.Timing
import Stackwatch.Flag
import Stackwatch.Notice
import Stackwatch.Sampler.Any

/-!
# Report windows

A window lies between two reports of one sampler. Bursts of sampling begin and end in it, at most
one at a time among all samplers: whoever begins a burst sets the flag that they share, and clears
it at the end of the burst. A report turns what was sampled into a profile and opens a new window.
-/

namespace Stackwatch

structure Window where
  sampler : Sampler
  /-- When the window was opened. -/
  openedAt : Instant
  /-- Total length of the bursts that ended in the window. -/
  sampled : Duration := 0
  /-- When the burst under way was begun. -/
  burst : Option Instant := none
  /-- Number of bursts begun in the window. -/
  spans : Nat := 0
  deriving Inhabited

namespace Window

/-- Opens a new window. A burst under way goes on in it. -/
def renew (now : Instant) (window : Window) : Window :=
  { window with
    sampler := window.sampler.reset
    openedAt := now
    sampled := 0
    spans := 0 }

/-- How a call that changes a window and the shared flag ends. -/
structure Step (α : Type) where
  result : Except Crash α
  flag : Flag
  window : Window
  notices : List Notice := []

/-- Whether the window has room for one more burst. -/
def hasRoom (timing : Timing) (window : Window) : Bool :=
  window.sampled ≤ timing.maxProfileDuration && window.spans < timing.maxSpanCount

/-- Tries to begin a burst; tells whether the sampler is now capturing. A crash of the sampler
    leaves the flag set. -/
def beginBurst (timing : Timing) (now : Instant) (flag : Flag) (window : Window) : Step Bool :=
  if flag.isSet then
    { result := .ok false, flag := flag, window := window }
  else if window.hasRoom timing then
    let (outcome, sampler) := window.sampler.start
    let window := { window with sampler := sampler }
    match outcome with
    | .returned () =>
        { result := .ok true
          flag := { isSet := true }
          window := { window with burst := some now, spans := window.spans + 1 } }
    | .failed error =>
        { result := .ok false
          flag := {}
          window := window
          notices := [.startFailed timing.name error] }
    | .crashed crash => { result := .error crash, flag := { isSet := true }, window := window }
  else
    { result := .ok false, flag := flag, window := window }

/-- Ends the burst under way, if there is one. A crash of the sampler leaves the flag set. -/
def endBurst (timing : Timing) (now : Instant) (flag : Flag) (window : Window) : Step Unit :=
  match window.burst with
  | none => { result := .ok (), flag := flag, window := window }
  | some begun =>
      let (outcome, sampler) := window.sampler.stop
      let window := { window with sampler := sampler, burst := none }
      let ended := { window with sampled := window.sampled + (now - begun) }
      match outcome with
      | .returned () => { result := .ok (), flag := {}, window := ended }
      | .failed error =>
          { result := .ok ()
            flag := {}
            window := ended
            notices := [.stopFailed timing.name error] }
      | .crashed crash => { result := .error crash, flag := flag, window := window }

/-- How a report ends, and the profile that is to be recorded. -/
structure Report where
  result : Except Crash Unit
  window : Window
  profile? : Option Profile := none
  notices : List Notice := []

/-- The profile as it is recorded: an empty one is not, and the process goes by its external name
    if it has one. -/
def recordable (externalProcess : Option String) (profile : Profile) : Option Profile :=
  if profile.roots.isEmpty then none
  else
    some (match externalProcess with
      | some process => profile.withProcess process
      | none => profile)

/-- Builds the profile of the window, if anything was sampled in it, and opens a new window. -/
def report (timing : Timing) (now : Instant) (origin : Profile.Origin)
    (externalProcess : Option String) (window : Window) : Report :=
  if timing.reportOnly || window.sampled != 0 then
    let (outcome, sampler) := window.sampler.build origin window.sampled (now - window.openedAt)
    let window := { window with sampler := sampler }
    match outcome with
    | .returned profile =>
        { result := .ok ()
          window := window.renew now
          profile? := recordable externalProcess profile }
    | .failed error =>
        { result := .ok ()
          window := window.renew now
          notices := [.buildFailed timing.name error] }
    | .crashed crash => { result := .error crash, window := window }
  else
    { result := .ok (), window := window.renew now }

end Window

end Stackwatch

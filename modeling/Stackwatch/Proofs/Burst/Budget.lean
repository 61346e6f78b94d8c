import Mathlib.Algebra.GroupWithZero.Nat
import Stackwatch.Proofs.Burst.Coverage

/-!
# The budget of a window

The bursts of a window are limited in number and in their total length. The number is counted where
a burst begins and the length where it ends, so the last burst of a window can go beyond the limit
of the length. This module keeps a logbook of the calls of a sampler beside its window: whoever sees
only the calls, how they end, and when a new window is opened, knows all that the window counts.
-/

namespace Stackwatch

/-- What a window counts. -/
structure Account where
  sampled : Duration
  spans : Nat
  burst : Option Instant
  deriving DecidableEq, Repr, Inhabited

def Window.account (window : Window) : Account :=
  { sampled := window.sampled, spans := window.spans, burst := window.burst }

/-- What the calls of a sampler tell of the window that is open. -/
structure Logbook where
  /-- When the burst under way was begun. -/
  underWay : Option Instant := none
  /-- Number of bursts begun in the window. -/
  spans : Nat := 0
  /-- Lengths of the bursts that ended in the window, the last one first. -/
  lengths : List Duration := []
  deriving DecidableEq, Repr, Inhabited

namespace Logbook

/-- How long was sampled in the window. -/
def sampled (logbook : Logbook) : Duration := logbook.lengths.sum

def account (logbook : Logbook) : Account :=
  { sampled := logbook.sampled, spans := logbook.spans, burst := logbook.underWay }

/-- The sampler was asked to start. -/
def started (now : Instant) (logbook : Logbook) : Outcome SamplerError Unit → Logbook
  | .returned () => { logbook with underWay := some now, spans := logbook.spans + 1 }
  | _ => logbook

/-- The sampler was asked to stop. If it crashes, the burst counts for nothing. -/
def stopped (now : Instant) (logbook : Logbook) : Outcome SamplerError Unit → Logbook
  | .crashed _ => { logbook with underWay := none }
  | _ =>
      { logbook with
        underWay := none
        lengths := (logbook.underWay.map fun begun => now - begun).toList ++ logbook.lengths }

/-- A new window was opened. -/
def renewed (logbook : Logbook) : Logbook := { underWay := logbook.underWay }

/-- The bursts of a window keep to its limits; the last one may go beyond that of the length, but
    only after it has begun. -/
structure Within (timing : Timing) (logbook : Logbook) : Prop where
  spans : logbook.spans ≤ timing.maxSpanCount
  earlier : logbook.lengths.tail.sum ≤ timing.maxProfileDuration
  underWay : logbook.underWay ≠ none → logbook.sampled ≤ timing.maxProfileDuration

/-- There is room for one more burst. -/
structure Room (timing : Timing) (logbook : Logbook) : Prop where
  spans : logbook.spans < timing.maxSpanCount
  sampled : logbook.sampled ≤ timing.maxProfileDuration

namespace Within

variable {timing : Timing} {logbook : Logbook} {ending : Outcome SamplerError Unit}

/-- In a new window all the room is left. -/
theorem renewed (timing : Timing) (logbook : Logbook) : logbook.renewed.Within timing where
  spans := Nat.zero_le _
  earlier := Nat.zero_le _
  underWay := fun _ => Nat.zero_le _

variable (within : logbook.Within timing)

include within

theorem started (now : Instant) (room : logbook.Room timing) :
    (logbook.started now ending).Within timing := by
  cases ending with
  | returned =>
      exact { spans := room.spans, earlier := within.earlier, underWay := fun _ => room.sampled }
  | failed error => exact within
  | crashed crash => exact within

/-- A burst that ends was begun with room to spare, so whatever it adds is added by the last burst
    alone. -/
theorem stopped (now : Instant) : (logbook.stopped now ending).Within timing := by
  have ended : Within timing
      { logbook with
        underWay := none
        lengths := (logbook.underWay.map fun begun => now - begun).toList ++ logbook.lengths } := by
    refine ⟨within.spans, ?_, fun underWay => absurd rfl underWay⟩
    cases burst : logbook.underWay with
    | none => exact within.earlier
    | some begun => exact within.underWay (by simp [burst])
  cases ending with
  | returned => exact ended
  | failed error => exact ended
  | crashed crash => exact ⟨within.spans, within.earlier, fun underWay => absurd rfl underWay⟩

/-- If no burst lasts longer than some time, no more is sampled than is allowed and that time. -/
theorem sampled_le {longest : Duration} (each : ∀ length ∈ logbook.lengths, length ≤ longest) :
    logbook.sampled ≤ timing.maxProfileDuration + longest := by
  have earlier := within.earlier
  rw [sampled]
  cases lengths : logbook.lengths with
  | nil => exact Nat.zero_le _
  | cons last rest =>
      rw [lengths, List.tail_cons] at earlier
      have lasted : last ≤ longest := each last (by simp [lengths])
      calc (last :: rest).sum
          = rest.sum + last := by rw [List.sum_cons, Nat.add_comm]
        _ ≤ timing.maxProfileDuration + longest := Nat.add_le_add earlier lasted

end Within

end Logbook

namespace Window

variable {timing : Timing} {now : Instant} {flag : Flag} {window : Window} {logbook : Logbook}

/-- Whoever starts the sampler has found room for one more burst. -/
theorem room_of_startCall? {ending : Outcome SamplerError Unit}
    (same : window.account = logbook.account)
    (called : window.startCall? timing flag = some ending) : logbook.Room timing := by
  obtain ⟨-, room, -⟩ := flag_of_startCall? called
  obtain ⟨sampled, spans⟩ := Bool.and_eq_true_iff.mp room
  have sampledEq : window.sampled = logbook.sampled := congrArg Account.sampled same
  have spansEq : window.spans = logbook.spans := congrArg Account.spans same
  exact ⟨spansEq ▸ of_decide_eq_true spans, sampledEq ▸ of_decide_eq_true sampled⟩

/-- An attempt at a burst changes the account as the call of the sampler tells. -/
theorem account_beginBurst (same : window.account = logbook.account) :
    (window.beginBurst timing now flag).window.account =
      ((window.startCall? timing flag).elim logbook (logbook.started now)).account := by
  cases called : window.startCall? timing flag with
  | none =>
      rw [beginBurst_of_startCall?_eq_none called]
      exact same
  | some ending =>
      cases ending with
      | returned =>
          have sampled : window.sampled = logbook.sampled := congrArg Account.sampled same
          have spans : window.spans = logbook.spans := congrArg Account.spans same
          rw [beginBurst_of_returned called]
          simp only [account, Logbook.account, Logbook.started, Option.elim_some, sampled, spans]
          rfl
      | failed error =>
          rw [beginBurst_of_failed called]
          exact same
      | crashed crash =>
          rw [beginBurst_of_crashed called]
          exact same

/-- The end of a burst changes the account as the call of the sampler tells. -/
theorem account_endBurst (same : window.account = logbook.account) :
    (window.endBurst timing now flag).window.account =
      (window.stopCall?.elim logbook (logbook.stopped now)).account := by
  have burstEq : window.burst = logbook.underWay := congrArg Account.burst same
  have sampledEq : window.sampled = logbook.lengths.sum := congrArg Account.sampled same
  have spansEq : window.spans = logbook.spans := congrArg Account.spans same
  cases burst : window.burst with
  | none =>
      have uncalled : window.stopCall? = none := Option.map_eq_none_iff.mpr burst
      rw [endBurst_of_stopCall?_eq_none uncalled, uncalled]
      exact same
  | some begun =>
      have called : window.stopCall? = some window.sampler.stop.1 := by
        rw [stopCall?, burst]
        rfl
      have underWay : logbook.underWay = some begun := burstEq.symm.trans burst
      rw [called]
      simp only [endBurst, burst]
      cases window.sampler.stop.1 <;>
        simp [account, Logbook.account, Logbook.stopped, Logbook.sampled, underWay, sampledEq,
          spansEq, Nat.add_comm]

theorem account_renew (same : window.account = logbook.account) :
    (window.renew now).account = logbook.renewed.account := by
  have burst : window.burst = logbook.underWay := congrArg Account.burst same
  simp only [account, renew, burst]
  rfl

/-- A report opens a new window, unless the sampler crashes; then the account stays as it was. -/
theorem account_report (same : window.account = logbook.account) (origin : Profile.Origin)
    (externalProcess : Option String) :
    let report := window.report timing now origin externalProcess
    (report.result = .ok () ∧ report.window.account = logbook.renewed.account) ∨
      (∃ crash, report.result = .error crash) ∧ report.window.account = logbook.account := by
  unfold report
  split
  · dsimp only
    split
    · exact .inl ⟨rfl, account_renew same⟩
    · exact .inl ⟨rfl, account_renew same⟩
    · next crash _ => exact .inr ⟨⟨crash, rfl⟩, same⟩
  · exact .inl ⟨rfl, account_renew same⟩

end Window

end Stackwatch

import Stackwatch.Proofs.Burst.Gathering

/-!
# How much of a window was sampled

A burst counts in the window in which it ends, with all of its length, so a window may count time
that lies before it: what the burst had lasted that was under way when the window was opened. Apart
from that no time counts that did not pass in the window.
-/

namespace Stackwatch

/-- Whatever a sampler builds states the times that it is given. -/
theorem Sampler.times_of_build {sampler : Sampler} {origin : Profile.Origin}
    {duration timespan : Duration} {profile : Profile}
    (built : (sampler.build origin duration timespan).1 = .returned profile) :
    profile.duration = duration ∧ profile.timespan = timespan := by
  cases sampler with
  | cpu sampler =>
      cases built
      exact ⟨rfl, rfl⟩
  | block sampler =>
      cases built
      exact ⟨rfl, rfl⟩
  | heap sampler =>
      have built : sampler.engine.takeSnapshot.1.andThen (fun snapshot => do
          let tree ← LiveHeap.treeOf sampler.filter snapshot
          .ok
            { origin := origin
              category := .memory
              kind := .memoryAllocations
              unit := .byte
              roots := tree.children
              duration := duration
              timespan := timespan }) = .returned profile := built
      cases taken : sampler.engine.takeSnapshot.1 with
      | failed error => simp [taken, Outcome.andThen] at built
      | crashed crash => simp [taken, Outcome.andThen] at built
      | returned snapshot =>
          simp only [taken, Outcome.andThen] at built
          cases folded : LiveHeap.treeOf sampler.filter snapshot with
          | error error =>
              rw [folded] at built
              cases built
          | ok tree =>
              rw [folded] at built
              cases built
              exact ⟨rfl, rfl⟩

namespace Window

/-- How long the burst under way has lasted, if there is one. -/
def underWayFor (now : Instant) (window : Window) : Duration :=
  (window.burst.map fun begun => now - begun).getD 0

/-- What a window counts lies in it, apart from some time that it has taken over. -/
structure Covers (carried : Duration) (now : Instant) (window : Window) : Prop where
  opened : window.openedAt ≤ now
  begun : ∀ begun ∈ window.burst, begun ≤ now
  account : window.sampled + window.underWayFor now ≤ now - window.openedAt + carried

/-- A profile that is handed over states the times of the window. -/
theorem times_of_report {timing : Timing} {now : Instant} {origin : Profile.Origin}
    {externalProcess : Option String} {window : Window} {profile : Profile}
    (handed : (window.report timing now origin externalProcess).profile? = some profile) :
    profile.duration = window.sampled ∧ profile.timespan = now - window.openedAt := by
  unfold report at handed
  split at handed
  · dsimp only at handed
    split at handed
    · next built returned =>
        obtain ⟨duration, timespan⟩ := Sampler.times_of_build returned
        dsimp only at handed
        unfold recordable at handed
        split at handed
        · cases handed
        · cases externalProcess <;> cases handed <;> exact ⟨duration, timespan⟩
    · cases handed
    · cases handed
  · cases handed

/-- A report opens a new window, unless the sampler crashes; then the window stays as it was. -/
theorem report_cases (timing : Timing) (now : Instant) (origin : Profile.Origin)
    (externalProcess : Option String) (window : Window) :
    let report := window.report timing now origin externalProcess
    (report.result = .ok () ∧ report.window.openedAt = now ∧ report.window.sampled = 0) ∨
      (∃ crash, report.result = .error crash) ∧ report.window.openedAt = window.openedAt ∧
        report.window.sampled = window.sampled := by
  unfold report
  split
  · dsimp only
    split
    · exact .inl ⟨rfl, rfl, rfl⟩
    · exact .inl ⟨rfl, rfl, rfl⟩
    · next crash _ => exact .inr ⟨⟨crash, rfl⟩, rfl, rfl⟩
  · exact .inl ⟨rfl, rfl, rfl⟩

namespace Covers

variable {carried : Duration} {now later : Instant} {window other : Window} {timing : Timing}
  {flag : Flag}

/-- In a new window the burst under way is all that there is. -/
theorem opening (begun : ∀ begun ∈ window.burst, begun ≤ now) (opened : other.openedAt = now)
    (nothing : other.sampled = 0) (burst : other.burst = window.burst) :
    other.Covers (window.underWayFor now) now := by
  refine ⟨Nat.le_of_eq opened, burst ▸ begun, ?_⟩
  rw [nothing, opened, Nat.sub_self]
  exact Nat.le_of_eq (by rw [underWayFor, burst, underWayFor])

variable (covers : window.Covers carried now)

include covers

/-- Only the times of a window matter. -/
theorem of_same (opened : other.openedAt = window.openedAt)
    (sampled : other.sampled = window.sampled) (burst : other.burst = window.burst) :
    other.Covers carried now := by
  refine ⟨opened ▸ covers.opened, burst ▸ covers.begun, ?_⟩
  rw [opened, sampled, underWayFor, burst]
  exact covers.account

/-- While time passes the window grows, and the burst under way no faster. -/
theorem wait (inOrder : now ≤ later) : window.Covers carried later := by
  have grows (sampled opened now later carried : Nat) (inOrder : now ≤ later)
      (account : sampled ≤ now - opened + carried) : sampled ≤ later - opened + carried := by omega
  have growsWith (sampled begun opened now later carried : Nat) (openedLe : opened ≤ now)
      (begunLe : begun ≤ now) (inOrder : now ≤ later)
      (account : sampled + (now - begun) ≤ now - opened + carried) :
      sampled + (later - begun) ≤ later - opened + carried := by omega
  obtain ⟨opened, past, account⟩ := covers
  refine ⟨Nat.le_trans opened inOrder, fun begun underWay => ?_, ?_⟩
  · exact Nat.le_trans (past begun underWay) inOrder
  · unfold underWayFor at account ⊢
    cases burst : window.burst with
    | none =>
        rw [burst] at account
        exact grows _ _ _ _ _ inOrder account
    | some begun =>
        rw [burst] at account
        exact growsWith _ _ _ _ _ _ opened (past begun burst) inOrder account

/-- A burst that begins has lasted for no time yet. -/
theorem beginBurst : (window.beginBurst timing now flag).window.Covers carried now := by
  cases called : window.startCall? timing flag with
  | none =>
      rw [Window.beginBurst_of_startCall?_eq_none called]
      exact covers
  | some ending =>
      cases ending with
      | returned =>
          rw [Window.beginBurst_of_returned called]
          refine ⟨covers.opened, ?_, ?_⟩
          · rintro begun ⟨⟩
            exact Nat.le_refl now
          · refine Nat.le_trans (Nat.add_le_add_left ?_ _) covers.account
            simp only [underWayFor, Option.map_some, Option.getD_some, Nat.sub_self]
            exact Nat.zero_le _
      | failed error =>
          rw [Window.beginBurst_of_failed called]
          exact covers.of_same rfl rfl rfl
      | crashed crash =>
          rw [Window.beginBurst_of_crashed called]
          exact covers.of_same rfl rfl rfl

/-- At the end of a burst its length is added to what was sampled; if the sampler crashes, it is
    lost. -/
theorem endBurst : (window.endBurst timing now flag).window.Covers carried now := by
  cases burst : window.burst with
  | none =>
      have uncalled : window.stopCall? = none := Option.map_eq_none_iff.mpr burst
      rw [Window.endBurst_of_stopCall?_eq_none uncalled]
      exact covers
  | some begun =>
      have account := covers.account
      have underWay : window.underWayFor now = now - begun := by
        simp only [underWayFor, burst, Option.map_some, Option.getD_some]
      rw [underWay] at account
      have idle (begun : Nat) (stillBurst : none = some begun) : begun ≤ now := by cases stillBurst
      simp only [Window.endBurst, burst]
      cases window.sampler.stop.1 with
      | returned => exact ⟨covers.opened, idle, account⟩
      | failed error => exact ⟨covers.opened, idle, account⟩
      | crashed crash =>
          exact ⟨covers.opened, idle, Nat.le_trans (Nat.add_le_add_left (Nat.zero_le _) _) account⟩

/-- A report that opens a new window takes over what the burst under way has lasted. -/
theorem report (origin : Profile.Origin) (externalProcess : Option String) :
    (window.report timing now origin externalProcess).window.Covers
      (if (window.report timing now origin externalProcess).result.isOk
        then window.underWayFor now else carried) now := by
  have burst := report_burst timing now origin externalProcess window
  obtain ⟨returned, opened, nothing⟩ | ⟨⟨crash, crashed⟩, opened, sampled⟩ :=
    report_cases timing now origin externalProcess window
  · rw [returned]
    exact opening covers.begun opened nothing burst
  · rw [crashed]
    exact covers.of_same opened sampled burst

end Covers

end Window

end Stackwatch

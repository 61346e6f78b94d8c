import Stackwatch.Proofs.Watch.Exclusion

/-!
# Release of the shared flag

A burst holds the flag from the start of its sampler to the stop. As long as no call of a sampler
crashes, every attempt gives the flag back or leaves it with a burst. A call that crashes leaves the
flag set although no burst is under way, and nobody can clear it after that: a watch in this state
never calls a sampler again.
-/

namespace Stackwatch

namespace Watch

/-- The crash in which a call ended, if it did. -/
def Call.crash? : Call → Option Crash
  | .start _ ending => ending.crash?
  | .stop _ ending => ending.crash?

/-- The flag is set exactly while a burst is under way. -/
structure Balanced (watch : Watch) : Prop where
  exclusive : Exclusive watch
  held : watch.active.isSet = true → ∃ index, watch.burst index ≠ none

/-- The flag is set, and no burst is under way that could clear it. -/
structure Stuck (watch : Watch) : Prop where
  set : watch.active.isSet = true
  idle : ∀ index, watch.burst index = none

variable {watch after : Watch} {calls : List Call}

/-! ### A flag that nobody clears -/

namespace Stuck

/-- A burst begins only where the flag is clear and ends only where it is under way, so neither can
    happen any more. -/
theorem turn (stuck : Stuck watch) (turn : Turn watch calls after) : calls = [] ∧ Stuck after := by
  cases turn with
  | quiet flag bursts =>
      refine ⟨rfl, ?_, ?_⟩
      · rw [flag]
        exact stuck.set
      · rw [bursts]
        exact stuck.idle
  | begun index clear flag bursts => simp [stuck.set] at clear
  | refused index error clear flag bursts => simp [stuck.set] at clear
  | startCrashed index crash clear flag bursts => simp [stuck.set] at clear
  | ended index ending sane underWay flag bursts => exact absurd (stuck.idle index) underWay
  | stopCrashed index crash underWay flag bursts => exact absurd (stuck.idle index) underWay

theorem run (stuck : Stuck watch) (operations : List Operation) :
    watch.calls operations = [] ∧ Stuck (watch.run operations) := by
  induction operations generalizing watch with
  | nil => exact ⟨rfl, stuck⟩
  | cons operation rest inductionHypothesis =>
      obtain ⟨uncalled, stillStuck⟩ := stuck.turn (turn_apply watch operation)
      obtain ⟨uncalledLater, stuckLater⟩ := inductionHypothesis stillStuck
      refine ⟨?_, stuckLater⟩
      rw [Watch.calls, uncalled, uncalledLater, List.nil_append]

end Stuck

/-! ### A flag that is given back -/

namespace Balanced

theorem of_idle (idle : ∀ index, watch.burst index = none) (clear : watch.active.isSet = false) :
    Balanced watch where
  exclusive := .of_idle idle
  held := fun set => by simp [set] at clear

/-- The flag stays with the bursts unless a call crashes; then it is stuck. -/
theorem turn (balanced : Balanced watch) (turn : Turn watch calls after) :
    (Balanced after ∧ ∀ call ∈ calls, call.crash? = none) ∨
      (Stuck after ∧ ∃ call ∈ calls, call.crash? ≠ none) := by
  have exclusive := balanced.exclusive.turn turn
  cases turn with
  | quiet flag bursts =>
      refine .inl ⟨⟨exclusive, ?_⟩, by simp⟩
      rw [flag, bursts]
      exact balanced.held
  | begun index clear flag bursts =>
      refine .inl ⟨⟨exclusive, fun _ => ⟨index, ?_⟩⟩, ?_⟩
      · rw [bursts, Function.update_self]
        exact Option.some_ne_none watch.now
      · intro call called
        cases List.mem_singleton.mp called
        rfl
  | refused index error clear flag bursts =>
      refine .inl ⟨⟨exclusive, fun set => ?_⟩, ?_⟩
      · simp [set] at flag
      · intro call called
        cases List.mem_singleton.mp called
        rfl
  | startCrashed index crash clear flag bursts =>
      refine .inr ⟨⟨flag, ?_⟩, _, List.mem_singleton_self _, Option.some_ne_none crash⟩
      rw [bursts]
      exact balanced.exclusive.burst_eq_none clear
  | ended index ending sane underWay flag bursts =>
      refine .inl ⟨⟨exclusive, fun set => ?_⟩, ?_⟩
      · simp [set] at flag
      · intro call called
        cases List.mem_singleton.mp called
        exact sane
  | stopCrashed index crash underWay flag bursts =>
      refine .inr ⟨⟨?_, balanced.exclusive.burst_of_ended underWay bursts⟩, _,
        List.mem_singleton_self _, Option.some_ne_none crash⟩
      rw [flag]
      exact balanced.exclusive.flagged index underWay

theorem run (balanced : Balanced watch) (operations : List Operation) :
    (Balanced (watch.run operations) ∧ ∀ call ∈ watch.calls operations, call.crash? = none) ∨
      (Stuck (watch.run operations) ∧ ∃ call ∈ watch.calls operations, call.crash? ≠ none) := by
  induction operations generalizing watch with
  | nil => exact .inl ⟨balanced, by simp [Watch.calls]⟩
  | cons operation rest inductionHypothesis =>
      simp only [Watch.calls, List.mem_append]
      rcases balanced.turn (turn_apply watch operation) with ⟨next, sane⟩ | ⟨stuck, crashed⟩
      · rcases inductionHypothesis next with ⟨last, saneLater⟩ | ⟨stuck, crashed⟩
        · exact .inl ⟨last, fun call called => called.elim (sane call) (saneLater call)⟩
        · obtain ⟨call, called, crash⟩ := crashed
          exact .inr ⟨stuck, call, .inr called, crash⟩
      · obtain ⟨call, called, crash⟩ := crashed
        exact .inr ⟨(stuck.run rest).2, call, .inl called, crash⟩

end Balanced

/-- The flag is set only while a burst is under way, exactly as long as no call of a sampler has
    crashed. Once one has, the flag stays set for ever and no sampler is called again. -/
theorem flag_released_iff_no_crash (watch : Watch) (idle : ∀ index, watch.burst index = none)
    (clear : watch.active.isSet = false) (operations : List Operation) :
    let present := watch.run operations
    ((present.active.isSet = true → ∃ index, present.burst index ≠ none) ↔
        ∀ call ∈ watch.calls operations, call.crash? = none) ∧
      (∀ index, present.burst index ≠ none → present.active.isSet = true) ∧
      ((∃ call ∈ watch.calls operations, call.crash? ≠ none) →
        ∀ later, present.calls later = [] ∧ (present.run later).active.isSet = true ∧
          ∀ index, (present.run later).burst index = none) := by
  intro present
  have flagged := ((Exclusive.of_idle idle).run operations).flagged
  rcases (Balanced.of_idle idle clear).run operations with ⟨balanced, sane⟩ | ⟨stuck, crashed⟩
  · refine ⟨⟨fun _ => sane, fun _ => balanced.held⟩, flagged, ?_⟩
    rintro ⟨call, called, crash⟩
    exact absurd (sane call called) crash
  · refine ⟨⟨fun released => ?_, fun sane => ?_⟩, flagged, fun _ later => ?_⟩
    · obtain ⟨index, underWay⟩ := released stuck.set
      exact absurd (stuck.idle index) underWay
    · obtain ⟨call, called, crash⟩ := crashed
      exact absurd (sane call called) crash
    · obtain ⟨uncalled, stuckLater⟩ := stuck.run later
      exact ⟨uncalled, stuckLater.set, stuckLater.idle⟩

/-- A sampler that crashes in its start keeps the other scheduler from ever calling its own. -/
theorem flag_released_iff_no_crash_pair :
    let present := samplePair (.crashed .silent)
    (∀ index, present.burst index = none) ∧ present.active.isSet = false ∧
      ∀ later, (present.run [.beginBurst 0]).calls later = [] ∧
        ((present.run [.beginBurst 0]).run later).active.isSet = true ∧
        ∀ index, ((present.run [.beginBurst 0]).run later).burst index = none := by
  intro present
  have idle : ∀ index, present.burst index = none := samplePair_idle (.crashed .silent)
  obtain ⟨-, -, stuck⟩ := flag_released_iff_no_crash present idle rfl [.beginBurst 0]
  exact ⟨idle, rfl, stuck ⟨.start 0 (.crashed .silent), List.mem_singleton.mpr rfl,
    Option.some_ne_none Crash.silent⟩⟩

/-- The flag is not given back in every case: a start that crashes leaves it set without a burst. -/
theorem flag_kept_by_crashed_start :
    ¬ ∀ watch : Watch, (∀ index, watch.burst index = none) → watch.active.isSet = false →
      ∀ operations, (watch.run operations).active.isSet = true →
        ∃ index, (watch.run operations).burst index ≠ none := by
  intro released
  obtain ⟨index, underWay⟩ := released (samplePair (.crashed .silent))
    (samplePair_idle (.crashed .silent)) rfl [.beginBurst 0] rfl
  match index with
  | 0 => exact underWay rfl
  | 1 => exact underWay rfl
  | _ + 2 => exact underWay rfl

end Watch

end Stackwatch

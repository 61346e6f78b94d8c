import Stackwatch.Proofs.Burst.Coverage

/-!
# What a window counts exactly

The end of a burst adds the length of the burst to what was sampled, and a report opens a new window
in which nothing was sampled yet: so it is unless the sampler crashes. A sampler crashes in these
calls only if its engine does when it is asked for data.
-/

namespace Stackwatch

/-! ### Samplers that do not crash -/

theorem Outcome.crash?_andThen {ε α β : Type} (outcome : Outcome ε α) (next : α → Except ε β) :
    (outcome.andThen next).crash? = outcome.crash? := by
  cases outcome with
  | returned value =>
      simp only [andThen]
      cases next value <;> rfl
  | failed error => rfl
  | crashed crash => rfl

namespace Engine

/-- An engine that never crashes when it is asked for data. -/
def Sane (engine : Engine) : Prop := ∀ count, (engine.writeAnswer count).crash? = none

theorem Sane.takeSnapshot {engine : Engine} (sane : engine.Sane) :
    engine.takeSnapshot.1.crash? = none := by
  have mapped (answer : Outcome EngineError Bytes) :
      (answer.mapError SamplerError.engine).crash? = answer.crash? := by
    cases answer <;> rfl
  simp only [Engine.takeSnapshot, Engine.write, Outcome.crash?_andThen, mapped]
  exact sane engine.writes

end Engine

namespace Sampler

variable {sampler : Sampler} (sane : sampler.engine.Sane)

include sane

theorem crash?_stop : sampler.stop.1.crash? = none := by
  cases sampler with
  | heap sampler => rfl
  | cpu sampler =>
      have answer : sampler.engine.takeSnapshot.1.crash? = none := Engine.Sane.takeSnapshot sane
      simp only [stop, CpuTime.stop, Prod.map]
      split
      · have ending := (Outcome.crash?_andThen _
          (CpuTime.foldSnapshot sampler.filter sampler.tree)).trans answer
        split
        · rfl
        · rfl
        · next crashed =>
            rw [crashed] at ending
            cases ending
      · rfl
  | block sampler =>
      have answer : (sampler.engine.setRate 0).takeSnapshot.1.crash? = none :=
        Engine.Sane.takeSnapshot sane
      simp only [stop, Contention.stop, Prod.map]
      split
      · have ending := (Outcome.crash?_andThen _
          (Contention.foldSnapshot sampler.filter sampler.baselines sampler.tree)).trans answer
        split
        · rfl
        · rfl
        · next crashed =>
            rw [crashed] at ending
            cases ending
      · rfl

theorem crash?_build (origin : Profile.Origin) (duration timespan : Duration) :
    (sampler.build origin duration timespan).1.crash? = none := by
  cases sampler with
  | cpu sampler => rfl
  | block sampler => rfl
  | heap sampler =>
      exact (Outcome.crash?_andThen _ _).trans (Engine.Sane.takeSnapshot sane)

end Sampler

/-! ### Windows -/

namespace Window

/-- What a window counts, with a sampler that does not crash when it is asked for data. -/
structure Counts (opened : Instant) (sampled : Duration) (window : Window) : Prop where
  sane : window.sampler.engine.Sane
  opened : window.openedAt = opened
  sampled : window.sampled = sampled

/-- After the end of a burst none is under way. -/
theorem burst_endBurst (timing : Timing) (now : Instant) (flag : Flag) (window : Window) :
    (window.endBurst timing now flag).window.burst = none := by
  cases called : window.stopCall? with
  | none =>
      rw [endBurst_of_stopCall?_eq_none called]
      exact Option.map_eq_none_iff.mp called
  | some ending => exact (endBurst_of_stopCall? timing now flag called).2.1

namespace Counts

variable {opened now : Instant} {sampled : Duration} {window : Window} {timing : Timing}
  {flag : Flag}

variable (counts : window.Counts opened sampled)

include counts

/-- Apart from the times of a window only the answers of its engine matter. -/
theorem of_same {other : Window}
    (answers : other.sampler.engine.writeAnswer = window.sampler.engine.writeAnswer)
    (openedAt : other.openedAt = window.openedAt) (same : other.sampled = window.sampled) :
    other.Counts opened sampled where
  sane := fun count => by rw [answers, counts.sane count]
  opened := openedAt.trans counts.opened
  sampled := same.trans counts.sampled

theorem beginBurst : (window.beginBurst timing now flag).window.Counts opened sampled := by
  have answers := Sampler.writeAnswer_start window.sampler
  cases called : window.startCall? timing flag with
  | none =>
      rw [Window.beginBurst_of_startCall?_eq_none called]
      exact counts
  | some ending =>
      cases ending with
      | returned =>
          rw [Window.beginBurst_of_returned called]
          exact counts.of_same answers rfl rfl
      | failed error =>
          rw [Window.beginBurst_of_failed called]
          exact counts.of_same answers rfl rfl
      | crashed crash =>
          rw [Window.beginBurst_of_crashed called]
          exact counts.of_same answers rfl rfl

/-- The end of a burst counts its length. -/
theorem endBurst {begun : Instant} (burst : window.burst = some begun) :
    (window.endBurst timing now flag).window.Counts opened (sampled + (now - begun)) := by
  have returns := Sampler.crash?_stop counts.sane
  have ended : (window.endBurst timing now flag).window =
      { window with
        sampler := window.sampler.stop.2
        burst := none
        sampled := window.sampled + (now - begun) } := by
    simp only [Window.endBurst, burst]
    cases ending : window.sampler.stop.1 with
    | returned => rfl
    | failed error => rfl
    | crashed crash =>
        rw [ending] at returns
        cases returns
  rw [ended]
  refine ⟨fun count => ?_, counts.opened, congrArg (· + (now - begun)) counts.sampled⟩
  rw [Sampler.writeAnswer_stop, counts.sane count]

theorem renew : (window.renew now).Counts now 0 :=
  ⟨fun count => by rw [Window.renew, Sampler.writeAnswer_reset, counts.sane count], rfl, rfl⟩

/-- A report opens a new window. -/
theorem report (origin : Profile.Origin) (externalProcess : Option String) :
    (window.report timing now origin externalProcess).window.Counts now 0 := by
  have built : Counts opened sampled
      { window with
        sampler := (window.sampler.build origin window.sampled (now - window.openedAt)).2 } :=
    counts.of_same (Sampler.writeAnswer_build ..) rfl rfl
  have returns := Sampler.crash?_build counts.sane origin window.sampled (now - window.openedAt)
  unfold Window.report
  split
  · dsimp only
    split
    · exact built.renew
    · exact built.renew
    · next crashed =>
        rw [crashed] at returns
        cases returns
  · exact counts.renew

end Counts

end Window

end Stackwatch

import Mathlib.Data.List.Basic
import Stackwatch.Proofs.Sampler.Baselines

/-!
# Starts and stops in any order

A sampler may be started twice, stopped without a start, or stopped while its engine fails. The main
statement says what an observer of its calls can rely on in every such run: whoever gets an error
finds the tree as it was before, a sampler is started exactly if a start has succeeded and no stop
came after it, and the engine captures blocking events exactly as long as its sampler is started.
-/

namespace Stackwatch

namespace Sampler

/-- Whether a capture was started and not stopped. -/
def running : Sampler → Bool
  | .cpu sampler => sampler.started
  | .heap _ => false
  | .block sampler => sampler.running

/-- How a call ends, apart from the profile that it may build. -/
def ending (sampler : Sampler) : Operation → Outcome SamplerError Unit
  | .start => sampler.start.1
  | .stop => sampler.stop.1
  | .reset => .returned ()
  | .build origin duration timespan =>
      (sampler.build origin duration timespan).1.andThen fun _ => .ok ()

/-- A call that was made, and how it ended. -/
structure Call where
  operation : Operation
  ending : Outcome SamplerError Unit

/-- Some calls to a sampler, one after the other, and how each of them ends. -/
def calls : Sampler → List Operation → List Call
  | _, [] => []
  | sampler, operation :: rest =>
      { operation := operation, ending := sampler.ending operation } ::
        (sampler.apply operation).calls rest

/-- A start has succeeded, and no stop since then has found the sampler started. -/
def UnderWay (calls : List Call) : Prop :=
  ∃ before after,
    calls = before ++ { operation := .start, ending := .returned () } :: after ∧
      ∀ call ∈ after, call.operation = .stop → call.ending = .failed .notStarted

/-- The call made last decides, or leaves the matter to those before it. -/
theorem underWay_append_iff {calls : List Call} {call : Call} :
    UnderWay (calls ++ [call]) ↔
      call = { operation := .start, ending := .returned () } ∨
        (UnderWay calls ∧ (call.operation = .stop → call.ending = .failed .notStarted)) := by
  constructor
  · rintro ⟨before, after, split, idle⟩
    rcases List.eq_nil_or_concat' after with rfl | ⟨earlier, last, rfl⟩
    · obtain ⟨-, same⟩ := List.append_inj' split rfl
      exact .inl (List.singleton_inj.mp same)
    · rw [← List.cons_append, ← List.append_assoc] at split
      obtain ⟨callsEq, same⟩ := List.append_inj' split rfl
      rw [List.singleton_inj.mp same]
      refine .inr ⟨⟨before, earlier, callsEq, ?_⟩, idle last (by simp)⟩
      intro call member
      exact idle call (List.mem_append_left _ member)
  · rintro (rfl | ⟨⟨before, after, rfl, idle⟩, last⟩)
    · exact ⟨calls, [], rfl, by simp⟩
    · refine ⟨before, after ++ [call], by simp, ?_⟩
      intro other member
      rcases List.mem_append.mp member with earlier | same
      · exact idle other earlier
      · rw [List.mem_singleton.mp same]
        exact last

end Sampler

/-! ### Errors on the way -/

section NotStarted

variable {α β : Type}

theorem Except.bind_ne_error {ε : Type} {error : ε} {first : Except ε α} {next : α → Except ε β}
    (ofFirst : first ≠ .error error) (ofNext : ∀ value, next value ≠ .error error) :
    (first >>= next) ≠ .error error := by
  cases first with
  | ok value => exact ofNext value
  | error other =>
      rintro ⟨⟩
      exact ofFirst rfl

theorem Outcome.andThen_ne_failed {ε : Type} {error : ε} {outcome : Outcome ε α}
    {next : α → Except ε β} (ofOutcome : outcome ≠ .failed error)
    (ofNext : ∀ value, next value ≠ .error error) : outcome.andThen next ≠ .failed error := by
  cases outcome with
  | crashed crash => exact nofun
  | failed other =>
      rintro ⟨⟩
      exact ofOutcome rfl
  | returned value =>
      intro failed
      apply ofNext value
      cases result : next value with
      | ok result => simp [andThen, result, ofExcept] at failed
      | error other => simpa [andThen, result, ofExcept] using failed

theorem Snapshot.requireColumn_ne_notStarted (snapshot : Snapshot) (kind : String) :
    snapshot.requireColumn kind ≠ .error .notStarted := by
  rw [requireColumn]
  cases snapshot.column? kind <;> simp

/-- Whatever goes wrong with a snapshot, it is not that the sampler was not started. -/
theorem Engine.takeSnapshot_ne_notStarted (engine : Engine) :
    engine.takeSnapshot.1 ≠ .failed .notStarted := by
  have mapped (answer : Outcome EngineError Bytes) :
      answer.mapError SamplerError.engine ≠ .failed .notStarted := by
    cases answer <;> exact nofun
  apply Outcome.andThen_ne_failed
  · exact mapped (engine.writeAnswer engine.writes)
  · intro bytes
    cases Snapshot.read bytes <;> rintro ⟨⟩

theorem CpuTime.foldSnapshot_ne_notStarted (filter : FrameFilter) (tree : CallTree)
    (snapshot : Snapshot) : foldSnapshot filter tree snapshot ≠ .error .notStarted := by
  apply Except.bind_ne_error (snapshot.requireColumn_ne_notStarted _)
  intro count
  apply Except.bind_ne_error (snapshot.requireColumn_ne_notStarted _)
  exact nofun

theorem Contention.foldSnapshot_ne_notStarted (filter : FrameFilter) (earlier : Baselines)
    (tree : CallTree) (snapshot : Snapshot) :
    foldSnapshot filter earlier tree snapshot ≠ .error .notStarted := by
  apply Except.bind_ne_error (snapshot.requireColumn_ne_notStarted _)
  intro contentions
  apply Except.bind_ne_error (snapshot.requireColumn_ne_notStarted _)
  exact nofun

end NotStarted

/-! ### What starts and stops do -/

namespace CpuTime

variable (sampler : CpuTime)

/-- A start that does not succeed leaves the sampler as started as it was. -/
theorem start_spec :
    sampler.start.2.engine.writes = sampler.engine.writes ∧
      (sampler.start.1 = .returned () → sampler.start.2.started = true) ∧
      (sampler.start.1 ≠ .returned () → sampler.start.2.started = sampler.started) := by
  unfold start
  dsimp only
  split
  · exact ⟨rfl, fun _ => rfl, fun failed => absurd rfl failed⟩
  · exact ⟨rfl, nofun, fun _ => rfl⟩
  · exact ⟨rfl, nofun, fun _ => rfl⟩

/-- A stop asks the engine for data if the sampler is started. Whatever comes of that, it is not
    started any more. -/
theorem stop_spec :
    sampler.stop.2.started = false ∧
      (sampler.stop.1 = .failed .notStarted ↔ sampler.started = false) ∧
      sampler.stop.2.engine.writes = sampler.engine.writes + sampler.started.toNat := by
  cases started : sampler.started with
  | false => simp [stop, started]
  | true =>
      have others : sampler.engine.takeSnapshot.1.andThen
          (foldSnapshot sampler.filter sampler.tree) ≠ .failed .notStarted :=
        Outcome.andThen_ne_failed sampler.engine.takeSnapshot_ne_notStarted
          (foldSnapshot_ne_notStarted _ _)
      simp only [stop, started, if_true]
      cases ending : sampler.engine.takeSnapshot.1.andThen
          (foldSnapshot sampler.filter sampler.tree) with
      | returned tree => exact ⟨rfl, by simp, rfl⟩
      | crashed crash => exact ⟨rfl, by simp, rfl⟩
      | failed error =>
          rw [ending] at others
          exact ⟨rfl, by simpa using others, rfl⟩

end CpuTime

namespace Contention

variable (sampler : Contention)

/-- A start that does not succeed leaves the sampler as started as it was, and the rate of the
    engine too. -/
theorem start_spec :
    sampler.start.2.engine.writes = sampler.engine.writes ∧
      (sampler.start.1 = .returned () → sampler.start.2.running = true ∧
        sampler.start.2.engine.rates = sampler.engine.rates ++ [fullRate]) ∧
      (sampler.start.1 ≠ .returned () → sampler.start.2.running = sampler.running ∧
        sampler.start.2.engine.rates = sampler.engine.rates) := by
  unfold start
  dsimp only
  split
  · exact ⟨rfl, fun _ => ⟨rfl, rfl⟩, fun failed => absurd rfl failed⟩
  · exact ⟨rfl, nofun, fun _ => ⟨rfl, rfl⟩⟩
  · exact ⟨rfl, nofun, fun _ => ⟨rfl, rfl⟩⟩

/-- A stop turns the capture off in any case, and asks the engine for data if the sampler is
    started. Whatever comes of that, it is not started any more. -/
theorem stop_spec :
    sampler.stop.2.running = false ∧
      (sampler.stop.1 = .failed .notStarted ↔ sampler.running = false) ∧
      sampler.stop.2.engine.writes = sampler.engine.writes + sampler.running.toNat ∧
      sampler.stop.2.engine.rates = sampler.engine.rates ++ [0] := by
  cases running : sampler.running with
  | false => simp [stop, running, Engine.setRate]
  | true =>
      have others : (sampler.engine.setRate 0).takeSnapshot.1.andThen
          (foldSnapshot sampler.filter sampler.baselines sampler.tree) ≠ .failed .notStarted :=
        Outcome.andThen_ne_failed (Engine.takeSnapshot_ne_notStarted _)
          (foldSnapshot_ne_notStarted _ _ _)
      simp only [stop, running, if_true]
      cases ending : (sampler.engine.setRate 0).takeSnapshot.1.andThen
          (foldSnapshot sampler.filter sampler.baselines sampler.tree) with
      | returned found => exact ⟨rfl, by simp, rfl, rfl⟩
      | crashed crash => exact ⟨rfl, by simp, rfl, rfl⟩
      | failed error =>
          rw [ending] at others
          exact ⟨rfl, by simpa using others, rfl, rfl⟩

/-- The engine records every blocking event exactly if the sampler is started. -/
def Rated : Prop := sampler.engine.rates.getLast? = some fullRate ↔ sampler.running = true

variable {sampler : Contention}

theorem Rated.start (rated : sampler.Rated) : sampler.start.2.Rated := by
  obtain ⟨-, returned, failed⟩ := sampler.start_spec
  by_cases succeeded : sampler.start.1 = .returned ()
  · obtain ⟨running, rates⟩ := returned succeeded
    simp [Rated, running, rates]
  · obtain ⟨running, rates⟩ := failed succeeded
    rw [Rated, running, rates]
    exact rated

theorem rated_stop : sampler.stop.2.Rated := by
  obtain ⟨running, -, -, rates⟩ := sampler.stop_spec
  simp [Rated, running, rates, fullRate]

end Contention

namespace Sampler

/-- A call that does not return leaves the tree as it is. -/
theorem tree_apply_of_failed {sampler : Sampler} {operation : Operation}
    (failed : sampler.ending operation ≠ .returned ()) :
    (sampler.apply operation).tree = sampler.tree := by
  cases operation with
  | start => exact sampler.tree_start
  | reset => exact absurd rfl failed
  | build origin duration timespan => cases sampler <;> rfl
  | stop =>
      have nothing : foldedBy sampler.pending sampler.stop.1 = [] := by
        unfold foldedBy
        split
        · next returned => exact absurd returned failed
        · rfl
      rw [apply, sampler.tree_stop, nothing]
      rfl

/-- Building a profile leaves a sampler as it is, but for an engine that is asked for data. -/
theorem build_keeps (sampler : Sampler) (origin : Profile.Origin) (duration timespan : Duration) :
    (sampler.build origin duration timespan).2.baselines = sampler.baselines ∧
      (sampler.build origin duration timespan).2.running = sampler.running ∧
      (sampler.gathers = true → (sampler.build origin duration timespan).2 = sampler) := by
  cases sampler with
  | cpu sampler => exact ⟨rfl, rfl, fun _ => rfl⟩
  | heap sampler => exact ⟨rfl, rfl, nofun⟩
  | block sampler => exact ⟨rfl, rfl, fun _ => rfl⟩

theorem reset_keeps (sampler : Sampler) :
    sampler.reset.baselines = sampler.baselines ∧ sampler.reset.running = sampler.running := by
  cases sampler <;> exact ⟨rfl, rfl⟩

variable {sampler : Sampler} (gathers : sampler.gathers = true)

include gathers

theorem start_spec :
    sampler.start.2.engine.writes = sampler.engine.writes ∧
      (sampler.start.1 = .returned () → sampler.start.2.running = true) ∧
      (sampler.start.1 ≠ .returned () → sampler.start.2.running = sampler.running) := by
  cases sampler with
  | heap sampler => cases gathers
  | cpu sampler => exact sampler.start_spec
  | block sampler =>
      obtain ⟨writes, returned, failed⟩ := sampler.start_spec
      exact ⟨writes, fun succeeded => (returned succeeded).1,
        fun unsuccessful => (failed unsuccessful).1⟩

theorem stop_spec :
    sampler.stop.2.running = false ∧
      (sampler.stop.1 = .failed .notStarted ↔ sampler.running = false) ∧
      sampler.stop.2.engine.writes = sampler.engine.writes + sampler.running.toNat := by
  cases sampler with
  | heap sampler => cases gathers
  | cpu sampler => exact sampler.stop_spec
  | block sampler =>
      obtain ⟨running, notStarted, writes, -⟩ := sampler.stop_spec
      exact ⟨running, notStarted, writes⟩

theorem gathers_apply (operation : Operation) : (sampler.apply operation).gathers = true := by
  cases operation with
  | start => exact (alike_start sampler).gathers.trans gathers
  | stop => exact (alike_stop sampler).gathers.trans gathers
  | reset => exact (alike_reset sampler).gathers.trans gathers
  | build origin duration timespan =>
      obtain ⟨_, built, -⟩ := exists_build_eq gathers origin duration timespan
      rw [apply, built]
      exact gathers

/-- Only starts and stops matter for whether a sampler is started. -/
theorem running_apply (operation : Operation) :
    (sampler.apply operation).running = true ↔
      (operation = .start ∧ sampler.ending .start = .returned ()) ∨
        (sampler.running = true ∧ operation ≠ .stop) := by
  cases operation with
  | start =>
      obtain ⟨-, returned, failed⟩ := start_spec gathers
      by_cases succeeded : sampler.start.1 = .returned ()
      · simp [apply, ending, succeeded, returned succeeded]
      · simp [apply, ending, succeeded, failed succeeded]
  | stop =>
      obtain ⟨running, -, -⟩ := stop_spec gathers
      simp [apply, running]
  | reset => cases sampler <;> simp [apply, reset, CpuTime.reset, Contention.reset, running]
  | build origin duration timespan =>
      obtain ⟨_, built, -⟩ := exists_build_eq gathers origin duration timespan
      simp [apply, built]

/-- The engine is asked for data by stops that find the sampler started. -/
theorem writes_apply (operation : Operation) :
    sampler.engine.writes < (sampler.apply operation).engine.writes ↔
      operation = .stop ∧ sampler.running = true := by
  cases operation with
  | start =>
      obtain ⟨writes, -, -⟩ := start_spec gathers
      simp [apply, writes]
  | stop =>
      obtain ⟨-, -, writes⟩ := stop_spec gathers
      cases running : sampler.running <;> simp [apply, writes, running]
  | reset => cases sampler <;> simp [apply, reset, CpuTime.reset, Contention.reset, engine]
  | build origin duration timespan =>
      obtain ⟨_, built, -⟩ := exists_build_eq gathers origin duration timespan
      simp [apply, built]

end Sampler

/-! ### Runs -/

namespace Sampler

/-- What holds of a sampler that gathers samples after some calls. -/
structure Consistent (past : List Call) (sampler : Sampler) : Prop where
  gathers : sampler.gathers = true
  running : sampler.running = true ↔ UnderWay past
  rated : ∀ present : Contention, sampler = .block present → present.Rated

namespace Consistent

variable {past : List Call} {sampler : Sampler} (consistent : sampler.Consistent past)

include consistent

theorem apply (operation : Operation) :
    (sampler.apply operation).Consistent
      (past ++ [{ operation := operation, ending := sampler.ending operation }]) := by
  refine ⟨gathers_apply consistent.gathers operation, ?_, ?_⟩
  · rw [running_apply consistent.gathers, underWay_append_iff, consistent.running]
    cases operation with
    | start => simp
    | reset => simp
    | build origin duration timespan => simp
    | stop =>
        -- A stop that does not find the sampler started leaves it as it was.
        have notStarted : sampler.ending .stop = .failed .notStarted ↔ ¬ UnderWay past := by
          rw [← consistent.running, Bool.not_eq_true]
          exact (stop_spec consistent.gathers).2.1
        simp [notStarted]
  · intro present same
    cases sampler with
    | cpu sampler => cases operation <;> cases same
    | heap sampler => cases operation <;> cases same
    | block sampler =>
        have rated : sampler.Rated := consistent.rated sampler rfl
        cases operation with
        | start =>
            cases same
            exact rated.start
        | stop =>
            cases same
            exact Contention.rated_stop
        | reset =>
            cases same
            exact rated
        | build origin duration timespan =>
            cases same
            exact rated

theorem run (operations : List Operation) :
    (sampler.run operations).Consistent (past ++ sampler.calls operations) := by
  induction operations generalizing past sampler with
  | nil =>
      rw [calls, List.append_nil]
      exact consistent
  | cons operation rest inductionHypothesis =>
      rw [calls, ← List.singleton_append, ← List.append_assoc]
      exact inductionHypothesis (consistent.apply operation)

end Consistent

/-- In every run of a sampler that gathers samples, whatever its engine does: a call that does not
    return leaves the tree as it was. A stop finds the sampler started exactly if a start has
    succeeded since the last stop that did, and leaves it not started however it ends. The engine is
    asked for data only by a stop that finds the sampler started. After every call the rate that was
    set last is that of a capture exactly if the sampler is started. -/
theorem errors_leave_sampler_whole (initial : Sampler) (gathers : initial.gathers = true)
    (idle : initial.running = false) (unset : initial.engine.rates.getLast? ≠ some 1)
    (operations : List Operation) :
    let present := initial.run operations
    let past := initial.calls operations
    (∀ operation, present.ending operation ≠ .returned () →
        (present.apply operation).tree = present.tree) ∧
      (present.stop.1 = .failed .notStarted ↔ ¬ UnderWay past) ∧
      (present.running = true ↔ UnderWay past) ∧
      present.stop.2.running = false ∧ present.stop.2.stop.1 = .failed .notStarted ∧
      (∀ operation, present.engine.writes < (present.apply operation).engine.writes ↔
        operation = .stop ∧ UnderWay past) ∧
      ∀ block : Contention, present = .block block →
        (block.engine.rates.getLast? = some 1 ↔ block.running = true) := by
  intro present past
  have never : ¬ UnderWay [] := by
    rintro ⟨before, after, split, -⟩
    simp at split
  have fresh : initial.Consistent [] := by
    refine ⟨gathers, by simp [idle, never], ?_⟩
    rintro block rfl
    have resting : ¬ block.running = true := Bool.eq_false_iff.mp idle
    exact iff_of_false unset resting
  have consistent : present.Consistent past := fresh.run operations
  obtain ⟨stopped, notStarted, -⟩ := stop_spec consistent.gathers
  have again : present.stop.2.stop.1 = .failed .notStarted := by
    have gathersThen : present.stop.2.gathers = true := gathers_apply consistent.gathers .stop
    exact (stop_spec gathersThen).2.1.mpr stopped
  refine ⟨fun operation => tree_apply_of_failed, ?_, consistent.running, stopped, again, ?_,
    consistent.rated⟩
  · rw [notStarted, ← consistent.running, Bool.not_eq_true]
  · intro operation
    rw [writes_apply consistent.gathers, consistent.running]

/-- A sampler of blocked time whose engine never hands out data. -/
def speechless : Sampler :=
  .block
    { engine :=
        { startAnswer := fun _ => .returned ()
          writeAnswer := fun _ => .failed .notRunning }
      filter := {} }

/-- The stop after a second start fails, and that turns the capture off for good. -/
theorem errors_leave_sampler_whole_speechless :
    let present := speechless.run [.start, .start]
    present.stop.1 = .failed (.engine .notRunning) ∧ UnderWay (speechless.calls [.start, .start]) ∧
      (present.apply .stop).tree = present.tree ∧
      (present.apply .stop).engine.rates = [1, 1, 0] ∧
      present.stop.2.stop.1 = .failed .notStarted := by
  intro present
  obtain ⟨tree, notStarted, -, -, again, -, -⟩ :=
    errors_leave_sampler_whole speechless rfl rfl (by decide) [.start, .start]
  have fails : present.stop.1 = .failed (.engine .notRunning) := rfl
  have underWay : UnderWay (speechless.calls [.start, .start]) := by
    by_contra ended
    rw [notStarted.mpr ended] at fails
    cases fails
  have unsuccessful : present.ending .stop ≠ .returned () := by
    intro returned
    cases fails.symm.trans returned
  exact ⟨fails, underWay, tree .stop unsuccessful, rfl, again⟩

end Sampler

end Stackwatch

import Mathlib.Logic.ExistsUnique
import Stackwatch.Engine.Shared

/-!
# One capture at a time

Engines begin and end their captures in any order, and a capture can go wrong at every step on the
way to its data. All that they rely on is that the facility refuses to start while it is running and
stops when a hold is given up. The main statement says that it runs exactly while one engine holds
it, whatever was called before; that only a free facility can be taken; and that the end of a
capture frees it in any case.
-/

namespace Stackwatch

variable {Index State : Type}

/-- What is known of a facility: while it is running it refuses to start, and a start that is
    refused changes nothing; while it is not running it starts, or no engine could ever begin a
    capture; and it stops when the hold is given up. That it starts is assumed of some frequencies
    only, those of the engines: of a number at which nothing can be sampled, such as zero, nothing
    is known. -/
structure SharedFacility.Lawful (facility : SharedFacility State) (running : State → Bool)
    (usable : Int → Prop) : Prop where
  refuses : ∀ frequency state, running state = true →
    ∃ reason, facility.start frequency state = (.error reason, state)
  starts : ∀ frequency, usable frequency → ∀ state, running state = false →
    ∃ after, facility.start frequency state = (.ok (), after) ∧ running after = true
  stops : ∀ state, running (facility.release state) = false

theorem SharedFacility.lawful_plain (usable : Int → Prop) : plain.Lawful id usable where
  refuses := by
    rintro frequency state rfl
    exact ⟨_, rfl⟩
  starts := by
    rintro frequency - state rfl
    exact ⟨_, rfl, rfl⟩
  stops _ := rfl

/-- A capture that is held and ended gives its data if all steps succeed. -/
theorem Harvest.written_eq_returned_iff {harvest : Harvest} {bytes : Bytes} :
    harvest.written = .returned bytes ↔
      harvest.encoding = .returned bytes ∧ harvest.writing = .returned () := by
  unfold written
  cases harvest.encoding with
  | failed reason => simp
  | crashed crash => simp
  | returned encoded => cases harvest.writing <;> simp

/-- No step on the way to the data fails for want of a capture. -/
theorem Harvest.written_ne_notRunning (harvest : Harvest) :
    harvest.written ≠ .failed .notRunning := by
  unfold written
  cases harvest.encoding with
  | failed reason => simp
  | crashed crash => simp
  | returned encoded => cases harvest.writing <;> simp

/-! ### A single engine -/

namespace BuiltInEngine

variable {facility : SharedFacility State} {state : State} {engine : BuiltInEngine}

theorem start_of_held (held : engine.holds = true) :
    engine.start facility state = (.error .alreadyRunning, state, engine) := by
  simp [start, held]

theorem stop_of_unheld (idle : engine.holds = false) (harvest : Harvest) :
    engine.stop facility harvest state = (.failed .notRunning, state, engine) := by
  simp [stop, idle]

/-- However the steps end, the hold is given up. -/
theorem stop_of_held (held : engine.holds = true) (harvest : Harvest) :
    (engine.stop facility harvest state).2 =
      (facility.release state, { engine with holds := false }) := by
  rw [stop, if_pos held]
  cases harvest.report <;> rfl

/-- A capture that is ended gives its data if all steps succeed, and does not fail for want of a
    capture. -/
theorem stop_answer_of_held (held : engine.holds = true) (harvest : Harvest) :
    (engine.stop facility harvest state).1 ≠ .failed .notRunning ∧
      ∀ bytes, (engine.stop facility harvest state).1 = .returned bytes ↔
        harvest.report = .returned () ∧ harvest.encoding = .returned bytes ∧
          harvest.writing = .returned () := by
  rw [stop, if_pos held]
  cases report : harvest.report with
  | failed reason => simp
  | crashed crash => simp
  | returned => exact ⟨harvest.written_ne_notRunning, by simp [Harvest.written_eq_returned_iff]⟩

variable {running : State → Bool} {usable : Int → Prop} (lawful : facility.Lawful running usable)

include lawful

theorem start_of_running (busy : running state = true) (idle : engine.holds = false) :
    ∃ reason, engine.start facility state = (.error (.facility reason), state, engine) := by
  obtain ⟨reason, refused⟩ := lawful.refuses engine.frequency state busy
  exact ⟨reason, by simp [start, idle, refused]⟩

theorem start_of_still (still : running state = false) (idle : engine.holds = false)
    (regular : usable engine.frequency) :
    ∃ after, engine.start facility state = (.ok (), after, { engine with holds := true }) ∧
      running after = true := by
  obtain ⟨after, started, runs⟩ := lawful.starts engine.frequency regular state still
  exact ⟨after, by simp [start, idle, started], runs⟩

end BuiltInEngine

/-! ### All engines -/

namespace BuiltInEngines

/-- A frequency at which one of the engines samples. -/
def Uses (engines : BuiltInEngines Index State) (frequency : Int) : Prop :=
  ∃ index, (engines.engine index).frequency = frequency

/-- The facility runs for one engine, which holds it, or for none. -/
structure RunsFor (running : State → Bool) (usable : Int → Prop) (holder : Option Index)
    (engines : BuiltInEngines Index State) : Prop where
  running : running engines.state = holder.isSome
  holds : ∀ index, (engines.engine index).holds = true ↔ holder = some index
  regular : ∀ index, usable (engines.engine index).frequency

namespace RunsFor

variable {running : State → Bool} {usable : Int → Prop} {holder : Option Index}
  {engines : BuiltInEngines Index State} {index : Index}

theorem holds_eq_false (runs : engines.RunsFor running usable holder)
    (other : holder ≠ some index) : (engines.engine index).holds = false :=
  Bool.eq_false_iff.mpr fun held => other ((runs.holds index).mp held)

/-- The facility runs exactly if there is one who holds it. -/
theorem running_iff (runs : engines.RunsFor running usable holder) :
    running engines.state = true ↔ ∃! index, (engines.engine index).holds = true := by
  simp only [runs.running, runs.holds]
  cases holder with
  | none => simp
  | some index =>
      exact iff_of_true rfl ⟨index, rfl, fun other same => (Option.some.inj same).symm⟩

end RunsFor

variable [DecidableEq Index]

/-- A call of one of the engines. -/
inductive Call (Index : Type) where
  | start (index : Index)
  | stop (index : Index) (harvest : Harvest)

def apply (facility : SharedFacility State) (engines : BuiltInEngines Index State) :
    Call Index → BuiltInEngines Index State
  | .start index => (engines.start facility index).2
  | .stop index harvest => (engines.stop facility index harvest).2

/-- Carries out calls one after the other. -/
def run (facility : SharedFacility State) (calls : List (Call Index))
    (engines : BuiltInEngines Index State) : BuiltInEngines Index State :=
  calls.foldl (apply facility) engines

theorem change_self (engines : BuiltInEngines Index State) (index : Index) :
    engines.change index (engines.state, engines.engine index) = engines := by
  have same : (fun other => if other = index then engines.engine index
      else engines.engine other) = engines.engine := by
    funext other
    split
    · next same => rw [same]
    · rfl
  rw [change, same]

namespace RunsFor

variable {facility : SharedFacility State} {running : State → Bool} {usable : Int → Prop}
  {holder : Option Index} {engines : BuiltInEngines Index State} {index : Index} {state : State}
  {engine : BuiltInEngine}

/-- An engine keeps its frequency. -/
theorem regular_change (runs : engines.RunsFor running usable holder)
    (kept : engine.frequency = (engines.engine index).frequency) (other : Index) :
    usable ((engines.change index (state, engine)).engine other).frequency := by
  by_cases own : other = index
  · simpa [change, own, kept] using runs.regular index
  · simpa [change, own] using runs.regular other

/-- Where nobody held the facility, one engine gets it. -/
theorem take (runs : engines.RunsFor running usable none) (busy : running state = true)
    (held : engine.holds = true) (kept : engine.frequency = (engines.engine index).frequency) :
    (engines.change index (state, engine)).RunsFor running usable (some index) where
  running := busy
  regular := runs.regular_change kept
  holds := by
    intro other
    by_cases own : other = index
    · simp [change, own, held]
    · have idle : (engines.engine other).holds = false := runs.holds_eq_false nofun
      simp [change, own, idle, Ne.symm own]

/-- Who held the facility gives it up. -/
theorem free (runs : engines.RunsFor running usable (some index)) (still : running state = false)
    (parted : engine.holds = false) (kept : engine.frequency = (engines.engine index).frequency) :
    (engines.change index (state, engine)).RunsFor running usable none where
  running := still
  regular := runs.regular_change kept
  holds := by
    intro other
    by_cases own : other = index
    · simp [change, own, parted]
    · have idle : (engines.engine other).holds = false :=
        runs.holds_eq_false fun same => own (Option.some.inj same).symm
      simp [change, own, idle]

theorem start_of_own (runs : engines.RunsFor running usable (some index)) :
    engines.start facility index = (.error .alreadyRunning, engines) := by
  have held : (engines.engine index).holds = true := (runs.holds index).mpr rfl
  rw [start, BuiltInEngine.start_of_held held]
  exact congrArg (Prod.mk _) (engines.change_self index)

theorem stop_of_other (runs : engines.RunsFor running usable holder)
    (different : holder ≠ some index) (harvest : Harvest) :
    engines.stop facility index harvest = (.failed .notRunning, engines) := by
  rw [stop, BuiltInEngine.stop_of_unheld (runs.holds_eq_false different)]
  exact congrArg (Prod.mk _) (engines.change_self index)

variable (lawful : facility.Lawful running usable)

include lawful

/-- A free facility is taken. -/
theorem start_of_free (runs : engines.RunsFor running usable none) (index : Index) :
    (engines.start facility index).1 = .ok () ∧
      (engines.start facility index).2.RunsFor running usable (some index) := by
  have idle : (engines.engine index).holds = false := runs.holds_eq_false nofun
  obtain ⟨after, started, busy⟩ :=
    BuiltInEngine.start_of_still lawful runs.running idle (runs.regular index)
  rw [start, started]
  exact ⟨rfl, runs.take busy rfl rfl⟩

/-- A facility that another engine holds is refused. -/
theorem start_of_other {other : Index} (runs : engines.RunsFor running usable (some other))
    (different : other ≠ index) :
    ∃ reason, engines.start facility index = (.error (.facility reason), engines) := by
  have idle := runs.holds_eq_false fun same => different (Option.some.inj same)
  obtain ⟨reason, refused⟩ := BuiltInEngine.start_of_running lawful runs.running idle
  rw [start, refused]
  exact ⟨reason, congrArg (Prod.mk _) (engines.change_self index)⟩

/-- However the steps end, the facility is free after the capture. -/
theorem stop_of_own (runs : engines.RunsFor running usable (some index)) (harvest : Harvest) :
    (engines.stop facility index harvest).2.RunsFor running usable none := by
  have held : (engines.engine index).holds = true := (runs.holds index).mpr rfl
  have freed : (engines.stop facility index harvest).2 = engines.change index
      (facility.release engines.state, { engines.engine index with holds := false }) :=
    congrArg (engines.change index) (BuiltInEngine.stop_of_held held harvest)
  rw [freed]
  exact runs.free (lawful.stops engines.state) rfl rfl

/-- Whatever is called, the facility runs for one engine or for none. -/
theorem apply (runs : engines.RunsFor running usable holder) (call : Call Index) :
    ∃ next, (engines.apply facility call).RunsFor running usable next := by
  cases call with
  | start index =>
      cases holder with
      | none => exact ⟨_, (runs.start_of_free lawful index).2⟩
      | some other =>
          by_cases same : other = index
          · subst same
            exact ⟨_, by rw [BuiltInEngines.apply, runs.start_of_own]; exact runs⟩
          · obtain ⟨reason, refused⟩ := runs.start_of_other lawful same
            exact ⟨_, by rw [BuiltInEngines.apply, refused]; exact runs⟩
  | stop index harvest =>
      by_cases own : holder = some index
      · subst own
        exact ⟨_, runs.stop_of_own lawful harvest⟩
      · exact ⟨_, by rw [BuiltInEngines.apply, runs.stop_of_other own]; exact runs⟩

theorem run (runs : engines.RunsFor running usable holder) (calls : List (Call Index)) :
    ∃ last, (engines.run facility calls).RunsFor running usable last := by
  induction calls generalizing engines holder with
  | nil => exact ⟨holder, runs⟩
  | cons call rest inductionHypothesis =>
      obtain ⟨next, runsNext⟩ := runs.apply lawful call
      exact inductionHypothesis runsNext

/-- How a start ends tells who holds the facility. -/
theorem start_answer (runs : engines.RunsFor running usable holder) (index : Index) :
    ((engines.start facility index).1 = .ok () ↔ holder = none) ∧
      ((engines.start facility index).1 = .error .alreadyRunning ↔ holder = some index) ∧
      ((∃ reason, (engines.start facility index).1 = .error (.facility reason)) ↔
        ∃ other, other ≠ index ∧ holder = some other) ∧
      ((engines.start facility index).1 ≠ .ok () →
        (engines.start facility index).2 = engines) := by
  cases holder with
  | none => simp [(runs.start_of_free lawful index).1]
  | some other =>
      by_cases same : other = index
      · subst same
        simp [runs.start_of_own]
      · obtain ⟨reason, refused⟩ := runs.start_of_other lawful same
        simp [refused, same]

end RunsFor

/-- Whatever captures were begun and ended, and however that went: the facility runs exactly while
    one engine holds it. An engine can begin a capture if nobody holds the facility, and is told
    whether it is itself the holder or another engine is; a start that fails changes nothing. An
    engine without a capture cannot end one, and trying to changes nothing. The end of a capture
    gives its data if all steps on the way succeed, and frees the facility in any case, so that
    every engine can begin the next. -/
theorem facility_serves_one_capture (facility : SharedFacility State) (running : State → Bool)
    (initial : BuiltInEngines Index State) (lawful : facility.Lawful running initial.Uses)
    (still : running initial.state = false)
    (unheld : ∀ index, (initial.engine index).holds = false) (calls : List (Call Index)) :
    let engines := initial.run facility calls
    (running engines.state = true ↔ ∃! index, (engines.engine index).holds = true) ∧
    (∀ index,
      let started := engines.start facility index
      (started.1 = .ok () ↔ ∀ other, (engines.engine other).holds = false) ∧
      (started.1 = .error .alreadyRunning ↔ (engines.engine index).holds = true) ∧
      ((∃ reason, started.1 = .error (.facility reason)) ↔
        ∃ other, other ≠ index ∧ (engines.engine other).holds = true) ∧
      (started.1 ≠ .ok () → started.2 = engines) ∧
      (started.1 = .ok () → running started.2.state = true ∧
        ∀ other, (started.2.engine other).holds = true ↔ other = index)) ∧
    ∀ index harvest,
      let stopped := engines.stop facility index harvest
      (stopped.1 = .failed .notRunning ↔ (engines.engine index).holds = false) ∧
      ((engines.engine index).holds = false → stopped.2 = engines) ∧
      (∀ bytes, stopped.1 = .returned bytes ↔ (engines.engine index).holds = true ∧
        harvest.report = .returned () ∧ harvest.encoding = .returned bytes ∧
        harvest.writing = .returned ()) ∧
      ((engines.engine index).holds = true → running stopped.2.state = false ∧
        (∀ other, (stopped.2.engine other).holds = false) ∧
        ∀ other, (stopped.2.start facility other).1 = .ok ()) := by
  intro engines
  have free : initial.RunsFor running initial.Uses none :=
    ⟨still, fun index => by simp [unheld index], fun index => ⟨index, rfl⟩⟩
  obtain ⟨holder, runs⟩ : ∃ holder, engines.RunsFor running initial.Uses holder :=
    free.run lawful calls
  refine ⟨runs.running_iff, fun index => ?_, fun index harvest => ?_⟩
  · intro started
    obtain ⟨ok, own, taken, unchanged⟩ := runs.start_answer lawful index
    have nobody : holder = none ↔ ∀ other, (engines.engine other).holds = false := by
      simp only [← Bool.not_eq_true, runs.holds]
      exact Option.eq_none_iff_forall_ne_some
    refine ⟨ok.trans nobody, own.trans (runs.holds index).symm, ?_, unchanged, fun begun => ?_⟩
    · simp only [runs.holds]
      exact taken
    · have freed : engines.RunsFor running initial.Uses none := ok.mp begun ▸ runs
      have next := freed.start_of_free lawful index
      refine ⟨next.2.running, fun other => (next.2.holds other).trans ?_⟩
      exact ⟨fun same => (Option.some.inj same).symm, fun same => congrArg some same.symm⟩
  · intro stopped
    by_cases own : holder = some index
    · subst own
      have held : (engines.engine index).holds = true := (runs.holds index).mpr rfl
      have next := runs.stop_of_own lawful harvest
      obtain ⟨captured, data⟩ := BuiltInEngine.stop_answer_of_held held harvest
      refine ⟨iff_of_false captured (by simp [held]), fun idle => ?_, fun bytes => ?_,
        fun _ => ?_⟩
      · cases held.symm.trans idle
      · exact (data bytes).trans (and_iff_right held).symm
      · exact ⟨next.running, fun other => next.holds_eq_false nofun,
          fun other => (next.start_of_free lawful other).1⟩
    · have idle := runs.holds_eq_false own
      have refused : stopped = (.failed .notRunning, engines) := runs.stop_of_other own harvest
      rw [refused, idle]
      exact ⟨iff_of_true rfl rfl, fun _ => rfl, fun bytes => iff_of_false nofun (by simp), nofun⟩

/-- Engines without a capture. -/
def idleEngines : BuiltInEngines Nat Bool := { state := false, engine := fun _ => {} }

/-- The samples cannot be encoded. -/
def lostCapture : Harvest :=
  { report := .returned (), encoding := .failed "no symbols", writing := .returned () }

/-- Another engine takes over after a capture was lost, and loses its own. -/
theorem facility_serves_one_capture_lost :
    let facility := SharedFacility.plain
    let engines := idleEngines.run facility [.start 1, .start 2, .stop 1 lostCapture, .start 2]
    facility.Lawful id idleEngines.Uses ∧ id idleEngines.state = false ∧
      (∀ index, (idleEngines.engine index).holds = false) ∧
      (engines.engine 2).holds = true ∧ (∃! index, (engines.engine index).holds = true) ∧
      (engines.start facility 1).2.state = true ∧
      ((engines.stop facility 2 lostCapture).2.start facility 1).1 = .ok () := by
  intro facility engines
  have lawful : facility.Lawful id idleEngines.Uses := SharedFacility.lawful_plain _
  obtain ⟨runs, starts, stops⟩ := facility_serves_one_capture facility id idleEngines lawful rfl
    (fun _ => rfl) [.start 1, .start 2, .stop 1 lostCapture, .start 2]
  have held : (engines.engine 2).holds = true := rfl
  have refused : (engines.start facility 1).1 ≠ .ok () := nofun
  obtain ⟨-, -, -, unchanged, -⟩ := starts 1
  obtain ⟨-, -, -, frees⟩ := stops 2 lostCapture
  refine ⟨lawful, rfl, fun _ => rfl, held, runs.mp rfl, ?_, (frees held).2.2 1⟩
  rw [unchanged refused]
  rfl

end BuiltInEngines

end Stackwatch

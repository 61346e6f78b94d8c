import Stackwatch.Proofs.Timer.Progress

/-!
# Stopping a timer

A timer that is stopped begins no job any more, and the job under way goes on to its end. The main
statement compares such a run with the one in which the same timer is never stopped: what happens in
the first is what happens in the second to the jobs that have begun by then, at the same times, and
nothing else. What the second run would do later leaves no trace in the first, whether the timer is
stopped during its delay, between two ticks or while it waits for a job, and whether it is stopped
once or again and again.
-/

namespace Stackwatch

namespace Timer

namespace Occurrence

def isBegin (occurrence : Occurrence) : Bool := occurrence.turn = .begins

theorem isBegin_last (time : Instant) (job : Nat) (crash? : Option Crash) :
    isBegin { time := time, job := job, turn := .last crash? } = false := by
  cases crash? <;> rfl

/-- Whether a job has begun by an instant. -/
def begunBy (instant : Instant) (history : List Occurrence) (job : Nat) : Bool :=
  history.any fun occurrence =>
    occurrence.isBegin && occurrence.job = job && occurrence.time ≤ instant

theorem begunBy_iff {instant : Instant} {history : List Occurrence} {job : Nat} :
    begunBy instant history job = true ↔
      ∃ occurrence ∈ history,
        occurrence.isBegin = true ∧ occurrence.job = job ∧ occurrence.time ≤ instant := by
  simp [begunBy, and_assoc]

end Occurrence

namespace Run

/-- What can be done with a timer once it has been started. -/
inductive Handling where
  | wait (length : Duration)
  /-- Stops the timer, or gives it up, which comes to the same. -/
  | stop

def handle : Handling → Run → Run
  | .wait length, run => run.advance (run.now + length)
  | .stop, run => run.stop

def handleAll : List Handling → Run → Run
  | [], run => run
  | handling :: later, run => handleAll later (run.handle handling)

/-- What happens meanwhile. -/
def historyOf : List Handling → Run → List Occurrence
  | [], _ => []
  | .wait length :: later, run =>
      run.history (run.now + length) ++ historyOf later (run.handle (.wait length))
  | .stop :: later, run => historyOf later (run.handle .stop)

theorem handleAll_cons (handling : Handling) (later : List Handling) (run : Run) :
    run.handleAll (handling :: later) = (run.handle handling).handleAll later := rfl

theorem historyOf_wait (length : Duration) (later : List Handling) (run : Run) :
    run.historyOf (.wait length :: later) =
      run.history (run.now + length) ++ (run.advance (run.now + length)).historyOf later := rfl

theorem historyOf_stop (later : List Handling) (run : Run) :
    run.historyOf (.stop :: later) = run.stop.historyOf later := rfl

def Handling.length : Handling → Duration
  | .wait length => length
  | .stop => 0

/-- How much time passes meanwhile. -/
def waited : List Handling → Duration
  | [] => 0
  | handling :: later => handling.length + waited later

/-- The end of the job under way, if it comes by an instant. -/
def ending (target : Instant) (run : Run) : List Occurrence :=
  match run.running with
  | some job =>
      if job.endsAt ≤ target then
        [{ time := job.endsAt, job := run.begun - 1, turn := .last job.crash? }]
      else []
  | none => []

/-- How many jobs have come to their end. -/
def closed (run : Run) : Nat := if run.running.isSome then run.begun - 1 else run.begun

theorem closed_of_idle {run : Run} (idle : run.running = none) : run.closed = run.begun := by
  rw [closed, idle]
  rfl

theorem closed_of_underWay {run : Run} {job : Running} (underWay : run.running = some job) :
    run.closed = run.begun - 1 := by
  rw [closed, underWay]
  rfl

/-! ### Which jobs a history is about -/

section Histories

variable {run after : Run} {target due : Instant} {happened : Option Occurrence}
  {history : List Occurrence}

/-- What happens is about the first job that is not over. -/
theorem Next.job (next : run.Next due happened after) (sound : run.Sound) :
    run.closed ≤ after.closed ∧ run.begun ≤ after.begun ∧
      ∀ occurrence ∈ happened, occurrence.time = due ∧ occurrence.job = run.closed ∧
        occurrence.job < after.begun := by
  cases next with
  | @ends job underWay =>
      obtain ⟨now, timer, jobs, begun, idle, events⟩ := run.endJob_fields job.endsAt job
      have some : run.begun ≠ 0 := sound.counted fun none => by cases none.symm.trans underWay
      rw [closed_of_underWay underWay, closed_of_idle idle, begun]
      refine ⟨Nat.sub_le _ _, Nat.le_refl _, ?_⟩
      rintro _ ⟨⟩
      exact ⟨rfl, rfl, Nat.sub_one_lt some⟩
  | breaks idle =>
      exact ⟨Nat.le_of_eq (closed_of_idle idle), Nat.le_refl _, nofun⟩
  | fires idle =>
      refine ⟨Nat.le_of_eq (closed_of_idle idle), Nat.le_succ _, ?_⟩
      rintro _ ⟨⟩
      exact ⟨rfl, (closed_of_idle idle).symm, Nat.lt_succ_self _⟩

theorem Goes.begun_le (goes : Goes target run history after) (sound : run.Sound) :
    run.begun ≤ after.begun := by
  induction goes with
  | rests => exact Nat.le_refl _
  | steps found _ _ inductionHypothesis =>
      have next := next_of_due found
      exact Nat.le_trans (next.job sound).2.1 (inductionHypothesis (next.sound sound))

/-- A history is about jobs that are not over at its beginning and have begun at its end. -/
theorem Goes.job (goes : Goes target run history after) (sound : run.Sound) :
    ∀ occurrence ∈ history, run.closed ≤ occurrence.job ∧ occurrence.job < after.begun := by
  induction goes with
  | rests => exact nofun
  | steps found _ goesOn inductionHypothesis =>
      have next := next_of_due found
      obtain ⟨fewerOver, fewerBegun, now⟩ := next.job sound
      intro occurrence member
      rcases List.mem_append.mp member with first | later
      · obtain ⟨-, job, begun⟩ := now occurrence (Option.mem_toList.mp first)
        exact ⟨Nat.le_of_eq job.symm,
          Nat.lt_of_lt_of_le begun (goesOn.begun_le (next.sound sound))⟩
      · obtain ⟨notOver, begun⟩ := inductionHypothesis (next.sound sound) occurrence later
        exact ⟨Nat.le_trans fewerOver notOver, begun⟩

theorem Goes.time (goes : Goes target run history after) (sound : run.Sound) :
    ∀ occurrence ∈ history, run.now ≤ occurrence.time ∧ occurrence.time ≤ target := by
  induction goes with
  | rests => exact nofun
  | steps found soon _ inductionHypothesis =>
      have next := next_of_due found
      intro occurrence member
      rcases List.mem_append.mp member with first | later
      · obtain ⟨time, -⟩ := (next.job sound).2.2 occurrence (Option.mem_toList.mp first)
        exact ⟨time ▸ next.le sound, time ▸ soon⟩
      · obtain ⟨notBefore, notAfter⟩ := inductionHypothesis (next.sound sound) occurrence later
        exact ⟨Nat.le_trans (next.le sound) (next.now ▸ notBefore), notAfter⟩

/-- Nothing happens before anything is due. -/
theorem Goes.time_of_late {between : Instant} (goes : Goes target run history after)
    (sound : run.Sound) (late : ∀ due, run.due? = some due → between < due) :
    ∀ occurrence ∈ history, between < occurrence.time := by
  cases goes with
  | rests => exact nofun
  | steps found _ goesOn =>
      have next := next_of_due found
      intro occurrence member
      rcases List.mem_append.mp member with first | later
      · obtain ⟨time, -⟩ := (next.job sound).2.2 occurrence (Option.mem_toList.mp first)
        exact time ▸ late _ found
      · have notBefore := (goesOn.time (next.sound sound) occurrence later).1
        exact Nat.lt_of_lt_of_le (late _ found) (next.now ▸ notBefore)

/-- A job is counted only if it begins. -/
theorem Goes.exists_begin (goes : Goes target run history after) {job : Nat}
    (notBefore : run.begun ≤ job) (begun : job < after.begun) :
    ∃ occurrence ∈ history, occurrence.isBegin = true ∧ occurrence.job = job := by
  induction goes with
  | rests => exact absurd begun (Nat.not_lt.mpr notBefore)
  | @steps run after due history found _ _ inductionHypothesis =>
      have further (left : (run.step due).begun ≤ job) :
          ∃ occurrence ∈ (run.happens due).toList ++ history,
            occurrence.isBegin = true ∧ occurrence.job = job := by
        obtain ⟨occurrence, member, found⟩ := inductionHypothesis left begun
        exact ⟨occurrence, List.mem_append_right _ member, found⟩
      generalize run.happens due = happened, run.step due = next, next_of_due found = comes
        at further inductionHypothesis ⊢
      cases comes with
      | @ends job underWay =>
          obtain ⟨-, -, -, same, -⟩ := run.endJob_fields job.endsAt job
          exact further (same ▸ notBefore)
      | breaks => exact further notBefore
      | fires =>
          rcases Nat.lt_or_eq_of_le notBefore with later | now
          · exact further later
          · exact ⟨_, List.mem_append_left _ List.mem_cons_self, rfl, now⟩

/-- The job under way has begun. -/
theorem ending_job (sound : run.Sound) :
    ∀ occurrence ∈ run.ending target, occurrence.job < run.begun := by
  intro occurrence member
  unfold ending at member
  split at member
  · next job found =>
      split at member
      · obtain rfl := List.mem_singleton.mp member
        exact Nat.sub_one_lt (sound.counted fun none => by cases none.symm.trans found)
      · cases member
  · cases member

theorem ending_isBegin : (run.ending target).filter Occurrence.isBegin = [] := by
  unfold ending
  split
  · split
    · rw [List.filter_singleton, Occurrence.isBegin_last]
      rfl
    · rfl
  · rfl

/-- After the end of the job under way a history is about jobs that have not begun yet. -/
theorem Goes.split (goes : Goes target run history after) (sound : run.Sound) :
    ∃ rest, history = run.ending target ++ rest ∧
      ∀ occurrence ∈ rest, run.begun ≤ occurrence.job := by
  cases underWay : run.running with
  | none =>
      refine ⟨history, by rw [ending, underWay]; rfl, fun occurrence member => ?_⟩
      exact closed_of_idle underWay ▸ (goes.job sound occurrence member).1
  | some job =>
      have due : run.due? = some job.endsAt := by rw [due?, underWay]
      cases goes with
      | rests late =>
          have later : ¬ job.endsAt ≤ target := Nat.not_le.mpr (late _ due)
          exact ⟨[], by rw [ending, underWay]; simp [later], List.forall_mem_nil _⟩
      | @steps _ _ _ rest found soon goesOn =>
          obtain rfl := Option.some.inj (due.symm.trans found)
          have next := next_of_due found
          refine ⟨rest, ?_, fun occurrence member => ?_⟩
          · rw [ending, underWay, happens, underWay]
            simp only [if_pos soon, Option.toList_some]
          · obtain ⟨-, -, -, begun, idle, -⟩ := run.endJob_fields job.endsAt job
            have ended : run.step job.endsAt = run.endJob job.endsAt job := by rw [step, underWay]
            have notOver := (goesOn.job (next.sound sound) occurrence member).1
            rwa [ended, closed_of_idle idle, begun] at notOver

theorem Goes.reached (goes : Goes target run history after) (sound : run.Sound)
    (behind : run.now ≤ target) : after.Reached target := by
  refine ⟨goes.now, ?_⟩
  induction goes with
  | @rests run late =>
      intro due found
      unfold due? at late found
      cases underWay : run.running with
      | some job =>
          simp only [underWay] at late found
          exact late due found
      | none =>
          simp only [underWay] at late found
          obtain ⟨wake, waits, rfl⟩ := Option.map_eq_some_iff.mp found
          have later : target < max run.now wake := late _ (by rw [waits]; rfl)
          have waiting (now target wake : Nat) (behind : now ≤ target)
              (later : target < max now wake) : target < max target wake := by omega
          exact waiting _ _ _ behind later
  | steps found soon _ inductionHypothesis =>
      have next := next_of_due found
      exact inductionHypothesis (next.sound sound) (Nat.le_trans (Nat.le_of_eq next.now) soon)

end Histories

/-! ### After the stop -/

/-- A run of a timer that was stopped. -/
structure Stopped (run : Run) : Prop where
  finished : run.timer.phase = .finished
  unawaited : ∀ job ∈ run.running, job.awaited = false

/-- A run whose timer still waits for its jobs. -/
def Attended (run : Run) : Prop := ∀ job ∈ run.running, job.awaited = true

section Stopped

variable {run after : Run} {target due : Instant} {happened : Option Occurrence}
  {history : List Occurrence}

theorem stopped_stop (run : Run) : run.stop.Stopped := by
  refine ⟨rfl, ?_⟩
  rintro job member
  obtain ⟨before, -, rfl⟩ := Option.map_eq_some_iff.mp member
  rfl

theorem stop_events (run : Run) : run.stop.events = run.events := rfl

theorem stop_notices (run : Run) : run.stop.notices = run.notices := rfl

theorem Sound.stop (sound : run.Sound) : run.stop.Sound := by
  refine ⟨paced_of_finished, ?_, fun busy => sound.counted ?_⟩
  · rintro job member
    obtain ⟨before, underWay, rfl⟩ := Option.map_eq_some_iff.mp member
    exact sound.ahead before underWay
  · rintro idle
    exact busy (by rw [Run.stop, idle]; rfl)

/-- Once is enough. -/
theorem Stopped.stop_eq (stopped : run.Stopped) : run.stop = run := by
  obtain ⟨now, ⟨interval, phase⟩, jobs, begun, running, events, notices⟩ := run
  obtain ⟨finished, unawaited⟩ := stopped
  cases finished
  cases running with
  | none => rfl
  | some job =>
      have same : job.awaited = false := unawaited job rfl
      simp only [Run.stop, Timer.stop, Option.map_some, ← same]

/-- All that still comes is the end of the job under way. -/
theorem Next.stopped (next : run.Next due happened after) (stopped : run.Stopped) :
    after.Stopped ∧ after.running = none ∧ after.notices = run.notices := by
  have silent : run.timer.due? = none := by rw [Timer.due?, stopped.finished]
  cases next with
  | @ends job underWay =>
      obtain ⟨-, timer, -, -, idle, -⟩ := run.endJob_fields job.endsAt job
      have finished : run.timer.jobEnded.phase = .finished := by
        simp only [Timer.jobEnded, stopped.finished]
      refine ⟨⟨timer ▸ finished, ?_⟩, idle, ?_⟩
      · rw [idle]
        intro other member
        cases member
      · unfold endJob
        rw [stopped.unawaited job underWay]
        cases job.crash? <;> rfl
  | breaks _ waits => cases silent.symm.trans waits
  | fires _ waits => cases silent.symm.trans waits

theorem Goes.stopped (goes : Goes target run history after) (stopped : run.Stopped) :
    after.Stopped ∧ after.notices = run.notices := by
  induction goes with
  | rests => exact ⟨⟨stopped.finished, stopped.unawaited⟩, rfl⟩
  | steps found _ _ inductionHypothesis =>
      obtain ⟨stoppedThen, -, same⟩ := (next_of_due found).stopped stopped
      obtain ⟨stoppedLast, sameLast⟩ := inductionHypothesis stoppedThen
      exact ⟨stoppedLast, sameLast.trans same⟩

/-- Nothing is due once the job under way is over. -/
theorem Stopped.due?_of_idle (stopped : run.Stopped) (idle : run.running = none) :
    run.due? = none := by
  rw [Run.due?, idle, Timer.due?, stopped.finished]
  rfl

theorem Goes.eq_ending (goes : Goes target run history after) (stopped : run.Stopped) :
    history = run.ending target := by
  cases underWay : run.running with
  | none =>
      have silent := stopped.due?_of_idle underWay
      rw [ending, underWay]
      cases goes with
      | rests => rfl
      | steps found => cases silent.symm.trans found
  | some job =>
      have due : run.due? = some job.endsAt := by rw [due?, underWay]
      rw [ending, underWay]
      cases goes with
      | rests late => exact (if_neg (Nat.not_le.mpr (late _ due))).symm
      | steps found soon goesOn =>
          obtain rfl := Option.some.inj (due.symm.trans found)
          obtain ⟨stoppedThen, idle, -⟩ := (next_of_due found).stopped stopped
          have silent := stoppedThen.due?_of_idle idle
          cases goesOn with
          | rests =>
              rw [happens, underWay]
              exact (if_pos soon).symm
          | steps foundThen => cases silent.symm.trans foundThen

theorem ending_stop (run : Run) (target : Instant) :
    run.stop.ending target = run.ending target := by
  unfold ending Run.stop
  cases run.running <;> rfl

/-- A timer that still waits for its jobs notices the crashes. -/
theorem Next.notices (next : run.Next due happened after) (attended : run.Attended) :
    after.Attended ∧
      after.notices = run.notices ++ happened.toList.filterMap Occurrence.notice? := by
  cases next with
  | @ends job underWay =>
      obtain ⟨-, -, -, -, idle, -⟩ := run.endJob_fields job.endsAt job
      refine ⟨?_, ?_⟩
      · unfold Attended
        rw [idle]
        exact nofun
      · unfold endJob
        rw [attended job underWay]
        cases job.crash? with
        | none => exact (List.append_nil _).symm
        | some crash => rfl
  | breaks => exact ⟨nofun, (List.append_nil _).symm⟩
  | fires =>
      refine ⟨?_, (List.append_nil _).symm⟩
      rintro _ ⟨⟩
      rfl

theorem Goes.notices (goes : Goes target run history after) (attended : run.Attended) :
    after.notices = run.notices ++ history.filterMap Occurrence.notice? := by
  induction goes with
  | rests => exact (List.append_nil _).symm
  | steps found _ _ inductionHypothesis =>
      obtain ⟨attendedThen, notices⟩ := (next_of_due found).notices attended
      rw [inductionHypothesis attendedThen, notices, List.filterMap_append, List.append_assoc]

/-- A run that has got to an instant is there. -/
theorem Reached.advance_self (reached : run.Reached target) (sound : run.Sound) :
    run.advance target = run ∧ run.history target = [] := by
  obtain ⟨rfl, late⟩ := reached
  obtain ⟨history, advance⟩ := (goes_advance sound run.now).unique (.rests late)
  exact ⟨advance, history⟩

/-- A stop makes nothing due any sooner. -/
theorem Reached.late_stop (reached : run.Reached target) (found : run.stop.due? = some due) :
    target < due := by
  cases underWay : run.running with
  | none =>
      have idle : run.stop.running = none := by rw [Run.stop, underWay]; rfl
      cases ((stopped_stop run).due?_of_idle idle).symm.trans found
  | some job =>
      have same : run.stop.due? = run.due? := by
        unfold due? Run.stop
        rw [underWay]
        rfl
      exact reached.late due (same.symm.trans found)

/-- However a stopped timer is treated, time passes and nothing else. -/
theorem Stopped.handleAll_eq (stopped : run.Stopped) (sound : run.Sound)
    (reached : run.Reached run.now) (script : List Handling) :
    run.handleAll script = run.advance (run.now + waited script) ∧
      run.historyOf script = run.history (run.now + waited script) := by
  induction script generalizing run with
  | nil =>
      obtain ⟨advance, history⟩ := reached.advance_self sound
      exact ⟨advance.symm, history.symm⟩
  | cons handling later inductionHypothesis =>
      cases handling with
      | stop =>
          have same : run.handle .stop = run := stopped.stop_eq
          unfold handleAll historyOf waited
          rw [same, Handling.length, Nat.zero_add]
          exact inductionHypothesis stopped sound reached
      | wait length =>
          have goes := goes_advance sound (run.now + length)
          have behind : run.now ≤ run.now + length := Nat.le_add_right _ _
          have reachedThen := goes.reached sound behind
          obtain ⟨goesOn, history⟩ := inductionHypothesis (goes.stopped stopped).1
            (goes.sound sound) (reachedThen.now.symm ▸ reachedThen)
          obtain ⟨whole, last⟩ := history_advance sound behind (Nat.le_add_right _ (waited later))
          unfold handleAll historyOf waited handle
          rw [goesOn, history, reachedThen.now, Handling.length, ← Nat.add_assoc, whole, last]
          exact ⟨rfl, rfl⟩

end Stopped

/-! ### With and without a stop -/

section Cut

variable {run middle after : Run} {instant target : Instant} {first second : List Occurrence}
  (goes : Goes instant run first middle) (goesOn : Goes target middle second after)
  (sound : run.Sound) (behind : run.now ≤ instant)

include goes goesOn sound behind

/-- What comes later than an instant is seen to do so. -/
theorem Goes.later_time : ∀ occurrence ∈ second, instant < occurrence.time :=
  goesOn.time_of_late (goes.sound sound) (goes.reached sound behind).late

/-- Which jobs have begun by an instant is seen from every later one as well. -/
theorem Goes.begunBy_iff (fresh : run.begun = 0) (job : Nat) :
    Occurrence.begunBy instant (first ++ second) job = true ↔ job < middle.begun := by
  rw [Occurrence.begunBy_iff]
  constructor
  · rintro ⟨occurrence, member, -, rfl, soon⟩
    rcases List.mem_append.mp member with earlier | later
    · exact (goes.job sound occurrence earlier).2
    · exact absurd soon (Nat.not_le.mpr (goes.later_time goesOn sound behind occurrence later))
  · intro begun
    obtain ⟨occurrence, member, begins, same⟩ :=
      goes.exists_begin (Nat.le_trans (Nat.le_of_eq fresh) (Nat.zero_le _)) begun
    refine ⟨occurrence, List.mem_append_left _ member, begins, same, ?_⟩
    exact (goes.time sound occurrence member).2

/-- What happens to the jobs that have begun by an instant. -/
theorem Goes.filter_begunBy (fresh : run.begun = 0) :
    (first ++ second).filter
        (fun occurrence => Occurrence.begunBy instant (first ++ second) occurrence.job) =
      first ++ middle.ending target := by
  have soundThen := goes.sound sound
  obtain ⟨rest, split, new⟩ := goesOn.split soundThen
  have begun (job : Nat) := goes.begunBy_iff goesOn sound behind fresh job
  generalize Occurrence.begunBy instant (first ++ second) = begunThen at begun ⊢
  have earlier : first.filter (fun occurrence => begunThen occurrence.job) = first := by
    refine List.filter_eq_self.mpr fun occurrence member => (begun _).mpr ?_
    exact (goes.job sound occurrence member).2
  have underWay : (middle.ending target).filter (fun occurrence => begunThen occurrence.job) =
      middle.ending target := by
    refine List.filter_eq_self.mpr fun occurrence member => (begun _).mpr ?_
    exact ending_job soundThen occurrence member
  have others : rest.filter (fun occurrence => begunThen occurrence.job) = [] := by
    refine List.filter_eq_nil_iff.mpr fun occurrence member found => ?_
    exact Nat.not_lt.mpr (new occurrence member) ((begun _).mp found)
  rw [split, List.filter_append, List.filter_append, earlier, underWay, others, List.append_nil]

/-- The beginnings among them are the beginnings up to the instant. -/
theorem Goes.filter_isBegin :
    (first ++ middle.ending target).filter Occurrence.isBegin =
      (first ++ second).filter
        (fun occurrence => occurrence.isBegin && occurrence.time ≤ instant) := by
  have earlier :
      first.filter (fun occurrence => occurrence.isBegin && occurrence.time ≤ instant) =
        first.filter Occurrence.isBegin := by
    refine List.filter_congr fun occurrence member => ?_
    simp [(goes.time sound occurrence member).2]
  have later :
      second.filter (fun occurrence => occurrence.isBegin && occurrence.time ≤ instant) = [] := by
    refine List.filter_eq_nil_iff.mpr fun occurrence member => ?_
    simp [Nat.not_le.mpr (goes.later_time goesOn sound behind occurrence member)]
  rw [List.filter_append, List.filter_append, earlier, later, ending_isBegin]

end Cut

/-- What is left of a run whose timer is stopped at an instant, however it is treated then. -/
theorem Reached.handleAll_stop {run : Run} {instant : Instant} (reached : run.Reached instant)
    (sound : run.Sound) (later : List Handling) :
    run.stop.handleAll later = run.stop.advance (instant + waited later) ∧
      run.stop.historyOf later = run.ending (instant + waited later) := by
  have stopped := stopped_stop run
  have nowThen : run.stop.now = instant := reached.now
  obtain ⟨last, history⟩ := stopped.handleAll_eq sound.stop
    ⟨rfl, fun due found => nowThen ▸ reached.late_stop found⟩ later
  rw [nowThen] at last history
  refine ⟨last, ?_⟩
  rw [history, (goes_advance sound.stop _).eq_ending stopped, ending_stop]

/-- A timer is stopped at some instant, and whatever is done with it later, it may be stopped again.
    Up to any time after that, what has happened is what has happened in the same time to the jobs
    begun by that instant when the timer is never stopped: these are the same beginnings, and the
    same ends and crashes at the same times. All of it is told by both runs, but crashes are noticed
    until the stop only. -/
theorem stop_cuts_history (started : Instant) (delay interval : Duration) (jobs : Nat → Job)
    (before : Duration) (later : List Handling) :
    let run := initial started delay interval jobs
    let instant := started + before
    let happened := run.historyOf (.wait before :: .stop :: later)
    let last := run.handleAll (.wait before :: .stop :: later)
    let undisturbed := run.history last.now
    let lastUndisturbed := run.advance last.now
    last.now = instant + waited later ∧ lastUndisturbed.now = last.now ∧
      happened = undisturbed.filter
        (fun occurrence => Occurrence.begunBy instant undisturbed occurrence.job) ∧
      happened.filter Occurrence.isBegin = undisturbed.filter
        (fun occurrence => occurrence.isBegin && occurrence.time ≤ instant) ∧
      last.events = happened.filterMap Occurrence.event? ∧
      lastUndisturbed.events = undisturbed.filterMap Occurrence.event? ∧
      last.notices = (run.history instant).filterMap Occurrence.notice? ∧
      lastUndisturbed.notices = undisturbed.filterMap Occurrence.notice? := by
  have sound := sound_initial started delay interval jobs
  have attended : (initial started delay interval jobs).Attended := nofun
  have behind : (initial started delay interval jobs).now ≤ started + before :=
    Nat.le_add_right _ _
  have fresh : (initial started delay interval jobs).begun = 0 := rfl
  have untold : (initial started delay interval jobs).events = [] := rfl
  have unnoticed : (initial started delay interval jobs).notices = [] := rfl
  have now : (initial started delay interval jobs).now = started := rfl
  dsimp only
  rw [handleAll_cons, handleAll_cons, historyOf_wait, historyOf_stop, handle, handle, now]
  generalize initial started delay interval jobs = run at *
  have inOrder : started + before ≤ started + before + waited later := Nat.le_add_right _ _
  have goes := goes_advance sound (started + before)
  have soundThen := goes.sound sound
  have goesOn := goes_advance soundThen (started + before + waited later)
  have cutOff := goes_advance soundThen.stop (started + before + waited later)
  have stopped := stopped_stop (run.advance (started + before))
  obtain ⟨last, ending⟩ := (goes.reached sound behind).handleAll_stop soundThen later
  obtain ⟨whole, lastUndisturbed⟩ := history_advance sound behind inOrder
  rw [last, ending, cutOff.now, whole, lastUndisturbed]
  refine ⟨rfl, goesOn.now, ?_, ?_, ?_, ?_, ?_, ?_⟩
  · exact (goes.filter_begunBy goesOn sound behind fresh).symm
  · exact goes.filter_isBegin goesOn sound behind
  · rw [cutOff.events, stop_events, goes.events, untold, cutOff.eq_ending stopped, ending_stop,
      List.filterMap_append, List.nil_append]
  · rw [goesOn.events, goes.events, untold, List.filterMap_append, List.nil_append]
  · rw [(cutOff.stopped stopped).2, stop_notices, goes.notices attended, unnoticed,
      List.nil_append]
  · rw [(goes.trans sound behind inOrder goesOn).notices attended, unnoticed, List.nil_append]

/-- A job that outlasts two intervals is left to finish, and there is no other after it. -/
example :
    (initial 0 0 (Duration.ofMillis 10) fun _ => .lasting (Duration.ofMillis 25) none).historyOf
        [.wait (Duration.ofMillis 15), .stop, .wait (Duration.ofMillis 30), .stop] =
      [{ time := Duration.ofMillis 10, job := 0, turn := .begins },
        { time := Duration.ofMillis 35, job := 0, turn := .returns }] := by
  decide +kernel

end Run

end Timer

end Stackwatch

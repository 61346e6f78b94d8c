import Stackwatch.Proofs.Timer.Jobs

/-!
# What happens in a run of a timer

The events of a run do not say which job they are about, and that a job crashed is told only while
its timer waits for it. The history of a run says both of every job. This module shows that a run
gets to each instant to which it is let go on, whatever the delay, the interval and the jobs are,
and that it makes no difference where it is let rest on the way: what happens up to a later instant
is what happens up to the earlier one, and then the rest.
-/

namespace Stackwatch

namespace Timer

/-- What can become of a job. -/
inductive Turn where
  | begins
  | returns
  | crashes (crash : Crash)
  deriving DecidableEq, Repr

/-- The last turn of a job. -/
def Turn.last : Option Crash → Turn
  | none => .returns
  | some crash => .crashes crash

/-- Something that happens to a job. The jobs of a timer are numbered in their order. -/
structure Occurrence where
  time : Instant
  job : Nat
  turn : Turn
  deriving DecidableEq, Repr

namespace Occurrence

/-- What a run tells of it. -/
def event? (occurrence : Occurrence) : Option Event :=
  match occurrence.turn with
  | .begins => some (.began occurrence.time)
  | .returns => some (.ended occurrence.time)
  | .crashes _ => none

/-- What a timer notices of it, if it waits for its jobs. -/
def notice? (occurrence : Occurrence) : Option Notice :=
  match occurrence.turn with
  | .crashes crash => some (.jobCrashed crash)
  | _ => none

end Occurrence

/-! ### How often a timer still fires -/

/-- Deadlines are set by intervals only. -/
def Paced (timer : Timer) : Prop := ∀ deadline, timer.nextDeadline? = some deadline →
  timer.interval ≠ 0

theorem paced_of_finished {interval : Duration} :
    Paced { interval := interval, phase := .finished } := nofun

theorem paced_nextInterval {now next : Instant} {interval : Duration}
    (found : nextInterval now interval = some next) : interval ≠ 0 := by
  rintro rfl
  cases found

theorem paced_start (now : Instant) (delay interval : Duration) :
    (start now delay interval).Paced := by
  intro deadline found
  unfold start at found ⊢
  split at found
  · next undelayed =>
      rw [if_pos undelayed]
      cases next : nextInterval now interval with
      | none => rw [next] at found; cases found
      | some first => exact paced_nextInterval next
  · cases found

theorem Paced.fire {timer : Timer} (paced : timer.Paced) (now : Instant) :
    (timer.fire now).Paced := by
  intro deadline found
  obtain ⟨interval, phase⟩ := timer
  cases phase with
  | delayed wake => exact paced_nextInterval found
  | ticking first => exact paced first rfl
  | busy next => exact paced deadline found
  | finished => cases found

theorem Paced.jobEnded {timer : Timer} (paced : timer.Paced) : timer.jobEnded.Paced := by
  obtain ⟨interval, phase⟩ := timer
  cases phase with
  | busy next =>
      cases next with
      | none => exact paced_of_finished
      | some first => exact fun _ _ => paced first rfl
  | _ => exact paced

/-- More than a timer can fire up to an instant, the end of its delay included. -/
def firesLeft (target now : Instant) (timer : Timer) : Nat :=
  match timer.phase with
  | .delayed _ => target - now + tolerance + 2
  | _ => ticksLeft target now (some timer)

section Fires

variable {target now later : Instant} {timer : Timer}

theorem firesLeft_le (target now : Instant) (timer : Timer) :
    timer.firesLeft target now ≤ target - now + tolerance + 2 := by
  unfold firesLeft
  split
  · exact Nat.le_refl _
  · exact Nat.le_succ_of_le (ticksLeft_le target now _)

theorem firesLeft_jobEnded (inOrder : now ≤ later) :
    timer.jobEnded.firesLeft target later ≤ timer.firesLeft target now := by
  have same := @ticksLeft_jobEnded target later (some timer)
  have ticks : ticksLeft target later (some timer.jobEnded) ≤ ticksLeft target now (some timer) :=
    Nat.le_trans (Nat.le_of_eq same) (ticksLeft_anti inOrder)
  obtain ⟨interval, phase⟩ := timer
  cases phase with
  | delayed wake =>
      exact Nat.add_le_add_right (Nat.add_le_add_right (Nat.sub_le_sub_left inOrder _) _) _
  | ticking deadline => exact ticks
  | busy next => cases next <;> exact ticks
  | finished => exact ticks

/-- Whenever it fires, a timer uses up one. -/
theorem firesLeft_fire {wake : Instant} (paced : timer.Paced) (due : timer.due? = some wake)
    (come : wake ≤ later) (inOrder : now ≤ later) (ahead : later ≤ target) :
    (timer.fire later).firesLeft target later < timer.firesLeft target now := by
  cases phase : timer.phase with
  | delayed _ =>
      have after :
          (timer.fire later).firesLeft target later ≤ target - later + tolerance + 1 := by
        simp only [fire, phase, firesLeft]
        exact ticksLeft_le target later _
      have before : timer.firesLeft target now = target - now + tolerance + 2 := by
        simp only [firesLeft, phase]
      have sooner : target - later ≤ target - now := Nat.sub_le_sub_left inOrder _
      rw [before]
      refine Nat.lt_of_le_of_lt after (Nat.lt_succ_of_le ?_)
      exact Nat.add_le_add_right (Nat.add_le_add_right sooner _) _
  | ticking deadline =>
      have steady : ∀ present ∈ some timer, Steady present := by
        rintro _ ⟨⟩
        refine ⟨fun wake delayed => ?_, .inr (paced deadline ?_)⟩
        · cases phase.symm.trans delayed
        · simp only [nextDeadline?, phase]
      have fewer : ticksLeft target later (some (timer.fire later)) <
          ticksLeft target now (some timer) :=
        Nat.lt_of_lt_of_le (ticksLeft_fire steady due come ahead) (ticksLeft_anti inOrder)
      have after : (timer.fire later).firesLeft target later =
          ticksLeft target later (some (timer.fire later)) := by
        simp only [fire, phase, firesLeft]
      have before : timer.firesLeft target now = ticksLeft target now (some timer) := by
        simp only [firesLeft, phase]
      rw [after, before]
      exact fewer
  | busy next => simp [due?, phase] at due
  | finished => simp [due?, phase] at due

end Fires

namespace Run

/-- What happens when a run does what is due. -/
def happens (now : Instant) (run : Run) : Option Occurrence :=
  match run.running with
  | some job => some { time := now, job := run.begun - 1, turn := .last job.crash? }
  | none =>
      if run.timer.breaksNext then none
      else some { time := now, job := run.begun, turn := .begins }

/-- What happens while a run is let go on. -/
def historyWith (target : Instant) : (fuel : Nat) → Run → List Occurrence
  | 0, _ => []
  | fuel + 1, run =>
      match run.due? with
      | some due =>
          if due ≤ target then (run.happens due).toList ++ historyWith target fuel (run.step due)
          else []
      | none => []

/-- What happens up to an instant. -/
def history (target : Instant) (run : Run) : List Occurrence :=
  run.historyWith target (run.patience target)

/-! ### One step -/

/-- The states that a run gets into. -/
structure Sound (run : Run) : Prop where
  paced : run.timer.Paced
  ahead : ∀ job ∈ run.running, run.now ≤ job.endsAt
  counted : run.running ≠ none → run.begun ≠ 0

/-- What is due, what happens then, and what is left of the run. -/
inductive Next (run : Run) : Instant → Option Occurrence → Run → Prop where
  | ends {job : Running} (underWay : run.running = some job) :
      Next run job.endsAt
        (some { time := job.endsAt, job := run.begun - 1, turn := .last job.crash? })
        (run.endJob job.endsAt job)
  | breaks {wake : Instant} (idle : run.running = none) (waits : run.timer.due? = some wake)
      (broken : run.timer.breaksNext = true) :
      Next run (max run.now wake) none
        { run with now := max run.now wake, timer := run.timer.stop, running := none }
  | fires {wake : Instant} (idle : run.running = none) (waits : run.timer.due? = some wake)
      (unbroken : run.timer.breaksNext = false) :
      Next run (max run.now wake)
        (some { time := max run.now wake, job := run.begun, turn := .begins })
        (run.beginJob (max run.now wake))

section Steps

variable {run after : Run} {target due : Instant} {happened : Option Occurrence}

theorem next_of_due (found : run.due? = some due) :
    run.Next due (run.happens due) (run.step due) := by
  unfold due? at found
  unfold happens step
  cases underWay : run.running with
  | some job =>
      simp only [underWay, Option.some.injEq] at found ⊢
      subst found
      exact .ends underWay
  | none =>
      simp only [underWay] at found ⊢
      obtain ⟨wake, waits, rfl⟩ := Option.map_eq_some_iff.mp found
      cases breaks : run.timer.breaksNext with
      | true => exact .breaks underWay waits breaks
      | false => exact .fires underWay waits breaks

theorem Next.now (next : run.Next due happened after) : after.now = due := by
  cases next with
  | ends underWay => exact (run.endJob_fields _ _).1
  | breaks => rfl
  | fires => rfl

/-- Time does not run backwards. -/
theorem Next.le (next : run.Next due happened after) (sound : run.Sound) : run.now ≤ due := by
  cases next with
  | ends underWay => exact sound.ahead _ underWay
  | breaks => exact Nat.le_max_left _ _
  | fires => exact Nat.le_max_left _ _

theorem Next.sound (next : run.Next due happened after) (sound : run.Sound) : after.Sound := by
  cases next with
  | @ends job underWay =>
      obtain ⟨now, timer, jobs, begun, idle, events⟩ := run.endJob_fields job.endsAt job
      refine ⟨timer ▸ sound.paced.jobEnded, ?_, fun busy => absurd idle busy⟩
      rw [idle]
      exact nofun
  | breaks => exact ⟨paced_of_finished, nofun, fun busy => absurd rfl busy⟩
  | fires =>
      refine ⟨sound.paced.fire _, ?_, fun _ => Nat.succ_ne_zero _⟩
      rintro _ ⟨⟩
      exact Nat.le_trans (Nat.le_add_right _ _) (Duration.le_ceilMillis _)

/-- More than the number of things that can happen up to an instant. -/
def turnsLeft (target : Instant) (run : Run) : Nat :=
  2 * run.timer.firesLeft target run.now + if run.running.isSome then 1 else 0

theorem turnsLeft_lt_patience (target : Instant) (run : Run) :
    run.turnsLeft target < run.patience target := by
  have bounded := firesLeft_le target run.now run.timer
  unfold turnsLeft patience
  split <;> omega

/-- Whatever comes uses up one. -/
theorem Next.turnsLeft (next : run.Next due happened after) (sound : run.Sound)
    (soon : due ≤ target) : after.turnsLeft target < run.turnsLeft target := by
  have inOrder := next.le sound
  cases next with
  | @ends job underWay =>
      obtain ⟨now, timer, jobs, begun, idle, events⟩ := run.endJob_fields job.endsAt job
      have fewer : run.timer.jobEnded.firesLeft target job.endsAt ≤
          run.timer.firesLeft target run.now := firesLeft_jobEnded inOrder
      unfold Run.turnsLeft
      rw [now, timer, idle, underWay]
      exact Nat.lt_succ_of_le (Nat.mul_le_mul_left 2 fewer)
  | breaks idle waits broken =>
      have delayed : 0 < run.timer.firesLeft target run.now := by
        cases phase : run.timer.phase with
        | delayed wake =>
            simp only [firesLeft, phase]
            exact Nat.succ_pos _
        | _ => simp [breaksNext, phase] at broken
      unfold Run.turnsLeft
      rw [idle]
      exact Nat.lt_add_right _ (Nat.mul_pos Nat.two_pos delayed)
  | fires idle waits unbroken =>
      have fewer := firesLeft_fire sound.paced waits (Nat.le_max_right _ _) inOrder soon
      unfold Run.turnsLeft
      rw [idle]
      simp only [beginJob, Option.isSome_some, Option.isSome_none, if_true, Bool.false_eq_true,
        if_false]
      omega

/-- A run tells what happens. -/
theorem Next.events (next : run.Next due happened after) :
    after.events = run.events ++ happened.toList.filterMap Occurrence.event? := by
  cases next with
  | @ends job underWay =>
      obtain ⟨now, timer, jobs, begun, idle, events⟩ := run.endJob_fields job.endsAt job
      rw [events]
      cases job.crash? <;> rfl
  | breaks => exact (List.append_nil _).symm
  | fires => rfl

end Steps

/-! ### From one instant to another -/

/-- What happens up to an instant, and where the run gets to. -/
inductive Goes (target : Instant) : Run → List Occurrence → Run → Prop where
  | rests {run : Run} (late : ∀ due, run.due? = some due → target < due) :
      Goes target run [] { run with now := target }
  | steps {run after : Run} {due : Instant} {history : List Occurrence}
      (found : run.due? = some due) (soon : due ≤ target)
      (goesOn : Goes target (run.step due) history after) :
      Goes target run ((run.happens due).toList ++ history) after

section Goes

variable {run mid after : Run} {between target : Instant} {first second history : List Occurrence}

theorem goes_advanceWith {fuel : Nat} (sound : run.Sound) (enough : run.turnsLeft target < fuel) :
    Goes target run (run.historyWith target fuel) (run.advanceWith target fuel) := by
  induction fuel generalizing run with
  | zero => exact absurd enough (Nat.not_lt_zero _)
  | succ fuel inductionHypothesis =>
      unfold historyWith advanceWith
      cases found : run.due? with
      | none => exact .rests fun due foundThen => by cases found.symm.trans foundThen
      | some due =>
          by_cases soon : due ≤ target
          · have next := next_of_due found
            have enoughThen : (run.step due).turnsLeft target < fuel :=
              Nat.lt_of_lt_of_le (next.turnsLeft sound soon) (Nat.le_of_lt_succ enough)
            simp only [if_pos soon]
            exact .steps found soon (inductionHypothesis (next.sound sound) enoughThen)
          · simp only [if_neg soon]
            refine .rests fun later foundThen => ?_
            obtain rfl := Option.some.inj (found.symm.trans foundThen)
            exact Nat.lt_of_not_le soon

/-- A run gets to the instant to which it is let go on. -/
theorem goes_advance (sound : run.Sound) (target : Instant) :
    Goes target run (run.history target) (run.advance target) :=
  goes_advanceWith sound (turnsLeft_lt_patience target run)

/-- There is only one way on. -/
theorem Goes.unique (goes : Goes target run first mid) (other : Goes target run second after) :
    first = second ∧ mid = after := by
  induction goes generalizing second with
  | rests late =>
      cases other with
      | rests => exact ⟨rfl, rfl⟩
      | steps found soon => exact absurd soon (Nat.not_le.mpr (late _ found))
  | steps found soon goesOn inductionHypothesis =>
      cases other with
      | rests late => exact absurd soon (Nat.not_le.mpr (late _ found))
      | steps foundThen _ goesOnThen =>
          obtain rfl := Option.some.inj (found.symm.trans foundThen)
          obtain ⟨rfl, rfl⟩ := inductionHypothesis goesOnThen
          exact ⟨rfl, rfl⟩

theorem Goes.now (goes : Goes target run history after) : after.now = target := by
  induction goes with
  | rests => rfl
  | steps _ _ _ inductionHypothesis => exact inductionHypothesis

theorem Goes.sound (goes : Goes target run history after) (sound : run.Sound) : after.Sound := by
  induction goes with
  | @rests run late =>
      refine ⟨sound.paced, fun job underWay => ?_, sound.counted⟩
      have due : run.due? = some job.endsAt := by
        unfold due?
        rw [show run.running = some job from underWay]
      exact Nat.le_of_lt (late _ due)
  | steps found _ _ inductionHypothesis =>
      exact inductionHypothesis ((next_of_due found).sound sound)

/-- A run that has rested until an instant before anything is due goes on as if it had not. -/
theorem Goes.of_rested (goes : Goes target { run with now := between } history after)
    (late : ∀ due, run.due? = some due → between < due) (behind : run.now ≤ between) :
    Goes target run history after := by
  have same : due? { run with now := between } = run.due? := by
    unfold due? at late ⊢
    cases underWay : run.running with
    | some job => rfl
    | none =>
        simp only [underWay] at late ⊢
        cases waits : run.timer.due? with
        | none => rfl
        | some wake =>
            have later : between < max run.now wake := late _ (by rw [waits]; rfl)
            have waiting (now between wake : Nat) (behind : now ≤ between)
                (later : between < max now wake) : max between wake = max now wake := by omega
            simp only [Option.map_some, waiting _ _ _ behind later]
  cases goes with
  | rests lateThen => exact .rests (same ▸ lateThen)
  | steps found soon goesOn => exact .steps (same ▸ found) soon goesOn

/-- It makes no difference where a run rests on the way. -/
theorem Goes.trans (goes : Goes between run first mid) (sound : run.Sound)
    (behind : run.now ≤ between) (inOrder : between ≤ target)
    (goesOn : Goes target mid second after) : Goes target run (first ++ second) after := by
  induction goes with
  | rests late => exact goesOn.of_rested late behind
  | steps found soon _ inductionHypothesis =>
      have next := next_of_due found
      rw [List.append_assoc]
      have behindThen := Nat.le_trans (Nat.le_of_eq next.now) soon
      exact .steps found (Nat.le_trans soon inOrder)
        (inductionHypothesis (next.sound sound) behindThen goesOn)

/-- A run tells its history. -/
theorem Goes.events (goes : Goes target run history after) :
    after.events = run.events ++ history.filterMap Occurrence.event? := by
  induction goes with
  | rests => exact (List.append_nil _).symm
  | steps found _ _ inductionHypothesis =>
      rw [inductionHypothesis, (next_of_due found).events, List.filterMap_append, List.append_assoc]

end Goes

/-- What happens up to an instant is what happens up to an earlier one, and then the rest. -/
theorem history_advance {run : Run} {between target : Instant} (sound : run.Sound)
    (behind : run.now ≤ between) (inOrder : between ≤ target) :
    run.history target = run.history between ++ (run.advance between).history target ∧
      run.advance target = (run.advance between).advance target := by
  have onTheWay := goes_advance sound between
  have further := goes_advance (onTheWay.sound sound) target
  exact (goes_advance sound target).unique (onTheWay.trans sound behind inOrder further)

theorem sound_initial (started : Instant) (delay interval : Duration) (jobs : Nat → Job) :
    (initial started delay interval jobs).Sound :=
  ⟨paced_start started delay interval, nofun, fun busy => absurd rfl busy⟩

end Run

end Timer

end Stackwatch

import Stackwatch.Proofs.Timer.Deadlines
import Stackwatch.Timer.Run

/-!
# The plan of a timer

When the jobs of a timer begin is decided by the end of its delay, by its interval, and by how long
the jobs take. This module states the recurrence: a job begins when the job before it has ended and
its deadline has come, and the next deadline depends on how late that was. Jobs that are over within
an interval are begun on time, without any drift; and however long they take, no two of them are
begun in less than an interval, apart from the tolerance.
-/

namespace Stackwatch

namespace Duration

theorem dvd_ceilMillis (time : Instant) : 1000000 ∣ ceilMillis time := Nat.dvd_mul_left _ _

theorem ceilMillis_of_dvd {time : Instant} (whole : 1000000 ∣ time) : ceilMillis time = time := by
  have rounds (time : Nat) (whole : 1000000 ∣ time) :
      (time + 999999) / 1000000 * 1000000 = time := by omega
  exact rounds time whole

end Duration

namespace Timer

/-- What decides when the jobs of a timer begin. The place of a job says how many intervals were
    begun before it: in place zero stands the job at the end of the delay. -/
structure Plan where
  /-- The end of the delay. -/
  origin : Instant
  interval : Duration
  /-- How long the job in a place takes. -/
  length : Nat → Duration

/-- When a job should begin, and when it does. -/
structure Tick where
  deadline : Instant
  begins : Instant

namespace Plan

/-- The tick in a place. -/
def tick (plan : Plan) : Nat → Tick
  | 0 => { deadline := plan.origin, begins := plan.origin }
  | place + 1 =>
      let before := plan.tick place
      let deadline := deadlineAfter before.begins before.deadline plan.interval
      { deadline := deadline
        begins := max (Duration.ceilMillis (before.begins + plan.length place))
          (Duration.ceilMillis deadline) }

def deadline (plan : Plan) (place : Nat) : Instant := (plan.tick place).deadline

def begins (plan : Plan) (place : Nat) : Instant := (plan.tick place).begins

/-- When the job in a place is over. -/
def ends (plan : Plan) (place : Nat) : Instant :=
  Duration.ceilMillis (plan.begins place + plan.length place)

/-- All times of the plan itself are full milliseconds. -/
structure Whole (plan : Plan) : Prop where
  origin : 1000000 ∣ plan.origin
  interval : 1000000 ∣ plan.interval

section

variable (plan : Plan) (place : Nat)

theorem deadline_succ :
    plan.deadline (place + 1) =
      deadlineAfter (plan.begins place) (plan.deadline place) plan.interval := rfl

theorem begins_succ :
    plan.begins (place + 1) =
      max (plan.ends place) (Duration.ceilMillis (plan.deadline (place + 1))) := rfl

theorem begins_le_ends : plan.begins place ≤ plan.ends place :=
  Nat.le_trans (Nat.le_add_right _ _) (Duration.le_ceilMillis _)

/-- Jobs do not overlap. -/
theorem ends_le_begins : plan.ends place ≤ plan.begins (place + 1) := Nat.le_max_left _ _

/-- No job begins before its deadline. -/
theorem deadline_le_begins : plan.deadline place ≤ plan.begins place := by
  cases place with
  | zero => exact Nat.le_refl _
  | succ place => exact Nat.le_trans (Duration.le_ceilMillis _) (Nat.le_max_right _ _)

theorem begins_mono {earlier later : Nat} (inOrder : earlier ≤ later) :
    plan.begins earlier ≤ plan.begins later := by
  induction inOrder with
  | refl => exact Nat.le_refl _
  | step _ inductionHypothesis =>
      exact Nat.le_trans inductionHypothesis
        (Nat.le_trans (plan.begins_le_ends _) (plan.ends_le_begins _))

/-- Deadlines that were missed are not made up for: whether a job is begun late or not, the next one
    waits for almost an interval. -/
theorem interval_le_between :
    plan.begins place + plan.interval ≤ plan.begins (place + 1) + tolerance := by
  have waits (begins deadline interval tolerance : Nat) :
      begins + interval ≤
        (if deadline + tolerance < begins then begins + interval else deadline + interval) +
          tolerance := by
    split <;> omega
  refine Nat.le_trans (waits _ (plan.deadline place) _ _) (Nat.add_le_add_right ?_ _)
  exact plan.deadline_le_begins (place + 1)

end

section Whole

variable {plan : Plan} (whole : plan.Whole)

include whole

theorem whole_tick (place : Nat) : 1000000 ∣ plan.deadline place ∧ 1000000 ∣ plan.begins place := by
  induction place with
  | zero => exact ⟨whole.origin, whole.origin⟩
  | succ place inductionHypothesis =>
      obtain ⟨deadline, begins⟩ := inductionHypothesis
      constructor
      · rw [deadline_succ, deadlineAfter]
        split
        · exact Nat.dvd_add begins whole.interval
        · exact Nat.dvd_add deadline whole.interval
      · rw [begins_succ]
        rcases Nat.le_total (plan.ends place)
            (Duration.ceilMillis (plan.deadline (place + 1))) with less | more
        · rw [Nat.max_eq_right less]
          exact Duration.dvd_ceilMillis _
        · rw [Nat.max_eq_left more]
          exact Duration.dvd_ceilMillis _

/-- A job begins when the job before it has ended and its deadline has come. -/
theorem begins_eq_max (place : Nat) :
    plan.begins (place + 1) = max (plan.ends place) (plan.deadline (place + 1)) := by
  rw [begins_succ, Duration.ceilMillis_of_dvd (whole_tick whole (place + 1)).1]

/-- Jobs that are over within an interval begin on time, however many there were before. -/
theorem begins_of_short (short : ∀ place, plan.length place ≤ plan.interval) (place : Nat) :
    plan.begins place = plan.origin + place * plan.interval ∧
      plan.deadline place = plan.origin + place * plan.interval := by
  induction place with
  | zero => simp [begins, deadline, tick]
  | succ place inductionHypothesis =>
      obtain ⟨begins, deadline⟩ := inductionHypothesis
      have next : plan.deadline (place + 1) = plan.origin + (place + 1) * plan.interval := by
        have onTime : ¬ plan.deadline place + tolerance < plan.begins place := by
          rw [begins, deadline]
          exact Nat.not_lt.mpr (Nat.le_add_right _ _)
        rw [deadline_succ, deadlineAfter, if_neg onTime, deadline, Nat.add_assoc, Nat.succ_mul]
      have ended : plan.ends place ≤ plan.deadline (place + 1) := by
        calc plan.ends place
            ≤ Duration.ceilMillis (plan.begins place + plan.interval) :=
              Duration.ceilMillis_mono (Nat.add_le_add_left (short place) _)
          _ = plan.begins place + plan.interval :=
              Duration.ceilMillis_of_dvd
                (Nat.dvd_add (whole_tick whole place).2 whole.interval)
          _ = plan.deadline (place + 1) := by
              rw [next, begins, Nat.add_assoc, Nat.succ_mul]
      refine ⟨?_, next⟩
      rw [begins_eq_max whole, Nat.max_eq_right ended, next]

end Whole

/-! ### How much is left -/

/-- More than the number of places from one on whose jobs begin by an instant. -/
def ticksLeft (plan : Plan) (target now : Instant) (place : Nat) : Nat :=
  Timer.ticksLeft target now (some (await plan.interval (some (plan.deadline place))))

/-- Every tick uses up one. -/
theorem ticksLeft_succ {plan : Plan} (whole : plan.Whole) (paced : plan.interval ≠ 0)
    {target now : Instant} {place : Nat} (inOrder : now ≤ plan.begins place)
    (soon : plan.begins place ≤ target) :
    plan.ticksLeft target (plan.begins place) (place + 1) < plan.ticksLeft target now place := by
  have come : Duration.ceilMillis (plan.deadline place) ≤ plan.begins place := by
    rw [Duration.ceilMillis_of_dvd (whole_tick whole place).1]
    exact plan.deadline_le_begins place
  have steady : ∀ present ∈ some (await plan.interval (some (plan.deadline place))),
      Steady present := by
    rintro _ ⟨⟩
    exact ⟨fun _ => nofun, .inr paced⟩
  have uses := Timer.ticksLeft_fire steady rfl come soon
  exact Nat.lt_of_lt_of_le uses (Timer.ticksLeft_anti inOrder)

end Plan

end Timer

end Stackwatch

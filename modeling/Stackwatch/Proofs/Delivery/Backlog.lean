import Stackwatch.Proofs.Delivery.Run

/-!
# The backlog behind a recorder

A recorder forgets the oldest profiles when it is full. A backlog forgets none: it numbers every
profile that is recorded, hands all that waits to a delivery, and takes the whole batch back in
front when the delivery fails. The main statement is that a recorder, whatever happens to it and in
whatever order, shows the end of its backlog: what waits in it, what it hands to its reporter and
what is put back are the last entries of what the backlog has there, as many as the recorder can
hold. What is evicted is therefore always oldest, and no profile is delivered twice.
-/

namespace Stackwatch

/-- A profile together with its place among all that were recorded. -/
structure Entry where
  number : Nat
  profile : Json
  deriving Inhabited

/-- The profiles of the last entries, as many as a recorder can hold. -/
def Entry.shown (capacity : Nat) (entries : List Entry) : List Json :=
  (keepLast capacity entries).map Entry.profile

theorem Entry.shown_eq (capacity : Nat) (entries : List Entry) :
    Entry.shown capacity entries = keepLast capacity (entries.map Entry.profile) :=
  map_keepLast capacity Entry.profile entries

theorem Entry.length_shown_le (capacity : Nat) (entries : List Entry) :
    (Entry.shown capacity entries).length ≤ capacity := by
  rw [Entry.shown_eq, length_keepLast]
  exact Nat.min_le_left _ _

/-- What is missing from the end that is shown is older than all that is in it, and nothing is
    missing unless the recorder is full. -/
def Entry.EvictsOldest (capacity : Nat) (entries : List Entry) : Prop :=
  ∀ entry ∈ entries, entry ∉ keepLast capacity entries →
    (keepLast capacity entries).length = capacity ∧
      ∀ kept ∈ keepLast capacity entries, entry.number < kept.number

theorem Entry.evictsOldest_of_pairwise {capacity : Nat} {entries : List Entry}
    (ordered : entries.Pairwise fun older younger => older.number < younger.number) :
    Entry.EvictsOldest capacity entries := by
  intro entry member missing
  rw [← take_append_keepLast capacity entries] at member ordered
  have front := (List.mem_append.mp member).resolve_right missing
  constructor
  · have excess : entries.length - capacity ≠ 0 := by
      intro none
      simp [none] at front
    rw [length_keepLast]
    omega
  · intro kept keptMember
    exact (List.pairwise_append.mp ordered).2.2 entry front kept keptMember

structure Backlog where
  reporter : Reporter
  /-- All profiles that were ever recorded. -/
  recorded : List Json := []
  /-- What waits for a delivery. -/
  waiting : List Entry := []
  /-- The batch of the delivery under way, and how that will end. -/
  underWay : Option (List Entry × Outcome String Unit) := none
  /-- The batches of all deliveries so far. -/
  handed : List (List Entry) := []
  /-- Number of deliveries that have ended. -/
  ended : Nat := 0
  /-- The batches of the deliveries that ended well. -/
  delivered : List (List Entry) := []

namespace Backlog

def record (profile : Json) (backlog : Backlog) : Backlog :=
  { backlog with
    recorded := backlog.recorded ++ [profile]
    waiting := backlog.waiting ++ [{ number := backlog.recorded.length, profile := profile }] }

/-- All that waits becomes the batch of a delivery; the reporter sees the end of it. -/
def attempt (capacity : Nat) (clock : Clock) (backlog : Backlog) : Backlog :=
  let (delivery, reporter) :=
    backlog.reporter.deliver clock (Entry.shown capacity backlog.waiting)
  { backlog with
    reporter := reporter
    waiting := []
    underWay := some (backlog.waiting, delivery.ending)
    handed := backlog.handed ++ [backlog.waiting] }

/-- The delivery under way ends. After a failure its batch waits again, in front of the rest; after
    a crash it is lost. -/
def settle (backlog : Backlog) : Backlog :=
  match backlog.underWay with
  | none => backlog
  | some (batch, ending) =>
      let backlog := { backlog with underWay := none, ended := backlog.ended + 1 }
      match ending with
      | .returned () => { backlog with delivered := backlog.delivered ++ [batch] }
      | .failed _ => { backlog with waiting := batch ++ backlog.waiting }
      | .crashed _ => backlog

/-- Attempts a delivery if one of some callers of the recorder does. -/
def serve (capacity : Nat) (clock : Clock) (callers : List Recorder.Caller) (recorder : Recorder)
    (backlog : Backlog) : Backlog :=
  if recorder.finds clock callers then backlog.attempt capacity clock else backlog

/-- What a flush of the recorder means for the backlog. -/
def flush (capacity : Nat) (clock : Clock) (caller : Recorder.Caller) (recorder : Recorder)
    (backlog : Backlog) : Backlog :=
  if recorder.sending.isSome then backlog else backlog.serve capacity clock [caller] recorder

/-- What an event of the recorder means for the backlog. -/
def follow (capacity : Nat) (recorder : Recorder) (backlog : Backlog) :
    Recorder.Event → Backlog
  | .record profile => backlog.record profile
  | .flush clock caller => backlog.flush capacity clock caller recorder
  | .tick clock => backlog.flush capacity clock .timer recorder
  | .sendingEnds clock =>
      match recorder.sending with
      | none => backlog
      | some sending =>
          backlog.settle.serve capacity clock recorder.line (recorder.settled sending)
  | .start _ => backlog
  | .stop => backlog
  | .reporterChanges change => { backlog with reporter := change backlog.reporter }

/-- The backlog after some events of the recorder. -/
def after (capacity : Nat) : List Recorder.Event → Recorder → Backlog → Backlog
  | [], _, backlog => backlog
  | event :: rest, recorder, backlog =>
      after capacity rest (recorder.apply event) (backlog.follow capacity recorder event)

/-- The batch of the delivery under way. -/
def batch (backlog : Backlog) : List Entry := (backlog.underWay.map Prod.fst).getD []

/-- What was delivered, is under way or waits, in this order. -/
def entries (backlog : Backlog) : List Entry :=
  backlog.delivered.flatten ++ backlog.batch ++ backlog.waiting

/-! ### Numbers -/

/-- The entries keep the order in which they were recorded, deliveries are never empty, and a
    delivery ends before the next one begins. -/
structure Sound (capacity : Nat) (backlog : Backlog) : Prop where
  ordered : backlog.entries.Pairwise fun older younger => older.number < younger.number
  genuine : ∀ entry ∈ backlog.entries, backlog.recorded[entry.number]? = some entry.profile
  filled : ∀ batch ∈ backlog.handed, keepLast capacity batch ≠ []
  counted : backlog.handed.length = backlog.ended + backlog.underWay.toList.length

namespace Sound

variable {capacity : Nat} {backlog : Backlog}

theorem begin (reporter : Reporter) : Sound capacity { reporter := reporter } where
  ordered := .nil
  genuine := by
    intro entry member
    cases member
  filled := by
    intro batch member
    cases member
  counted := rfl

/-- The next number is larger than all before. -/
theorem number_lt (sound : Sound capacity backlog) {entry : Entry}
    (member : entry ∈ backlog.entries) : entry.number < backlog.recorded.length :=
  (List.getElem?_eq_some_iff.mp (sound.genuine entry member)).1

theorem record (sound : Sound capacity backlog) (profile : Json) :
    Sound capacity (backlog.record profile) := by
  have entriesEq : (backlog.record profile).entries =
      backlog.entries ++ [{ number := backlog.recorded.length, profile := profile }] := by
    simp [entries, Backlog.record, batch]
  refine ⟨?_, ?_, sound.filled, sound.counted⟩
  · rw [entriesEq, List.pairwise_append]
    refine ⟨sound.ordered, List.pairwise_singleton _ _, ?_⟩
    intro older member younger new
    rw [List.mem_singleton.mp new]
    exact sound.number_lt member
  · intro entry member
    rw [entriesEq] at member
    rcases List.mem_append.mp member with old | new
    · exact (List.getElem?_append_left (sound.number_lt old)).trans (sound.genuine entry old)
    · rw [List.mem_singleton.mp new]
      simp [Backlog.record]

theorem attempt (sound : Sound capacity backlog) (clock : Clock)
    (idle : backlog.underWay = none) (filled : keepLast capacity backlog.waiting ≠ []) :
    Sound capacity (backlog.attempt capacity clock) := by
  have entriesEq : (backlog.attempt capacity clock).entries = backlog.entries := by
    simp [entries, Backlog.attempt, batch, idle]
  refine ⟨entriesEq ▸ sound.ordered, entriesEq ▸ sound.genuine, ?_, ?_⟩
  · intro batch member
    rcases List.mem_append.mp member with old | new
    · exact sound.filled batch old
    · rw [List.mem_singleton.mp new]
      exact filled
  · have counted := sound.counted
    simp only [idle, Option.toList_none, List.length_nil] at counted
    simp [Backlog.attempt, counted]

theorem settle (sound : Sound capacity backlog) : Sound capacity backlog.settle := by
  cases underWay : backlog.underWay with
  | none => simpa [Backlog.settle, underWay] using sound
  | some delivery =>
      obtain ⟨batch, ending⟩ := delivery
      have counted := sound.counted
      simp only [underWay, Option.toList_some, List.length_singleton] at counted
      have entriesEq : backlog.entries = backlog.delivered.flatten ++ batch ++ backlog.waiting := by
        simp [entries, Backlog.batch, underWay]
      -- A crash drops the batch; otherwise all entries stay where they are.
      have kept : backlog.settle.entries.Sublist backlog.entries := by
        rw [entriesEq]
        cases ending <;> simp [Backlog.settle, entries, Backlog.batch, underWay]
      have same : backlog.settle.recorded = backlog.recorded ∧
          backlog.settle.handed = backlog.handed ∧
          backlog.settle.ended = backlog.ended + 1 ∧ backlog.settle.underWay = none := by
        cases ending <;> simp [Backlog.settle, underWay]
      obtain ⟨recordedEq, handedEq, endedEq, idle⟩ := same
      refine ⟨sound.ordered.sublist kept, ?_, handedEq ▸ sound.filled, ?_⟩
      · intro entry member
        rw [recordedEq]
        exact sound.genuine entry (kept.subset member)
      · simp [handedEq, endedEq, idle, counted]

end Sound

/-! ### What the recorder shows -/

/-- A recorder shows the end of a backlog. -/
structure Shows (capacity : Nat) (backlog : Backlog) (recorder : Recorder) : Prop where
  capacity_eq : recorder.outbox.capacity = capacity
  queue_eq : recorder.outbox.queue = Entry.shown capacity backlog.waiting
  /-- The reporter was handed what the backlog hands it. -/
  reporter_eq : recorder.reporter = backlog.reporter
  sending_eq : (recorder.sending.map fun sending => (sending.batch, sending.ending)) =
    backlog.underWay.map fun (batch, ending) => (Entry.shown capacity batch, ending)

namespace Shows

variable {capacity : Nat} {backlog : Backlog} {recorder : Recorder}

theorem underWay_eq_none (shows : Shows capacity backlog recorder)
    (idle : recorder.sending = none) : backlog.underWay = none := by
  have same := shows.sending_eq
  rw [idle] at same
  exact Option.map_eq_none_iff.mp same.symm

theorem length_sending (shows : Shows capacity backlog recorder) :
    recorder.sending.toList.length = backlog.underWay.toList.length := by
  have same := shows.sending_eq
  cases busy : recorder.sending <;> cases underWay : backlog.underWay <;>
    simp_all

theorem length_queue_le (shows : Shows capacity backlog recorder) :
    recorder.outbox.queue.length ≤ capacity :=
  shows.queue_eq ▸ Entry.length_shown_le capacity backlog.waiting

theorem record (shows : Shows capacity backlog recorder) (profile : Json) :
    Shows capacity (backlog.record profile) (recorder.record profile) := by
  have added : (recorder.record profile).outbox =
      { recorder.outbox with
        queue := keepLast capacity (recorder.outbox.queue ++ [profile]) } := by
    have fits := shows.length_queue_le
    rw [← shows.capacity_eq] at fits ⊢
    exact Outbox.add_eq fits profile
  refine ⟨?_, ?_, shows.reporter_eq, shows.sending_eq⟩
  · rw [added]
    exact shows.capacity_eq
  · rw [added, shows.queue_eq, Entry.shown_eq, Entry.shown_eq]
    simp [keepLast_append_left, Backlog.record]

theorem serve (shows : Shows capacity backlog recorder) (clock : Clock)
    (callers : List Recorder.Caller) :
    Shows capacity (backlog.serve capacity clock callers recorder)
      (recorder.serve clock callers) := by
  cases found : recorder.finds clock callers with
  | false =>
      obtain ⟨outboxEq, reporterEq, sendingEq⟩ := Recorder.serve_of_finds_eq_false found
      simp only [Backlog.serve, found, Bool.false_eq_true, if_false]
      refine ⟨?_, ?_, ?_, ?_⟩
      · rw [outboxEq, shows.capacity_eq]
      · rw [outboxEq, shows.queue_eq]
      · rw [reporterEq, shows.reporter_eq]
      · rw [sendingEq, shows.sending_eq]
  | true =>
      obtain ⟨-, outboxEq, reporterEq, sending, sendingEq, batchEq, endingEq⟩ :=
        Recorder.serve_of_finds found
      rw [shows.reporter_eq, shows.queue_eq] at reporterEq endingEq
      rw [shows.queue_eq] at batchEq
      simp only [Backlog.serve, found, if_true]
      refine ⟨?_, ?_, ?_, ?_⟩
      · rw [outboxEq]
        exact shows.capacity_eq
      · rw [outboxEq]
        simp [Backlog.attempt, Entry.shown, keepLast]
      · exact reporterEq
      · rw [sendingEq, Option.map_some, batchEq, endingEq]
        rfl

theorem flush (shows : Shows capacity backlog recorder) (clock : Clock)
    (caller : Recorder.Caller) :
    Shows capacity (backlog.flush capacity clock caller recorder)
      (recorder.flush clock caller) := by
  unfold Backlog.flush Recorder.flush
  by_cases busy : recorder.sending.isSome
  · rw [if_pos busy, if_pos busy]
    exact ⟨shows.capacity_eq, shows.queue_eq, shows.reporter_eq, shows.sending_eq⟩
  · rw [if_neg busy, if_neg busy]
    exact shows.serve clock [caller]

/-- The end of a delivery leaves the recorder with the end of what the backlog has then. -/
theorem settle (shows : Shows capacity backlog recorder) {sending : Recorder.Sending}
    (busy : recorder.sending = some sending) :
    Shows capacity backlog.settle
      { recorder with
        outbox := (Recorder.settle sending recorder.outbox).1
        sending := none } := by
  have same := shows.sending_eq
  rw [busy, Option.map_some, eq_comm, Option.map_eq_some_iff] at same
  obtain ⟨⟨batch, ending⟩, underWay, pairEq⟩ := same
  obtain ⟨batchEq, endingEq⟩ := Prod.mk.inj pairEq
  simp only [Backlog.settle, underWay, Recorder.settle, ← endingEq, ← batchEq]
  cases ending with
  | returned => exact ⟨shows.capacity_eq, shows.queue_eq, shows.reporter_eq, rfl⟩
  | failed error =>
      refine ⟨shows.capacity_eq, ?_, shows.reporter_eq, rfl⟩
      simp only [Outbox.putBack, shows.capacity_eq, shows.queue_eq, Entry.shown_eq, List.map_append]
      rw [keepLast_append_left, keepLast_append_right]
  | crashed crash => exact ⟨shows.capacity_eq, shows.queue_eq, shows.reporter_eq, rfl⟩

/-- Only the outbox, the reporter and the delivery under way are shown. -/
theorem of_eq (shows : Shows capacity backlog recorder) {other : Recorder}
    (outboxEq : other.outbox = recorder.outbox) (reporterEq : other.reporter = recorder.reporter)
    (sendingEq : (other.sending.map fun sending => (sending.batch, sending.ending)) =
      recorder.sending.map fun sending => (sending.batch, sending.ending)) :
    Shows capacity backlog other := by
  refine ⟨?_, ?_, ?_, ?_⟩
  · rw [outboxEq, shows.capacity_eq]
  · rw [outboxEq, shows.queue_eq]
  · rw [reporterEq, shows.reporter_eq]
  · rw [sendingEq, shows.sending_eq]

theorem settled (shows : Shows capacity backlog recorder) {sending : Recorder.Sending}
    (busy : recorder.sending = some sending) :
    Shows capacity backlog.settle (recorder.settled sending) :=
  (shows.settle busy).of_eq (by simp) (by simp) (by simp)

theorem apply (shows : Shows capacity backlog recorder) (event : Recorder.Event) :
    Shows capacity (backlog.follow capacity recorder event) (recorder.apply event) := by
  cases event with
  | record profile => exact shows.record profile
  | flush clock caller => exact shows.flush clock caller
  | tick clock =>
      have fired : Shows capacity backlog
          { recorder with timer := recorder.timer.map (Timer.fire clock.now) } :=
        shows.of_eq rfl rfl rfl
      exact fired.flush clock .timer
  | sendingEnds clock =>
      cases busy : recorder.sending with
      | none => simpa [Backlog.follow, Recorder.apply, Recorder.sendingEnds, busy] using shows
      | some sending =>
          have settled : Shows capacity backlog.settle (recorder.settled sending) :=
            shows.settled busy
          have served := settled.serve clock (recorder.settled sending).line
          simpa [Backlog.follow, Recorder.apply, Recorder.sendingEnds_of_some busy, busy]
            using served
  | start clock =>
      by_cases started : recorder.started.isSet
      · simpa [Backlog.follow, Recorder.apply, Recorder.start, started] using shows
      · simp only [Backlog.follow, Recorder.apply, Recorder.start, started]
        exact shows.of_eq rfl rfl rfl
  | stop =>
      refine shows.of_eq rfl rfl ?_
      simp [Recorder.apply, Recorder.stop, Function.comp_def]
  | reporterChanges change =>
      exact ⟨shows.capacity_eq, shows.queue_eq, congrArg change shows.reporter_eq,
        shows.sending_eq⟩

end Shows

namespace Sound

variable {capacity : Nat} {backlog : Backlog} {recorder : Recorder}

theorem serve (sound : Sound capacity backlog) (shows : Shows capacity backlog recorder)
    (idle : recorder.sending = none) (clock : Clock) (callers : List Recorder.Caller) :
    Sound capacity (backlog.serve capacity clock callers recorder) := by
  cases found : recorder.finds clock callers with
  | false => simpa [Backlog.serve, found] using sound
  | true =>
      have filled : keepLast capacity backlog.waiting ≠ [] := by
        intro empty
        apply (Recorder.serve_of_finds found).1
        rw [shows.queue_eq, Entry.shown, empty, List.map_nil]
      simp only [Backlog.serve, found, if_true]
      exact sound.attempt clock (shows.underWay_eq_none idle) filled

theorem flush (sound : Sound capacity backlog) (shows : Shows capacity backlog recorder)
    (clock : Clock) (caller : Recorder.Caller) :
    Sound capacity (backlog.flush capacity clock caller recorder) := by
  unfold Backlog.flush
  by_cases busy : recorder.sending.isSome
  · rw [if_pos busy]
    exact sound
  · rw [if_neg busy]
    exact sound.serve shows (Option.not_isSome_iff_eq_none.mp busy) clock [caller]

theorem follow (sound : Sound capacity backlog) (shows : Shows capacity backlog recorder)
    (event : Recorder.Event) : Sound capacity (backlog.follow capacity recorder event) := by
  cases event with
  | record profile => exact sound.record profile
  | flush clock caller => exact sound.flush shows clock caller
  | tick clock => exact sound.flush shows clock .timer
  | sendingEnds clock =>
      cases busy : recorder.sending with
      | none => simpa [Backlog.follow, busy] using sound
      | some sending =>
          simp only [Backlog.follow, busy]
          exact sound.settle.serve (shows.settled busy) (by simp) clock recorder.line
  | start clock => exact sound
  | stop => exact sound
  | reporterChanges change =>
      exact ⟨sound.ordered, sound.genuine, sound.filled, sound.counted⟩

end Sound

/-- Both hold along every run. -/
theorem sound_and_shows_after {capacity : Nat} (events : List Recorder.Event)
    {recorder : Recorder} {backlog : Backlog} (sound : Sound capacity backlog)
    (shows : Shows capacity backlog recorder) :
    Sound capacity (after capacity events recorder backlog) ∧
      Shows capacity (after capacity events recorder backlog) (recorder.run events) := by
  induction events generalizing recorder backlog with
  | nil => exact ⟨sound, shows⟩
  | cons event rest inductionHypothesis =>
      exact inductionHypothesis (sound.follow shows event) (shows.apply event)

/-! ### Consequences -/

theorem follow_recorded (capacity : Nat) (recorder : Recorder) (backlog : Backlog)
    (event : Recorder.Event) :
    (backlog.follow capacity recorder event).recorded =
      backlog.recorded ++ event.profile?.toList := by
  have served (clock : Clock) (callers : List Recorder.Caller) (recorder : Recorder)
      (backlog : Backlog) :
      (backlog.serve capacity clock callers recorder).recorded = backlog.recorded := by
    unfold Backlog.serve
    split <;> rfl
  have flushed (clock : Clock) (caller : Recorder.Caller) :
      (backlog.flush capacity clock caller recorder).recorded = backlog.recorded := by
    unfold Backlog.flush
    split
    · rfl
    · exact served ..
  cases event with
  | record profile => rfl
  | flush clock caller => simp [follow, flushed, Recorder.Event.profile?]
  | tick clock => simp [follow, flushed, Recorder.Event.profile?]
  | sendingEnds clock =>
      have settled : backlog.settle.recorded = backlog.recorded := by
        unfold settle
        split
        · rfl
        · dsimp only
          split <;> rfl
      cases busy : recorder.sending <;>
        simp [follow, busy, served, settled, Recorder.Event.profile?]
  | start clock => simp [follow, Recorder.Event.profile?]
  | stop => simp [follow, Recorder.Event.profile?]
  | reporterChanges change => simp [follow, Recorder.Event.profile?]

theorem after_recorded (capacity : Nat) (events : List Recorder.Event) (recorder : Recorder)
    (backlog : Backlog) :
    (after capacity events recorder backlog).recorded =
      backlog.recorded ++ events.filterMap Recorder.Event.profile? := by
  induction events generalizing recorder backlog with
  | nil => simp [after]
  | cons event rest inductionHypothesis =>
      rw [after, inductionHypothesis, follow_recorded, List.append_assoc]
      cases present : event.profile? <;> simp [present]

theorem Sound.nodup_delivered {capacity : Nat} {backlog : Backlog}
    (sound : Sound capacity backlog) :
    ((backlog.delivered.flatMap (keepLast capacity)).map Entry.number).Nodup := by
  have shown : (backlog.delivered.flatMap (keepLast capacity)).Sublist backlog.entries := by
    have inDelivered :
        (backlog.delivered.flatMap (keepLast capacity)).Sublist backlog.delivered.flatten := by
      induction backlog.delivered with
      | nil => exact .slnil
      | cons batch rest inductionHypothesis =>
          exact (List.drop_sublist _ batch).append inductionHypothesis
    rw [entries, List.append_assoc]
    exact inDelivered.trans (List.sublist_append_left _ _)
  rw [List.Nodup, List.pairwise_map]
  exact (sound.ordered.sublist shown).imp Nat.ne_of_lt

/-- Whatever happens to a recorder, it shows the end of its backlog: in its queue, in what it hands
    to its reporter and in what it puts back. So it never holds more than it can, holds profiles in
    the order in which they were recorded, evicts the oldest only, never sends an empty batch, has
    at most one delivery under way, and delivers no profile twice. -/
theorem run_shows_backlog (reporter : Reporter) (capacity : Nat) (flushInterval : Duration)
    (events : List Recorder.Event) :
    let created := Recorder.create reporter capacity flushInterval
    let recorder := created.run events
    let backlog := after capacity events created { reporter := reporter }
    Shows capacity backlog recorder ∧
      recorder.outbox.queue.length ≤ capacity ∧
      backlog.recorded = events.filterMap Recorder.Event.profile? ∧
      (∀ entry ∈ backlog.entries, backlog.recorded[entry.number]? = some entry.profile) ∧
      (backlog.entries.Pairwise fun older younger => older.number < younger.number) ∧
      Entry.EvictsOldest capacity backlog.waiting ∧
      Entry.EvictsOldest capacity backlog.batch ∧
      (∀ batch ∈ backlog.handed, keepLast capacity batch ≠ []) ∧
      backlog.handed.length = backlog.ended + recorder.sending.toList.length ∧
      ((backlog.delivered.flatMap (keepLast capacity)).map Entry.number).Nodup := by
  intro created recorder backlog
  have begun : Shows capacity { reporter := reporter } created :=
    ⟨rfl, by simp [created, Recorder.create, Entry.shown, keepLast], rfl, rfl⟩
  obtain ⟨sound, shows⟩ := sound_and_shows_after events (Sound.begin reporter) begun
  have waitingOrdered := sound.ordered.sublist (List.sublist_append_right _ backlog.waiting)
  have batchOrdered :=
    (sound.ordered.sublist (List.sublist_append_left _ _)).sublist
      (List.sublist_append_right _ backlog.batch)
  refine ⟨shows, shows.length_queue_le, ?_, sound.genuine, sound.ordered,
    Entry.evictsOldest_of_pairwise waitingOrdered, Entry.evictsOldest_of_pairwise batchOrdered,
    sound.filled, ?_, sound.nodup_delivered⟩
  · exact after_recorded capacity events created { reporter := reporter }
  · rw [shows.length_sending]
    exact sound.counted

end Backlog

end Stackwatch

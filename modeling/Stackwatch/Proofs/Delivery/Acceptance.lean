import Stackwatch.Proofs.Delivery.Backlog
import Stackwatch.Proofs.Delivery.FanOut

/-!
# Which profiles a fan-out has accepted

A recorder on top of a fan-out delivers to several places at once. A ledger keeps, beside the
recorder and its backlog, what the fan-out was handed: at every delivery the batch and the members
as they were then. The main statement is that a batch is delivered exactly if every member accepts
it in that one delivery, and that otherwise all of it waits again for all of them. So every profile
that was recorded waits, is under way, was accepted by all members at once, or was evicted by newer
ones when the recorder was full.
-/

namespace Stackwatch

/-- The members of a fan-out. -/
def Reporter.members : Reporter → List Reporter
  | .fanOut members => members
  | _ => []

/-- A fan-out to so many members, none of which crashes. -/
def Reporter.Proper (count : Nat) (members : List Reporter) : Prop :=
  members.length = count ∧ ∀ member ∈ members, member.Sane

/-- A batch that was handed to a fan-out. -/
structure Handover where
  clock : Clock
  /-- The members as they were then. -/
  members : List Reporter
  batch : List Entry

namespace Handover

variable (capacity : Nat) (handover : Handover)

/-- What becomes of the batch at a member; evicted profiles are not sent. -/
def delivery (member : Reporter) : Delivery :=
  member.delivery handover.clock (Entry.shown capacity handover.batch)

/-- Every member accepts the batch. -/
def AcceptedByAll : Prop :=
  ∀ member ∈ handover.members, (handover.delivery capacity member).ending = .returned ()

instance (outcome : Outcome String Unit) : Decidable (outcome = .returned ()) :=
  match outcome with
  | .returned () => isTrue rfl
  | .failed _ => isFalse nofun
  | .crashed _ => isFalse nofun

instance : Decidable (handover.AcceptedByAll capacity) :=
  inferInstanceAs (Decidable (∀ member ∈ handover.members,
    (handover.delivery capacity member).ending = .returned ()))

/-- How the delivery ends as a whole. -/
def ending : Outcome String Unit :=
  (handover.delivery capacity (.fanOut handover.members)).ending

variable {handover}

/-- A delivery to a fan-out that never crashes ends well if all members accept the batch, and fails
    otherwise. -/
theorem ending_cases (sane : ∀ member ∈ handover.members, member.Sane) :
    (handover.ending capacity = .returned () ∧ handover.AcceptedByAll capacity) ∨
      ∃ error, handover.ending capacity = .failed error ∧ ¬ handover.AcceptedByAll capacity := by
  obtain ⟨calm, -, -⟩ := Reporter.AllSane.deliver handover.clock
    (Entry.shown capacity handover.batch) ((Reporter.allSane_iff handover.members).mpr sane)
  have whole : handover.delivery capacity (.fanOut handover.members) =
      .together (handover.members.map (handover.delivery capacity)) :=
    (Reporter.deliver_fanOut _ _ calm).1
  have everyone : ∀ delivery ∈ handover.members.map (handover.delivery capacity),
      delivery.crash? = none :=
    List.forall_mem_map.mpr calm
  have combines := Delivery.combines_together everyone
  have accepted : handover.ending capacity = .returned () ↔ handover.AcceptedByAll capacity := by
    rw [ending, whole, combines.returned_iff, List.forall_mem_map]
    rfl
  have ends : handover.ending capacity = .returned () ∨
      ∃ error, handover.ending capacity = .failed error := by
    rw [ending, whole]
    exact Delivery.crash?_eq_none_iff.mp (Delivery.crash?_together everyone)
  rcases ends with well | ⟨error, failed⟩
  · exact .inl ⟨well, accepted.mp well⟩
  · refine .inr ⟨error, failed, fun all => ?_⟩
    rw [accepted.mpr all] at failed
    cases failed

end Handover

/-- What a fan-out was handed. -/
structure Ledger where
  underWay : Option Handover := none
  /-- The deliveries that are over, oldest first. -/
  past : List Handover := []

namespace Ledger

/-- The fan-out is handed all that waits. -/
def hand (clock : Clock) (backlog : Backlog) (ledger : Ledger) : Ledger :=
  { ledger with
    underWay := some
      { clock := clock, members := backlog.reporter.members, batch := backlog.waiting } }

/-- The delivery under way is over. -/
def settle (ledger : Ledger) : Ledger := { past := ledger.past ++ ledger.underWay.toList }

/-- The fan-out is handed something if one of some callers of the recorder finds something. -/
def serve (clock : Clock) (callers : List Recorder.Caller) (recorder : Recorder)
    (backlog : Backlog) (ledger : Ledger) : Ledger :=
  if recorder.finds clock callers then ledger.hand clock backlog else ledger

def flush (clock : Clock) (caller : Recorder.Caller) (recorder : Recorder) (backlog : Backlog)
    (ledger : Ledger) : Ledger :=
  if recorder.sending.isSome then ledger else ledger.serve clock [caller] recorder backlog

/-- The ledger after an event of the recorder. -/
def follow (recorder : Recorder) (backlog : Backlog) (ledger : Ledger) : Recorder.Event → Ledger
  | .flush clock caller => ledger.flush clock caller recorder backlog
  | .tick clock => ledger.flush clock .timer recorder backlog
  | .sendingEnds clock =>
      match recorder.sending with
      | none => ledger
      | some sending =>
          ledger.settle.serve clock recorder.line (recorder.settled sending) backlog.settle
  | _ => ledger

/-- The ledger after some events of the recorder. -/
def after (capacity : Nat) : List Recorder.Event → Recorder → Backlog → Ledger → Ledger
  | [], _, _, ledger => ledger
  | event :: rest, recorder, backlog, ledger =>
      after capacity rest (recorder.apply event) (backlog.follow capacity recorder event)
        (ledger.follow recorder backlog event)

/-- All deliveries, oldest first. -/
def handovers (ledger : Ledger) : List Handover := ledger.past ++ ledger.underWay.toList

/-- The ledger says what the backlog has: nothing is lost, and what was delivered is what every
    member accepted. -/
structure Accounts (capacity count : Nat) (ledger : Ledger) (backlog : Backlog) : Prop where
  reporter : ∃ members, backlog.reporter = .fanOut members ∧ Reporter.Proper count members
  proper : ∀ handover ∈ ledger.handovers, Reporter.Proper count handover.members
  underWay : backlog.underWay =
    ledger.underWay.map fun handover => (handover.batch, handover.ending capacity)
  delivered : backlog.delivered =
    (ledger.past.filter fun handover => handover.AcceptedByAll capacity).map Handover.batch
  numbers : backlog.entries.map Entry.number = List.range backlog.recorded.length

namespace Accounts

variable {capacity count : Nat} {ledger : Ledger} {backlog : Backlog} {recorder : Recorder}

theorem record (accounts : Accounts capacity count ledger backlog) (profile : Json) :
    Accounts capacity count ledger (backlog.record profile) where
  reporter := accounts.reporter
  proper := accounts.proper
  underWay := accounts.underWay
  delivered := accounts.delivered
  numbers := by
    have entries : (backlog.record profile).entries =
        backlog.entries ++ [{ number := backlog.recorded.length, profile := profile }] := by
      simp [Backlog.entries, Backlog.record, Backlog.batch]
    rw [entries, List.map_append, accounts.numbers, Backlog.record, List.length_append,
      List.length_singleton, List.range_succ]
    rfl

/-- A fan-out that is handed something is the same fan-out afterwards, and its members have the
    whole batch. -/
theorem hand (accounts : Accounts capacity count ledger backlog) (clock : Clock)
    (idle : backlog.underWay = none) :
    Accounts capacity count (ledger.hand clock backlog) (backlog.attempt capacity clock) := by
  obtain ⟨members, isFanOut, length, sane⟩ := accounts.reporter
  obtain ⟨calm, saneNext, -⟩ := Reporter.AllSane.deliver clock
    (Entry.shown capacity backlog.waiting) ((Reporter.allSane_iff members).mpr sane)
  obtain ⟨-, next⟩ := Reporter.deliver_fanOut clock (Entry.shown capacity backlog.waiting) calm
  have entries : (backlog.attempt capacity clock).entries = backlog.entries := by
    simp [Backlog.entries, Backlog.attempt, Backlog.batch, idle]
  refine ⟨⟨members.map (Reporter.next clock (Entry.shown capacity backlog.waiting)), ?_, ?_, ?_⟩,
    ?_, ?_, accounts.delivered, ?_⟩
  · rw [← next, ← isFanOut]
    rfl
  · rw [List.length_map, length]
  · exact (Reporter.allSane_iff _).mp saneNext
  · intro handover member
    rcases List.mem_append.mp member with old | new
    · exact accounts.proper handover (List.mem_append_left _ old)
    · rw [List.mem_singleton.mp new, isFanOut]
      exact ⟨length, sane⟩
  · simp only [Backlog.attempt, Ledger.hand, isFanOut, Option.map_some]
    rfl
  · rw [entries]
    exact accounts.numbers

/-- When a delivery is over, its batch was accepted by all members or waits again. -/
theorem settle (accounts : Accounts capacity count ledger backlog) :
    Accounts capacity count ledger.settle backlog.settle := by
  have handovers : ledger.settle.handovers = ledger.handovers := List.append_nil _
  have proper : ∀ handover ∈ ledger.settle.handovers, Reporter.Proper count handover.members := by
    rw [handovers]
    exact accounts.proper
  have same := accounts.underWay
  cases handed : ledger.underWay with
  | none =>
      rw [handed] at same
      have still : backlog.settle = backlog := by
        rw [Backlog.settle, same]
        rfl
      have kept : ledger.settle.past = ledger.past := by
        rw [Ledger.settle, handed]
        exact List.append_nil _
      rw [still]
      refine ⟨accounts.reporter, proper, same, ?_, accounts.numbers⟩
      rw [kept]
      exact accounts.delivered
  | some handover =>
      rw [handed, Option.map_some] at same
      have past : ledger.settle.past = ledger.past ++ [handover] := by
        rw [Ledger.settle, handed]
        rfl
      have member : handover ∈ ledger.handovers := by simp [Ledger.handovers, handed]
      have numbers := accounts.numbers
      rw [Backlog.entries, Backlog.batch, same] at numbers
      rcases Handover.ending_cases capacity (accounts.proper handover member).2 with
        ⟨well, all⟩ | ⟨error, failed, some⟩
      · have settled : backlog.settle =
            { backlog with
              underWay := none
              ended := backlog.ended + 1
              delivered := backlog.delivered ++ [handover.batch] } := by
          simp only [Backlog.settle, same, well]
        rw [settled]
        refine ⟨accounts.reporter, proper, rfl, ?_, ?_⟩
        · rw [past, List.filter_append, List.map_append, ← accounts.delivered]
          simp [all]
        · simpa [Backlog.entries, Backlog.batch] using numbers
      · have settled : backlog.settle =
            { backlog with
              underWay := none
              ended := backlog.ended + 1
              waiting := handover.batch ++ backlog.waiting } := by
          simp only [Backlog.settle, same, failed]
        rw [settled]
        refine ⟨accounts.reporter, proper, rfl, ?_, ?_⟩
        · rw [past, List.filter_append, List.map_append, ← accounts.delivered]
          simp [some]
        · simpa [Backlog.entries, Backlog.batch] using numbers

theorem serve (accounts : Accounts capacity count ledger backlog)
    (shows : Backlog.Shows capacity backlog recorder) (idle : recorder.sending = none)
    (clock : Clock) (callers : List Recorder.Caller) :
    Accounts capacity count (ledger.serve clock callers recorder backlog)
      (backlog.serve capacity clock callers recorder) := by
  unfold Ledger.serve Backlog.serve
  split
  · exact accounts.hand clock (shows.underWay_eq_none idle)
  · exact accounts

theorem flush (accounts : Accounts capacity count ledger backlog)
    (shows : Backlog.Shows capacity backlog recorder) (clock : Clock)
    (caller : Recorder.Caller) :
    Accounts capacity count (ledger.flush clock caller recorder backlog)
      (backlog.flush capacity clock caller recorder) := by
  unfold Ledger.flush Backlog.flush
  by_cases busy : recorder.sending.isSome
  · rw [if_pos busy, if_pos busy]
    exact accounts
  · rw [if_neg busy, if_neg busy]
    exact accounts.serve shows (Option.not_isSome_iff_eq_none.mp busy) clock [caller]

end Accounts

/-- An event leaves a recorder its fan-out: members may change how they will treat the next batches,
    but none is added or taken away. -/
def KeepsFanOut (count : Nat) : Recorder.Event → Prop
  | .reporterChanges change =>
      ∀ members, Reporter.Proper count members →
        ∃ changed, change (.fanOut members) = .fanOut changed ∧ Reporter.Proper count changed
  | _ => True

namespace Accounts

variable {capacity count : Nat} {ledger : Ledger} {backlog : Backlog} {recorder : Recorder}

theorem follow (accounts : Accounts capacity count ledger backlog)
    (shows : Backlog.Shows capacity backlog recorder) {event : Recorder.Event}
    (keeps : KeepsFanOut count event) :
    Accounts capacity count (ledger.follow recorder backlog event)
      (backlog.follow capacity recorder event) := by
  cases event with
  | record profile => exact accounts.record profile
  | flush clock caller => exact accounts.flush shows clock caller
  | tick clock => exact accounts.flush shows clock .timer
  | sendingEnds clock =>
      cases busy : recorder.sending with
      | none => simpa [Ledger.follow, Backlog.follow, busy] using accounts
      | some sending =>
          simp only [Ledger.follow, Backlog.follow, busy]
          exact accounts.settle.serve (shows.settled busy) (by simp) clock recorder.line
  | start clock => exact accounts
  | stop => exact accounts
  | reporterChanges change =>
      obtain ⟨members, isFanOut, proper⟩ := accounts.reporter
      obtain ⟨changed, changedTo, properThen⟩ := keeps members proper
      refine ⟨⟨changed, ?_, properThen⟩, accounts.proper, accounts.underWay, accounts.delivered,
        accounts.numbers⟩
      simp only [Backlog.follow, isFanOut, changedTo]

theorem after (accounts : Accounts capacity count ledger backlog)
    (shows : Backlog.Shows capacity backlog recorder) {events : List Recorder.Event}
    (keep : ∀ event ∈ events, KeepsFanOut count event) :
    Accounts capacity count (ledger.after capacity events recorder backlog)
      (backlog.after capacity events recorder) := by
  induction events generalizing ledger backlog recorder with
  | nil => exact accounts
  | cons event rest inductionHypothesis =>
      obtain ⟨first, others⟩ := List.forall_mem_cons.mp keep
      exact inductionHypothesis (accounts.follow shows first) (shows.apply event) others

/-- All that was ever recorded is among the entries of the backlog. -/
theorem mem_entries (accounts : Accounts capacity count ledger backlog)
    (sound : Backlog.Sound capacity backlog) {number : Nat} {profile : Json}
    (recorded : backlog.recorded[number]? = some profile) :
    { number := number, profile := profile } ∈ backlog.entries := by
  have present : number ∈ backlog.entries.map Entry.number := by
    rw [accounts.numbers, List.mem_range]
    exact (List.getElem?_eq_some_iff.mp recorded).1
  obtain ⟨⟨same, shown⟩, member, rfl⟩ := List.mem_map.mp present
  have genuine := sound.genuine _ member
  rw [recorded] at genuine
  cases genuine
  exact member

end Accounts

/-- Where a profile is that was recorded. -/
inductive Fate (capacity : Nat) (ledger : Ledger) (backlog : Backlog) (entry : Entry) : Prop where
  /-- It waits in the recorder. -/
  | waits (shown : entry ∈ keepLast capacity backlog.waiting)
  /-- It is in the batch of the delivery under way. -/
  | underWay (sent : entry ∈ keepLast capacity backlog.batch)
  /-- Every member accepted it, in one delivery. -/
  | accepted (handover : Handover) (past : handover ∈ ledger.past)
      (all : handover.AcceptedByAll capacity)
      (sent : entry ∈ keepLast capacity handover.batch)
  /-- It had to make room for newer ones. -/
  | evicted (entries : List Entry)
      (present : entries ∈ backlog.waiting :: backlog.batch :: backlog.delivered)
      (member : entry ∈ entries) (full : (keepLast capacity entries).length = capacity)
      (older : ∀ kept ∈ keepLast capacity entries, entry.number < kept.number)

theorem Accounts.fate {capacity count : Nat} {ledger : Ledger} {backlog : Backlog}
    (accounts : Accounts capacity count ledger backlog) (sound : Backlog.Sound capacity backlog)
    {entry : Entry} (member : entry ∈ backlog.entries) :
    Fate capacity ledger backlog entry := by
  -- Each list of entries keeps the order of the whole, so that what it does not show is oldest.
  have evicts {entries : List Entry} (inside : entries.Sublist backlog.entries)
      (here : entry ∈ entries) (missing : entry ∉ keepLast capacity entries) :=
    @Entry.evictsOldest_of_pairwise capacity _ (sound.ordered.sublist inside) entry here missing
  rw [Backlog.entries, List.mem_append, List.mem_append] at member
  rcases member with (delivered | sent) | waiting
  · obtain ⟨batch, batchMember, here⟩ := List.mem_flatten.mp delivered
    have inside : batch.Sublist backlog.entries := by
      rw [Backlog.entries, List.append_assoc]
      exact (List.sublist_flatten_of_mem batchMember).trans (List.sublist_append_left _ _)
    by_cases shown : entry ∈ keepLast capacity batch
    · rw [accounts.delivered] at batchMember
      obtain ⟨handover, found, rfl⟩ := List.mem_map.mp batchMember
      obtain ⟨past, all⟩ := List.mem_filter.mp found
      exact .accepted handover past (of_decide_eq_true all) shown
    · obtain ⟨full, older⟩ := evicts inside here shown
      exact .evicted batch (by simp [batchMember]) here full older
  · by_cases shown : entry ∈ keepLast capacity backlog.batch
    · exact .underWay shown
    · have inside : backlog.batch.Sublist backlog.entries := by
        rw [Backlog.entries]
        exact (List.sublist_append_right _ _).trans (List.sublist_append_left _ _)
      obtain ⟨full, older⟩ := evicts inside sent shown
      exact .evicted backlog.batch (by simp) sent full older
  · by_cases shown : entry ∈ keepLast capacity backlog.waiting
    · exact .waits shown
    · obtain ⟨full, older⟩ := evicts (List.sublist_append_right _ _) waiting shown
      exact .evicted backlog.waiting (by simp) waiting full older

/-- When the delivery under way is over, its batch is gone if all members accept it; otherwise it is
    back in front of what waits. -/
theorem Accounts.settled {capacity count : Nat} {ledger : Ledger} {backlog : Backlog}
    {recorder : Recorder} (accounts : Accounts capacity count ledger backlog)
    (shows : Backlog.Shows capacity backlog recorder) {sending : Recorder.Sending}
    (busy : recorder.sending = some sending) :
    ∃ handover, ledger.underWay = some handover ∧
      sending.batch = Entry.shown capacity handover.batch ∧
      (handover.AcceptedByAll capacity →
        (recorder.settled sending).outbox.queue = recorder.outbox.queue) ∧
      (¬ handover.AcceptedByAll capacity →
        (recorder.settled sending).outbox.queue =
          keepLast capacity (sending.batch ++ recorder.outbox.queue)) := by
  have same := shows.sending_eq
  rw [busy, accounts.underWay, Option.map_some, Option.map_map] at same
  obtain ⟨handover, handed, pair⟩ := Option.map_eq_some_iff.mp same.symm
  obtain ⟨batch, ending⟩ := Prod.mk.inj pair
  have member : handover ∈ ledger.handovers := by simp [handovers, handed]
  have sane := (accounts.proper handover member).2
  refine ⟨handover, handed, batch.symm, fun all => ?_, fun some => ?_⟩
  · rcases Handover.ending_cases capacity sane with ⟨well, -⟩ | ⟨_, -, refused⟩
    · rw [Recorder.settled_outbox, Recorder.settle, ← ending, well]
      rfl
    · exact absurd all refused
  · rcases Handover.ending_cases capacity sane with ⟨-, all⟩ | ⟨error, failed, -⟩
    · exact absurd all some
    · rw [Recorder.settled_outbox, Recorder.settle, ← ending, failed, ← shows.capacity_eq]
      rfl

/-- A fan-out hands every batch once to each member, ends with the slowest, and fails with the first
    error in the order of its members, if any; and a recorder on top of it delivers to all or
    retries for all. In every run a batch leaves the recorder for good exactly if every member
    accepts it in the one delivery; otherwise it is put back in front of what waits, for all of
    them. So whatever was recorded waits, is under way, was accepted by all members at once, or was
    evicted by newer profiles. -/
theorem fanOut_delivers_to_all_or_retries (members : List Reporter)
    (sane : ∀ member ∈ members, member.Sane) (capacity : Nat) (flushInterval : Duration)
    (events : List Recorder.Event)
    (keep : ∀ event ∈ events, KeepsFanOut members.length event) :
    (∀ clock batch,
      let deliveries := members.map (Reporter.delivery clock batch)
      let next := (Reporter.fanOut members).next clock batch
      next = .fanOut (members.map (Reporter.next clock batch)) ∧
        next.attempts = (Reporter.fanOut members).attempts.map
          (· ++ [{ time := clock.now, batch := batch }]) ∧
        Delivery.Combines deliveries ((Reporter.fanOut members).delivery clock batch)) ∧
      let created := Recorder.create (.fanOut members) capacity flushInterval
      let recorder := created.run events
      let backlog := Backlog.after capacity events created { reporter := .fanOut members }
      let ledger := Ledger.after capacity events created { reporter := .fanOut members } {}
      Backlog.Shows capacity backlog recorder ∧
        (∀ handover ∈ ledger.handovers, handover.members.length = members.length) ∧
        backlog.delivered =
          (ledger.past.filter fun handover => handover.AcceptedByAll capacity).map
            Handover.batch ∧
        (∀ sending, recorder.sending = some sending → ∃ handover,
          ledger.underWay = some handover ∧
            sending.batch = Entry.shown capacity handover.batch ∧
            (handover.AcceptedByAll capacity →
              (recorder.settled sending).outbox.queue = recorder.outbox.queue) ∧
            (¬ handover.AcceptedByAll capacity →
              (recorder.settled sending).outbox.queue =
                keepLast capacity (sending.batch ++ recorder.outbox.queue))) ∧
        ∀ number profile, (events.filterMap Recorder.Event.profile?)[number]? = some profile →
          Fate capacity ledger backlog { number := number, profile := profile } := by
  constructor
  · intro clock batch deliveries next
    obtain ⟨calm, -, -⟩ :=
      Reporter.AllSane.deliver clock batch ((Reporter.allSane_iff members).mpr sane)
    obtain ⟨whole, changed⟩ := Reporter.deliver_fanOut clock batch calm
    have everyone : ∀ delivery ∈ deliveries, delivery.crash? = none := List.forall_mem_map.mpr calm
    refine ⟨changed, ?_, ?_⟩
    · have whole : (Reporter.fanOut members).Sane := (Reporter.allSane_iff members).mpr sane
      exact (Reporter.Sane.deliver clock batch whole).2.2
    · rw [whole]
      exact Delivery.combines_together everyone
  · intro created recorder backlog ledger
    have begun : Backlog.Shows capacity { reporter := .fanOut members } created :=
      ⟨rfl, by simp [created, Recorder.create, Entry.shown, keepLast], rfl, rfl⟩
    have opened : Accounts capacity members.length {} { reporter := .fanOut members } :=
      ⟨⟨members, rfl, rfl, sane⟩, fun _ member => absurd member List.not_mem_nil, rfl, rfl, rfl⟩
    obtain ⟨sound, shows⟩ :=
      Backlog.sound_and_shows_after events (Backlog.Sound.begin (.fanOut members)) begun
    have accounts : Accounts capacity members.length ledger backlog := opened.after begun keep
    refine ⟨shows, fun handover member => (accounts.proper handover member).1, accounts.delivered,
      fun sending busy => accounts.settled shows busy, ?_⟩
    intro number profile recorded
    have whole := Backlog.after_recorded capacity events created { reporter := .fanOut members }
    rw [List.nil_append] at whole
    rw [← whole] at recorded
    exact accounts.fate sound (accounts.mem_entries sound recorded)

/-- Of a fan-out to two members the second refuses a batch at once, while the first takes three
    seconds to accept it. The batch is delivered to neither. When the second has changed its mind,
    both get it again. -/
theorem fanOut_delivers_to_all_or_retries_pair :
    let slow : Reporter := .custom { delay := 3000000000 } []
    let full : Reporter := .custom { ending := .failed "full" } []
    let roomAgain : Reporter → Reporter
      | .fanOut [first, second] => .fanOut [first, second.setReply {}]
      | reporter => reporter
    let moment (seconds : Nat) : Clock := { now := seconds * 1000000000, startedAt := 0 }
    let events : List Recorder.Event :=
      [.record .null, .tick (moment 1), .sendingEnds (moment 4), .reporterChanges roomAgain,
        .tick (moment 30), .sendingEnds (moment 33)]
    let created := Recorder.create (.fanOut [slow, full]) 4 1000000000
    let ledger := Ledger.after 4 events created { reporter := .fanOut [slow, full] } {}
    let backlog := Backlog.after 4 events created { reporter := .fanOut [slow, full] }
    (∀ member ∈ [slow, full], member.Sane) ∧ (∀ event ∈ events, KeepsFanOut 2 event) ∧
      Delivery.Combines [slow.delivery (moment 1) [.null], full.delivery (moment 1) [.null]]
        ((Reporter.fanOut [slow, full]).delivery (moment 1) [.null]) ∧
      (ledger.past.map fun handover => decide (handover.AcceptedByAll 4)) = [false, true] ∧
      Fate 4 ledger backlog { number := 0, profile := .null } := by
  intro slow full roomAgain moment events created ledger backlog
  have sane : ∀ member ∈ [slow, full], member.Sane := by
    simp [slow, full, Reporter.Sane]
  have keep : ∀ event ∈ events, KeepsFanOut 2 event := by
    have keeps : KeepsFanOut 2 (.reporterChanges roomAgain) := by
      rintro members ⟨two, sane⟩
      match members, two with
      | [first, second], _ =>
          obtain ⟨saneFirst, saneSecond, -⟩ := (Reporter.allSane_iff _).mpr sane
          have changed : (second.setReply {}).Sane := by
            cases second with
            | custom => simp [Reporter.setReply, Reporter.Sane]
            | _ => exact saneSecond
          exact ⟨[first, second.setReply {}], rfl, rfl,
            (Reporter.allSane_iff _).mp ⟨saneFirst, changed, trivial⟩⟩
    simpa [events, KeepsFanOut] using keeps
  obtain ⟨single, whole⟩ :=
    fanOut_delivers_to_all_or_retries [slow, full] sane 4 1000000000 events keep
  obtain ⟨-, -, -, -, fate⟩ := whole
  exact ⟨sane, keep, (single (moment 1) [.null]).2.2, by decide +kernel, fate 0 .null rfl⟩

end Ledger

end Stackwatch

import Stackwatch.Delivery.Reporter

/-!
# What a fan-out does with a batch

A fan-out hands a batch to every member, whatever becomes of it at the others: an early failure cuts
nobody off. Its delivery ends with the slowest, well exactly if all end well, and otherwise with the
error of the member that comes first in the list, whenever that failed. All of this is said of
members none of which crashes.
-/

namespace Stackwatch

namespace Delivery

theorem crash?_eq_none_iff {delivery : Delivery} :
    delivery.crash? = none ↔
      delivery.ending = .returned () ∨ ∃ error, delivery.ending = .failed error := by
  unfold crash?
  cases delivery.ending <;> simp

theorem error?_eq_some_iff {delivery : Delivery} {error : String} :
    delivery.error? = some error ↔ delivery.ending = .failed error := by
  unfold error?
  cases delivery.ending <;> simp

/-- Of what does not crash, all that is no error ends well. -/
theorem error?_eq_none_iff {delivery : Delivery} (calm : delivery.crash? = none) :
    delivery.error? = none ↔ delivery.ending = .returned () := by
  unfold crash? at calm
  unfold error?
  cases ending : delivery.ending with
  | returned => simp
  | failed error => simp
  | crashed crash =>
      rw [ending] at calm
      cases calm

/-- Going through a list finds nothing if nothing was found before and no step finds anything. -/
theorem foldl_eq_none_iff {α β : Type} {step : Option β → α → Option β} {passes : α → Prop}
    (keeps : ∀ found item, step found item = none ↔ found = none ∧ passes item)
    (items : List α) (found : Option β) :
    items.foldl step found = none ↔ found = none ∧ ∀ item ∈ items, passes item := by
  induction items generalizing found with
  | nil => simp
  | cons item rest inductionHypothesis =>
      rw [List.foldl_cons, inductionHypothesis, keeps, List.forall_mem_cons, and_assoc]

theorem firstCrash?_eq_none_iff (deliveries : List Delivery) :
    firstCrash? deliveries = none ↔ ∀ delivery ∈ deliveries, delivery.crash? = none := by
  unfold firstCrash?
  refine (foldl_eq_none_iff (fun found delivery => ?_) deliveries none).trans (and_iff_right rfl)
  cases delivery.crash? with
  | none => cases found <;> simp
  | some crash =>
      cases found with
      | none => simp
      | some earlier =>
          dsimp only
          split <;> simp

theorem crash?_together {deliveries : List Delivery}
    (calm : ∀ delivery ∈ deliveries, delivery.crash? = none) :
    (together deliveries).crash? = none := by
  have uncrashed := (firstCrash?_eq_none_iff deliveries).mpr calm
  simp only [crash?, together, uncrashed]
  cases deliveries.findSome? error? <;> rfl

/-- The slowest of some deliveries lasts at least as long as each, and as long as one of them. -/
theorem slowest_spec (deliveries : List Delivery) :
    (∀ delivery ∈ deliveries, delivery.lasts ≤ slowest deliveries) ∧
      (slowest deliveries = 0 ∨ ∃ delivery ∈ deliveries, delivery.lasts = slowest deliveries) := by
  have general (longest : Duration) :
      let reached := deliveries.foldl (fun longest delivery => max longest delivery.lasts) longest
      longest ≤ reached ∧ (∀ delivery ∈ deliveries, delivery.lasts ≤ reached) ∧
        (reached = longest ∨ ∃ delivery ∈ deliveries, delivery.lasts = reached) := by
    induction deliveries generalizing longest with
    | nil => exact ⟨Nat.le_refl _, nofun, .inl rfl⟩
    | cons delivery rest inductionHypothesis =>
        obtain ⟨grows, bounds, reaches⟩ := inductionHypothesis (max longest delivery.lasts)
        refine ⟨Nat.le_trans (Nat.le_max_left ..) grows, ?_, ?_⟩
        · rw [List.forall_mem_cons]
          exact ⟨Nat.le_trans (Nat.le_max_right ..) grows, bounds⟩
        · rcases reaches with same | ⟨slow, member, same⟩
          · rcases Nat.le_total delivery.lasts longest with less | more
            · exact .inl (same.trans (Nat.max_eq_left less))
            · refine .inr ⟨delivery, List.mem_cons_self, ?_⟩
              exact (same.trans (Nat.max_eq_right more)).symm
          · exact .inr ⟨slow, List.mem_cons_of_mem _ member, same⟩
  obtain ⟨-, bounds, reaches⟩ := general 0
  exact ⟨bounds, reaches⟩

/-- The first in a list that does not end well fails with this error. -/
def FirstFailure (deliveries : List Delivery) (error : String) : Prop :=
  ∃ earlier delivery later, deliveries = earlier ++ delivery :: later ∧
    (∀ other ∈ earlier, other.ending = .returned ()) ∧ delivery.ending = .failed error

/-- One delivery stands for several at once. -/
structure Combines (deliveries : List Delivery) (whole : Delivery) : Prop where
  lasts_le : ∀ delivery ∈ deliveries, delivery.lasts ≤ whole.lasts
  lasts_eq : deliveries = [] ∧ whole.lasts = 0 ∨
    ∃ delivery ∈ deliveries, delivery.lasts = whole.lasts
  returned_iff : whole.ending = .returned () ↔
    ∀ delivery ∈ deliveries, delivery.ending = .returned ()
  failed_iff : ∀ error, whole.ending = .failed error ↔ FirstFailure deliveries error

theorem combines_together {deliveries : List Delivery}
    (calm : ∀ delivery ∈ deliveries, delivery.crash? = none) :
    Combines deliveries (together deliveries) := by
  have uncrashed := (firstCrash?_eq_none_iff deliveries).mpr calm
  obtain ⟨bounds, reaches⟩ := slowest_spec deliveries
  have lasts : (together deliveries).lasts = slowest deliveries := by
    simp only [together, uncrashed]
  have well : deliveries.findSome? error? = none ↔
      ∀ delivery ∈ deliveries, delivery.ending = .returned () := by
    rw [List.findSome?_eq_none_iff]
    exact forall₂_congr fun delivery member => error?_eq_none_iff (calm delivery member)
  have fails (error : String) :
      deliveries.findSome? error? = some error ↔ FirstFailure deliveries error := by
    rw [List.findSome?_eq_some_iff]
    constructor
    · rintro ⟨earlier, delivery, later, rfl, failed, before⟩
      refine ⟨earlier, delivery, later, rfl, fun other member => ?_, error?_eq_some_iff.mp failed⟩
      exact (error?_eq_none_iff (calm other (List.mem_append_left _ member))).mp
        (before other member)
    · rintro ⟨earlier, delivery, later, rfl, before, failed⟩
      refine ⟨earlier, delivery, later, rfl, error?_eq_some_iff.mpr failed, fun other member => ?_⟩
      exact (error?_eq_none_iff (calm other (List.mem_append_left _ member))).mpr
        (before other member)
  have ending : (together deliveries).ending =
      (deliveries.findSome? error?).elim (.returned ()) .failed := by
    simp only [together, uncrashed]
    cases deliveries.findSome? error? <;> rfl
  refine ⟨?_, ?_, ?_, ?_⟩
  · rw [lasts]
    exact bounds
  · rw [lasts]
    rcases reaches with zero | slow
    · cases deliveries with
      | nil => exact .inl ⟨rfl, zero⟩
      | cons delivery rest =>
          refine .inr ⟨delivery, List.mem_cons_self, ?_⟩
          have least := bounds delivery List.mem_cons_self
          rw [zero] at least ⊢
          exact Nat.le_zero.mp least
    · exact .inr slow
  · rw [ending, ← well]
    cases deliveries.findSome? error? <;> simp
  · intro error
    rw [ending, ← fails]
    cases deliveries.findSome? error? <;> simp

end Delivery

namespace Reporter

variable (clock : Clock) (batch : List Json)

/-- How a delivery goes. -/
def delivery (reporter : Reporter) : Delivery := (reporter.deliver clock batch).1

/-- The reporter after a delivery. -/
def next (reporter : Reporter) : Reporter := (reporter.deliver clock batch).2

/-- Unless one of them crashes, every member gets the batch once, and nothing else happens to it. -/
theorem deliverAll_eq {members : List Reporter}
    (calm : ∀ member ∈ members, (member.delivery clock batch).crash? = none) :
    deliverAll clock batch members =
      (members.map (delivery clock batch), members.map (next clock batch)) := by
  induction members with
  | nil => rw [deliverAll]; rfl
  | cons member rest inductionHypothesis =>
      obtain ⟨first, others⟩ := List.forall_mem_cons.mp calm
      have stays : (member.delivery clock batch).crashesAtOnce = false := by
        rw [Delivery.crashesAtOnce, first]
        exact Bool.and_false _
      rw [deliverAll, inductionHypothesis others]
      rw [delivery] at stays
      simp only [stays, Bool.false_eq_true, if_false]
      rfl

theorem deliver_fanOut {members : List Reporter}
    (calm : ∀ member ∈ members, (member.delivery clock batch).crash? = none) :
    (fanOut members).delivery clock batch = .together (members.map (delivery clock batch)) ∧
      (fanOut members).next clock batch = .fanOut (members.map (next clock batch)) := by
  simp only [delivery, next, deliver, deliverAll_eq clock batch calm, and_self]

mutual

/-- A reporter that returns or fails, but never crashes. -/
def Sane : Reporter → Prop
  | .custom reply _ => ∀ crash, reply.ending ≠ .crashed crash
  | .fanOut members => AllSane members
  | _ => True

def AllSane : List Reporter → Prop
  | [] => True
  | member :: rest => Sane member ∧ AllSane rest

end

theorem allSane_iff (members : List Reporter) :
    AllSane members ↔ ∀ member ∈ members, member.Sane := by
  induction members with
  | nil => simp [AllSane]
  | cons member rest inductionHypothesis =>
      rw [AllSane, inductionHypothesis, List.forall_mem_cons]

/-- What is left of a result is no crash, however its error is told. -/
theorem crash?_ofExcept {ε : Type} (result : Except ε Unit) (tell : ε → String) (lasts : Duration)
    (notices : List Notice) :
    Delivery.crash?
      { lasts := lasts
        ending := (Outcome.ofExcept result).mapError tell
        notices := notices } = none := by
  cases result <;> rfl

mutual

/-- A reporter that never crashes stays so. Every reporter of the observed program in it takes note
    of one more attempt, with the whole batch. -/
theorem Sane.deliver {reporter : Reporter} (sane : reporter.Sane) :
    (reporter.delivery clock batch).crash? = none ∧ (reporter.next clock batch).Sane ∧
      (reporter.next clock batch).attempts =
        reporter.attempts.map (· ++ [{ time := clock.now, batch := batch }]) := by
  match reporter with
  | .discarding => exact ⟨rfl, trivial, rfl⟩
  | .custom reply attempts =>
      refine ⟨Delivery.crash?_eq_none_iff.mpr ?_, sane, rfl⟩
      simp only [delivery, Reporter.deliver, deliverOne]
      rw [Sane] at sane
      cases ending : reply.ending with
      | returned => exact .inl rfl
      | failed error => exact .inr ⟨error, rfl⟩
      | crashed crash => exact absurd ending (sane crash)
  | .folder target => exact ⟨crash?_ofExcept .., trivial, rfl⟩
  | .collector target answer => exact ⟨crash?_ofExcept .., trivial, rfl⟩
  | .fanOut members =>
      rw [Sane] at sane
      obtain ⟨calm, allSane, attempts⟩ := AllSane.deliver sane
      obtain ⟨whole, changed⟩ := deliver_fanOut clock batch calm
      rw [whole, changed]
      exact ⟨Delivery.crash?_together (List.forall_mem_map.mpr calm), allSane, attempts⟩

theorem AllSane.deliver {members : List Reporter} (sane : AllSane members) :
    (∀ member ∈ members, (member.delivery clock batch).crash? = none) ∧
      AllSane (members.map (next clock batch)) ∧
      attemptsOfAll (members.map (next clock batch)) =
        (attemptsOfAll members).map (· ++ [{ time := clock.now, batch := batch }]) := by
  match members with
  | [] => exact ⟨nofun, trivial, rfl⟩
  | member :: rest =>
      rw [AllSane] at sane
      obtain ⟨calm, saneNext, attempts⟩ := Sane.deliver sane.1
      obtain ⟨calmRest, saneRest, attemptsRest⟩ := AllSane.deliver sane.2
      refine ⟨List.forall_mem_cons.mpr ⟨calm, calmRest⟩, ⟨saneNext, saneRest⟩, ?_⟩
      rw [List.map_cons, attemptsOfAll, attempts, attemptsRest, attemptsOfAll, List.map_append]

end

end Reporter

end Stackwatch

import Stackwatch.Proofs.Wire.Reading

/-!
# Sequences of fields

A message, or a packed list, is a sequence of items that fills its bytes. Reading finds exactly the
items of such a sequence, and bytes that are filled can be put in front of any others: what is read
behind them, or what is wrong there, stays what it was.
-/

namespace Stackwatch.Wire

variable {α β : Type}

/-- Items that fill some bytes one after the other. An item of no interest counts for none. -/
inductive Fills (readItem : Input → Read (Option α × Input)) : Bytes → List α → Prop where
  | nil : Fills readItem [] []
  | cons {first rest : Bytes} {item? : Option α} {items : List α}
      (head : Reads readItem first item?) (tail : Fills readItem rest items) :
      Fills readItem (first ++ rest) (item?.toList ++ items)

namespace Fills

variable {readItem : Input → Read (Option α × Input)} {front back : Bytes} {items others : List α}

theorem of_reads {item? : Option α} (reads : Reads readItem front item?) :
    Fills readItem front item?.toList := by
  have filled := Fills.cons reads .nil
  rwa [List.append_nil, List.append_nil] at filled

theorem append (fills : Fills readItem front items) (more : Fills readItem back others) :
    Fills readItem (front ++ back) (items ++ others) := by
  induction fills with
  | nil => exact more
  | cons head tail inductionHypothesis =>
      rw [List.append_assoc, List.append_assoc]
      exact .cons head inductionHypothesis

/-- What is written for each of some things fills the bytes of all. -/
theorem flatMap {written : List β} {write : β → Bytes} {item : β → α}
    (each : ∀ thing ∈ written, Fills readItem (write thing) [item thing]) :
    Fills readItem (written.flatMap write) (written.map item) := by
  induction written with
  | nil => exact .nil
  | cons first rest inductionHypothesis =>
      obtain ⟨head, tail⟩ := List.forall_mem_cons.mp each
      rw [List.flatMap_cons, List.map_cons]
      exact head.append (inductionHypothesis tail)

end Fills

/-! ### Reading a sequence -/

section Until

variable {readItem : Input → Read (Option α × Input)} {front : Bytes} {items : List α}
  {stop fuel : Nat} {input : Input}

/-- As many steps as there are bytes are enough. -/
theorem readUntil_of_enough (isLocal : Local readItem) (enough : input.size ≤ fuel) :
    readUntil readItem stop fuel input = readUntil readItem stop input.size input := by
  induction fuel using Nat.strong_induction_on generalizing input with
  | _ fuel inductionHypothesis =>
      by_cases done : input.size ≤ stop
      · cases fuel <;> cases size : input.size <;> simp_all [readUntil]
      · obtain ⟨size, sizeEq⟩ : ∃ fewer, input.size = fewer + 1 := ⟨input.size - 1, by omega⟩
        obtain ⟨fuel, rfl⟩ : ∃ fewer, fuel = fewer + 1 := ⟨fuel - 1, by omega⟩
        rw [sizeEq]
        simp only [readUntil, done, if_false]
        cases found : readItem input with
        | error fault => rfl
        | ok outcome =>
            obtain ⟨item?, next⟩ := outcome
            have shorter := isLocal.size_lt found
            have same : readUntil readItem stop fuel next = readUntil readItem stop size next := by
              rw [inductionHypothesis fuel (by omega) (by omega)]
              by_cases fewer : size < fuel + 1
              · rw [inductionHypothesis size fewer (by omega)]
              · omega
            simp only [bind, Except.bind, same]

/-- Items in front are found first, and then reading goes on as if they had not been there. -/
theorem Fills.readUntil_append (fills : Fills readItem front items) (isLocal : Local readItem)
    (rest : Bytes) (inside : stop ≤ rest.length) :
    readUntil readItem stop (front ++ rest).length (.ofBytes (front ++ rest)) =
      (readUntil readItem stop rest.length (.ofBytes rest)).map fun found =>
        (items ++ found.1, found.2) := by
  induction fills with
  | nil =>
      cases result : readUntil readItem stop rest.length (.ofBytes rest) <;>
        simp [result, Except.map]
  | @cons first others item? items head tail inductionHypothesis =>
      have some : 0 < first.length := List.length_pos_iff.mpr head.takes
      obtain ⟨steps, stepsEq⟩ : ∃ fewer, (first ++ others ++ rest).length = fewer + 1 :=
        ⟨(first ++ others ++ rest).length - 1, by simp only [List.length_append]; omega⟩
      have more : ¬ (Input.ofBytes (first ++ others ++ rest)).size ≤ stop := by
        simp only [Input.size_ofBytes, List.length_append]
        omega
      have enough : (Input.ofBytes (others ++ rest)).size ≤ steps := by
        simp only [List.length_append] at stepsEq
        simp only [Input.size_ofBytes, List.length_append]
        omega
      rw [stepsEq]
      simp only [readUntil, more, if_false]
      rw [List.append_assoc, head.finds]
      simp only [bind, Except.bind, readUntil_of_enough isLocal enough, Input.size_ofBytes,
        inductionHypothesis]
      cases readUntil readItem stop rest.length (.ofBytes rest) with
      | error fault => rfl
      | ok found => simp only [Except.map, List.append_assoc]

/-- A sequence ends where it has to. -/
theorem Fills.readUntil (fills : Fills readItem front items) (isLocal : Local readItem)
    (rest : Bytes) :
    readUntil readItem rest.length (front ++ rest).length (.ofBytes (front ++ rest)) =
      .ok (items, .ofBytes rest) := by
  have ended : Wire.readUntil readItem rest.length rest.length (.ofBytes rest) =
      .ok ([], .ofBytes rest) := by
    cases length : rest.length <;> simp [Wire.readUntil, length]
  rw [fills.readUntil_append isLocal rest (Nat.le_refl _), ended]
  simp [Except.map]

/-- Whatever is read as a sequence is filled by it. -/
theorem fills_of_readUntil (isLocal : Local readItem) {rest : Input}
    (found : readUntil readItem stop fuel input = .ok (items, rest)) :
    ∃ front, input.bytes = front ++ rest.bytes ∧ rest.size = stop ∧
      Fills readItem front items := by
  induction fuel generalizing input items with
  | zero =>
      simp only [readUntil] at found
      split at found
      · next ends =>
          cases found
          exact ⟨[], rfl, ends, .nil⟩
      · cases found
  | succ fuel inductionHypothesis =>
      simp only [readUntil] at found
      split at found
      · split at found
        · next ends =>
            cases found
            exact ⟨[], rfl, ends, .nil⟩
        · cases found
      · obtain ⟨⟨item?, next⟩, head, found⟩ := bind_eq_ok.mp found
        obtain ⟨⟨others, last⟩, tail, same⟩ := bind_eq_ok.mp found
        cases same
        obtain ⟨first, split, reads⟩ := isLocal.of_ok head
        obtain ⟨front, splitNext, ends, fills⟩ := inductionHypothesis tail
        exact ⟨first ++ front, by rw [split, splitNext, List.append_assoc], ends,
          .cons reads fills⟩

theorem Fills.readDelimited (fills : Fills readItem front items) (isLocal : Local readItem)
    {length : Bytes} (form : NumberForm length front.length) :
    Reads (readDelimited readItem) (length ++ front) items := by
  refine ⟨List.append_ne_nil_of_left_ne_nil (VarintForm.ne_nil form) front, fun rest => ?_⟩
  have inside : ¬ (Input.ofBytes (front ++ rest)).size < front.length := by
    simp
  have stop : (Input.ofBytes (front ++ rest)).size - front.length = rest.length := by
    simp
  rw [List.append_assoc]
  simp only [Wire.readDelimited, readVarint_append form, bind, Except.bind, inside, if_false, stop]
  exact fills.readUntil isLocal rest

theorem of_readDelimited (isLocal : Local readItem) {rest : Input}
    (found : readDelimited readItem input = .ok (items, rest)) :
    ∃ length front, input.bytes = length ++ front ++ rest.bytes ∧
      NumberForm length front.length ∧ Fills readItem front items := by
  obtain ⟨⟨count, after⟩, number, found⟩ := bind_eq_ok.mp found
  obtain ⟨length, split, form⟩ := numberForm_of_readVarint number
  dsimp only at found
  split at found
  · cases found
  · next inside =>
      obtain ⟨front, splitAfter, ends, fills⟩ := fills_of_readUntil isLocal found
      have count : count = front.length := by
        rw [rest.size_eq, after.size_eq, splitAfter, List.length_append] at ends
        rw [after.size_eq, splitAfter, List.length_append] at inside
        omega
      exact ⟨length, front, by rw [split, splitAfter, List.append_assoc], count ▸ form, fills⟩

theorem local_readDelimited (isLocal : Local readItem) : Local (readDelimited readItem) := by
  constructor
  intro input items rest found
  obtain ⟨length, front, split, form, fills⟩ := of_readDelimited isLocal found
  exact ⟨length ++ front, split, fills.readDelimited isLocal form⟩

end Until

end Stackwatch.Wire

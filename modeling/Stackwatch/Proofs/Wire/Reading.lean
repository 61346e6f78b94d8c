import Stackwatch.Proofs.Wire.Forms

/-!
# What readers take

A reader takes some bytes from the front of its input. Every reader of this format is local: what it
finds is decided by the bytes that it takes, and nothing behind them matters, not even their number.
Lengths are checked against the end of the whole input, so this is not plain to see; the reason is
that a reader which succeeds has passed all these checks already, and passes them the more easily
the more bytes follow.
-/

namespace Stackwatch.Wire

variable {α β : Type}

theorem bind_eq_ok {found : Read α} {next : α → Read β} {result : β} :
    (found >>= next) = .ok result ↔ ∃ value, found = .ok value ∧ next value = .ok result := by
  cases found with
  | error fault => simp [bind, Except.bind]
  | ok value => simp [bind, Except.bind]

/-- A reader takes exactly `front` and finds `value`, whatever follows. -/
structure Reads (read : Input → Read (α × Input)) (front : Bytes) (value : α) : Prop where
  takes : front ≠ []
  finds : ∀ rest, read (.ofBytes (front ++ rest)) = .ok (value, .ofBytes rest)

/-- A reader that finds nothing of interest takes exactly `front`, whatever follows. -/
structure Skips (skip : Input → Read Input) (front : Bytes) : Prop where
  takes : front ≠ []
  passes : ∀ rest, skip (.ofBytes (front ++ rest)) = .ok (.ofBytes rest)

/-- Nothing behind the bytes that a reader takes matters to it. -/
structure Local (read : Input → Read (α × Input)) : Prop where
  of_ok : ∀ {input value rest}, read input = .ok (value, rest) →
    ∃ front, input.bytes = front ++ rest.bytes ∧ Reads read front value

/-- Nothing behind the bytes that are skipped matters. -/
structure LocalSkip (skip : Input → Read Input) : Prop where
  of_ok : ∀ {input rest}, skip input = .ok rest →
    ∃ front, input.bytes = front ++ rest.bytes ∧ Skips skip front

/-- A local reader leaves less than it was given. -/
theorem Local.size_lt {read : Input → Read (α × Input)} (isLocal : Local read)
    {input rest : Input} {value : α} (found : read input = .ok (value, rest)) :
    rest.size < input.size := by
  obtain ⟨front, split, reads⟩ := isLocal.of_ok found
  have some : 0 < front.length := List.length_pos_iff.mpr reads.takes
  rw [input.size_eq, rest.size_eq, split, List.length_append]
  omega

/-! ### Single items -/

theorem NumberForm.reads {front : Bytes} {number : Nat} (form : NumberForm front number) :
    Reads readVarint front number :=
  ⟨VarintForm.ne_nil form, readVarint_append form⟩

theorem local_readVarint : Local readVarint := by
  constructor
  intro input number rest found
  obtain ⟨front, split, form⟩ := numberForm_of_readVarint found
  exact ⟨front, split, form.reads⟩

theorem readChunk_append {length contents : Bytes} (form : NumberForm length contents.length) :
    Reads readChunk (length ++ contents) contents := by
  refine ⟨List.append_ne_nil_of_left_ne_nil (VarintForm.ne_nil form) contents, fun rest => ?_⟩
  rw [List.append_assoc]
  simp only [readChunk, readVarint_append form, bind, Except.bind, Input.take?_append]

theorem of_readChunk {input rest : Input} {chunk : Bytes}
    (found : readChunk input = .ok (chunk, rest)) :
    ∃ length, input.bytes = length ++ chunk ++ rest.bytes ∧ NumberForm length chunk.length := by
  obtain ⟨⟨count, after⟩, number, taken⟩ := bind_eq_ok.mp found
  obtain ⟨length, split, form⟩ := numberForm_of_readVarint number
  dsimp only at taken
  split at taken
  · next taking =>
      cases taken
      obtain ⟨splitAfter, count⟩ := Input.take?_eq_some taking
      exact ⟨length, by rw [split, splitAfter, List.append_assoc], count ▸ form⟩
  · cases taken

theorem local_readChunk : Local readChunk := by
  constructor
  intro input chunk rest found
  obtain ⟨length, split, form⟩ := of_readChunk found
  exact ⟨length ++ chunk, split, readChunk_append form⟩

theorem skips_skipBytes {front : Bytes} (some : front ≠ []) :
    Skips (skipBytes front.length) front := by
  refine ⟨some, fun rest => ?_⟩
  simp only [skipBytes, Input.skip?_append]

theorem localSkip_skipBytes {count : Nat} (some : 0 < count) : LocalSkip (skipBytes count) := by
  constructor
  intro input rest found
  unfold skipBytes at found
  split at found
  · next skipped =>
      cases found
      obtain ⟨front, split, rfl⟩ := Input.skip?_eq_some skipped
      exact ⟨front, split, skips_skipBytes (List.length_pos_iff.mp some)⟩
  · cases found

/-- Who reads something and forgets it skips it. -/
theorem Local.skip {read : Input → Read (α × Input)} (isLocal : Local read) :
    LocalSkip (fun input => read input >>= fun found => .ok found.2) := by
  constructor
  intro input rest found
  obtain ⟨⟨value, after⟩, reading, same⟩ := bind_eq_ok.mp found
  cases same
  obtain ⟨front, split, reads⟩ := isLocal.of_ok reading
  refine ⟨front, split, reads.takes, fun more => ?_⟩
  simp only [reads.finds, bind, Except.bind]

theorem localSkip_skipScalar (wire : WireType) : LocalSkip (skipScalar wire) := by
  cases wire with
  | varint => exact local_readVarint.skip
  | fixed64 => exact localSkip_skipBytes (by decide)
  | lengthDelimited => exact local_readChunk.skip
  | startGroup =>
      constructor
      intro input rest found
      cases found
  | endGroup =>
      constructor
      intro input rest found
      cases found
  | fixed32 => exact localSkip_skipBytes (by decide)

/-! ### Groups -/

/-- Where groups were skipped, as many steps as there are bytes in them are enough. -/
theorem of_skipGroups {fuel levels innermost : Nat} {outer : List Nat} {input rest : Input}
    (skipped : skipGroups fuel levels innermost outer input = .ok rest) :
    ∃ front, input.bytes = front ++ rest.bytes ∧ front ≠ [] ∧
      ∀ steps more, front.length ≤ steps →
        skipGroups steps levels innermost outer (.ofBytes (front ++ more)) =
          .ok (.ofBytes more) := by
  induction fuel generalizing levels innermost outer input with
  | zero => cases skipped
  | succ fuel inductionHypothesis =>
      obtain ⟨⟨key, after⟩, keyRead, skipped⟩ := bind_eq_ok.mp skipped
      obtain ⟨keyBytes, split, form⟩ := keyForm_of_readKey keyRead
      have some : 0 < keyBytes.length := List.length_pos_iff.mpr form.ne_nil
      -- The key is taken off in front; what is left to show is what the cases below do behind it.
      suffices behind : ∃ body, after.bytes = body ++ rest.bytes ∧
          ∀ steps more, body.length ≤ steps →
            skipGroups (steps + 1) levels innermost outer (.ofBytes (keyBytes ++ (body ++ more))) =
              .ok (.ofBytes more) by
        obtain ⟨body, splitAfter, passes⟩ := behind
        refine ⟨keyBytes ++ body, by rw [split, splitAfter, List.append_assoc],
          List.append_ne_nil_of_left_ne_nil form.ne_nil body, fun steps more enough => ?_⟩
        rw [List.length_append] at enough
        obtain ⟨steps, rfl⟩ : ∃ fewer, steps = fewer + 1 := ⟨steps - 1, by omega⟩
        rw [List.append_assoc]
        exact passes steps more (by omega)
      simp only [skipGroups, readKey_append form, bind, Except.bind]
      dsimp only at skipped
      split at skipped
      · next closes =>
          split at skipped
          · next same =>
              cases outer with
              | nil =>
                  cases skipped
                  refine ⟨[], rfl, fun steps more _ => ?_⟩
                  simp [same]
              | cons enclosing further =>
                  obtain ⟨body, splitAfter, -, passes⟩ := inductionHypothesis skipped
                  refine ⟨body, splitAfter, fun steps more enough => ?_⟩
                  simp [same, passes steps more enough]
          · cases skipped
      · next wire continues =>
          cases levels with
          | zero => cases skipped
          | succ below =>
              dsimp only at skipped ⊢
              split at skipped
              · next opens =>
                  obtain ⟨body, splitAfter, -, passes⟩ := inductionHypothesis skipped
                  refine ⟨body, splitAfter, fun steps more enough => ?_⟩
                  simp [opens, passes steps more enough]
              · next scalar =>
                  obtain ⟨next, scalarSkipped, skipped⟩ := bind_eq_ok.mp skipped
                  obtain ⟨payload, splitAfter, skips⟩ :=
                    (localSkip_skipScalar _).of_ok scalarSkipped
                  obtain ⟨body, splitNext, -, passes⟩ := inductionHypothesis skipped
                  refine ⟨payload ++ body, by rw [splitAfter, splitNext, List.append_assoc],
                    fun steps more enough => ?_⟩
                  rw [List.length_append] at enough
                  simp [scalar, List.append_assoc, skips.passes,
                    passes steps more (by omega)]

theorem localSkip_skipPayload (levels : Nat) (key : Key) : LocalSkip (skipPayload levels key) := by
  constructor
  intro input rest skipped
  cases levels with
  | zero => cases skipped
  | succ below =>
      simp only [skipPayload] at skipped
      split at skipped
      · next opens =>
          obtain ⟨front, split, some, passes⟩ := of_skipGroups skipped
          refine ⟨front, split, some, fun more => ?_⟩
          simp only [skipPayload, opens, if_true]
          exact passes _ more (by simp)
      · next scalar =>
          obtain ⟨front, split, skips⟩ := (localSkip_skipScalar key.wire).of_ok skipped
          refine ⟨front, split, skips.takes, fun more => ?_⟩
          simp only [skipPayload, scalar, if_false]
          exact skips.passes more

end Stackwatch.Wire

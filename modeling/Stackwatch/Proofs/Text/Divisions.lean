/-!
# Texts that are divided by characters

Texts are put together from parts with a character between them. The last of these characters tells
where the last part begins, and if no part contains the character, all parts can be told. A number
never contains any character but digits.
-/

namespace Stackwatch.Text

/-- In front of the last separator there is nothing between two divisions. -/
theorem between_eq_nil {separator : Char} {between first second : List Char}
    (last : separator ∉ first)
    (same : separator :: first = between ++ separator :: second) :
    between = [] ∧ first = second := by
  cases between with
  | nil =>
      rw [List.nil_append, List.cons.injEq] at same
      exact ⟨rfl, same.2⟩
  | cons head tail =>
      rw [List.cons_append, List.cons.injEq] at same
      exact absurd (by simp [same.2]) last

/-- A text can be divided at the last separator in one way only. -/
theorem eq_of_append_cons {separator : Char} {left right first second : List Char}
    (lastFirst : separator ∉ first) (lastSecond : separator ∉ second)
    (same : left ++ separator :: first = right ++ separator :: second) :
    left = right ∧ first = second := by
  obtain ⟨between, longer, rest⟩ | ⟨between, longer, rest⟩ := List.append_eq_append_iff.mp same
  · obtain ⟨rfl, back⟩ := between_eq_nil lastFirst rest
    exact ⟨by rw [longer, List.append_nil], back⟩
  · obtain ⟨rfl, back⟩ := between_eq_nil lastSecond rest
    exact ⟨by rw [longer, List.append_nil], back.symm⟩

/-- Parts that are not empty and hold no separator can be read off the text that they make up. -/
theorem eq_of_intercalate_eq {separator : Char} {first second : List (List Char)}
    (nonemptyFirst : [] ∉ first) (nonemptySecond : [] ∉ second)
    (wholeFirst : ∀ part ∈ first, separator ∉ part)
    (wholeSecond : ∀ part ∈ second, separator ∉ part)
    (same : [separator].intercalate first = [separator].intercalate second) : first = second := by
  -- No parts and one empty part make up the same text, so empty parts are taken out again.
  have parts (list : List (List Char)) (nonempty : [] ∉ list)
      (whole : ∀ part ∈ list, separator ∉ part) :
      list = (([separator].intercalate list).splitOn separator).filter (· ≠ []) := by
    cases list with
    | nil => rfl
    | cons part rest =>
        rw [List.splitOn_intercalate separator whole (List.cons_ne_nil part rest)]
        symm
        apply List.filter_eq_self.mpr
        intro other member
        exact decide_eq_true fun empty => nonempty (empty ▸ member)
  rw [parts first nonemptyFirst wholeFirst, same, ← parts second nonemptySecond wholeSecond]

theorem notMem_repr_of_isDigit_eq_false {char : Char} (other : char.isDigit = false)
    (number : Nat) : char ∉ number.repr.toList := by
  intro member
  rw [Nat.repr_eq_ofList_toDigits, String.toList_ofList] at member
  have digit := Nat.isDigit_of_mem_toDigits (by decide) (by decide) member
  cases digit.symm.trans other

end Stackwatch.Text

import Stackwatch.Proofs.Sampler.Baselines
import Stackwatch.Proofs.Text.Divisions

/-!
# What tells stacks apart

A stack is identified by a text. Where all its locations are known by their addresses, the text is
the addresses in hexadecimal digits with colons between them. The digits of a number have no zeros
in front, so one address has one text; no digit is a colon, so the addresses can be read off the
whole. The main statement is that two such stacks have the same text exactly if they have the same
addresses. So the sampler of blocked time keeps one reading for each list of addresses.
-/

namespace Stackwatch

/-! ### Hexadecimal digits -/

/-- Two digits are never written alike. -/
theorem digitChar_inj : ∀ first < 16, ∀ second < 16,
    first.digitChar = second.digitChar → first = second := by
  decide

theorem exists_digit_of_mem_toDigits {number : Nat} {char : Char}
    (member : char ∈ Nat.toDigits 16 number) : ∃ digit < 16, char = digit.digitChar := by
  induction number using Nat.strongRecOn with
  | ind number inductionHypothesis =>
      rw [Nat.toDigits_eq_if (by decide)] at member
      split at member
      · next small =>
          rw [List.mem_singleton] at member
          exact ⟨number, small, member⟩
      · next large =>
          rw [List.mem_append, List.mem_singleton] at member
          rcases member with front | last
          · exact inductionHypothesis (number / 16) (by omega) front
          · exact ⟨number % 16, Nat.mod_lt number (by decide), last⟩

/-- What a number has in front of its last digit. -/
theorem toDigits_eq_append (number : Nat) :
    Nat.toDigits 16 number =
      (if number < 16 then [] else Nat.toDigits 16 (number / 16)) ++
        [(number % 16).digitChar] := by
  rw [Nat.toDigits_eq_if (by decide)]
  split
  · next small => rw [Nat.mod_eq_of_lt small, List.nil_append]
  · rfl

theorem toDigits_inj {first second : Nat}
    (same : Nat.toDigits 16 first = Nat.toDigits 16 second) : first = second := by
  induction first using Nat.strongRecOn generalizing second with
  | ind first inductionHypothesis =>
      rw [toDigits_eq_append first, toDigits_eq_append second] at same
      obtain ⟨front, last⟩ := List.append_inj' same rfl
      have remainder : first % 16 = second % 16 :=
        digitChar_inj _ (Nat.mod_lt first (by decide)) _ (Nat.mod_lt second (by decide))
          (List.singleton_inj.mp last)
      split at front <;> split at front
      · omega
      · exact absurd front.symm Nat.toDigits_ne_nil
      · exact absurd front Nat.toDigits_ne_nil
      · have quotient : first / 16 = second / 16 :=
          inductionHypothesis (first / 16) (by omega) front
        omega

@[simp] theorem toList_hexText (value : Nat) : (hexText value).toList = Nat.toDigits 16 value := by
  rw [hexText, String.toList_ofList]

theorem colon_notMem_hexText (value : Nat) : ':' ∉ (hexText value).toList := by
  intro member
  rw [toList_hexText] at member
  obtain ⟨digit, small, written⟩ := exists_digit_of_mem_toDigits member
  have never : ∀ digit < 16, ':' ≠ digit.digitChar := by decide
  exact never digit small written

theorem hexText_inj {first second : Nat} : hexText first = hexText second ↔ first = second := by
  constructor
  · intro same
    apply toDigits_inj
    rw [← toList_hexText, same, toList_hexText]
  · exact congrArg hexText

/-! ### Stacks -/

/-- The location is not identified by its frame. -/
def Location.KnownByAddress (location : Location) : Prop :=
  location.address ≠ 0 ∨ location.lines = []

theorem Location.KnownByAddress.key_eq {location : Location} (known : location.KnownByAddress) :
    location.key = hexText location.address := by
  unfold Location.key Location.frame?
  split
  · next frame unknown hasFrame =>
      rcases known with addressed | bare
      · exact absurd unknown addressed
      · rw [bare] at hasFrame
        cases hasFrame
  · rfl

namespace Sample

/-- The addresses of the stack, leaf first. -/
def addresses (sample : Sample) : List Nat := sample.locations.map Location.address

/-- No location of the stack is identified by its frame. -/
def KnownByAddress (sample : Sample) : Prop :=
  ∀ location ∈ sample.locations, location.KnownByAddress

/-- The texts that the key of a stack is put together from. -/
def parts (sample : Sample) : List (List Char) :=
  sample.addresses.map fun address => (hexText address).toList

theorem KnownByAddress.toList_stackKey {sample : Sample} (known : sample.KnownByAddress) :
    sample.stackKey.toList = [':'].intercalate sample.parts := by
  have keys : sample.locations.map (fun location => location.key.toList) = sample.parts := by
    rw [parts, addresses, List.map_map]
    apply List.map_congr_left
    intro location member
    rw [(known location member).key_eq]
    rfl
  rw [stackKey, String.toList_intercalate, List.map_map]
  exact congrArg _ keys

theorem nil_notMem_parts (sample : Sample) : [] ∉ sample.parts := by
  intro member
  obtain ⟨address, -, empty⟩ := List.mem_map.mp member
  rw [toList_hexText] at empty
  exact Nat.toDigits_ne_nil empty

theorem colon_notMem_of_mem_parts (sample : Sample) : ∀ part ∈ sample.parts, ':' ∉ part := by
  intro part member
  obtain ⟨address, -, rfl⟩ := List.mem_map.mp member
  exact colon_notMem_hexText address

theorem parts_inj {first second : Sample} :
    first.parts = second.parts ↔ first.addresses = second.addresses := by
  have injective : Function.Injective fun address => (hexText address).toList := by
    intro first second same
    exact hexText_inj.mp (String.toList_inj.mp same)
  exact (List.map_injective_iff.mpr injective).eq_iff

theorem KnownByAddress.stackKey_eq_iff {first second : Sample} (knownFirst : first.KnownByAddress)
    (knownSecond : second.KnownByAddress) :
    first.stackKey = second.stackKey ↔ first.parts = second.parts := by
  rw [← String.toList_inj, knownFirst.toList_stackKey, knownSecond.toList_stackKey]
  constructor
  · exact Text.eq_of_intercalate_eq first.nil_notMem_parts second.nil_notMem_parts
      first.colon_notMem_of_mem_parts second.colon_notMem_of_mem_parts
  · exact congrArg _

/-- Stacks of which no location is identified by its frame have one key exactly if they have the
    same addresses, however many these are. -/
theorem stackKey_eq_iff_addresses_eq {first second : Sample} (knownFirst : first.KnownByAddress)
    (knownSecond : second.KnownByAddress) :
    first.stackKey = second.stackKey ↔ first.addresses = second.addresses :=
  (knownFirst.stackKey_eq_iff knownSecond).trans parts_inj

/-- A stack with the greatest address there is, called from where nothing is known. -/
def shortThenLong : Sample where
  locations :=
    [{ address := 0x1, lines := [{ function := "main", file := "main.rs", line := 7 }] },
      { address := 0xffffffffffffffff, lines := [] }, { address := 0, lines := [] }]
  values := [1]

/-- The same digits, but one of them belongs to the location before. -/
def longThenShort : Sample where
  locations :=
    [{ address := 0x1f, lines := [{ function := "main", file := "main.rs", line := 7 }] },
      { address := 0xfffffffffffffff, lines := [] }, { address := 0, lines := [] }]
  values := [1]

theorem stackKey_eq_iff_addresses_eq_same_digits :
    shortThenLong.KnownByAddress ∧ longThenShort.KnownByAddress ∧
      shortThenLong.parts.flatten = longThenShort.parts.flatten ∧
      shortThenLong.stackKey ≠ longThenShort.stackKey := by
  have knownFirst : shortThenLong.KnownByAddress := by
    simp [KnownByAddress, Location.KnownByAddress, shortThenLong]
  have knownSecond : longThenShort.KnownByAddress := by
    simp [KnownByAddress, Location.KnownByAddress, longThenShort]
  refine ⟨knownFirst, knownSecond, by decide, ?_⟩
  rw [ne_eq, stackKey_eq_iff_addresses_eq knownFirst knownSecond]
  decide

end Sample

/-- Among stacks that are known by their addresses, what is measured next is counted from the last
    reading of the same addresses, and from no other. -/
theorem Contention.lookup_baselinesOf_of_known (contentions delay : Nat) {samples : List Sample}
    {sample : Sample} (knownAll : ∀ other ∈ samples, other.KnownByAddress)
    (known : sample.KnownByAddress) :
    (baselinesOf contentions delay samples).lookup sample.stackKey =
      (samples.filter fun other => other.addresses == sample.addresses).getLast?.map
        (readingOf contentions delay) := by
  have alike : (samples.filter fun other => other.stackKey == sample.stackKey) =
      samples.filter fun other => other.addresses == sample.addresses := by
    apply List.filter_congr
    intro other member
    rw [Bool.eq_iff_iff, beq_iff_eq, beq_iff_eq]
    exact ((knownAll other member).stackKey_eq_iff known).trans Sample.parts_inj
  rw [lookup_baselinesOf, lastWithStack?, alike]

end Stackwatch

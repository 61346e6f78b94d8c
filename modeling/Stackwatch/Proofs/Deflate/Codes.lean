import Stackwatch.Proofs.Deflate.Codewords

/-!
# Codes that are read as they are written

A code made from codeword lengths finds the symbol of each codeword. That goes for the code in which
the codeword lengths of a block are written, so that a block gets the very codes that it brings.
-/

namespace Stackwatch.Deflate

variable {lengths : List Nat}

/-- The code finds the symbol of each codeword that these lengths describe. -/
structure Decodes (code : Code) (lengths : List Nat) : Prop where
  takes : ∀ {symbol : Nat} {word : List Bool}, word? lengths symbol = some word →
    Takes code.read word symbol

/-! ### Codes from codeword lengths -/

theorem decodes_ofCodewords (room : (lengths.map share).sum ≤ 2 ^ 15)
    (short : ∀ length ∈ lengths, length ≤ 15) :
    Decodes (Code.ofCodewords (Code.codewords lengths)) lengths :=
  ⟨fun isWord => Code.takes_read
    (Code.leads_ofCodewords (pairwise_apart_codewords room) (mem_codewords short isWord))⟩

theorem coverage_eq (lengths : List Nat) : Code.coverage lengths = (lengths.map share).sum := by
  rw [Code.coverage, List.sum_eq_foldr]
  congr 1
  refine List.map_congr_left fun length _ => ?_
  cases length with
  | zero => rfl
  | succ length =>
      rw [if_neg (Nat.succ_ne_zero length), share, ← Nat.add_sub_add_right 14 1 length]
      rfl

theorem Complete.decodes (complete : Complete lengths) (short : ∀ length ∈ lengths, length ≤ 15) :
    ∃ code, Code.ofCompleteLengths lengths = .ok code ∧ Decodes code lengths := by
  have isComplete : Code.isComplete lengths = true := by
    rw [Code.isComplete, coverage_eq, decide_eq_true_eq]
    exact complete
  refine ⟨_, ?_, decodes_ofCodewords (Nat.le_of_eq complete) short⟩
  rw [Code.ofCompleteLengths, if_pos isComplete]

theorem sum_share_filter (lengths : List Nat) :
    (lengths.map share).sum = ((lengths.filter (· ≠ 0)).map share).sum := by
  induction lengths with
  | nil => rfl
  | cons length lengths inductionHypothesis =>
      cases length <;> simpa [share] using inductionHypothesis

theorem Usable.room (usable : Usable lengths) : (lengths.map share).sum ≤ 2 ^ 15 := by
  cases usable with
  | complete complete => exact Nat.le_of_eq complete
  | single only =>
      rw [sum_share_filter, only]
      decide
  | vacant nothing =>
      rw [sum_share_filter, nothing]
      decide

theorem wordCount_filter (lengths : List Nat) (length : Nat) :
    wordCount (lengths.filter (· ≠ 0)) length = wordCount lengths length := by
  cases length with
  | zero => rfl
  | succ length => exact List.count_filter (by simp)

theorem wordsOfLength_eq_nil {length : Nat} (positive : 0 < length)
    (none : wordCount lengths length = 0) : wordsOfLength lengths length = [] :=
  List.eq_nil_of_length_eq_zero ((length_wordsOfLength lengths positive).trans none)

/-- A single codeword of one bit is the bit zero. -/
theorem codewords_single (only : lengths.filter (· ≠ 0) = [1]) :
    ∃ symbol, Code.codewords lengths = [([false], symbol)] := by
  have count (length : Nat) : wordCount lengths length = wordCount [1] length := by
    rw [← wordCount_filter lengths, only]
  obtain ⟨⟨word, symbol⟩, single⟩ := List.length_eq_one_iff.mp
    ((length_wordsOfLength lengths Nat.one_pos).trans (count 1))
  obtain ⟨offset, inside, isZero⟩ :=
    mem_wordsOfLength (single ▸ List.mem_singleton_self _) Nat.one_pos
  obtain rfl : offset = 0 := by
    rw [count 1] at inside
    exact Nat.lt_one_iff.mp inside
  have others : (List.range' 2 14).flatMap (wordsOfLength lengths) = [] := by
    rw [List.flatMap_eq_nil_iff]
    intro length member
    have long : 2 ≤ length := (List.mem_range'_1.mp member).1
    refine wordsOfLength_eq_nil (by omega) ((count length).trans ?_)
    obtain ⟨shorter, rfl⟩ := Nat.exists_eq_add_of_le' long
    exact List.count_eq_zero_of_not_mem (by simp)
  have first : firstWord lengths 1 = 0 := rfl
  rw [first] at isZero
  refine ⟨symbol, ?_⟩
  rw [codewords_eq, List.range'_succ, List.flatMap_cons, others, single, List.append_nil]
  exact congrArg (fun word => [(word, symbol)]) isZero

theorem Usable.decodes (usable : Usable lengths) (short : ∀ length ∈ lengths, length ≤ 15) :
    ∃ code, Code.ofLengths lengths = .ok code ∧ Decodes code lengths := by
  have decodes := decodes_ofCodewords usable.room short
  cases usable with
  | complete complete =>
      obtain ⟨code, made, decodesMade⟩ := complete.decodes short
      unfold Code.ofLengths
      split
      · next nothing => exact ⟨_, rfl, by rwa [nothing] at decodes⟩
      · next bit symbol single => exact ⟨_, rfl, by rwa [single] at decodes⟩
      · exact ⟨code, made, decodesMade⟩
  | single only =>
      obtain ⟨symbol, single⟩ := codewords_single only
      rw [single] at decodes
      exact ⟨_, by rw [Code.ofLengths, single], decodes⟩
  | vacant nothing =>
      have none : Code.codewords lengths = [] := by
        rw [codewords_eq, List.flatMap_eq_nil_iff]
        intro length member
        refine wordsOfLength_eq_nil (List.mem_range'_1.mp member).1 ?_
        rw [← wordCount_filter, nothing]
        cases length <;> rfl
      rw [none] at decodes
      refine ⟨_, ?_, decodes⟩
      rw [Code.ofLengths, none]
      rfl

/-- The codes of a block find the symbols of its literals and distances. -/
structure BlockCodes.Decode (codes : BlockCodes) (literals distances : List Nat) : Prop where
  literals : Decodes codes.literals literals
  distances : Decodes codes.distances distances

theorem decode_codesOfLengths {literals distances : List Nat} (usableLiterals : Usable literals)
    (usableDistances : Usable distances)
    (short : ∀ length ∈ literals ++ distances, length ≤ 15) :
    ∃ codes, codesOfLengths (literals, distances) = .ok codes ∧
      codes.Decode literals distances := by
  obtain ⟨shortLiterals, shortDistances⟩ := List.forall_mem_append.mp short
  obtain ⟨literalCode, madeLiterals, decodesLiterals⟩ := usableLiterals.decodes shortLiterals
  obtain ⟨distanceCode, madeDistances, decodesDistances⟩ := usableDistances.decodes shortDistances
  refine ⟨⟨literalCode, distanceCode⟩, ?_, decodesLiterals, decodesDistances⟩
  simp only [codesOfLengths, madeLiterals, madeDistances, bind, Except.bind]

theorem fixedLengths_eq : fixedLengths = (fixedLiterals, fixedDistances) := by decide +kernel

theorem complete_fixedLiterals : Complete fixedLiterals := by
  unfold Complete
  decide +kernel

theorem complete_fixedDistances : Complete fixedDistances := by
  unfold Complete
  decide +kernel

theorem decode_fixedLengths :
    ∃ codes, codesOfLengths fixedLengths = .ok codes ∧
      codes.Decode fixedLiterals fixedDistances := by
  rw [fixedLengths_eq]
  exact decode_codesOfLengths (.complete complete_fixedLiterals) (.complete complete_fixedDistances)
    (by decide +kernel)

/-! ### Amounts -/

theorem lengthTable_eq : lengthTable = lengthRanges := by decide

theorem distanceTable_eq : distanceTable = distanceRanges := by decide

/-- The bits behind the symbol of an amount are read with the range of the symbol. -/
theorem Amount.cases {first amount : Nat} {ranges : List (Nat × Nat)} {bits : List Bool}
    (isAmount : Amount lengths first ranges amount bits) :
    ∃ place word extra, bits = word ++ extra ∧ word? lengths (first + place) = some word ∧
      Takes (readAmount ranges place) extra amount := by
  obtain ⟨range, fits, isWord⟩ := isAmount
  refine ⟨_, _, _, rfl, isWord, (takes_readNumber _ fits).map fun input rest found => ?_⟩
  simp only [readAmount, range, found, bind, Except.bind]

/-! ### The codes that a block brings -/

theorem takes_readTriples {sent : List Nat} (small : ∀ number ∈ sent, number < 8) :
    Takes (readTriples sent.length) (sent.flatMap (numberBits 3)) sent := by
  induction sent with
  | nil => exact takes_nil []
  | cons number sent inductionHypothesis =>
      obtain ⟨first, others⟩ := List.forall_mem_cons.mp small
      constructor
      intro input more tidy begins
      rw [List.flatMap_cons, List.append_assoc] at begins
      obtain ⟨between, read, bits, tidyBetween⟩ :=
        (takes_readNumber 3 first).finds tidy begins
      obtain ⟨rest, readOthers, bitsRest, tidyRest⟩ :=
        (inductionHypothesis others).finds tidyBetween bits
      refine ⟨rest, ?_, bitsRest, tidyRest⟩
      simp only [List.length_cons, readTriples, read, readOthers, bind, Except.bind]

/-- A value that was put in place by its key is found by its key. -/
theorem lookup_zip {keys values : List Nat} {value : Nat → Nat} {count : Nat}
    (placed : keys.map value = values ++ List.replicate count 0) {key : Nat}
    (member : key ∈ keys) : ((keys.zip values).lookup key).getD 0 = value key := by
  induction keys generalizing values with
  | nil => cases member
  | cons first keys inductionHypothesis =>
      cases values with
      | nil =>
          have zero : value key ∈ List.replicate count 0 := by
            rw [← List.nil_append (List.replicate count 0), ← placed]
            exact List.mem_map_of_mem member
          exact (List.eq_of_mem_replicate zero).symm
      | cons found values =>
          rw [List.map_cons, List.cons_append, List.cons.injEq] at placed
          rw [List.zip_cons_cons, List.lookup_cons]
          by_cases same : key = first
          · simp [same, placed.1]
          · simp only [beq_eq_false_iff_ne.mpr same]
            exact inductionHypothesis placed.2 ((List.mem_cons.mp member).resolve_left same)

theorem lengthCodeLengths_eq {lengthCode sent : List Nat} (length : lengthCode.length = 19)
    (inOrder : lengthCodeOrder.map (lengthCode.getD · 0) =
      sent ++ List.replicate (19 - sent.length) 0) :
    lengthCodeLengths sent = lengthCode := by
  have everywhere : ∀ symbol < 19, symbol ∈ lengthCodeOrder := by decide
  refine List.ext_getElem (by simp [lengthCodeLengths, length]) fun symbol _ inside => ?_
  simp only [lengthCodeLengths, List.getElem_map, List.getElem_range]
  rw [lookup_zip inOrder (everywhere symbol (length ▸ inside))]
  exact (List.getElem_eq_getD 0).symm

theorem Runs.length_le {lengthCode before after : List Nat} {bits : List Bool}
    (runs : Runs lengthCode before bits after) : before.length ≤ after.length := by
  induction runs with
  | done => exact Nat.le_refl _
  | single _ _ _ inductionHypothesis =>
      rw [List.length_append] at inductionHypothesis
      omega
  | run _ _ _ _ inductionHypothesis =>
      rw [List.length_append] at inductionHypothesis
      omega

/-- All codeword lengths are less than 16. -/
theorem Runs.short {lengthCode before after : List Nat} {bits : List Bool}
    (runs : Runs lengthCode before bits after) (shortBefore : ∀ length ∈ before, length ≤ 15) :
    ∀ length ∈ after, length ≤ 15 := by
  induction runs with
  | done => exact shortBefore
  | single short _ _ inductionHypothesis =>
      refine inductionHypothesis fun other member => ?_
      rcases List.mem_append.mp member with old | new
      · exact shortBefore other old
      · rw [List.mem_singleton.mp new]
        omega
  | run run _ _ _ inductionHypothesis =>
      refine inductionHypothesis fun other member => ?_
      rcases List.mem_append.mp member with old | new
      · exact shortBefore other old
      · rw [List.eq_of_mem_replicate new]
        cases run with
        | latest latest => exact shortBefore _ (List.mem_of_getLast? latest)
        | zeros => exact Nat.zero_le _
        | manyZeros => exact Nat.zero_le _

/-- The bits of codeword lengths are read up to the last of them: no run is empty, so that as much
    fuel as there are lengths to come is enough. -/
theorem Runs.takes {lengthCode before after : List Nat} {bits : List Bool} {code : Code}
    (runs : Runs lengthCode before bits after) (decodes : Decodes code lengthCode) (fuel : Nat)
    (enough : after.length < fuel + before.length) :
    Takes (readLengths code after.length fuel before.reverse) bits after := by
  induction runs generalizing fuel with
  | @done before =>
      obtain ⟨fuel, rfl⟩ := Nat.exists_eq_succ_of_ne_zero (n := fuel) (by omega)
      constructor
      intro input more tidy begins
      exact ⟨input, by simp [readLengths], begins, tidy⟩
  | @single before after length word rest short isWord others inductionHypothesis =>
      have longer := others.length_le
      rw [List.length_append, List.length_singleton] at longer inductionHypothesis
      obtain ⟨fuel, rfl⟩ := Nat.exists_eq_succ_of_ne_zero (n := fuel) (by omega)
      refine (decodes.takes isWord).andThen (inductionHypothesis fuel (by omega))
        fun input rest read => ?_
      rw [readLengths, List.length_reverse, if_neg (by omega), if_neg (by omega),
        List.reverse_append]
      simp only [read, bind, Except.bind, if_pos short]
      rfl
  | @run before after symbol length least width extra word rest run fits isWord others
      inductionHypothesis =>
      have some : 3 ≤ least := by cases run <;> decide
      have longer := others.length_le
      rw [List.length_append, List.length_replicate] at longer inductionHypothesis
      obtain ⟨fuel, rfl⟩ := Nat.exists_eq_succ_of_ne_zero (n := fuel) (by omega)
      constructor
      intro input more tidy begins
      rw [List.append_assoc, List.append_assoc] at begins
      obtain ⟨between, read, bits, tidyBetween⟩ := (decodes.takes isWord).finds tidy begins
      obtain ⟨behind, readExtra, bitsBehind, tidyBehind⟩ :=
        (takes_readNumber _ fits).finds tidyBetween bits
      obtain ⟨last, readOthers, bitsLast, tidyLast⟩ :=
        (inductionHypothesis fuel (by omega)).finds tidyBehind bitsBehind
      rw [List.reverse_append, List.reverse_replicate] at readOthers
      refine ⟨last, ?_, bitsLast, tidyLast⟩
      rw [readLengths, List.length_reverse, if_neg (by omega), if_neg (by omega)]
      cases run with
      | latest latest =>
          rw [← List.head?_reverse] at latest
          obtain ⟨earlier, reversed⟩ := List.head?_eq_some_iff.mp latest
          rw [reversed] at readOthers ⊢
          simp only [read, readExtra, bind, Except.bind]
          exact readOthers
      | zeros =>
          simp only [read, readExtra, bind, Except.bind]
          exact readOthers
      | manyZeros =>
          simp only [read, readExtra, bind, Except.bind]
          exact readOthers

/-- A block gets the codes that it brings. -/
theorem OwnCodes.takes {literals distances : List Nat} {bits : List Bool}
    (isCodes : OwnCodes 30 literals distances bits) :
    ∃ codes, Takes readCodes bits codes ∧ codes.Decode literals distances := by
  obtain @⟨lengthCode, sent, runs, literalCount, distanceCount, sentCount, isLengthCode, inOrder,
    complete, isRuns, usableLiterals, usableDistances⟩ := isCodes
  obtain ⟨codes, madeCodes, decode⟩ :=
    decode_codesOfLengths usableLiterals usableDistances (isRuns.short nofun)
  obtain ⟨code, made, decodes⟩ := complete.decodes fun length member =>
    Nat.le_of_lt (Nat.lt_of_lt_of_le (isLengthCode.2 length member) (by decide))
  have sentSmall : ∀ length ∈ sent, length < 8 := by
    intro length member
    have : length ∈ lengthCodeOrder.map (lengthCode.getD · 0) :=
      inOrder ▸ List.mem_append_left _ member
    obtain ⟨symbol, symbolMember, rfl⟩ := List.mem_map.mp this
    have inside : symbol < lengthCode.length := by
      rw [isLengthCode.1]
      exact (by decide : ∀ symbol ∈ lengthCodeOrder, symbol < 19) symbol symbolMember
    rw [← List.getElem_eq_getD (h := inside)]
    exact isLengthCode.2 _ (List.getElem_mem inside)
  refine ⟨codes, ⟨?_⟩, decode⟩
  intro input more tidy begins
  simp only [List.append_assoc] at begins
  obtain ⟨first, readLiterals, firstBits, firstTidy⟩ :=
    (takes_readNumber 5 (by omega)).finds tidy begins
  obtain ⟨second, readDistances, secondBits, secondTidy⟩ :=
    (takes_readNumber 5 (by omega)).finds firstTidy firstBits
  obtain ⟨third, readSent, thirdBits, thirdTidy⟩ :=
    (takes_readNumber 4 (by omega)).finds secondTidy secondBits
  obtain ⟨fourth, readSmall, fourthBits, fourthTidy⟩ :=
    (takes_readTriples sentSmall).finds thirdTidy thirdBits
  obtain ⟨last, readRuns, lastBits, lastTidy⟩ :=
    (isRuns.takes decodes ((literals ++ distances).length + 1) (by omega)).finds
      fourthTidy fourthBits
  refine ⟨last, ?_, lastBits, lastTidy⟩
  have literalsBack : literals.length - 257 + 257 = literals.length := by omega
  have distancesBack : distances.length - 1 + 1 = distances.length := by omega
  have sentBack : sent.length - 4 + 4 = sent.length := by omega
  have permitted : ¬ (286 < literals.length ∨ 30 < distances.length) := by omega
  rw [List.length_append, List.reverse_nil] at readRuns
  simp only [readCodes, readLiterals, readDistances, readSent, bind, Except.bind, literalsBack,
    distancesBack, sentBack, if_neg permitted, readSmall,
    lengthCodeLengths_eq isLengthCode.1 inOrder, made, readRuns, List.splitAt_eq, List.take_left,
    List.drop_left, madeCodes]

end Stackwatch.Deflate

import Stackwatch.Proofs.Deflate.Bits

/-!
# Codewords and the trees made of them

Codewords are numbered so that no codeword begins another: those of one length are different
numbers, and behind them there is room for all that is longer. Hence a tree to which all codewords
of a code were added, in any order, leads each of them to its symbol.
-/

namespace Stackwatch.Deflate

variable {lengths : List Nat}

/-! ### Numbers that begin no other -/

/-- Neither of two codewords begins the other. -/
def Apart (first second : List Bool) : Prop := ¬ first <+: second ∧ ¬ second <+: first

theorem codeword_add (short more number : Nat) :
    Code.codeword (short + more) number =
      Code.codeword short (number / 2 ^ more) ++ Code.codeword more number := by
  have bits := numberBits_add more short number
  rw [Nat.add_comm] at bits
  exact (congrArg List.reverse bits).trans List.reverse_append

@[simp]
theorem length_codeword (width number : Nat) : (Code.codeword width number).length = width := by
  simp [Code.codeword]

theorem codeword_inj {width first second : Nat} (firstFits : first < 2 ^ width)
    (secondFits : second < 2 ^ width)
    (same : Code.codeword width first = Code.codeword width second) : first = second :=
  numberBits_inj firstFits secondFits (List.reverse_inj.mp same)

theorem apart_codeword (short more : Nat) {first second : Nat} (firstFits : first < 2 ^ short)
    (secondFits : second < 2 ^ (short + more)) (below : (first + 1) * 2 ^ more ≤ second) :
    Apart (Code.codeword short first) (Code.codeword (short + more) second) := by
  have forward : ¬ Code.codeword short first <+: Code.codeword (short + more) second := by
    rintro ⟨others, split⟩
    rw [codeword_add] at split
    have same := (List.append_inj split (by simp)).1
    have quotient : second / 2 ^ more < 2 ^ short := by
      rw [Nat.pow_add] at secondFits
      exact Nat.div_lt_of_lt_mul (by rwa [Nat.mul_comm])
    have : first + 1 ≤ second / 2 ^ more := (Nat.le_div_iff_mul_le (Nat.two_pow_pos more)).mpr below
    have := codeword_inj firstFits quotient same
    omega
  refine ⟨forward, fun backward => ?_⟩
  have shorter := backward.length_le
  simp only [length_codeword] at shorter
  have equal := backward.eq_of_length (by simp; omega)
  exact forward (equal ▸ List.prefix_rfl)

/-! ### The room that codewords take -/

/-- What the codewords below a length take of all sequences of 15 bits. -/
def shareBelow (lengths : List Nat) (bound : Nat) : Nat :=
  (lengths.map fun length => if length < bound then share length else 0).sum

theorem shareBelow_zero (lengths : List Nat) : shareBelow lengths 0 = 0 := by
  induction lengths with
  | nil => rfl
  | cons length lengths inductionHypothesis => exact (Nat.zero_add _).trans inductionHypothesis

theorem shareBelow_le (lengths : List Nat) (bound : Nat) :
    shareBelow lengths bound ≤ (lengths.map share).sum := by
  induction lengths with
  | nil => exact Nat.le_refl _
  | cons length lengths inductionHypothesis =>
      simp only [shareBelow, List.map_cons, List.sum_cons] at inductionHypothesis ⊢
      split <;> omega

theorem shareBelow_succ (lengths : List Nat) (bound : Nat) :
    shareBelow lengths (bound + 1) =
      shareBelow lengths bound + wordCount lengths bound * share bound := by
  cases bound with
  | zero =>
      simp only [shareBelow, wordCount, Nat.zero_mul, Nat.add_zero]
      refine congrArg List.sum (List.map_congr_left fun length _ => ?_)
      cases length <;> simp [share]
  | succ bound =>
      induction lengths with
      | nil => simp [shareBelow, wordCount]
      | cons length lengths inductionHypothesis =>
          simp only [shareBelow, wordCount, List.map_cons, List.sum_cons,
            List.count_cons] at inductionHypothesis ⊢
          rw [inductionHypothesis, Nat.add_mul]
          rcases Nat.lt_trichotomy length (bound + 1) with below | rfl | above
          · rw [if_pos (Nat.lt_succ_of_lt below), if_pos below,
              if_neg (by simpa using Nat.ne_of_lt below)]
            omega
          · rw [if_pos (Nat.lt_succ_self _), if_neg (Nat.lt_irrefl _), if_pos (beq_self_eq_true _)]
            omega
          · rw [if_neg (by omega), if_neg (by omega), if_neg (by simpa using Nat.ne_of_gt above)]
            omega

theorem two_mul_share {length : Nat} (positive : 0 < length) (short : length < 15) :
    2 * share (length + 1) = share length := by
  obtain ⟨shorter, rfl⟩ := Nat.exists_eq_succ_of_ne_zero (Nat.ne_of_gt positive)
  rw [share, share, ← Nat.pow_succ']
  congr 1
  omega

/-- The first codeword of a length stands behind all that the shorter ones take. -/
theorem firstWord_mul_share {length : Nat} (short : length ≤ 15) :
    firstWord lengths length * share length = shareBelow lengths length := by
  induction length with
  | zero => rw [shareBelow_zero, firstWord, Nat.zero_mul]
  | succ length inductionHypothesis =>
      rw [shareBelow_succ, ← inductionHypothesis (by omega), ← Nat.add_mul, firstWord,
        Nat.mul_right_comm, Nat.mul_comm]
      rcases Nat.eq_zero_or_pos length with rfl | positive
      · simp [firstWord, wordCount]
      · rw [two_mul_share positive (by omega)]

/-- No length has more codewords than there are numbers left for them. -/
theorem firstWord_add_wordCount_le (room : (lengths.map share).sum ≤ 2 ^ 15) (length : Nat)
    (positive : 0 < length) (short : length ≤ 15) :
    firstWord lengths length + wordCount lengths length ≤ 2 ^ length := by
  have all : 2 ^ length * share length = 2 ^ 15 := by
    obtain ⟨shorter, rfl⟩ := Nat.exists_eq_succ_of_ne_zero (Nat.ne_of_gt positive)
    rw [share, ← Nat.pow_add]
    congr 1
    omega
  have some : 0 < share length :=
    Nat.pos_of_mul_pos_left (all ▸ Nat.two_pow_pos 15 : 0 < 2 ^ length * share length)
  refine Nat.le_of_mul_le_mul_right ?_ some
  calc (firstWord lengths length + wordCount lengths length) * share length
      = shareBelow lengths (length + 1) := by
        rw [shareBelow_succ, Nat.add_mul, firstWord_mul_share short]
    _ ≤ (lengths.map share).sum := shareBelow_le lengths _
    _ ≤ 2 ^ length * share length := by rwa [all]

/-- The codewords of a length end before those of any greater length begin. -/
theorem firstWord_add_wordCount_mul_le (lengths : List Nat) (length more : Nat) :
    (firstWord lengths length + wordCount lengths length) * 2 ^ (more + 1) ≤
      firstWord lengths (length + more + 1) := by
  induction more with
  | zero =>
      rw [firstWord]
      omega
  | succ more inductionHypothesis =>
      calc (firstWord lengths length + wordCount lengths length) * 2 ^ (more + 2)
          = 2 * ((firstWord lengths length + wordCount lengths length) * 2 ^ (more + 1)) := by
            rw [Nat.pow_succ, ← Nat.mul_assoc, Nat.mul_comm]
        _ ≤ 2 * firstWord lengths (length + more + 1) := Nat.mul_le_mul_left 2 inductionHypothesis
        _ ≤ 2 * (firstWord lengths (length + more + 1) + wordCount lengths (length + more + 1)) :=
          Nat.mul_le_mul_left 2 (Nat.le_add_right ..)

/-! ### All codewords of a code -/

theorem symbolsOfLength_append (front back : List Nat) (length : Nat) :
    Code.symbolsOfLength (front ++ back) length =
      Code.symbolsOfLength front length ++
        (Code.symbolsOfLength back length).map (front.length + ·) := by
  simp only [Code.symbolsOfLength, List.length_append, List.range_add, List.filter_append,
    List.filter_map]
  congr 1
  · refine List.filter_congr fun symbol member => ?_
    rw [List.getElem?_append_left (List.mem_range.mp member)]
  · congr 1
    refine List.filter_congr fun symbol _ => ?_
    rw [Function.comp_apply, List.getElem?_append_right (Nat.le_add_right ..),
      Nat.add_sub_cancel_left]

theorem symbolsOfLength_singleton (length : Nat) (other : Nat) :
    Code.symbolsOfLength [other] length = if other = length then [0] else [] := by
  by_cases same : other = length <;> simp [Code.symbolsOfLength, List.range_succ, same]

theorem length_symbolsOfLength (lengths : List Nat) (length : Nat) :
    (Code.symbolsOfLength lengths length).length = lengths.count length := by
  induction lengths with
  | nil => rfl
  | cons other lengths inductionHypothesis =>
      rw [← List.singleton_append, symbolsOfLength_append, List.length_append, List.length_map,
        inductionHypothesis, symbolsOfLength_singleton, List.count_append, List.count_singleton]
      by_cases same : other = length <;> simp [same]

/-- As many symbols of its length stand before a symbol as there are among the symbols before it. -/
theorem getElem?_symbolsOfLength {symbol length : Nat} (used : lengths[symbol]? = some length) :
    (Code.symbolsOfLength lengths length)[(lengths.take symbol).count length]? = some symbol := by
  obtain ⟨inside, rfl⟩ := List.getElem?_eq_some_iff.mp used
  have split : lengths =
      lengths.take symbol ++ ([lengths[symbol]] ++ lengths.drop (symbol + 1)) := by
    rw [List.singleton_append, List.getElem_cons_drop, List.take_append_drop]
  have symbols := congrArg (Code.symbolsOfLength · lengths[symbol]) split
  rw [symbolsOfLength_append, symbolsOfLength_append, symbolsOfLength_singleton,
    if_pos rfl] at symbols
  rw [symbols, List.getElem?_append_right (Nat.le_of_eq (length_symbolsOfLength ..)),
    length_symbolsOfLength, Nat.sub_self]
  simp [Nat.le_of_lt inside]

/-- The codewords of one length. -/
def wordsOfLength (lengths : List Nat) (length : Nat) : List (List Bool × Nat) :=
  (Code.symbolsOfLength lengths length).mapIdx fun offset symbol =>
    (Code.codeword length (firstWord lengths length + offset), symbol)

theorem length_wordsOfLength (lengths : List Nat) {length : Nat} (positive : 0 < length) :
    (wordsOfLength lengths length).length = wordCount lengths length := by
  obtain ⟨shorter, rfl⟩ := Nat.exists_eq_succ_of_ne_zero (Nat.ne_of_gt positive)
  rw [wordsOfLength, List.length_mapIdx, length_symbolsOfLength, wordCount]

theorem codewordsFrom_eq (lengths : List Nat) (levels : Nat) {length : Nat}
    (positive : 0 < length) :
    Code.codewordsFrom lengths levels length (firstWord lengths length) =
      (List.range' length levels).flatMap (wordsOfLength lengths) := by
  induction levels generalizing length with
  | zero => rfl
  | succ levels inductionHypothesis =>
      have next : 2 * (firstWord lengths length + (Code.symbolsOfLength lengths length).length) =
          firstWord lengths (length + 1) := by
        rw [firstWord, ← length_wordsOfLength lengths positive, wordsOfLength, List.length_mapIdx]
      rw [Code.codewordsFrom, List.range'_succ, List.flatMap_cons, next,
        inductionHypothesis (Nat.succ_pos length)]
      rfl

theorem codewords_eq (lengths : List Nat) :
    Code.codewords lengths = (List.range' 1 15).flatMap (wordsOfLength lengths) :=
  codewordsFrom_eq lengths 15 Nat.one_pos

theorem mem_wordsOfLength {length : Nat} {entry : List Bool × Nat}
    (member : entry ∈ wordsOfLength lengths length) (positive : 0 < length) :
    ∃ offset < wordCount lengths length,
      entry.1 = Code.codeword length (firstWord lengths length + offset) := by
  obtain ⟨offset, inside, rfl⟩ := List.getElem_of_mem member
  refine ⟨offset, ?_, ?_⟩
  · rwa [← length_wordsOfLength lengths positive]
  · simp [wordsOfLength]

/-- No codeword begins another. -/
theorem pairwise_apart_codewords (room : (lengths.map share).sum ≤ 2 ^ 15) :
    (Code.codewords lengths).Pairwise fun first second => Apart first.1 second.1 := by
  rw [codewords_eq, List.pairwise_flatMap]
  constructor
  · intro length member
    obtain ⟨positive, short⟩ : 0 < length ∧ length ≤ 15 := by
      rw [List.mem_range'_1] at member
      omega
    have fits := firstWord_add_wordCount_le room length positive short
    rw [List.pairwise_iff_getElem]
    intro first second _ secondInside less
    rw [length_wordsOfLength lengths positive] at secondInside
    simp only [wordsOfLength, List.getElem_mapIdx]
    exact apart_codeword length 0 (by omega) (by rw [Nat.add_zero]; omega) (by omega)
  · refine (List.pairwise_lt_range' (n := 15) 1).imp_of_mem ?_
    intro short long shortMember longMember less first firstMember second secondMember
    rw [List.mem_range'_1] at shortMember longMember
    have shortFits := firstWord_add_wordCount_le room short (by omega) (by omega)
    have longFits := firstWord_add_wordCount_le room long (by omega) (by omega)
    obtain ⟨firstOffset, firstInside, firstEq⟩ := mem_wordsOfLength firstMember (by omega)
    obtain ⟨secondOffset, secondInside, secondEq⟩ := mem_wordsOfLength secondMember (by omega)
    obtain ⟨more, rfl⟩ : ∃ more, long = short + more + 1 := ⟨long - short - 1, by omega⟩
    have behind := firstWord_add_wordCount_mul_le lengths short more
    rw [firstEq, secondEq]
    refine apart_codeword short (more + 1) (by omega) (by rw [← Nat.add_assoc]; omega) ?_
    calc (firstWord lengths short + firstOffset + 1) * 2 ^ (more + 1)
        ≤ (firstWord lengths short + wordCount lengths short) * 2 ^ (more + 1) :=
          Nat.mul_le_mul_right _ (by omega)
      _ ≤ firstWord lengths (short + more + 1) + secondOffset := by omega

theorem mem_codewords {symbol : Nat} {word : List Bool} (short : ∀ length ∈ lengths, length ≤ 15)
    (isWord : word? lengths symbol = some word) : (word, symbol) ∈ Code.codewords lengths := by
  unfold word? at isWord
  split at isWord
  · cases isWord
  · cases isWord
  · next length positive used =>
      cases isWord
      have inside := short length (List.mem_of_getElem? used)
      have nonzero : length ≠ 0 := fun zero => positive (zero ▸ rfl)
      rw [codewords_eq, List.mem_flatMap]
      refine ⟨length, List.mem_range'_1.mpr ⟨by omega, by omega⟩, ?_⟩
      refine List.mem_of_getElem? (i := (lengths.take symbol).count length) ?_
      rw [wordsOfLength, List.getElem?_mapIdx, getElem?_symbolsOfLength used]
      rfl

/-! ### Trees -/

namespace Code

/-- A codeword leads to a symbol. -/
def Leads (symbol : Nat) : (code : Code) → (word : List Bool) → Prop
  | .leaf found, [] => found = symbol
  | .node zero _, false :: word => Leads symbol zero word
  | .node _ one, true :: word => Leads symbol one word
  | _, _ => False

theorem leads_insert (symbol : Nat) (word : List Bool) (code : Code) :
    (code.insert symbol word).Leads symbol word := by
  induction word generalizing code with
  | nil => cases code <;> rfl
  | cons bit word inductionHypothesis =>
      cases bit <;> cases code <;> exact inductionHypothesis _

theorem Leads.insert {symbol other : Nat} {word otherWord : List Bool} {code : Code}
    (leads : code.Leads symbol word) (apart : Apart otherWord word) :
    (code.insert other otherWord).Leads symbol word := by
  induction word generalizing code otherWord with
  | nil => exact absurd List.nil_prefix apart.2
  | cons bit word inductionHypothesis =>
      cases otherWord with
      | nil => exact absurd List.nil_prefix apart.1
      | cons otherBit otherWord =>
          cases code with
          | vacant => cases leads
          | leaf found => cases leads
          | node zero one =>
              have further : bit = otherBit → Apart otherWord word := by
                rintro rfl
                exact ⟨fun before => apart.1 ((List.prefix_cons_inj bit).mpr before),
                  fun before => apart.2 ((List.prefix_cons_inj bit).mpr before)⟩
              cases bit with
              | false =>
                  cases otherBit with
                  | false =>
                      have leadsZero : zero.Leads symbol word := leads
                      exact inductionHypothesis leadsZero (further rfl)
                  | true => exact leads
              | true =>
                  cases otherBit with
                  | false => exact leads
                  | true =>
                      have leadsOne : one.Leads symbol word := leads
                      exact inductionHypothesis leadsOne (further rfl)

theorem takes_read {code : Code} {symbol : Nat} {word : List Bool}
    (leads : code.Leads symbol word) : Takes code.read word symbol := by
  constructor
  intro input more tidy begins
  induction word generalizing code input with
  | nil =>
      cases code with
      | vacant => cases leads
      | leaf found =>
          cases leads
          exact ⟨input, rfl, begins, tidy⟩
      | node zero one => cases leads
  | cons bit word inductionHypothesis =>
      cases code with
      | vacant => cases leads
      | leaf found => cases leads
      | node zero one =>
          obtain ⟨between, step, bits, tidyBetween⟩ := BitInput.exists_next? tidy begins
          simp only [read, step]
          cases bit with
          | false => exact inductionHypothesis leads tidyBetween bits
          | true => exact inductionHypothesis leads tidyBetween bits

/-- A tree leads every codeword that was added to its symbol if no codeword begins another. -/
theorem leads_ofCodewords {words : List (List Bool × Nat)}
    (apart : words.Pairwise fun first second => Apart first.1 second.1)
    {word : List Bool} {symbol : Nat} (member : (word, symbol) ∈ words) :
    (ofCodewords words).Leads symbol word := by
  have general (code : Code) :
      (code.Leads symbol word ∧ ∀ entry ∈ words, Apart entry.1 word) ∨ (word, symbol) ∈ words →
        (words.foldl (fun code entry => code.insert entry.2 entry.1) code).Leads symbol word := by
    clear member
    induction words generalizing code with
    | nil =>
        rintro (⟨leads, -⟩ | member)
        · exact leads
        · cases member
    | cons entry words inductionHypothesis =>
        obtain ⟨first, others⟩ := List.pairwise_cons.mp apart
        intro found
        refine inductionHypothesis others _ ?_
        rcases found with ⟨leads, apartAll⟩ | member
        · obtain ⟨apartFirst, apartOthers⟩ := List.forall_mem_cons.mp apartAll
          exact .inl ⟨leads.insert apartFirst, apartOthers⟩
        · rcases List.mem_cons.mp member with rfl | later
          · exact .inl ⟨leads_insert .., fun other inside => (first other inside).symm⟩
          · exact .inr later
  exact general empty (.inr member)

end Code

end Stackwatch.Deflate

import Stackwatch.Proofs.Deflate.Codes

/-!
# Inflating gives back the contents

Whatever compressed data stands for is what inflating it gives, and the bytes behind it are left as
they are. The induction is on how the data was put together; its bits are fuel enough, because no
symbol and no block is empty.
-/

namespace Stackwatch.Deflate

/-! ### Symbols -/

theorem length_pos_of_word? {lengths : List Nat} {symbol : Nat} {word : List Bool}
    (isWord : word? lengths symbol = some word) : 0 < word.length := by
  unfold word? at isWord
  split at isWord
  · cases isWord
  · cases isWord
  · next length positive _ =>
      cases isWord
      rw [List.length_reverse, length_numberBits]
      exact Nat.pos_of_ne_zero fun zero => positive zero

/-- The first byte of a repetition is there already; the others repeat what follows it, and the
    byte itself among that. -/
theorem repeated_succ {distance : Nat} {written : Bytes} (positive : 0 < distance)
    (reaches : distance ≤ written.length) (length : Nat) :
    repeated distance (length + 1) written =
      written.getD (written.length - distance) 0 ::
        repeated distance length (written ++ [written.getD (written.length - distance) 0]) := by
  rw [repeated, List.range_succ_eq_map, List.map_cons, List.map_map, repeated, Nat.zero_mod,
    Nat.add_zero]
  refine congrArg (List.cons _) (List.map_congr_left fun place _ => ?_)
  rw [Function.comp_apply, List.length_append, List.length_singleton]
  have inside : place % distance < distance := Nat.mod_lt place positive
  have step : place.succ % distance = (place % distance + 1) % distance := by
    have division := Nat.div_add_mod place distance
    rw [← Nat.mul_add_mod distance (place / distance) (place % distance + 1)]
    congr 1
    omega
  by_cases last : place % distance + 1 = distance
  · have own : written.length + 1 - distance + place % distance = written.length := by omega
    rw [step, last, Nat.mod_self, own]
    simp
  · have earlier : written.length + 1 - distance + place % distance < written.length := by omega
    have same : written.length - distance + (place % distance + 1) =
        written.length + 1 - distance + place % distance := by omega
    rw [step, Nat.mod_eq_of_lt (by omega), same]
    simp [List.getElem?_append_left earlier]

theorem copyBack_eq {distance : Nat} {output : Array UInt8} (positive : 0 < distance)
    (reaches : distance ≤ output.size) (length : Nat) :
    copyBack distance length output =
      (output.toList ++ repeated distance length output.toList).toArray := by
  induction length generalizing output with
  | zero => simp [copyBack, repeated]
  | succ length inductionHypothesis =>
      rw [copyBack, if_pos reaches, inductionHypothesis (by simp; omega),
        repeated_succ positive (by simpa using reaches)]
      simp

theorem Amount.distance_pos {distances : List Nat} {distance : Nat} {bits : List Bool}
    (isDistance : Amount distances 0 distanceRanges distance bits) : 0 < distance := by
  obtain ⟨range, -, -⟩ := isDistance
  have positive : ∀ range ∈ distanceRanges, 0 < range.1 := by decide
  exact Nat.add_pos_left (positive _ (List.mem_of_getElem? range)) _

/-- The symbols of a block are read up to its end. -/
theorem Symbols.takes {literals distances : List Nat} {before after : Bytes} {bits : List Bool}
    (symbols : Symbols literals distances before bits after) {codes : BlockCodes}
    (decode : codes.Decode literals distances) (fuel : Nat) (enough : bits.length ≤ fuel) :
    Takes (readSymbols codes fuel before.toArray) bits after.toArray := by
  induction symbols generalizing fuel with
  | @stop before word isWord =>
      have some := length_pos_of_word? isWord
      obtain ⟨fuel, rfl⟩ := Nat.exists_eq_succ_of_ne_zero (n := fuel) (by omega)
      refine (decode.literals.takes isWord).map fun input rest read => ?_
      simp [readSymbols, read, bind, Except.bind]
  | @literal before after byte word rest isWord others inductionHypothesis =>
      have some := length_pos_of_word? isWord
      rw [List.length_append] at enough
      obtain ⟨fuel, rfl⟩ := Nat.exists_eq_succ_of_ne_zero (n := fuel) (by omega)
      have isLiteral : byte.toNat < endOfBlock := byte.toNat_lt
      refine (decode.literals.takes isWord).andThen (inductionHypothesis fuel (by omega))
        fun input rest read => ?_
      rw [← List.push_toArray]
      simp only [readSymbols, read, bind, Except.bind, if_pos isLiteral, UInt8.ofNat_toNat]
  | @reference before after length distance lengthBits distanceBits rest isLength isDistance reaches
      others inductionHypothesis =>
      have positive := isDistance.distance_pos
      obtain ⟨place, word, extra, rfl, isWord, takesLength⟩ := isLength.cases
      obtain ⟨symbol, otherWord, otherExtra, rfl, isOther, takesDistance⟩ := isDistance.cases
      have some := length_pos_of_word? isWord
      simp only [List.length_append] at enough
      obtain ⟨fuel, rfl⟩ := Nat.exists_eq_succ_of_ne_zero (n := fuel) (by omega)
      constructor
      intro input more tidy begins
      simp only [List.append_assoc] at begins
      rw [Nat.zero_add] at isOther
      obtain ⟨first, readWord, firstBits, firstTidy⟩ :=
        (decode.literals.takes isWord).finds tidy begins
      obtain ⟨second, readLength, secondBits, secondTidy⟩ :=
        takesLength.finds firstTidy firstBits
      obtain ⟨third, readOther, thirdBits, thirdTidy⟩ :=
        (decode.distances.takes isOther).finds secondTidy secondBits
      obtain ⟨fourth, readDistance, fourthBits, fourthTidy⟩ :=
        takesDistance.finds thirdTidy thirdBits
      obtain ⟨last, readOthers, lastBits, lastTidy⟩ :=
        (inductionHypothesis fuel (by omega)).finds fourthTidy fourthBits
      refine ⟨last, ?_, lastBits, lastTidy⟩
      have notLiteral : ¬ endOfBlock + 1 + place < endOfBlock := by omega
      have notEnd : ¬ endOfBlock + 1 + place = endOfBlock := by omega
      have copied := @copyBack_eq distance before.toArray positive reaches length
      simp only [readSymbols, readWord, bind, Except.bind, if_neg notLiteral, if_neg notEnd,
        Nat.add_sub_cancel_left, lengthTable_eq, readLength, readOther, distanceTable_eq,
        readDistance, copied]
      exact readOthers

/-- The bits that are left are fuel enough. -/
theorem Symbols.takes_sized {literals distances : List Nat} {before after : Bytes}
    {bits : List Bool} (symbols : Symbols literals distances before bits after)
    {codes : BlockCodes} (decode : codes.Decode literals distances) :
    Takes (fun input => readSymbols codes (input.size + 1) before.toArray input) bits
      after.toArray := by
  constructor
  intro input more tidy begins
  have enough : bits.length ≤ input.size + 1 := by
    rw [BitInput.size_eq, begins, List.length_append]
    omega
  exact (symbols.takes decode _ enough).finds tidy begins

/-! ### Blocks -/

/-- As `Takes`, where the bits come so many bits behind the beginning of a whole byte. -/
structure TakesAt {α : Type} (position : Nat) (read : BitInput → Read (α × BitInput))
    (bits : List Bool) (value : α) : Prop where
  finds : ∀ {input : BitInput} {more : List Bool}, input.Tidy → input.toBits = bits ++ more →
    8 ∣ position + bits.length + more.length →
      ∃ rest, read input = .ok (value, rest) ∧ rest.toBits = more ∧ rest.Tidy

theorem Takes.takesAt {α : Type} {read : BitInput → Read (α × BitInput)} {bits : List Bool}
    {value : α} (takes : Takes read bits value) (position : Nat) :
    TakesAt position read bits value :=
  ⟨fun tidy begins _ => takes.finds tidy begins⟩

/-- As `Takes.andThen`, where the other reader begins behind the bits of the first. -/
theorem TakesAt.andThen {α β : Type} {position : Nat} {first : BitInput → Read (α × BitInput)}
    {next whole : BitInput → Read (β × BitInput)} {bits others : List Bool} {value : α} {result : β}
    (takes : TakesAt position first bits value)
    (takesNext : TakesAt (position + bits.length) next others result)
    (goesOn : ∀ input rest, first input = .ok (value, rest) → whole input = next rest) :
    TakesAt position whole (bits ++ others) result := by
  constructor
  intro input more tidy begins aligned
  rw [List.append_assoc] at begins
  rw [List.length_append, ← Nat.add_assoc] at aligned
  obtain ⟨between, found, bitsBetween, tidyBetween⟩ := takes.finds tidy begins (by
    rwa [List.length_append, ← Nat.add_assoc])
  obtain ⟨rest, foundNext, bitsRest, tidyRest⟩ := takesNext.finds tidyBetween bitsBetween aligned
  exact ⟨rest, (goesOn input between found).trans foundNext, bitsRest, tidyRest⟩

theorem takesAt_readStored {position : Nat} {before bytes : Bytes} {padding : List Bool}
    (short : padding.length < 8) (aligned : 8 ∣ position + padding.length)
    (fits : bytes.length < 2 ^ 16) :
    TakesAt position (readStored before.toArray)
      (padding ++ (numberBits 16 bytes.length ++
        (numberBits 16 (2 ^ 16 - 1 - bytes.length) ++ bytesBits bytes)))
      (before ++ bytes).toArray := by
  constructor
  intro input more tidy begins whole
  obtain ⟨low, high, lengthBits, sum⟩ := numberBits_sixteen fits
  have fitsOther : 2 ^ 16 - 1 - bytes.length < 2 ^ 16 := by omega
  obtain ⟨lowOther, highOther, otherBits, sumOther⟩ := numberBits_sixteen fitsOther
  simp only [List.append_assoc] at begins
  simp only [List.length_append, length_numberBits, length_bytesBits] at whole
  have behind := tidy.bytesBits_aligned begins short (by simp; omega)
  rw [lengthBits, otherBits, ← List.append_assoc, ← List.append_assoc, ← bytesBits_append,
    ← bytesBits_append] at behind
  obtain ⟨others, split, bits⟩ := exists_append_of_bytesBits behind
  refine ⟨.ofBytes others, ?_, bits, BitInput.tidy_ofBytes others⟩
  have complement : bytes.length + (lowOther.toNat + 256 * highOther.toNat) = 65535 := by omega
  simp only [readStored, split, List.cons_append, List.nil_append, sum, if_pos complement]
  simp

/-- What a block stands for is what is read. -/
theorem Block.takes {position : Nat} {before after : Bytes} {bits : List Bool}
    (block : Block 30 position before bits after) :
    TakesAt position (readBlock before.toArray) bits after.toArray := by
  cases block with
  | stored short aligned fits =>
      have kind := (takes_readNumber 2 (by decide : 0 < 2 ^ 2)).takesAt position
      refine kind.andThen (takesAt_readStored short aligned fits) fun input rest read => ?_
      simp only [readBlock, read, bind, Except.bind]
  | fixed symbols =>
      obtain ⟨codes, made, decode⟩ := decode_fixedLengths
      have kind := takes_readNumber 2 (by decide : 1 < 2 ^ 2)
      refine (kind.andThen (symbols.takes_sized decode) fun input rest read => ?_).takesAt position
      simp only [readBlock, read, made, bind, Except.bind]
  | dynamic isCodes symbols =>
      obtain ⟨codes, takes, decode⟩ := isCodes.takes
      have kind := takes_readNumber 2 (by decide : 2 < 2 ^ 2)
      let next := fun rest => readCodes rest >>= fun found =>
        readSymbols found.1 (found.2.size + 1) before.toArray found.2
      have takesNext : Takes next _ after.toArray :=
        takes.andThen (symbols.takes_sized decode) fun input rest read => by
          simp only [next, read, bind, Except.bind]
      refine (kind.andThen takesNext fun input rest read => ?_).takesAt position
      simp only [readBlock, read, next, bind, Except.bind]

theorem takes_mark (bit : Bool) : Takes (BitInput.readNumber 1) [bit] bit.toNat := by
  have takes := takes_readNumber 1 bit.toNat_lt
  cases bit <;> exact takes

/-- What blocks stand for is what is read, up to the last of them. -/
theorem Blocks.takes {position : Nat} {before after : Bytes} {bits : List Bool}
    (blocks : Blocks 30 position before bits after) (fuel : Nat) (enough : bits.length ≤ fuel) :
    TakesAt position (readBlocks fuel before.toArray) bits after.toArray := by
  induction blocks generalizing fuel with
  | @last position before after bits block =>
      obtain ⟨fuel, rfl⟩ := Nat.exists_eq_succ_of_ne_zero (n := fuel) (by
        rw [List.length_cons] at enough
        omega)
      refine ((takes_mark true).takesAt position).andThen block.takes fun input rest read => ?_
      simp only [readBlocks, read, bind, Except.bind]
      cases readBlock before.toArray rest <;> rfl
  | @more position before between after bits rest block others inductionHypothesis =>
      rw [List.length_cons, List.length_append] at enough
      obtain ⟨fuel, rfl⟩ := Nat.exists_eq_succ_of_ne_zero (n := fuel) (by omega)
      let next := fun rest => readBlock before.toArray rest >>= fun found =>
        readBlocks fuel found.1 found.2
      have takesNext : TakesAt (position + 1) next _ after.toArray :=
        block.takes.andThen (inductionHypothesis fuel (by omega)) fun input rest read => by
          simp only [next, read, bind, Except.bind]
      refine ((takes_mark false).takesAt position).andThen takesNext fun input rest read => ?_
      simp only [readBlocks, read, next, bind, Except.bind]
      rfl

/-- Inflating compressed data gives its contents, and leaves the bytes behind it. -/
theorem Compressed.inflate {contents data : Bytes} (compressed : Compressed 30 contents data)
    (further : Bytes) : inflate (data ++ further) = .ok (contents, further) := by
  obtain @⟨bits, padding, blocks, short, whole⟩ := compressed
  have begins : (BitInput.ofBytes (data ++ further)).toBits =
      bits ++ (padding ++ bytesBits further) := by
    rw [BitInput.toBits_eq, ← List.append_assoc, ← whole, ← bytesBits_append]
    rfl
  have total : bits.length + (padding ++ bytesBits further).length =
      8 * (data ++ further).length := by
    rw [← List.length_append, ← begins, BitInput.toBits_eq]
    exact length_bytesBits _
  have enough : bits.length ≤ (BitInput.ofBytes (data ++ further)).size + 1 := by
    rw [BitInput.size_eq, begins, List.length_append]
    omega
  obtain ⟨rest, read, bitsRest, tidyRest⟩ :=
    (blocks.takes _ enough).finds (BitInput.tidy_ofBytes _) begins (by
      rw [Nat.zero_add, total]
      exact Nat.dvd_mul_right ..)
  have behind : rest.aligned = further :=
    bytesBits_inj (tidyRest.bytesBits_aligned bitsRest short
      ⟨further.length, length_bytesBits further⟩)
  simp only [Deflate.inflate, read, behind, bind, Except.bind]

/-- Compressed data stands for one contents only. -/
theorem Compressed.unique {first second data : Bytes} (isFirst : Compressed 30 first data)
    (isSecond : Compressed 30 second data) : first = second := by
  have same := (isFirst.inflate []).symm.trans (isSecond.inflate [])
  cases same
  rfl

/-! ### All contents can be compressed -/

/-- A stored block that begins at a whole byte is whole bytes. -/
theorem exists_stored (limit : Nat) {position : Nat} (isLast : Bool) (before : Bytes)
    {bytes : Bytes} (aligned : 8 ∣ position) (fits : bytes.length < 2 ^ 16) :
    ∃ block data, Block limit (position + 1) before block (before ++ bytes) ∧
      isLast :: block = bytesBits data := by
  obtain ⟨low, high, lengthBits, -⟩ := numberBits_sixteen fits
  have fitsOther : 2 ^ 16 - 1 - bytes.length < 2 ^ 16 := by omega
  obtain ⟨lowOther, highOther, otherBits, -⟩ := numberBits_sixteen fitsOther
  have whole : 8 ∣ position + 1 + 2 + (List.replicate 5 false).length := by
    rw [List.length_replicate]
    omega
  refine ⟨_, (if isLast then 1 else 0) :: low :: high :: lowOther :: highOther :: bytes,
    .stored (by decide) whole fits, ?_⟩
  rw [lengthBits, otherBits]
  cases isLast <;> rfl

theorem exists_blocks (limit position : Nat) (before contents : Bytes) (aligned : 8 ∣ position) :
    ∃ data, Blocks limit position before (bytesBits data) (before ++ contents) := by
  by_cases fits : contents.length < 2 ^ 16
  · obtain ⟨block, data, isBlock, bits⟩ := exists_stored limit true before aligned fits
    exact ⟨data, bits ▸ .last isBlock⟩
  · have chunk : (contents.take (2 ^ 16 - 1)).length < 2 ^ 16 := by
      rw [List.length_take]
      omega
    obtain ⟨block, data, isBlock, bits⟩ := exists_stored limit false before aligned chunk
    have whole := congrArg List.length bits
    rw [List.length_cons, length_bytesBits] at whole
    obtain ⟨others, blocks⟩ := exists_blocks limit (position + 1 + block.length)
      (before ++ contents.take (2 ^ 16 - 1)) (contents.drop (2 ^ 16 - 1)) (by omega)
    rw [List.append_assoc, List.take_append_drop] at blocks
    refine ⟨data ++ others, ?_⟩
    rw [bytesBits_append, ← bits]
    exact .more isBlock blocks
termination_by contents.length
decreasing_by
  rw [List.length_drop]
  omega

/-- Whatever the contents, there is data that stands for them. -/
theorem exists_compressed (limit : Nat) (contents : Bytes) :
    ∃ data, Compressed limit contents data := by
  obtain ⟨data, blocks⟩ := exists_blocks limit 0 [] contents (Nat.dvd_zero 8)
  exact ⟨data, .intro blocks (by decide : ([] : List Bool).length < 8) (List.append_nil _).symm⟩

end Stackwatch.Deflate

import Stackwatch.Proofs.Deflate.Inflation
import Stackwatch.Proofs.Gzip.Remainder
import Stackwatch.Snapshot.Decode

/-!
# Snapshots in envelopes

An envelope as it is put together: a header with any of its optional fields, compressed contents,
and a trailer. The main statement is that reading a snapshot from an envelope, with anything behind
it, is reading it from the contents, whatever these are, and that an envelope whose trailer has
another checksum or another length is refused.
-/

namespace Stackwatch.Gzip

open Deflate

/-! ### Envelopes -/

/-- A number in so many bytes, lowest first. -/
def numberBytes (count number : Nat) : Bytes :=
  (List.range count).map fun index => UInt8.ofNat (number / 256 ^ index)

/-- What an optional field of a header may hold. -/
structure ExtraField where
  bytes : Bytes
  short : bytes.length < 2 ^ 16

/-- A name or a comment. -/
structure HeaderText where
  bytes : Bytes
  short : bytes.length ≤ maxFieldLength
  noZero : 0 ∉ bytes

structure Header where
  /-- The contents are said to be text. -/
  isText : Bool := false
  time : UInt32 := 0
  /-- How the contents were compressed. -/
  effort : UInt8 := 0
  system : UInt8 := 255
  extra : Option ExtraField := none
  name : Option HeaderText := none
  comment : Option HeaderText := none
  isChecked : Bool := false

namespace Header

def flags (header : Header) : UInt8 :=
  UInt8.ofNat (header.isText.toNat + 2 * header.isChecked.toNat + 4 * header.extra.isSome.toNat +
    8 * header.name.isSome.toNat + 16 * header.comment.isSome.toNat)

def fixedPart (header : Header) : Bytes :=
  [0x1f, 0x8b, 8, header.flags] ++ numberBytes 4 header.time.toNat ++
    [header.effort, header.system]

def extraPart (extra : Option ExtraField) : Bytes :=
  extra.elim [] fun field => numberBytes 2 field.bytes.length ++ field.bytes

def textPart (text : Option HeaderText) : Bytes := text.elim [] fun text => text.bytes ++ [0]

/-- All of a header but its checksum. -/
def front (header : Header) : Bytes :=
  header.fixedPart ++ (extraPart header.extra ++ (textPart header.name ++ textPart header.comment))

/-- A header as it is written. Its checksum is the lower half of that of what is in front of it. -/
inductive Written (header : Header) : (bytes : Bytes) → Prop where
  | unchecked (unchecked : header.isChecked = false) : Written header header.front
  | checked {stated : UInt32} (checked : header.isChecked = true)
      (isChecksum : IsChecksum header.front stated) :
      Written header (header.front ++ numberBytes 2 (stated.toNat % 2 ^ 16))

/-- Every header can be written. -/
def bytes (header : Header) : Bytes :=
  header.front ++
    if header.isChecked then numberBytes 2 ((checksum header.front).toNat % 2 ^ 16) else []

theorem written_bytes (header : Header) : header.Written header.bytes := by
  unfold bytes
  by_cases checked : header.isChecked = true
  · rw [if_pos checked]
    exact .checked checked (isChecksum_checksum _)
  · rw [if_neg checked, List.append_nil]
    exact .unchecked (Bool.eq_false_iff.mpr checked)

end Header

/-- An envelope of some contents. -/
structure Member (limit : Nat) (contents : Bytes) where
  header : Header
  headerBytes : Bytes
  isHeader : header.Written headerBytes
  data : Bytes
  isData : Compressed limit contents data
  checksum : UInt32
  isChecksum : IsChecksum contents checksum

namespace Member

variable {limit : Nat} {contents : Bytes}

/-- The envelope with a trailer of any kind. -/
def withTrailer (member : Member limit contents) (checksum length : UInt32) : Bytes :=
  member.headerBytes ++ (member.data ++
    (numberBytes 4 checksum.toNat ++ numberBytes 4 length.toNat))

/-- Any header fits any compressed data. -/
def write (header : Header) (data : Bytes) (isData : Compressed limit contents data) :
    Member limit contents where
  header := header
  headerBytes := header.bytes
  isHeader := header.written_bytes
  data := data
  isData := isData
  checksum := Gzip.checksum contents
  isChecksum := isChecksum_checksum contents

/-- An envelope as it is written. -/
def bytes (member : Member limit contents) : Bytes :=
  member.withTrailer member.checksum (UInt32.ofNat contents.length)

end Member

/-! ### Numbers and fields -/

@[simp]
theorem length_numberBytes (count number : Nat) : (numberBytes count number).length = count := by
  simp [numberBytes]

theorem littleEndian_numberBytes (count number : Nat) :
    littleEndian (numberBytes count number) = number % 256 ^ count := by
  induction count generalizing number with
  | zero => simp [numberBytes, littleEndian, Nat.mod_one]
  | succ count inductionHypothesis =>
      have split : numberBytes (count + 1) number =
          UInt8.ofNat number :: numberBytes count (number / 256) := by
        simp [numberBytes, List.range_succ_eq_map, Function.comp_def, Nat.pow_succ',
          Nat.div_div_eq_div_mul]
      have value : littleEndian (UInt8.ofNat number :: numberBytes count (number / 256)) =
          (UInt8.ofNat number).toNat + 256 * littleEndian (numberBytes count (number / 256)) := rfl
      rw [split, value, inductionHypothesis, Nat.pow_succ', Nat.mod_mul, UInt8.toNat_ofNat']

theorem littleEndian_word (number : UInt32) :
    littleEndian (numberBytes 4 number.toNat) = number.toNat := by
  rw [littleEndian_numberBytes]
  exact Nat.mod_eq_of_lt number.toNat_lt

theorem takeBytes_append {count : Nat} {front : Bytes} (length : front.length = count)
    (rest : Bytes) : takeBytes count (front ++ rest) = .ok (front, rest) := by
  subst length
  simp [takeBytes]

theorem ok_bind {α β : Type} (value : α) (next : α → Read β) :
    ((.ok value : Read α) >>= next) = next value := rfl

/-- An optional field is skipped where it is, and nothing is skipped where it is not. -/
theorem skip_extraPart (extra : Option ExtraField) (rest : Bytes) (next : Bytes → Read Bytes) :
    (if extra.isSome then skipExtra (Header.extraPart extra ++ rest) >>= next
      else next (Header.extraPart extra ++ rest)) = next rest := by
  cases extra with
  | none => rfl
  | some field =>
      have length : littleEndian (numberBytes 2 field.bytes.length) = field.bytes.length :=
        (littleEndian_numberBytes ..).trans (Nat.mod_eq_of_lt field.short)
      have skips : skipExtra (Header.extraPart (some field) ++ rest) = .ok rest := by
        rw [Header.extraPart, Option.elim_some, List.append_assoc]
        simp only [skipExtra, takeBytes_append (length_numberBytes ..), ok_bind, length,
          takeBytes_append rfl]
      rw [skips]
      rfl

theorem skipText_append {bytes : Bytes} (noZero : 0 ∉ bytes) {room : Nat}
    (short : bytes.length ≤ room) (rest : Bytes) :
    skipText room (bytes ++ 0 :: rest) = .ok rest := by
  induction bytes generalizing room with
  | nil => cases room <;> rfl
  | cons byte bytes inductionHypothesis =>
      obtain ⟨differs, others⟩ := not_or.mp (mt List.mem_cons.mpr noZero)
      obtain ⟨less, rfl⟩ := Nat.exists_eq_succ_of_ne_zero (n := room) (by
        rw [List.length_cons] at short
        omega)
      rw [List.cons_append, skipText, if_neg (Ne.symm differs)]
      exact inductionHypothesis others (Nat.le_of_succ_le_succ short)

theorem skip_textPart (text : Option HeaderText) (rest : Bytes) (next : Bytes → Read Bytes) :
    (if text.isSome then skipText maxFieldLength (Header.textPart text ++ rest) >>= next
      else next (Header.textPart text ++ rest)) = next rest := by
  cases text with
  | none => rfl
  | some text =>
      have skips : skipText maxFieldLength (Header.textPart (some text) ++ rest) = .ok rest := by
        rw [Header.textPart, Option.elim_some, List.append_assoc]
        exact skipText_append text.noZero text.short rest
      rw [skips]
      rfl

theorem ofByte_flags (header : Header) :
    Flags.ofByte header.flags =
      { checksum := header.isChecked
        extra := header.extra.isSome
        name := header.name.isSome
        comment := header.comment.isSome
        reserved := false } := by
  have general : ∀ isText isChecked extra name comment : Bool,
      Flags.ofByte (UInt8.ofNat (isText.toNat + 2 * isChecked.toNat + 4 * extra.toNat +
        8 * name.toNat + 16 * comment.toNat)) =
        { checksum := isChecked, extra := extra, name := name, comment := comment,
          reserved := false } := by
    decide
  exact general ..

theorem checkHeader_append {front : Bytes} {stated : UInt32} (isChecksum : IsChecksum front stated)
    (rest : Bytes) :
    checkHeader (front ++ (numberBytes 2 (stated.toNat % 2 ^ 16) ++ rest))
      (numberBytes 2 (stated.toNat % 2 ^ 16) ++ rest) = .ok rest := by
  have half : littleEndian (numberBytes 2 (stated.toNat % 2 ^ 16)) = stated.toNat % 2 ^ 16 :=
    (littleEndian_numberBytes ..).trans (Nat.mod_mod ..)
  have header : (front ++ (numberBytes 2 (stated.toNat % 2 ^ 16) ++ rest)).take
      ((front ++ (numberBytes 2 (stated.toNat % 2 ^ 16) ++ rest)).length -
        (numberBytes 2 (stated.toNat % 2 ^ 16) ++ rest).length) = front := by
    rw [List.length_append, Nat.add_sub_cancel, List.take_left]
  simp only [checkHeader, takeBytes_append (length_numberBytes ..), ok_bind, header, half,
    ← isChecksum_iff.mp isChecksum]
  exact if_pos rfl

/-- A header is skipped, whatever fields it has. -/
theorem Header.Written.skip {header : Header} {bytes : Bytes} (written : header.Written bytes)
    (rest : Bytes) : skipHeader (bytes ++ rest) = .ok rest := by
  have fixed : header.fixedPart.length = 10 := by simp [fixedPart]
  have magical : hasMagic header.fixedPart = true := rfl
  have method : header.fixedPart.getD 2 0 = 8 := rfl
  have flags : header.fixedPart.getD 3 0 = header.flags := rfl
  have accepted :
      ¬ (¬ hasMagic header.fixedPart ∨ header.fixedPart.getD 2 0 ≠ 8 ∨ false = true) := by
    rw [magical, method]
    decide
  cases written with
  | unchecked unchecked =>
      simp only [front, List.append_assoc]
      simp only [skipHeader, takeBytes_append fixed, ok_bind, flags, ofByte_flags, if_neg accepted,
        skip_extraPart, skip_textPart, unchecked]
      rfl
  | @checked stated checked isChecksum =>
      have check := checkHeader_append isChecksum rest
      simp only [front, List.append_assoc] at check ⊢
      simp only [skipHeader, takeBytes_append fixed, ok_bind, flags, ofByte_flags, if_neg accepted,
        skip_extraPart, skip_textPart, checked, check]
      rfl

theorem Header.Written.hasMagic_append {header : Header} {bytes : Bytes}
    (written : header.Written bytes) (rest : Bytes) : hasMagic (bytes ++ rest) = true := by
  cases written with
  | unchecked => rfl
  | checked => rfl

theorem checkTrailer_append (contents : Bytes) (stated length : UInt32) (rest : Bytes) :
    checkTrailer contents (numberBytes 4 stated.toNat ++ (numberBytes 4 length.toNat ++ rest)) =
      if stated = checksum contents ∧ length = UInt32.ofNat contents.length then .ok ()
      else .error .mismatch := by
  have same : (checksum contents).toNat = stated.toNat ∧
      contents.length % Nat.pow 2 32 = length.toNat ↔
        stated = checksum contents ∧ length = UInt32.ofNat contents.length := by
    rw [← UInt32.toNat_inj, ← UInt32.toNat_inj, UInt32.toNat_ofNat', eq_comm, and_congr_right_iff]
    exact fun _ => eq_comm
  simp only [checkTrailer, takeBytes_append (length_numberBytes ..), ok_bind, littleEndian_word,
    same]

/-! ### Opening an envelope -/

namespace Member

variable {contents : Bytes}

/-- The trailer decides whether the contents are handed out. -/
theorem unpack_withTrailer (member : Member 30 contents) (checksum length : UInt32)
    (further : Bytes) :
    unpack (member.withTrailer checksum length ++ further) =
      if checksum = member.checksum ∧ length = UInt32.ofNat contents.length then .ok contents
      else .error .mismatch := by
  have right := isChecksum_iff.mp member.isChecksum
  simp only [withTrailer, List.append_assoc, unpack, member.isHeader.skip, ok_bind,
    member.isData.inflate, checkTrailer_append, right]
  split <;> rfl

end Member

end Stackwatch.Gzip

namespace Stackwatch.Snapshot

open Gzip Deflate

theorem read_withTrailer {contents : Bytes} (member : Member 30 contents)
    (checksum length : UInt32) (further : Bytes) :
    read (member.withTrailer checksum length ++ further) =
      if checksum = member.checksum ∧ length = UInt32.ofNat contents.length then
        ofEncoded contents
      else .error (.envelope .mismatch) := by
  have magical : hasMagic (member.withTrailer checksum length ++ further) = true := by
    rw [Member.withTrailer, List.append_assoc]
    exact member.isHeader.hasMagic_append _
  rw [read, if_pos magical, member.unpack_withTrailer]
  split <;> rfl

/-- Reading a snapshot from an envelope with anything behind it is reading it from the contents,
    whatever they are and however they were compressed, as long as no block brings more than 30
    codeword lengths for distances. With another checksum or another length in the trailer the
    envelope is refused, whatever the contents are. -/
theorem read_envelope (contents : Bytes) (member : Member 30 contents) (further : Bytes) :
    read (member.bytes ++ further) = ofEncoded contents ∧
      ∀ checksum length : UInt32,
        (checksum ≠ member.checksum ∨ length ≠ UInt32.ofNat contents.length) →
          read (member.withTrailer checksum length ++ further) =
            .error (.envelope .mismatch) := by
  constructor
  · rw [Member.bytes, read_withTrailer, if_pos ⟨rfl, rfl⟩]
  · intro checksum length wrong
    rw [read_withTrailer, if_neg]
    rintro ⟨rightChecksum, rightLength⟩
    rcases wrong with wrong | wrong
    · exact wrong rightChecksum
    · exact wrong rightLength

/-- A block in which a reference repeats bytes that it has just written. -/
theorem compressed_overlapping :
    Compressed 30 [0x32, 0, 0x32, 0, 0x32, 0, 0x48, 7] [51, 98, 0, 65, 15, 118, 0] := by
  have stop := @Symbols.stop fixedLiterals fixedDistances [0x32, 0, 0x32, 0, 0x32, 0, 0x48, 7]
    [false, false, false, false, false, false, false] (by decide +kernel)
  have seven := @Symbols.literal fixedLiterals fixedDistances [0x32, 0, 0x32, 0, 0x32, 0, 0x48]
    _ 7 [false, false, true, true, false, true, true, true] _ (by decide +kernel) stop
  have field := @Symbols.literal fixedLiterals fixedDistances [0x32, 0, 0x32, 0, 0x32, 0]
    _ 0x48 [false, true, true, true, true, false, false, false] _ (by decide +kernel) seven
  have length := @Amount.intro fixedLiterals 257 lengthRanges 1 4 0 0
    [false, false, false, false, false, true, false] (by decide) (by decide) (by decide +kernel)
  have distance := @Amount.intro fixedDistances 0 distanceRanges 1 2 0 0
    [false, false, false, false, true] (by decide) (by decide) (by decide +kernel)
  have copy := @Symbols.reference fixedLiterals fixedDistances [0x32, 0] _ _ _ _ _ _ length
    distance (by decide) field
  have zero := @Symbols.literal fixedLiterals fixedDistances [0x32]
    _ 0 [false, false, true, true, false, false, false, false] _ (by decide +kernel) copy
  have first := @Symbols.literal fixedLiterals fixedDistances []
    _ 0x32 [false, true, true, false, false, false, true, false] _ (by decide +kernel) zero
  exact @Compressed.intro _ _ _ _ [false, false] (.last (.fixed first)) (by decide)
    (by decide +kernel)

/-- An envelope with a name, with a comment and with the checksum of its header. Behind it another
    one seems to begin. -/
theorem read_envelope_overlapping :
    let member := Member.write
      { name := some ⟨[0x70], by decide, by decide⟩
        comment := some ⟨[], by decide, by decide⟩
        isChecked := true } _ compressed_overlapping
    read (member.bytes ++ [0x1f, 0x8b]) =
        .ok { columns := [], samples := [], timeNanos := 7, durationNanos := 0 } ∧
      (0 : UInt32) ≠ member.checksum ∧
      read (member.withTrailer 0 8 ++ []) = .error (.envelope .mismatch) := by
  intro member
  have wrong : (0 : UInt32) ≠ member.checksum := by decide +kernel
  have plain : ofEncoded [0x32, 0, 0x32, 0, 0x32, 0, 0x48, 7] =
      .ok { columns := [], samples := [], timeNanos := 7, durationNanos := 0 } := by
    decide +kernel
  exact ⟨(read_envelope _ member _).1.trans plain, wrong,
    (read_envelope _ member []).2 0 8 (.inl wrong)⟩

/-- A block that brings 31 codeword lengths for distances, two of them for distances that there are,
    and then ends at once. -/
theorem compressed_manyDistances :
    Compressed 32 [] [0x05, 0xde, 0x81, 0, 0, 0, 0, 0, 0x10, 0xff, 0xd5, 0x28, 0x09] := by
  let lengthCode := [0, 1, 0, 0, 0, 0, 0, 0, 0, 0, 0, 0, 0, 0, 0, 0, 0, 0, 1]
  let sent := [0, 0, 1, 0, 0, 0, 0, 0, 0, 0, 0, 0, 0, 0, 0, 0, 0, 1]
  let lengths := [] ++ [1] ++ List.replicate (11 + 127) 0 ++ List.replicate (11 + 106) 0 ++ [1] ++
    [1] ++ [1] ++ List.replicate (11 + 18) 0
  have isOne : word? lengthCode 1 = some [false] := by decide
  have isZeros : word? lengthCode 18 = some [true] := by decide
  have runs : Runs lengthCode [] _ lengths :=
    .single (by decide) isOne <| .run .manyZeros (by decide) isZeros <|
      .run .manyZeros (by decide) isZeros <| .single (by decide) isOne <|
      .single (by decide) isOne <| .single (by decide) isOne <|
      .run .manyZeros (by decide) isZeros .done
  rw [← List.take_append_drop 257 lengths] at runs
  have complete : Complete lengthCode := by
    unfold Complete
    decide +kernel
  have completeLiterals : Complete (lengths.take 257) := by
    unfold Complete
    decide +kernel
  have completeDistances : Complete (lengths.drop 257) := by
    unfold Complete
    decide +kernel
  have codes := @OwnCodes.intro 32 (lengths.take 257) (lengths.drop 257) lengthCode sent _
    (by decide +kernel) (by decide +kernel) (by decide) (by decide) (by decide) complete runs
    (.complete completeLiterals) (.complete completeDistances)
  have stop := @Symbols.stop (lengths.take 257) (lengths.drop 257) [] [true] (by decide +kernel)
  exact @Compressed.intro _ _ _ _ [false, false, false, false] (.last (.dynamic codes stop))
    (by decide) (by decide +kernel)

/-- The 31st and the 32nd of the codeword lengths for distances belong to no distance; an envelope
    that brings them is refused although it has contents. -/
theorem not_read_envelope_manyDistances :
    ¬ ∀ (contents : Bytes) (member : Member 32 contents) (further : Bytes),
      read (member.bytes ++ further) = ofEncoded contents ∧
        ∀ checksum length : UInt32,
          (checksum ≠ member.checksum ∨ length ≠ UInt32.ofNat contents.length) →
            read (member.withTrailer checksum length ++ further) =
              .error (.envelope .mismatch) := by
  intro all
  have same := (all [] (.write {} _ compressed_manyDistances) []).1
  have refused : read ((Member.write {} _ compressed_manyDistances).bytes ++ []) =
      .error (.envelope (.contents .corrupt)) := by
    decide +kernel
  have plain : ofEncoded [] =
      .ok { columns := [], samples := [], timeNanos := 0, durationNanos := 0 } := by
    decide +kernel
  rw [refused, plain] at same
  cases same

end Stackwatch.Snapshot

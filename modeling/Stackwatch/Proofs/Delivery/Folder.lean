import Stackwatch.Delivery.Folder
import Stackwatch.Proofs.Json.RoundTrip
import Stackwatch.Proofs.Text.Divisions

/-!
# Batches in a folder

The name of a batch is the second in which it was written, and behind that its number, unless it is
the first one. The second ends with a letter that no number contains, so the number can be read off
a name whatever the clock showed. No two of 2^64 batches have the same number: no batch of a folder
takes the file of another one, however many writes fail in between, and however the clock is set.
-/

namespace Stackwatch

namespace Place

/-- The text of a file. -/
def file? (name : String) : Place → Option String
  | .folder files => (files.find? (·.1 == name)).map (·.2)
  | _ => none

@[simp] theorem file?_nothing (name : String) : nothing.file? name = none := rfl

@[simp] theorem file?_file (name : String) : file.file? name = none := rfl

/-- Removes a file. -/
def remove (name : String) : Place → Place
  | .folder files => .folder (files.filter (·.1 != name))
  | place => place

theorem file?_remove_other (place : Place) {name other : String} (different : other ≠ name) :
    (place.remove name).file? other = place.file? other := by
  cases place with
  | nothing => rfl
  | file => rfl
  | folder files =>
      have kept : (fun entry : String × String =>
          decide ((entry.1 != name) = true ∧ (entry.1 == other) = true)) =
            fun entry => entry.1 == other := by
        funext entry
        by_cases same : entry.1 = other
        · simp [same, different]
        · simp [same]
      simp only [remove, file?, List.find?_filter, kept]

theorem file?_write_other (text : String) (place : Place) {name other : String}
    (different : other ≠ name) : (place.write name text).2.file? other = place.file? other := by
  cases place with
  | nothing => rfl
  | file => rfl
  | folder files =>
      have missed : [(name, text)].find? (·.1 == other) = none := by simp [different.symm]
      rw [← file?_remove_other (.folder files) different]
      simp only [write, remove, file?, List.find?_append, missed, Option.or_none]

theorem file?_write_self (name text : String) (place : Place)
    (written : (place.write name text).1 = .ok ()) :
    (place.write name text).2.file? name = some text := by
  cases place with
  | nothing => cases written
  | file => cases written
  | folder files =>
      have gone : (files.filter (·.1 != name)).find? (·.1 == name) = none := by
        simp [List.find?_eq_none]
      simp [write, file?, List.find?_append, gone]

end Place

/-- Some way to write files. A write can fail and leave a part of its file, or nothing of it. -/
structure Disk where
  Error : Type
  write : String → String → Place → Except Error Unit × Place
  /-- The other files stay as they are. -/
  spares : ∀ name text place other, other ≠ name →
    (write name text place).2.file? other = place.file? other
  /-- After a write that succeeded, the file has the text. -/
  holds : ∀ name text place, (write name text place).1 = .ok () →
    (write name text place).2.file? name = some text

namespace Disk

/-- In a folder every write succeeds. -/
def plain : Disk where
  Error := Place.Error
  write := Place.write
  spares _ text place _ different := Place.file?_write_other text place different
  holds name text place written := Place.file?_write_self name text place written

/-- Every write breaks off behind the first few characters. -/
def full (length : Nat) : Disk where
  Error := String
  write name text place :=
    (.error "No space left on device (os error 28)",
      (place.write name (String.ofList (text.toList.take length))).2)
  spares _ _ place _ different := Place.file?_write_other _ place different
  holds _ _ _ written := by cases written

end Disk

namespace Folder

/-! ### Names -/

/-- What stands behind the second in a name. -/
def mark (sequence : UInt64) : List Char :=
  (if sequence = 0 then [] else '-' :: sequence.toNat.repr.toList) ++ ".json".toList

theorem mark_injective {sequence other : UInt64} (same : mark sequence = mark other) :
    sequence = other := by
  have texts := List.append_cancel_right same
  by_cases first : sequence = 0 <;> by_cases otherFirst : other = 0
  · rw [first, otherFirst]
  · rw [if_pos first, if_neg otherFirst] at texts
    cases texts
  · rw [if_neg first, if_pos otherFirst] at texts
    cases texts
  · rw [if_neg first, if_neg otherFirst, List.cons.injEq] at texts
    exact UInt64.toNat_inj.mp (Nat.repr_inj.mp (String.toList_inj.mp texts.2))

theorem notMem_mark (sequence : UInt64) : 'Z' ∉ mark sequence := by
  rw [mark, List.mem_append, not_or]
  refine ⟨?_, by decide⟩
  split
  · exact List.not_mem_nil
  · rw [List.mem_cons, not_or]
    exact ⟨by decide, Text.notMem_repr_of_isDigit_eq_false rfl _⟩

theorem exists_toList_fileName (epochSeconds : Int) :
    ∃ second : List Char, ∀ sequence,
      (fileName epochSeconds sequence).toList = second ++ 'Z' :: mark sequence := by
  obtain ⟨second, stamp⟩ : ∃ second, Calendar.stamp epochSeconds = second ++ "Z" := ⟨_, rfl⟩
  refine ⟨second.toList, fun sequence => ?_⟩
  have digits : toString sequence = sequence.toNat.repr := rfl
  rw [fileName, stamp, mark, digits]
  split <;> simp

/-- Whatever the clock shows, batches with different numbers have different names. -/
theorem fileName_injective {epochSeconds other : Int} {sequence otherSequence : UInt64}
    (same : fileName epochSeconds sequence = fileName other otherSequence) :
    sequence = otherSequence := by
  obtain ⟨second, chars⟩ := exists_toList_fileName epochSeconds
  obtain ⟨otherSecond, otherChars⟩ := exists_toList_fileName other
  have sameChars := congrArg String.toList same
  rw [chars, otherChars] at sameChars
  exact mark_injective
    (Text.eq_of_append_cons (notMem_mark _) (notMem_mark _) sameChars).2

/-! ### What happens to a folder -/

/-- What can happen to a folder. -/
inductive Event where
  | deliver (epochSeconds : Int) (batch : List Json) (disk : Disk)
  /-- Something else is done to the folder. -/
  | elsewhere (change : Place → Place)

/-- Lets an event happen. -/
def apply (folder : Folder) : Event → Folder
  | .deliver epochSeconds batch disk => (folder.deliverBy disk.write epochSeconds batch).2
  | .elsewhere change => { folder with place := change folder.place }

/-- Lets events happen one after the other. -/
def run (events : List Event) (folder : Folder) : Folder := events.foldl apply folder

/-- The second in which a batch is written. -/
def Event.moment? : Event → Option Int
  | .deliver epochSeconds _ _ => some epochSeconds
  | .elsewhere _ => none

/-- The names of all batches, also of those that cannot be written. -/
def names (folder : Folder) : List Event → List String
  | [] => []
  | event :: rest =>
      (event.moment?.map folder.nextName).toList ++ names (folder.apply event) rest

/-- Deliveries apart, what happens leaves a file alone. -/
def Event.Spares (name : String) : Event → Prop
  | .deliver _ _ _ => True
  | .elsewhere change => ∀ place, (change place).file? name = place.file? name

@[simp] theorem Event.spares_deliver (name : String) (epochSeconds : Int) (batch : List Json)
    (disk : Disk) : (Event.deliver epochSeconds batch disk).Spares name :=
  trivial

@[simp] theorem Event.spares_elsewhere (name : String) (change : Place → Place) :
    (Event.elsewhere change).Spares name ↔
      ∀ place, (change place).file? name = place.file? name :=
  Iff.rfl

variable (folder : Folder)

theorem names_append (first second : List Event) :
    folder.names (first ++ second) = folder.names first ++ (folder.run first).names second := by
  induction first generalizing folder with
  | nil => rfl
  | cons event rest inductionHypothesis =>
      rw [List.cons_append, names, names, inductionHypothesis, List.append_assoc]
      rfl

/-- Each batch takes the next number. -/
theorem names_eq_mapIdx (events : List Event) :
    folder.names events =
      (events.filterMap Event.moment?).mapIdx fun place epochSeconds =>
        fileName epochSeconds (folder.sequence + UInt64.ofNat place) := by
  induction events generalizing folder with
  | nil => rfl
  | cons event rest inductionHypothesis =>
      rw [names, inductionHypothesis]
      cases event with
      | elsewhere change => rfl
      | deliver epochSeconds batch disk =>
          have next (place : Nat) : (folder.apply (.deliver epochSeconds batch disk)).sequence +
              UInt64.ofNat place = folder.sequence + UInt64.ofNat (place + 1) := by
            rw [UInt64.ofNat_add, UInt64.add_comm (UInt64.ofNat place), ← UInt64.add_assoc]
            rfl
          simp only [next]
          simp [Event.moment?, nextName]

theorem length_names (events : List Event) :
    (folder.names events).length = (events.filterMap Event.moment?).length := by
  rw [names_eq_mapIdx, List.length_mapIdx]

/-- The numbers of 2^64 batches differ. -/
theorem nodup_names {events : List Event}
    (few : (events.filterMap Event.moment?).length ≤ 2 ^ 64) : (folder.names events).Nodup := by
  rw [names_eq_mapIdx, List.Nodup, List.pairwise_iff_getElem]
  intro first second inRange inRange' before same
  rw [List.getElem_mapIdx, List.getElem_mapIdx] at same
  have places : UInt64.ofNat first = UInt64.ofNat second :=
    (UInt64.add_right_inj _).mp (fileName_injective same)
  have numbers := congrArg UInt64.toNat places
  rw [List.length_mapIdx] at inRange inRange'
  rw [UInt64.toNat_ofNat', UInt64.toNat_ofNat', Nat.mod_eq_of_lt (by omega),
    Nat.mod_eq_of_lt (by omega)] at numbers
  omega

/-- A file stays if nothing else touches it and no batch has its name. -/
theorem file?_run {events : List Event} {name : String}
    (spared : ∀ event ∈ events, event.Spares name) (other : name ∉ folder.names events) :
    (folder.run events).place.file? name = folder.place.file? name := by
  induction events generalizing folder with
  | nil => rfl
  | cons event rest inductionHypothesis =>
      obtain ⟨sparedNow, sparedLater⟩ := List.forall_mem_cons.mp spared
      rw [names, List.mem_append, not_or] at other
      have later : (folder.run (event :: rest)).place.file? name =
          (folder.apply event).place.file? name := inductionHypothesis _ sparedLater other.2
      rw [later]
      cases event with
      | elsewhere change => exact sparedNow folder.place
      | deliver epochSeconds batch disk =>
          have different : name ≠ folder.nextName epochSeconds := fun same =>
            other.1 (by simp [Event.moment?, same])
          exact disk.spares _ _ folder.place _ different

theorem run_append (first second : List Event) :
    folder.run (first ++ second) = (folder.run first).run second := List.foldl_append

/-- No two of at most 2^64 batches have one name, whatever the clock shows at each of them and
    whichever of them cannot be written. So a batch that was written stays: as long as nobody else
    touches its file, it has the text of exactly that batch as a JSON array, which is read back. -/
theorem written_batches_remain (folder : Folder) (events : List Event)
    (few : (folder.names events).length ≤ 2 ^ 64) :
    (folder.names events).Nodup ∧
      ∀ before epochSeconds batch disk after,
        events = before ++ .deliver epochSeconds batch disk :: after →
        let found := folder.run before
        let name := found.nextName epochSeconds
        name ∉ folder.names before ∧
          ((found.deliverBy disk.write epochSeconds batch).1 = .ok () →
            (∀ event ∈ after, event.Spares name) →
            (folder.run events).place.file? name = some (Json.array batch).text ∧
              ((Json.array batch).Faithful →
                Json.read? (Json.array batch).text = some (.array batch))) := by
  have distinct := folder.nodup_names (folder.length_names events ▸ few)
  refine ⟨distinct, ?_⟩
  rintro before epochSeconds batch disk after rfl found name
  rw [names_append, List.nodup_append] at distinct
  obtain ⟨-, distinctLater, apart⟩ := distinct
  have fresh : name ∉ folder.names before := fun member =>
    apart name member name (List.mem_cons_self ..) rfl
  refine ⟨fresh, fun written spared => ⟨?_, Json.read?_text⟩⟩
  have unused : name ∉ (found.apply (.deliver epochSeconds batch disk)).names after :=
    (List.nodup_cons.mp distinctLater).1
  have kept := file?_run _ spared unused
  rw [run_append]
  exact kept.trans (disk.holds name _ found.place written)

/-- A folder in which a file of somebody else stands. -/
def shared : Folder := { path := "profiles", place := .folder [("notes.txt", "")] }

/-- Three batches of one second and, after the clock was set back, one from before the epoch. The
    second one finds no room on the disk, and somebody removes what was left of it. -/
def crowdedSecond : List Event :=
  [.deliver 1700000000 [.string "first"] .plain,
    .deliver 1700000000 [.string "second"] (.full 3),
    .elsewhere (Place.remove "2023-11-14T22-13-20Z-1.json"),
    .deliver 1700000000 [.integer 3] .plain,
    .deliver (-1) [] .plain]

/-- The first batch is there when all is over. -/
theorem written_batches_remain_crowded_second :
    shared.names crowdedSecond =
        ["2023-11-14T22-13-20Z.json", "2023-11-14T22-13-20Z-1.json",
          "2023-11-14T22-13-20Z-2.json", "1969-12-31T23-59-59Z-3.json"] ∧
      (shared.names crowdedSecond).Nodup ∧
      (shared.run crowdedSecond).place.file? "2023-11-14T22-13-20Z.json" = some "[\"first\"]" ∧
      Json.read? "[\"first\"]" = some (.array [.string "first"]) := by
  have names : shared.names crowdedSecond =
      ["2023-11-14T22-13-20Z.json", "2023-11-14T22-13-20Z-1.json",
        "2023-11-14T22-13-20Z-2.json", "1969-12-31T23-59-59Z-3.json"] := by decide +kernel
  obtain ⟨distinct, remain⟩ := written_batches_remain shared crowdedSecond (by rw [names]; decide)
  obtain ⟨-, stays⟩ := remain [] 1700000000 [.string "first"] .plain _ rfl
  have spared : ∀ event ∈ crowdedSecond.tail,
      event.Spares (fileName 1700000000 0) := by
    have other : fileName 1700000000 0 ≠ "2023-11-14T22-13-20Z-1.json" := by decide +kernel
    simp [crowdedSecond, Place.file?_remove_other _ other]
  obtain ⟨stands, readBack⟩ := stays rfl spared
  exact ⟨names, distinct, stands, readBack ⟨trivial, trivial⟩⟩

end Folder

end Stackwatch

import Mathlib.Data.List.Forall2
import Stackwatch.Snapshot.Basic

/-!
# Following references

An encoded profile refers to its strings by index and to its functions and locations by id. This
module lists the references of a profile in the order in which they are followed, and says what each
of them leads to. The main statement is that a profile has a snapshot exactly if all of its
references lead somewhere: otherwise the error is the first that does not, and the snapshot is the
only one in which every reference has become what it leads to.
-/

namespace Stackwatch.Snapshot

namespace Encoded

/-! ### References and what they lead to -/

def Function.references (function : Function) : List Dangling :=
  [.string function.name, .string function.fileName]

def ValueType.references (column : ValueType) : List Dangling :=
  [.string column.kind, .string column.unit]

def Sample.references (sample : Sample) : List Dangling := sample.locationIds.map .location

namespace Profile

variable (profile : Profile)

/-- The references that have to lead somewhere, in the order in which they are followed. -/
def references : List Dangling :=
  profile.functions.flatMap Function.references ++
    (profile.sampleTypes.flatMap ValueType.references ++
      profile.samples.flatMap Sample.references)

/-- Whether a reference leads somewhere. -/
def leads : Dangling → Bool
  | .string index => 0 ≤ index && index < profile.strings.length
  | .location id => profile.locations.any (·.id == id)

/-- The first of some references that leads nowhere. -/
def firstOf? (references : List Dangling) : Option Dangling :=
  references.find? fun reference => !profile.leads reference

/-- The first reference of a profile that leads nowhere. -/
def firstDangling? : Option Dangling := profile.firstOf? profile.references

/-- Whether there is a place of the string table for an index. -/
def HasString (index : Int) : Prop := 0 ≤ index ∧ index < profile.strings.length

/-- The string that stands at a place of the table. -/
def text? (index : Int) : Option String :=
  if 0 ≤ index then profile.strings[index.toNat]? else none

/-- The last function with an id. -/
def function? (id : Nat) : Option Function := (profile.functions.filter (·.id == id)).getLast?

/-- The last location with an id. -/
def location? (id : Nat) : Option Location := (profile.locations.filter (·.id == id)).getLast?

/-- The lines of a location whose functions are known. -/
def knownLines (location : Location) : List Line :=
  location.lines.filter fun line => profile.functions.any (·.id == line.functionId)

/-! ### What references become -/

/-- The texts of a function, its name and its file. -/
structure IsFunction (function : Function) (texts : String × String) : Prop where
  name : profile.text? function.name = some texts.1
  file : profile.text? function.fileName = some texts.2

/-- A line with the texts of its function. -/
structure IsFrame (line : Line) (frame : Frame) : Prop where
  function : ∃ function, profile.function? line.functionId = some function ∧
    profile.IsFunction function (frame.function, frame.file)
  line : frame.line = line.line

/-- The location that an id stands for. -/
structure IsLocation (id : Nat) (location : Stackwatch.Location) : Prop where
  found : ∃ entry, profile.location? id = some entry ∧ location.address = entry.address ∧
    List.Forall₂ profile.IsFrame (profile.knownLines entry) location.lines

structure IsColumn (encoded : ValueType) (column : Column) : Prop where
  kind : profile.text? encoded.kind = some column.kind
  unit : profile.text? encoded.unit = some column.unit

structure IsSample (encoded : Sample) (sample : Stackwatch.Sample) : Prop where
  locations : List.Forall₂ profile.IsLocation encoded.locationIds sample.locations
  values : sample.values = encoded.values

/-- A snapshot in which all references of a profile have become what they lead to. -/
structure IsSnapshot (snapshot : Snapshot) : Prop where
  columns : List.Forall₂ profile.IsColumn profile.sampleTypes snapshot.columns
  samples : List.Forall₂ profile.IsSample profile.samples snapshot.samples
  timeNanos : snapshot.timeNanos = profile.timeNanos
  durationNanos : snapshot.durationNanos = profile.durationNanos

end Profile

end Encoded

open Encoded

/-! ### Steps that follow references -/

/-- A step that follows references: it finds what it looks for, or fails with the first of them that
    leads nowhere. -/
def Follows {α : Type} (profile : Encoded.Profile) (references : List Dangling)
    (finds : α → Prop) (step : Except Dangling α) : Prop :=
  match profile.firstOf? references with
  | none => ∃ value, step = .ok value ∧ finds value
  | some reference => step = .error reference

namespace Follows

variable {α β : Type} {profile : Encoded.Profile} {references later : List Dangling}
  {finds : α → Prop}

/-- What needs no reference. -/
theorem pure {value : α} (found : finds value) : Follows profile [] finds (.ok value) :=
  ⟨value, rfl, found⟩

/-- A reference that leads somewhere. -/
theorem somewhere {reference : Dangling} {value : α} (leads : profile.leads reference = true)
    (found : finds value) : Follows profile [reference] finds (.ok value) := by
  have first : profile.firstOf? [reference] = none := by simp [Encoded.Profile.firstOf?, leads]
  rw [Follows, first]
  exact ⟨value, rfl, found⟩

/-- A reference that leads nowhere. -/
theorem nowhere {reference : Dangling} (dangling : profile.leads reference = false) :
    Follows profile [reference] finds (.error reference) := by
  have first : profile.firstOf? [reference] = some reference := by
    simp [Encoded.Profile.firstOf?, dangling]
  rw [Follows, first]

/-- Two steps one after the other. -/
theorem bind {step : Except Dangling α} {next : α → Except Dangling β} {findsNext : β → Prop}
    (follows : Follows profile references finds step)
    (followsNext : ∀ value, finds value → Follows profile later findsNext (next value)) :
    Follows profile (references ++ later) findsNext (step >>= next) := by
  have first : profile.firstOf? (references ++ later) =
      (profile.firstOf? references).or (profile.firstOf? later) := List.find?_append
  unfold Follows at follows
  cases dangling : profile.firstOf? references with
  | some reference =>
      rw [dangling] at follows first
      rw [Follows, first, follows]
      rfl
  | none =>
      rw [dangling] at follows first
      obtain ⟨value, rfl, found⟩ := follows
      rw [Follows, first]
      exact followsNext value found

/-- What is made of what a step finds. -/
theorem map {step : Except Dangling α} {change : α → β} {findsNext : β → Prop}
    (follows : Follows profile references finds step)
    (found : ∀ value, finds value → findsNext (change value)) :
    Follows profile references findsNext (step >>= fun value => .ok (change value)) := by
  rw [← List.append_nil references]
  exact follows.bind fun value finds => .pure (found value finds)

/-- The same step for each item of a list. -/
theorem mapM {items : List α} {referencesOf : α → List Dangling} {becomes : α → β → Prop}
    {step : α → Except Dangling β}
    (follows : ∀ item, Follows profile (referencesOf item) (becomes item) (step item)) :
    Follows profile (items.flatMap referencesOf) (List.Forall₂ becomes items)
      (items.mapM step) := by
  induction items with
  | nil => exact .pure .nil
  | cons item rest inductionHypothesis =>
      rw [List.mapM_cons, List.flatMap_cons]
      exact (follows item).bind fun value found =>
        inductionHypothesis.map fun values foundRest => .cons found foundRest

end Follows

/-! ### Strings and ids -/

section Tables

variable (profile : Encoded.Profile)

theorem leads_string (index : Int) :
    profile.leads (.string index) = (profile.text? index).isSome := by
  cases index with
  | ofNat position =>
      by_cases inside : position < profile.strings.length <;>
        simp [Encoded.Profile.leads, Encoded.Profile.text?, inside]
  | negSucc position => simp [Encoded.Profile.leads, Encoded.Profile.text?]

theorem follows_resolveString (index : Int) :
    Follows profile [.string index] (fun text => profile.text? index = some text)
      (resolveString profile.strings.toArray index) := by
  have leads := leads_string profile index
  cases index with
  | negSucc position => exact .nowhere leads
  | ofNat position =>
      have natural : profile.text? (.ofNat position) = profile.strings[position]? := rfl
      rw [resolveString, List.getElem?_toArray]
      rw [natural] at leads ⊢
      cases found : profile.strings[position]? with
      | none =>
          rw [found] at leads
          exact .nowhere leads
      | some text =>
          rw [found] at leads
          exact .somewhere leads rfl

/-- Lists of which the items are related have related first items. -/
theorem rel_head? {α β : Type} {becomes : α → β → Prop} {entries : List α} {results : List β}
    (related : List.Forall₂ becomes entries results) :
    Option.Rel becomes entries.head? results.head? := by
  cases related with
  | nil => exact .none
  | cons related rest => exact .some related

/-- What entries became that keep their ids is found where the entries are. -/
theorem rel_lastWithId {α β : Type} {idOf : α → Nat} {becomes : α → β → Prop}
    {entries : List α} {results : List (Nat × β)}
    (made : List.Forall₂ (fun entry result => result.1 = idOf entry ∧ becomes entry result.2)
      entries results) (id : Nat) :
    Option.Rel becomes (entries.filter (idOf · == id)).getLast? (lastWithId id results) := by
  have kept := List.rel_filter (p := (idOf · == id)) (q := (·.1 == id))
    (fun entry result related => by simp [related.1]) (List.rel_reverse made)
  have related := rel_head? kept
  rw [List.head?_filter, List.head?_filter] at related
  rw [lastWithId, List.getLast?_filter]
  generalize entries.reverse.find? (idOf · == id) = entry? at related ⊢
  generalize results.reverse.find? (·.1 == id) = result? at related ⊢
  cases related with
  | none => exact .none
  | some related => exact .some related.2

/-- An id is known if some entry has it. -/
theorem any_eq_isSome_getLast? {α : Type} (idOf : α → Nat) (id : Nat) (entries : List α) :
    entries.any (idOf · == id) = ((entries.filter (idOf · == id)).getLast?).isSome := by
  rw [List.getLast?_filter, ← List.any_reverse, Bool.eq_iff_iff, List.find?_isSome,
    List.any_eq_true]

end Tables

/-! ### Functions, locations, columns and samples -/

section Steps

variable (profile : Encoded.Profile)

theorem follows_resolveFunction (function : Function) :
    Follows profile function.references
      (fun result => result.1 = function.id ∧ profile.IsFunction function result.2)
      (resolveFunction profile.strings.toArray function) :=
  (follows_resolveString profile function.name).bind fun _ name =>
    (follows_resolveString profile function.fileName).map fun _ file => ⟨rfl, name, file⟩

theorem follows_resolveColumn (column : ValueType) :
    Follows profile column.references (profile.IsColumn column)
      (resolveColumn profile.strings.toArray column) :=
  (follows_resolveString profile column.kind).bind fun _ kind =>
    (follows_resolveString profile column.unit).map fun _ unit => ⟨kind, unit⟩

variable {functions : List (Nat × String × String)}
  (resolved : List.Forall₂
    (fun function result => result.1 = function.id ∧ profile.IsFunction function result.2)
    profile.functions functions)

include resolved

/-- Exactly the lines of known functions are left, each with the texts of its function. -/
theorem lines_resolveLocation (location : Encoded.Location) :
    List.Forall₂ profile.IsFrame (profile.knownLines location)
      (resolveLocation functions location).2.lines := by
  unfold Encoded.Profile.knownLines resolveLocation
  induction location.lines with
  | nil => exact .nil
  | cons line rest inductionHypothesis =>
      have related := rel_lastWithId resolved line.functionId
      rw [List.filter_cons, List.filterMap_cons, any_eq_isSome_getLast?]
      generalize found : (profile.functions.filter (·.id == line.functionId)).getLast? = function?
        at related ⊢
      generalize lastWithId line.functionId functions = texts? at related ⊢
      cases related with
      | none => exact inductionHypothesis
      | some isFunction => exact .cons ⟨⟨_, found, isFunction⟩, rfl⟩ inductionHypothesis

/-- An id leads to the location that it stands for. -/
theorem follows_location (id : Nat) :
    Follows profile [.location id] (profile.IsLocation id)
      (match lastWithId id (profile.locations.map (resolveLocation functions)) with
        | some location => .ok location
        | none => .error (.location id)) := by
  have made : List.Forall₂
      (fun entry result => result.1 = entry.id ∧ (resolveLocation functions entry).2 = result.2)
      profile.locations (profile.locations.map (resolveLocation functions)) := by
    rw [List.forall₂_map_right_iff, List.forall₂_same]
    exact fun entry member => ⟨rfl, rfl⟩
  have related : Option.Rel (fun entry location => (resolveLocation functions entry).2 = location)
      (profile.location? id) _ := rel_lastWithId made id
  have leads : profile.leads (.location id) = (profile.location? id).isSome :=
    any_eq_isSome_getLast? Encoded.Location.id id profile.locations
  generalize lastWithId id (profile.locations.map (resolveLocation functions)) = location?
    at related ⊢
  generalize found : profile.location? id = entry? at related leads
  cases related with
  | none => exact .nowhere leads
  | some same =>
      subst same
      exact .somewhere leads ⟨_, found, rfl, lines_resolveLocation profile resolved _⟩

theorem follows_resolveSample (sample : Encoded.Sample) :
    Follows profile sample.references (profile.IsSample sample)
      (resolveSample (profile.locations.map (resolveLocation functions)) sample) := by
  have references : sample.references = sample.locationIds.flatMap fun id => [.location id] :=
    List.map_eq_flatMap
  rw [references]
  exact (Follows.mapM (follows_location profile resolved)).map fun locations found => ⟨found, rfl⟩

end Steps

/-- Following the references of a profile finds a snapshot of it. -/
theorem follows_resolve (profile : Encoded.Profile) :
    Follows profile profile.references profile.IsSnapshot (resolve profile) := by
  refine (Follows.mapM (follows_resolveFunction profile)).bind fun functions resolved => ?_
  refine (Follows.mapM (follows_resolveColumn profile)).bind fun columns found => ?_
  exact (Follows.mapM (follows_resolveSample profile resolved)).map fun samples follow =>
    ⟨found, follow, rfl, rfl⟩

/-! ### There is one snapshot at most -/

section Unique

variable (profile : Encoded.Profile)

theorem rightUnique_isColumn : Relator.RightUnique profile.IsColumn := by
  intro encoded left right isLeft isRight
  have kind := Option.some.inj (isLeft.kind.symm.trans isRight.kind)
  have unit := Option.some.inj (isLeft.unit.symm.trans isRight.unit)
  cases left
  cases right
  exact congrArg₂ Column.mk kind unit

theorem rightUnique_isFunction : Relator.RightUnique profile.IsFunction := by
  intro function left right isLeft isRight
  exact Prod.ext (Option.some.inj (isLeft.name.symm.trans isRight.name))
    (Option.some.inj (isLeft.file.symm.trans isRight.file))

theorem rightUnique_isFrame : Relator.RightUnique profile.IsFrame := by
  intro line left right isLeft isRight
  obtain ⟨function, found, texts⟩ := isLeft.function
  obtain ⟨other, foundOther, otherTexts⟩ := isRight.function
  cases found.symm.trans foundOther
  have same := rightUnique_isFunction profile texts otherTexts
  have line := isLeft.line.trans isRight.line.symm
  cases left
  cases right
  cases same
  cases line
  rfl

theorem rightUnique_isLocation : Relator.RightUnique profile.IsLocation := by
  intro id left right isLeft isRight
  obtain ⟨entry, found, address, lines⟩ := isLeft.found
  obtain ⟨other, foundOther, otherAddress, otherLines⟩ := isRight.found
  cases found.symm.trans foundOther
  have sameLines := List.right_unique_forall₂' (rightUnique_isFrame profile) lines otherLines
  cases left
  cases right
  exact congrArg₂ Location.mk (address.trans otherAddress.symm) sameLines

theorem rightUnique_isSample : Relator.RightUnique profile.IsSample := by
  intro encoded left right isLeft isRight
  have locations := List.right_unique_forall₂' (rightUnique_isLocation profile)
    isLeft.locations isRight.locations
  cases left
  cases right
  exact congrArg₂ Sample.mk locations (isLeft.values.trans isRight.values.symm)

/-- Two snapshots of one profile are the same. -/
theorem eq_of_isSnapshot {left right : Snapshot} (isLeft : profile.IsSnapshot left)
    (isRight : profile.IsSnapshot right) : left = right := by
  have columns := List.right_unique_forall₂' (rightUnique_isColumn profile)
    isLeft.columns isRight.columns
  have samples := List.right_unique_forall₂' (rightUnique_isSample profile)
    isLeft.samples isRight.samples
  have timeNanos := isLeft.timeNanos.trans isRight.timeNanos.symm
  have durationNanos := isLeft.durationNanos.trans isRight.durationNanos.symm
  cases left
  cases right
  cases columns
  cases samples
  cases timeNanos
  cases durationNanos
  rfl

end Unique

/-- All references of a profile lead somewhere if all strings and all locations that it refers to
    are there. -/
theorem firstDangling?_eq_none_iff (profile : Encoded.Profile) :
    profile.firstDangling? = none ↔
      (∀ function ∈ profile.functions,
        profile.HasString function.name ∧ profile.HasString function.fileName) ∧
      (∀ column ∈ profile.sampleTypes,
        profile.HasString column.kind ∧ profile.HasString column.unit) ∧
      ∀ sample ∈ profile.samples, ∀ id ∈ sample.locationIds,
        ∃ location ∈ profile.locations, location.id = id := by
  have inTable (index : Int) : profile.leads (.string index) = true ↔ profile.HasString index := by
    simp [Encoded.Profile.leads, Encoded.Profile.HasString]
  have known (id : Nat) : profile.leads (.location id) = true ↔
      ∃ location ∈ profile.locations, location.id = id := by
    simp [Encoded.Profile.leads]
  simp only [Encoded.Profile.firstDangling?, Encoded.Profile.firstOf?, List.find?_eq_none,
    Bool.not_eq_true', Bool.not_eq_false, Encoded.Profile.references, List.forall_mem_append,
    List.forall_mem_flatMap, Function.references, ValueType.references, Encoded.Sample.references,
    List.forall_mem_cons, List.forall_mem_map, List.not_mem_nil, IsEmpty.forall_iff, implies_true,
    and_true, inTable, known]

/-- A profile has a snapshot exactly if all strings and all locations that it refers to are there:
    those of its functions, of its columns and of its samples. Otherwise the error is the first
    reference, in this order, that leads nowhere. The snapshot keeps columns, samples, values and
    times as they are, and has for each location what the last entry with its id says: the address,
    and one frame for each line of a known function, with the texts of the last function with the
    line's id. -/
theorem resolve_follows_references (profile : Encoded.Profile) :
    ((∃ snapshot, resolve profile = .ok snapshot) ↔
      (∀ function ∈ profile.functions,
        profile.HasString function.name ∧ profile.HasString function.fileName) ∧
      (∀ column ∈ profile.sampleTypes,
        profile.HasString column.kind ∧ profile.HasString column.unit) ∧
      ∀ sample ∈ profile.samples, ∀ id ∈ sample.locationIds,
        ∃ location ∈ profile.locations, location.id = id) ∧
    (∀ reference, resolve profile = .error reference ↔
      profile.firstDangling? = some reference) ∧
    ∀ snapshot, resolve profile = .ok snapshot ↔
      profile.firstDangling? = none ∧ profile.IsSnapshot snapshot := by
  have follows := follows_resolve profile
  rw [← firstDangling?_eq_none_iff]
  have first : profile.firstOf? profile.references = profile.firstDangling? := rfl
  rw [Follows, first] at follows
  cases dangling : profile.firstDangling? with
  | some first =>
      rw [dangling] at follows
      simp [follows, eq_comm]
  | none =>
      rw [dangling] at follows
      obtain ⟨found, resolved, isSnapshot⟩ := follows
      refine ⟨by simp [resolved], by simp [resolved], fun snapshot => ?_⟩
      rw [resolved]
      constructor
      · rintro ⟨⟩
        exact ⟨rfl, isSnapshot⟩
      · rintro ⟨-, isSame⟩
        rw [eq_of_isSnapshot profile isSnapshot isSame]

/-- Columns are looked at before samples, whatever stands first in the profile. -/
example :
    resolve
      { sampleTypes := [{ kind := 0, unit := 1 }, { kind := -1, unit := 2 }]
        samples := [{ locationIds := [7], values := [] }]
        locations := []
        functions := [{ id := 1, name := 0, systemName := 5, fileName := 0 }]
        strings := [""]
        timeNanos := 0
        durationNanos := 0 } = .error (.string 1) := rfl

end Stackwatch.Snapshot

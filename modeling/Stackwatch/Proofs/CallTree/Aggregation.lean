import Mathlib.Algebra.Ring.Int.Defs
import Stackwatch.CallTree.Filter
import Stackwatch.Proofs.CallTree.Ordered

/-!
# Aggregation

Samples are folded into a call tree one after the other. The main statement says what the tree is
then: it has a node for every beginning of a counted call path and no other, and a node holds the
sum over exactly the samples whose call paths begin with its own path.
-/

namespace Stackwatch

/-- The numbers of a node. -/
structure Tally where
  measurement : Float := 0.0
  samples : Int := 0

/-- A sample, and what was measured on it. -/
structure Measured where
  sample : Sample
  value : Float
  count : Int

namespace Tally

def add (tally : Tally) (value : Float) (count : Int) : Tally :=
  { measurement := tally.measurement + value, samples := tally.samples + count }

/-- Adds what was measured on some samples, in their order. -/
def addAll (tally : Tally) (all : List Measured) : Tally :=
  { measurement := (all.map Measured.value).foldl (· + ·) tally.measurement
    samples := tally.samples + (all.map Measured.count).sum }

theorem addAll_nil (tally : Tally) : tally.addAll [] = tally := by
  simp [addAll]

theorem addAll_cons (tally : Tally) (first : Measured) (rest : List Measured) :
    tally.addAll (first :: rest) = (tally.add first.value first.count).addAll rest := by
  simp [addAll, add, Int.add_assoc]

end Tally

namespace CallTree

def tally (tree : CallTree) : Tally :=
  { measurement := tree.measurement, samples := tree.samples }

/-- The numbers of the node reached by a path of keys, if there is one. -/
def tallyAt? (keys : List String) (tree : CallTree) : Option Tally := (tree.at? keys).map tally

/-! ### One path -/

section Path

variable (value : Float) (count : Int) (tree : CallTree) (key next : String) (keys : List String)

@[simp] theorem tallyAt?_nil : tree.tallyAt? [] = some tree.tally := rfl

theorem tallyAt?_cons : tree.tallyAt? (key :: keys) = (tree.child? key).bind (tallyAt? keys) := by
  simp only [tallyAt?, at?]
  cases tree.child? key <;> rfl

@[simp] theorem tallyAt?_root : root.tallyAt? (key :: keys) = none := rfl

@[simp] theorem tally_increment :
    (tree.increment value count).tally = tree.tally.add value count := by
  simp [tally, Tally.add]

@[simp] theorem tally_record (path : List Frame) :
    (tree.record value count path).tally = tree.tally := by
  simp [tally]

/-- Below a node nothing changes when its own numbers do. -/
@[simp] theorem tallyAt?_increment :
    (tree.increment value count).tallyAt? (key :: keys) = tree.tallyAt? (key :: keys) := by
  simp [tallyAt?_cons, child?]

/-- A child that is yet to be added has measured nothing. -/
theorem tally_getD_leaf (frame : Frame) :
    ((tree.child? key).getD (leaf frame)).tally = (tree.tallyAt? [key]).getD {} := by
  rw [tallyAt?_cons]
  cases tree.child? key <;> rfl

theorem tallyAt?_getD_leaf (frame : Frame) :
    ((tree.child? key).getD (leaf frame)).tallyAt? (next :: keys) =
      tree.tallyAt? (key :: next :: keys) := by
  rw [tallyAt?_cons tree]
  cases tree.child? key <;> rfl

end Path

/-- Recording a path adds to every node on it and to no other. -/
theorem Ordered.tallyAt?_record {tree : CallTree} (ordered : tree.Ordered) (value : Float)
    (count : Int) (path : List Frame) (key : String) (keys : List String) :
    (tree.record value count path).tallyAt? (key :: keys) =
      if key :: keys <+: path.map Frame.key then
        some (((tree.tallyAt? (key :: keys)).getD {}).add value count)
      else tree.tallyAt? (key :: keys) := by
  induction path generalizing tree key keys with
  | nil => simp [CallTree.record]
  | cons frame path inductionHypothesis =>
      have keeps (child : CallTree) :
          ((child.increment value count).record value count path).key = child.key := by
        simp
      rw [CallTree.record, tallyAt?_cons]
      simp only [List.map_cons, List.cons_prefix_cons]
      by_cases same : key = frame.key
      · subst same
        rw [ordered.child?_updateChild_self keeps, Option.bind_some]
        cases keys with
        | nil => simp [tally_getD_leaf]
        | cons next keys =>
            have childOrdered : ((tree.child? frame.key).getD (.leaf frame)).Ordered := by
              cases found : tree.child? frame.key with
              | none => exact .leaf frame
              | some child => exact ordered.child? found
            -- The rest of the path is recorded below the child, which is ordered as well.
            rw [inductionHypothesis (childOrdered.increment value count), tallyAt?_increment,
              tallyAt?_getD_leaf]
            simp
      · rw [ordered.child?_updateChild_other keeps same, ← tallyAt?_cons, if_neg]
        exact fun begins => same begins.1

/-! ### Totals -/

theorem totals_samples (tree : CallTree) :
    tree.totals.2 = (tree.children.map CallTree.samples).sum := by
  have general (children : List CallTree) (total : Float × Int) :
      (children.foldl
        (fun total child => (total.1 + child.measurement, total.2 + child.samples)) total).2 =
        total.2 + (children.map CallTree.samples).sum := by
    induction children generalizing total with
    | nil => simp
    | cons child rest inductionHypothesis => simp [inductionHypothesis, Int.add_assoc]
  exact (general tree.children (0.0, 0)).trans (Int.zero_add _)

@[simp] theorem samples_leaf (frame : Frame) : (leaf frame).samples = 0 := rfl

theorem sum_updateAmong (frame : Frame) {change : CallTree → CallTree} {count : Int}
    (adds : ∀ child, (change child).samples = child.samples + count) (children : List CallTree) :
    ((updateAmong frame change children).map CallTree.samples).sum =
      (children.map CallTree.samples).sum + count := by
  induction children with
  | nil => simp [updateAmong, adds]
  | cons child rest inductionHypothesis =>
      simp only [updateAmong]
      split
      · simp [adds]
        omega
      · split
        · simp [adds]
          omega
        · simp [inductionHypothesis]
          omega

/-- A recorded path counts once for the whole tree. -/
theorem totals_record (value : Float) (count : Int) (frame : Frame) (path : List Frame)
    (tree : CallTree) :
    (tree.record value count (frame :: path)).totals.2 = tree.totals.2 + count := by
  rw [totals_samples, totals_samples, record, children_updateChild]
  exact sum_updateAmong frame (by simp) tree.children

end CallTree

/-! ### Many samples -/

namespace FrameFilter

/-- The keys on the call path of a sample. -/
def keyPath (filter : FrameFilter) (sample : Sample) : List String :=
  (filter.path sample).map Frame.key

/-- Folds samples one after the other. -/
def foldAll (filter : FrameFilter) (all : List Measured) (tree : CallTree) : CallTree :=
  all.foldl
    (fun tree measured => filter.fold measured.sample measured.value measured.count tree) tree

/-- The samples whose call paths begin with some keys. -/
def passing (filter : FrameFilter) (keys : List String) (all : List Measured) : List Measured :=
  all.filter fun measured => decide (keys <+: filter.keyPath measured.sample)

section Fold

variable {filter : FrameFilter} {tree : CallTree}

/-- A sample counts exactly if a frame of it is left. -/
theorem records_iff (filter : FrameFilter) (sample : Sample) :
    filter.records sample = true ↔ filter.path sample ≠ [] := by
  unfold records path
  cases skipped : filter.skipsSample sample with
  | true => simp
  | false =>
      simp only [Bool.not_false, Bool.true_and, List.any_eq_true, Bool.false_eq_true, if_false,
        ne_eq, List.filter_eq_nil_iff, List.mem_filterMap, List.mem_reverse, Classical.not_forall,
        Classical.not_not, exists_prop]

/-- Where no frame is left there is no node to add to. -/
theorem fold_eq (sample : Sample) (value : Float) (count : Int) :
    filter.fold sample value count tree = tree.record value count (filter.path sample) := by
  unfold fold
  split
  · rfl
  · next unrecorded =>
      have empty : filter.path sample = [] := by
        simpa [records_iff] using unrecorded
      rw [empty, CallTree.record]

theorem ordered_fold (ordered : tree.Ordered) (sample : Sample) (value : Float) (count : Int) :
    (filter.fold sample value count tree).Ordered := by
  rw [fold_eq]
  exact ordered.record value count (filter.path sample)

theorem tallyAt?_fold (ordered : tree.Ordered) (sample : Sample) (value : Float) (count : Int)
    (key : String) (keys : List String) :
    (filter.fold sample value count tree).tallyAt? (key :: keys) =
      if key :: keys <+: filter.keyPath sample then
        some (((tree.tallyAt? (key :: keys)).getD {}).add value count)
      else tree.tallyAt? (key :: keys) := by
  rw [fold_eq]
  exact ordered.tallyAt?_record value count (filter.path sample) key keys

theorem foldAll_cons (first : Measured) (rest : List Measured) :
    filter.foldAll (first :: rest) tree =
      filter.foldAll rest (filter.fold first.sample first.value first.count tree) := rfl

theorem tally_foldAll (all : List Measured) : (filter.foldAll all tree).tally = tree.tally := by
  induction all generalizing tree with
  | nil => rfl
  | cons first rest inductionHypothesis =>
      rw [foldAll_cons, inductionHypothesis, fold_eq, CallTree.tally_record]

/-- The numbers of a node grow by what is measured on the samples that pass it. -/
theorem tallyAt?_foldAll (ordered : tree.Ordered) (all : List Measured) (key : String)
    (keys : List String) :
    (filter.foldAll all tree).tallyAt? (key :: keys) =
      (filter.passing (key :: keys) all).foldl
        (fun tally? measured => some ((tally?.getD {}).add measured.value measured.count))
        (tree.tallyAt? (key :: keys)) := by
  induction all generalizing tree with
  | nil => rfl
  | cons first rest inductionHypothesis =>
      rw [foldAll_cons, inductionHypothesis (ordered_fold ordered ..), tallyAt?_fold ordered]
      by_cases passes : key :: keys <+: filter.keyPath first.sample
      · have kept : filter.passing (key :: keys) (first :: rest) =
            first :: filter.passing (key :: keys) rest :=
          List.filter_cons_of_pos (decide_eq_true passes)
        rw [kept, if_pos passes, List.foldl_cons]
      · have dropped : filter.passing (key :: keys) (first :: rest) =
            filter.passing (key :: keys) rest :=
          List.filter_cons_of_neg (by simpa using passes)
        rw [dropped, if_neg passes]

end Fold

theorem foldl_add (all : List Measured) (tally : Tally) :
    all.foldl (fun tally? measured => some ((tally?.getD {}).add measured.value measured.count))
      (some tally) = some (tally.addAll all) := by
  induction all generalizing tally with
  | nil => rw [List.foldl_nil, Tally.addAll_nil]
  | cons first rest inductionHypothesis =>
      rw [List.foldl_cons, Option.getD_some, inductionHypothesis, Tally.addAll_cons]

/-- From an empty tree on, a node holds the sum over the samples that pass it. -/
theorem tallyAt?_foldAll_root (filter : FrameFilter) (all : List Measured) (key : String)
    (keys : List String) :
    (filter.foldAll all .root).tallyAt? (key :: keys) =
      if filter.passing (key :: keys) all = [] then none
      else some (Tally.addAll {} (filter.passing (key :: keys) all)) := by
  have ordered : CallTree.root.Ordered := .leaf _
  rw [tallyAt?_foldAll ordered, CallTree.tallyAt?_root]
  cases filter.passing (key :: keys) all with
  | nil => rfl
  | cons first rest =>
      rw [List.foldl_cons, foldl_add, if_neg (List.cons_ne_nil first rest), Tally.addAll_cons]
      rfl

theorem totals_foldAll (filter : FrameFilter) (all : List Measured) (tree : CallTree) :
    (filter.foldAll all tree).totals.2 =
      tree.totals.2 +
        ((all.filter fun measured => filter.records measured.sample).map Measured.count).sum := by
  induction all generalizing tree with
  | nil => simp [foldAll]
  | cons first rest inductionHypothesis =>
      rw [foldAll_cons, inductionHypothesis, fold_eq]
      cases path : filter.path first.sample with
      | nil =>
          have unrecorded : ¬ filter.records first.sample = true := by
            simp [records_iff, path]
          simp [CallTree.record, unrecorded]
      | cons frame path' =>
          have recorded : filter.records first.sample = true := by
            simp [records_iff, path]
          simp [CallTree.totals_record, recorded, Int.add_assoc]

/-- A node stands where the keys of a folded call path begin, and nowhere else. -/
theorem isSome_at?_foldAll (filter : FrameFilter) (all : List Measured) (key : String)
    (keys : List String) :
    ((filter.foldAll all .root).at? (key :: keys)).isSome = true ↔
      ∃ measured ∈ all, key :: keys <+: filter.keyPath measured.sample := by
  have numbers := filter.tallyAt?_foldAll_root all key keys
  rw [← Option.isSome_map, ← CallTree.tallyAt?, numbers]
  split
  · next empty => simpa [passing, List.filter_eq_nil_iff] using empty
  · next nonempty => simpa [passing, List.filter_eq_nil_iff] using nonempty

theorem sums_of_at?_foldAll (filter : FrameFilter) (all : List Measured) {key : String}
    {keys : List String} {node : CallTree}
    (found : (filter.foldAll all .root).at? (key :: keys) = some node) :
    node.samples = ((filter.passing (key :: keys) all).map Measured.count).sum ∧
      node.measurement =
        ((filter.passing (key :: keys) all).map Measured.value).foldl (· + ·) 0.0 := by
  have tallied : (filter.foldAll all .root).tallyAt? (key :: keys) = some node.tally := by
    rw [CallTree.tallyAt?, found, Option.map_some]
  rw [tallyAt?_foldAll_root] at tallied
  split at tallied
  · cases tallied
  · have sums : Tally.addAll {} (filter.passing (key :: keys) all) = node.tally :=
      Option.some.inj tallied
    have samples : 0 + ((filter.passing (key :: keys) all).map Measured.count).sum =
        node.samples := congrArg Tally.samples sums
    have measurement := congrArg Tally.measurement sums
    rw [Int.zero_add] at samples
    exact ⟨samples.symm, measurement.symm⟩

end FrameFilter

end Stackwatch

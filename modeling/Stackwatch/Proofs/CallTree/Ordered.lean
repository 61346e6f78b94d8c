import Stackwatch.CallTree.Basic

/-!
# Ordered call trees

The siblings of a call tree stand in the strict order of their keys. A change below a frame either
meets the child that stands under the frame's key or puts a new one into the gap between the smaller
keys and the greater ones. So it keeps the order, and it is seen under that key and no other.
-/

namespace Stackwatch

namespace CallTree

/-- Siblings are in the order of their keys, and no two of them have the same key, on every level of
    the tree. -/
inductive Ordered : CallTree → Prop where
  | node {frame : Frame} {measurement : Float} {samples : Int} {children : List CallTree}
      (sorted : children.Pairwise fun left right => left.key < right.key)
      (below : ∀ child ∈ children, Ordered child) :
      Ordered (.node frame measurement samples children)

/-- Siblings around the place of a key. -/
structure Parts (key : String) (before : List CallTree) (found? : Option CallTree)
    (after : List CallTree) : Prop where
  smaller : ∀ child ∈ before, child.key < key
  same : ∀ child ∈ found?, child.key = key
  greater : ∀ child ∈ after, key < child.key

namespace Parts

variable {key : String} {before after : List CallTree} {found? : Option CallTree}

theorem cons {child : CallTree} (parts : Parts key before found? after)
    (smaller : child.key < key) : Parts key (child :: before) found? after where
  smaller := List.forall_mem_cons.mpr ⟨smaller, parts.smaller⟩
  same := parts.same
  greater := parts.greater

/-- What is looked up is found at its place. -/
theorem find?_self (parts : Parts key before found? after) :
    (before ++ found?.toList ++ after).find? (·.key == key) = found? := by
  have notBefore : before.find? (·.key == key) = none := by
    rw [List.find?_eq_none]
    intro child member
    simpa using String.ne_of_lt (parts.smaller child member)
  have notAfter : after.find? (·.key == key) = none := by
    rw [List.find?_eq_none]
    intro child member
    simpa using (String.ne_of_lt (parts.greater child member)).symm
  cases found? with
  | none => simp [notBefore, notAfter]
  | some child =>
      have found : child.key = key := parts.same child rfl
      simp [notBefore, found]

/-- Under another key it makes no difference what stands at the place. -/
theorem find?_other (parts : Parts key before found? after) {other : String}
    (different : other ≠ key) :
    (before ++ found?.toList ++ after).find? (·.key == other) =
      (before ++ after).find? (·.key == other) := by
  cases found? with
  | none => simp
  | some child =>
      have found : child.key = key := parts.same child rfl
      simp [List.find?_append, found, Ne.symm different]

theorem sorted (parts : Parts key before found? after)
    (sortedBefore : before.Pairwise fun left right => left.key < right.key)
    (sortedAfter : after.Pairwise fun left right => left.key < right.key) :
    (before ++ found?.toList ++ after).Pairwise fun left right => left.key < right.key := by
  have across (left : CallTree) (leftMember : left ∈ before) (right : CallTree)
      (rightMember : right ∈ after) : left.key < right.key :=
    String.lt_trans (parts.smaller left leftMember) (parts.greater right rightMember)
  cases found? with
  | none =>
      rw [Option.toList_none, List.append_nil, List.pairwise_append]
      exact ⟨sortedBefore, sortedAfter, across⟩
  | some child =>
      have found : child.key = key := parts.same child rfl
      simp only [Option.toList_some, List.append_assoc, List.singleton_append,
        List.pairwise_append, List.pairwise_cons, List.forall_mem_cons, found]
      exact ⟨sortedBefore, ⟨parts.greater, sortedAfter⟩,
        fun left member => ⟨parts.smaller left member, across left member⟩⟩

/-- A changed child, or a new one, stands where the child stood. -/
theorem change {frame : Frame} (parts : Parts frame.key before found? after)
    {change : CallTree → CallTree} (keeps : ∀ child, (change child).key = child.key) :
    Parts frame.key before (some (change (found?.getD (leaf frame)))) after where
  smaller := parts.smaller
  same := by
    intro child isChanged
    cases isChanged
    rw [keeps]
    cases found? with
    | none => rfl
    | some child => exact parts.same child rfl
  greater := parts.greater

end Parts

/-! ### Changing a child -/

section Change

variable {frame : Frame} {change : CallTree → CallTree} {children : List CallTree}

/-- A change among ordered siblings is made at the place of the frame's key. -/
theorem updateAmong_eq (frame : Frame) (change : CallTree → CallTree)
    (sorted : children.Pairwise fun left right => left.key < right.key) :
    ∃ before found? after,
      Parts frame.key before found? after ∧
        children = before ++ found?.toList ++ after ∧
        updateAmong frame change children =
          before ++ (some (change (found?.getD (leaf frame)))).toList ++ after := by
  induction children with
  | nil => exact ⟨[], none, [], ⟨by simp, by simp, by simp⟩, rfl, rfl⟩
  | cons child rest inductionHypothesis =>
      obtain ⟨first, sortedRest⟩ := List.pairwise_cons.mp sorted
      by_cases less : frame.key < child.key
      · refine ⟨[], none, child :: rest, ⟨by simp, by simp, ?_⟩, rfl, by simp [updateAmong, less]⟩
        intro other member
        cases member with
        | head => exact less
        | tail _ later => exact String.lt_trans less (first other later)
      by_cases equal : frame.key = child.key
      · refine ⟨[], some child, rest, ⟨by simp, by simp [equal], ?_⟩, rfl, ?_⟩
        · rw [equal]
          exact first
        · simp [updateAmong, equal]
      · obtain ⟨before, found?, after, parts, split, changed⟩ := inductionHypothesis sortedRest
        have smaller : child.key < frame.key :=
          String.not_le.mp fun notSmaller => equal (String.le_antisymm notSmaller less)
        refine ⟨child :: before, found?, after, parts.cons smaller, ?_, ?_⟩
        · simp [split]
        · simp [updateAmong, less, equal, changed]

variable {tree : CallTree}

@[simp] theorem frame_updateChild : (tree.updateChild frame change).frame = tree.frame := by
  cases tree with
  | node own measurement samples children => rfl

@[simp] theorem measurement_updateChild :
    (tree.updateChild frame change).measurement = tree.measurement := by
  cases tree with
  | node own measurement samples children => rfl

@[simp] theorem samples_updateChild : (tree.updateChild frame change).samples = tree.samples := by
  cases tree with
  | node own measurement samples children => rfl

@[simp] theorem children_updateChild :
    (tree.updateChild frame change).children = updateAmong frame change tree.children := by
  cases tree with
  | node own measurement samples children => rfl

@[simp] theorem key_updateChild : (tree.updateChild frame change).key = tree.key := by
  simp [key]

end Change

section Record

variable (value : Float) (count : Int) (tree : CallTree)

@[simp] theorem frame_increment : (tree.increment value count).frame = tree.frame := by
  cases tree with
  | node own measurement samples children => rfl

@[simp] theorem measurement_increment :
    (tree.increment value count).measurement = tree.measurement + value := by
  cases tree with
  | node own measurement samples children => rfl

@[simp] theorem samples_increment :
    (tree.increment value count).samples = tree.samples + count := by
  cases tree with
  | node own measurement samples children => rfl

@[simp] theorem children_increment : (tree.increment value count).children = tree.children := by
  cases tree with
  | node own measurement samples children => rfl

@[simp] theorem key_increment : (tree.increment value count).key = tree.key := by
  simp [key]

variable (path : List Frame)

/-- What is recorded below a node leaves the node itself alone. -/
@[simp] theorem key_record : (record value count path tree).key = tree.key := by
  cases path with
  | nil => rfl
  | cons frame path => simp [record]

@[simp] theorem measurement_record :
    (record value count path tree).measurement = tree.measurement := by
  cases path with
  | nil => rfl
  | cons frame path => simp [record]

@[simp] theorem samples_record : (record value count path tree).samples = tree.samples := by
  cases path with
  | nil => rfl
  | cons frame path => simp [record]

end Record

/-- A change at the end of a path leaves the key of the node alone at which the path starts. -/
theorem key_modifyAt {change : CallTree → CallTree}
    (keeps : ∀ child, (change child).key = child.key) (path : List String) (tree : CallTree) :
    (tree.modifyAt change path).key = tree.key := by
  cases path with
  | nil => exact keeps tree
  | cons key path =>
      cases tree with
      | node frame measurement samples children => rfl

/-- A change at the end of a path is seen in the child with which the path begins, and in no other
    child. -/
theorem child?_modifyAt_cons {change : CallTree → CallTree}
    (keeps : ∀ child, (change child).key = child.key) (tree : CallTree) (key other : String)
    (path : List String) :
    (tree.modifyAt change (key :: path)).child? other =
      if key = other then (tree.child? other).map (modifyAt change path)
      else tree.child? other := by
  cases tree with
  | node frame measurement samples children =>
      have kept : (fun child : CallTree => child.key == other) ∘
          (fun child => if child.key = key then modifyAt change path child else child) =
            fun child => child.key == other := by
        funext child
        simp only [Function.comp_apply]
        split
        · rw [key_modifyAt keeps]
        · rfl
      simp only [modifyAt, child?, CallTree.children, List.find?_map, kept]
      cases found : children.find? (·.key == other) with
      | none => split <;> rfl
      | some child =>
          have same : child.key = other := by simpa using List.find?_some found
          rw [Option.map_some, same, Option.map_some]
          by_cases asked : other = key
          · rw [if_pos asked, if_pos asked.symm]
          · rw [if_neg asked, if_neg (Ne.symm asked)]

/-- A path is followed from where its beginning leads to. -/
theorem at?_append (tree : CallTree) (first second : List String) :
    tree.at? (first ++ second) = (tree.at? first).bind (at? second) := by
  induction first generalizing tree with
  | nil => rfl
  | cons key first inductionHypothesis =>
      simp only [List.cons_append, at?]
      cases tree.child? key with
      | none => rfl
      | some child => exact inductionHypothesis child

/-! ### The order is kept -/

namespace Ordered

variable {tree : CallTree} {frame : Frame} {change : CallTree → CallTree}

theorem sorted (ordered : tree.Ordered) :
    tree.children.Pairwise fun left right => left.key < right.key := by
  cases ordered with
  | node sorted below => exact sorted

theorem of_mem (ordered : tree.Ordered) : ∀ child ∈ tree.children, child.Ordered := by
  cases ordered with
  | node sorted below => exact below

theorem leaf (frame : Frame) : (leaf frame).Ordered := .node .nil (by simp)

theorem child? (ordered : tree.Ordered) {key : String} {child : CallTree}
    (found : tree.child? key = some child) : child.Ordered :=
  ordered.of_mem child (List.mem_of_find?_eq_some found)

/-- Under a key stands the child that has it. -/
theorem child?_eq_some_iff (ordered : tree.Ordered) {key : String} {child : CallTree} :
    tree.child? key = some child ↔ child ∈ tree.children ∧ child.key = key := by
  have sorted := ordered.sorted
  unfold CallTree.child?
  generalize tree.children = children at sorted
  induction children with
  | nil => simp
  | cons first rest inductionHypothesis =>
      obtain ⟨smaller, sortedRest⟩ := List.pairwise_cons.mp sorted
      rw [List.find?_cons, List.mem_cons]
      by_cases same : first.key = key
      · subst same
        simp only [beq_self_eq_true, Option.some.injEq]
        constructor
        · rintro rfl
          exact ⟨.inl rfl, rfl⟩
        · rintro ⟨rfl | later, same⟩
          · rfl
          · exact absurd same.symm (String.ne_of_lt (smaller child later))
      · rw [beq_eq_false_iff_ne.mpr same]
        simp only [inductionHypothesis sortedRest]
        constructor
        · exact fun both => ⟨.inr both.1, both.2⟩
        · rintro ⟨rfl | later, found⟩
          · exact absurd found same
          · exact ⟨later, found⟩

theorem at? {node : CallTree} (ordered : tree.Ordered) {place : List String}
    (stands : tree.at? place = some node) : node.Ordered := by
  induction place generalizing tree with
  | nil =>
      cases stands
      exact ordered
  | cons key place inductionHypothesis =>
      obtain ⟨child, found, below⟩ := Option.bind_eq_some_iff.mp stands
      exact inductionHypothesis (ordered.child? found) below

/-- The changed child is the one that stood under the key, or a new one. -/
theorem child?_updateChild_self (ordered : tree.Ordered)
    (keeps : ∀ child, (change child).key = child.key) :
    (tree.updateChild frame change).child? frame.key =
      some (change ((tree.child? frame.key).getD (.leaf frame))) := by
  obtain ⟨before, found?, after, parts, split, changed⟩ :=
    updateAmong_eq frame change ordered.sorted
  have found : tree.child? frame.key = found? := by
    rw [CallTree.child?, split]
    exact parts.find?_self
  rw [found, CallTree.child?, children_updateChild, changed]
  exact (parts.change keeps).find?_self

/-- A change below a frame is not seen under another key. -/
theorem child?_updateChild_other (ordered : tree.Ordered)
    (keeps : ∀ child, (change child).key = child.key) {key : String} (different : key ≠ frame.key) :
    (tree.updateChild frame change).child? key = tree.child? key := by
  obtain ⟨before, found?, after, parts, split, changed⟩ :=
    updateAmong_eq frame change ordered.sorted
  rw [CallTree.child?, CallTree.child?, children_updateChild, changed, split,
    parts.find?_other different]
  exact (parts.change keeps).find?_other different

theorem updateChild (ordered : tree.Ordered) (keeps : ∀ child, (change child).key = child.key)
    (orders : ∀ child, child.Ordered → (change child).Ordered) :
    (tree.updateChild frame change).Ordered := by
  cases ordered with
  | @node own measurement samples children sorted below =>
      obtain ⟨before, found?, after, parts, rfl, changed⟩ := updateAmong_eq frame change sorted
      obtain ⟨sortedBefore, sortedAfter⟩ :
          (before.Pairwise fun left right => left.key < right.key) ∧
            after.Pairwise fun left right => left.key < right.key := by
        obtain ⟨firstTwo, last, -⟩ := List.pairwise_append.mp sorted
        exact ⟨(List.pairwise_append.mp firstTwo).1, last⟩
      refine .node ?_ ?_
      · rw [changed]
        exact (parts.change keeps).sorted sortedBefore sortedAfter
      · rw [changed]
        intro child member
        simp only [Option.toList_some, List.append_assoc, List.mem_append,
          List.mem_singleton] at member
        rcases member with earlier | rfl | later
        · exact below child (by simp [earlier])
        · refine orders _ ?_
          cases found? with
          | none => exact .leaf frame
          | some old => exact below old (by simp)
        · exact below child (by simp [later])

theorem addChild (ordered : tree.Ordered) (frame : Frame) :
    (tree.addChild frame).Ordered :=
  ordered.updateChild (fun _ => rfl) fun _ ordered => ordered

/-- Who asks for a child gets the one that is there, or a new one; all others stay. -/
theorem child?_addChild (ordered : tree.Ordered) (frame : Frame)
    (key : String) :
    (tree.addChild frame).child? key =
      (tree.child? key).or (if frame.key = key then some (.leaf frame) else none) := by
  by_cases same : key = frame.key
  · subst same
    have found : (tree.updateChild frame id).child? frame.key =
        some ((tree.child? frame.key).getD (.leaf frame)) :=
      ordered.child?_updateChild_self fun _ => rfl
    rw [CallTree.addChild, found, if_pos rfl]
    cases tree.child? frame.key <;> rfl
  · have spared : (tree.updateChild frame id).child? key = tree.child? key :=
      ordered.child?_updateChild_other (fun _ => rfl) same
    rw [CallTree.addChild, spared, if_neg (Ne.symm same), Option.or_none]

theorem increment (ordered : tree.Ordered) (value : Float) (count : Int) :
    (tree.increment value count).Ordered := by
  cases ordered with
  | node sorted below => exact .node sorted below

theorem record (ordered : tree.Ordered) (value : Float) (count : Int) (path : List Frame) :
    (tree.record value count path).Ordered := by
  induction path generalizing tree with
  | nil => exact ordered
  | cons frame path inductionHypothesis =>
      refine ordered.updateChild (by simp) ?_
      intro child ordered
      exact inductionHypothesis (ordered.increment value count)

theorem modifyAt (ordered : tree.Ordered) (keeps : ∀ child, (change child).key = child.key)
    (orders : ∀ child, child.Ordered → (change child).Ordered) (path : List String) :
    (tree.modifyAt change path).Ordered := by
  induction path generalizing tree with
  | nil => exact orders tree ordered
  | cons key path inductionHypothesis =>
      cases ordered with
      | @node own measurement samples children sorted below =>
          have kept (child : CallTree) :
              (if child.key = key then child.modifyAt change path else child).key = child.key := by
            split
            · exact key_modifyAt keeps path child
            · rfl
          refine .node ?_ ?_
          · simpa only [List.pairwise_map, kept] using sorted
          · intro child member
            obtain ⟨old, oldMember, rfl⟩ := List.mem_map.mp member
            split
            · exact inductionHypothesis (below old oldMember)
            · exact below old oldMember

end Ordered

end CallTree

end Stackwatch

import Stackwatch.Proofs.CallTree.Ordered

/-!
# Searching a call tree

A search for a function goes down before it goes on to the next sibling. What it does is told here
by a listing of all nodes below the node from which it starts: callers stand before callees, and a
sibling with all that is below it before the next one. The paths of the listing are in the order of
words whose letters are keys, so the listing is settled by the nodes that are there. The main
statement is that the search finds the first node of the listing that has the name, and none exactly
if no node below has it.
-/

namespace Stackwatch

namespace CallTree

/-! ### All nodes below a node -/

/-- A node below a child, with the path that leads to it from the parent. -/
def under (key : String) (entry : List String × CallTree) : List String × CallTree :=
  (key :: entry.1, entry.2)

mutual

/-- All nodes below a node, each with the path that leads to it: callers before callees, siblings in
    the order in which the node holds them. -/
def descendants : CallTree → List (List String × CallTree)
  | .node _ _ _ children => descendantsAmong children

def descendantsAmong : List CallTree → List (List String × CallTree)
  | [] => []
  | child :: rest =>
      ([child.key], child) :: (descendants child).map (under child.key) ++ descendantsAmong rest

end

theorem descendantsAmong_eq (children : List CallTree) :
    descendantsAmong children =
      children.flatMap fun child =>
        ([child.key], child) :: child.descendants.map (under child.key) := by
  induction children with
  | nil => rfl
  | cons child rest inductionHypothesis =>
      rw [descendantsAmong, inductionHypothesis, List.flatMap_cons]

theorem descendants_eq (tree : CallTree) :
    tree.descendants =
      tree.children.flatMap fun child =>
        ([child.key], child) :: child.descendants.map (under child.key) := by
  cases tree with
  | node frame measurement samples children => exact descendantsAmong_eq children

/-! ### The search -/

mutual

/-- The search stops at the first node of the listing that has the name. -/
theorem findDescendant?_eq (function : String) : (tree : CallTree) →
    tree.findDescendant? function =
      (tree.descendants.find? fun entry => entry.2.frame.function = function).map Prod.fst
  | .node _ _ _ children => findAmong?_eq function children

theorem findAmong?_eq (function : String) : (children : List CallTree) →
    findAmong? function children =
      ((descendantsAmong children).find? fun entry =>
        entry.2.frame.function = function).map Prod.fst
  | [] => rfl
  | child :: rest => by
      rw [findAmong?, descendantsAmong, List.cons_append, List.find?_cons]
      by_cases here : child.frame.function = function
      · simp only [here, if_true, decide_true, Option.map_some]
      · simp only [here, if_false, decide_false, List.find?_append, List.find?_map]
        rw [findDescendant?_eq function child, findAmong?_eq function rest]
        have named : (fun entry : List String × CallTree =>
            decide (entry.2.frame.function = function)) ∘ under child.key =
              fun entry => decide (entry.2.frame.function = function) := rfl
        rw [named]
        cases child.descendants.find? fun entry => entry.2.frame.function = function <;> rfl

end

/-! ### The listing -/

section Listing

variable {tree : CallTree} {entry : List String × CallTree}

theorem mem_descendants :
    entry ∈ tree.descendants ↔
      ∃ child ∈ tree.children,
        entry = ([child.key], child) ∨
          ∃ lower ∈ child.descendants, entry = under child.key lower := by
  rw [descendants_eq]
  simp only [List.mem_flatMap, List.mem_cons, List.mem_map, eq_comm (a := entry)]

theorem path_ne_nil (listed : entry ∈ tree.descendants) : entry.1 ≠ [] := by
  obtain ⟨child, -, rfl | ⟨lower, -, rfl⟩⟩ := mem_descendants.mp listed
  · exact List.cons_ne_nil child.key []
  · exact List.cons_ne_nil child.key lower.1

/-- The listing has every node below under the path that leads to it, and nothing else. -/
theorem Ordered.mem_descendants_iff (ordered : tree.Ordered) {path : List String}
    {found : CallTree} :
    (path, found) ∈ tree.descendants ↔ path ≠ [] ∧ tree.at? path = some found := by
  induction path generalizing tree with
  | nil => exact ⟨fun listed => absurd rfl (path_ne_nil listed), fun both => absurd rfl both.1⟩
  | cons key path inductionHypothesis =>
      have deeper {child : CallTree} (member : child ∈ tree.children) :
          (path, found) ∈ child.descendants ↔ path ≠ [] ∧ child.at? path = some found :=
        inductionHypothesis (ordered.of_mem child member)
      constructor
      · intro listed
        obtain ⟨child, member, is | ⟨⟨lowerPath, lower⟩, lowerListed, is⟩⟩ :=
          mem_descendants.mp listed
        · cases is
          refine ⟨List.cons_ne_nil _ _, ?_⟩
          rw [CallTree.at?, ordered.child?_eq_some_iff.mpr ⟨member, rfl⟩]
          rfl
        · cases is
          refine ⟨List.cons_ne_nil _ _, ?_⟩
          rw [CallTree.at?, ordered.child?_eq_some_iff.mpr ⟨member, rfl⟩]
          exact ((deeper member).mp lowerListed).2
      · rintro ⟨-, stands⟩
        obtain ⟨child, standsFirst, below⟩ := Option.bind_eq_some_iff.mp stands
        obtain ⟨member, rfl⟩ := ordered.child?_eq_some_iff.mp standsFirst
        refine mem_descendants.mpr ⟨child, member, ?_⟩
        cases path with
        | nil =>
            cases below
            exact .inl rfl
        | cons next path =>
            exact .inr ⟨_, (deeper member).mpr ⟨List.cons_ne_nil _ _, below⟩, rfl⟩

/-- The paths of the listing are in the order of words whose letters are keys: a beginning comes
    before what it is the beginning of, and else the first keys that differ decide. -/
theorem Ordered.pairwise_descendants (ordered : tree.Ordered) :
    tree.descendants.Pairwise fun earlier later => List.Lex (· < ·) earlier.1 later.1 := by
  induction ordered with
  | @node frame measurement samples children sorted below inductionHypothesis =>
      rw [descendants_eq, List.pairwise_flatMap]
      constructor
      · intro child member
        rw [List.pairwise_cons, List.pairwise_map]
        constructor
        · intro entry listed
          obtain ⟨lower, lowerListed, rfl⟩ := List.mem_map.mp listed
          obtain ⟨next, path, same⟩ := List.exists_cons_of_ne_nil (path_ne_nil lowerListed)
          rw [under, same]
          exact .cons .nil
        · exact (inductionHypothesis child member).imp fun precedes => .cons precedes
      · refine sorted.imp ?_
        intro left right less
        have firstKey {child : CallTree} {entry : List String × CallTree}
            (listed : entry ∈ ([child.key], child) :: child.descendants.map (under child.key)) :
            ∃ path, entry.1 = child.key :: path := by
          rcases List.mem_cons.mp listed with rfl | further
          · exact ⟨[], rfl⟩
          · obtain ⟨lower, -, rfl⟩ := List.mem_map.mp further
            exact ⟨lower.1, rfl⟩
        intro earlier listedEarlier later listedLater
        obtain ⟨_, sameEarlier⟩ := firstKey listedEarlier
        obtain ⟨_, sameLater⟩ := firstKey listedLater
        rw [sameEarlier, sameLater]
        exact .rel less

/-! ### What is found -/

variable {function : String} {path : List String}

/-- No node has the name if nothing is found. -/
theorem Ordered.findDescendant?_eq_none_iff (ordered : tree.Ordered) :
    tree.findDescendant? function = none ↔
      ∀ path found, path ≠ [] → tree.at? path = some found → found.frame.function ≠ function := by
  rw [findDescendant?_eq, Option.map_eq_none_iff, List.find?_eq_none]
  constructor
  · intro without path found proper stands
    simpa using without (path, found) (ordered.mem_descendants_iff.mpr ⟨proper, stands⟩)
  · rintro without ⟨path, found⟩ listed
    obtain ⟨proper, stands⟩ := ordered.mem_descendants_iff.mp listed
    simpa using without path found proper stands

/-- What is found has the name, and comes before all else that has it. -/
theorem Ordered.first_of_findDescendant? (ordered : tree.Ordered)
    (result : tree.findDescendant? function = some path) :
    path ≠ [] ∧ (∃ found, tree.at? path = some found ∧ found.frame.function = function) ∧
      ∀ other found, other ≠ [] → tree.at? other = some found →
        found.frame.function = function → other = path ∨ List.Lex (· < ·) path other := by
  rw [findDescendant?_eq] at result
  obtain ⟨⟨path, found⟩, first, rfl⟩ := Option.map_eq_some_iff.mp result
  obtain ⟨named, before, after, split, without⟩ := List.find?_eq_some_iff_append.mp first
  have listed : (path, found) ∈ tree.descendants := by simp [split]
  obtain ⟨proper, stands⟩ := ordered.mem_descendants_iff.mp listed
  refine ⟨proper, ⟨found, stands, by simpa using named⟩, ?_⟩
  intro other rival otherProper otherStands otherNamed
  have otherListed := ordered.mem_descendants_iff.mpr ⟨otherProper, otherStands⟩
  rw [split, List.mem_append, List.mem_cons] at otherListed
  rcases otherListed with earlier | same | later
  · exact absurd otherNamed (by simpa using without _ earlier)
  · exact .inl (congrArg Prod.fst same)
  · have sorted := ordered.pairwise_descendants
    rw [split, List.pairwise_append, List.pairwise_cons] at sorted
    exact .inr (sorted.2.1.1 _ later)

end Listing

/-- A search goes through the nodes below in the order of their paths, a beginning before what it
    is the beginning of, and ends at the first that has the name; it finds nothing exactly if no
    node below has it, however deep. The node from which it starts is never found. -/
theorem findDescendant?_first_in_preorder (tree : CallTree) (ordered : tree.Ordered)
    (place : List String) (node : CallTree) (stands : tree.at? place = some node)
    (function : String) :
    (node.descendants.Pairwise fun earlier later => List.Lex (· < ·) earlier.1 later.1) ∧
      (∀ path found, (path, found) ∈ node.descendants ↔
        path ≠ [] ∧ tree.at? (place ++ path) = some found) ∧
      node.findDescendant? function =
        (node.descendants.find? fun entry => entry.2.frame.function = function).map Prod.fst ∧
      (∀ path, node.findDescendant? function = some path →
        place ++ path ≠ place ∧
          (∃ found, tree.at? (place ++ path) = some found ∧ found.frame.function = function) ∧
          ∀ other found, other ≠ [] → tree.at? (place ++ other) = some found →
            found.frame.function = function → other = path ∨ List.Lex (· < ·) path other) ∧
      (node.findDescendant? function = none ↔
        ∀ path found, path ≠ [] → tree.at? (place ++ path) = some found →
          found.frame.function ≠ function) := by
  have nodeOrdered : node.Ordered := ordered.at? stands
  have below (path : List String) : tree.at? (place ++ path) = node.at? path := by
    rw [at?_append, stands]
    rfl
  simp only [below]
  refine ⟨nodeOrdered.pairwise_descendants, fun _ _ => nodeOrdered.mem_descendants_iff,
    findDescendant?_eq function node, ?_, nodeOrdered.findDescendant?_eq_none_iff⟩
  intro path result
  obtain ⟨proper, found, first⟩ := nodeOrdered.first_of_findDescendant? result
  exact ⟨fun same => proper (List.append_right_eq_self.mp same), found, first⟩

/-- A program that reads at several depths, and the entry of which calls itself. -/
def busyTree : CallTree :=
  let enter : Frame := { function := "main", file := "main.rs", line := 1 }
  let accept : Frame := { function := "accept", file := "net.rs", line := 5 }
  let poll : Frame := { function := "poll", file := "net.rs", line := 8 }
  let read (line : Int) : Frame := { function := "read", file := "io.rs", line := line }
  [[enter, read 3, read 4], [enter, enter], [enter, accept, poll, read 9]].foldl
    (fun tree path => tree.record 1.0 1 path) root

/-- The deepest node of three is found, since its path comes first; the entry finds the call of
    itself and not itself. -/
theorem findDescendant?_first_in_preorder_deep :
    busyTree.Ordered ∧ ∃ node, busyTree.at? ["main (main.rs:1)"] = some node ∧
      node.findDescendant? "read" =
        some ["accept (net.rs:5)", "poll (net.rs:8)", "read (io.rs:9)"] ∧
      (∀ other found, other ≠ [] → busyTree.at? ("main (main.rs:1)" :: other) = some found →
        found.frame.function = "read" →
          other = ["accept (net.rs:5)", "poll (net.rs:8)", "read (io.rs:9)"] ∨
            List.Lex (· < ·) ["accept (net.rs:5)", "poll (net.rs:8)", "read (io.rs:9)"] other) ∧
      node.findDescendant? "main" = some ["main (main.rs:1)"] ∧
      ∀ path found, path ≠ [] → busyTree.at? ("main (main.rs:1)" :: path) = some found →
        found.frame.function ≠ "write" := by
  have ordered : busyTree.Ordered :=
    (((Ordered.leaf _).record 1.0 1 _).record 1.0 1 _).record 1.0 1 _
  refine ⟨ordered, _, rfl, by decide, ?_, by decide, ?_⟩
  · obtain ⟨-, -, -, first, -⟩ :=
      findDescendant?_first_in_preorder busyTree ordered ["main (main.rs:1)"] _ rfl "read"
    exact (first _ (by decide)).2.2
  · obtain ⟨-, -, -, -, without⟩ :=
      findDescendant?_first_in_preorder busyTree ordered ["main (main.rs:1)"] _ rfl "write"
    exact without.mp (by decide)

end CallTree

end Stackwatch

import Stackwatch.Proofs.CallTree.Aggregation
import Stackwatch.Proofs.Text.ByteOrder

/-!
# Nodes of a growing call tree

A call tree grows by calls on its nodes: a node is asked for a child, which is added if there is
none, or something is added to its numbers. A node is known by the path of keys that leads to it.
The main statement says of every tree that comes of such calls, in whatever order and on whatever
nodes, that children stand under their own keys in the order of these keys' bytes, that a node stays
where it is with its frame and all that was ever added to its numbers, that who asks for a child
again gets the same one, and that a call leaves all other nodes as they are.
-/

namespace Stackwatch

namespace CallTree

/-- What can be done to a node. -/
inductive Operation where
  /-- Asks for the child of a frame. -/
  | add (frame : Frame)
  | increment (value : Float) (count : Int)

/-- An operation on the node to which a path of keys leads. -/
structure Call where
  place : List String
  operation : Operation

namespace Operation

/-- The node after the operation. -/
def on : Operation → CallTree → CallTree
  | .add frame => addChild frame
  | .increment value count => CallTree.increment value count

/-- The numbers of the node after the operation. -/
def tallied : Operation → Tally → Tally
  | .add _, tally => tally
  | .increment value count, tally => tally.add value count

variable {node : CallTree} (operation : Operation)

theorem frame_on : (operation.on node).frame = node.frame := by
  cases operation with
  | add frame => exact frame_updateChild
  | increment value count => exact frame_increment value count node

theorem key_on : (operation.on node).key = node.key := congrArg Frame.key operation.frame_on

theorem tally_on : (operation.on node).tally = operation.tallied node.tally := by
  cases operation with
  | add frame => simp [on, tallied, tally, addChild]
  | increment value count => exact tally_increment value count node

theorem ordered_on (ordered : node.Ordered) : (operation.on node).Ordered := by
  cases operation with
  | add frame => exact ordered.addChild frame
  | increment value count => exact ordered.increment value count

/-- The children that are there are not touched. -/
theorem child?_on (ordered : node.Ordered) {key : String} {child : CallTree}
    (found : node.child? key = some child) : (operation.on node).child? key = some child := by
  cases operation with
  | add frame =>
      have grown := ordered.child?_addChild frame key
      rw [found] at grown
      exact grown
  | increment value count =>
      have same : (node.increment value count).children = node.children :=
        children_increment value count node
      rw [on, child?, same]
      exact found

end Operation

/-- The tree after a call; nothing happens if no node stands at the place. -/
def call (tree : CallTree) (call : Call) : CallTree :=
  tree.modifyAt call.operation.on call.place

/-- The tree after some calls, in their order. -/
def run (tree : CallTree) (calls : List Call) : CallTree := calls.foldl CallTree.call tree

/-- The numbers that a node has after some calls: those that it had, and what calls on itself
    added. -/
def tallyAfter (place : List String) (tally : Tally) (calls : List Call) : Tally :=
  calls.foldl
    (fun tally call => if call.place = place then call.operation.tallied tally else tally) tally

/-! ### One call -/

section Call

variable {tree node : CallTree} {place : List String}

theorem Ordered.call (ordered : tree.Ordered) (call : Call) : (tree.call call).Ordered :=
  ordered.modifyAt (fun _ => call.operation.key_on) (fun _ => call.operation.ordered_on) call.place

theorem at?_singleton (tree : CallTree) (key : String) : tree.at? [key] = tree.child? key := by
  rw [at?]
  cases tree.child? key <;> rfl

/-- The node that is called is changed by the operation. -/
theorem at?_modifyAt_self {change : CallTree → CallTree}
    (keeps : ∀ child, (change child).key = child.key) (stands : tree.at? place = some node) :
    (tree.modifyAt change place).at? place = some (change node) := by
  induction place generalizing tree with
  | nil =>
      cases stands
      rfl
  | cons key path inductionHypothesis =>
      obtain ⟨child, found, below⟩ := Option.bind_eq_some_iff.mp stands
      rw [at?, child?_modifyAt_cons keeps, if_pos rfl, found]
      exact inductionHypothesis below

/-- What a node holds itself is the same before and after. -/
structure Spared (before after : CallTree) : Prop where
  frame : after.frame = before.frame
  tally : after.tally = before.tally
  callees : after.children.map CallTree.frame = before.children.map CallTree.frame

theorem Spared.refl (tree : CallTree) : Spared tree tree := ⟨rfl, rfl, rfl⟩

theorem frame_modifyAt {change : CallTree → CallTree}
    (keeps : ∀ node, (change node).frame = node.frame) (path : List String) (tree : CallTree) :
    (tree.modifyAt change path).frame = tree.frame := by
  cases path with
  | nil => exact keeps tree
  | cons key path =>
      cases tree with
      | node frame measurement samples children => rfl

/-- A change below a node does not change what the node holds itself. -/
theorem spared_modifyAt_cons {change : CallTree → CallTree}
    (keeps : ∀ node, (change node).frame = node.frame) (tree : CallTree) (key : String)
    (path : List String) : Spared tree (tree.modifyAt change (key :: path)) := by
  cases tree with
  | node frame measurement samples children =>
      refine ⟨rfl, rfl, ?_⟩
      simp only [modifyAt, CallTree.children, List.map_map]
      apply List.map_congr_left
      intro child _
      simp only [Function.comp_apply]
      split
      · exact frame_modifyAt keeps path child
      · rfl

/-- A call leaves every other node as it is. -/
theorem exists_spared (ordered : tree.Ordered) (call : Call)
    (elsewhere : call.place ≠ place) (stands : tree.at? place = some node) :
    ∃ after, (tree.call call).at? place = some after ∧ Spared node after := by
  obtain ⟨called, operation⟩ := call
  simp only [call] at elsewhere ⊢
  induction called generalizing tree place with
  | nil =>
      cases place with
      | nil => exact absurd rfl elsewhere
      | cons key path =>
          obtain ⟨child, found, below⟩ := Option.bind_eq_some_iff.mp stands
          refine ⟨node, ?_, .refl node⟩
          rw [modifyAt, at?, operation.child?_on ordered found]
          exact below
  | cons first called inductionHypothesis =>
      cases place with
      | nil =>
          cases stands
          exact ⟨_, rfl, spared_modifyAt_cons (fun _ => operation.frame_on) node first called⟩
      | cons key path =>
          obtain ⟨child, found, below⟩ := Option.bind_eq_some_iff.mp stands
          rw [at?, child?_modifyAt_cons fun _ => operation.key_on]
          by_cases same : first = key
          · rw [if_pos same, found]
            refine inductionHypothesis (ordered.child? found) below ?_
            rintro rfl
            exact elsewhere (by rw [same])
          · rw [if_neg same, found]
            exact ⟨node, below, .refl node⟩

/-- A child that is there is not added again. -/
theorem addChild_eq_self (ordered : node.Ordered) {frame : Frame} {child : CallTree}
    (found : node.child? frame.key = some child) : node.addChild frame = node := by
  cases node with
  | node own measurement samples children =>
      have sorted : children.Pairwise fun left right => left.key < right.key := ordered.sorted
      obtain ⟨before, found?, after, parts, split, changed⟩ := updateAmong_eq frame id sorted
      rw [child?, CallTree.children, split, parts.find?_self] at found
      subst found
      exact congrArg (CallTree.node own measurement samples) (changed.trans split.symm)

/-- Where a change changes nothing, the tree is not changed. -/
theorem modifyAt_eq_self (ordered : tree.Ordered) {change : CallTree → CallTree}
    (stands : tree.at? place = some node) (idle : change node = node) :
    tree.modifyAt change place = tree := by
  induction place generalizing tree with
  | nil =>
      cases stands
      exact idle
  | cons key path inductionHypothesis =>
      obtain ⟨child, found, below⟩ := Option.bind_eq_some_iff.mp stands
      have unchanged (other : CallTree) (member : other ∈ tree.children) :
          (if other.key = key then other.modifyAt change path else other) = other := by
        split
        · next same =>
            have one : tree.child? key = some other :=
              ordered.child?_eq_some_iff.mpr ⟨member, same⟩
            obtain rfl : child = other := Option.some.inj (found.symm.trans one)
            exact inductionHypothesis (ordered.child? found) below
        · rfl
      cases tree with
      | node frame measurement samples children =>
          exact congrArg (CallTree.node frame measurement samples)
            ((List.map_congr_left unchanged).trans (List.map_id' children))

/-- Who asks again for a child that is there changes nothing. -/
theorem call_add_eq_self (ordered : tree.Ordered) {frame : Frame} {child : CallTree}
    (stands : tree.at? place = some node) (found : node.child? frame.key = some child) :
    tree.call ⟨place, .add frame⟩ = tree :=
  modifyAt_eq_self ordered stands (addChild_eq_self (ordered.at? stands) found)

/-- Who asks for a child gets the one that is there, or a new one. -/
theorem at?_call_add (ordered : tree.Ordered) (stands : tree.at? place = some node)
    (frame : Frame) :
    (tree.call ⟨place, .add frame⟩).at? (place ++ [frame.key]) =
      some ((node.child? frame.key).getD (leaf frame)) := by
  have parent : (tree.call ⟨place, .add frame⟩).at? place = some (node.addChild frame) :=
    at?_modifyAt_self (fun _ => (Operation.add frame).key_on) stands
  have nodeOrdered : node.Ordered := ordered.at? stands
  rw [at?_append, parent, Option.bind_some, at?_singleton, nodeOrdered.child?_addChild, if_pos rfl]
  cases node.child? frame.key <;> rfl

end Call

/-! ### Many calls -/

section Run

variable {tree node : CallTree} {place : List String}

theorem Ordered.run (ordered : tree.Ordered) (calls : List Call) : (tree.run calls).Ordered := by
  induction calls generalizing tree with
  | nil => exact ordered
  | cons first rest inductionHypothesis => exact inductionHypothesis (ordered.call first)

/-- A node stays where it is with its frame, and its numbers grow by what calls on it add. -/
theorem exists_at?_call (ordered : tree.Ordered) (stands : tree.at? place = some node)
    (call : Call) :
    ∃ after, (tree.call call).at? place = some after ∧ after.frame = node.frame ∧
      after.tally = tallyAfter place node.tally [call] := by
  by_cases here : call.place = place
  · subst here
    refine ⟨call.operation.on node, ?_, call.operation.frame_on, ?_⟩
    · exact at?_modifyAt_self (fun _ => call.operation.key_on) stands
    · rw [call.operation.tally_on]
      simp [tallyAfter]
  · obtain ⟨after, found, spared⟩ := exists_spared ordered call here stands
    refine ⟨after, found, spared.frame, ?_⟩
    rw [spared.tally]
    simp [tallyAfter, here]

theorem exists_at?_run (ordered : tree.Ordered) (stands : tree.at? place = some node)
    (calls : List Call) :
    ∃ after, (tree.run calls).at? place = some after ∧ after.frame = node.frame ∧
      after.tally = tallyAfter place node.tally calls := by
  induction calls generalizing tree node with
  | nil => exact ⟨node, stands, rfl, rfl⟩
  | cons first rest inductionHypothesis =>
      obtain ⟨next, nextStands, nextFrame, nextTally⟩ := exists_at?_call ordered stands first
      obtain ⟨after, afterStands, afterFrame, afterTally⟩ :=
        inductionHypothesis (ordered.call first) nextStands
      refine ⟨after, afterStands, afterFrame.trans nextFrame, ?_⟩
      rw [afterTally, nextTally]
      rfl

/-- A child that was asked for stays, and who asks again gets it without a change. -/
theorem run_call_add (ordered : tree.Ordered) (stands : tree.at? place = some node)
    (frame : Frame) (later : List Call) :
    let child := (node.child? frame.key).getD (leaf frame)
    let grown := (tree.call ⟨place, .add frame⟩).run later
    grown.call ⟨place, .add frame⟩ = grown ∧
      ∃ same, grown.at? (place ++ [frame.key]) = some same ∧ same.frame = child.frame ∧
        same.tally = tallyAfter (place ++ [frame.key]) child.tally later := by
  intro child grown
  have asked : (tree.call ⟨place, .add frame⟩).Ordered := ordered.call _
  obtain ⟨same, sameStands, kept⟩ :=
    exists_at?_run asked (at?_call_add ordered stands frame) later
  refine ⟨?_, same, sameStands, kept⟩
  rw [at?_append] at sameStands
  obtain ⟨parent, parentStands, below⟩ := Option.bind_eq_some_iff.mp sameStands
  rw [at?_singleton] at below
  exact call_add_eq_self (asked.run later) parentStands below

end Run

/-- Frames with keys that are told apart by their first characters, of one byte, two and four. -/
def oneByte : Frame := { function := "z", file := "a.rs", line := 1 }

def twoBytes : Frame := { function := "é", file := "a.rs", line := 1 }

def fourBytes : Frame := { function := "𝒳", file := "a.rs", line := 1 }

/-- Children are asked for in the descending order of their keys, and numbers are added to nodes
    in between. -/
def growingCalls : List Call :=
  [⟨[], .add fourBytes⟩, ⟨[fourBytes.key], .increment 1.0 2⟩, ⟨[], .add twoBytes⟩,
    ⟨[], .increment 1.0 9⟩, ⟨[fourBytes.key], .add oneByte⟩, ⟨[], .add oneByte⟩]

/-- Two of these calls are on the child, one on its parent, and one on a child of the child. -/
def laterCalls : List Call :=
  [⟨[fourBytes.key], .increment 0.5 3⟩, ⟨[], .increment 1.0 1⟩,
    ⟨[fourBytes.key, oneByte.key], .increment 1.0 7⟩, ⟨[fourBytes.key], .add twoBytes⟩]

end CallTree

end Stackwatch

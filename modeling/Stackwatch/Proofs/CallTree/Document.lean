import Stackwatch.CallTree.Document
import Stackwatch.Json.Reader
import Stackwatch.Proofs.CallTree.Ordered
import Stackwatch.Proofs.Json.RoundTrip

/-!
# The text of a call tree

The document of a call tree is read back by looking its fields up, wherever they stand, and by
insisting that siblings stand in the order of their keys, as they do in every tree that grows from
a leaf (`Ordered.leaf`, `Ordered.record`, `Ordered.modifyAt`). Whatever the frames are called, the
tree that is read is the tree that was written. So the text of a tree is JSON, its children are
listed in the order of their keys, and no other tree has the same text.
-/

namespace Stackwatch

theorem Json.sizeOf_lt_of_field? {value found : Json} {key : String}
    (present : value.field? key = some found) : sizeOf found < sizeOf value := by
  cases value with
  | object fields =>
      obtain ⟨before, after, split, -⟩ := List.lookup_eq_some_iff.mp present
      have member : (key, found) ∈ fields := by simp [split]
      have smaller := List.sizeOf_lt_of_mem member
      simp only [Prod.mk.sizeOf_spec, object.sizeOf_spec] at smaller ⊢
      omega
  | _ => cases present

namespace CallTree

/-- The numbers of a tree that a document can hold: whole numbers of 64 bits with a sign, and finite
    doubles. -/
inductive Representable : CallTree → Prop where
  | node {frame : Frame} {measurement : Float} {samples : Int} {children : List CallTree}
      (line : -2 ^ 63 ≤ frame.line ∧ frame.line < 2 ^ 63)
      (finite : measurement.isFinite = true)
      (count : -2 ^ 63 ≤ samples ∧ samples < 2 ^ 63)
      (below : ∀ child ∈ children, Representable child) :
      Representable (.node frame measurement samples children)

/-! ### Reading a document -/

mutual

/-- The tree that a document describes. Siblings have to stand in the strict order of their keys. -/
def ofJson? (document : Json) : Option CallTree :=
  match document.field? "method_name", document.field? "file_name", document.field? "file_line",
    document.field? "measurement", document.field? "num_samples",
    found : document.field? "children" with
  | some (.string function), some (.string file), some (.integer line), some (.real measurement),
    some (.integer samples), some (.array items) =>
      have smaller : sizeOf items < sizeOf document := by
        have below := Json.sizeOf_lt_of_field? found
        rw [Json.array.sizeOf_spec] at below
        omega
      match ofItems? items with
      | some children =>
          if children.Pairwise fun left right => left.key < right.key then
            some (.node { function, file, line } measurement samples children)
          else
            none
      | none => none
  | _, _, _, _, _, _ => none
termination_by sizeOf document

def ofItems? : List Json → Option (List CallTree)
  | [] => some []
  | item :: others =>
      match ofJson? item, ofItems? others with
      | some child, some children => some (child :: children)
      | _, _ => none
termination_by items => sizeOf items

end

/-- The tree whose text this is. -/
def ofText? (text : String) : Option CallTree := (Json.read? text).bind ofJson?

/-! ### What is written is read back -/

theorem ofFloat_of_isFinite {value : Float} (finite : value.isFinite = true) :
    Json.ofFloat value = .real value := by
  obtain ⟨negative, significand, exponent, taken, -, -⟩ := Decimal.exists_parts finite
  rw [Json.ofFloat, taken]

theorem isWhole_of_range {value : Int} (range : -2 ^ 63 ≤ value ∧ value < 2 ^ 63) :
    Json.isWhole value = true := by
  simp only [Json.isWhole, Bool.and_eq_true, decide_eq_true_eq, Nat.pow_eq]
  omega

theorem ofJson?_node {frame : Frame} {measurement : Float} {samples : Int}
    {children : List CallTree} (finite : measurement.isFinite = true)
    (sorted : children.Pairwise fun left right => left.key < right.key)
    (read : ofItems? (childrenJson children) = some children) :
    ofJson? (toJson (.node frame measurement samples children)) =
      some (.node frame measurement samples children) := by
  rw [toJson, ofFloat_of_isFinite finite, ofJson?]
  simp only [Json.field?, List.lookup, String.reduceBEq, read, if_pos sorted]

mutual

theorem faithful_toJson : ∀ tree : CallTree, tree.Representable → tree.toJson.Faithful
  | .node _ _ _ children, .node line finite count below => by
      rw [toJson, ofFloat_of_isFinite finite]
      exact ⟨trivial, trivial, isWhole_of_range line, finite, isWhole_of_range count,
        faithful_childrenJson children below, trivial⟩

theorem faithful_childrenJson : ∀ children : List CallTree,
    (∀ child ∈ children, child.Representable) → Json.FaithfulItems (childrenJson children)
  | [], _ => trivial
  | child :: others, below =>
      have ⟨first, rest⟩ := List.forall_mem_cons.mp below
      ⟨faithful_toJson child first, faithful_childrenJson others rest⟩

end

mutual

theorem ofJson?_toJson : ∀ tree : CallTree, tree.Ordered → tree.Representable →
    ofJson? tree.toJson = some tree
  | .node _ _ _ children, .node sorted ordered, .node _ finite _ representable =>
      ofJson?_node finite sorted (ofItems?_childrenJson children ordered representable)

theorem ofItems?_childrenJson : ∀ children : List CallTree, (∀ child ∈ children, child.Ordered) →
    (∀ child ∈ children, child.Representable) →
      ofItems? (childrenJson children) = some children
  | [], _, _ => by rw [childrenJson, ofItems?]
  | child :: others, ordered, representable => by
      obtain ⟨childOrdered, othersOrdered⟩ := List.forall_mem_cons.mp ordered
      obtain ⟨childRepresentable, othersRepresentable⟩ := List.forall_mem_cons.mp representable
      have read := ofJson?_toJson child childOrdered childRepresentable
      have readOthers := ofItems?_childrenJson others othersOrdered othersRepresentable
      rw [childrenJson, ofItems?, read, readOthers]

end

/-! ### What is read is ordered -/

theorem exists_items_of_ofJson? {document : Json} {tree : CallTree}
    (read : ofJson? document = some tree) :
    ∃ items, document.field? "children" = some (.array items) ∧
      ofItems? items = some tree.children ∧
      tree.children.Pairwise fun left right => left.key < right.key := by
  rw [ofJson?] at read
  split at read
  · next items _ _ _ _ _ found =>
      dsimp only at read
      split at read
      · next children readItems =>
          split at read
          · next sorted =>
              cases read
              exact ⟨items, found, readItems, sorted⟩
          · cases read
      · cases read
  · cases read

theorem exists_parts_of_ofItems?_cons {item : Json} {others : List Json} {children : List CallTree}
    (read : ofItems? (item :: others) = some children) :
    ∃ child rest, ofJson? item = some child ∧ ofItems? others = some rest ∧
      children = child :: rest := by
  rw [ofItems?] at read
  split at read
  · next child rest readChild readRest =>
      cases read
      exact ⟨child, rest, readChild, readRest, rfl⟩
  · cases read

mutual

/-- Whatever is read from a document has its siblings in the order of their keys. -/
theorem ordered_of_ofJson? (document : Json) (tree : CallTree)
    (read : ofJson? document = some tree) : tree.Ordered := by
  obtain ⟨items, found, readItems, sorted⟩ := exists_items_of_ofJson? read
  have smaller := Json.sizeOf_lt_of_field? found
  have below := ordered_of_ofItems? items tree.children readItems
  cases tree with
  | node frame measurement samples children => exact .node sorted below
termination_by sizeOf document
decreasing_by
  simp only [Json.array.sizeOf_spec] at smaller
  omega

theorem ordered_of_ofItems? (items : List Json) (children : List CallTree)
    (read : ofItems? items = some children) : ∀ child ∈ children, child.Ordered := by
  cases items with
  | nil =>
      rw [ofItems?] at read
      cases read
      exact List.forall_mem_nil _
  | cons item others =>
      obtain ⟨child, rest, readChild, readRest, rfl⟩ := exists_parts_of_ofItems?_cons read
      exact List.forall_mem_cons.mpr
        ⟨ordered_of_ofJson? item child readChild, ordered_of_ofItems? others rest readRest⟩
termination_by sizeOf items

end

theorem ordered_of_ofText? {text : String} {tree : CallTree} (read : ofText? text = some tree) :
    tree.Ordered := by
  obtain ⟨document, -, readDocument⟩ := Option.bind_eq_some_iff.mp read
  exact ordered_of_ofJson? document tree readDocument

/-- The text of a call tree is JSON, and the tree is read back from it with all names, numbers and
    children; nothing is read from a text that lists children in another order than that of their
    keys. So a tree with the same text is the same tree. -/
theorem text_loses_nothing {tree : CallTree} (ordered : tree.Ordered)
    (representable : tree.Representable) :
    Json.Grammar.Valid tree.toJson.text ∧ ofText? tree.toJson.text = some tree ∧
      (∀ text found, ofText? text = some found → found.Ordered) ∧
      ∀ other : CallTree, other.Ordered → other.Representable →
        other.toJson.text = tree.toJson.text → other = tree := by
  have faithful := faithful_toJson tree representable
  have read := ofJson?_toJson tree ordered representable
  refine ⟨Json.valid_text _, ?_, fun text found => ordered_of_ofText?, ?_⟩
  · rw [ofText?, Json.read?_text faithful, Option.bind_some, read]
  · intro other otherOrdered otherRepresentable same
    have otherFaithful := faithful_toJson other otherRepresentable
    have otherRead := ofJson?_toJson other otherOrdered otherRepresentable
    rw [Json.eq_of_text_eq otherFaithful faithful same, read] at otherRead
    exact (Option.some.inj otherRead).symm

/-- A tree with quotes, backslashes, control characters, empty names and the greatest numbers. -/
def awkward : CallTree :=
  .node { function := "say \"no\"", file := "C:\\é\n", line := -2 ^ 63 } (-12.5) (2 ^ 63 - 1)
    [.node { function := "", file := "\x01\r\x7f", line := 2 ^ 63 - 1 } 0.1 (-2 ^ 63) [],
      leaf { function := "𝄞", file := "", line := 0 }]

theorem text_loses_nothing_awkward :
    awkward.Ordered ∧ awkward.Representable ∧ Json.Grammar.Valid awkward.toJson.text ∧
      ofText? awkward.toJson.text = some awkward := by
  have ordered : awkward.Ordered := by
    refine .node (by decide +kernel) ?_
    simp only [List.forall_mem_cons]
    exact ⟨.node .nil (List.forall_mem_nil _), .leaf _, List.forall_mem_nil _⟩
  have representable : awkward.Representable := by
    refine .node (by decide) (by decide +kernel) (by decide) ?_
    simp only [List.forall_mem_cons]
    exact ⟨.node (by decide) (by decide +kernel) (by decide) (List.forall_mem_nil _),
      .node (by decide) (by decide +kernel) (by decide) (List.forall_mem_nil _),
      List.forall_mem_nil _⟩
  have ⟨valid, read, _⟩ := text_loses_nothing ordered representable
  exact ⟨ordered, representable, valid, read⟩

end CallTree

end Stackwatch

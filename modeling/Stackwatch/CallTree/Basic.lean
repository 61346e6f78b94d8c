import Stackwatch.Snapshot.Basic

/-!
# Call trees

A call tree holds what was measured on every call path. A node carries the measurement and the
number of samples of its path; a sample is added to every node on its path, so a node's numbers
include those of the nodes below it. The children of a node are in the order of their keys, and no
two of them have the same key.

Numbers of samples are whole numbers. They are taken to stay between -2^63 and 2^63-1, also where
several are added up: what a counter does that leaves this range is not told here.
-/

namespace Stackwatch

inductive CallTree where
  | node (frame : Frame) (measurement : Float) (samples : Int) (children : List CallTree)
  deriving Inhabited

namespace CallTree

def frame : CallTree → Frame
  | .node frame _ _ _ => frame

def measurement : CallTree → Float
  | .node _ measurement _ _ => measurement

def samples : CallTree → Int
  | .node _ _ samples _ => samples

def children : CallTree → List CallTree
  | .node _ _ _ children => children

/-- The text under which the node stands among its siblings. -/
def key (tree : CallTree) : String := tree.frame.key

/-- A node on which nothing was measured. -/
def leaf (frame : Frame) : CallTree := .node frame 0.0 0 []

/-- The nameless node at the top of a tree. -/
def root : CallTree := leaf { function := "", file := "", line := 0 }

/-- Adds to the numbers of this node alone. -/
def increment (value : Float) (count : Int) : CallTree → CallTree
  | .node frame measurement samples children =>
      .node frame (measurement + value) (samples + count) children

/-- Changes the node that stands under the key of `frame`, which is added if there is none. -/
def updateAmong (frame : Frame) (change : CallTree → CallTree) : List CallTree → List CallTree
  | [] => [change (leaf frame)]
  | child :: rest =>
      if frame.key < child.key then
        change (leaf frame) :: child :: rest
      else if frame.key = child.key then
        change child :: rest
      else
        child :: updateAmong frame change rest

/-- Changes the child that stands under the key of `frame`, which is added if there is none. -/
def updateChild (frame : Frame) (change : CallTree → CallTree) : CallTree → CallTree
  | .node own measurement samples children =>
      .node own measurement samples (updateAmong frame change children)

/-- Makes sure that a child stands under the key of `frame`. -/
def addChild (frame : Frame) : CallTree → CallTree := updateChild frame id

/-- Adds a measurement to every node of a call path, outermost caller first, below this node. -/
def record (value : Float) (count : Int) : List Frame → CallTree → CallTree
  | [], tree => tree
  | frame :: path, tree =>
      tree.updateChild frame fun child => record value count path (child.increment value count)

/-- The child that stands under a key. -/
def child? (key : String) (tree : CallTree) : Option CallTree :=
  tree.children.find? (·.key == key)

/-- The node reached by a path of keys. -/
def at? : (path : List String) → CallTree → Option CallTree
  | [], tree => some tree
  | key :: path, tree => (tree.child? key).bind (at? path)

/-- Changes the node reached by a path of keys. -/
def modifyAt (change : CallTree → CallTree) : (path : List String) → CallTree → CallTree
  | [], tree => change tree
  | key :: path, .node frame measurement samples children =>
      .node frame measurement samples
        (children.map fun child => if child.key = key then modifyAt change path child else child)

/-- Measurement and number of samples summed over the children. Every sample is added to each node
    of its path, so at the top this is all that the tree recorded. -/
def totals (tree : CallTree) : Float × Int :=
  tree.children.foldl
    (fun (value, count) child => (value + child.measurement, count + child.samples)) (0.0, 0)

mutual

/-- The path of keys to the first node below this one that has a function's name, callers before
    callees and siblings in the order of their keys. -/
def findDescendant? (function : String) : CallTree → Option (List String)
  | .node _ _ _ children => findAmong? function children

def findAmong? (function : String) : List CallTree → Option (List String)
  | [] => none
  | child :: rest =>
      if child.frame.function = function then
        some [child.key]
      else
        match findDescendant? function child with
        | some path => some (child.key :: path)
        | none => findAmong? function rest

end

end CallTree

end Stackwatch

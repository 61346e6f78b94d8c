import Stackwatch.Delivery.Folder

/-!
# Folders within folders

Making a folder also makes those above it that are missing. A path is followed part by part from the
top; a point stands for the folder itself and two points for the one above it.
-/

namespace Stackwatch.Command

/-! ## Paths -/

/-- The parts of a path. -/
def pathParts (path : String) : List String :=
  (path.splitOn "/").filter fun part => !part.isEmpty

/-- The parts without points at the end. -/
def withoutPoints (parts : List String) : List String :=
  (parts.reverse.dropWhile (· == ".")).reverse

/-- The path of the folder above, as it is written. -/
def partsAbove (parts : List String) : List String := withoutPoints (withoutPoints parts).dropLast

theorem length_withoutPoints_le (parts : List String) :
    (withoutPoints parts).length ≤ parts.length := by
  simpa [withoutPoints] using (List.dropWhile_sublist (· == ".") (l := parts.reverse)).length_le

theorem length_partsAbove_lt {parts : List String} (h : parts ≠ []) :
    (partsAbove parts).length < parts.length := by
  have above := length_withoutPoints_le (withoutPoints parts).dropLast
  have same := length_withoutPoints_le parts
  have : 0 < parts.length := List.length_pos_iff.2 h
  rw [List.length_dropLast] at above
  unfold partsAbove
  omega

/-! ## Making folders -/

/-- What is needed to make folders: a way to make one whose parent is there, and one to find out
    whether a path leads to a folder. -/
structure FolderMaker (m : Type → Type) where
  make : List String → m (Except Place.Error Unit)
  isFolder : List String → m Bool

namespace FolderMaker

variable {m : Type → Type} [Monad m]

/-- Makes a folder, which may be there already. -/
def ensure (maker : FolderMaker m) (parts : List String) : m (Except Place.Error Unit) := do
  match ← maker.make parts with
  | .ok () => return .ok ()
  | .error .exists =>
      if ← maker.isFolder parts then return .ok () else return .error .exists
  | .error error => return .error error

/-- Makes a folder and all above it that are missing. -/
def makeAll (maker : FolderMaker m) (parts : List String) : m (Except Place.Error Unit) := do
  if _h : parts = [] then return .ok ()
  else
    match ← maker.ensure parts with
    | .error .notFound =>
        match ← makeAll maker (partsAbove parts) with
        | .ok () => maker.ensure parts
        | .error error => return .error error
    | result => return result
termination_by parts.length
decreasing_by exact length_partsAbove_lt _h

end FolderMaker

/-! ## Trees -/

/-- A folder with what is in it, by name, or a file. -/
inductive FolderTree where
  | file
  | folder (entries : List (String × FolderTree))
  deriving Inhabited

namespace FolderTree

/-- The entries of a folder. -/
def entries : FolderTree → List (String × FolderTree)
  | .file => []
  | .folder entries => entries

/-- What stands at a path, all of whose parts are names. -/
def at? : (names : List String) → FolderTree → Option FolderTree
  | [], tree => some tree
  | name :: rest, tree => (tree.entries.lookup name).bind (at? rest)

/-- Adds an empty folder at a path, all of whose parts are names. -/
def addFolder : (names : List String) → FolderTree → FolderTree
  | _, .file => .file
  | [], tree => tree
  | [name], .folder entries => .folder (entries ++ [(name, .folder [])])
  | name :: rest, .folder entries =>
      .folder (entries.map fun (other, tree) =>
        (other, if other == name then addFolder rest tree else tree))
termination_by names => names.length

/-- How many bytes a name may have. -/
def longestName : Nat := 255

/-- A place in a tree: the names that lead to it with what stands at them, the last one first. -/
abbrev Position := List (String × FolderTree)

/-- What stands at a place in a tree. -/
def here (tree : FolderTree) : Position → FolderTree
  | (_, entry) :: _ => entry
  | [] => tree

/-- Follows a path from a place in a tree. -/
def follow (tree : FolderTree) : (above : Position) → (parts : List String) →
    Except Place.Error Position
  | above, [] => .ok above
  | above, part :: rest =>
      match tree.here above with
      | .file => .error .notAFolder
      | .folder entries =>
          if part == "." then follow tree above rest
          else if part == ".." then follow tree (above.drop 1) rest
          else if longestName < part.utf8ByteSize then .error .nameTooLong
          else match entries.lookup part with
            | some entry => follow tree ((part, entry) :: above) rest
            | none => .error .notFound

def isFolder (tree : FolderTree) (parts : List String) : Bool :=
  match (tree.follow [] parts).map tree.here with
  | .ok (.folder _) => true
  | _ => false

/-- Makes a folder whose parent is there. -/
def make (parts : List String) (tree : FolderTree) : Except Place.Error FolderTree := do
  let above ← tree.follow [] parts.dropLast
  match tree.here above, parts.getLast? with
  | .folder entries, some name =>
      if name == "." || name == ".." then .error .exists
      else if longestName < name.utf8ByteSize then .error .nameTooLong
      else if (entries.lookup name).isSome then .error .exists
      else .ok (tree.addFolder (name :: above.map (·.1)).reverse)
  | _, _ => .error .notAFolder

/-- Makes folders in a tree. -/
def maker : FolderMaker (StateM FolderTree) where
  make parts := do
    let tree ← get
    match tree.make parts with
    | .ok tree => do
        set tree
        return .ok ()
    | .error error => return .error error
  isFolder parts := do
    let tree ← get
    return tree.isFolder parts

/-- How long a path may be. -/
def longestPath : Nat := 4095

/-- Makes a folder and all above it that are missing. -/
def makeFolder (path : String) (tree : FolderTree) : Except Place.Error Unit × FolderTree :=
  if longestPath < path.utf8ByteSize then (.error .nameTooLong, tree)
  else (maker.makeAll (pathParts path)).run tree

end FolderTree

end Stackwatch.Command

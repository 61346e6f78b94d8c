import Mathlib
import Stackwatch.Proofs.CallTree.Ordered
import Stackwatch.Proofs.Text.Divisions

/-!
# Which child belongs to a frame

The children of a node are told apart by the keys of their frames. A key is a text that is put
together from function, file and line, and two frames can have the same text: the line can be read
off its end, but not where the function ends and the file begins if one of them contains the
characters that stand between them. The main statement says of any two frames for which children
were asked whether they have the same child, exactly in terms of the frames.
-/

namespace Stackwatch

namespace Frame

/-! ### What a key tells of its frame -/

/-- No colon stands in a number. -/
theorem colon_notMem_repr (number : Int) : ':' ∉ number.repr.toList := by
  have digits (natural : Nat) : ':' ∉ natural.repr.toList :=
    Text.notMem_repr_of_isDigit_eq_false rfl natural
  rw [Int.repr_eq_if]
  split
  · exact digits _
  · rw [String.toList_append, List.mem_append, not_or]
    exact ⟨by decide, digits _⟩

/-- The text in front of the line. -/
def place (frame : Frame) : String := frame.function ++ " (" ++ frame.file

/-- The line is behind the last colon of a key. -/
theorem key_eq_iff_place_eq (frame other : Frame) :
    frame.key = other.key ↔ frame.place = other.place ∧ frame.line = other.line := by
  have chars (frame : Frame) : frame.key.toList =
      frame.place.toList ++ ':' :: (frame.line.repr.toList ++ [')']) := by
    simp [key, place]
  have last (frame : Frame) : ':' ∉ frame.line.repr.toList ++ [')'] := by
    simp [colon_notMem_repr]
  constructor
  · intro same
    have sameChars : frame.key.toList = other.key.toList := by rw [same]
    rw [chars, chars] at sameChars
    obtain ⟨front, back⟩ := Text.eq_of_append_cons (last frame) (last other) sameChars
    exact ⟨String.toList_inj.mp front,
      Int.repr_injective (String.toList_inj.mp (List.append_cancel_right back))⟩
  · rintro ⟨front, line⟩
    rw [← String.toList_inj, chars, chars, front, line]

/-- The function of the other frame goes on where the file of this one begins, up to a later place
    at which a file could begin. -/
def Shifts (frame other : Frame) : Prop :=
  ∃ middle, other.function = frame.function ++ " (" ++ middle ∧
    frame.file = middle ++ " (" ++ other.file

theorem Shifts.place_eq {frame other : Frame} (shifts : frame.Shifts other) :
    frame.place = other.place := by
  obtain ⟨middle, function, file⟩ := shifts
  simp only [place, function, file, String.append_assoc]

/-- What stands between function and file cannot overlap itself. -/
theorem between_cases {between file otherFile : List Char}
    (same : ' ' :: '(' :: file = between ++ ' ' :: '(' :: otherFile) :
    (between = [] ∧ file = otherFile) ∨
      ∃ middle, between = ' ' :: '(' :: middle ∧ file = middle ++ ' ' :: '(' :: otherFile := by
  match between with
  | [] => exact .inl ⟨rfl, by simpa using same⟩
  | [_] => simp at same
  | _ :: _ :: middle =>
      simp only [List.cons_append, List.cons.injEq] at same
      obtain ⟨rfl, rfl, rest⟩ := same
      exact .inr ⟨middle, rfl, rest⟩

/-- If the function of the other frame is the longer one, it is longer by a shift. -/
theorem eq_or_shifts_of_longer {frame other : Frame} {between : List Char}
    (longer : other.function.toList = frame.function.toList ++ between)
    (rest : ' ' :: '(' :: frame.file.toList = between ++ ' ' :: '(' :: other.file.toList) :
    (frame.function = other.function ∧ frame.file = other.file) ∨ frame.Shifts other := by
  obtain ⟨rfl, file⟩ | ⟨middle, rfl, file⟩ := between_cases rest
  · rw [List.append_nil] at longer
    exact .inl ⟨String.toList_inj.mp longer.symm, String.toList_inj.mp file⟩
  · refine .inr ⟨String.ofList middle, ?_, ?_⟩
    · rw [← String.toList_inj, longer]
      simp
    · rw [← String.toList_inj, file]
      simp

theorem place_eq_iff (frame other : Frame) :
    frame.place = other.place ↔
      (frame.function = other.function ∧ frame.file = other.file) ∨
        frame.Shifts other ∨ other.Shifts frame := by
  have chars (frame : Frame) :
      frame.place.toList = frame.function.toList ++ ' ' :: '(' :: frame.file.toList := by
    simp [place]
  constructor
  · intro same
    have sameChars : frame.place.toList = other.place.toList := by rw [same]
    rw [chars, chars] at sameChars
    obtain ⟨between, longer, rest⟩ | ⟨between, longer, rest⟩ :=
      List.append_eq_append_iff.mp sameChars
    · exact (eq_or_shifts_of_longer longer rest).imp id .inl
    · exact (eq_or_shifts_of_longer longer rest).imp (fun both => ⟨both.1.symm, both.2.symm⟩) .inr
  · rintro (⟨function, file⟩ | shifts | shifts)
    · simp only [place, function, file]
    · exact shifts.place_eq
    · exact shifts.place_eq.symm

/-- Two frames have one key exactly if they are the same, or if they have the same line and differ
    by a shift. -/
theorem key_eq_iff (frame other : Frame) :
    frame.key = other.key ↔
      frame = other ∨
        frame.line = other.line ∧ (frame.Shifts other ∨ other.Shifts frame) := by
  rw [key_eq_iff_place_eq, place_eq_iff]
  cases frame
  cases other
  simp only [mk.injEq]
  tauto

/-- Nowhere in the text could a file begin. -/
def Undivided (text : String) : Prop := ¬ " (".toList <:+: text.toList

instance (text : String) : Decidable (Undivided text) :=
  inferInstanceAs (Decidable (¬ " (".toList <:+: text.toList))

theorem Shifts.not_undivided {frame other : Frame} (shifts : frame.Shifts other) :
    ¬ Undivided other.function ∧ ¬ Undivided frame.file := by
  obtain ⟨middle, function, file⟩ := shifts
  have divided (front back : String) : ¬ Undivided (front ++ " (" ++ back) := by
    rw [Undivided, not_not, String.toList_append, String.toList_append]
    exact ⟨front.toList, back.toList, rfl⟩
  exact ⟨function ▸ divided _ _, file ▸ divided _ _⟩

/-- Where functions or files are undivided, keys tell frames apart. -/
theorem key_eq_iff_of_undivided {frame other : Frame}
    (undivided : (Undivided frame.function ∧ Undivided other.function) ∨
      (Undivided frame.file ∧ Undivided other.file)) :
    frame.key = other.key ↔ frame = other := by
  have unshifted (shifted : frame.Shifts other ∨ other.Shifts frame) : False := by
    rcases shifted with shifts | shifts
    · obtain ⟨function, file⟩ := shifts.not_undivided
      exact undivided.elim (fun both => function both.2) fun both => file both.1
    · obtain ⟨function, file⟩ := shifts.not_undivided
      exact undivided.elim (fun both => function both.1) fun both => file both.2
  rw [key_eq_iff]
  exact ⟨fun same => same.elim id fun both => absurd both.2 unshifted, .inl⟩

end Frame

namespace CallTree

/-! ### Children that were asked for -/

/-- The children of some frames are asked for, one after the other. -/
def addChildren (frames : List Frame) (tree : CallTree) : CallTree :=
  frames.foldl (fun tree frame => tree.addChild frame) tree

/-- The place among its siblings of the child that belongs to a frame. -/
def place? (frame : Frame) (tree : CallTree) : Option Nat :=
  tree.children.findIdx? (·.key == frame.key)

theorem Ordered.addChildren {tree : CallTree} (ordered : tree.Ordered) (frames : List Frame) :
    (tree.addChildren frames).Ordered := by
  induction frames generalizing tree with
  | nil => exact ordered
  | cons frame rest inductionHypothesis => exact inductionHypothesis (ordered.addChild frame)

/-- Under each key stands the child that was there, or the one that was asked for first. -/
theorem Ordered.child?_addChildren {tree : CallTree} (ordered : tree.Ordered)
    (frames : List Frame) (key : String) :
    (tree.addChildren frames).child? key =
      (tree.child? key).or ((frames.find? (·.key == key)).map .leaf) := by
  induction frames generalizing tree with
  | nil => rw [List.find?_nil, Option.map_none, Option.or_none]; rfl
  | cons frame rest inductionHypothesis =>
      have later := inductionHypothesis (ordered.addChild frame)
      rw [ordered.child?_addChild, Option.or_assoc] at later
      refine later.trans (congrArg _ ?_)
      by_cases same : frame.key = key
      · simp [same]
      · simp [same]

/-- Only one child has a key. -/
theorem Ordered.place?_eq_of_key {tree : CallTree} (ordered : tree.Ordered) {frame : Frame}
    {place : Nat} {child : CallTree} (stands : tree.children[place]? = some child)
    (same : child.key = frame.key) : tree.place? frame = some place := by
  obtain ⟨inRange, rfl⟩ := List.getElem?_eq_some_iff.mp stands
  rw [place?, List.findIdx?_eq_some_iff_getElem]
  refine ⟨inRange, beq_iff_eq.mpr same, fun earlier before found => ?_⟩
  have less := List.pairwise_iff_getElem.mp ordered.sorted earlier place (by omega) inRange before
  rw [same, ← eq_of_beq found] at less
  exact String.lt_irrefl _ less

/-- What is done to the child under one key is seen under that key alone. -/
theorem child?_modifyAt (tree : CallTree) {change : CallTree → CallTree}
    (keeps : ∀ child, (change child).key = child.key) (key other : String) :
    (tree.modifyAt change [key]).child? other =
      if key = other then (tree.child? other).map change else tree.child? other :=
  child?_modifyAt_cons keeps tree key other []

/-- A child that is there has a place. -/
theorem exists_place? {tree : CallTree} {frame : Frame} {child : CallTree}
    (found : tree.child? frame.key = some child) :
    ∃ place, tree.place? frame = some place ∧ tree.children[place]? = some child := by
  obtain ⟨same, place, inRange, stands, before⟩ := List.find?_eq_some_iff_getElem.mp found
  refine ⟨place, List.findIdx?_eq_some_iff_getElem.mpr ⟨inRange, ?_, ?_⟩, ?_⟩
  · rw [stands]
    exact same
  · exact fun earlier less => by simpa using before earlier less
  · rw [List.getElem?_eq_getElem inRange, stands]

/-- Whether two frames have the same child is decided by their keys. -/
theorem place?_eq_iff {tree : CallTree} {first second : Frame} {child : CallTree}
    (found : tree.child? first.key = some child) :
    tree.place? first = tree.place? second ↔ first.key = second.key := by
  obtain ⟨place, standsAt, stands⟩ := exists_place? found
  constructor
  · intro same
    rw [standsAt] at same
    obtain ⟨inRange, hasSecond, -⟩ := List.findIdx?_eq_some_iff_getElem.mp same.symm
    obtain ⟨inRange', hasFirst, -⟩ := List.findIdx?_eq_some_iff_getElem.mp standsAt
    exact (eq_of_beq hasFirst).symm.trans (eq_of_beq hasSecond)
  · intro same
    rw [place?, place?, same]

/-- However many children of a node were asked for: every frame that was asked for has exactly one
    child, which was there before or is that of the first frame with its key, and two frames have
    the same one exactly if they are the same frame or have the same line and differ by a shift;
    just then what is measured on the child of one is seen on the child of the other. So two frames
    never share a child if their functions, or their files, are undivided. -/
theorem same_child_iff_same_or_shifted (node : CallTree) (ordered : node.Ordered)
    (asked : List Frame) :
    let grown := node.addChildren asked
    (∀ key, grown.child? key =
      (node.child? key).or ((asked.find? (·.key == key)).map .leaf)) ∧
    ∀ first ∈ asked, ∀ second ∈ asked,
      (∃ place, grown.place? first = some place ∧
        ∀ other child, grown.children[other]? = some child → child.key = first.key →
          other = place) ∧
      (grown.place? first = grown.place? second ↔
        first = second ∨
          first.line = second.line ∧ (first.Shifts second ∨ second.Shifts first)) ∧
      (∀ value count, (grown.modifyAt (increment value count) [first.key]).child? second.key =
        if grown.place? first = grown.place? second then
          (grown.child? second.key).map (increment value count)
        else grown.child? second.key) ∧
      ((Frame.Undivided first.function ∧ Frame.Undivided second.function) ∨
          (Frame.Undivided first.file ∧ Frame.Undivided second.file) →
        (grown.place? first = grown.place? second ↔ first = second)) := by
  intro grown
  have grownOrdered : grown.Ordered := ordered.addChildren asked
  have children : ∀ key, grown.child? key =
      (node.child? key).or ((asked.find? (·.key == key)).map .leaf) :=
    ordered.child?_addChildren asked
  refine ⟨children, fun first firstAsked second _ => ?_⟩
  obtain ⟨child, found⟩ : ∃ child, grown.child? first.key = some child := by
    have among : (asked.find? (·.key == first.key)).isSome :=
      List.find?_isSome.mpr ⟨first, firstAsked, beq_self_eq_true _⟩
    rw [← Option.isSome_iff_exists, children, Option.isSome_or, Option.isSome_map, among,
      Bool.or_true]
  obtain ⟨place, standsAt, -⟩ := exists_place? found
  have keys : grown.place? first = grown.place? second ↔ first.key = second.key :=
    place?_eq_iff found
  refine ⟨⟨place, standsAt, fun other child stands same => ?_⟩, ?_, fun value count => ?_,
    fun undivided => ?_⟩
  · exact Option.some.inj ((grownOrdered.place?_eq_of_key stands same).symm.trans standsAt)
  · rw [keys, Frame.key_eq_iff]
  · rw [child?_modifyAt grown fun child => key_increment value count child]
    exact if_congr keys.symm rfl rfl
  · rw [keys, Frame.key_eq_iff_of_undivided undivided]

/-- A frame whose file could begin in two places. -/
def earlyFrame : Frame := { function := "a", file := "b:1) (c", line := 2 }

/-- The same text, divided at the later place. -/
def lateFrame : Frame := { function := "a (b:1)", file := "c", line := 2 }

/-- Who asks for the child of the second frame gets that of the first. -/
theorem same_child_iff_same_or_shifted_late :
    let grown := root.addChildren [earlyFrame, lateFrame]
    root.Ordered ∧ earlyFrame ∈ [earlyFrame, lateFrame] ∧ lateFrame ∈ [earlyFrame, lateFrame] ∧
      grown.child? lateFrame.key = some (.leaf earlyFrame) ∧
      grown.place? earlyFrame = grown.place? lateFrame ∧
      Frame.Undivided earlyFrame.function ∧ ¬ Frame.Undivided earlyFrame.file := by
  intro grown
  have ordered : root.Ordered := .leaf _
  have shifts : earlyFrame.Shifts lateFrame := ⟨"b:1)", by decide, by decide⟩
  obtain ⟨children, same⟩ := same_child_iff_same_or_shifted root ordered [earlyFrame, lateFrame]
  obtain ⟨-, shared, -, -⟩ := same earlyFrame (by simp) lateFrame (by simp)
  refine ⟨ordered, by simp, by simp, ?_, shared.mpr (.inr ⟨rfl, .inl shifts⟩), ?_,
    shifts.not_undivided.2⟩
  · rw [children]
    rfl
  · decide

/-- Frames that differ need not have different children. -/
theorem different_frames_share_child :
    ¬ ∀ (node : CallTree) (asked : List Frame), ∀ first ∈ asked, ∀ second ∈ asked,
      ((node.addChildren asked).place? first = (node.addChildren asked).place? second ↔
        first = second) := by
  intro apart
  have shared : earlyFrame = lateFrame :=
    (apart root [earlyFrame, lateFrame] earlyFrame (by simp) lateFrame (by simp)).mp (by decide)
  exact absurd shared (by decide)

end CallTree

end Stackwatch

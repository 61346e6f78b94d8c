import Stackwatch.Proofs.Burst.Calls
import Stackwatch.Proofs.Sampler.Folding

/-!
# What a window has gathered

A window keeps two accounts: how long was sampled in it, and what the sampler has folded. Whether a
profile is built is decided by the first, and what it holds comes from the second. They agree as
long as every burst takes some time: where something was folded, some time was sampled.
-/

namespace Stackwatch

/-- A tree has no branches exactly if none of the folded samples counts. -/
theorem FrameFilter.children_foldAll_eq_nil_iff (filter : FrameFilter) (all : List Measured) :
    (filter.foldAll all .root).children = [] ↔
      ∀ measured ∈ all, filter.records measured.sample = false := by
  constructor
  · intro bare measured member
    by_contra recorded
    have counts : filter.path measured.sample ≠ [] := by
      simpa [records_iff] using recorded
    obtain ⟨frame, path, pathEq⟩ := List.exists_cons_of_ne_nil counts
    have passes : [frame.key] <+: filter.keyPath measured.sample := by
      simp [keyPath, pathEq]
    have found := (filter.isSome_at?_foldAll all frame.key []).mpr ⟨measured, member, passes⟩
    simp [CallTree.at?, CallTree.child?, bare] at found
  · intro unrecorded
    cases children : (filter.foldAll all .root).children with
    | nil => rfl
    | cons child rest =>
        have found : ((filter.foldAll all .root).at? [child.key]).isSome = true := by
          simp [CallTree.at?, CallTree.child?, children]
        obtain ⟨measured, member, passes⟩ := (filter.isSome_at?_foldAll all child.key []).mp found
        have uncounted : ¬ filter.records measured.sample = true := by
          simp [unrecorded measured member]
        have bare : filter.path measured.sample = [] := by
          simpa [records_iff] using uncounted
        simp [keyPath, bare] at passes

namespace Window

/-- What the end of a burst folds. -/
def foldedAtEnd (window : Window) : List Measured :=
  match window.stopCall? with
  | some ending => foldedBy window.sampler.pending ending
  | none => []

/-- The end of a burst counts its length, unless the sampler crashes. -/
theorem endBurst_sampled (timing : Timing) (now : Instant) (flag : Flag) {window : Window}
    {begun : Instant} (burst : window.burst = some begun) :
    (window.endBurst timing now flag).window.sampled =
      match window.sampler.stop.1 with
      | .crashed _ => window.sampled
      | _ => window.sampled + (now - begun) := by
  simp only [endBurst, burst]
  cases window.sampler.stop.1 <;> rfl

theorem recordable_eq_none_iff {externalProcess : Option String} {profile : Profile} :
    recordable externalProcess profile = none ↔ profile.roots = [] := by
  unfold recordable
  cases profile.roots <;> simp

/-- The name of the process changes nothing in the tree. -/
theorem roots_of_recordable {externalProcess : Option String} {profile recorded : Profile}
    (kept : recordable externalProcess profile = some recorded) :
    recorded.roots = profile.roots := by
  unfold recordable at kept
  split at kept
  · cases kept
  · cases externalProcess <;> cases kept <;> rfl

/-- The tree of a window holds exactly some samples, and none if nothing was sampled. -/
structure Gathered (filter : FrameFilter) (folded : List Measured) (window : Window) : Prop where
  gathers : window.sampler.gathers = true
  filtered : window.sampler.filter = filter
  tree : window.sampler.tree = filter.foldAll folded .root
  sampled : window.sampled = 0 → folded = []

namespace Gathered

variable {filter : FrameFilter} {folded : List Measured} {window : Window} {timing : Timing}
  {now : Instant} {flag : Flag}

theorem fresh {other : Window} (gathers : window.sampler.gathers = true)
    (alike : Sampler.Alike window.sampler other.sampler) (bare : other.sampler.tree = .root) :
    other.Gathered window.sampler.filter [] where
  gathers := alike.gathers.trans gathers
  filtered := alike.filter
  tree := bare
  sampled := fun _ => rfl

variable (gathered : window.Gathered filter folded)

include gathered

/-- A sampler that is started keeps what it has gathered. -/
theorem of_start {other : Window} (sampler : other.sampler = window.sampler.start.2)
    (sampled : other.sampled = window.sampled) : other.Gathered filter folded where
  gathers := by rw [sampler, (Sampler.alike_start _).gathers, gathered.gathers]
  filtered := by rw [sampler, (Sampler.alike_start _).filter, gathered.filtered]
  tree := by rw [sampler, Sampler.tree_start, gathered.tree]
  sampled := by
    rw [sampled]
    exact gathered.sampled

theorem beginBurst : (window.beginBurst timing now flag).window.Gathered filter folded := by
  cases called : window.startCall? timing flag with
  | none =>
      rw [Window.beginBurst_of_startCall?_eq_none called]
      exact gathered
  | some ending =>
      cases ending with
      | returned =>
          rw [Window.beginBurst_of_returned called]
          exact gathered.of_start rfl rfl
      | failed error =>
          rw [Window.beginBurst_of_failed called]
          exact gathered.of_start rfl rfl
      | crashed crash =>
          rw [Window.beginBurst_of_crashed called]
          exact gathered.of_start rfl rfl

/-- The end of a burst that took some time adds what the stop folded. -/
theorem endBurst (lasted : ∀ begun, window.burst = some begun → begun < now) :
    (window.endBurst timing now flag).window.Gathered filter (folded ++ window.foldedAtEnd) := by
  cases burst : window.burst with
  | none =>
      have uncalled : window.stopCall? = none := Option.map_eq_none_iff.mpr burst
      rw [Window.endBurst_of_stopCall?_eq_none uncalled, foldedAtEnd, uncalled, List.append_nil]
      exact gathered
  | some begun =>
      have called : window.stopCall? = some window.sampler.stop.1 := by
        rw [stopCall?, burst]
        rfl
      obtain ⟨-, -, sampler, -⟩ := Window.endBurst_of_stopCall? timing now flag called
      refine ⟨?_, ?_, ?_, ?_⟩
      · rw [sampler, (Sampler.alike_stop _).gathers, gathered.gathers]
      · rw [sampler, (Sampler.alike_stop _).filter, gathered.filtered]
      · rw [sampler, Sampler.tree_stop, gathered.tree, gathered.filtered,
          FrameFilter.foldAll_append]
        simp only [foldedAtEnd, called]
      · intro nothing
        rw [endBurst_sampled timing now flag burst] at nothing
        have some : now - begun ≠ 0 := Nat.sub_ne_zero_of_lt (lasted begun burst)
        simp only [foldedAtEnd, called]
        cases ending : window.sampler.stop.1 with
        | returned => simp [ending, some] at nothing
        | failed error => simp [ending, some] at nothing
        | crashed crash =>
            rw [ending] at nothing
            rw [gathered.sampled nothing]
            rfl

theorem renew : (window.renew now).Gathered filter [] := by
  have fresh : (window.renew now).Gathered window.sampler.filter [] :=
    fresh gathered.gathers (Sampler.alike_reset _) (Sampler.tree_reset _)
  rwa [gathered.filtered] at fresh

/-- A report opens a new window, in which nothing is gathered yet. -/
theorem report (origin : Profile.Origin) (externalProcess : Option String) :
    (window.report timing now origin externalProcess).window.Gathered filter [] := by
  obtain ⟨profile, built, -⟩ := Sampler.exists_build_eq gathered.gathers origin window.sampled
    (now - window.openedAt)
  unfold Window.report
  split
  · rw [built]
    exact gathered.renew
  · exact gathered.renew

/-- The profile that a report hands over has the tree of what was gathered; without one nothing
    that was gathered counts. -/
theorem profile?_report (timing : Timing) (now : Instant) (origin : Profile.Origin)
    (externalProcess : Option String) :
    let profile? := (window.report timing now origin externalProcess).profile?
    (profile? = none ↔ ∀ measured ∈ folded, filter.records measured.sample = false) ∧
      ∀ profile, profile? = some profile →
        profile.roots = (filter.foldAll folded .root).children := by
  obtain ⟨profile, built, roots⟩ := Sampler.exists_build_eq gathered.gathers origin window.sampled
    (now - window.openedAt)
  rw [← filter.children_foldAll_eq_nil_iff, ← gathered.tree]
  unfold Window.report
  split
  · rw [built, ← roots]
    exact ⟨recordable_eq_none_iff, fun _ => roots_of_recordable⟩
  · next nothing =>
      have sampled : window.sampled = 0 := by
        simp only [Bool.or_eq_true, bne_iff_ne, not_or, Classical.not_not] at nothing
        exact nothing.2
      rw [gathered.tree, gathered.sampled sampled]
      exact ⟨⟨fun _ => rfl, fun _ => rfl⟩, fun _ impossible => nomatch impossible⟩

end Gathered

end Window

end Stackwatch

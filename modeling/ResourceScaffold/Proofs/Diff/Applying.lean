import ResourceScaffold.Proofs.Diff.Hunks

/-!
Contract: the hunks of a script as hunks of a patch.

Owns:
- the ranges and the marked lines of a hunk;
- applying the hunks of regions to their old text makes it their new text, if the regions are numbered
  by the lines in front of them;
- the context that the marked lines of a hunk begin and end with.

Does not own: how a patch is read.
-/

namespace ResourceScaffold.Diff

/-! ## Hunks of a patch -/

def Region.marked : Region → List MarkedLine
  | kept lines _ _ => lines.map (Prod.mk .kept)
  | changed removed added _ _ => removed.map (Prod.mk .removed) ++ added.map (Prod.mk .added)

namespace Hunk

/-- The range of the old text from the first region of a hunk up to the last one. -/
def oldRange (hunk : Hunk) : LineRange :=
  match hunk.head?, hunk.getLast? with
  | some first, some last => ⟨first.oldStart, last.oldEnd - first.oldStart⟩
  | _, _ => ⟨0, 0⟩

/-- The range of the new text from the first region of a hunk up to the last one. -/
def newRange (hunk : Hunk) : LineRange :=
  match hunk.head?, hunk.getLast? with
  | some first, some last => ⟨first.newStart, last.newEnd - first.newStart⟩
  | _, _ => ⟨0, 0⟩

def patchHunk (hunk : Hunk) : PatchHunk :=
  ⟨hunk.oldRange, hunk.newRange, hunk.flatMap Region.marked⟩

end Hunk

theorem sides_append (first second : List MarkedLine) :
    oldSide (first ++ second) = oldSide first ++ oldSide second ∧
      newSide (first ++ second) = newSide first ++ newSide second := by
  simp [oldSide, newSide]

theorem sides_marked (region : Region) :
    oldSide region.marked = region.oldLines ∧ newSide region.marked = region.newLines := by
  cases region <;>
    simp [Region.marked, oldSide, newSide, Region.oldLines, Region.newLines, List.filter_map,
      Function.comp_def]

theorem sides_patchHunk (hunk : Hunk) :
    oldSide hunk.patchHunk.lines = oldText hunk ∧ newSide hunk.patchHunk.lines = newText hunk := by
  rw [Hunk.patchHunk]
  induction hunk with
  | nil => exact ⟨rfl, rfl⟩
  | cons region rest inductionHypothesis =>
      simp only [List.flatMap_cons, sides_append, sides_marked, oldText_cons, newText_cons]
      exact ⟨congrArg _ inductionHypothesis.1, congrArg _ inductionHypothesis.2⟩

/-- A hunk that is numbered by the lines in front of it has the ranges of its texts. -/
theorem ranges_of_numbered {hunk : Hunk} (nonempty : hunk ≠ []) {oldFront newFront : Nat}
    (numbered : Numbered oldFront newFront hunk) :
    hunk.oldRange = ⟨oldFront, (oldText hunk).length⟩ ∧
      hunk.newRange = ⟨newFront, (newText hunk).length⟩ := by
  obtain ⟨first, rest, rfl⟩ := List.exists_cons_of_ne_nil nonempty
  obtain ⟨init, last, ends⟩ : ∃ init last, first :: rest = init ++ [last] :=
    ⟨_, _, (List.dropLast_append_getLast nonempty).symm⟩
  have isLast : (first :: rest).getLast? = some last := by simp [ends]
  obtain ⟨oldFirst, newFirst⟩ := numbered.1
  have old : (oldText (first :: rest)).length = (oldText init).length + last.oldLines.length := by
    simp [ends]
  have new : (newText (first :: rest)).length = (newText init).length + last.newLines.length := by
    simp [ends]
  rw [ends] at numbered
  obtain ⟨oldLast, newLast⟩ := (numbered_append_iff.1 numbered).2.1
  simp only [Hunk.oldRange, Hunk.newRange, List.head?_cons, isLast, Region.oldEnd, Region.newEnd,
    oldFirst, newFirst, oldLast, newLast, old, new]
  constructor <;> congr 1 <;> omega

/-! ## Applying -/

theorem tiles_of_hunksTile {condition : Prop} {oldFront newFront : Nat} {hunks : List Hunk}
    {old new : List Line} (tile : HunksTile condition oldFront newFront hunks old new) :
    Tiles (hunks.map Hunk.patchHunk) old new := by
  induction tile with
  | rest lines => exact .rest lines
  | hunk kept numbered others inductionHypothesis =>
      rename_i hunk _ _ _
      rw [← (sides_patchHunk hunk).1, ← (sides_patchHunk hunk).2]
      exact .hunk kept _ inductionHypothesis

/-- Applying numbered hunks to the old text makes it the new one. -/
theorem applyHunks_of_hunksTile {condition : Prop} (holds : condition) {oldFront newFront : Nat}
    {hunks : List Hunk} {old new : List Line}
    (tile : HunksTile condition oldFront newFront hunks old new)
    (nonempty : ∀ hunk ∈ hunks, hunk ≠ []) :
    applyHunks oldFront newFront (hunks.map Hunk.patchHunk) old = some new := by
  induction tile with
  | rest lines => rfl
  | hunk kept numbered others inductionHypothesis =>
      rename_i hunk hunks _ _
      rw [List.forall_mem_cons] at nonempty
      obtain ⟨oldRange, newRange⟩ := ranges_of_numbered nonempty.1 (numbered holds)
      have first : hunk.patchHunk.old = _ := oldRange
      have second : hunk.patchHunk.new = _ := newRange
      rw [List.map_cons, applyHunks]
      simp only [sides_patchHunk, first, second, LineRange.stop]
      simp [inductionHypothesis nonempty.2]

/-! ## Context -/

theorem leadingKept_append {first : List MarkedLine} (kept : ∀ line ∈ first, line.1 = .kept)
    (second : List MarkedLine) : leadingKept (first ++ second) = first.length + leadingKept second := by
  rw [leadingKept, List.takeWhile_append_of_pos (by simpa using kept), List.length_append, leadingKept]

theorem leadingKept_eq_zero {first : List MarkedLine} (nonempty : first ≠ [])
    (changes : ∀ line ∈ first, line.1 ≠ .kept) (second : List MarkedLine) :
    leadingKept (first ++ second) = 0 := by
  obtain ⟨line, rest, rfl⟩ := List.exists_cons_of_ne_nil nonempty
  simp [leadingKept, changes line List.mem_cons_self]

theorem Region.marked_of_changes {region : Region} (changes : region.Changes) :
    region.marked ≠ [] ∧ ∀ line ∈ region.marked, line.1 ≠ .kept := by
  cases region with
  | kept => cases changes
  | changed removed added oldIndex newIndex =>
      refine ⟨fun none => ?_, fun line member => ?_⟩
      · simp [marked] at none
        exact changes.elim (· none.1) (· none.2)
      · simp only [marked, List.mem_append, List.mem_map] at member
        obtain ⟨_, -, rfl⟩ | ⟨_, -, rfl⟩ := member <;> nofun

/-- Regions in good order that begin with no more kept lines than the context show no more of them
first, in whichever order the lines of each region are. -/
theorem leadingKept_flatMap_le {context : Nat} {regions : List Region} (regular : Regular regions)
    (start : ∀ region ∈ regions.head?, region.Fits context) {linesOf : Region → List MarkedLine}
    (ordered : ∀ region, (linesOf region).Perm region.marked) :
    leadingKept (regions.flatMap linesOf) ≤ context := by
  have changed {region : Region} {rest : List Region} (regular : Regular (region :: rest))
      (notKept : region.isKept = false) : leadingKept ((region :: rest).flatMap linesOf) = 0 := by
    obtain ⟨nonempty, changes⟩ := Region.marked_of_changes ((regular_cons_iff.1 regular).1 notKept)
    rw [List.flatMap_cons]
    refine leadingKept_eq_zero (fun none => nonempty ?_)
      (fun line member => changes line ((ordered region).mem_iff.1 member)) _
    exact (none ▸ ordered region).nil_eq.symm
  rcases regions with _ | ⟨region, rest⟩
  · exact Nat.zero_le _
  · cases region with
    | changed removed added oldIndex newIndex =>
        rw [changed regular rfl]
        exact Nat.zero_le _
    | kept lines oldIndex newIndex =>
        have same := ordered (.kept lines oldIndex newIndex)
        have kept : ∀ line ∈ linesOf (.kept lines oldIndex newIndex), line.1 = .kept := by
          intro line member
          obtain ⟨_, -, rfl⟩ := List.mem_map.1 (same.mem_iff.1 member)
          rfl
        have none : leadingKept (rest.flatMap linesOf) = 0 := by
          rcases rest with _ | ⟨next, others⟩
          · rfl
          · obtain ⟨-, apart, regular⟩ := regular_cons_iff.1 regular
            exact changed regular (Bool.eq_false_iff.2 fun isKept => apart next rfl ⟨rfl, isKept⟩)
        rw [List.flatMap_cons, leadingKept_append kept, none, same.length_eq]
        simpa [Region.marked, Region.oldLines] using start _ rfl rfl

/-- A framed hunk shows no more kept lines at its start and at its end than the context has. -/
theorem patchHunk_withinContext {context : Nat} {hunk : Hunk} (framed : Framed context hunk) :
    hunk.patchHunk.WithinContext context where
  start := leadingKept_flatMap_le framed.toRegular framed.start fun _ => .refl _
  stop := by
    rw [Hunk.patchHunk, List.reverse_flatMap]
    exact leadingKept_flatMap_le framed.toRegular.reverse (by simpa using framed.stop)
      fun _ => List.reverse_perm _

end ResourceScaffold.Diff

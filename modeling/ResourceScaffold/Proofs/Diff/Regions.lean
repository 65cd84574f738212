import ResourceScaffold.Diff.Hunk
import Mathlib.Data.List.Chain

/-!
Contract: the regions of a script.

Owns:
- the texts on both sides of regions, which are those of the script;
- regions in good order, in which kept and changed lines take turns;
- regions that are numbered by the lines in front of them.

Does not own: the hunks that are cut from regions.
-/

namespace ResourceScaffold.Diff

/-! ## The two sides of regions -/

def oldText (regions : List Region) : List Line := regions.flatMap Region.oldLines

def newText (regions : List Region) : List Line := regions.flatMap Region.newLines

@[simp] theorem oldText_nil : oldText [] = [] := rfl

@[simp] theorem newText_nil : newText [] = [] := rfl

@[simp] theorem oldText_cons (region : Region) (rest : List Region) :
    oldText (region :: rest) = region.oldLines ++ oldText rest := rfl

@[simp] theorem newText_cons (region : Region) (rest : List Region) :
    newText (region :: rest) = region.newLines ++ newText rest := rfl

@[simp] theorem oldText_append (first second : List Region) :
    oldText (first ++ second) = oldText first ++ oldText second :=
  List.flatMap_append

@[simp] theorem newText_append (first second : List Region) :
    newText (first ++ second) = newText first ++ newText second :=
  List.flatMap_append

theorem texts_joinEdit (regions : List Region) (edit : Edit) :
    oldText (joinEdit regions edit).reverse = oldText regions.reverse ++ edit.oldLines ∧
      newText (joinEdit regions edit).reverse = newText regions.reverse ++ edit.newLines := by
  obtain ⟨kind, lines, oldIndex, newIndex⟩ := edit
  cases kind <;> rcases regions with _ | ⟨_ | _, rest⟩ <;>
    simp [joinEdit, Edit.oldLines, Edit.newLines, Region.oldLines, Region.newLines]

theorem texts_regionsOf (script : Script) :
    oldText (regionsOf script) = script.oldLines ∧
      newText (regionsOf script) = script.newLines := by
  have general (regions : List Region) :
      oldText (script.foldl joinEdit regions).reverse =
          oldText regions.reverse ++ script.oldLines ∧
        newText (script.foldl joinEdit regions).reverse =
          newText regions.reverse ++ script.newLines := by
    induction script generalizing regions with
    | nil => simp
    | cons edit rest inductionHypothesis =>
        obtain ⟨old, new⟩ := inductionHypothesis (joinEdit regions edit)
        obtain ⟨oldStep, newStep⟩ := texts_joinEdit regions edit
        rw [List.foldl_cons, old, new, oldStep, newStep]
        simp
  simpa [regionsOf] using general []

/-! ## Regions in good order -/

namespace Region

def isKept : Region → Bool
  | kept .. => true
  | changed .. => false

def Changes : Region → Prop
  | kept .. => False
  | changed removed added _ _ => removed ≠ [] ∨ added ≠ []

end Region

/-- Regions of which no two neighbours are kept, while the others remove or add lines. -/
structure Regular (regions : List Region) : Prop where
  changes : ∀ region ∈ regions, region.isKept = false → region.Changes
  apart : regions.IsChain fun first second => ¬(first.isKept = true ∧ second.isKept = true)

theorem Regular.reverse {regions : List Region} (regular : Regular regions) :
    Regular regions.reverse where
  changes region member := regular.changes region (List.mem_reverse.1 member)
  apart := List.isChain_reverse.2 (regular.apart.imp fun _ _ apart both => apart both.symm)

theorem Regular.infix {part regions : List Region} (regular : Regular regions)
    (inside : part <:+: regions) : Regular part where
  changes region member := regular.changes region (inside.subset member)
  apart := regular.apart.infix inside

theorem regular_cons_iff {region : Region} {rest : List Region} :
    Regular (region :: rest) ↔
      (region.isKept = false → region.Changes) ∧
        (∀ next ∈ rest.head?, ¬(region.isKept = true ∧ next.isKept = true)) ∧ Regular rest := by
  constructor
  · rintro ⟨changes, apart⟩
    rw [List.forall_mem_cons] at changes
    rw [List.isChain_cons] at apart
    exact ⟨changes.1, apart.1, changes.2, apart.2⟩
  · rintro ⟨changes, apart, regular⟩
    exact ⟨List.forall_mem_cons.2 ⟨changes, regular.changes⟩,
      List.isChain_cons.2 ⟨apart, regular.apart⟩⟩

/-- What the neighbours have to be depends on whether the first region is kept only. -/
theorem Regular.replace {region other : Region} {rest : List Region}
    (regular : Regular (region :: rest)) (same : other.isKept = region.isKept)
    (changes : other.isKept = false → other.Changes) : Regular (other :: rest) := by
  rw [regular_cons_iff] at regular ⊢
  rw [same]
  exact ⟨same ▸ changes, regular.2⟩

theorem regular_joinEdit {regions : List Region} (regular : Regular regions) {edit : Edit}
    (nonempty : edit.lines ≠ []) : Regular (joinEdit regions edit) := by
  obtain ⟨kind, lines, oldIndex, newIndex⟩ := edit
  cases kind with
  | keep =>
      rcases regions with _ | ⟨first | first, rest⟩ <;> simp only [joinEdit]
      · exact regular_cons_iff.2 ⟨nofun, nofun, regular⟩
      · exact regular.replace rfl nofun
      · exact regular_cons_iff.2 ⟨nofun, by simp [Region.isKept], regular⟩
  | remove =>
      rcases regions with _ | ⟨first | first, rest⟩ <;> simp only [joinEdit]
      · exact regular_cons_iff.2 ⟨fun _ => Or.inl nonempty, nofun, regular⟩
      · exact regular_cons_iff.2 ⟨fun _ => Or.inl nonempty, by simp [Region.isKept], regular⟩
      · exact regular.replace rfl fun _ => Or.inl (List.append_ne_nil_of_right_ne_nil _ nonempty)
  | add =>
      rcases regions with _ | ⟨first | first, rest⟩ <;> simp only [joinEdit]
      · exact regular_cons_iff.2 ⟨fun _ => Or.inr nonempty, nofun, regular⟩
      · exact regular_cons_iff.2 ⟨fun _ => Or.inr nonempty, by simp [Region.isKept], regular⟩
      · exact regular.replace rfl fun _ => Or.inr (List.append_ne_nil_of_right_ne_nil _ nonempty)

theorem regular_regionsOf {script : Script} (nonempty : ∀ edit ∈ script, edit.lines ≠ []) :
    Regular (regionsOf script) := by
  have general (regions : List Region) (regular : Regular regions) :
      Regular (script.foldl joinEdit regions) := by
    induction script generalizing regions with
    | nil => exact regular
    | cons edit rest inductionHypothesis =>
        rw [List.forall_mem_cons] at nonempty
        exact inductionHypothesis nonempty.2 _ (regular_joinEdit regular nonempty.1)
  exact (general [] ⟨nofun, .nil⟩).reverse

/-! ## Line numbers -/

/-- Whether regions are numbered by the lines in front of them, given how many lines of the old and of
the new text lie in front of the first one. -/
def Numbered : Nat → Nat → List Region → Prop
  | _, _, [] => True
  | old, new, region :: rest =>
      (region.oldStart = old ∧ region.newStart = new) ∧
        Numbered (old + region.oldLines.length) (new + region.newLines.length) rest

instance Numbered.decidable : ∀ old new regions, Decidable (Numbered old new regions)
  | _, _, [] => inferInstanceAs (Decidable True)
  | _, _, _ :: rest => @instDecidableAnd _ _ inferInstance (Numbered.decidable _ _ rest)

theorem numbered_append_iff {old new : Nat} {first second : List Region} :
    Numbered old new (first ++ second) ↔
      Numbered old new first ∧
        Numbered (old + (oldText first).length) (new + (newText first).length) second := by
  induction first generalizing old new with
  | nil => simp [Numbered]
  | cons region rest inductionHypothesis =>
      simp [Numbered, inductionHypothesis, and_assoc, Nat.add_assoc]

end ResourceScaffold.Diff

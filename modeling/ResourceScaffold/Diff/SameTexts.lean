import ResourceScaffold.Diff.Compaction

/-!
Contract: scripts that stand between the same two texts.

Owns:
- the relation, and the single steps of compaction that keep to it;
- that compaction as a whole keeps to it.

Does not own: the line numbers that edits are reported at. They are no part of the relation.
-/

namespace ResourceScaffold.Diff

/-! ## The relation -/

namespace Script

/-- Two scripts stand between the same texts. -/
structure SameTexts (first second : Script) : Prop where
  old : first.oldLines = second.oldLines
  new : first.newLines = second.newLines

theorem SameTexts.trans {first second third : Script} (left : first.SameTexts second)
    (right : second.SameTexts third) : first.SameTexts third :=
  ⟨left.old.trans right.old, left.new.trans right.new⟩

end Script

/-! ## Single steps -/

namespace Focus

theorem texts_keepBelow (lines : List Line) (oldIndex newIndex : Nat) (edits : List Edit) :
    Script.oldLines (keepBelow lines oldIndex newIndex edits) = lines ++ Script.oldLines edits ∧
      Script.newLines (keepBelow lines oldIndex newIndex edits) =
        lines ++ Script.newLines edits := by
  cases edits with
  | nil => simp [keepBelow, Edit.oldLines, Edit.newLines]
  | cons next rest =>
      by_cases kept : next.kind = .keep <;>
        simp [keepBelow, kept, Edit.growUp, Edit.oldLines, Edit.newLines]

theorem texts_keepAbove (lines : List Line) (oldIndex newIndex : Nat) (edits : List Edit) :
    Script.oldLines (keepAbove lines oldIndex newIndex edits).reverse =
        Script.oldLines edits.reverse ++ lines ∧
      Script.newLines (keepAbove lines oldIndex newIndex edits).reverse =
        Script.newLines edits.reverse ++ lines := by
  cases edits with
  | nil => simp [keepAbove, Edit.oldLines, Edit.newLines]
  | cons next rest =>
      by_cases kept : next.kind = .keep <;>
        simp [keepAbove, kept, Edit.growDown, Edit.oldLines, Edit.newLines]

theorem texts_pushKept {edit : Edit} (kept : edit.kind = .keep) (edits : List Edit) :
    Script.SameTexts (pushKept edit edits) (edit :: edits) := by
  cases found : edit.lines <;> constructor <;>
    simp [pushKept, found, Edit.oldLines, Edit.newLines, kept]

theorem texts_reverse_pushKept {edit : Edit} (kept : edit.kind = .keep) (edits : List Edit) :
    Script.SameTexts (pushKept edit edits).reverse (edits.reverse ++ [edit]) := by
  cases found : edit.lines <;> constructor <;>
    simp [pushKept, found, Edit.oldLines, Edit.newLines, kept]

theorem shrinkUp_append (kept : Edit) (count : Nat) :
    (kept.shrinkUp count).lines ++ kept.lines.drop (kept.lines.length - count) = kept.lines := by
  simp [Edit.shrinkUp]

theorem append_shrinkDown (kept : Edit) (count : Nat) :
    kept.lines.take count ++ (kept.shrinkDown count).lines = kept.lines := by
  simp [Edit.shrinkDown]

/-- An added run that slid up, with the lines that it passed after it, is what it was with those
lines in front of it. -/
theorem slideUp_append (kept edit : Edit) :
    let lines := kept.lines.drop (kept.lines.length - sharedEnd kept.lines edit.lines)
    (edit.slideUp lines).lines ++ lines = lines ++ edit.lines := by
  have passed :
      (kept.lines.drop (kept.lines.length - sharedEnd kept.lines edit.lines)).length =
        sharedEnd kept.lines edit.lines := by
    have := sharedEnd_le_left kept.lines edit.lines
    simp
    omega
  simp only [Edit.slideUp, passed, List.append_assoc]
  rw [drop_sharedEnd, List.take_append_drop]

/-- An added run that slid down, with the lines that it passed in front of it, is what it was with
those lines after it. -/
theorem append_slideDown (kept edit : Edit) :
    let lines := kept.lines.take (sharedStart kept.lines edit.lines)
    lines ++ (edit.slideDown lines).lines = edit.lines ++ lines := by
  have passed :
      (kept.lines.take (sharedStart kept.lines edit.lines)).length =
        sharedStart kept.lines edit.lines := by
    have := sharedStart_le_left kept.lines edit.lines
    simp
    omega
  simp only [Edit.slideDown, passed]
  rw [← List.append_assoc, take_sharedStart, List.take_append_drop]

/-- Sliding up past lines that an added run ends with changes neither text. -/
theorem slideUp_sameTexts {kept edit : Edit} (isKept : kept.kind = .keep)
    (isAdded : edit.kind = .add) (rest below : List Edit) :
    Script.SameTexts (slideUp (sharedEnd kept.lines edit.lines) kept rest edit below).script
      (Focus.mk (kept :: rest) edit below).script := by
  have whole := shrinkUp_append kept (sharedEnd kept.lines edit.lines)
  have slid := slideUp_append kept edit
  have shrunk : (kept.shrinkUp (sharedEnd kept.lines edit.lines)).kind = .keep := isKept
  have added (lines : List Line) : (edit.slideUp lines).kind = .add := isAdded
  constructor
  · simp only [slideUp, script, Script.oldLines_append, Script.oldLines_cons, List.reverse_cons,
      (texts_reverse_pushKept shrunk rest).old, (texts_keepBelow _ _ _ _).1, Edit.oldLines,
      isKept, isAdded, shrunk, added, Script.oldLines_nil, List.append_nil, List.nil_append,
      List.append_assoc]
    rw [← List.append_assoc (Edit.lines _), whole]
  · simp only [slideUp, script, Script.newLines_append, Script.newLines_cons, List.reverse_cons,
      (texts_reverse_pushKept shrunk rest).new, (texts_keepBelow _ _ _ _).2, Edit.newLines,
      isKept, isAdded, shrunk, added, Script.newLines_nil, List.append_nil,
      List.append_assoc]
    rw [← List.append_assoc (Edit.lines (edit.slideUp _)), slid, List.append_assoc,
      ← List.append_assoc (Edit.lines (kept.shrinkUp _)), whole]

theorem slideDown_sameTexts {kept edit : Edit} (isKept : kept.kind = .keep)
    (isAdded : edit.kind = .add) (above rest : List Edit) :
    Script.SameTexts (slideDown (sharedStart kept.lines edit.lines) above edit kept rest).script
      (Focus.mk above edit (kept :: rest)).script := by
  have whole := append_shrinkDown kept (sharedStart kept.lines edit.lines)
  have slid := append_slideDown kept edit
  have shrunk : (kept.shrinkDown (sharedStart kept.lines edit.lines)).kind = .keep := isKept
  have added (lines : List Line) : (edit.slideDown lines).kind = .add := isAdded
  constructor
  · simp only [slideDown, script, Script.oldLines_append, Script.oldLines_cons,
      (texts_pushKept shrunk rest).old, (texts_keepAbove _ _ _ _).1, Edit.oldLines,
      isKept, isAdded, shrunk, added, List.nil_append, List.append_assoc]
    rw [← List.append_assoc (List.take _ _), whole]
  · simp only [slideDown, script, Script.newLines_append, Script.newLines_cons,
      (texts_pushKept shrunk rest).new, (texts_keepAbove _ _ _ _).2, Edit.newLines,
      isKept, isAdded, shrunk, added, List.append_assoc]
    rw [← List.append_assoc (List.take _ _), slid, List.append_assoc,
      ← List.append_assoc (List.take _ _), whole]

theorem joinUp_sameTexts {prior edit : Edit} (sameKind : prior.kind = edit.kind)
    (rest below : List Edit) :
    Script.SameTexts (Focus.mk rest (prior.growDown edit.lines) below).script
      (Focus.mk (prior :: rest) edit below).script := by
  constructor <;> cases found : edit.kind <;>
    simp [script, Edit.oldLines, Edit.newLines, sameKind, found, Edit.growDown]

theorem joinDown_sameTexts {next edit : Edit} (sameKind : next.kind = edit.kind)
    (above rest : List Edit) :
    Script.SameTexts (Focus.mk above (edit.growDown next.lines) rest).script
      (Focus.mk above edit (next :: rest)).script := by
  constructor <;> cases found : edit.kind <;>
    simp [script, Edit.oldLines, Edit.newLines, sameKind, found, Edit.growDown]

/-- A removal and an addition can change places without changing either text. -/
theorem swap_sameTexts {first second : Edit} (firstChanges : first.kind ≠ .keep)
    (secondChanges : second.kind ≠ .keep) (different : first.kind ≠ second.kind)
    (before after : Script) :
    Script.SameTexts (before ++ second :: first :: after) (before ++ first :: second :: after) := by
  constructor <;> cases foundFirst : first.kind <;> cases foundSecond : second.kind <;>
    simp_all [Edit.oldLines, Edit.newLines]

/-! ## Whole moves -/

/-- An edit that moves up keeps its kind and changes neither text. -/
theorem upWithin_sameTexts (steps : Nat) (focus : Focus) (changes : focus.edit.kind ≠ .keep) :
    (focus.upWithin steps).edit.kind = focus.edit.kind ∧
      Script.SameTexts (focus.upWithin steps).script focus.script := by
  induction steps generalizing focus with
  | zero => exact ⟨rfl, rfl, rfl⟩
  | succ steps inductionHypothesis =>
      obtain ⟨above, edit, below⟩ := focus
      cases above with
      | nil => exact ⟨rfl, rfl, rfl⟩
      | cons prior rest =>
          simp only [upWithin]
          split
          · rename_i isKept
            split
            · rename_i isAdded
              split
              · exact ⟨rfl, rfl, rfl⟩
              · obtain ⟨kind, texts⟩ := inductionHypothesis
                  (slideUp (sharedEnd prior.lines edit.lines) prior rest edit below) changes
                exact ⟨kind, texts.trans (slideUp_sameTexts isKept isAdded rest below)⟩
            · exact ⟨rfl, rfl, rfl⟩
          · split
            · rename_i sameKind
              obtain ⟨kind, texts⟩ := inductionHypothesis
                ⟨rest, prior.growDown edit.lines, below⟩ (sameKind ▸ changes :)
              exact ⟨kind.trans sameKind, texts.trans (joinUp_sameTexts sameKind rest below)⟩
            · rename_i priorChanges different
              obtain ⟨kind, texts⟩ := inductionHypothesis ⟨rest, edit, prior :: below⟩ changes
              refine ⟨kind, texts.trans ?_⟩
              simpa [script] using
                swap_sameTexts priorChanges changes different rest.reverse below

theorem downWithin_sameTexts (steps : Nat) (focus : Focus) (changes : focus.edit.kind ≠ .keep) :
    (focus.downWithin steps).edit.kind = focus.edit.kind ∧
      Script.SameTexts (focus.downWithin steps).script focus.script := by
  induction steps generalizing focus with
  | zero => exact ⟨rfl, rfl, rfl⟩
  | succ steps inductionHypothesis =>
      obtain ⟨above, edit, below⟩ := focus
      cases below with
      | nil => exact ⟨rfl, rfl, rfl⟩
      | cons next rest =>
          simp only [downWithin]
          split
          · rename_i isKept
            split
            · rename_i isAdded
              split
              · exact ⟨rfl, rfl, rfl⟩
              · obtain ⟨kind, texts⟩ := inductionHypothesis
                  (slideDown (sharedStart next.lines edit.lines) above edit next rest) changes
                exact ⟨kind, texts.trans (slideDown_sameTexts isKept isAdded above rest)⟩
            · exact ⟨rfl, rfl, rfl⟩
          · split
            · rename_i sameKind
              obtain ⟨kind, texts⟩ := inductionHypothesis
                ⟨above, edit.growDown next.lines, rest⟩ changes
              exact ⟨kind, texts.trans (joinDown_sameTexts sameKind above rest)⟩
            · rename_i nextChanges different
              obtain ⟨kind, texts⟩ := inductionHypothesis ⟨next :: above, edit, rest⟩ changes
              refine ⟨kind, texts.trans ?_⟩
              simpa [script] using
                swap_sameTexts changes nextChanges (Ne.symm different) above.reverse rest

theorem settle_sameTexts (focus : Focus) (changes : focus.edit.kind ≠ .keep) :
    Script.SameTexts focus.settle.script focus.script := by
  obtain ⟨kind, raised⟩ := upWithin_sameTexts (Script.size focus.above + 1) focus changes
  exact (downWithin_sameTexts _ _ (kind ▸ changes :)).2.trans raised

end Focus

theorem settleWithin_sameTexts (kind : EditKind) (changes : kind ≠ .keep) (steps : Nat)
    (done rest : List Edit) :
    Script.SameTexts (settleWithin kind steps done rest) (done.reverse ++ rest) := by
  induction steps generalizing done rest with
  | zero => exact ⟨rfl, rfl⟩
  | succ steps inductionHypothesis =>
      cases rest with
      | nil => simpa [settleWithin] using Script.SameTexts.mk rfl rfl
      | cons edit rest =>
          simp only [settleWithin]
          split
          · rename_i sameKind
            refine (inductionHypothesis _ _).trans ?_
            simpa [Focus.script] using
              Focus.settle_sameTexts (Focus.mk done edit rest) (sameKind ▸ changes :)
          · simpa using inductionHypothesis (edit :: done) rest

/-- Compaction changes neither text. -/
theorem compact_sameTexts (script : Script) : Script.SameTexts (compact script) script := by
  have removals := settleWithin_sameTexts .remove (by decide) (Script.size script + 1)
    [] script
  have additions := settleWithin_sameTexts .add (by decide)
    (Script.size (settleKind .remove script) + 1) [] (settleKind .remove script)
  exact additions.trans removals

end ResourceScaffold.Diff

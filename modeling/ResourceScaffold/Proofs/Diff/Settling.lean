import ResourceScaffold.Diff.Bisection
import ResourceScaffold.Diff.SameTexts

/-!
Contract: what compaction keeps of a script.

Owns:
- properties of scripts that each single step of compaction keeps, and so compaction as a whole;
- every edit between two texts has lines, and between a text and itself all lines are kept.

Does not own: the texts of a script, and the line numbers of its edits.
-/

namespace ResourceScaffold.Diff

/-! ## Single steps -/

/-- A property of scripts that each step of compaction keeps: an added run slides over kept lines,
neighbours of one kind are joined, and a removal and an addition change places. -/
structure KeptByCompaction (property : Script → Prop) : Prop where
  slideUp {kept edit : Edit} {rest below : List Edit} (isKept : kept.kind = .keep)
    (isAdded : edit.kind = .add) (moves : sharedEnd kept.lines edit.lines ≠ 0)
    (holds : property (Focus.mk (kept :: rest) edit below).script) :
    property (Focus.slideUp (sharedEnd kept.lines edit.lines) kept rest edit below).script
  slideDown {kept edit : Edit} {above rest : List Edit} (isKept : kept.kind = .keep)
    (isAdded : edit.kind = .add) (moves : sharedStart kept.lines edit.lines ≠ 0)
    (holds : property (Focus.mk above edit (kept :: rest)).script) :
    property (Focus.slideDown (sharedStart kept.lines edit.lines) above edit kept rest).script
  join {first second : Edit} {before after : Script} (sameKind : first.kind = second.kind)
    (changes : first.kind ≠ .keep) (holds : property (before ++ first :: second :: after)) :
    property (before ++ first.growDown second.lines :: after)
  swap {first second : Edit} {before after : Script} (firstChanges : first.kind ≠ .keep)
    (secondChanges : second.kind ≠ .keep) (different : first.kind ≠ second.kind)
    (holds : property (before ++ first :: second :: after)) :
    property (before ++ second :: first :: after)

/-! ## Whole moves -/

namespace KeptByCompaction

variable {property : Script → Prop} (kept : KeptByCompaction property)

include kept

theorem upWithin (steps : Nat) (focus : Focus) (changes : focus.edit.kind ≠ .keep)
    (holds : property focus.script) : property (focus.upWithin steps).script := by
  induction steps generalizing focus with
  | zero => exact holds
  | succ steps inductionHypothesis =>
      obtain ⟨above, edit, below⟩ := focus
      cases above with
      | nil => exact holds
      | cons prior rest =>
          simp only [Focus.upWithin]
          split
          · rename_i isKept
            split
            · rename_i isAdded
              split
              · exact holds
              · rename_i moves
                exact inductionHypothesis _ changes (kept.slideUp isKept isAdded moves holds)
            · exact holds
          · rename_i priorChanges
            rw [Focus.script, List.reverse_cons, List.append_assoc, List.singleton_append] at holds
            split
            · rename_i sameKind
              exact inductionHypothesis _ priorChanges (kept.join sameKind priorChanges holds)
            · rename_i different
              refine inductionHypothesis _ changes ?_
              exact kept.swap priorChanges changes different holds

theorem downWithin (steps : Nat) (focus : Focus) (changes : focus.edit.kind ≠ .keep)
    (holds : property focus.script) : property (focus.downWithin steps).script := by
  induction steps generalizing focus with
  | zero => exact holds
  | succ steps inductionHypothesis =>
      obtain ⟨above, edit, below⟩ := focus
      cases below with
      | nil => exact holds
      | cons next rest =>
          simp only [Focus.downWithin]
          split
          · rename_i isKept
            split
            · rename_i isAdded
              split
              · exact holds
              · rename_i moves
                exact inductionHypothesis _ changes (kept.slideDown isKept isAdded moves holds)
            · exact holds
          · rename_i nextChanges
            split
            · rename_i sameKind
              exact inductionHypothesis _ changes (kept.join sameKind.symm changes holds)
            · rename_i different
              refine inductionHypothesis _ changes ?_
              rw [Focus.script, List.reverse_cons, List.append_assoc, List.singleton_append]
              exact kept.swap changes nextChanges (Ne.symm different) holds

theorem settle (focus : Focus) (changes : focus.edit.kind ≠ .keep)
    (holds : property focus.script) : property focus.settle.script := by
  have raised := kept.upWithin (Script.size focus.above + 1) focus changes holds
  have kind := (Focus.upWithin_sameTexts (Script.size focus.above + 1) focus changes).1
  exact kept.downWithin _ _ (kind ▸ changes :) raised

theorem settleWithin {kind : EditKind} (changes : kind ≠ .keep) (steps : Nat)
    (done rest : List Edit) (holds : property (done.reverse ++ rest)) :
    property (settleWithin kind steps done rest) := by
  induction steps generalizing done rest with
  | zero => exact holds
  | succ steps inductionHypothesis =>
      cases rest with
      | nil =>
          rw [List.append_nil] at holds
          exact holds
      | cons edit rest =>
          simp only [Diff.settleWithin]
          split
          · rename_i sameKind
            refine inductionHypothesis _ _ ?_
            have settled := kept.settle ⟨done, edit, rest⟩ (sameKind ▸ changes :) holds
            simpa [Focus.script] using settled
          · exact inductionHypothesis _ _ (by simpa using holds)

theorem compact {script : Script} (holds : property script) : property (compact script) :=
  kept.settleWithin (by decide) _ [] _ (kept.settleWithin (by decide) _ [] _ holds)

end KeptByCompaction

/-! ## Properties of single edits -/

/-- A property of edits that kept runs have, and that goes by the kind of an edit and by whether it
has lines. -/
structure EditWise (property : Edit → Prop) : Prop where
  kept {lines : List Line} (nonempty : lines ≠ []) (oldIndex newIndex : Nat) :
    property ⟨.keep, lines, oldIndex, newIndex⟩
  relined {edit other : Edit} (holds : property edit) (sameKind : other.kind = edit.kind)
    (nonempty : edit.lines ≠ [] → other.lines ≠ []) : property other

namespace EditWise

variable {property : Edit → Prop} (wise : EditWise property) {edits : List Edit}

include wise

theorem pushKept {edit : Edit} (isKept : edit.kind = .keep) (all : ∀ other ∈ edits, property other) :
    ∀ other ∈ Focus.pushKept edit edits, property other := by
  rw [Focus.pushKept]
  split
  · exact all
  · rename_i some
    have someKept := wise.kept (List.cons_ne_nil [] []) 0 0
    have here : property edit := wise.relined someKept isKept fun _ => by simpa using some
    exact List.forall_mem_cons.2 ⟨here, all⟩

theorem keepBelow {lines : List Line} (nonempty : lines ≠ []) (oldIndex newIndex : Nat)
    (all : ∀ other ∈ edits, property other) :
    ∀ other ∈ Focus.keepBelow lines oldIndex newIndex edits, property other := by
  have added := wise.kept nonempty oldIndex newIndex
  cases edits with
  | nil => exact List.forall_mem_cons.2 ⟨added, all⟩
  | cons next rest =>
      rw [Focus.keepBelow]
      split
      · rw [List.forall_mem_cons] at all ⊢
        have grown : (next.growUp lines).lines ≠ [] := List.append_ne_nil_of_left_ne_nil nonempty _
        exact ⟨wise.relined all.1 rfl fun _ => grown, all.2⟩
      · exact List.forall_mem_cons.2 ⟨added, all⟩

theorem keepAbove {lines : List Line} (nonempty : lines ≠ []) (oldIndex newIndex : Nat)
    (all : ∀ other ∈ edits, property other) :
    ∀ other ∈ Focus.keepAbove lines oldIndex newIndex edits, property other := by
  have added := wise.kept nonempty oldIndex newIndex
  cases edits with
  | nil => exact List.forall_mem_cons.2 ⟨added, all⟩
  | cons next rest =>
      rw [Focus.keepAbove]
      split
      · rw [List.forall_mem_cons] at all ⊢
        have grown : (next.growDown lines).lines ≠ [] :=
          List.append_ne_nil_of_right_ne_nil _ nonempty
        exact ⟨wise.relined all.1 rfl fun _ => grown, all.2⟩
      · exact List.forall_mem_cons.2 ⟨added, all⟩

/-- Compaction keeps what goes by the kinds of edits and by whether they have lines. -/
theorem keptByCompaction : KeptByCompaction fun script => ∀ edit ∈ script, property edit where
  slideUp {kept edit rest below} isKept isAdded moves holds := by
    have moved : kept.lines.drop (kept.lines.length - sharedEnd kept.lines edit.lines) ≠ [] := by
      have within := sharedEnd_le_left kept.lines edit.lines
      rw [Ne, ← List.length_eq_zero_iff, List.length_drop]
      omega
    simp only [Focus.script, Focus.slideUp, List.forall_mem_append, List.mem_reverse,
      List.forall_mem_cons] at holds ⊢
    obtain ⟨⟨-, above⟩, here, others⟩ := holds
    refine ⟨wise.pushKept isKept above, ?_, wise.keepBelow moved _ _ others⟩
    exact wise.relined here rfl fun _ => List.append_ne_nil_of_left_ne_nil moved _
  slideDown {kept edit above rest} isKept isAdded moves holds := by
    have moved : kept.lines.take (sharedStart kept.lines edit.lines) ≠ [] := by
      have within := sharedStart_le_left kept.lines edit.lines
      rw [Ne, ← List.length_eq_zero_iff, List.length_take]
      omega
    simp only [Focus.script, Focus.slideDown, List.forall_mem_append, List.mem_reverse,
      List.forall_mem_cons] at holds ⊢
    obtain ⟨front, here, -, others⟩ := holds
    refine ⟨wise.keepAbove moved _ _ front, ?_, wise.pushKept isKept others⟩
    exact wise.relined here rfl fun _ => List.append_ne_nil_of_right_ne_nil _ moved
  join {first second before after} sameKind changes holds := by
    simp only [List.forall_mem_append, List.forall_mem_cons] at holds ⊢
    obtain ⟨front, here, -, others⟩ := holds
    exact ⟨front, wise.relined here rfl (List.append_ne_nil_of_left_ne_nil · _), others⟩
  swap {first second before after} firstChanges secondChanges different holds := by
    simp only [List.forall_mem_append, List.forall_mem_cons] at holds ⊢
    exact ⟨holds.1, holds.2.2.1, holds.2.1, holds.2.2.2⟩

end EditWise

/-! ## Edits with lines -/

def HasLines (script : Script) : Prop := ∀ edit ∈ script, edit.lines ≠ []

theorem hasLines_append_iff {first second : Script} :
    HasLines (first ++ second) ↔ HasLines first ∧ HasLines second :=
  List.forall_mem_append

theorem hasLines_keptByCompaction : KeptByCompaction HasLines :=
  EditWise.keptByCompaction ⟨fun nonempty _ _ => nonempty, fun has _ keeps => keeps has⟩

/-! ## What is found -/

theorem hasLines_editOf (kind : EditKind) (lines : List Line) (oldIndex newIndex : Nat) :
    HasLines (editOf kind lines oldIndex newIndex) := by
  rw [editOf]
  split
  · exact List.forall_mem_nil _
  · rename_i some
    exact List.forall_mem_singleton.2 (by simpa using some)

theorem hasLines_replaceAll (old new : List Line) (oldIndex newIndex : Nat) :
    HasLines (replaceAll old new oldIndex newIndex) :=
  hasLines_append_iff.2 ⟨hasLines_editOf _ _ _ _, hasLines_editOf _ _ _ _⟩

theorem hasLines_divide (depth : Nat) (old new : List Line) (oldIndex newIndex : Nat) :
    HasLines (divide depth old new oldIndex newIndex) := by
  induction depth generalizing old new oldIndex newIndex with
  | zero => exact hasLines_replaceAll old new oldIndex newIndex
  | succ depth inductionHypothesis =>
      simp only [divide, keepEnds, hasLines_append_iff]
      refine ⟨⟨hasLines_editOf _ _ _ _, ?_⟩, hasLines_editOf _ _ _ _⟩
      rw [splitMiddle]
      split
      · exact hasLines_replaceAll _ _ _ _
      · split
        · exact hasLines_append_iff.2 ⟨inductionHypothesis _ _ _ _, inductionHypothesis _ _ _ _⟩
        · exact hasLines_replaceAll _ _ _ _

theorem hasLines_compact (old new : List Line) : HasLines (compact (shortestScript old new)) :=
  hasLines_keptByCompaction.compact (hasLines_divide _ _ _ _ _)

/-! ## Equal texts -/

def KeepsAll (script : Script) : Prop := ∀ edit ∈ script, edit.kind = .keep

theorem keepsAll_keptByCompaction : KeptByCompaction KeepsAll :=
  EditWise.keptByCompaction ⟨fun _ _ _ => rfl, fun isKept sameKind _ => sameKind.trans isKept⟩

theorem sharedStart_self (lines : List Line) : sharedStart lines lines = lines.length := by
  induction lines with
  | nil => rfl
  | cons line rest inductionHypothesis => simp [sharedStart, inductionHypothesis]

/-- Between a text and itself there is nothing to change. -/
theorem keepsAll_shortestScript (lines : List Line) : KeepsAll (shortestScript lines lines) := by
  have found : shortestScript lines lines = editOf .keep lines 0 0 := by
    simp [shortestScript, divide, keepEnds, sharedStart_self, splitMiddle, replaceAll, editOf]
  rw [found, editOf]
  split
  · exact List.forall_mem_nil _
  · simp [KeepsAll]

end ResourceScaffold.Diff

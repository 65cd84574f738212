import ResourceScaffold.Proofs.Diff.Reading
import ResourceScaffold.Proofs.Diff.Settling

/-!
Contract: what the difference of an edit of the aggregator says about the edit.

Owns:
- there is no difference exactly if the text stays as it is;
- a difference is read as hunks that make up both texts, with no more context than is asked for;
- applying the difference makes the old text the new one, if the script is numbered by the lines in
  front of its parts;
- an edit of which the script is not, so that its difference cannot be applied.

Does not own: finding a script.
-/

namespace ResourceScaffold

namespace Diff

/-! ## Lines of hunks -/

theorem Tiles.mem_or_mem {hunks : List PatchHunk} {old new : List (List Char)}
    (tiles : Tiles hunks old new) :
    ∀ hunk ∈ hunks, ∀ line ∈ hunk.lines, line.2 ∈ old ∨ line.2 ∈ new := by
  induction tiles with
  | rest lines => nofun
  | hunk kept hunk others inductionHypothesis =>
      refine List.forall_mem_cons.2 ⟨fun line member => ?_, fun other isOther line member => ?_⟩
      · by_cases isAdded : line.1 = .added
        · have inNew : line.2 ∈ newSide hunk.lines :=
            List.mem_map.2 ⟨line, List.mem_filter.2 ⟨member, by simp [isAdded]⟩, rfl⟩
          exact Or.inr (List.mem_append_left _ (List.mem_append_right _ inNew))
        · have inOld : line.2 ∈ oldSide hunk.lines :=
            List.mem_map.2 ⟨line, List.mem_filter.2 ⟨member, by simpa using isAdded⟩, rfl⟩
          exact Or.inl (List.mem_append_left _ (List.mem_append_right _ inOld))
      · exact (inductionHypothesis other isOther line member).imp
          (List.mem_append_right _) (List.mem_append_right _)

/-! ## Between two texts -/

def regionsBetween (old new : List Char) : List Region :=
  regionsOf (compact (shortestScript (Text.linesWithEnds old) (Text.linesWithEnds new)))

theorem texts_regionsBetween (old new : List Char) :
    oldText (regionsBetween old new) = Text.linesWithEnds old ∧
      newText (regionsBetween old new) = Text.linesWithEnds new := by
  rw [regionsBetween, (texts_regionsOf _).1, (texts_regionsOf _).2, (compact_sameTexts _).old,
    (compact_sameTexts _).new]
  exact divide_connects _ _ _ _ _

/-- The hunks between two texts make them up, and are numbered if the regions are. -/
theorem hunksBetween_tile (old new : List Char) :
    HunksTile (Numbered 0 0 (regionsBetween old new)) 0 0 (hunksBetween old new)
      (Text.linesWithEnds old) (Text.linesWithEnds new) := by
  rw [← (texts_regionsBetween old new).1, ← (texts_regionsBetween old new).2]
  exact hunksOf_tile contextRadius id

theorem hunksBetween_framed (old new : List Char) :
    ∀ hunk ∈ hunksBetween old new, hunk ≠ [] ∧ Framed contextRadius hunk :=
  hunksOf_framed (regular_regionsOf (hasLines_compact _ _))

/-- A script that keeps all lines has no hunks. -/
theorem hunksOf_keepsAll {script : Script} (keeps : KeepsAll script) (context : Nat) :
    hunksOf context (regionsOf script) = [] := by
  have general (regions : List Region)
      (one : regions = [] ∨ ∃ lines oldIndex newIndex, regions = [.kept lines oldIndex newIndex]) :
      script.foldl joinEdit regions = [] ∨
        ∃ lines oldIndex newIndex,
          script.foldl joinEdit regions = [.kept lines oldIndex newIndex] := by
    induction script generalizing regions with
    | nil => exact one
    | cons edit rest inductionHypothesis =>
        obtain ⟨isKept, others⟩ := List.forall_mem_cons.1 keeps
        refine inductionHypothesis others _ (Or.inr ?_)
        obtain rfl | ⟨lines, oldIndex, newIndex, rfl⟩ := one <;> simp [joinEdit, isKept]
  rw [regionsOf]
  obtain none | ⟨lines, oldIndex, newIndex, one⟩ := general [] (Or.inl rfl)
  · rw [none]
    rfl
  · have short : ¬2 * context < ((lines.drop (lines.length - context)).take context).length := by
      rw [List.length_take]
      omega
    rw [one]
    simp only [hunksOf, List.reverse_singleton, trimFirst, trimLast, cutHunks, if_neg short]

/-- Between two texts there are no hunks exactly if they are the same. -/
theorem hunksBetween_eq_nil_iff {old new : List Char} : hunksBetween old new = [] ↔ old = new := by
  constructor
  · intro none
    have tile := hunksBetween_tile old new
    rw [none] at tile
    rw [← Text.flatten_linesWithEnds old, tile.eq_of_nil, Text.flatten_linesWithEnds]
  · rintro rfl
    exact hunksOf_keepsAll (keepsAll_keptByCompaction.compact (keepsAll_shortestScript _)) _

/-- A difference is empty, or it names both files and shows the hunks. -/
theorem unified_eq (oldName newName : String) (old new : List Char) :
    unified oldName newName old new =
      if old = new then []
      else nameLine '-' oldName.toList ++ nameLine '+' newName.toList ++
        (hunksBetween old new).flatMap Hunk.print := by
  rw [unified]
  split
  · rename_i none
    rw [if_pos (hunksBetween_eq_nil_iff.1 none)]
  · rename_i some
    rw [if_neg fun same => some (hunksBetween_eq_nil_iff.2 same)]
    simp [nameLine, String.toList_append]

def patchBetween (oldName newName : String) (old new : List Char) : Patch :=
  ⟨oldName.toList, newName.toList, (hunksBetween old new).map Hunk.patchHunk⟩

theorem patchBetween_tiles (oldName newName : String) (old new : List Char) :
    Tiles (patchBetween oldName newName old new).hunks (Text.linesWithEnds old)
      (Text.linesWithEnds new) :=
  tiles_of_hunksTile (hunksBetween_tile old new)

theorem patchBetween_withinContext (oldName newName : String) (old new : List Char) :
    ∀ hunk ∈ (patchBetween oldName newName old new).hunks, hunk.WithinContext contextRadius := by
  intro hunk member
  obtain ⟨shown, isShown, rfl⟩ := List.mem_map.1 member
  exact patchHunk_withinContext (hunksBetween_framed old new shown isShown).2

/-- If the regions are numbered by the lines in front of them, the patch leads to the new text. -/
theorem patchBetween_leadsTo (oldName newName : String) {old new : List Char}
    (numbered : Numbered 0 0 (regionsBetween old new)) :
    (patchBetween oldName newName old new).LeadsTo old new :=
  Patch.leadsTo_of_applyHunks (applyHunks_of_hunksTile numbered (hunksBetween_tile old new)
    fun hunk member => (hunksBetween_framed old new hunk member).1)

/-- The difference of two different texts is read as the patch between them. -/
theorem read?_unified {oldName newName : String} {old new : List Char} (different : old ≠ new)
    (oldInside : ∀ character ∈ oldName.toList, Text.isLineEnd character = false)
    (newInside : ∀ character ∈ newName.toList, Text.isLineEnd character = false) :
    Patch.read? (unified oldName newName old new) =
      some (patchBetween oldName newName old new) := by
  rw [unified_eq, if_neg different]
  refine read?_of_readsAs oldInside newInside ?_
  rw [List.flatMap_map]
  refine .flatMap fun hunk member => readsAs_print (hunksBetween_framed old new hunk member).1 ?_
  intro line isLine
  have inTexts := (patchBetween_tiles oldName newName old new).mem_or_mem _
    (List.mem_map_of_mem member) line isLine
  exact inTexts.elim (Text.isLine_linesWithEnds old _) (Text.isLine_linesWithEnds new _)

end Diff

open Diff

namespace AggregatorEdit

def regions (edit : AggregatorEdit) : List Region :=
  regionsBetween edit.before.toList edit.after.toList

/-- The difference of an edit that changes the text is read as the patch between both texts. -/
theorem read?_difference {edit : AggregatorEdit}
    (oneLine : ∀ character ∈ edit.path.text.toList, Text.isLineEnd character = false)
    (different : edit.before ≠ edit.after) :
    Patch.read? edit.difference.toList =
      some (patchBetween ("a/" ++ edit.path.text) ("b/" ++ edit.path.text) edit.before.toList
        edit.after.toList) := by
  have named (lead : String) (inside : lead.toList.all (!Text.isLineEnd ·) = true) :
      ∀ character ∈ (lead ++ edit.path.text).toList, Text.isLineEnd character = false := by
    rw [String.toList_append]
    exact List.forall_mem_append.2 ⟨by simpa using inside, oneLine⟩
  rw [difference, String.toList_ofList]
  exact read?_unified (fun same => different (String.toList_inj.1 same)) (named "a/" (by decide))
    (named "b/" (by decide))

/-- The difference of an edit is empty exactly if the text stays as it is. Otherwise it is read as a
patch between the two names of the aggregator, whose hunks with the kept lines between them make up
both texts and show no more than three kept lines at their start and at their end. If the regions of
the script are numbered by the lines in front of them, then the hunks are ascending and apart, their
headers have the ranges of their lines, and applying them to the old text makes it the new one. -/
theorem difference_reads (edit : AggregatorEdit)
    (oneLine : ∀ character ∈ edit.path.text.toList, Text.isLineEnd character = false) :
    (edit.difference = "" ↔ edit.before = edit.after) ∧
      (edit.before ≠ edit.after →
        ∃ patch, Patch.read? edit.difference.toList = some patch ∧
          patch.oldName = ("a/" ++ edit.path.text).toList ∧
          patch.newName = ("b/" ++ edit.path.text).toList ∧
          Tiles patch.hunks (Text.linesWithEnds edit.before.toList)
            (Text.linesWithEnds edit.after.toList) ∧
          (∀ hunk ∈ patch.hunks, hunk.WithinContext 3) ∧
          (Numbered 0 0 edit.regions → patch.LeadsTo edit.before.toList edit.after.toList)) := by
  have same : edit.before.toList = edit.after.toList ↔ edit.before = edit.after :=
    String.toList_inj
  refine ⟨?_, fun different => ?_⟩
  · rw [difference, ← String.toList_inj, String.toList_ofList, unified_eq, ← same]
    split_ifs with equal
    · simp [equal]
    · simp [equal, nameLine]
  · exact ⟨_, read?_difference oneLine different, rfl, rfl, patchBetween_tiles _ _ _ _,
      patchBetween_withinContext _ _ _ _, patchBetween_leadsTo _ _⟩

/-- An edit of a text with all kinds of line ends, of which the last line gets an end. -/
def mixed : AggregatorEdit :=
  ⟨⟨"src/routes/_index.ts"⟩, "one\r\ntwo\rthree", "one\r\nzero\ntwo\rthree\n"⟩

theorem difference_reads_mixed :
    (∀ character ∈ mixed.path.text.toList, Text.isLineEnd character = false) ∧
      mixed.before ≠ mixed.after ∧ Numbered 0 0 mixed.regions ∧
      ∃ patch, Patch.read? mixed.difference.toList = some patch ∧
        patch.LeadsTo mixed.before.toList mixed.after.toList := by
  have all : mixed.path.text.toList.all (!Text.isLineEnd ·) = true := by decide
  have oneLine : ∀ character ∈ mixed.path.text.toList, Text.isLineEnd character = false := by
    simpa using all
  have different : mixed.before ≠ mixed.after := by decide
  have numbered : Numbered 0 0 mixed.regions := by decide +kernel
  obtain ⟨patch, read, -, -, -, -, leads⟩ := (difference_reads mixed oneLine).2 different
  exact ⟨oneLine, different, numbered, patch, read, leads numbered⟩

/-- An edit of which the shortest script removes one line, keeps the other and adds one like it.
Compaction brings the addition past the removal, which still counts it as lying in front. -/
def swapped : AggregatorEdit := ⟨⟨"index.ts"⟩, "b\na\n", "a\na\n"⟩

theorem not_leadsTo_swapped :
    ¬∃ patch, Patch.read? swapped.difference.toList = some patch ∧
      patch.LeadsTo swapped.before.toList swapped.after.toList := by
  have misplaced : (Patch.read? swapped.difference.toList).bind (·.applied? swapped.before.toList) =
      none := by decide +kernel
  rintro ⟨patch, read, leads⟩
  rw [read, Option.bind_some, leads.applies] at misplaced
  cases misplaced

end AggregatorEdit

end ResourceScaffold

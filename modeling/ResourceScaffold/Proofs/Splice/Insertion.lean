import ResourceScaffold.Proofs.Splice.Missing
import ResourceScaffold.Proofs.Text.Encoding

/-!
Contract: one insertion in front of an anchor, for texts, anchors and contents of any kind.

Owns:
- when an insertion succeeds;
- that there is one place only where it can go, in front of the first anchor, also among anchors that
  overlap each other.

Does not own: two insertions one after the other, and the anchors of the settings.
-/

namespace ResourceScaffold

open Text

variable {text anchor content result : String}

/-- An insertion fails exactly if the anchor is empty or the text has it nowhere. -/
theorem exists_insertBefore_iff :
    (∃ result, insertBefore text anchor content = some result) ↔
      anchor ≠ "" ∧ ∃ before after, text = before ++ anchor ++ after := by
  rw [← Option.ne_none_iff_exists', ne_eq, insertBefore_eq_none_iff, Absent, not_or, not_not,
    String.toList_eq_nil_iff]
  refine and_congr_right fun _ => ⟨?_, ?_⟩
  · rintro ⟨before, after, whole⟩
    refine ⟨String.ofList before, String.ofList after, ?_⟩
    rw [← String.toList_inj, String.toList_append, String.toList_append, String.toList_ofList,
      String.toList_ofList, whole]
  · rintro ⟨before, after, rfl⟩
    refine ⟨before.toList, after.toList, ?_⟩
    rw [String.toList_append, String.toList_append]

/-- What an insertion gives has the content in a cut in front of the first anchor. -/
theorem exists_cutsAtFirst_of_insertBefore
    (inserted : insertBefore text anchor content = some result) :
    ∃ before after, CutsAtFirst anchor text before after ∧ result = before ++ content ++ after := by
  obtain ⟨nonempty, place, first, chars⟩ := insertBefore_eq_some_iff.1 inserted
  have whole : text =
      String.ofList (text.toList.take place) ++ String.ofList (text.toList.drop place) := by
    rw [← String.toList_inj, String.toList_append, String.toList_ofList, String.toList_ofList,
      List.take_append_drop]
  refine ⟨String.ofList (text.toList.take place), String.ofList (text.toList.drop place), ?_, ?_⟩
  · have cuts := first.isFirst
    rw [← String.toList_ofList (l := text.toList.take place),
      ← String.toList_ofList (l := text.toList.drop place)] at cuts
    have cut := cuts.cutsAtFirst (mt String.toList_eq_nil_iff.2 nonempty)
    rwa [← whole] at cut
  · rw [← String.toList_inj, chars, insertAt, String.toList_append, String.toList_append,
      String.toList_ofList, String.toList_ofList]

/-- An insertion succeeds exactly if the anchor has a character and the text has the anchor. Then the
text has one cut in front of the first anchor and no other one, and the content is in that cut. -/
theorem insertBefore_at_first_anchor (text anchor content : String) :
    ((∃ result, insertBefore text anchor content = some result) ↔
      anchor ≠ "" ∧ ∃ before after, text = before ++ anchor ++ after) ∧
    ∀ result, insertBefore text anchor content = some result →
      ∃ before after, CutsAtFirst anchor text before after ∧
        (∀ before' after', CutsAtFirst anchor text before' after' →
          before' = before ∧ after' = after) ∧
        result = before ++ content ++ after := by
  refine ⟨exists_insertBefore_iff, fun result inserted => ?_⟩
  obtain ⟨before, after, cuts, whole⟩ := exists_cutsAtFirst_of_insertBefore inserted
  exact ⟨before, after, cuts, fun _ _ cuts' => cuts.unique cuts', whole⟩

/-- An anchor that the text begins and then breaks off, and that starts over inside what was read. -/
theorem insertBefore_at_first_anchor_restarted :
    insertBefore "añaañaañab;" "añaañab" "→" = some "aña→añaañab;" ∧
      ∃ before after, CutsAtFirst "añaañab" "añaañaañab;" before after ∧
        (∀ before' after', CutsAtFirst "añaañab" "añaañaañab;" before' after' →
          before' = before ∧ after' = after) ∧
        "aña→añaañab;" = before ++ "→" ++ after := by
  have inserted : insertBefore "añaañaañab;" "añaañab" "→" = some "aña→añaañab;" := by decide +kernel
  exact ⟨inserted, (insertBefore_at_first_anchor _ _ _).2 _ inserted⟩

end ResourceScaffold

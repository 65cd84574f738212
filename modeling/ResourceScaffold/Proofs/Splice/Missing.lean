import ResourceScaffold.Proofs.Splice.Placement
import ResourceScaffold.Proofs.Splice.Repeated

/-!
Contract: which anchor is reported missing, told from the text as it was before both insertions.

Owns:
- occurrences in a text that a content was put into, told from the parts of the text;
- that the reported anchor is the first one that is missing, where an anchor which the import tears
  apart counts as missing and one which the import brings along does not;
- when the report is that of the given text, as it always is for anchors that keep apart.

Does not own: where the insertions go if no anchor is missing.
-/

namespace ResourceScaffold

namespace Text

/-! ## Occurrences around a content -/

variable {needle content text : List Char} {place : Nat}

/-- In the text with the content put in, an occurrence of the needle has a character of the content
or stands across the place where it was put in. -/
def ReachesInto (needle content text : List Char) (place : Nat) : Prop :=
  ∃ start, needle <+: (insertAt place content text).drop start ∧
    start < place + content.length ∧ place < start + needle.length

/-- A text with a content put in has the needle in front of the content, behind it, or reaching into
it. -/
theorem infix_insertAt_iff (inside : place ≤ text.length) :
    needle <:+: insertAt place content text ↔
      needle <:+: text.take place ∨ needle <:+: text.drop place ∨
        ReachesInto needle content text place := by
  obtain ⟨before, after, rfl, rfl⟩ := exists_parts inside
  rw [insertAt_length, List.take_left, List.drop_left, List.append_assoc]
  constructor
  · rintro ⟨earlier, rest, same⟩
    rw [List.append_assoc] at same
    have occurs : needle <+: (before ++ (content ++ after)).drop earlier.length := by
      rw [← same, List.drop_left]
      exact List.prefix_append _ _
    by_cases ahead : earlier.length + needle.length ≤ before.length
    · left
      have regrouped : earlier ++ needle ++ rest = before ++ (content ++ after) := by
        rw [List.append_assoc, same]
      have leads : earlier ++ needle <+: before :=
        List.prefix_of_prefix_length_le ⟨rest, regrouped⟩ (List.prefix_append _ _)
          (List.length_append.trans_le ahead)
      exact (List.suffix_append earlier needle).isInfix.trans leads.isInfix
    · by_cases behind : before.length + content.length ≤ earlier.length
      · right; left
        obtain ⟨gap, count⟩ := Nat.exists_eq_add_of_le behind
        rw [count, ← List.length_append, ← List.append_assoc, List.drop_length_add_append] at occurs
        exact occurs.isInfix.trans (List.drop_suffix gap after).isInfix
      · right; right
        refine ⟨earlier.length, ?_, by omega, by omega⟩
        rwa [insertAt_length, List.append_assoc]
  · rintro (ahead | behind | ⟨start, occurs, -, -⟩)
    · exact ahead.trans (List.prefix_append _ _).isInfix
    · exact behind.trans ((List.suffix_append _ _).trans (List.suffix_append _ _)).isInfix
    · rw [insertAt_length, List.append_assoc] at occurs
      exact occurs.isInfix.trans (List.drop_suffix start _).isInfix

theorem Avoids.not_reachesInto (avoids : Avoids needle content) (inside : place ≤ text.length) :
    ¬ ReachesInto needle content text place := by
  rintro ⟨start, occurs, ahead, behind⟩
  obtain ⟨before, after, rfl, rfl⟩ := exists_parts inside
  rw [insertAt_length, List.append_assoc] at occurs
  by_cases within : start ≤ (before ++ (content ++ after)).length
  · have sides := avoids before after _ _ (List.take_append_drop start _) occurs
    rw [List.length_take_of_le within] at sides
    omega
  · rw [List.drop_eq_nil_of_le (by omega), List.prefix_nil] at occurs
    subst occurs
    rw [List.length_append, List.length_append] at within
    rw [List.length_nil] at behind
    omega

/-- The needle is in the text, but only across the place where the content is put in, and the content
brings no other one along. -/
def TornApart (needle content text : List Char) (place : Nat) : Prop :=
  needle <:+: text ∧ ¬ needle <:+: text.take place ∧ ¬ needle <:+: text.drop place ∧
    ¬ ReachesInto needle content text place

/-- The needle is not in the text, but the content brings one along. -/
def BroughtAlong (needle content text : List Char) (place : Nat) : Prop :=
  ¬ needle <:+: text ∧ ReachesInto needle content text place

/-- An occurrence that never enters what stands at a place is on one side of that place. -/
theorem NeverEnters.infix_sides {lead : List Char} (outside : NeverEnters needle lead)
    (leads : lead <+: text.drop place) (occurs : needle <:+: text) :
    needle <:+: text.take place ∨ needle <:+: text.drop place := by
  obtain ⟨earlier, rest, same⟩ := occurs
  rw [List.append_assoc, ← List.take_append_drop place text] at same
  rcases List.append_eq_append_iff.1 same with ⟨gap, split, after⟩ | ⟨gap, -, after⟩
  · left
    have starts : needle <+: gap ++ text.drop place := after ▸ List.prefix_append needle rest
    rw [split]
    exact (prefix_of_neverEnters outside leads starts).isInfix.trans
      (List.suffix_append earlier gap).isInfix
  · right
    exact ⟨gap, rest, by rw [List.append_assoc, after]⟩

/-! ## Anchors that are not found -/

/-- An anchor that is not found: it is empty or does not occur. -/
def Absent (anchor text : List Char) : Prop :=
  anchor = [] ∨ ¬ anchor <:+: text

instance (anchor text : List Char) : Decidable (Absent anchor text) :=
  inferInstanceAs (Decidable (_ ∨ _))

theorem FirstAt.not_absent {anchor : List Char} (first : FirstAt anchor text place)
    (nonempty : anchor ≠ []) : ¬ Absent anchor text := by
  rintro (empty | nowhere)
  · exact nonempty empty
  · exact nowhere (first.1.isInfix.trans (List.drop_suffix place text).isInfix)

theorem exists_firstAt_of_not_absent {anchor : List Char} (found : ¬ Absent anchor text) :
    anchor ≠ [] ∧ ∃ place, FirstAt anchor text place := by
  rw [Absent, not_or, not_not] at found
  obtain ⟨before, after, rfl, first⟩ := exists_isFirst_of_occurs (occurs_iff.2 found.2)
  exact ⟨found.1, before.length, first.firstAt⟩

/-- Putting a content in changes whether an anchor is found exactly if it tears the anchor apart or
brings one along. -/
theorem absent_insertAt_iff_absent_iff {anchor : List Char} (inside : place ≤ text.length) :
    (Absent anchor (insertAt place content text) ↔ Absent anchor text) ↔
      (anchor ≠ [] →
        ¬ TornApart anchor content text place ∧ ¬ BroughtAlong anchor content text place) := by
  have fromTake : anchor <:+: text.take place → anchor <:+: text := fun ahead =>
    ahead.trans (List.take_prefix _ _).isInfix
  have fromDrop : anchor <:+: text.drop place → anchor <:+: text := fun behind =>
    behind.trans (List.drop_suffix _ _).isInfix
  rw [Absent, Absent, infix_insertAt_iff inside, TornApart, BroughtAlong]
  tauto

/-- A content put in at a place that the anchor keeps apart from, and which the anchor avoids,
neither brings the anchor along nor tears it apart. -/
theorem absent_insertAt_iff {anchor lead : List Char} (avoids : Avoids anchor content)
    (outside : NeverEnters anchor lead) (nonempty : lead ≠ []) (first : FirstAt lead text place) :
    Absent anchor (insertAt place content text) ↔ Absent anchor text := by
  have inside := (lt_length_of_prefix_drop nonempty first.1).le
  refine or_congr_right (not_congr ?_)
  rw [infix_insertAt_iff inside]
  constructor
  · rintro (ahead | behind | reaches)
    · exact ahead.trans (List.take_prefix _ _).isInfix
    · exact behind.trans (List.drop_suffix _ _).isInfix
    · exact absurd reaches (avoids.not_reachesInto inside)
  · intro occurs
    exact (outside.infix_sides first.1 occurs).imp_right Or.inl

end Text

open Text

theorem insertBeforeChars_eq_none_iff {text anchor content : List Char} :
    insertBeforeChars text anchor content = none ↔ Absent anchor text := by
  rw [insertBeforeChars, Absent, ← occurs_iff, occurs, Bool.not_eq_true, Option.isSome_eq_false_iff,
    Option.isNone_iff_eq_none]
  by_cases empty : anchor = []
  · simp [empty]
  · simp [empty]

theorem insertBefore_eq_none_iff {text anchor : String} (content : String) :
    insertBefore text anchor content = none ↔ Absent anchor.toList text.toList := by
  rw [insertBefore, Option.map_eq_none_iff, insertBeforeChars_eq_none_iff]

namespace AggregatorSplice

variable {splice : AggregatorSplice} {text : String} {path : Path} {failure : Failure}

/-- The anchor that is missing, the import anchor before the registration anchor. The registration
anchor is missing if it is empty, or if the import tears every occurrence of it in the text apart
and none reaches into the import. -/
inductive FirstMissing (splice : AggregatorSplice) (text : List Char) : String → Prop where
  | importAnchor (absent : Absent splice.importAnchor.toList text) :
      FirstMissing splice text splice.importAnchor
  | registrationAnchor (place : Nat) (nonempty : splice.importAnchor.toList ≠ [])
      (first : FirstAt splice.importAnchor.toList text place)
      (absent : splice.registrationAnchor.toList = [] ∨
        ¬ splice.registrationAnchor.toList <:+: text.take place ∧
          ¬ splice.registrationAnchor.toList <:+: text.drop place ∧
          ¬ ReachesInto splice.registrationAnchor.toList splice.importSnippet.toList text place) :
      FirstMissing splice text splice.registrationAnchor

section Missing

variable {chars : List Char} {anchor : String} {place : Nat}

theorem firstMissing_of_absent (absent : Absent splice.importAnchor.toList chars) :
    splice.FirstMissing chars anchor ↔ anchor = splice.importAnchor := by
  constructor
  · intro missing
    cases missing with
    | importAnchor _ => rfl
    | registrationAnchor _ nonempty first _ => exact absurd absent (first.not_absent nonempty)
  · rintro rfl
    exact .importAnchor absent

/-- With an import anchor, the registration anchor is the missing one exactly if it is not found in
the text with the import. -/
theorem firstMissing_of_firstAt (nonempty : splice.importAnchor.toList ≠ [])
    (first : FirstAt splice.importAnchor.toList chars place) :
    splice.FirstMissing chars anchor ↔
      anchor = splice.registrationAnchor ∧ Absent splice.registrationAnchor.toList
        (insertAt place splice.importSnippet.toList chars) := by
  have inside := (lt_length_of_prefix_drop nonempty first.1).le
  rw [Absent, infix_insertAt_iff inside, not_or, not_or]
  constructor
  · intro missing
    cases missing with
    | importAnchor absent => exact absurd absent (first.not_absent nonempty)
    | registrationAnchor place' _ first' absent =>
        obtain rfl := first.unique first'
        exact ⟨rfl, absent⟩
  · rintro ⟨rfl, absent⟩
    exact .registrationAnchor place nonempty first absent

end Missing

/-- The insertions fail exactly if an anchor is missing, and report the first such anchor. -/
theorem apply_eq_error_iff :
    splice.apply text path = .error failure ↔
      ∃ anchor, splice.FirstMissing text.toList anchor ∧ failure = .missingAnchor anchor path := by
  rw [apply]
  cases imports : insertBefore text splice.importAnchor splice.importSnippet with
  | none =>
      have absent := (insertBefore_eq_none_iff _).1 imports
      simp [firstMissing_of_absent absent, eq_comm]
  | some imported =>
      obtain ⟨nonempty, place, first, importedChars⟩ := insertBefore_eq_some_iff.1 imports
      simp only [firstMissing_of_firstAt nonempty first, ← importedChars,
        ← insertBefore_eq_none_iff splice.registrationSnippet]
      cases registers :
          insertBefore imported splice.registrationAnchor splice.registrationSnippet with
      | none => simp [eq_comm]
      | some registered => simp

/-! ## Missing in the given text -/

/-- The first of both anchors that is not found in the given text. -/
def missingIn? (splice : AggregatorSplice) (text : List Char) : Option String :=
  [splice.importAnchor, splice.registrationAnchor].find? fun anchor => Absent anchor.toList text

/-- The insertions report a missing anchor exactly if one is not found in the given text, and name
the first such anchor. -/
def ReportsMissing (splice : AggregatorSplice) (text : String) : Prop :=
  ∀ path failure, splice.apply text path = .error failure ↔
    ∃ anchor, splice.missingIn? text.toList = some anchor ∧ failure = .missingAnchor anchor path

theorem missingIn?_of_absent {chars : List Char} {anchor : String}
    (absent : Absent splice.importAnchor.toList chars) :
    splice.missingIn? chars = some anchor ↔ anchor = splice.importAnchor := by
  rw [missingIn?, List.find?_cons_of_pos (by simpa using absent), Option.some.injEq, eq_comm]

theorem missingIn?_of_not_absent {chars : List Char} {anchor : String}
    (found : ¬ Absent splice.importAnchor.toList chars) :
    splice.missingIn? chars = some anchor ↔
      anchor = splice.registrationAnchor ∧ Absent splice.registrationAnchor.toList chars := by
  rw [missingIn?, List.find?_cons_of_neg (by simpa using found)]
  by_cases absent : Absent splice.registrationAnchor.toList chars
  · simp [absent, eq_comm]
  · simp [absent]

theorem reportsMissing_iff_firstMissing :
    splice.ReportsMissing text ↔ ∀ anchor,
      splice.FirstMissing text.toList anchor ↔ splice.missingIn? text.toList = some anchor := by
  rw [ReportsMissing]
  constructor
  · intro reports anchor
    have here := reports ⟨"index.ts"⟩ (.missingAnchor anchor ⟨"index.ts"⟩)
    simpa [apply_eq_error_iff] using here
  · intro same path failure
    simp only [apply_eq_error_iff, same]

/-- What is reported fits the given text exactly if the import does not change whether the
registration anchor is found. -/
theorem reportsMissing_iff_absent :
    splice.ReportsMissing text ↔ ∀ place, splice.importAnchor.toList ≠ [] →
      FirstAt splice.importAnchor.toList text.toList place →
        (Absent splice.registrationAnchor.toList
            (insertAt place splice.importSnippet.toList text.toList) ↔
          Absent splice.registrationAnchor.toList text.toList) := by
  rw [reportsMissing_iff_firstMissing]
  by_cases absent : Absent splice.importAnchor.toList text.toList
  · simp only [firstMissing_of_absent absent, missingIn?_of_absent absent, implies_true, true_iff]
    exact fun place nonempty first => absurd absent (first.not_absent nonempty)
  · obtain ⟨nonempty, place, first⟩ := exists_firstAt_of_not_absent absent
    simp only [firstMissing_of_firstAt nonempty first, missingIn?_of_not_absent absent]
    constructor
    · intro same place' _ first'
      obtain rfl := first.unique first'
      simpa using same splice.registrationAnchor
    · intro same anchor
      rw [same place nonempty first]

/-- The given text alone decides which anchor is missing if the registration anchor never reaches
into the import and never goes on into an import anchor. -/
theorem reportsMissing_of_avoids
    (avoids : Avoids splice.registrationAnchor.toList splice.importSnippet.toList)
    (neverEnters : NeverEnters splice.registrationAnchor.toList splice.importAnchor.toList)
    (text : String) : splice.ReportsMissing text :=
  reportsMissing_iff_absent.2 fun _ nonempty first =>
    absent_insertAt_iff avoids neverEnters nonempty first

/-- The insertions report a missing anchor as the given text has it exactly if the import neither
tears the registration anchors of the text apart nor brings the first one along. -/
theorem reportsMissing_iff (splice : AggregatorSplice) (text : String) :
    splice.ReportsMissing text ↔ ∀ place, splice.importAnchor.toList ≠ [] →
      FirstAt splice.importAnchor.toList text.toList place →
      splice.registrationAnchor.toList ≠ [] →
        ¬ TornApart splice.registrationAnchor.toList splice.importSnippet.toList text.toList place ∧
          ¬ BroughtAlong splice.registrationAnchor.toList splice.importSnippet.toList text.toList
            place := by
  rw [reportsMissing_iff_absent]
  refine forall_congr' fun place => forall_congr' fun nonempty => forall_congr' fun first => ?_
  exact absent_insertAt_iff_absent_iff (lt_length_of_prefix_drop nonempty first.1).le

/-- The default anchors keep apart, whatever identifier the insertions are for. -/
theorem reportsMissing_spliceOf {name : ResourceName} (identifier : IsIdentifier name.camel)
    (text : String) : (Generator.spliceOf name {}).ReportsMissing text := by
  refine reportsMissing_of_avoids ?_ ?_ text
  · exact registrationAnchor_isDefaultAnchor.avoids_importText identifier
  · exact registrationAnchor_neverEnters

/-- A registration anchor that ends in the first character of the import anchor. -/
def acrossAnchors : AggregatorSplice where
  importAnchor := "bc"
  registrationAnchor := "ab"
  importSnippet := "import\n"
  registrationSnippet := "use\n"

/-- The given text does not always decide which anchor is missing: the import tears the only
registration anchor apart, which is then reported, and it can bring one along. -/
theorem not_reportsMissing_acrossAnchors :
    ¬ acrossAnchors.ReportsMissing "abc\n" ∧
      ¬ intoBraces.ReportsMissing "mount(api);\n" := by
  constructor
  · intro reports
    have torn : acrossAnchors.apply "abc\n" ⟨"index.ts"⟩ =
        .error (.missingAnchor "ab" ⟨"index.ts"⟩) := rfl
    obtain ⟨anchor, missing, -⟩ := (reports _ _).1 torn
    have none : acrossAnchors.missingIn? "abc\n".toList = none := by decide +kernel
    rw [none] at missing
    cases missing
  · intro reports
    have brought : (intoBraces.apply "mount(api);\n" ⟨"index.ts"⟩).toBool = true := rfl
    have missing : intoBraces.missingIn? "mount(api);\n".toList = some "\x7d" := by decide +kernel
    have failed := (reports ⟨"index.ts"⟩ _).2 ⟨_, missing, rfl⟩
    rw [failed] at brought
    cases brought

end AggregatorSplice

end ResourceScaffold

import ResourceScaffold.Proofs.Splice.Placement
import ResourceScaffold.Proofs.Splice.Repeated
import ResourceScaffold.Proofs.Text.Count

/-!
Contract: how often the lines of each route stand in the aggregator after one more route was added.

Owns:
- the import line and the registration line of a name, and that no such line is the end of another;
- that adding a route adds one of each of its own lines, none of any other route, and keeps both
  default anchors.

Does not own: when a route is added.
-/

namespace ResourceScaffold

open Text

/-! ## Lines -/

namespace ResourceName

def importLine (name : ResourceName) : String :=
  "import \x7b " ++ name.camel ++ "Routes \x7d from './" ++ name.camel ++ ".routes';"

def registrationLine (name : ResourceName) : String :=
  "appRoutes.use(" ++ name.camel ++ "Routes);"

theorem importText_eq (name : ResourceName) :
    name.importText.toList = name.importLine.toList ++ ['\n', '\n'] := by
  simp [importText, importLine]

theorem defaultRegistration_eq (name : ResourceName) :
    name.defaultRegistration.toList = name.registrationLine.toList ++ ['\n', '\n'] := by
  simp [registrationText, registrationLine]

end ResourceName

theorem notMem_of_isIdentifier {word : String} (identifier : IsIdentifier word) (character : Char)
    (foreign : continuesIdentifier character = false) : character ∉ word.toList := fun member => by
  rw [continuesIdentifier_of_mem identifier member] at foreign
  cases foreign

/-- A line that goes into the aggregator for an identifier. -/
inductive IsRouteLine : List Char → Prop where
  | imports (name : ResourceName) (identifier : IsIdentifier name.camel) :
      IsRouteLine name.importLine.toList
  | registers (name : ResourceName) (identifier : IsIdentifier name.camel) :
      IsRouteLine name.registrationLine.toList

namespace IsRouteLine

variable {line other : List Char}

theorem isStatement (isLine : IsRouteLine line) : IsStatement line := by
  cases isLine with
  | imports name identifier =>
      have single := notMem_of_isIdentifier identifier ';' (by decide)
      refine ⟨"import \x7b ".toList ++ name.camel.toList ++ "Routes \x7d from './".toList ++
        name.camel.toList ++ ".routes'".toList, by simp [ResourceName.importLine], ?_⟩
      simp [single]
  | registers name identifier =>
      have single := notMem_of_isIdentifier identifier ';' (by decide)
      refine ⟨"appRoutes.use(".toList ++ name.camel.toList ++ "Routes)".toList,
        by simp [ResourceName.registrationLine], ?_⟩
      simp [single]

theorem oneLine (isLine : IsRouteLine line) : '\n' ∉ line := by
  cases isLine with
  | imports name identifier =>
      have whole := notMem_of_isIdentifier identifier '\n' (by decide)
      simp [ResourceName.importLine, whole]
  | registers name identifier =>
      have whole := notMem_of_isIdentifier identifier '\n' (by decide)
      simp [ResourceName.registrationLine, whole]

theorem ending (isLine : IsRouteLine line) :
    ".routes';".toList <:+ line ∨ "Routes);".toList <:+ line := by
  cases isLine with
  | imports name identifier =>
      refine Or.inl ⟨"import \x7b ".toList ++ name.camel.toList ++ "Routes \x7d from './".toList ++
        name.camel.toList, ?_⟩
      simp [ResourceName.importLine]
  | registers name identifier =>
      refine Or.inr ⟨"appRoutes.use(".toList ++ name.camel.toList, ?_⟩
      simp [ResourceName.registrationLine]

/-- What is no end of either ending, and has neither for an end, is no end of a line. -/
theorem not_suffix (isLine : IsRouteLine line) {text : List Char}
    (foreign : ∀ ending ∈ [".routes';".toList, "Routes);".toList],
      ¬ text <:+ ending ∧ ¬ ending <:+ text) : ¬ text <:+ line := by
  intro ends
  rcases isLine.ending with routes | router
  · rcases List.suffix_or_suffix_of_suffix ends routes with inner | inner
    · exact (foreign _ (by simp)).1 inner
    · exact (foreign _ (by simp)).2 inner
  · rcases List.suffix_or_suffix_of_suffix ends router with inner | inner
    · exact (foreign _ (by simp)).1 inner
    · exact (foreign _ (by simp)).2 inner

end IsRouteLine

/-- A text that starts in the same way as another one, up to a mark that the other one holds once, is
no proper end of it. -/
theorem eq_of_suffix_of_mark {mark : Char} {front back back' : List Char} (first : mark ∉ front)
    (single : mark ∉ back) (ends : front ++ mark :: back' <:+ front ++ mark :: back) :
    front ++ mark :: back' = front ++ mark :: back := by
  obtain ⟨start, split⟩ := ends
  rw [← List.append_assoc, eq_comm, List.append_cons_inj_of_notMem first single] at split
  rw [split.2.2]

/-- No line is a proper end of another one. -/
theorem IsRouteLine.eq_of_suffix {line other : List Char} (isLine : IsRouteLine line)
    (isOther : IsRouteLine other) (ends : line <:+ other) : line = other := by
  cases isLine with
  | imports name identifier =>
      have cut (name : ResourceName) : name.importLine.toList =
          "import ".toList ++ '\x7b' :: (" ".toList ++ name.camel.toList ++
            "Routes \x7d from './".toList ++ name.camel.toList ++ ".routes';".toList) := by
        simp [ResourceName.importLine]
      cases isOther with
      | imports name' identifier' =>
          have single := notMem_of_isIdentifier identifier' '\x7b' (by decide)
          rw [cut, cut] at ends ⊢
          exact eq_of_suffix_of_mark (by simp) (by simp [single]) ends
      | registers name' identifier' =>
          have spaceless := space_notMem_of_isIdentifier identifier'
          have space : ' ' ∈ name.importLine.toList := by simp [ResourceName.importLine]
          have member := ends.subset space
          simp [ResourceName.registrationLine, spaceless] at member
  | registers name identifier =>
      have cut (name : ResourceName) : name.registrationLine.toList =
          "appRoutes.use".toList ++ '(' :: (name.camel.toList ++ "Routes);".toList) := by
        simp [ResourceName.registrationLine]
      cases isOther with
      | imports name' identifier' =>
          have absent := notMem_of_isIdentifier identifier' '(' (by decide)
          have bracket : '(' ∈ name.registrationLine.toList := by
            simp [ResourceName.registrationLine]
          have member := ends.subset bracket
          simp [ResourceName.importLine, absent] at member
      | registers name' identifier' =>
          have single := notMem_of_isIdentifier identifier' '(' (by decide)
          rw [cut, cut] at ends ⊢
          exact eq_of_suffix_of_mark (by simp) (by simp [single]) ends

theorem ResourceName.importLine_inj {first second : ResourceName}
    (identifier : IsIdentifier first.camel) (identifier' : IsIdentifier second.camel)
    (same : first.importLine.toList = second.importLine.toList) : first.camel = second.camel := by
  have spaceless := space_notMem_of_isIdentifier identifier
  have spaceless' := space_notMem_of_isIdentifier identifier'
  have cut (name : ResourceName) : name.importLine.toList =
      "import \x7b ".toList ++ ((name.camel.toList ++ "Routes".toList) ++
        ' ' :: ("\x7d from './".toList ++ name.camel.toList ++ ".routes';".toList)) := by
    simp [ResourceName.importLine]
  rw [cut, cut, List.append_cancel_left_eq] at same
  have router := (append_cons_inj (by simp [spaceless]) (by simp [spaceless']) same).1
  exact String.toList_inj.1 (List.append_cancel_right router)

theorem ResourceName.registrationLine_inj {first second : ResourceName}
    (same : first.registrationLine.toList = second.registrationLine.toList) :
    first.camel = second.camel := by
  have joined : "appRoutes.use(".toList ++ (first.camel.toList ++ "Routes);".toList) =
      "appRoutes.use(".toList ++ (second.camel.toList ++ "Routes);".toList) := by
    simpa [ResourceName.registrationLine] using same
  exact String.toList_inj.1 (List.append_cancel_right (List.append_cancel_left joined))

/-! ## Anchors -/

theorem importAnchor_isStatement : IsStatement importAnchorChars :=
  ⟨"const appRoutes = Router()".toList, by decide +kernel, by decide +kernel⟩

theorem registrationAnchor_isStatement : IsStatement registrationAnchorChars :=
  ⟨"export default appRoutes".toList, by decide +kernel, by decide +kernel⟩

theorem importAnchor_not_suffix {line : List Char} (isLine : IsRouteLine line) :
    ¬ importAnchorChars <:+ line :=
  isLine.not_suffix (by decide +kernel)

theorem registrationAnchor_not_suffix {line : List Char} (isLine : IsRouteLine line) :
    ¬ registrationAnchorChars <:+ line :=
  isLine.not_suffix (by decide +kernel)

/-- Both default anchors stand in a text. -/
structure HasAnchors (text : String) : Prop where
  import_anchor : defaultAnchors.importAnchor.toList <:+: text.toList
  registration_anchor : defaultAnchors.registrationAnchor.toList <:+: text.toList

theorem HasAnchors.ofList {text : List Char} (first : importAnchorChars <:+: text)
    (second : registrationAnchorChars <:+: text) : HasAnchors (String.ofList text) := by
  rw [← String.toList_ofList (l := text)] at first second
  exact ⟨first, second⟩

/-! ## Adding a route -/

/-- How often a line of a route stands in a text. -/
def occurrences (line text : String) : Nat :=
  count line.toList text.toList

/-- A text after the route of a name was added to it: one import line and one registration line more
of that name, and none of any other one. -/
structure Gains (name : ResourceName) (before after : String) : Prop where
  anchors : HasAnchors after
  imports : ∀ other : ResourceName, IsIdentifier other.camel →
    occurrences other.importLine after =
      occurrences other.importLine before + if other = name then 1 else 0
  registrations : ∀ other : ResourceName, IsIdentifier other.camel →
    occurrences other.registrationLine after =
      occurrences other.registrationLine before + if other = name then 1 else 0

/-- Two lines in front of two anchors change the number of a line by how often it is one of them. -/
theorem count_insert_both {needle first second anchor anchor' front middle back : List Char}
    (isNeedle : IsRouteLine needle) (isFirst : IsRouteLine first) (isSecond : IsRouteLine second)
    (isAnchor : IsStatement anchor) (isAnchor' : IsStatement anchor')
    (outside : ¬ anchor <:+ needle) (outside' : ¬ anchor' <:+ needle)
    (leads : anchor <+: middle) (leads' : anchor' <+: back) :
    count needle (front ++ (first ++ ['\n', '\n']) ++ (middle ++ (second ++ ['\n', '\n'])) ++ back) =
      count needle (front ++ middle ++ back) +
        (if needle = first then 1 else 0) + if needle = second then 1 else 0 := by
  have ahead := count_insert front (middle ++ (second ++ ['\n', '\n']) ++ back)
    isNeedle.isStatement isFirst.isStatement isAnchor isNeedle.oneLine
    (by simpa using leads.trans (List.prefix_append _ _)) (fun ends => absurd ends outside)
    (isFirst.eq_of_suffix isNeedle) (isNeedle.eq_of_suffix isFirst)
  have behind := count_insert (front ++ middle) back isNeedle.isStatement isSecond.isStatement
    isAnchor' isNeedle.oneLine leads'
    (fun ends => absurd ends outside') (isSecond.eq_of_suffix isNeedle)
    (isNeedle.eq_of_suffix isSecond)
  simp only [List.append_assoc] at ahead behind ⊢
  omega

theorem ResourceName.importLine_ne_registrationLine (first : ResourceName) {second : ResourceName}
    (identifier : IsIdentifier second.camel) :
    first.importLine.toList ≠ second.registrationLine.toList := by
  intro same
  have spaceless := space_notMem_of_isIdentifier identifier
  have space : ' ' ∈ first.importLine.toList := by simp [importLine]
  rw [same] at space
  simp [registrationLine, spaceless] at space

theorem ResourceName.eq_iff_camel {first second : ResourceName} :
    first = second ↔ first.camel = second.camel := by
  cases first
  cases second
  simp

theorem gains_of_counts {name : ResourceName} (identifier : IsIdentifier name.camel)
    {before after : String} (anchors : HasAnchors after)
    (counts : ∀ needle, IsRouteLine needle → count needle after.toList =
      count needle before.toList + (if needle = name.importLine.toList then 1 else 0) +
        if needle = name.registrationLine.toList then 1 else 0) : Gains name before after where
  anchors := anchors
  imports other identifier' := by
    have own : other.importLine.toList = name.importLine.toList ↔ other = name := by
      rw [ResourceName.eq_iff_camel]
      exact ⟨ResourceName.importLine_inj identifier' identifier,
        fun same => by rw [ResourceName.importLine, ResourceName.importLine, same]⟩
    have foreign := other.importLine_ne_registrationLine identifier
    have counted := counts _ (.imports other identifier')
    rw [if_neg foreign] at counted
    simpa only [own, occurrences, Nat.add_zero] using counted
  registrations other identifier' := by
    have own : other.registrationLine.toList = name.registrationLine.toList ↔ other = name := by
      rw [ResourceName.eq_iff_camel]
      exact ⟨ResourceName.registrationLine_inj,
        fun same => by rw [ResourceName.registrationLine, ResourceName.registrationLine, same]⟩
    have foreign := (name.importLine_ne_registrationLine identifier').symm
    have counted := counts _ (.registers other identifier')
    rw [if_neg foreign] at counted
    simpa only [own, occurrences, Nat.add_zero] using counted

theorem CutAt.isInfix {first second front middle back : List Char}
    (cut : CutAt first second front middle back) :
    first <:+: front ++ middle ++ back ∧ second <:+: front ++ middle ++ back := by
  constructor
  · rw [List.append_assoc]
    exact cut.firstLeads.1.isInfix.trans (List.suffix_append _ _).isInfix
  · exact cut.secondLeads.1.isInfix.trans (List.suffix_append _ _).isInfix

/-- The route of an identifier can be added to every text with both default anchors. -/
theorem exists_gains {name : ResourceName} (identifier : IsIdentifier name.camel) {text : String}
    (anchors : HasAnchors text) (path : Path) :
    ∃ result, (Generator.spliceOf name {}).apply text path = .ok result ∧
      Gains name text result := by
  obtain ⟨front, middle, back, same, cut | cut⟩ := exists_cutAt importAnchor_neverEnters
    registrationAnchor_neverEnters (occurs_iff.2 anchors.import_anchor)
    (occurs_iff.2 anchors.registration_anchor)
  · have applied := apply_importFirst identifier path cut
    have kept : CutAt importAnchorChars registrationAnchorChars (front ++ name.importText.toList)
        (middle ++ name.defaultRegistration.toList) back :=
      cut.insert_default importAnchor_isDefaultAnchor registrationAnchor_isDefaultAnchor identifier
        (by simp) (by simp)
    rw [same, String.ofList_toList] at applied
    refine ⟨_, applied, gains_of_counts identifier (.ofList kept.isInfix.1 kept.isInfix.2)
      fun needle isNeedle => ?_⟩
    rw [String.toList_ofList, ← same, name.importText_eq, name.defaultRegistration_eq]
    exact count_insert_both isNeedle (.imports name identifier) (.registers name identifier)
      importAnchor_isStatement registrationAnchor_isStatement (importAnchor_not_suffix isNeedle)
      (registrationAnchor_not_suffix isNeedle) cut.within cut.secondLeads.1
  · have applied := apply_registrationFirst identifier path cut
    have kept : CutAt registrationAnchorChars importAnchorChars
        (front ++ name.defaultRegistration.toList) (middle ++ name.importText.toList) back :=
      cut.insert_default registrationAnchor_isDefaultAnchor importAnchor_isDefaultAnchor identifier
        (by simp) (by simp)
    rw [same, String.ofList_toList] at applied
    refine ⟨_, applied, gains_of_counts identifier (.ofList kept.isInfix.2 kept.isInfix.1)
      fun needle isNeedle => ?_⟩
    rw [String.toList_ofList, ← same, name.importText_eq, name.defaultRegistration_eq,
      Nat.add_right_comm]
    exact count_insert_both isNeedle (.registers name identifier) (.imports name identifier)
      registrationAnchor_isStatement importAnchor_isStatement
      (registrationAnchor_not_suffix isNeedle) (importAnchor_not_suffix isNeedle) cut.within
      cut.secondLeads.1

/-- A text that a route was added to has both default anchors: the import brings none with it. -/
theorem hasAnchors_of_apply {name : ResourceName} (identifier : IsIdentifier name.camel)
    {text result : String} {path : Path}
    (applied : (Generator.spliceOf name {}).apply text path = .ok result) : HasAnchors text := by
  obtain ⟨importPlace, registrationPlace, placed, -⟩ := AggregatorSplice.apply_eq_ok_iff.1 applied
  have occurs {needle chars : List Char} {place : Nat} (first : FirstAt needle chars place) :
      needle <:+: chars :=
    first.isFirst.1.isInfix.trans (List.drop_suffix place chars).isInfix
  refine ⟨occurs placed.importFirst, ?_⟩
  rcases infix_insertAt_of_avoids (registrationAnchor_isDefaultAnchor.avoids_importText identifier)
    (occurs placed.registrationFirst) with ahead | behind
  · exact ahead.trans (List.take_prefix _ _).isInfix
  · exact behind.trans (List.drop_suffix _ _).isInfix

end ResourceScaffold

import ResourceScaffold.Proofs.Action
import ResourceScaffold.Proofs.Splice.Snippet
import ResourceScaffold.Proofs.Text.Occurrence
import ResourceScaffold.Proofs.Text.Pieces

/-!
Contract: routes added to an aggregator one after the other, with the default settings.

Owns:
- names that are identifiers;
- that the default anchors avoid the snippets of identifiers and each other;
- what one route does to a text that is cut at both anchors, and what a list of them does.

Does not own: other anchors, which can meet the snippets.
-/

namespace ResourceScaffold

open Text

/-! ## Identifiers -/

def startsIdentifier (character : Char) : Bool :=
  character.isAlpha || character = '_' || character = '$'

def continuesIdentifier (character : Char) : Bool :=
  startsIdentifier character || character.isDigit

/-- A letter, an underscore or a dollar sign, followed by any number of these and of digits. -/
def IsIdentifier (word : String) : Prop :=
  match word.toList with
  | [] => False
  | first :: rest => startsIdentifier first = true ∧ rest.all continuesIdentifier = true

theorem continuesIdentifier_of_mem {word : String} (identifier : IsIdentifier word)
    {character : Char} (member : character ∈ word.toList) :
    continuesIdentifier character = true := by
  unfold IsIdentifier at identifier
  cases chars : word.toList with
  | nil => simp [chars] at member
  | cons first rest =>
      rw [chars] at member identifier
      obtain ⟨starts, continues⟩ := identifier
      rcases List.mem_cons.1 member with rfl | later
      · rw [continuesIdentifier, starts, Bool.true_or]
      · exact List.all_eq_true.1 continues character later

theorem space_notMem_of_isIdentifier {word : String} (identifier : IsIdentifier word) :
    ' ' ∉ word.toList := fun member => by
  have continues := continuesIdentifier_of_mem identifier member
  revert continues
  decide

/-! ## Default anchors -/

/-- The anchors and the router of the default settings. -/
abbrev defaultAnchors : AggregatorSettings := {}

def importAnchorChars : List Char := "const appRoutes = Router();".toList

def registrationAnchorChars : List Char := "export default appRoutes;".toList

namespace ResourceName

theorem importText_toList (name : ResourceName) :
    name.importText.toList =
      "import".toList ++ ' ' :: ("\x7b".toList ++ ' ' :: ((name.camel.toList ++ "Routes".toList) ++
        ' ' :: ("\x7d".toList ++ ' ' :: ("from".toList ++ ' ' ::
          ("'./".toList ++ name.camel.toList ++ ".routes';\n\n".toList))))) := by
  simp [importText]

theorem splitOn_importText {name : ResourceName} (identifier : IsIdentifier name.camel) :
    splitOn ' ' name.importText.toList =
      ["import".toList, "\x7b".toList, name.camel.toList ++ "Routes".toList, "\x7d".toList,
        "from".toList, "'./".toList ++ name.camel.toList ++ ".routes';\n\n".toList] := by
  have spaceless := space_notMem_of_isIdentifier identifier
  have inRouter : ' ' ∉ name.camel.toList ++ "Routes".toList := by simp [spaceless]
  have inFile : ' ' ∉ "'./".toList ++ name.camel.toList ++ ".routes';\n\n".toList := by
    simp [spaceless]
  rw [importText_toList]
  simp only [splitOn_append]
  rw [splitOn_of_notMem inRouter, splitOn_of_notMem inFile]
  rfl

end ResourceName

/-- No word between two spaces of an anchor is a word of the import of an identifier. -/
theorem notInfix_importText {anchor : List Char} {name : ResourceName}
    (before word after : List Char) (identifier : IsIdentifier name.camel)
    (cut : anchor = before ++ ' ' :: (word ++ ' ' :: after))
    (whole : ' ' ∉ word)
    (foreign : word ∉ ["import".toList, "\x7b".toList, "\x7d".toList, "from".toList])
    (head : word.head? ≠ some '\'') (last : word.getLast? ≠ some 's') :
    ¬ anchor <:+: name.importText.toList := by
  rintro part
  have member := mem_splitOn_of_infix (cut ▸ part) whole
  rw [ResourceName.splitOn_importText identifier] at member
  simp only [List.mem_cons, List.not_mem_nil, or_false, not_or] at member foreign
  rcases member with same | same | same | same | same | same
  · exact foreign.1 same
  · exact foreign.2.1 same
  · exact last (by simp [same])
  · exact foreign.2.2.1 same
  · exact foreign.2.2.2 same
  · exact head (by simp [same])

/-! ## What the default anchors avoid -/

/-- A default anchor: no end of it can continue into a default snippet, none of its characters ends
one, and it consists of several words, one of them between two spaces and in no import. -/
structure IsDefaultAnchor (anchor : List Char) : Prop where
  avoidsImports : NeverEnters anchor ['i']
  avoidsRegistrations : NeverEnters anchor "appRoutes.use(".toList
  oneLine : '\n' ∉ anchor
  spaced : ' ' ∈ anchor
  inNoImport : ∀ {name : ResourceName}, IsIdentifier name.camel →
    ¬ anchor <:+: name.importText.toList

theorem importAnchor_isDefaultAnchor : IsDefaultAnchor importAnchorChars where
  avoidsImports := by decide +kernel
  avoidsRegistrations := by decide +kernel
  oneLine := by decide +kernel
  spaced := by decide +kernel
  inNoImport identifier :=
    notInfix_importText "const appRoutes".toList ['='] "Router();".toList identifier
      (by decide +kernel) (by decide) (by decide +kernel) (by decide) (by decide)

theorem registrationAnchor_isDefaultAnchor : IsDefaultAnchor registrationAnchorChars where
  avoidsImports := by decide +kernel
  avoidsRegistrations := by decide +kernel
  oneLine := by decide +kernel
  spaced := by decide +kernel
  inNoImport identifier :=
    notInfix_importText "export".toList "default".toList "appRoutes;".toList identifier
      (by decide +kernel) (by decide +kernel) (by decide +kernel) (by decide +kernel)
      (by decide +kernel)

namespace IsDefaultAnchor

variable {anchor : List Char} {name : ResourceName}

theorem ne_nil (isDefault : IsDefaultAnchor anchor) : anchor ≠ [] :=
  List.ne_nil_of_mem isDefault.spaced

theorem avoids_importText (isDefault : IsDefaultAnchor anchor)
    (identifier : IsIdentifier name.camel) : Avoids anchor name.importText.toList := by
  refine avoids_of_neverEnters isDefault.avoidsImports ?_ ?_ isDefault.oneLine
    (isDefault.inNoImport identifier)
  · rw [ResourceName.importText_toList]
    exact ⟨_, rfl⟩
  · have ended : name.importText.toList =
        ("import \x7b ".toList ++ name.camel.toList ++ "Routes \x7d from './".toList ++
          name.camel.toList ++ ".routes';\n".toList) ++ ['\n'] := by
      simp [ResourceName.importText]
    rw [ended, List.getLast?_concat]

theorem avoids_registrationText (isDefault : IsDefaultAnchor anchor)
    (identifier : IsIdentifier name.camel) :
    Avoids anchor (name.registrationText defaultAnchors.routerIdent).toList := by
  have spaceless : ' ' ∉ (name.registrationText defaultAnchors.routerIdent).toList := by
    simp [ResourceName.registrationText, space_notMem_of_isIdentifier identifier]
  refine avoids_of_neverEnters isDefault.avoidsRegistrations ?_ ?_
    isDefault.oneLine fun part => spaceless (part.subset isDefault.spaced)
  · refine ⟨name.camel.toList ++ "Routes);\n\n".toList, ?_⟩
    simp [ResourceName.registrationText]
  · have ended : (name.registrationText defaultAnchors.routerIdent).toList =
        ("appRoutes.use(".toList ++ name.camel.toList ++ "Routes);\n".toList) ++ ['\n'] := by
      simp [ResourceName.registrationText]
    rw [ended, List.getLast?_concat]

end IsDefaultAnchor

theorem importAnchor_neverEnters : NeverEnters importAnchorChars registrationAnchorChars := by
  decide +kernel

theorem registrationAnchor_neverEnters :
    NeverEnters registrationAnchorChars importAnchorChars := by
  decide +kernel

/-! ## Texts cut at both anchors -/

/-- A text of three parts: the first occurrence of one needle starts the second part and ends in it,
and the first occurrence of another one starts the third part. -/
structure CutAt (first second front middle back : List Char) : Prop where
  firstLeads : IsFirst first front (middle ++ back)
  secondLeads : IsFirst second (front ++ middle) back
  within : first <+: middle

/-- Snippets in front of the second and the third part leave a text cut in the same way. -/
theorem CutAt.insert {first second front middle back firstSnippet secondSnippet : List Char}
    (cut : CutAt first second front middle back) (nonempty : first ≠ []) (nonempty' : second ≠ [])
    (avoids : Avoids first firstSnippet) (avoids' : Avoids first secondSnippet)
    (avoided : Avoids second firstSnippet) (avoided' : Avoids second secondSnippet) :
    CutAt first second (front ++ firstSnippet) (middle ++ secondSnippet) back where
  firstLeads := by
    have moved := cut.firstLeads.insert_here avoids nonempty
    exact moved.insert_behind cut.within avoids'
  secondLeads := by
    have moved := cut.secondLeads.insert_ahead avoided nonempty'
    have movedTwice := moved.insert_here avoided' nonempty'
    rwa [List.append_assoc] at movedTwice
  within := cut.within.trans (List.prefix_append _ _)

/-- A text in which two needles occur that never enter each other is cut at both, in one of the two
orders. -/
theorem exists_cutAt {first second text : List Char} (neverEnters : NeverEnters first second)
    (neverEnters' : NeverEnters second first) (found : occurs first text = true)
    (found' : occurs second text = true) :
    ∃ front middle back, front ++ middle ++ back = text ∧
      (CutAt first second front middle back ∨ CutAt second first front middle back) := by
  obtain ⟨before, after, rfl, leads⟩ := exists_isFirst_of_occurs found
  obtain ⟨before', after', same, leads'⟩ := exists_isFirst_of_occurs found'
  rcases List.append_eq_append_iff.1 same with ⟨middle, rfl, rfl⟩ | ⟨middle, rfl, rfl⟩
  · refine ⟨before', middle, after, by simp, Or.inr ⟨leads', leads, ?_⟩⟩
    exact prefix_of_neverEnters neverEnters' leads.1 leads'.1
  · refine ⟨before, middle, after', by simp, Or.inl ⟨leads, leads', ?_⟩⟩
    exact prefix_of_neverEnters neverEnters leads'.1 leads.1

/-! ## Adding routes -/

/-- Adds the route of a name to the text of an aggregator, with the default settings. -/
def spliceName (text : String) (name : ResourceName) : Action Failure String := do
  let generator ← Generator.create name {}
  generator.spliceAggregator text

theorem insertBeforeChars_of_isFirst {anchor before after : List Char} (content : List Char)
    (nonempty : anchor ≠ []) (first : IsFirst anchor before after) :
    insertBeforeChars (before ++ after) anchor content = some (before ++ content ++ after) := by
  have split := splitAtFirst_eq_some_iff.2 ⟨rfl, first⟩
  simp [insertBeforeChars, nonempty, split]

/-- What the insertions of a name make of a text, from one insertion after the other. -/
theorem apply_spliceOf {name : ResourceName} {text imported registered : List Char}
    (imports : insertBeforeChars text importAnchorChars name.importText.toList = some imported)
    (registers : insertBeforeChars imported registrationAnchorChars
      (name.registrationText defaultAnchors.routerIdent).toList = some registered) (path : Path) :
    (Generator.spliceOf name {}).apply (String.ofList text) path =
      .ok (String.ofList registered) := by
  have first : insertBefore (String.ofList text) defaultAnchors.importAnchor name.importText =
      some (String.ofList imported) := by
    rw [insertBefore, String.toList_ofList]
    exact congrArg (Option.map String.ofList) imports
  have second : insertBefore (String.ofList imported) defaultAnchors.registrationAnchor
      (name.registrationText defaultAnchors.routerIdent) = some (String.ofList registered) := by
    rw [insertBefore, String.toList_ofList]
    exact congrArg (Option.map String.ofList) registers
  rw [AggregatorSplice.apply, Generator.spliceOf, first]
  simp only [second]

/-- What adding a route gives, from the insertions of its name. -/
theorem spliceName_run {name : ResourceName} {text result : String}
    (applied : ∀ path, (Generator.spliceOf name {}).apply text path = .ok result)
    (session : Session) : ∃ after, spliceName text name session = .ok result after := by
  have spliced := Generator.aggregatorSplice_standard name {}
  apply Exists.intro
  rw [spliceName, Action.bind_of_ok (Generator.create_run name rfl session),
    Generator.spliceAggregator, spliced, Action.bind_of_ok (Action.ofExcept_ok_run _ _),
    AggregatorSplice.run, Action.bind_of_ok (Action.note_run _ _), applied, Action.ofExcept_ok_run]

/-- The registration of a name in the default router. -/
abbrev ResourceName.defaultRegistration (name : ResourceName) : String :=
  name.registrationText defaultAnchors.routerIdent

/-- One route puts its snippets in front of the second and the third part of a text that is cut at
the import anchor and, further on, at the registration anchor. -/
theorem apply_importFirst {name : ResourceName} (identifier : IsIdentifier name.camel)
    {front middle back : List Char} (path : Path)
    (cut : CutAt importAnchorChars registrationAnchorChars front middle back) :
    (Generator.spliceOf name {}).apply (String.ofList (front ++ middle ++ back)) path =
      .ok (String.ofList (front ++ name.importText.toList ++
        (middle ++ name.defaultRegistration.toList) ++ back)) := by
  have imports := insertBeforeChars_of_isFirst name.importText.toList
    importAnchor_isDefaultAnchor.ne_nil cut.firstLeads
  have moved := cut.secondLeads.insert_ahead
    (registrationAnchor_isDefaultAnchor.avoids_importText identifier)
    registrationAnchor_isDefaultAnchor.ne_nil
  have registers := insertBeforeChars_of_isFirst name.defaultRegistration.toList
    registrationAnchor_isDefaultAnchor.ne_nil moved
  exact apply_spliceOf (by simpa using imports) (by simpa using registers) path

/-- The same for a text in which the registration anchor comes first. -/
theorem apply_registrationFirst {name : ResourceName} (identifier : IsIdentifier name.camel)
    {front middle back : List Char} (path : Path)
    (cut : CutAt registrationAnchorChars importAnchorChars front middle back) :
    (Generator.spliceOf name {}).apply (String.ofList (front ++ middle ++ back)) path =
      .ok (String.ofList (front ++ name.defaultRegistration.toList ++
        (middle ++ name.importText.toList) ++ back)) := by
  have imports := insertBeforeChars_of_isFirst name.importText.toList
    importAnchor_isDefaultAnchor.ne_nil cut.secondLeads
  have kept := cut.firstLeads.insert_behind cut.within
    (registrationAnchor_isDefaultAnchor.avoids_importText identifier)
  have registers := insertBeforeChars_of_isFirst name.defaultRegistration.toList
    registrationAnchor_isDefaultAnchor.ne_nil kept
  exact apply_spliceOf (by simpa using imports) (by simpa using registers) path

/-- If one route puts its snippets in front of the second and the third part of every text that is
cut in some way, a list of routes puts theirs there, in the order of the list. -/
theorem foldlM_spliceName_cutAt {first second : List Char}
    (firstSnippet secondSnippet : ResourceName → List Char)
    (step : ∀ {name : ResourceName}, IsIdentifier name.camel →
      ∀ {front middle back : List Char} (session : Session),
        CutAt first second front middle back →
          CutAt first second (front ++ firstSnippet name) (middle ++ secondSnippet name) back ∧
            ∃ after, spliceName (String.ofList (front ++ middle ++ back)) name session =
              .ok (String.ofList (front ++ firstSnippet name ++
                (middle ++ secondSnippet name) ++ back)) after)
    {names : List ResourceName} (identifiers : ∀ name ∈ names, IsIdentifier name.camel)
    {front middle back : List Char} (session : Session)
    (cut : CutAt first second front middle back) :
    ∃ after, names.foldlM spliceName (String.ofList (front ++ middle ++ back)) session =
      .ok (String.ofList (front ++ names.flatMap firstSnippet ++
        (middle ++ names.flatMap secondSnippet) ++ back)) after := by
  induction names generalizing front middle session with
  | nil => exact ⟨session, by simp⟩
  | cons name rest inductionHypothesis =>
      obtain ⟨cut', after, ran⟩ := step (identifiers name List.mem_cons_self) session cut
      obtain ⟨last, others⟩ := inductionHypothesis
        (fun other member => identifiers other (List.mem_cons_of_mem _ member)) after cut'
      refine ⟨last, ?_⟩
      rw [List.foldlM_cons, Action.bind_of_ok ran, others]
      simp

theorem CutAt.insert_default {first second : List Char} (isDefault : IsDefaultAnchor first)
    (isDefault' : IsDefaultAnchor second) {name : ResourceName}
    (identifier : IsIdentifier name.camel) {front middle back firstSnippet secondSnippet : List Char}
    (cut : CutAt first second front middle back)
    (one : firstSnippet ∈ [name.importText.toList, name.defaultRegistration.toList])
    (other : secondSnippet ∈ [name.importText.toList, name.defaultRegistration.toList]) :
    CutAt first second (front ++ firstSnippet) (middle ++ secondSnippet) back := by
  have avoids {anchor snippet : List Char} (default : IsDefaultAnchor anchor)
      (member : snippet ∈ [name.importText.toList, name.defaultRegistration.toList]) :
      Avoids anchor snippet := by
    simp only [List.mem_cons, List.not_mem_nil, or_false] at member
    rcases member with rfl | rfl
    · exact default.avoids_importText identifier
    · exact default.avoids_registrationText identifier
  exact cut.insert isDefault.ne_nil isDefault'.ne_nil (avoids isDefault one)
    (avoids isDefault other) (avoids isDefault' one) (avoids isDefault' other)

/-- Adding the routes of identifiers, repeated or not, to a text in which both default anchors occur
never fails. It puts all imports in front of the first import anchor of the text and all
registrations in front of its first registration anchor, in the order of the names, and changes
nothing else. -/
theorem foldlM_spliceName {text : String} {names : List ResourceName}
    (hasImportAnchor : defaultAnchors.importAnchor.toList <:+: text.toList)
    (hasRegistrationAnchor : defaultAnchors.registrationAnchor.toList <:+: text.toList)
    (identifiers : ∀ name ∈ names, IsIdentifier name.camel) (session : Session) :
    ∃ importPlace registrationPlace result after,
      FirstAt defaultAnchors.importAnchor.toList text.toList importPlace ∧
        FirstAt defaultAnchors.registrationAnchor.toList text.toList registrationPlace ∧
        InsertedBoth text.toList importPlace (names.flatMap fun name => name.importText.toList)
          registrationPlace (names.flatMap fun name => name.defaultRegistration.toList) result ∧
        names.foldlM spliceName text session = .ok (String.ofList result) after := by
  obtain ⟨front, middle, back, same, cut | cut⟩ := exists_cutAt importAnchor_neverEnters
    registrationAnchor_neverEnters (occurs_iff.2 hasImportAnchor)
    (occurs_iff.2 hasRegistrationAnchor)
  · obtain ⟨after, ran⟩ := foldlM_spliceName_cutAt (fun name => name.importText.toList)
      (fun name => name.defaultRegistration.toList)
      (fun identifier _ _ _ session cut =>
        ⟨cut.insert_default importAnchor_isDefaultAnchor registrationAnchor_isDefaultAnchor
          identifier (by simp) (by simp),
          spliceName_run (fun path => apply_importFirst identifier path cut) session⟩)
      identifiers session cut
    rw [same, String.ofList_toList] at ran
    have importFirst := cut.firstLeads.firstAt
    rw [← List.append_assoc] at importFirst
    refine ⟨front.length, (front ++ middle).length, _, after, same ▸ importFirst,
      same ▸ cut.secondLeads.firstAt, Or.inl ⟨by simp, ?_⟩, ran⟩
    rw [← same, insertAt_insertAt]
    simp only [List.append_assoc]
  · obtain ⟨after, ran⟩ := foldlM_spliceName_cutAt (fun name => name.defaultRegistration.toList)
      (fun name => name.importText.toList)
      (fun identifier _ _ _ session cut =>
        ⟨cut.insert_default registrationAnchor_isDefaultAnchor importAnchor_isDefaultAnchor
          identifier (by simp) (by simp),
          spliceName_run (fun path => apply_registrationFirst identifier path cut) session⟩)
      identifiers session cut
    rw [same, String.ofList_toList] at ran
    have registrationFirst := cut.firstLeads.firstAt
    rw [← List.append_assoc] at registrationFirst
    refine ⟨(front ++ middle).length, front.length, _, after, same ▸ cut.secondLeads.firstAt,
      same ▸ registrationFirst, Or.inr ⟨by simp, ?_⟩, ran⟩
    rw [← same, insertAt_insertAt]
    simp only [List.append_assoc]

/-- Two routes, one of them twice, in a text whose registration anchor comes first. -/
theorem foldlM_spliceName_orders :
    ∃ importPlace registrationPlace result after,
      FirstAt defaultAnchors.importAnchor.toList
          "export default appRoutes;\nconst appRoutes = Router();\n".toList importPlace ∧
        FirstAt defaultAnchors.registrationAnchor.toList
          "export default appRoutes;\nconst appRoutes = Router();\n".toList registrationPlace ∧
        InsertedBoth "export default appRoutes;\nconst appRoutes = Router();\n".toList importPlace
          ([⟨"order", by decide⟩, ⟨"$_1", by decide⟩, ⟨"order", by decide⟩].flatMap
            fun name : ResourceName => name.importText.toList) registrationPlace
          ([⟨"order", by decide⟩, ⟨"$_1", by decide⟩, ⟨"order", by decide⟩].flatMap
            fun name : ResourceName => name.defaultRegistration.toList) result ∧
        [⟨"order", by decide⟩, ⟨"$_1", by decide⟩, ⟨"order", by decide⟩].foldlM spliceName
          "export default appRoutes;\nconst appRoutes = Router();\n" ⟨.empty [], [], "", 0, []⟩ =
            .ok (String.ofList result) after :=
  foldlM_spliceName ⟨"export default appRoutes;\n".toList, ['\n'], by decide +kernel⟩
    ⟨[], "\nconst appRoutes = Router();\n".toList, by decide +kernel⟩
    (by
      intro name member
      simp only [List.mem_cons, List.not_mem_nil, or_false] at member
      rcases member with rfl | rfl | rfl <;> exact ⟨by decide, by decide⟩) _

end ResourceScaffold

import ResourceScaffold.Proofs.Text.Run
import ResourceScaffold.Splice

/-!
Contract: the places where the two insertions of a route go, with any anchors and snippets.

Owns:
- the places as first occurrences, the second one in the text that has the import already;
- what is promised of the two insertions, counted in the text as it was;
- on which anchors, import and text the promise holds whatever the registration is.

Does not own: the anchors and snippets of the settings.
-/

namespace ResourceScaffold

open Text

/-! ## One insertion -/

theorem insertBeforeChars_eq_some_iff {text anchor content result : List Char} :
    insertBeforeChars text anchor content = some result ↔
      anchor ≠ [] ∧ ∃ place, FirstAt anchor text place ∧ result = insertAt place content text := by
  by_cases empty : anchor = []
  · simp [empty]
  · simp only [insertBeforeChars, List.isEmpty_iff, empty, if_false, Option.map_eq_some_iff,
      Prod.exists, ne_eq, not_false_eq_true, true_and]
    constructor
    · rintro ⟨before, after, split, rfl⟩
      obtain ⟨rfl, first⟩ := splitAtFirst_eq_some_iff.1 split
      exact ⟨before.length, first.firstAt, (insertAt_length before content after).symm⟩
    · rintro ⟨place, first, rfl⟩
      exact ⟨text.take place, text.drop place,
        splitAtFirst_eq_some_iff.2 ⟨List.take_append_drop place text, first.isFirst⟩, rfl⟩

theorem insertBefore_eq_some_iff {text anchor content result : String} :
    insertBefore text anchor content = some result ↔
      anchor.toList ≠ [] ∧ ∃ place, FirstAt anchor.toList text.toList place ∧
        result.toList = insertAt place content.toList text.toList := by
  rw [insertBefore, Option.map_eq_some_iff]
  constructor
  · rintro ⟨chars, inserted, rfl⟩
    rw [String.toList_ofList]
    exact insertBeforeChars_eq_some_iff.1 inserted
  · intro placed
    exact ⟨result.toList, insertBeforeChars_eq_some_iff.2 placed, String.ofList_toList⟩

namespace AggregatorSplice

/-! ## Both insertions -/

/-- Where the insertions go. The place of the registration is counted in the text with the import,
and neither place depends on the registration. -/
structure PlacedAt (splice : AggregatorSplice) (text : List Char)
    (importPlace registrationPlace : Nat) : Prop where
  importNonempty : splice.importAnchor.toList ≠ []
  registrationNonempty : splice.registrationAnchor.toList ≠ []
  importFirst : FirstAt splice.importAnchor.toList text importPlace
  registrationFirst : FirstAt splice.registrationAnchor.toList
    (insertAt importPlace splice.importSnippet.toList text) registrationPlace

variable {splice : AggregatorSplice} {text result : String} {path : Path}

/-- The insertions succeed exactly if both places exist. -/
theorem apply_eq_ok_iff :
    splice.apply text path = .ok result ↔
      ∃ importPlace registrationPlace, splice.PlacedAt text.toList importPlace registrationPlace ∧
        result.toList = insertAt registrationPlace splice.registrationSnippet.toList
          (insertAt importPlace splice.importSnippet.toList text.toList) := by
  constructor
  · intro applied
    unfold apply at applied
    split at applied
    · cases applied
    · rename_i imported imports
      split at applied
      · cases applied
      · rename_i registers
        cases applied
        obtain ⟨importNonempty, importPlace, importFirst, importedChars⟩ :=
          insertBefore_eq_some_iff.1 imports
        obtain ⟨registrationNonempty, registrationPlace, registrationFirst, resultChars⟩ :=
          insertBefore_eq_some_iff.1 registers
        rw [importedChars] at registrationFirst resultChars
        exact ⟨importPlace, registrationPlace,
          ⟨importNonempty, registrationNonempty, importFirst, registrationFirst⟩, resultChars⟩
  · rintro ⟨importPlace, registrationPlace, placed, resultChars⟩
    obtain ⟨imported, importedChars⟩ : ∃ imported : String, imported.toList =
      insertAt importPlace splice.importSnippet.toList text.toList :=
        ⟨String.ofList _, String.toList_ofList⟩
    have registrationFirst := placed.registrationFirst
    rw [← importedChars] at registrationFirst resultChars
    have imports : insertBefore text splice.importAnchor splice.importSnippet = some imported :=
      insertBefore_eq_some_iff.2
        ⟨placed.importNonempty, importPlace, placed.importFirst, importedChars⟩
    have registers : insertBefore imported splice.registrationAnchor splice.registrationSnippet =
        some result :=
      insertBefore_eq_some_iff.2
        ⟨placed.registrationNonempty, registrationPlace, registrationFirst, resultChars⟩
    rw [apply, imports]
    simp only [registers]

theorem PlacedAt.unique {chars : List Char} {importPlace registrationPlace : Nat}
    {importPlace' registrationPlace' : Nat}
    (placed : splice.PlacedAt chars importPlace registrationPlace)
    (placed' : splice.PlacedAt chars importPlace' registrationPlace') :
    importPlace = importPlace' ∧ registrationPlace = registrationPlace' := by
  obtain rfl := placed.importFirst.unique placed'.importFirst
  exact ⟨rfl, placed.registrationFirst.unique placed'.registrationFirst⟩

/-- The registration anchor always stays whole: the registration ends where it begins. -/
theorem PlacedAt.keepsRegistrationAnchor {chars : List Char} {importPlace registrationPlace : Nat}
    (placed : splice.PlacedAt chars importPlace registrationPlace) (content : List Char) :
    splice.registrationAnchor.toList <:+: insertAt registrationPlace content
      (insertAt importPlace splice.importSnippet.toList chars) :=
  placed.registrationFirst.1.isInfix.trans (List.suffix_append _ _).isInfix

/-! ## What is promised -/

/-- The promise of the two insertions: both anchors are in the result, and the result is the text
with the import in front of an import anchor of the text and the registration in front of a
registration anchor of the text. -/
structure Promised (splice : AggregatorSplice) (text result : List Char) : Prop where
  keepsImportAnchor : splice.importAnchor.toList <:+: result
  keepsRegistrationAnchor : splice.registrationAnchor.toList <:+: result
  inserts : ∃ importPlace registrationPlace,
    splice.importAnchor.toList <+: text.drop importPlace ∧
      splice.registrationAnchor.toList <+: text.drop registrationPlace ∧
      InsertedBoth text importPlace splice.importSnippet.toList registrationPlace
        splice.registrationSnippet.toList result

/-- The place of the registration in the text with the import is that of a registration anchor of
the text itself, in front of the import or behind it, and no import anchor is needed that it cuts.
The import may count as put in at another of its anchors if that gives the same text. -/
structure Fits (splice : AggregatorSplice) (text imported : List Char) (found : Nat) : Prop where
  keepsImportAnchor : splice.importAnchor.toList <:+: imported.take found ∨
    splice.importAnchor.toList <:+: imported.drop found
  standsInText : ∃ importPlace registrationPlace,
    splice.importAnchor.toList <+: text.drop importPlace ∧
      splice.registrationAnchor.toList <+: text.drop registrationPlace ∧
      imported = insertAt importPlace splice.importSnippet.toList text ∧
      (registrationPlace ≤ importPlace ∧ found = registrationPlace ∨
        importPlace ≤ registrationPlace ∧
          found = registrationPlace + splice.importSnippet.toList.length)

/-- Insertions that fit keep the promise. -/
theorem Fits.promised {chars imported : List Char} {found : Nat}
    (fits : splice.Fits chars imported found)
    (keepsRegistrationAnchor : splice.registrationAnchor.toList <:+:
      insertAt found splice.registrationSnippet.toList imported)
    (nonempty : splice.registrationAnchor.toList ≠ []) :
    splice.Promised chars (insertAt found splice.registrationSnippet.toList imported) where
  keepsImportAnchor := by
    rcases fits.keepsImportAnchor with ahead | behind
    · exact (ahead.trans (List.prefix_append _ _).isInfix).trans (List.prefix_append _ _).isInfix
    · exact behind.trans (List.suffix_append _ _).isInfix
  keepsRegistrationAnchor := keepsRegistrationAnchor
  inserts := by
    obtain ⟨importPlace, registrationPlace, leads, leads', rfl, ordered⟩ := fits.standsInText
    have inside := lt_length_of_prefix_drop nonempty leads'
    refine ⟨importPlace, registrationPlace, leads, leads', ?_⟩
    rcases ordered with ⟨ahead, rfl⟩ | ⟨behind, rfl⟩
    · exact Or.inr ⟨ahead, rfl⟩
    · exact Or.inl ⟨behind, insertAt_add_length behind inside.le _ _⟩

def withRegistration (splice : AggregatorSplice) (registration : String) : AggregatorSplice :=
  { splice with registrationSnippet := registration }

/-- A registration that is a long run of a foreign character shows where it went. -/
theorem fits_of_promised_replicate {chars imported : List Char} {found count : Nat}
    {character : Char} (inside : found < imported.length)
    (importNonempty : splice.importAnchor.toList ≠ [])
    (registrationNonempty : splice.registrationAnchor.toList ≠ [])
    (long : imported.length + splice.importAnchor.toList.length < count)
    (foreign : some character ∉ [splice.importAnchor.toList.head?,
      splice.importAnchor.toList.getLast?, (imported.drop found).head?,
      (imported.take found).getLast?])
    (promised : (splice.withRegistration (String.ofList (List.replicate count character))).Promised
      chars (insertAt found (List.replicate count character) imported)) :
    splice.Fits chars imported found := by
  simp only [List.mem_cons, List.not_mem_nil, or_false, not_or] at foreign
  obtain ⟨starts, ends, apart, apart'⟩ := foreign
  constructor
  · have avoids : Avoids splice.importAnchor.toList (List.replicate count character) :=
      avoids_replicate importNonempty (by omega) (Ne.symm starts) (Ne.symm ends)
    exact infix_insertAt_of_avoids avoids promised.keepsImportAnchor
  · obtain ⟨importPlace, registrationPlace, leads, leads', both⟩ := promised.inserts
    have importInside := lt_length_of_prefix_drop importNonempty leads
    have registrationInside := lt_length_of_prefix_drop registrationNonempty leads'
    have total : (insertAt importPlace splice.importSnippet.toList chars).length =
        chars.length + splice.importSnippet.toList.length := length_insertAt importInside.le _
    have run : InsertedBoth chars importPlace splice.importSnippet.toList registrationPlace
        (List.replicate count character)
        (insertAt found (List.replicate count character) imported) := by
      simpa only [withRegistration, String.toList_ofList] using both
    refine ⟨importPlace, registrationPlace, leads, leads', ?_⟩
    rcases run with ⟨ordered, same⟩ | ⟨ordered, same⟩
    · rw [← insertAt_add_length ordered registrationInside.le] at same
      obtain ⟨rfl, rfl⟩ := insertAt_replicate_inj same inside.le (by omega) (by omega)
        (Ne.symm apart) (Ne.symm apart')
      exact ⟨rfl, Or.inr ⟨ordered, rfl⟩⟩
    · obtain ⟨rfl, rfl⟩ := insertAt_replicate_inj same inside.le (by omega) (by omega)
        (Ne.symm apart) (Ne.symm apart')
      exact ⟨rfl, Or.inl ⟨ordered, rfl⟩⟩

/-- The promise is kept for every registration exactly if the place that is found for it fits. -/
theorem PlacedAt.promised_iff_fits {chars imported : List Char}
    {importPlace registrationPlace : Nat}
    (placed : splice.PlacedAt chars importPlace registrationPlace)
    (imports : insertAt importPlace splice.importSnippet.toList chars = imported) :
    (∀ registration : String, (splice.withRegistration registration).Promised chars
        (insertAt registrationPlace registration.toList imported)) ↔
      splice.Fits chars imported registrationPlace := by
  constructor
  · intro keeps
    obtain ⟨character, foreign⟩ := exists_not_mem_of_length_le
      [splice.importAnchor.toList.head?, splice.importAnchor.toList.getLast?,
        (imported.drop registrationPlace).head?, (imported.take registrationPlace).getLast?]
      (le_refl 4)
    have run := keeps (String.ofList
      (List.replicate (imported.length + splice.importAnchor.toList.length + 1) character))
    rw [String.toList_ofList] at run
    exact fits_of_promised_replicate
      (lt_length_of_prefix_drop placed.registrationNonempty (imports ▸ placed.registrationFirst.1))
      placed.importNonempty placed.registrationNonempty (Nat.lt_succ_self _) foreign run
  · intro fits registration
    have keepsAnchor := placed.keepsRegistrationAnchor registration.toList
    rw [imports] at keepsAnchor
    have fits' : (splice.withRegistration registration).Fits chars imported registrationPlace :=
      ⟨fits.keepsImportAnchor, fits.standsInText⟩
    exact fits'.promised keepsAnchor placed.registrationNonempty

/-- Both insertions go in front of first occurrences, of which the second is looked for in the text
that has the import already, and the registration anchor stays whole. The promise is kept for every
registration exactly if the place that is found for it fits the text. -/
theorem apply_promised_iff (applied : splice.apply text path = .ok result) :
    ∃ importPlace registrationPlace imported,
      splice.PlacedAt text.toList importPlace registrationPlace ∧
        imported = insertAt importPlace splice.importSnippet.toList text.toList ∧
        result.toList =
          insertAt registrationPlace splice.registrationSnippet.toList imported ∧
        splice.registrationAnchor.toList <:+: result.toList ∧
        ((∀ registration registered,
          (splice.withRegistration registration).apply text path = .ok registered →
            (splice.withRegistration registration).Promised text.toList registered.toList) ↔
          splice.Fits text.toList imported registrationPlace) := by
  obtain ⟨importPlace, registrationPlace, placed, resultChars⟩ := apply_eq_ok_iff.1 applied
  have placed' (registration : String) :
      (splice.withRegistration registration).PlacedAt text.toList importPlace registrationPlace :=
    ⟨placed.importNonempty, placed.registrationNonempty, placed.importFirst,
      placed.registrationFirst⟩
  refine ⟨importPlace, registrationPlace, _, placed, rfl, resultChars,
    resultChars ▸ placed.keepsRegistrationAnchor _, ?_⟩
  rw [← placed.promised_iff_fits rfl]
  constructor
  · intro keeps registration
    have kept := keeps registration (String.ofList _)
      (apply_eq_ok_iff.2 ⟨importPlace, registrationPlace, placed' registration,
        String.toList_ofList⟩)
    rwa [String.toList_ofList] at kept
  · intro keeps registration registered applied'
    obtain ⟨importPlace', registrationPlace', placed'', registeredChars⟩ :=
      apply_eq_ok_iff.1 applied'
    obtain ⟨rfl, rfl⟩ := (placed' registration).unique placed''
    rw [registeredChars]
    exact keeps registration

/-- Insertions fit if the registration anchor never reaches into the import, and no import anchor
goes on into a registration anchor. -/
theorem PlacedAt.fits {chars : List Char} {importPlace registrationPlace : Nat}
    (placed : splice.PlacedAt chars importPlace registrationPlace)
    (avoids : Avoids splice.registrationAnchor.toList splice.importSnippet.toList)
    (neverEnters : NeverEnters splice.importAnchor.toList splice.registrationAnchor.toList) :
    splice.Fits chars (insertAt importPlace splice.importSnippet.toList chars)
      registrationPlace := by
  have importInside := lt_length_of_prefix_drop placed.importNonempty placed.importFirst.1
  have found := placed.registrationFirst.1
  have foundInside := lt_length_of_prefix_drop placed.registrationNonempty found
  obtain ⟨before, after, rfl, rfl⟩ := exists_parts importInside.le
  have importLeads : splice.importAnchor.toList <+: after := by
    simpa using placed.importFirst.1
  rw [insertAt_length, List.append_assoc] at found foundInside ⊢
  rcases avoids before after _ _ (List.take_append_drop registrationPlace _) found with
    ahead | behind
  · rw [List.length_take_of_le foundInside.le] at ahead
    rw [List.drop_append_of_le_length (by omega)] at found
    have registrationLeads : splice.registrationAnchor.toList <+: before.drop registrationPlace := by
      refine List.prefix_of_prefix_length_le found (List.prefix_append _ _) ?_
      rw [List.length_drop]
      omega
    constructor
    · right
      rw [List.drop_append_of_le_length (by omega)]
      exact importLeads.isInfix.trans
        ((List.suffix_append _ after).trans (List.suffix_append _ _)).isInfix
    · refine ⟨before.length, registrationPlace, by simpa using importLeads, ?_, ?_,
        Or.inl ⟨by omega, rfl⟩⟩
      · rw [List.drop_append_of_le_length (by omega)]
        exact registrationLeads.trans (List.prefix_append _ _)
      · rw [insertAt_length, List.append_assoc]
  · rw [List.length_take_of_le foundInside.le] at behind
    obtain ⟨gap, rfl⟩ := Nat.exists_eq_add_of_le behind
    rw [← List.append_assoc, ← List.length_append, List.drop_length_add_append] at found
    have whole : splice.importAnchor.toList <+: after.take gap :=
      prefix_of_neverEnters neverEnters found (by rwa [List.take_append_drop])
    constructor
    · left
      rw [← List.append_assoc, ← List.length_append, List.take_length_add_append]
      exact whole.isInfix.trans (List.suffix_append _ _).isInfix
    · refine ⟨before.length, before.length + gap, by simpa using importLeads, ?_, ?_,
        Or.inr ⟨by omega, by omega⟩⟩
      · rwa [List.drop_length_add_append]
      · rw [insertAt_length, List.append_assoc]

/-- A function body closed by a brace, which is also in the import. -/
def intoBraces : AggregatorSplice where
  importAnchor := "mount"
  registrationAnchor := "\x7d"
  importSnippet := "import \x7b a \x7d from 'a';\n"
  registrationSnippet := "api.use(a);\n"

theorem apply_promised_iff_intoBraces :
    ∃ importPlace registrationPlace imported,
      intoBraces.PlacedAt "mount(api) \x7b\n\x7d\n".toList importPlace registrationPlace ∧
        imported = insertAt importPlace intoBraces.importSnippet.toList
          "mount(api) \x7b\n\x7d\n".toList ∧
        "import \x7b a api.use(a);\n\x7d from 'a';\nmount(api) \x7b\n\x7d\n".toList =
          insertAt registrationPlace intoBraces.registrationSnippet.toList imported ∧
        intoBraces.registrationAnchor.toList <:+:
          "import \x7b a api.use(a);\n\x7d from 'a';\nmount(api) \x7b\n\x7d\n".toList ∧
        ((∀ registration registered,
          (intoBraces.withRegistration registration).apply "mount(api) \x7b\n\x7d\n"
              ⟨"index.ts"⟩ = .ok registered →
            (intoBraces.withRegistration registration).Promised
              "mount(api) \x7b\n\x7d\n".toList registered.toList) ↔
          intoBraces.Fits "mount(api) \x7b\n\x7d\n".toList imported registrationPlace) :=
  apply_promised_iff (show intoBraces.apply _ _ = .ok _ by rfl)

/-- The promise is not kept always: the registration goes into the import if its anchor is found
there. -/
theorem not_promised_intoBraces :
    ¬ ∀ (splice : AggregatorSplice) (text result : String) (path : Path),
      splice.apply text path = .ok result → splice.Promised text.toList result.toList := by
  intro keeps
  have promised := keeps intoBraces "mount(api) \x7b\n\x7d\n"
    "import \x7b a api.use(a);\n\x7d from 'a';\nmount(api) \x7b\n\x7d\n" ⟨"index.ts"⟩
    (by rfl)
  obtain ⟨importPlace, registrationPlace, leads, leads', both⟩ := promised.inserts
  have nowhere : ∀ importPlace < 15, ∀ registrationPlace < 15,
      intoBraces.importAnchor.toList <+: "mount(api) \x7b\n\x7d\n".toList.drop importPlace →
        intoBraces.registrationAnchor.toList <+:
          "mount(api) \x7b\n\x7d\n".toList.drop registrationPlace →
        ¬ InsertedBoth "mount(api) \x7b\n\x7d\n".toList importPlace
          intoBraces.importSnippet.toList registrationPlace intoBraces.registrationSnippet.toList
          "import \x7b a api.use(a);\n\x7d from 'a';\nmount(api) \x7b\n\x7d\n".toList := by
    decide +kernel
  exact nowhere _ (lt_length_of_prefix_drop (by decide +kernel) leads) _
    (lt_length_of_prefix_drop (by decide +kernel) leads') leads leads' both

end AggregatorSplice

end ResourceScaffold

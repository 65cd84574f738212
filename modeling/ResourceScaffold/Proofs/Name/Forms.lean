import ResourceScaffold.Proofs.Splice.Growth
import ResourceScaffold.Proofs.Text.Trimming

/-!
Contract: the characters of the forms of an identifier.

Owns:
- that both cases of a character of an identifier consist of such characters;
- that the type name of an identifier consists of such characters;
- which other characters the URL segment and the title of an identifier can have.

Does not own: which words a name is cut into.
-/

namespace ResourceScaffold

open Text

/-! ## Characters -/

theorem toNat_lt_of_continuesIdentifier {character : Char}
    (continues : continuesIdentifier character = true) : character.toNat < 128 := by
  have code : character.toNat = character.val.toNat := rfl
  unfold continuesIdentifier startsIdentifier Char.isAlpha Char.isUpper Char.isLower Char.isDigit
    at continues
  simp only [Bool.or_eq_true, decide_eq_true_eq, Bool.and_eq_true, ge_iff_le,
    UInt32.le_iff_toNat_le] at continues
  rcases continues with (((letter | letter) | rfl) | rfl) | digit
  · have bound : 'Z'.val.toNat = 90 := rfl
    omega
  · have bound : 'z'.val.toNat = 122 := rfl
    omega
  · decide
  · decide
  · have bound : '9'.val.toNat = 57 := rfl
    omega

/-- A property of characters of identifiers has to be checked for the ASCII codes only. -/
theorem forall_continuesIdentifier (property : Char → Prop)
    (codes : ∀ code < 128, continuesIdentifier (Char.ofNat code) = true →
      property (Char.ofNat code))
    {character : Char} (continues : continuesIdentifier character = true) : property character := by
  have ofCode := codes _ (toNat_lt_of_continuesIdentifier continues)
  rw [Char.ofNat_toNat] at ofCode
  exact ofCode continues

/-- Upper and lower case of a character of an identifier can go on in one as well. -/
theorem continuesIdentifier_of_mem_case {character image : Char}
    (continues : continuesIdentifier character = true)
    (member : image ∈ upper character ++ lower character) : continuesIdentifier image = true := by
  have cases := forall_continuesIdentifier
    (fun character => (upper character ++ lower character).all continuesIdentifier = true)
    (by decide +kernel) continues
  exact List.all_eq_true.1 cases image member

/-! ## Type names -/

theorem continuesIdentifier_of_mem_pascal {name : ResourceName}
    (identifier : IsIdentifier name.camel) {character : Char}
    (member : character ∈ name.pascal.toList) : continuesIdentifier character = true := by
  have continues {other : Char} (inWord : other ∈ name.camel.toList) :=
    continuesIdentifier_of_mem identifier inWord
  rw [ResourceName.pascal, ResourceScaffold.upperFirst, String.toList_ofList] at member
  cases chars : name.camel.toList with
  | nil => simp [chars, Text.upperFirst] at member
  | cons first rest =>
      rw [chars] at member continues
      rw [Text.upperFirst] at member
      rcases List.mem_append.1 member with image | later
      · exact continuesIdentifier_of_mem_case (continues List.mem_cons_self)
          (List.mem_append_left _ image)
      · exact continues (List.mem_cons_of_mem _ later)

/-! ## URL segments -/

/-- Apart from hyphens, the URL segment of an identifier has characters of identifiers only. -/
theorem mem_kebab {name : ResourceName} (identifier : IsIdentifier name.camel) {character : Char}
    (member : character ∈ name.kebab.toList) :
    character = '-' ∨ continuesIdentifier character = true := by
  rw [ResourceName.kebab, kebabCase, String.toList_ofList, kebabChars] at member
  obtain ⟨origin, inWord, image⟩ := List.mem_flatMap.1 (Text.trimOf_subset _ _ member)
  have lowered (inLower : character ∈ lower origin) : continuesIdentifier character = true :=
    continuesIdentifier_of_mem_case (continuesIdentifier_of_mem identifier inWord)
      (List.mem_append_right _ inLower)
  by_cases capital : origin.isUpper = true
  · rw [if_pos capital] at image
    rcases List.mem_cons.1 image with hyphen | inLower
    · exact Or.inl hyphen
    · exact Or.inr (lowered inLower)
  · rw [if_neg capital] at image
    exact Or.inr (lowered image)

/-! ## Titles -/

theorem continuesIdentifier_of_mem_lowerTextAfter {before word : List Char}
    (continues : ∀ origin ∈ word, continuesIdentifier origin = true) {character : Char}
    (member : character ∈ lowerTextAfter before word) : continuesIdentifier character = true := by
  induction word generalizing before with
  | nil =>
      rw [lowerTextAfter] at member
      cases member
  | cons first rest inductionHypothesis =>
      rw [List.forall_mem_cons] at continues
      have noSigma : first ≠ 'Σ' := by
        rintro rfl
        exact absurd continues.1 (by decide)
      rw [lowerTextAfter, if_neg noSigma] at member
      rcases List.mem_append.1 member with image | later
      · exact continuesIdentifier_of_mem_case continues.1 (List.mem_append_right _ image)
      · exact inductionHypothesis continues.2 later

theorem continuesIdentifier_of_mem_capitalized {word : List Char}
    (continues : ∀ origin ∈ word, continuesIdentifier origin = true) {character : Char}
    (member : character ∈ capitalized word) : continuesIdentifier character = true := by
  cases word with
  | nil => cases member
  | cons first rest =>
      rw [List.forall_mem_cons] at continues
      rcases List.mem_append.1 member with image | later
      · exact continuesIdentifier_of_mem_case continues.1 (List.mem_append_left _ image)
      · exact continuesIdentifier_of_mem_lowerTextAfter continues.2 later

theorem mem_of_mem_wordsAfter {begun word : List Char} {clusters : List (List Char)}
    (isWord : word ∈ wordsAfter begun clusters) {character : Char} (member : character ∈ word) :
    character ∈ begun ++ clusters.flatten := by
  induction clusters generalizing begun with
  | nil =>
      rw [wordsAfter, List.mem_singleton] at isWord
      exact List.mem_append_left _ (isWord ▸ member)
  | cons cluster rest inductionHypothesis =>
      rw [List.flatten_cons, ← List.append_assoc]
      have later (inRest : character ∈ [] ++ rest.flatten) :
          character ∈ begun ++ cluster ++ rest.flatten :=
        List.mem_append_right _ inRest
      rw [wordsAfter] at isWord
      split_ifs at isWord
      · rcases List.mem_cons.1 isWord with rfl | inRest
        · exact List.mem_append_left _ (List.mem_append_left _ member)
        · exact later (inductionHypothesis inRest)
      · rcases List.mem_cons.1 isWord with rfl | inRest
        · exact List.mem_append_left _ member
        · exact later (inductionHypothesis inRest)
      · exact inductionHypothesis isWord

theorem mem_joinWords {words : List (List Char)} {character : Char}
    (member : character ∈ joinWords words) : character = ' ' ∨ ∃ word ∈ words, character ∈ word := by
  fun_induction joinWords words with
  | case1 => cases member
  | case2 word => exact Or.inr ⟨word, List.mem_singleton_self _, member⟩
  | case3 word rest _ inductionHypothesis =>
      rcases List.mem_append.1 member with first | later
      · exact Or.inr ⟨word, List.mem_cons_self, first⟩
      · rcases List.mem_cons.1 later with blank | others
        · exact Or.inl blank
        · refine (inductionHypothesis others).imp_right ?_
          rintro ⟨other, isWord, inWord⟩
          exact ⟨other, List.mem_cons_of_mem _ isWord, inWord⟩

/-- Apart from spaces, the title of an identifier has characters of identifiers only. -/
theorem mem_title {name : ResourceName} (identifier : IsIdentifier name.camel) {character : Char}
    (member : character ∈ name.title.toList) :
    character = ' ' ∨ continuesIdentifier character = true := by
  rw [ResourceName.title, titleCase, String.toList_ofList] at member
  refine (mem_joinWords member).imp_right ?_
  rintro ⟨word, isWord, inWord⟩
  obtain ⟨origin, cut, rfl⟩ := List.mem_map.1 isWord
  refine continuesIdentifier_of_mem_capitalized (fun first inOrigin => ?_) inWord
  have inName := mem_of_mem_wordsAfter cut inOrigin
  rw [List.nil_append, flatten_clusters] at inName
  exact continuesIdentifier_of_mem identifier inName

end ResourceScaffold

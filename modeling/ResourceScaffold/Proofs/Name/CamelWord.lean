import ResourceScaffold.Proofs.Name.Forms

/-!
Contract: words in camel case, told from their URL segments and from their type names.

Owns:
- words in camel case;
- reading a word back from its URL segment, and the number of hyphens in it;
- that neither form of such a word is the form of another one.

Does not own: other words, whose URL segments can lose characters at their ends.
-/

namespace ResourceScaffold

open Text

/-! ## Words -/

theorem startsIdentifier_of_isLower {character : Char} (small : character.isLower = true) :
    startsIdentifier character = true := by
  have alpha : character.isAlpha = (character.isUpper || character.isLower) := rfl
  rw [startsIdentifier, alpha, small, Bool.or_true, Bool.true_or, Bool.true_or]

/-- A word in camel case: a small letter, followed by any number of letters, digits, underscores and
dollar signs. -/
def IsCamelWord (word : String) : Prop :=
  match word.toList with
  | [] => False
  | first :: rest => first.isLower = true ∧ rest.all continuesIdentifier = true

namespace IsCamelWord

theorem exists_parts {word : String} (isWord : IsCamelWord word) :
    ∃ first rest, word.toList = first :: rest ∧ first.isLower = true ∧
      ∀ character ∈ rest, continuesIdentifier character = true := by
  unfold IsCamelWord at isWord
  cases chars : word.toList with
  | nil =>
      rw [chars] at isWord
      exact isWord.elim
  | cons first rest =>
      rw [chars] at isWord
      exact ⟨first, rest, rfl, isWord.1, List.all_eq_true.1 isWord.2⟩

theorem isIdentifier {word : String} (isWord : IsCamelWord word) : IsIdentifier word := by
  unfold IsCamelWord at isWord
  unfold IsIdentifier
  cases chars : word.toList with
  | nil =>
      rw [chars] at isWord
      exact isWord.elim
  | cons first rest =>
      rw [chars] at isWord
      exact ⟨startsIdentifier_of_isLower isWord.1, isWord.2⟩

/-- Every word in camel case is accepted as a name. -/
theorem exists_name {word : String} (isWord : IsCamelWord word) :
    ∃ name, ResourceName.ofWord? word = some name ∧ name.camel = word := by
  obtain ⟨first, rest, chars, -, -⟩ := isWord.exists_parts
  have nonempty : word ≠ "" := by
    rintro rfl
    cases chars
  exact ⟨⟨word, nonempty⟩, ResourceName.ofWord?_eq_some_iff.2 ⟨nonempty, rfl⟩, rfl⟩

end IsCamelWord

/-! ## Characters -/

section Characters

variable {character : Char} (continues : continuesIdentifier character = true)
include continues

/-- A capital has one small letter, of which it is the only capital; what is no capital stays as it is
in lower case. -/
theorem lower_facts :
    (character.isUpper = true →
      (lower character).length = 1 ∧ (lower character).flatMap upper = [character]) ∧
    (character.isUpper = false → lower character = [character]) :=
  forall_continuesIdentifier
    (fun character =>
      (character.isUpper = true →
        (lower character).length = 1 ∧ (lower character).flatMap upper = [character]) ∧
      (character.isUpper = false → lower character = [character]))
    (by decide +kernel) continues

/-- A small letter is no capital, and has one, of which it is the only small letter; nothing that goes
on in an identifier is trimmed. -/
theorem upper_facts :
    (character.isLower = true → character.isUpper = false ∧
      (upper character).length = 1 ∧ (upper character).flatMap lower = [character]) ∧
    (decide (character = '-') || isBlank character) = false :=
  forall_continuesIdentifier
    (fun character =>
      (character.isLower = true → character.isUpper = false ∧
        (upper character).length = 1 ∧ (upper character).flatMap lower = [character]) ∧
      (decide (character = '-') || isBlank character) = false)
    (by decide +kernel) continues

theorem exists_lower (capital : character.isUpper = true) :
    ∃ small, lower character = [small] ∧ upper small = [character] ∧ small ≠ '-' := by
  obtain ⟨one, back⟩ := (lower_facts continues).1 capital
  obtain ⟨small, isSmall⟩ := List.length_eq_one_iff.1 one
  rw [isSmall, List.flatMap_singleton] at back
  refine ⟨small, isSmall, back, ?_⟩
  rintro rfl
  have inLower : '-' ∈ upper character ++ lower character := by simp [isSmall]
  exact absurd (continuesIdentifier_of_mem_case continues inLower) (by decide)

theorem lower_eq_self (small : character.isUpper = false) : lower character = [character] :=
  (lower_facts continues).2 small

theorem exists_upper (small : character.isLower = true) :
    ∃ capital, upper character = [capital] ∧ lower capital = [character] := by
  obtain ⟨-, one, back⟩ := (upper_facts continues).1 small
  obtain ⟨capital, isCapital⟩ := List.length_eq_one_iff.1 one
  rw [isCapital, List.flatMap_singleton] at back
  exact ⟨capital, isCapital, back⟩

theorem ne_hyphen : character ≠ '-' := by
  rintro rfl
  cases continues

end Characters

theorem continuesIdentifier_of_isLower {character : Char} (small : character.isLower = true) :
    continuesIdentifier character = true := by
  rw [continuesIdentifier, startsIdentifier_of_isLower small, Bool.true_or]

theorem isUpper_of_isLower {character : Char} (small : character.isLower = true) :
    character.isUpper = false :=
  ((upper_facts (continuesIdentifier_of_isLower small)).1 small).1

theorem not_trimmed_of_continuesIdentifier {character : Char}
    (continues : continuesIdentifier character = true) :
    (decide (character = '-') || isBlank character) = false :=
  (upper_facts continues).2

/-! ## URL segments -/

/-- What a character becomes in a URL segment that is not trimmed yet. -/
def kebabPiece (character : Char) : List Char :=
  if character.isUpper then '-' :: lower character else lower character

/-- A URL segment in which every hyphen and the character after it is replaced by that character in
upper case. -/
def camelChars : List Char → List Char
  | '-' :: character :: rest => upper character ++ camelChars rest
  | character :: rest => character :: camelChars rest
  | [] => []

theorem camelChars_cons_of_ne {character : Char} (plain : character ≠ '-') (rest : List Char) :
    camelChars (character :: rest) = character :: camelChars rest := by
  rw [camelChars]
  rintro _ _ rfl
  exact absurd rfl plain

section Pieces

variable {word : List Char} (continues : ∀ character ∈ word, continuesIdentifier character = true)
include continues

theorem camelChars_pieces : camelChars (word.flatMap kebabPiece) = word := by
  induction word with
  | nil => rfl
  | cons first rest inductionHypothesis =>
      rw [List.forall_mem_cons] at continues
      have others := inductionHypothesis continues.2
      rw [List.flatMap_cons, kebabPiece]
      by_cases capital : first.isUpper = true
      · obtain ⟨small, isSmall, back, -⟩ := exists_lower continues.1 capital
        rw [if_pos capital, isSmall, List.cons_append, List.singleton_append, camelChars, back,
          others, List.singleton_append]
      · rw [if_neg capital, lower_eq_self continues.1 (by simpa using capital),
          List.singleton_append, camelChars_cons_of_ne (ne_hyphen continues.1), others]

theorem count_hyphen_pieces :
    (word.flatMap kebabPiece).count '-' = word.countP Char.isUpper := by
  induction word with
  | nil => rfl
  | cons first rest inductionHypothesis =>
      rw [List.forall_mem_cons] at continues
      have others := inductionHypothesis continues.2
      rw [List.flatMap_cons, List.count_append, others, kebabPiece]
      by_cases capital : first.isUpper = true
      · obtain ⟨small, isSmall, -, plain⟩ := exists_lower continues.1 capital
        rw [if_pos capital, isSmall, List.countP_cons_of_pos capital, List.count_cons_self,
          List.count_singleton, beq_eq_false_iff_ne.2 plain]
        simp [Nat.add_comm]
      · rw [if_neg capital, lower_eq_self continues.1 (by simpa using capital),
          List.countP_cons_of_neg capital, List.count_singleton,
          beq_eq_false_iff_ne.2 (ne_hyphen continues.1)]
        simp

theorem continuesIdentifier_of_getLast?_pieces {last : Char}
    (isLast : (word.flatMap kebabPiece).getLast? = some last) : continuesIdentifier last = true := by
  rcases List.eq_nil_or_concat word with rfl | ⟨front, final, rfl⟩
  · cases isLast
  · have goesOn : continuesIdentifier final = true := continues final (by simp)
    rw [List.concat_eq_append, List.flatMap_append, List.flatMap_singleton, kebabPiece] at isLast
    by_cases capital : final.isUpper = true
    · obtain ⟨small, isSmall, -, -⟩ := exists_lower goesOn capital
      rw [if_pos capital, isSmall, List.getLast?_append] at isLast
      obtain rfl : small = last := by simpa using isLast
      exact continuesIdentifier_of_mem_case goesOn (by simp [isSmall])
    · rw [if_neg capital, lower_eq_self goesOn (by simpa using capital),
        List.getLast?_append] at isLast
      obtain rfl : final = last := by simpa using isLast
      exact goesOn

end Pieces

namespace ResourceName

variable {name first second : ResourceName}

/-- The URL segment of a word in camel case consists of the pieces of the word: there is nothing to
trim at its ends. -/
theorem kebab_toList (isWord : IsCamelWord name.camel) :
    name.kebab.toList = name.camel.toList.flatMap kebabPiece := by
  obtain ⟨initial, rest, chars, small, others⟩ := isWord.exists_parts
  have goesOn := continuesIdentifier_of_isLower small
  have continues : ∀ character ∈ name.camel.toList, continuesIdentifier character = true :=
    fun character => continuesIdentifier_of_mem isWord.isIdentifier
  rw [kebab, kebabCase, String.toList_ofList]
  refine Text.trimOf_eq_self (fun character isFirst => ?_) fun character isLast => ?_
  · have starts : (name.camel.toList.flatMap kebabPiece).head? = some initial := by
      rw [chars, List.flatMap_cons, kebabPiece, isUpper_of_isLower small,
        lower_eq_self goesOn (isUpper_of_isLower small)]
      rfl
    obtain rfl : initial = character := Option.some.inj (starts.symm.trans isFirst)
    exact not_trimmed_of_continuesIdentifier goesOn
  · exact not_trimmed_of_continuesIdentifier
      (continuesIdentifier_of_getLast?_pieces continues isLast)

/-- The URL segment of a name tells the name: it has a hyphen for every capital of the name and no
other one, and reads back as the name. -/
structure KebabTells (name : ResourceName) : Prop where
  hyphens : name.kebab.toList.count '-' = name.camel.toList.countP Char.isUpper
  readsBack : camelChars name.kebab.toList = name.camel.toList

theorem kebabTells (isWord : IsCamelWord name.camel) : name.KebabTells := by
  have continues : ∀ character ∈ name.camel.toList, continuesIdentifier character = true :=
    fun character => continuesIdentifier_of_mem isWord.isIdentifier
  constructor
  · rw [kebab_toList isWord, count_hyphen_pieces continues]
  · rw [kebab_toList isWord, camelChars_pieces continues]

theorem KebabTells.inj (tells : first.KebabTells) (tells' : second.KebabTells)
    (same : first.kebab = second.kebab) : first = second := by
  rw [eq_iff_camel, ← String.toList_inj, ← tells.readsBack, same, tells'.readsBack]

/-! ## Type names -/

/-- Words in camel case with one type name are one word. -/
theorem pascal_inj (isWord : IsCamelWord first.camel) (isWord' : IsCamelWord second.camel)
    (same : first.pascal = second.pascal) : first = second := by
  obtain ⟨initial, rest, chars, small, -⟩ := isWord.exists_parts
  obtain ⟨initial', rest', chars', small', -⟩ := isWord'.exists_parts
  obtain ⟨capital, isCapital, back⟩ := exists_upper (continuesIdentifier_of_isLower small) small
  obtain ⟨capital', isCapital', back'⟩ := exists_upper (continuesIdentifier_of_isLower small') small'
  rw [pascal, pascal, ResourceScaffold.upperFirst, ResourceScaffold.upperFirst, String.ofList_inj,
    chars, chars', Text.upperFirst, Text.upperFirst, isCapital, isCapital', List.singleton_append,
    List.singleton_append, List.cons.injEq] at same
  obtain ⟨rfl, rfl⟩ := same
  have initials : [initial] = [initial'] := back.symm.trans back'
  rw [eq_iff_camel, ← String.toList_inj, chars, chars', List.cons.inj initials |>.1]

end ResourceName

end ResourceScaffold

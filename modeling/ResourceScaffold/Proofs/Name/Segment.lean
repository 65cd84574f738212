import ResourceScaffold.Proofs.Name.CamelWord
import ResourceScaffold.Proofs.Text.Casing

/-!
Contract: the URL segments of words of any kind.

Owns:
- the characters that are trimmed at the ends of a segment, which have no case;
- the characters that can stand in a segment, whatever the word is;
- that a segment is its own segment, and which words have an empty one.

Does not own: words in camel case, which can be read back from their segments.
-/

namespace ResourceScaffold

open Text

/-! ## Edges -/

def isEdge (character : Char) : Bool :=
  character = '-' || isBlank character

theorem isEdge_eq_false_iff {character : Char} :
    isEdge character = false ↔ character ≠ '-' ∧ isBlank character = false := by
  rw [isEdge, Bool.or_eq_false_iff, decide_eq_false_iff_not]

theorem isEdge_eq_true_iff {character : Char} :
    isEdge character = true ↔ character = '-' ∨ isBlank character = true := by
  rw [isEdge, Bool.or_eq_true, decide_eq_true_eq]

theorem kebabChars_eq_trimOf (word : List Char) :
    kebabChars word = trimOf isEdge (word.flatMap kebabPiece) := rfl

/-- The characters that are trimmed, as ranges of code points. -/
def edges : CharSet where
  ranges := ('-'.toNat, '-'.toNat) :: whiteSpace.ranges

theorem contains_edges (character : Char) : edges.contains character = isEdge character := by
  have hyphen : ('-'.toNat ≤ character.toNat && character.toNat ≤ '-'.toNat) =
      decide (character = '-') := by
    rw [← Bool.decide_and, decide_eq_decide, ← Char.toNat_inj]
    omega
  rw [isEdge, isBlank, CharSet.contains, CharSet.contains, edges, List.any_cons, hyphen]

/-- Edges have no case, and nothing becomes an edge in lower case. -/
theorem lowerCaseMap_keepsApart_edges : lowerCaseMap.KeepsApart edges := by
  decide +kernel

theorem isEdge_of_mem_lower {character image : Char} (member : image ∈ lower character) :
    isEdge image = isEdge character := by
  rw [← contains_edges, ← contains_edges]
  exact lowerCaseMap_keepsApart_edges.contains_of_mem_apply member

theorem lower_of_isEdge {character : Char} (edge : isEdge character = true) :
    lower character = [character] :=
  lowerCaseMap_keepsApart_edges.apply_of_contains ((contains_edges character).trans edge)

/-! ## Capitals -/

theorem lower_ne_self_of_isUpper {character : Char} (capital : character.isUpper = true) :
    lower character ≠ [character] := by
  have alpha : character.isAlpha = (character.isUpper || character.isLower) := rfl
  have continues : continuesIdentifier character = true := by
    rw [continuesIdentifier, startsIdentifier, alpha, capital, Bool.true_or, Bool.true_or,
      Bool.true_or, Bool.true_or]
  exact forall_continuesIdentifier
    (fun character => character.isUpper = true → lower character ≠ [character])
    (by decide +kernel) continues capital

theorem isUpper_of_mem_lower {character image : Char} (member : image ∈ lower character) :
    image.isUpper = false := by
  rw [← Bool.not_eq_true]
  intro capital
  exact lower_ne_self_of_isUpper capital (lower_of_mem_lower member)

/-! ## Pieces -/

theorem mem_kebabPiece {character image : Char} (member : image ∈ kebabPiece character) :
    image = '-' ∨ image ∈ lower character := by
  rw [kebabPiece] at member
  split at member
  · exact List.mem_cons.1 member
  · exact Or.inr member

theorem kebabPiece_eq_lower {character : Char} (small : character.isUpper = false) :
    kebabPiece character = lower character := by
  rw [kebabPiece, small, if_neg Bool.false_ne_true]

theorem isUpper_of_mem_kebabPiece {character image : Char}
    (member : image ∈ kebabPiece character) : image.isUpper = false := by
  rcases mem_kebabPiece member with rfl | inLower
  · decide
  · exact isUpper_of_mem_lower inLower

/-- What a character becomes, becomes nothing else any more. -/
theorem kebabPiece_of_mem_kebabPiece {character image : Char}
    (member : image ∈ kebabPiece character) : kebabPiece image = [image] := by
  rw [kebabPiece_eq_lower (isUpper_of_mem_kebabPiece member)]
  rcases mem_kebabPiece member with rfl | inLower
  · exact lower_of_isEdge (by decide)
  · exact lower_of_mem_lower inLower

/-- The piece of a character is trimmed as a whole exactly if the character is an edge. -/
theorem forall_isEdge_kebabPiece_iff (character : Char) :
    (∀ image ∈ kebabPiece character, isEdge image = true) ↔ isEdge character = true := by
  constructor
  · intro edges
    obtain ⟨image, rest, images⟩ := List.exists_cons_of_ne_nil (lower_ne_nil character)
    have inLower : image ∈ lower character := images ▸ List.mem_cons_self
    have inPiece : image ∈ kebabPiece character := by
      rw [kebabPiece]
      split
      · exact List.mem_cons_of_mem _ inLower
      · exact inLower
    rw [← isEdge_of_mem_lower inLower]
    exact edges image inPiece
  · intro edge image member
    rcases mem_kebabPiece member with rfl | inLower
    · decide
    · rw [isEdge_of_mem_lower inLower, edge]

/-! ## Segments -/

theorem exists_mem_kebabPiece {word : List Char} {character : Char}
    (member : character ∈ kebabChars word) : ∃ origin ∈ word, character ∈ kebabPiece origin :=
  List.mem_flatMap.1 (trimOf_subset _ _ member)

/-- A word is trimmed away exactly if all of its characters are edges. -/
theorem kebabChars_eq_nil_iff {word : List Char} :
    kebabChars word = [] ↔ ∀ character ∈ word, isEdge character = true := by
  rw [kebabChars_eq_trimOf, trimOf_eq_nil_iff]
  simp only [List.mem_flatMap, forall_exists_index, and_imp]
  constructor
  · intro trimmed character inWord
    exact (forall_isEdge_kebabPiece_iff character).1 fun image => trimmed image character inWord
  · intro edges image origin inWord
    exact (forall_isEdge_kebabPiece_iff origin).2 (edges origin inWord) image

/-- Neither the pieces nor the ends of a segment change once more. -/
theorem kebabChars_kebabChars (word : List Char) : kebabChars (kebabChars word) = kebabChars word := by
  have pieces : (kebabChars word).flatMap kebabPiece = kebabChars word := by
    calc (kebabChars word).flatMap kebabPiece
        = (kebabChars word).flatMap fun character => [character] := by
          refine List.flatMap_congr fun character member => ?_
          obtain ⟨origin, -, inPiece⟩ := exists_mem_kebabPiece member
          exact kebabPiece_of_mem_kebabPiece inPiece
      _ = kebabChars word := List.flatMap_singleton' _
  rw [kebabChars_eq_trimOf (kebabChars word), pieces]
  exact trimOf_eq_self (fun _ => not_dropped_of_head?_trimOf) fun _ => not_dropped_of_getLast?_trimOf

/-- A text that can be the URL segment of a word: it has no ASCII capital, there is nothing to trim at
its ends, and it is its own segment. -/
structure IsSegment (segment : String) : Prop where
  noCapital : ∀ character ∈ segment.toList, character.isUpper = false
  starts : ∀ character ∈ segment.toList.head?, character ≠ '-' ∧ isBlank character = false
  ends : ∀ character ∈ segment.toList.getLast?, character ≠ '-' ∧ isBlank character = false
  settled : kebabCase segment = segment

/-- Every word has a URL segment without capitals and without edges at its ends, which is its own
segment. It is empty exactly for words that consist of hyphens and white space. -/
theorem kebabCase_isSegment (word : String) :
    IsSegment (kebabCase word) ∧
      (kebabCase word = "" ↔
        ∀ character ∈ word.toList, character = '-' ∨ isBlank character = true) := by
  have chars : (kebabCase word).toList = kebabChars word.toList := String.toList_ofList
  refine ⟨⟨?_, ?_, ?_, ?_⟩, ?_⟩
  · intro character member
    rw [chars] at member
    obtain ⟨origin, -, inPiece⟩ := exists_mem_kebabPiece member
    exact isUpper_of_mem_kebabPiece inPiece
  · intro character first
    rw [chars] at first
    exact isEdge_eq_false_iff.1 (not_dropped_of_head?_trimOf first)
  · intro character last
    rw [chars] at last
    exact isEdge_eq_false_iff.1 (not_dropped_of_getLast?_trimOf last)
  · rw [kebabCase, chars, kebabChars_kebabChars, ← chars, String.ofList_toList]
  · rw [← String.toList_inj, chars, String.toList_empty, kebabChars_eq_nil_iff]
    simp only [isEdge_eq_true_iff]

/-- Capitals of several scripts, one of which becomes two characters, between edges of both kinds. -/
theorem kebabCase_isSegment_mixed :
    kebabCase "\u2003-\u0130b\u03a3 \u212aC\u00a0-" = "i\u0307b\u03c3 k-c" ∧
      IsSegment "i\u0307b\u03c3 k-c" := by
  have segment : kebabCase "\u2003-\u0130b\u03a3 \u212aC\u00a0-" = "i\u0307b\u03c3 k-c" := by
    decide +kernel
  exact ⟨segment, segment ▸ (kebabCase_isSegment _).1⟩

end ResourceScaffold

import Mathlib.Data.List.Infix
import Mathlib.Data.List.Perm.Subperm
import ResourceScaffold.Proofs.Text.Occurrence

/-!
Contract: long runs of one character inside other texts.

Owns:
- the place of a run between texts that the character does not touch;
- needles that avoid a run;
- characters that differ from a few given ones.

Does not own: where runs are inserted.
-/

namespace ResourceScaffold.Text

variable {character : Char} {count : Nat}

/-- A run that is longer than all the rest stands in one place only, unless its character stands
next to it. -/
theorem append_replicate_append_inj {front back front' back' : List Char}
    (same : front ++ (List.replicate count character ++ back) =
      front' ++ (List.replicate count character ++ back'))
    (long : front.length + back.length < count) (apart : back.head? ≠ some character)
    (apart' : front.getLast? ≠ some character) : front' = front ∧ back' = back := by
  have lengths := congrArg List.length same
  simp only [List.length_append, List.length_replicate] at lengths
  rcases List.append_eq_append_iff.1 same with ⟨gap, rfl, shifted⟩ | ⟨gap, rfl, shifted⟩
  · -- The other run starts later, so the first one goes on with characters of the back.
    rw [List.length_append] at lengths
    obtain ⟨rest, split⟩ : gap <+: List.replicate count character := by
      refine List.prefix_of_prefix_length_le ⟨_, shifted.symm⟩ (List.prefix_append _ _) ?_
      rw [List.length_replicate]
      omega
    obtain ⟨total, gapRun, restRun⟩ := List.append_eq_replicate_iff.1 split
    have exchanged : gap ++ rest = rest ++ gap := by
      rw [gapRun, restRun, ← List.replicate_add, ← List.replicate_add, Nat.add_comm]
    rw [← split, List.append_assoc, List.append_cancel_left_eq, exchanged, List.append_assoc,
      List.append_cancel_left_eq] at shifted
    cases gap with
    | nil => exact ⟨List.append_nil front, shifted.symm⟩
    | cons first others =>
        rw [shifted, List.cons_append, List.head?_cons] at apart
        exact absurd (congrArg some (List.eq_of_mem_replicate (gapRun ▸ List.mem_cons_self))) apart
  · -- The other run starts earlier, so it takes in the end of the front.
    rw [List.length_append] at lengths long
    have within : gap <+: List.replicate count character := by
      refine List.prefix_of_prefix_length_le ⟨_, shifted.symm⟩ (List.prefix_append _ _) ?_
      rw [List.length_replicate]
      omega
    by_cases empty : gap = []
    · subst empty
      rw [List.nil_append, List.append_cancel_left_eq] at shifted
      exact ⟨(List.append_nil front').symm, shifted⟩
    · rw [List.getLast?_append_of_ne_nil _ empty, List.getLast?_eq_some_getLast empty] at apart'
      exact absurd (congrArg some (List.eq_of_mem_replicate
        (within.subset (List.getLast_mem empty)))) apart'

/-- The same for a long run put in at places of two texts. -/
theorem insertAt_replicate_inj {text text' : List Char} {place place' : Nat}
    (same : insertAt place (List.replicate count character) text =
      insertAt place' (List.replicate count character) text')
    (inside : place ≤ text.length) (inside' : place' ≤ text'.length) (long : text.length < count)
    (apart : (text.drop place).head? ≠ some character)
    (apart' : (text.take place).getLast? ≠ some character) : place' = place ∧ text' = text := by
  rw [insertAt, insertAt, List.append_assoc, List.append_assoc] at same
  have short : (text.take place).length + (text.drop place).length < count := by
    rwa [← List.length_append, List.take_append_drop]
  obtain ⟨fronts, backs⟩ := append_replicate_append_inj same short apart apart'
  constructor
  · rw [← List.length_take_of_le inside, ← List.length_take_of_le inside', fronts]
  · rw [← List.take_append_drop place' text', fronts, backs, List.take_append_drop]

theorem getElem?_append_replicate_append {front back : List Char} {index : Nat}
    (begun : front.length ≤ index) (ending : index < front.length + count) :
    (front ++ (List.replicate count character ++ back))[index]? = some character := by
  have within : index - front.length < (List.replicate count character).length := by
    rw [List.length_replicate]
    omega
  rw [List.getElem?_append_right begun, List.getElem?_append_left within,
    List.getElem?_replicate, if_pos (by omega)]

/-- A needle avoids a longer run of a character with which it neither starts nor ends. -/
theorem avoids_replicate {needle : List Char} (nonempty : needle ≠ [])
    (long : needle.length < count) (starts : needle.head? ≠ some character)
    (ends : needle.getLast? ≠ some character) : Avoids needle (List.replicate count character) := by
  rintro before after earlier _ same ⟨rest, rfl⟩
  rw [List.length_replicate]
  by_contra reaches
  have spelled {index : Nat} (within : index < needle.length) :
      (before ++ (List.replicate count character ++ after))[earlier.length + index]? =
        needle[index]? := by
    rw [← same, List.getElem?_append_right (by omega), Nat.add_sub_cancel_left,
      List.getElem?_append_left within]
  by_cases started : before.length ≤ earlier.length
  · rw [List.head?_eq_getElem?, ← spelled (List.length_pos_iff.2 nonempty),
      getElem?_append_replicate_append (by omega) (by omega)] at starts
    exact starts rfl
  · rw [List.getLast?_eq_getElem?, ← spelled (by omega),
      getElem?_append_replicate_append (by omega) (by omega)] at ends
    exact ends rfl

/-- There is a character apart from any four. -/
theorem exists_not_mem_of_length_le (taken : List (Option Char)) (few : taken.length ≤ 4) :
    ∃ character, some character ∉ taken := by
  by_contra! covered
  have included : ['a', 'b', 'c', 'd', 'e'].map some ⊆ taken := by
    intro entry member
    obtain ⟨letter, _, rfl⟩ := List.mem_map.1 member
    exact covered letter
  have lengths := (List.subperm_of_subset (by decide) included).length_le
  rw [List.length_map] at lengths
  simp only [List.length_cons, List.length_nil] at lengths
  omega

end ResourceScaffold.Text

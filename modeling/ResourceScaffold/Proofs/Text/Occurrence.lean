import ResourceScaffold.Text.Search
import Mathlib.Data.List.Infix

/-!
Contract: where the first occurrence of a needle stands after texts were inserted.

Owns:
- the first occurrence as a property of the two parts around it, and as a place in the text;
- contents inserted at one or two places;
- needles that avoid a snippet, whatever stands around it;
- what an insertion does to first occurrences.

Does not own: which snippets are inserted, and in front of which anchors.
-/

namespace ResourceScaffold.Text

/-! ## First occurrences -/

/-- The needle begins behind `before`, and nowhere further ahead. -/
def IsFirst (needle before after : List Char) : Prop :=
  needle <+: after ∧
    ∀ earlier rest, earlier ++ rest = before ++ after → needle <+: rest →
      before.length ≤ earlier.length

theorem isFirst_nil {needle text : List Char} (leads : needle <+: text) : IsFirst needle [] text :=
  ⟨leads, fun _ _ _ _ => Nat.zero_le _⟩

theorem isFirst_cons_iff {needle before after : List Char} {character : Char}
    (absent : ¬ needle <+: character :: (before ++ after)) :
    IsFirst needle (character :: before) after ↔ IsFirst needle before after := by
  constructor
  · rintro ⟨leads, least⟩
    refine ⟨leads, fun earlier rest same occurs => ?_⟩
    simpa using least (character :: earlier) rest (by simp [same]) occurs
  · rintro ⟨leads, least⟩
    refine ⟨leads, fun earlier rest same occurs => ?_⟩
    cases earlier with
    | nil =>
        rw [List.nil_append, List.cons_append] at same
        exact absurd (same ▸ occurs) absent
    | cons first others =>
        rw [List.cons_append, List.cons_append, List.cons.injEq] at same
        simpa using least others rest same.2 occurs

/-- The split that the search finds is the one at the first occurrence. -/
theorem splitAtFirst_eq_some_iff {needle text before after : List Char} :
    splitAtFirst needle text = some (before, after) ↔
      before ++ after = text ∧ IsFirst needle before after := by
  induction text generalizing before with
  | nil =>
      rw [List.append_eq_nil_iff]
      by_cases empty : needle = []
      · subst empty
        constructor
        · intro found
          cases found
          exact ⟨⟨rfl, rfl⟩, isFirst_nil List.nil_prefix⟩
        · rintro ⟨⟨rfl, rfl⟩, _⟩
          rfl
      · have missing : ¬ needle <+: [] := by simpa using empty
        simp only [splitAtFirst, List.isPrefixOf_iff_prefix, missing, if_false, reduceCtorEq,
          false_iff]
        rintro ⟨⟨rfl, rfl⟩, leads, _⟩
        exact missing leads
  | cons character rest inductionHypothesis =>
      by_cases here : needle <+: character :: rest
      · simp only [splitAtFirst, List.isPrefixOf_iff_prefix, here, if_true, Option.some.injEq,
          Prod.mk.injEq]
        constructor
        · rintro ⟨rfl, rfl⟩
          exact ⟨rfl, isFirst_nil here⟩
        · rintro ⟨same, _, least⟩
          have start := least [] (character :: rest) same.symm here
          obtain rfl : before = [] := List.eq_nil_of_length_eq_zero (by simpa using start)
          exact ⟨rfl, same.symm⟩
      · simp only [splitAtFirst, List.isPrefixOf_iff_prefix, here, if_false, Option.map_eq_some_iff,
          Prod.exists, Prod.mk.injEq]
        constructor
        · rintro ⟨shorter, _, found, rfl, rfl⟩
          obtain ⟨rfl, first⟩ := inductionHypothesis.1 found
          exact ⟨rfl, (isFirst_cons_iff here).2 first⟩
        · rintro ⟨same, first⟩
          cases before with
          | nil =>
              rw [List.nil_append] at same
              exact absurd (same ▸ first.1) here
          | cons head shorter =>
              rw [List.cons_append, List.cons.injEq] at same
              obtain ⟨rfl, rfl⟩ := same
              exact ⟨shorter, after,
                inductionHypothesis.2 ⟨rfl, (isFirst_cons_iff here).1 first⟩, rfl, rfl⟩

/-- A needle that occurs has a first occurrence. -/
theorem exists_isFirst_of_occurs {needle text : List Char} (found : occurs needle text = true) :
    ∃ before after, before ++ after = text ∧ IsFirst needle before after := by
  obtain ⟨⟨before, after⟩, split⟩ := Option.isSome_iff_exists.1 found
  exact ⟨before, after, splitAtFirst_eq_some_iff.1 split⟩

/-! ## Places -/

/-- The needle begins at a place, counted in characters, and at no place before it. -/
def FirstAt (needle text : List Char) (place : Nat) : Prop :=
  needle <+: text.drop place ∧ ∀ earlier < place, ¬ needle <+: text.drop earlier

/-- The first part of the split at a first occurrence is as long as the place of the occurrence. -/
theorem IsFirst.firstAt {needle before after : List Char} (first : IsFirst needle before after) :
    FirstAt needle (before ++ after) before.length := by
  refine ⟨by simpa using first.1, fun earlier ahead occurs => ?_⟩
  have least := first.2 _ _ (List.take_append_drop earlier _) occurs
  rw [List.length_take] at least
  omega

theorem FirstAt.isFirst {needle text : List Char} {place : Nat} (first : FirstAt needle text place) :
    IsFirst needle (text.take place) (text.drop place) := by
  refine ⟨first.1, fun earlier rest same occurs => ?_⟩
  rw [List.take_append_drop] at same
  rw [List.length_take]
  by_contra ahead
  refine first.2 earlier.length (by omega) ?_
  rwa [← same, List.drop_left]

theorem FirstAt.unique {needle text : List Char} {place place' : Nat}
    (first : FirstAt needle text place) (first' : FirstAt needle text place') : place = place' :=
  Nat.le_antisymm (Nat.le_of_not_lt fun ahead => first.2 place' ahead first'.1)
    (Nat.le_of_not_lt fun ahead => first'.2 place ahead first.1)

theorem lt_length_of_prefix_drop {needle text : List Char} {place : Nat} (nonempty : needle ≠ [])
    (occurs : needle <+: text.drop place) : place < text.length := by
  have lengths := occurs.length_le
  have positive := List.length_pos_iff.2 nonempty
  rw [List.length_drop] at lengths
  omega

/-- A text with a content put in at a place. -/
def insertAt (place : Nat) (content text : List Char) : List Char :=
  text.take place ++ content ++ text.drop place

@[simp] theorem insertAt_length (before content after : List Char) :
    insertAt before.length content (before ++ after) = before ++ content ++ after := by
  simp [insertAt]

theorem length_insertAt {text : List Char} {place : Nat} (inside : place ≤ text.length)
    (content : List Char) : (insertAt place content text).length = text.length + content.length := by
  simp only [insertAt, List.length_append, List.length_take, List.length_drop]
  omega

/-- A text with two contents put in at places that are both counted in the text itself. The later
one goes in first, so that it does not move the place of the other. -/
def InsertedBoth (text : List Char) (firstPlace : Nat) (firstContent : List Char)
    (secondPlace : Nat) (secondContent result : List Char) : Prop :=
  (firstPlace ≤ secondPlace ∧
      result = insertAt firstPlace firstContent (insertAt secondPlace secondContent text)) ∨
    (secondPlace ≤ firstPlace ∧
      result = insertAt secondPlace secondContent (insertAt firstPlace firstContent text))

instance (text : List Char) (firstPlace : Nat) (firstContent : List Char) (secondPlace : Nat)
    (secondContent result : List Char) :
    Decidable (InsertedBoth text firstPlace firstContent secondPlace secondContent result) := by
  unfold InsertedBoth
  infer_instance

theorem insertAt_insertAt (before middle after firstContent secondContent : List Char) :
    insertAt before.length firstContent
        (insertAt (before ++ middle).length secondContent (before ++ middle ++ after)) =
      before ++ firstContent ++ middle ++ secondContent ++ after := by
  rw [insertAt_length]
  simp only [List.append_assoc]
  rw [insertAt_length, List.append_assoc]

theorem exists_parts {text : List Char} {place : Nat} (inside : place ≤ text.length) :
    ∃ before after, text = before ++ after ∧ place = before.length :=
  ⟨text.take place, text.drop place, (List.take_append_drop place text).symm,
    (List.length_take_of_le inside).symm⟩

/-- A content put in further on goes in behind the other content as well, once this one is there. -/
theorem insertAt_add_length {text : List Char} {place place' : Nat} (ordered : place ≤ place')
    (inside : place' ≤ text.length) (content content' : List Char) :
    insertAt (place' + content.length) content' (insertAt place content text) =
      insertAt place content (insertAt place' content' text) := by
  obtain ⟨front, after, rfl, rfl⟩ := exists_parts inside
  obtain ⟨before, middle, rfl, rfl⟩ := exists_parts ordered
  rw [insertAt_insertAt]
  simp only [List.append_assoc]
  rw [insertAt_length]
  have lengths : (before ++ middle).length + content.length =
      (before ++ (content ++ middle)).length := by
    simp only [List.length_append]
    omega
  have regrouped : before ++ content ++ (middle ++ after) = before ++ (content ++ middle) ++ after := by
    simp only [List.append_assoc]
  rw [lengths, regrouped, insertAt_length]
  simp only [List.append_assoc]

/-! ## Avoiding a snippet -/

/-- Wherever the snippet stands, no occurrence of the needle reaches into it. -/
def Avoids (needle snippet : List Char) : Prop :=
  ∀ before after earlier rest, earlier ++ rest = before ++ (snippet ++ after) → needle <+: rest →
    earlier.length + needle.length ≤ before.length ∨
      before.length + snippet.length ≤ earlier.length

/-- No end of the needle can continue into a text that starts with `lead`. -/
def NeverEnters (needle lead : List Char) : Prop :=
  ∀ part ∈ needle.tails, part ≠ [] → ¬ part <+: lead ∧ ¬ lead <+: part

instance (needle lead : List Char) : Decidable (NeverEnters needle lead) :=
  inferInstanceAs (Decidable (∀ part ∈ needle.tails, part ≠ [] → ¬ part <+: lead ∧ ¬ lead <+: part))

/-- A prefix of two texts ends in the first one, or continues into the second. -/
theorem prefix_append_cases {needle before after : List Char} (occurs : needle <+: before ++ after) :
    needle <+: before ∨ ∃ part, needle = before ++ part ∧ part <+: after := by
  obtain ⟨rest, same⟩ := occurs
  rcases List.append_eq_append_iff.1 same with ⟨inner, split, _⟩ | ⟨part, split, continues⟩
  · exact Or.inl ⟨inner, split.symm⟩
  · exact Or.inr ⟨part, split, rest, continues.symm⟩

/-- An occurrence in front of a text that it never enters ends before that text. -/
theorem prefix_of_neverEnters {needle lead before after : List Char}
    (outside : NeverEnters needle lead) (leads : lead <+: after)
    (occurs : needle <+: before ++ after) : needle <+: before := by
  rcases prefix_append_cases occurs with within | ⟨part, rfl, continues⟩
  · exact within
  · by_cases empty : part = []
    · simp [empty]
    · have excluded := outside part (by simp) empty
      rcases List.prefix_or_prefix_of_prefix continues leads with shorter | longer
      · exact absurd shorter excluded.1
      · exact absurd longer excluded.2

/-- A needle avoids a snippet that it cannot enter from the left, that does not contain it, and that
ends in a character which it lacks. -/
theorem avoids_of_neverEnters {needle snippet lead : List Char} {final : Char}
    (outside : NeverEnters needle lead) (leads : lead <+: snippet)
    (ends : snippet.getLast? = some final) (lacks : final ∉ needle)
    (absent : ¬ needle <:+: snippet) : Avoids needle snippet := by
  intro before after earlier rest same occurs
  rcases List.append_eq_append_iff.1 same with ⟨gap, rfl, rfl⟩ | ⟨start, rfl, split⟩
  · -- The occurrence starts before the snippet.
    have ending := prefix_of_neverEnters outside (leads.trans (List.prefix_append snippet after))
      (by simpa using occurs)
    left
    simpa using ending.length_le
  · rcases List.append_eq_append_iff.1 split with ⟨inner, rfl, rfl⟩ | ⟨inside, rfl, rfl⟩
    · right
      simp
    · -- It starts inside the snippet, and can neither end there nor go beyond the last character.
      rcases prefix_append_cases occurs with within | ⟨part, rfl, _⟩
      · exact absurd (within.isInfix.trans (List.suffix_append start inside).isInfix) absent
      · right
        by_cases empty : inside = []
        · simp [empty]
        · rw [List.getLast?_append_of_ne_nil start empty] at ends
          exact absurd (List.mem_append_left part (List.mem_of_getLast? ends)) lacks

/-! ## Insertions -/

/-- An occurrence in a text with a snippet that the needle avoids is one in the text without it. -/
theorem occurs_of_avoids {needle snippet before after earlier rest : List Char}
    (avoids : Avoids needle snippet) (same : earlier ++ rest = before ++ (snippet ++ after))
    (occurs : needle <+: rest) :
    (earlier.length + needle.length ≤ before.length ∧
        ∃ rest', earlier ++ rest' = before ++ after ∧ needle <+: rest') ∨
      ∃ earlier', earlier = before ++ (snippet ++ earlier') ∧ earlier' ++ rest = after := by
  rcases avoids before after earlier rest same occurs with ahead | behind
  · left
    refine ⟨ahead, ?_⟩
    obtain ⟨gap, rfl⟩ : earlier <+: before := by
      refine List.prefix_of_prefix_length_le ⟨rest, same⟩ (List.prefix_append _ _) ?_
      omega
    rw [List.append_assoc, List.append_cancel_left_eq] at same
    rw [List.length_append] at ahead
    have within : needle <+: gap := by
      refine List.prefix_of_prefix_length_le (same ▸ occurs) (List.prefix_append _ _) ?_
      omega
    exact ⟨gap ++ after, by simp, within.trans (List.prefix_append _ _)⟩
  · right
    obtain ⟨gap, rfl⟩ : before ++ snippet <+: earlier := by
      refine List.prefix_of_prefix_length_le ⟨after, by simp⟩ ⟨rest, same⟩ ?_
      simpa using behind
    refine ⟨gap, by simp, ?_⟩
    simpa using same

theorem infix_insertAt_of_avoids {needle content text : List Char} {place : Nat}
    (avoids : Avoids needle content) (occurs : needle <:+: insertAt place content text) :
    needle <:+: text.take place ∨ needle <:+: text.drop place := by
  obtain ⟨earlier, rest, same⟩ := occurs
  rw [insertAt, List.append_assoc, List.append_assoc] at same
  rcases avoids _ _ _ _ same (List.prefix_append needle rest) with ahead | behind
  · left
    have regrouped : earlier ++ needle ++ rest = text.take place ++ (content ++ text.drop place) := by
      rw [List.append_assoc, same]
    have leads : earlier ++ needle <+: text.take place :=
      List.prefix_of_prefix_length_le ⟨rest, regrouped⟩ (List.prefix_append _ _)
        (List.length_append.trans_le ahead)
    exact (List.suffix_append earlier needle).isInfix.trans leads.isInfix
  · right
    obtain ⟨gap, rfl⟩ : text.take place ++ content <+: earlier :=
      List.prefix_of_prefix_length_le ⟨text.drop place, List.append_assoc _ _ _⟩
        ⟨needle ++ rest, same⟩ (List.length_append.trans_le behind)
    rw [List.append_assoc, List.append_assoc, List.append_cancel_left_eq,
      List.append_cancel_left_eq] at same
    exact ⟨gap, rest, by rw [← same, List.append_assoc]⟩

/-- A snippet in front of a first occurrence, or further ahead, moves it. -/
theorem IsFirst.insert_ahead {needle before middle after snippet : List Char}
    (first : IsFirst needle (before ++ middle) after) (avoids : Avoids needle snippet)
    (nonempty : needle ≠ []) : IsFirst needle (before ++ snippet ++ middle) after := by
  refine ⟨first.1, fun earlier rest same occurs => ?_⟩
  rcases occurs_of_avoids avoids (by simpa using same) occurs with
    ⟨ahead, rest', same', occurs'⟩ | ⟨earlier', rfl, same'⟩
  · have least := first.2 earlier rest' (by simpa using same') occurs'
    have positive := List.length_pos_iff.2 nonempty
    rw [List.length_append] at least
    omega
  · have least := first.2 (before ++ earlier') rest (by simpa using same') occurs
    simp only [List.length_append] at least ⊢
    omega

theorem IsFirst.insert_here {needle before after snippet : List Char}
    (first : IsFirst needle before after) (avoids : Avoids needle snippet)
    (nonempty : needle ≠ []) : IsFirst needle (before ++ snippet) after := by
  rw [← List.append_nil before] at first
  rw [← List.append_nil (before ++ snippet)]
  exact first.insert_ahead avoids nonempty

/-- A snippet behind a first occurrence leaves it where it is. -/
theorem IsFirst.insert_behind {needle before middle after snippet : List Char}
    (first : IsFirst needle before (middle ++ after)) (within : needle <+: middle)
    (avoids : Avoids needle snippet) : IsFirst needle before (middle ++ snippet ++ after) := by
  refine ⟨?_, fun earlier rest same occurs => ?_⟩
  · rw [List.append_assoc]
    exact within.trans (List.prefix_append _ _)
  · have regrouped : earlier ++ rest = before ++ middle ++ (snippet ++ after) := by
      simpa using same
    rcases occurs_of_avoids avoids regrouped occurs with
      ⟨_, rest', same', occurs'⟩ | ⟨earlier', rfl, _⟩
    · exact first.2 earlier rest' (by simpa using same') occurs'
    · simp only [List.length_append]
      omega

end ResourceScaffold.Text

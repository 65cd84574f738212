import ResourceScaffold.Text.Line
import Mathlib.Data.List.Basic

/-!
Contract: texts that are put together from lines with their ends.

Owns:
- what a single line is;
- that lines are found again in a text that is made of them.

Does not own: what the lines say.
-/

namespace ResourceScaffold.Text

def IsLine (line : List Char) : Prop := linesWithEnds line = [line]

instance (line : List Char) : Decidable (IsLine line) := inferInstanceAs (Decidable (_ = _))

def isLineEnd (character : Char) : Bool := character = '\n' || character = '\r'

/-! ## Reading on -/

theorem linesWithEnds_cons {character : Char} (inside : isLineEnd character = false)
    (rest : List Char) :
    linesWithEnds (character :: rest) = consLine character (linesWithEnds rest) := by
  have notEnd : ¬(character = '\n' ∨ character = '\r') := by simpa [isLineEnd] using inside
  rw [linesWithEnds]
  · rw [if_neg notEnd]
  · rintro tail rfl
    exact absurd (Or.inr rfl) notEnd

theorem linesWithEnds_feed (rest : List Char) :
    linesWithEnds ('\n' :: rest) = ['\n'] :: linesWithEnds rest := by
  rw [linesWithEnds]
  · simp
  · simp

theorem linesWithEnds_return {rest : List Char} (noFeed : rest.head? ≠ some '\n') :
    linesWithEnds ('\r' :: rest) = ['\r'] :: linesWithEnds rest := by
  rw [linesWithEnds]
  · simp
  · rintro tail - rfl
    exact noFeed rfl

theorem linesWithEnds_eq_nil {text : List Char} (none : linesWithEnds text = []) : text = [] := by
  rw [← flatten_linesWithEnds text, none]
  rfl

theorem isLine_cons_iff {character : Char} (inside : isLineEnd character = false)
    (line : List Char) : IsLine (character :: line) ↔ line = [] ∨ IsLine line := by
  rw [IsLine, IsLine, linesWithEnds_cons inside]
  cases lines : linesWithEnds line with
  | nil => simp [consLine, linesWithEnds_eq_nil lines]
  | cons first others =>
      have nonempty : line ≠ [] := by
        rintro rfl
        cases lines
      simp [consLine, nonempty]

theorem isLine_linesWithEnds (text : List Char) : ∀ line ∈ linesWithEnds text, IsLine line := by
  fun_induction linesWithEnds text with
  | case1 => simp
  | case2 rest inductionHypothesis =>
      exact List.forall_mem_cons.2 ⟨rfl, inductionHypothesis⟩
  | case3 character rest _ isEnd inductionHypothesis =>
      refine List.forall_mem_cons.2 ⟨?_, inductionHypothesis⟩
      obtain rfl | rfl := isEnd <;> rfl
  | case4 character rest _ notEnd inductionHypothesis =>
      have inside : isLineEnd character = false := by simpa [isLineEnd] using notEnd
      cases lines : linesWithEnds rest with
      | nil => simpa [consLine] using (isLine_cons_iff inside []).2 (Or.inl rfl)
      | cons first others =>
          rw [lines, List.forall_mem_cons] at inductionHypothesis
          exact List.forall_mem_cons.2
            ⟨(isLine_cons_iff inside first).2 (Or.inr inductionHypothesis.1), inductionHypothesis.2⟩

def lineEndings : List (List Char) := [[], ['\n'], ['\r'], ['\r', '\n']]

theorem IsLine.parts {line : List Char} (isLine : IsLine line) :
    ∃ content, ∃ ending ∈ lineEndings,
      (∀ character ∈ content, isLineEnd character = false) ∧ line = content ++ ending := by
  induction line with
  | nil => cases isLine
  | cons character rest inductionHypothesis =>
      cases isEnd : isLineEnd character with
      | false =>
          obtain rfl | isLine := (isLine_cons_iff isEnd rest).1 isLine
          · exact ⟨[character], [], by simp [lineEndings], by simpa using isEnd, rfl⟩
          · obtain ⟨content, ending, isEnding, inside, rfl⟩ := inductionHypothesis isLine
            exact ⟨character :: content, ending, isEnding,
              List.forall_mem_cons.2 ⟨isEnd, inside⟩, rfl⟩
      | true =>
          -- What ends the line is the whole line.
          refine ⟨[], character :: rest, ?_, nofun, rfl⟩
          obtain rfl | rfl : character = '\n' ∨ character = '\r' := by simpa [isLineEnd] using isEnd
          · rw [IsLine, linesWithEnds_feed, List.cons.injEq, List.cons.injEq] at isLine
            simp [lineEndings, ← isLine.1.2]
          · by_cases feed : rest.head? = some '\n'
            · obtain ⟨others, rfl⟩ := List.head?_eq_some_iff.1 feed
              rw [IsLine, linesWithEnds] at isLine
              simp_all [lineEndings]
            · rw [IsLine, linesWithEnds_return feed, List.cons.injEq, List.cons.injEq] at isLine
              simp [lineEndings, ← isLine.1.2]

/-! ## Lines one after the other -/

/-- Characters that end no line belong to the line in front of which they stand. -/
theorem linesWithEnds_append {content rest first : List Char} {others : List (List Char)}
    (inside : ∀ character ∈ content, isLineEnd character = false)
    (lines : linesWithEnds rest = first :: others) :
    linesWithEnds (content ++ rest) = (content ++ first) :: others := by
  induction content with
  | nil => exact lines
  | cons character content inductionHypothesis =>
      rw [List.forall_mem_cons] at inside
      rw [List.cons_append, linesWithEnds_cons inside.1, inductionHypothesis inside.2]
      rfl

theorem isLine_append_feed {content : List Char}
    (inside : ∀ character ∈ content, isLineEnd character = false) : IsLine (content ++ ['\n']) :=
  linesWithEnds_append inside (linesWithEnds_feed [])

theorem lineIsEnded_eq_false {content : List Char}
    (inside : ∀ character ∈ content, isLineEnd character = false) : lineIsEnded content = false := by
  rw [lineIsEnded]
  split
  · rename_i last isLast
    exact inside last (List.mem_of_getLast? isLast)
  · rfl

theorem IsLine.inside {line : List Char} (isLine : IsLine line) (unended : lineIsEnded line = false) :
    ∀ character ∈ line, isLineEnd character = false := by
  obtain ⟨content, ending, isEnding, inside, rfl⟩ := isLine.parts
  simp only [lineEndings, List.mem_cons, List.not_mem_nil, or_false] at isEnding
  obtain rfl | rfl | rfl | rfl := isEnding
  · simpa using inside
  all_goals simp [lineIsEnded] at unended

/-- An ended line in front of a text is its first line, unless a line feed belongs to it as well. -/
theorem IsLine.append {line : List Char} (isLine : IsLine line) (ended : lineIsEnded line = true)
    {rest : List Char} (noFeed : rest.head? ≠ some '\n') :
    linesWithEnds (line ++ rest) = line :: linesWithEnds rest := by
  obtain ⟨content, ending, isEnding, inside, rfl⟩ := isLine.parts
  rw [List.append_assoc]
  refine linesWithEnds_append inside ?_
  simp only [lineEndings, List.mem_cons, List.not_mem_nil, or_false] at isEnding
  obtain rfl | rfl | rfl | rfl := isEnding
  · rw [List.append_nil, lineIsEnded_eq_false inside] at ended
    cases ended
  · exact linesWithEnds_feed rest
  · exact linesWithEnds_return noFeed
  · exact linesWithEnds.eq_2 rest

/-- Whether a text is an ended line that is no rest of a line end in front of it. -/
structure StandsAlone (line : List Char) : Prop where
  isLine : IsLine line
  ended : lineIsEnded line = true
  noFeed : line.head? ≠ some '\n'

/-- Lines that stand alone are found again in the text that they make up. -/
theorem linesWithEnds_flatten {lines : List (List Char)}
    (alone : ∀ line ∈ lines, StandsAlone line) : linesWithEnds lines.flatten = lines := by
  induction lines with
  | nil => rfl
  | cons line rest inductionHypothesis =>
      rw [List.forall_mem_cons] at alone
      obtain ⟨first, others⟩ := alone
      have noFeed : rest.flatten.head? ≠ some '\n' := by
        cases rest with
        | nil => simp
        | cons next more =>
            rw [List.forall_mem_cons] at others
            obtain ⟨nextIsLine, -, noFeed⟩ := others.1
            cases next with
            | nil => cases nextIsLine
            | cons character content => exact noFeed
      rw [List.flatten_cons, first.isLine.append first.ended noFeed, inductionHypothesis others]

theorem standsAlone_append_feed {content : List Char} (nonempty : content ≠ [])
    (inside : ∀ character ∈ content, isLineEnd character = false) :
    StandsAlone (content ++ ['\n']) where
  isLine := isLine_append_feed inside
  ended := by simp [lineIsEnded]
  noFeed := by
    obtain ⟨first, rest, rfl⟩ := List.exists_cons_of_ne_nil nonempty
    rintro ⟨⟩
    cases inside _ List.mem_cons_self

end ResourceScaffold.Text

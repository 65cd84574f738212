/-!
Contract: the first occurrence of one text in another.

Owns:
- splitting a text in front of the first occurrence of a needle;
- the test whether a needle occurs at all;
- splitting a text at every separator character.

Does not own: what is done at the place that was found.
-/

namespace ResourceScaffold.Text

/-- The two parts of a text around the start of the first occurrence of a needle: the second part
begins with the needle. An empty needle is found at the start. -/
def splitAtFirst (needle : List Char) : List Char → Option (List Char × List Char)
  | [] => if needle.isPrefixOf [] then some ([], []) else none
  | character :: rest =>
      if needle.isPrefixOf (character :: rest) then
        some ([], character :: rest)
      else
        (splitAtFirst needle rest).map fun parts => (character :: parts.1, parts.2)

def occurs (needle text : List Char) : Bool :=
  (splitAtFirst needle text).isSome

/-- The pieces of a text between separator characters; there is one piece more than there are
separators. -/
def splitOn (separator : Char) : List Char → List (List Char)
  | [] => [[]]
  | character :: rest =>
      if character = separator then
        [] :: splitOn separator rest
      else
        match splitOn separator rest with
        | [] => [[character]]
        | piece :: pieces => (character :: piece) :: pieces

theorem splitAtFirst_append {needle text : List Char} {parts : List Char × List Char}
    (found : splitAtFirst needle text = some parts) :
    parts.1 ++ parts.2 = text := by
  induction text generalizing parts with
  | nil =>
      simp only [splitAtFirst] at found
      split at found
      · cases found; rfl
      · cases found
  | cons character rest inductionHypothesis =>
      simp only [splitAtFirst] at found
      split at found
      · cases found; rfl
      · obtain ⟨inner, innerFound, rfl⟩ := Option.map_eq_some_iff.1 found
        simpa using inductionHypothesis innerFound

theorem splitAtFirst_isPrefixOf {needle text : List Char} {parts : List Char × List Char}
    (found : splitAtFirst needle text = some parts) :
    needle.isPrefixOf parts.2 = true := by
  induction text generalizing parts with
  | nil =>
      simp only [splitAtFirst] at found
      split at found
      · cases found; assumption
      · cases found
  | cons character rest inductionHypothesis =>
      simp only [splitAtFirst] at found
      split at found
      · cases found; assumption
      · obtain ⟨inner, innerFound, rfl⟩ := Option.map_eq_some_iff.1 found
        exact (inductionHypothesis innerFound :)

theorem occurs_iff {needle text : List Char} : occurs needle text = true ↔ needle <:+: text := by
  induction text with
  | nil => simp [occurs, splitAtFirst]
  | cons character rest inductionHypothesis =>
      rw [List.infix_cons_iff, ← inductionHypothesis]
      by_cases here : needle <+: character :: rest <;> simp [occurs, splitAtFirst, here]

end ResourceScaffold.Text

import ResourceScaffold.Text.Search
import Mathlib.Data.List.Infix

/-!
Contract: the pieces of a text between separators.

Owns:
- the pieces of texts that are put together with a separator;
- which pieces there can be, and which words a part of a text shows to be pieces.

Does not own: any particular separator.
-/

namespace ResourceScaffold.Text

variable {separator : Char}

theorem splitOn_ne_nil (text : List Char) : splitOn separator text ≠ [] := by
  fun_induction splitOn separator text <;> simp

theorem splitOn_of_notMem {text : List Char} (absent : separator ∉ text) :
    splitOn separator text = [text] := by
  induction text with
  | nil => rfl
  | cons character rest inductionHypothesis =>
      rw [List.mem_cons, not_or] at absent
      simp [splitOn, Ne.symm absent.1, inductionHypothesis absent.2]

theorem splitOn_append (before after : List Char) :
    splitOn separator (before ++ separator :: after) =
      splitOn separator before ++ splitOn separator after := by
  induction before with
  | nil => simp [splitOn]
  | cons character rest inductionHypothesis =>
      rw [List.cons_append]
      by_cases ends : character = separator
      · simp [splitOn, ends, inductionHypothesis]
      · rw [splitOn, if_neg ends, inductionHypothesis, splitOn, if_neg ends]
        cases pieces : splitOn separator rest with
        | nil => exact absurd pieces (splitOn_ne_nil rest)
        | cons piece others => rfl

theorem splitOn_append_of_notMem (text : List Char) {ending : List Char}
    (whole : separator ∉ ending) :
    ∃ front last, splitOn separator text = front ++ [last] ∧
      splitOn separator (text ++ ending) = front ++ [last ++ ending] := by
  induction text with
  | nil => exact ⟨[], [], rfl, splitOn_of_notMem whole⟩
  | cons character rest inductionHypothesis =>
      obtain ⟨front, last, pieces, pieces'⟩ := inductionHypothesis
      rw [List.cons_append, splitOn, splitOn, pieces, pieces']
      by_cases ends : character = separator
      · exact ⟨[] :: front, last, if_pos ends, if_pos ends⟩
      · rw [if_neg ends, if_neg ends]
        cases front with
        | nil => exact ⟨[], character :: last, rfl, rfl⟩
        | cons first others => exact ⟨(character :: first) :: others, last, rfl, rfl⟩

theorem splitOn_append_of_cons {front rest piece : List Char} {pieces : List (List Char)}
    (whole : separator ∉ front) (split : splitOn separator rest = piece :: pieces) :
    splitOn separator (front ++ rest) = (front ++ piece) :: pieces := by
  induction front with
  | nil => exact split
  | cons character others inductionHypothesis =>
      rw [List.mem_cons, not_or] at whole
      rw [List.cons_append, splitOn, if_neg (Ne.symm whole.1), inductionHypothesis whole.2]
      rfl

theorem notMem_of_mem_splitOn {text piece : List Char} (member : piece ∈ splitOn separator text) :
    separator ∉ piece := by
  induction text generalizing piece with
  | nil =>
      rw [splitOn, List.mem_singleton] at member
      simp [member]
  | cons character rest inductionHypothesis =>
      by_cases ends : character = separator
      · rw [splitOn, if_pos ends, List.mem_cons] at member
        rcases member with rfl | later
        · exact List.not_mem_nil
        · exact inductionHypothesis later
      · rw [splitOn, if_neg ends] at member
        cases pieces : splitOn separator rest with
        | nil => exact absurd pieces (splitOn_ne_nil rest)
        | cons first others =>
            rw [pieces] at member inductionHypothesis
            rcases List.mem_cons.1 member with rfl | later
            · have clear := inductionHypothesis List.mem_cons_self
              simpa [Ne.symm ends] using clear
            · exact inductionHypothesis (List.mem_cons_of_mem _ later)

theorem splitOn_intercalate {texts : List (List Char)} (nonempty : texts ≠ []) :
    splitOn separator ([separator].intercalate texts) = texts.flatMap (splitOn separator) := by
  induction texts with
  | nil => exact absurd rfl nonempty
  | cons first rest inductionHypothesis =>
      cases rest with
      | nil => rw [List.intercalate_singleton, List.flatMap_singleton]
      | cons second others =>
          rw [List.intercalate_cons_cons, List.append_assoc, List.singleton_append, splitOn_append,
            inductionHypothesis (List.cons_ne_nil _ _), ← List.flatMap_cons]

/-- A word that stands between two separators in a part of a text is a piece of the text. -/
theorem mem_splitOn_of_infix {text before word after : List Char}
    (part : before ++ separator :: (word ++ separator :: after) <:+: text)
    (whole : separator ∉ word) : word ∈ splitOn separator text := by
  obtain ⟨front, back, rfl⟩ := part
  have regrouped : front ++ (before ++ separator :: (word ++ separator :: after)) ++ back =
      (front ++ before) ++ separator :: (word ++ separator :: (after ++ back)) := by
    simp
  rw [regrouped, splitOn_append, splitOn_append, splitOn_of_notMem whole]
  simp

end ResourceScaffold.Text

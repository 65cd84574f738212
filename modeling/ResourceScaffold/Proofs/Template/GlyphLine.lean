import ResourceScaffold.Proofs.Template.Passage
import ResourceScaffold.Proofs.Text.Pieces

/-!
Contract: the lines of a text, told from the glyphs that it is written from.

Owns:
- lines of glyphs, and the lines of the text that they are written to;
- glyphs that stay on their line;
- glyphs whose first characters rule a beginning out.

Does not own: the glyphs of any template.
-/

namespace ResourceScaffold.Template

open Text

/-! ## Lines -/

/-- Glyphs cut at the ends of lines, as far as these are not within a field. -/
def glyphLines (glyphs : List Glyph) : List (List Glyph) :=
  glyphs.splitOn (.char '\n')

theorem written_intercalate (textOf : String → String) (lines : List (List Glyph)) :
    written textOf ([.char '\n'].intercalate lines) =
      ['\n'].intercalate (lines.map (written textOf)) := by
  induction lines with
  | nil => rfl
  | cons first rest inductionHypothesis =>
      cases rest with
      | nil => rw [List.map_singleton, List.intercalate_singleton, List.intercalate_singleton]
      | cons second others =>
          have lineEnd : written textOf [.char '\n'] = ['\n'] := rfl
          rw [List.intercalate_cons_cons, written_append, written_append, inductionHypothesis,
            lineEnd, ← List.intercalate_cons_of_ne_nil (by simp), ← List.map_cons]

/-- The lines of a text are those of the texts of its lines of glyphs. -/
theorem splitOn_written (textOf : String → String) (glyphs : List Glyph) :
    splitOn '\n' (written textOf glyphs) =
      (glyphLines glyphs).flatMap fun line => splitOn '\n' (written textOf line) := by
  have lines : glyphLines glyphs ≠ [] := List.splitOn_ne_nil _ _
  have whole : [.char '\n'].intercalate (glyphLines glyphs) = glyphs := List.intercalate_splitOn _
  calc
    splitOn '\n' (written textOf glyphs)
        = splitOn '\n' (['\n'].intercalate ((glyphLines glyphs).map (written textOf))) := by
          rw [← written_intercalate, whole]
    _ = (glyphLines glyphs).flatMap fun line => splitOn '\n' (written textOf line) := by
          rw [splitOn_intercalate (by simpa using lines), List.flatMap_map]

/-! ## Glyphs on one line -/

/-- Whether a glyph ends no line, if some fields are known not to. -/
def Glyph.staysOnLine (fields : List String) : Glyph → Bool
  | char character => character != '\n'
  | field name => fields.contains name

theorem splitOn_written_of_staysOnLine {textOf : String → String} {fields : List String}
    (oneLine : ∀ name ∈ fields, '\n' ∉ (textOf name).toList) {line : List Glyph}
    (stays : ∀ glyph ∈ line, glyph.staysOnLine fields = true) :
    splitOn '\n' (written textOf line) = [written textOf line] := by
  refine splitOn_of_notMem fun ends => ?_
  obtain ⟨glyph, member, inside⟩ := List.mem_flatMap.1 ends
  have stay := stays glyph member
  cases glyph with
  | char character =>
      obtain rfl := List.mem_singleton.1 inside
      cases stay
  | field name => exact oneLine name (by simpa [Glyph.staysOnLine] using stay) inside

/-! ## Beginnings -/

/-- Whether the characters that glyphs begin with rule a beginning out, whatever the fields hold. -/
def rulesOut : List Char → List Glyph → Bool
  | _ :: _, [] => true
  | first :: start, .char character :: rest => first != character || rulesOut start rest
  | _, _ => false

theorem not_prefix_of_rulesOut (textOf : String → String) {start : List Char} {line : List Glyph}
    (ruledOut : rulesOut start line = true) : ¬ start <+: written textOf line := by
  fun_induction rulesOut start line with
  | case1 => simp
  | case2 first start character rest inductionHypothesis =>
      have split : written textOf (.char character :: rest) =
          character :: written textOf rest := rfl
      rw [split, List.cons_prefix_cons, not_and]
      rintro rfl
      exact inductionHypothesis (by simpa using ruledOut)
  | case3 => cases ruledOut

end ResourceScaffold.Template

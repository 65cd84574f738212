import ResourceScaffold.Text.Line

/-!
Contract: the script of a difference between two texts of lines.

Owns:
- edits that keep, remove or add a run of lines, with the line numbers they are reported at;
- the two texts that a script stands between;
- runs of lines that two texts share at their starts or at their ends.

Does not own: finding a script.
-/

namespace ResourceScaffold.Diff

/-- A line with the characters that end it. -/
abbrev Line := List Char

/-! ## Edits -/

/-- What an edit does to its lines. -/
inductive EditKind where
  | keep
  | remove
  | add
deriving DecidableEq, Repr

/-- An edit of a run of lines. The numbers count the lines in front of the run in the old and in the
new text; an edit that was moved past another one still counts as before. -/
structure Edit where
  kind : EditKind
  lines : List Line
  oldIndex : Nat
  newIndex : Nat
deriving DecidableEq, Repr

/-- Edits in order. -/
abbrev Script := List Edit

namespace Edit

/-- The lines that an edit takes from the old text. -/
def oldLines (edit : Edit) : List Line :=
  match edit.kind with
  | .add => []
  | .keep | .remove => edit.lines

/-- The lines that an edit gives to the new text. -/
def newLines (edit : Edit) : List Line :=
  match edit.kind with
  | .remove => []
  | .keep | .add => edit.lines

end Edit

/-! ## The two sides of a script -/

def Script.oldLines (script : Script) : List Line :=
  script.flatMap Edit.oldLines

def Script.newLines (script : Script) : List Line :=
  script.flatMap Edit.newLines

@[simp] theorem Script.oldLines_cons (edit : Edit) (rest : Script) :
    Script.oldLines (edit :: rest) = edit.oldLines ++ Script.oldLines rest := rfl

@[simp] theorem Script.newLines_cons (edit : Edit) (rest : Script) :
    Script.newLines (edit :: rest) = edit.newLines ++ Script.newLines rest := rfl

@[simp] theorem Script.oldLines_nil : Script.oldLines [] = [] := rfl

@[simp] theorem Script.newLines_nil : Script.newLines [] = [] := rfl

/-- The size of a script: its edits and their lines. -/
def Script.size (script : Script) : Nat :=
  script.foldr (fun edit rest => edit.lines.length + 1 + rest) 0

@[simp] theorem Script.oldLines_append (first second : Script) :
    Script.oldLines (first ++ second) = Script.oldLines first ++ Script.oldLines second := by
  simp [Script.oldLines]

@[simp] theorem Script.newLines_append (first second : Script) :
    Script.newLines (first ++ second) = Script.newLines first ++ Script.newLines second := by
  simp [Script.newLines]

/-! ## Shared runs -/

def sharedStart : List Line → List Line → Nat
  | left :: leftRest, right :: rightRest =>
      if left = right then sharedStart leftRest rightRest + 1 else 0
  | _, _ => 0

def sharedEnd (left right : List Line) : Nat :=
  sharedStart left.reverse right.reverse

theorem take_sharedStart (left right : List Line) :
    left.take (sharedStart left right) = right.take (sharedStart left right) := by
  induction left generalizing right with
  | nil => simp [sharedStart]
  | cons line rest inductionHypothesis =>
      cases right with
      | nil => simp [sharedStart]
      | cons other others =>
          simp only [sharedStart]
          split
          · rename_i same
            simp [same, inductionHypothesis]
          · simp

theorem sharedStart_le_left (left right : List Line) :
    sharedStart left right ≤ left.length := by
  induction left generalizing right with
  | nil => simp [sharedStart]
  | cons line rest inductionHypothesis =>
      cases right with
      | nil => simp [sharedStart]
      | cons other others =>
          simp only [sharedStart]
          split
          · simpa using inductionHypothesis others
          · simp

theorem drop_sharedEnd (left right : List Line) :
    left.drop (left.length - sharedEnd left right) =
      right.drop (right.length - sharedEnd left right) := by
  have agree := congrArg List.reverse (take_sharedStart left.reverse right.reverse)
  simpa only [List.reverse_take, List.reverse_reverse, List.length_reverse, sharedEnd] using agree

theorem sharedEnd_le_left (left right : List Line) : sharedEnd left right ≤ left.length := by
  simpa [sharedEnd] using sharedStart_le_left left.reverse right.reverse

end ResourceScaffold.Diff

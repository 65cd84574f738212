import ResourceScaffold.Diff.Bisection
import ResourceScaffold.Diff.Compaction
import ResourceScaffold.Diff.Hunk
import ResourceScaffold.Plan

/-!
Contract: the difference between two texts in unified format.

Owns:
- the headers of a difference and of its hunks;
- the marks of lines, and of a last line that nothing ends;
- the difference that an edit of the aggregator makes.

Does not own: where the difference is shown.
-/

namespace ResourceScaffold.Diff

/-! ## Lines and hunks -/

/-- How many kept lines are shown around a change. -/
def contextRadius : Nat := 3

/-- The remark after a last line that nothing ends. -/
def missingEndMark : List Char := "\n\\ No newline at end of file\n".toList

def markedLine (mark : Char) (line : Line) : List Char :=
  mark :: line ++ (if Text.lineIsEnded line then [] else missingEndMark)

def markedLines (mark : Char) (lines : List Line) : List Char :=
  lines.flatMap (markedLine mark)

/-- The lines of a region with their marks; what is removed comes first. -/
def Region.print : Region → List Char
  | .kept lines _ _ => markedLines ' ' lines
  | .changed removed added _ _ => markedLines '-' removed ++ markedLines '+' added

/-- The range of lines from one number up to another: the first line and the count, which is left
out if it is one. An empty range names the line in front of it. -/
def rangeText (start stop : Nat) : String :=
  let count := stop - start
  if count = 1 then toString (start + 1)
  else if count = 0 then toString start ++ ",0"
  else toString (start + 1) ++ "," ++ toString count

def hunkHeader (first last : Region) : String :=
  "@@ -" ++ rangeText first.oldStart last.oldEnd ++ " +" ++
    rangeText first.newStart last.newEnd ++ " @@\n"

def Hunk.print (hunk : Hunk) : List Char :=
  match hunk.head?, hunk.getLast? with
  | some first, some last => (hunkHeader first last).toList ++ hunk.flatMap Region.print
  | _, _ => []

/-! ## Whole texts -/

def hunksBetween (old new : List Char) : List Hunk :=
  hunksOf contextRadius
    (regionsOf (compact (shortestScript (Text.linesWithEnds old) (Text.linesWithEnds new))))

/-- The difference between two texts under the names of an old and a new file. It is empty if there
is none. -/
def unified (oldName newName : String) (old new : List Char) : List Char :=
  match hunksBetween old new with
  | [] => []
  | hunks =>
      ("--- " ++ oldName ++ "\n+++ " ++ newName ++ "\n").toList ++ hunks.flatMap Hunk.print

end ResourceScaffold.Diff

namespace ResourceScaffold

def AggregatorEdit.difference (edit : AggregatorEdit) : String :=
  String.ofList
    (Diff.unified ("a/" ++ edit.path.text) ("b/" ++ edit.path.text) edit.before.toList
      edit.after.toList)

end ResourceScaffold

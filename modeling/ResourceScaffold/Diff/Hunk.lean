import ResourceScaffold.Diff.Script

/-!
Contract: the hunks of a script: its changes with some kept lines around them.

Owns:
- joining what is removed and added at one place;
- cutting a script into hunks where many lines are kept.

Does not own: how a hunk is printed.
-/

namespace ResourceScaffold.Diff

/-! ## Regions -/

/-- A part of a script: kept lines, or lines that are removed and others that are put in their
place. The numbers count the lines in front of it. -/
inductive Region where
  | kept (lines : List Line) (oldIndex newIndex : Nat)
  | changed (removed added : List Line) (oldIndex newIndex : Nat)
deriving DecidableEq, Repr

namespace Region

def oldStart : Region → Nat
  | kept _ oldIndex _ => oldIndex
  | changed _ _ oldIndex _ => oldIndex

def newStart : Region → Nat
  | kept _ _ newIndex => newIndex
  | changed _ _ _ newIndex => newIndex

def oldLines : Region → List Line
  | kept lines _ _ => lines
  | changed removed _ _ _ => removed

def newLines : Region → List Line
  | kept lines _ _ => lines
  | changed _ added _ _ => added

/-- The number of lines up to the end of a region in the old text. -/
def oldEnd (region : Region) : Nat :=
  region.oldStart + region.oldLines.length

/-- The number of lines up to the end of a region in the new text. -/
def newEnd (region : Region) : Nat :=
  region.newStart + region.newLines.length

end Region

/-- Takes one more edit into regions, of which the last one is listed first. What is removed counts
from where the first removal is, and what is added from where the first addition is. -/
def joinEdit (regions : List Region) (edit : Edit) : List Region :=
  match edit.kind, regions with
  | .keep, .kept lines oldIndex newIndex :: rest =>
      .kept (lines ++ edit.lines) oldIndex newIndex :: rest
  | .keep, regions => .kept edit.lines edit.oldIndex edit.newIndex :: regions
  | .remove, .changed removed added oldIndex newIndex :: rest =>
      .changed (removed ++ edit.lines) added (if removed.isEmpty then edit.oldIndex else oldIndex)
        newIndex :: rest
  | .remove, regions => .changed edit.lines [] edit.oldIndex edit.newIndex :: regions
  | .add, .changed removed added oldIndex newIndex :: rest =>
      .changed removed (added ++ edit.lines) oldIndex
        (if added.isEmpty then edit.newIndex else newIndex) :: rest
  | .add, regions => .changed [] edit.lines edit.oldIndex edit.newIndex :: regions

def regionsOf (script : Script) : List Region :=
  (script.foldl joinEdit []).reverse

/-! ## Hunks -/

/-- Neighbouring regions that are printed together. -/
abbrev Hunk := List Region

/-- Cuts regions where more than twice the context is kept. The regions of the hunk that has begun
are listed last one first. -/
def cutHunks (context : Nat) : List Region → List Region → List Hunk
  | [], [] => []
  | [.kept _ _ _], [] => []
  | begun, [] => [begun.reverse]
  | begun, .kept lines oldIndex newIndex :: rest =>
      if 2 * context < lines.length then
        let skipped := lines.length - context
        (.kept (lines.take context) oldIndex newIndex :: begun).reverse ::
          cutHunks context
            [.kept (lines.drop skipped) (oldIndex + skipped) (newIndex + skipped)] rest
      else cutHunks context (.kept lines oldIndex newIndex :: begun) rest
  | begun, change :: rest => cutHunks context (change :: begun) rest

/-- Regions in which a kept run at the start is cut down to the context. -/
def trimFirst (context : Nat) : List Region → List Region
  | .kept lines oldIndex newIndex :: rest =>
      let skipped := lines.length - context
      .kept (lines.drop skipped) (oldIndex + skipped) (newIndex + skipped) :: rest
  | regions => regions

/-- Regions in which a kept run at the end is cut down to the context. -/
def trimLast (context : Nat) : List Region → List Region
  | [.kept lines oldIndex newIndex] => [.kept (lines.take context) oldIndex newIndex]
  | region :: rest => region :: trimLast context rest
  | [] => []

/-- The hunks of regions. Between two hunks lie kept lines that no hunk shows. -/
def hunksOf (context : Nat) (regions : List Region) : List Hunk :=
  cutHunks context [] (trimLast context (trimFirst context regions))

end ResourceScaffold.Diff

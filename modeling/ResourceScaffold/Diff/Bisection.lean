import ResourceScaffold.Diff.Script

/-!
Contract: a shortest script between two texts, found by bisection.

Owns:
- the search for a point in the middle of a shortest script, from both ends at once;
- the script that results from dividing at such points.

Does not own: which of several shortest scripts reads best.
-/

namespace ResourceScaffold.Diff

/-! ## The search from both ends -/

/-- How far each diagonal has been followed. Diagonals are numbered from `-offset`. -/
structure Frontier where
  offset : Nat
  reached : Array Nat

namespace Frontier

/-- A frontier for searches of at most `bound` rounds. -/
def start (bound : Nat) : Frontier :=
  ⟨bound, Array.replicate (2 * bound + 2) 0⟩

def get (frontier : Frontier) (diagonal : Int) : Nat :=
  frontier.reached.getD (diagonal + frontier.offset).toNat 0

def set (frontier : Frontier) (diagonal : Int) (place : Nat) : Frontier :=
  { frontier with
    reached := frontier.reached.setIfInBounds (diagonal + frontier.offset).toNat place }

/-- Where a round starts to follow a diagonal: one step down from the diagonal above or one step
right from the one below, whichever leads further. -/
def entry (frontier : Frontier) (round : Nat) (diagonal : Int) : Nat :=
  if diagonal = -(round : Int) ∨
      (diagonal ≠ round ∧ frontier.get (diagonal - 1) < frontier.get (diagonal + 1)) then
    frontier.get (diagonal + 1)
  else
    frontier.get (diagonal - 1) + 1

end Frontier

/-- The number of equal lines from two places on, at most `steps` of them. -/
def advance (left right : Array Line) : Nat → Nat → Nat → Nat
  | 0, _, _ => 0
  | steps + 1, leftPlace, rightPlace =>
      match left[leftPlace]?, right[rightPlace]? with
      | some leftLine, some rightLine =>
          if leftLine = rightLine then
            advance left right steps (leftPlace + 1) (rightPlace + 1) + 1
          else 0
      | _, _ => 0

/-- One of the two directions of the search. -/
structure Direction where
  old : Array Line
  new : Array Line

def Direction.follow (direction : Direction) (place : Nat) (diagonal : Int) : Nat :=
  let across := (place : Int) - diagonal
  if 0 ≤ across then
    place + advance direction.old direction.new direction.old.size place across.toNat
  else place

/-- Both directions of a search: the texts as they are, and the texts reversed. -/
structure Search where
  forward : Direction
  backward : Direction

def Search.between (old new : List Line) : Search :=
  ⟨⟨old.toArray, new.toArray⟩, ⟨old.reverse.toArray, new.reverse.toArray⟩⟩

namespace Search

def oldSize (search : Search) : Nat := search.forward.old.size

def newSize (search : Search) : Nat := search.forward.new.size

def lastDiagonal (search : Search) : Int :=
  (search.oldSize : Int) - search.newSize

/-- The diagonals of a round, from the highest to the lowest. -/
def diagonals (round : Nat) : List Int :=
  (List.range (round + 1)).map fun (step : Nat) => (round : Int) - 2 * (step : Int)

/-- Follows diagonals forward until one meets what was reached backward, and gives the place where
the meeting run starts. -/
def forwardRound (search : Search) (round : Nat) (there : Frontier) :
    Frontier → List Int → Frontier × Option (Nat × Nat)
  | here, [] => (here, none)
  | here, diagonal :: rest =>
      let entry := here.entry round diagonal
      let reached := search.forward.follow entry diagonal
      let next := here.set diagonal reached
      let opposite := diagonal - search.lastDiagonal
      if search.lastDiagonal % 2 ≠ 0 ∧ opposite.natAbs + 1 ≤ round ∧
          search.oldSize ≤ reached + there.get (-opposite) then
        (next, some (entry, ((entry : Int) - diagonal).toNat))
      else
        search.forwardRound round there next rest

/-- Follows diagonals backward until one meets what was reached forward, and gives the place where
the meeting run starts. -/
def backwardRound (search : Search) (round : Nat) (there : Frontier) :
    Frontier → List Int → Frontier × Option (Nat × Nat)
  | here, [] => (here, none)
  | here, diagonal :: rest =>
      let reached := search.backward.follow (here.entry round diagonal) diagonal
      let next := here.set diagonal reached
      let opposite := diagonal - search.lastDiagonal
      if search.lastDiagonal % 2 = 0 ∧ opposite.natAbs ≤ round ∧
          search.oldSize ≤ reached + there.get (-opposite) then
        (next,
          some (search.oldSize - reached,
            search.newSize - ((reached : Int) - diagonal).toNat))
      else
        search.backwardRound round there next rest

def rounds (search : Search) : Nat → Nat → Frontier → Frontier → Option (Nat × Nat)
  | 0, _, _, _ => none
  | left + 1, round, ahead, behind =>
      match search.forwardRound round behind ahead (diagonals round) with
      | (_, some meeting) => some meeting
      | (aheadNext, none) =>
          match search.backwardRound round aheadNext behind (diagonals round) with
          | (_, some meeting) => some meeting
          | (behindNext, none) => search.rounds left (round + 1) aheadNext behindNext

/-- A place in the middle of a shortest script: how many old and how many new lines lie in front of
it. -/
def middle? (search : Search) : Option (Nat × Nat) :=
  let bound := (search.oldSize + search.newSize + 1) / 2 + 1
  search.rounds bound 0 (Frontier.start bound) (Frontier.start bound)

end Search

/-! ## Division -/

/-- A way of finding scripts: between an old and a new text that start at some line numbers. -/
abbrev Finder := List Line → List Line → Nat → Nat → Script

def editOf (kind : EditKind) (lines : List Line) (oldIndex newIndex : Nat) : Script :=
  if lines.isEmpty then [] else [⟨kind, lines, oldIndex, newIndex⟩]

def replaceAll : Finder := fun old new oldIndex newIndex =>
  editOf .remove old oldIndex newIndex ++ editOf .add new oldIndex newIndex

/-- Keeps the lines that two texts share at their ends; what remains is left to a finder. -/
def keepEnds (finder : Finder) : Finder := fun old new oldIndex newIndex =>
  let start := sharedStart old new
  let oldRest := old.drop start
  let newRest := new.drop start
  let tail := sharedEnd oldRest newRest
  let oldCore := oldRest.take (oldRest.length - tail)
  let newCore := newRest.take (newRest.length - tail)
  editOf .keep (old.take start) oldIndex newIndex ++
    finder oldCore newCore (oldIndex + start) (newIndex + start) ++
    editOf .keep (oldRest.drop (oldRest.length - tail))
      (oldIndex + start + oldCore.length) (newIndex + start + newCore.length)

/-- Divides two texts in the middle of a shortest script and leaves both halves to a finder. Where
one text is empty there is nothing to divide. -/
def splitMiddle (finder : Finder) : Finder := fun old new oldIndex newIndex =>
  if old.isEmpty ∨ new.isEmpty then replaceAll old new oldIndex newIndex
  else
    match (Search.between old new).middle? with
    | some (oldMiddle, newMiddle) =>
        finder (old.take oldMiddle) (new.take newMiddle) oldIndex newIndex ++
          finder (old.drop oldMiddle) (new.drop newMiddle) (oldIndex + oldMiddle)
            (newIndex + newMiddle)
    | none => replaceAll old new oldIndex newIndex

/-- Finds a script by dividing at most `depth` times. -/
def divide : Nat → Finder
  | 0 => replaceAll
  | depth + 1 => keepEnds (splitMiddle (divide depth))

def shortestScript (old new : List Line) : Script :=
  divide (old.length + new.length + 1) old new 0 0

/-! ## The two sides of what is found -/

/-- A finder whose scripts lead from the old text to the new one. -/
def Finder.Connects (finder : Finder) : Prop :=
  ∀ old new oldIndex newIndex,
    Script.oldLines (finder old new oldIndex newIndex) = old ∧
      Script.newLines (finder old new oldIndex newIndex) = new

@[simp] theorem oldLines_editOf (kind : EditKind) (lines : List Line) (oldIndex newIndex : Nat) :
    Script.oldLines (editOf kind lines oldIndex newIndex) = if kind = .add then [] else lines := by
  cases kind <;> cases lines <;> simp [editOf, Script.oldLines, Edit.oldLines]

@[simp] theorem newLines_editOf (kind : EditKind) (lines : List Line) (oldIndex newIndex : Nat) :
    Script.newLines (editOf kind lines oldIndex newIndex) =
      if kind = .remove then [] else lines := by
  cases kind <;> cases lines <;> simp [editOf, Script.newLines, Edit.newLines]

theorem replaceAll_connects : Finder.Connects replaceAll := by
  intro old new oldIndex newIndex
  simp [replaceAll]

/-- What is kept at the ends completes what is found between them. -/
theorem keepEnds_connects {finder : Finder} (connects : finder.Connects) :
    Finder.Connects (keepEnds finder) := by
  intro old new oldIndex newIndex
  constructor
  · simp only [keepEnds, Script.oldLines_append, oldLines_editOf, (connects _ _ _ _).1,
      reduceCtorEq, if_false]
    rw [List.append_assoc, List.take_append_drop, List.take_append_drop]
  · simp only [keepEnds, Script.newLines_append, newLines_editOf, (connects _ _ _ _).2,
      reduceCtorEq, if_false]
    rw [drop_sharedEnd, take_sharedStart, List.append_assoc, List.take_append_drop,
      List.take_append_drop]

/-- What is found in the two halves makes up the whole. -/
theorem splitMiddle_connects {finder : Finder} (connects : finder.Connects) :
    Finder.Connects (splitMiddle finder) := by
  intro old new oldIndex newIndex
  simp only [splitMiddle]
  split
  · exact replaceAll_connects old new oldIndex newIndex
  · split
    · simp [(connects _ _ _ _).1, (connects _ _ _ _).2]
    · exact replaceAll_connects old new oldIndex newIndex

theorem divide_connects (depth : Nat) : Finder.Connects (divide depth) := by
  induction depth with
  | zero => exact replaceAll_connects
  | succ depth inductionHypothesis =>
      exact keepEnds_connects (splitMiddle_connects inductionHypothesis)

end ResourceScaffold.Diff

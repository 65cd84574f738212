import ResourceScaffold.Number.Numeral
import ResourceScaffold.Text.Line
import Mathlib.Data.List.Basic

/-!
Contract: how a difference in unified format is read, and what it means to apply it.

Owns:
- reading the headers, the marks and the remark after a line that nothing ends;
- applying hunks to a text at the lines that their headers name;
- when a patch leads from one text to another.

Does not own: how a difference is found or printed.
-/

namespace ResourceScaffold.Diff

/-! ## Patches -/

/-- What the mark of a line says about it. -/
inductive Mark where
  | kept
  | removed
  | added
deriving DecidableEq, Repr

/-- A line with its mark. -/
abbrev MarkedLine := Mark × List Char

def oldSide (lines : List MarkedLine) : List (List Char) :=
  (lines.filter fun line => line.1 ≠ .added).map Prod.snd

def newSide (lines : List MarkedLine) : List (List Char) :=
  (lines.filter fun line => line.1 ≠ .removed).map Prod.snd

/-- A range of lines: how many lines lie in front of it, and how many lines it has. -/
structure LineRange where
  front : Nat
  count : Nat
deriving DecidableEq, Repr

def LineRange.stop (range : LineRange) : Nat := range.front + range.count

/-- A hunk: the ranges that its header names in the old and in the new text, and its lines. -/
structure PatchHunk where
  old : LineRange
  new : LineRange
  lines : List MarkedLine
deriving DecidableEq, Repr

/-- The names of the two files, and the hunks in order. -/
structure Patch where
  oldName : List Char
  newName : List Char
  hunks : List PatchHunk
deriving DecidableEq, Repr

/-! ## Reading -/

def readCount? (digits : List Char) : Option Nat :=
  if digits.isEmpty || !digits.all Char.isDigit then none else some (Numeral.natOfDigits digits)

/-- The range with a first line and a count. If there is no line in it, its first line is the line in
front of it. -/
def rangeFrom? (first count : Nat) : Option LineRange :=
  if count = 0 then some ⟨first, 0⟩ else if first = 0 then none else some ⟨first - 1, count⟩

/-- Reads a first line and a count, which is one if it is left out. -/
def readRange? (text : List Char) : Option LineRange :=
  match (text.splitOn ',').mapM readCount? with
  | some [first] => rangeFrom? first 1
  | some [first, count] => rangeFrom? first count
  | _ => none

/-- A line of a patch after the names: the header of a hunk, a marked line, or the remark that nothing
ends the line in front of it. -/
inductive PatchLine where
  | header (old new : LineRange)
  | marked (mark : Mark) (line : List Char)
  | remark
deriving DecidableEq, Repr

/-- Reads the header of a hunk, of which the words are `@@`, both ranges with a sign, and `@@`. -/
def readHeader? (line : List Char) : Option PatchLine :=
  match line.splitOn ' ' with
  | [['@', '@'], '-' :: old, '+' :: new, ['@', '@', '\n']] => do
      let oldRange ← readRange? old
      let newRange ← readRange? new
      return .header oldRange newRange
  | _ => none

/-- Reads a line after the names. -/
def PatchLine.read? : List Char → Option PatchLine
  | ' ' :: line => some (.marked .kept line)
  | '-' :: line => some (.marked .removed line)
  | '+' :: line => some (.marked .added line)
  | '\\' :: words =>
      if words = " No newline at end of file\n".toList then some .remark else none
  | line => readHeader? line

/-- Gathers lines into hunks: the lines in front of the first header, and a hunk for every header. The
line feed in front of a remark does not belong to the text. -/
def gather : List PatchLine → Option (List MarkedLine × List PatchHunk)
  | [] => some ([], [])
  | .header old new :: rest =>
      (gather rest).map fun gathered => ([], ⟨old, new, gathered.1⟩ :: gathered.2)
  | .marked mark line :: .remark :: rest =>
      (gather rest).map fun gathered => ((mark, line.dropLast) :: gathered.1, gathered.2)
  | .marked mark line :: rest =>
      (gather rest).map fun gathered => ((mark, line) :: gathered.1, gathered.2)
  | .remark :: _ => none

/-- Reads the name of a file after three equal signs and a blank. -/
def readName? (sign : Char) : List Char → Option (List Char)
  | first :: second :: third :: ' ' :: name =>
      if [first, second, third] = [sign, sign, sign] ∧ name.getLast? = some '\n' then
        some name.dropLast
      else none
  | _ => none

/-- Reads a patch: the two names, then hunks. -/
def Patch.read? (text : List Char) : Option Patch :=
  match Text.linesWithEnds text with
  | first :: second :: rest => do
      let oldName ← readName? '-' first
      let newName ← readName? '+' second
      let gathered ← (rest.mapM PatchLine.read?).bind gather
      if gathered.1.isEmpty then return ⟨oldName, newName, gathered.2⟩ else none
  | _ => none

/-! ## Applying -/

/-- Applies hunks to the lines of a text, given how many lines of the old and of the new text lie in
front. The lines up to a hunk are kept. A hunk has to begin where its header says in both texts, to
find its old lines there, and to have as many lines as its header says. -/
def applyHunks (oldFront newFront : Nat) :
    List PatchHunk → List (List Char) → Option (List (List Char))
  | [], lines => some lines
  | hunk :: rest, lines =>
      let kept := lines.take (hunk.old.front - oldFront)
      let old := oldSide hunk.lines
      let new := newSide hunk.lines
      if hunk.old = ⟨oldFront + kept.length, old.length⟩ ∧
          hunk.new = ⟨newFront + kept.length, new.length⟩ ∧
          old <+: lines.drop kept.length then
        (applyHunks hunk.old.stop hunk.new.stop rest (lines.drop (kept.length + old.length))).map
          fun others => kept ++ new ++ others
      else none

def Patch.applied? (patch : Patch) (text : List Char) : Option (List Char) :=
  (applyHunks 0 0 patch.hunks (Text.linesWithEnds text)).map List.flatten

/-! ## Properties -/

def leadingKept (lines : List MarkedLine) : Nat :=
  (lines.takeWhile fun line => line.1 = .kept).length

/-- Whether a hunk shows no more kept lines at its start and at its end than the context has. -/
structure PatchHunk.WithinContext (context : Nat) (hunk : PatchHunk) : Prop where
  start : leadingKept hunk.lines ≤ context
  stop : leadingKept hunk.lines.reverse ≤ context

/-- Lines that hunks leave between them, put together with the lines of the hunks, make up an old and a
new text. -/
inductive Tiles : List PatchHunk → List (List Char) → List (List Char) → Prop
  | rest (lines : List (List Char)) : Tiles [] lines lines
  | hunk (kept : List (List Char)) (hunk : PatchHunk) {hunks : List PatchHunk}
      {old new : List (List Char)} (others : Tiles hunks old new) :
      Tiles (hunk :: hunks) (kept ++ oldSide hunk.lines ++ old) (kept ++ newSide hunk.lines ++ new)

/-- Whether a patch, as it is written, leads from an old text to a new one: its hunks are ascending and
apart in both texts, the ranges of their headers have the lines that follow them, and applying them to
the old text makes it the new one. -/
structure Patch.LeadsTo (patch : Patch) (old new : List Char) : Prop where
  ascends : patch.hunks.Pairwise fun first second =>
    first.old.stop ≤ second.old.front ∧ first.new.stop ≤ second.new.front
  ranges : ∀ hunk ∈ patch.hunks,
    hunk.old.count = (oldSide hunk.lines).length ∧ hunk.new.count = (newSide hunk.lines).length
  applies : patch.applied? old = some new

/-- Hunks that can be applied begin at or after what lies in front, have the ranges of their lines, and
are ascending. -/
theorem ascends_of_applyHunks {hunks : List PatchHunk} {oldFront newFront : Nat}
    {old new : List (List Char)} (applied : applyHunks oldFront newFront hunks old = some new) :
    (∀ hunk ∈ hunks, oldFront ≤ hunk.old.front ∧ newFront ≤ hunk.new.front ∧
      hunk.old.count = (oldSide hunk.lines).length ∧ hunk.new.count = (newSide hunk.lines).length) ∧
    hunks.Pairwise fun first second =>
      first.old.stop ≤ second.old.front ∧ first.new.stop ≤ second.new.front := by
  induction hunks generalizing oldFront newFront old new with
  | nil => exact ⟨nofun, .nil⟩
  | cons hunk rest inductionHypothesis =>
      rw [applyHunks] at applied
      split_ifs at applied with fits
      obtain ⟨oldRange, newRange, -⟩ := fits
      obtain ⟨others, applied, -⟩ := Option.map_eq_some_iff.1 applied
      obtain ⟨ranges, ascends⟩ := inductionHypothesis applied
      have begins : oldFront ≤ hunk.old.front ∧ newFront ≤ hunk.new.front := by
        rw [oldRange, newRange]
        exact ⟨Nat.le_add_right _ _, Nat.le_add_right _ _⟩
      refine ⟨List.forall_mem_cons.2 ⟨⟨begins.1, begins.2, congrArg LineRange.count oldRange,
        congrArg LineRange.count newRange⟩, fun other member => ?_⟩,
        List.pairwise_cons.2 ⟨fun other member => ?_, ascends⟩⟩
      · obtain ⟨old, new, counts⟩ := ranges other member
        exact ⟨Nat.le_trans begins.1 (Nat.le_trans (Nat.le_add_right _ _) old),
          Nat.le_trans begins.2 (Nat.le_trans (Nat.le_add_right _ _) new), counts⟩
      · obtain ⟨old, new, -⟩ := ranges other member
        exact ⟨old, new⟩

/-- A patch that can be applied leads from the text to the result. -/
theorem Patch.leadsTo_of_applyHunks {patch : Patch} {old new : List Char}
    (applied : applyHunks 0 0 patch.hunks (Text.linesWithEnds old) =
      some (Text.linesWithEnds new)) : patch.LeadsTo old new where
  ascends := (ascends_of_applyHunks applied).2
  ranges hunk member := ((ascends_of_applyHunks applied).1 hunk member).2.2
  applies := by rw [applied?, applied, Option.map_some, Text.flatten_linesWithEnds]

end ResourceScaffold.Diff

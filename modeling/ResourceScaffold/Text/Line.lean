/-!
Contract: the two ways in which texts are cut into lines.

Owns:
- lines with their ends kept, where a line feed, a carriage return or the pair of both ends a line;
- lines without their ends, where only a line feed (after an optional carriage return) ends a line.

Does not own: comparing lines or printing them.
-/

namespace ResourceScaffold.Text

/-! ## Lines with their ends -/

def consLine (character : Char) : List (List Char) → List (List Char)
  | [] => [[character]]
  | line :: lines => (character :: line) :: lines

/-- The lines of a text, each with the characters that end it. Only the last line can lack an end,
and no line is empty. -/
def linesWithEnds : List Char → List (List Char)
  | [] => []
  | '\r' :: '\n' :: rest => ['\r', '\n'] :: linesWithEnds rest
  | character :: rest =>
      if character = '\n' ∨ character = '\r' then
        [character] :: linesWithEnds rest
      else
        consLine character (linesWithEnds rest)

theorem flatten_consLine (character : Char) (lines : List (List Char)) :
    (consLine character lines).flatten = character :: lines.flatten := by
  cases lines <;> simp [consLine]

theorem flatten_linesWithEnds (text : List Char) : (linesWithEnds text).flatten = text := by
  fun_induction linesWithEnds text with
  | case1 => rfl
  | case2 rest inductionHypothesis => simp [inductionHypothesis]
  | case3 character rest _ _ inductionHypothesis => simp [inductionHypothesis]
  | case4 character rest _ _ inductionHypothesis =>
      rw [flatten_consLine, inductionHypothesis]

def lineIsEnded (line : List Char) : Bool :=
  match line.getLast? with
  | some last => last = '\n' || last = '\r'
  | none => false

/-! ## Lines without their ends -/

def ofLines (lines : List String) : String :=
  String.ofList (lines.flatMap fun line => line.toList ++ ['\n'])

@[simp] theorem toList_ofLines (lines : List (List Char)) :
    (ofLines (lines.map String.ofList)).toList = lines.flatMap fun line => line ++ ['\n'] := by
  simp [ofLines, List.flatMap_map]

def dropCarriageReturn (line : List Char) : List Char :=
  if line.getLast? = some '\r' then line.dropLast else line

/-- The lines of a text as they are printed one by one: a line feed ends a line, a carriage return
before it belongs to the end, and a text that ends in a line feed has no further empty line. -/
def printedLinesFrom (line : List Char) : List Char → List (List Char)
  | [] => if line.isEmpty then [] else [line.reverse]
  | character :: rest =>
      if character = '\n' then
        dropCarriageReturn line.reverse :: printedLinesFrom [] rest
      else
        printedLinesFrom (character :: line) rest

def printedLines (text : List Char) : List (List Char) :=
  printedLinesFrom [] text

end ResourceScaffold.Text

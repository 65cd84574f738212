import ResourceScaffold.Toml.Scalar
import ResourceScaffold.Toml.Table

/-!
Contract: TOML documents.

Owns:
- keys, lists and tables on one line;
- the lines of a document and its headers;
- the limit on nesting.

Does not own: the meaning of any key.
-/

namespace ResourceScaffold.Toml

open Text (Reader dropWord)

/-! ## Keys -/

/-- The depth that nested values and keys do not reach. -/
def nestingLimit : Nat := 80

def isKeyChar (character : Char) : Bool :=
  character.isAlphanum || character = '_' || character = '-'

def readKeyPart (text : List Char) : Option (String × List Char) :=
  match readLineString text with
  | some found => some found
  | none =>
      let name := text.takeWhile isKeyChar
      if name.isEmpty then none else some (String.ofList name, text.dropWhile isKeyChar)

/-- Reads the further parts of a key, each after a dot, within a number of steps. -/
def readKeyTail : Nat → List Char → Option (List String × List Char)
  | 0, _ => none
  | steps + 1, text =>
      match skipBlanks text with
      | '.' :: rest =>
          match readKeyPart (skipBlanks rest) with
          | none => none
          | some (part, after) =>
              (readKeyTail steps after).map fun found => (part :: found.1, found.2)
      | _ => some ([], text)

/-- Reads a key: its parts before the last one, and the last one. -/
def readKey (text : List Char) : Option ((List String × String) × List Char) := do
  let (first, afterFirst) ← readKeyPart text
  let (others, rest) ← readKeyTail (afterFirst.length + 1) afterFirst
  let parts := first :: others
  if nestingLimit ≤ parts.length then none
  return ((parts.dropLast, parts.getLastD first), rest)

/-! ## Comments and line ends -/

def skipComment (text : List Char) : List Char :=
  match skipBlanks text with
  | '#' :: rest => rest.dropWhile isPlain
  | other => other

/-- Passes over what may end a line: blanks, a comment, and the line end, unless the text ends. -/
def dropLineEnd (text : List Char) : Option (List Char) :=
  match skipComment text with
  | [] => some []
  | other => dropNewline other

def skipSpace : Nat → List Char → List Char
  | 0, text => text
  | steps + 1, text =>
      match dropNewline (skipComment text) with
      | some rest => skipSpace steps rest
      | none => skipComment text

def skipAllSpace (text : List Char) : List Char :=
  skipSpace text.length text

/-! ## Values -/

mutual

/-- Reads a value that stands inside `depth` others, within a number of steps. -/
def readValue (depth : Nat) : Nat → List Char → Option (Value × List Char)
  | 0, _ => none
  | steps + 1, text =>
      match text with
      | '[' :: rest =>
          if nestingLimit ≤ depth + 1 then none
          else readItems (depth + 1) steps [] rest
      | '\x7b' :: rest =>
          if nestingLimit ≤ depth + 1 then none
          else
            match skipBlanks rest with
            | '\x7d' :: after => some (.table [], after)
            | start => readPairs (depth + 1) steps [] start
      | _ => readScalar text

/-- Reads the rest of a list. A comma may stand after the last item. -/
def readItems (depth : Nat) : Nat → List Value → List Char → Option (Value × List Char)
  | 0, _, _ => none
  | steps + 1, items, text =>
      match skipAllSpace text with
      | ']' :: rest => some (.list items.reverse, rest)
      | start =>
          match readValue depth steps start with
          | none => none
          | some (item, after) =>
              match skipAllSpace after with
              | ',' :: rest => readItems depth steps (item :: items) rest
              | ']' :: rest => some (.list (item :: items).reverse, rest)
              | _ => none

/-- Reads the rest of a table on one line. No comma may stand after the last pair. -/
def readPairs (depth : Nat) : Nat → Entries → List Char → Option (Value × List Char)
  | 0, _, _ => none
  | steps + 1, entries, text =>
      match readKey (skipBlanks text) with
      | none => none
      | some ((path, key), afterKey) =>
          match skipBlanks afterKey with
          | '=' :: start =>
              match readValue depth steps (skipBlanks start) with
              | none => none
              | some (value, after) =>
                  match assign path key value entries with
                  | none => none
                  | some next =>
                      match skipBlanks after with
                      | ',' :: rest => readPairs depth steps next rest
                      | '\x7d' :: rest => some (.table (finishedEntries next), rest)
                      | _ => none
          | _ => none

end

/-! ## Lines -/

/-- The table that lines are read into: the root, one with a header, or an element of a list of
tables. -/
inductive Target where
  | root
  | table (path : List String)
  | element (path : List String)

/-- A document under construction: what is complete, the table that lines are read into, and that
table. -/
structure Draft where
  complete : Entries
  target : Target
  current : Entries

def Draft.closed (draft : Draft) : Option Entries :=
  match draft.target with
  | .root => some draft.current
  | .table path => closeTable path draft.current draft.complete
  | .element path => closeElement path draft.current draft.complete

def Draft.startTable (draft : Draft) (path : List String) : Option Draft := do
  let complete ← draft.closed
  let (current, prepared) ← openTable path complete
  return ⟨prepared, .table path, current⟩

def Draft.startElement (draft : Draft) (path : List String) : Option Draft := do
  let complete ← draft.closed
  let prepared ← openElement path complete
  return ⟨prepared, .element path, []⟩

/-- Reads one line that is not empty: a header or a key with its value. -/
def readLine (draft : Draft) (text : List Char) : Option (Draft × List Char) := do
  match text with
  | '[' :: '[' :: rest =>
      let ((path, key), after) ← readKey (skipBlanks rest)
      let closed ← dropWord [']', ']'] (skipBlanks after)
      let next ← draft.startElement (path ++ [key])
      return (next, closed)
  | '[' :: rest =>
      let ((path, key), after) ← readKey (skipBlanks rest)
      let closed ← dropWord [']'] (skipBlanks after)
      let next ← draft.startTable (path ++ [key])
      return (next, closed)
  | _ =>
      let ((path, key), after) ← readKey text
      let start ← dropWord ['='] (skipBlanks after)
      let valueStart := skipBlanks start
      let (value, rest) ← readValue 0 (2 * valueStart.length + 2) valueStart
      let current ← assign path key value draft.current
      return ({ draft with current := current }, rest)

def readLinesInto : Nat → Draft → List Char → Option Draft
  | 0, _, _ => none
  | steps + 1, draft, text =>
      match skipComment text with
      | [] => some draft
      | start =>
          match dropNewline start with
          | some rest => readLinesInto steps draft rest
          | none =>
              match readLine draft start with
              | none => none
              | some (next, after) =>
                  match dropLineEnd after with
                  | none => none
                  | some rest => readLinesInto steps next rest

/-- A document without the mark of its encoding. -/
def dropMark : List Char → List Char
  | '\ufeff' :: rest => rest
  | text => text

def ofText? (text : String) : Option (List (String × Value)) := do
  let start := dropMark text.toList
  let draft ← readLinesInto (start.length + 1) ⟨[], .root, []⟩ start
  let entries ← draft.closed
  return finishedEntries entries

end ResourceScaffold.Toml

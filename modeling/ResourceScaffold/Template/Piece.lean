import ResourceScaffold.Template.Tag

/-!
Contract: a template source cut into text and tags.

Owns:
- escaped braces in text;
- the places of tags, and what stands around them on their lines.

Does not own: the removal of white space, and the nesting of tags.
-/

namespace ResourceScaffold.Template

open Text (takenBefore)

/-- A tag in its source. `margin` holds the spaces and tabs in front of it; `opensLine` says that
nothing else stands between the margin and the start of the line, `endsLine` that only spaces and
tabs stand between the tag and the end of its line, and `isLast` that nothing follows it. -/
structure Tag where
  written : WrittenTag
  place : Place
  margin : List Char
  opensLine : Bool
  endsLine : Bool
  isLast : Bool

/-- A piece of a source. -/
inductive Piece where
  | text (content : List Char)
  | tag (tag : Tag)

/-! ## Positions -/

def isMargin (character : Char) : Bool :=
  character = ' ' || character = '\t'

def isLineEnd (character : Char) : Bool :=
  character = '\n' || character = '\r'

/-- A position in a source: its line and column, the spaces and tabs just before it, last one
first, and whether nothing else stands before them on the line. -/
structure Position where
  place : Place
  margin : List Char
  opensLine : Bool

def Position.start : Position := ⟨⟨1, 1⟩, [], true⟩

/-- The position after a character. Only a line feed starts a new line of the count. -/
def Position.after (position : Position) (character : Char) : Position :=
  { place :=
      if character = '\n' then ⟨position.place.line + 1, 1⟩
      else ⟨position.place.line, position.place.column + 1⟩
    margin := if isMargin character then character :: position.margin else []
    opensLine := isLineEnd character || (isMargin character && position.opensLine) }

def Position.afterAll (position : Position) (text : List Char) : Position :=
  text.foldl Position.after position

/-! ## Text -/

def startsTag (text : List Char) : Bool :=
  openBraces.isPrefixOf text

/-- Text up to the next tag: its content, the source that it took, and the rest. A backslash before
braces makes them text; of several backslashes before braces the first one is dropped, and the
braces open a tag. -/
def readText : Nat → List Char → List Char × List Char × List Char
  | 0, text => ([], [], text)
  | _ + 1, [] => ([], [], [])
  | steps + 1, character :: rest =>
      if startsTag (character :: rest) then ([], [], character :: rest)
      else if character = '\\' ∧ startsTag rest then
        let braces := if openRawBraces.isPrefixOf rest then openRawBraces else openBraces
        let found := readText steps (rest.drop braces.length)
        (braces ++ found.1, '\\' :: braces ++ found.2.1, found.2.2)
      else if character = '\\' ∧ rest.head? = some '\\' ∧ startsTag (rest.dropWhile (· = '\\')) then
        let slashes := rest.takeWhile (· = '\\')
        (slashes, '\\' :: slashes, rest.dropWhile (· = '\\'))
      else
        let found := readText steps rest
        (character :: found.1, character :: found.2.1, found.2.2)

/-- Text of a raw block up to its closing tag: its content, the source that it took, and the
rest. -/
def readRawText : Nat → List Char → List Char × List Char × List Char
  | 0, text => ([], [], text)
  | _ + 1, [] => ([], [], [])
  | steps + 1, character :: rest =>
      if openRawBraces.isPrefixOf (character :: rest) then ([], [], character :: rest)
      else if character = '\\' ∧ startsTag rest then
        let braces := if openRawBraces.isPrefixOf rest then openRawBraces else openBraces
        let found := readRawText steps (rest.drop braces.length)
        (braces ++ found.1, '\\' :: braces ++ found.2.1, found.2.2)
      else if character = '\\' ∧ rest.head? = some '\\' ∧ startsTag (rest.dropWhile (· = '\\')) then
        let slashes := rest.takeWhile (· = '\\')
        let found := readRawText steps (rest.dropWhile (· = '\\'))
        (slashes ++ found.1, '\\' :: slashes ++ found.2.1, found.2.2)
      else
        let found := readRawText steps rest
        (character :: found.1, character :: found.2.1, found.2.2)

/-! ## Cutting -/

def restIsBlank (rest : List Char) : Bool :=
  (rest.dropWhile isMargin).head?.any isLineEnd

def placedTag (written : WrittenTag) (position : Position) (rest : List Char) : Tag :=
  { written := written
    place := position.place
    margin := position.margin.reverse
    opensLine := position.opensLine
    endsLine := restIsBlank rest
    isLast := rest.isEmpty }

/-- Cuts a source from a position on, within a number of steps. There are no pieces if a tag cannot
be read. Blanks at the start of a raw block are dropped. -/
def cutFrom : Nat → Position → Bool → List Char → Option (List Piece)
  | 0, _, _, _ => none
  | _ + 1, _, false, [] => some []
  | steps + 1, position, raw, source =>
      if raw then
        let blanks := source.takeWhile isTagBlank
        let start := source.dropWhile isTagBlank
        let (content, taken, rest) := readRawText (start.length + 1) start
        (cutFrom steps (position.afterAll (blanks ++ taken)) false rest).map
          (Piece.text content :: ·)
      else if startsTag source then
        match readTag source with
        | none => none
        | some (written, rest) =>
            let opensRaw :=
              match written.kind with
              | .openRaw _ => true
              | _ => false
            (cutFrom steps (position.afterAll (takenBefore source rest)) opensRaw rest).map
              (Piece.tag (placedTag written position rest) :: ·)
      else
        let (content, taken, rest) := readText (source.length + 1) source
        (cutFrom steps (position.afterAll taken) false rest).map (Piece.text content :: ·)

def cut (source : List Char) : Option (List Piece) :=
  cutFrom (2 * source.length + 2) .start false source

end ResourceScaffold.Template

import ResourceScaffold.Template.Piece
import ResourceScaffold.Text.Blank

/-!
Contract: the white space that tags take away from the text around them.

Owns:
- tags that stand alone on their lines;
- tags that take all white space on one side away.

Does not own: margins that embedded templates are indented by; they are applied in rendering.
-/

namespace ResourceScaffold.Template

/-! ## Tags on lines of their own -/

/-- Whether a kind of tag leaves no trace of a line that it has for itself. Tags that write a value
stay where they are. -/
def TagKind.clearsLine : TagKind → Bool
  | .output _ => false
  | .helper _ => false
  | _ => true

def Tag.isAlone (tag : Tag) : Bool :=
  tag.opensLine && (tag.endsLine || tag.isLast)

def Tag.takesLine (tag : Tag) : Bool :=
  tag.written.kind.clearsLine && tag.isAlone

/-- Whether a kind of tag decides about the white space after it. A comment leaves that to the tag
before it. -/
def TagKind.decidesAfter : TagKind → Bool
  | .comment => false
  | _ => true

/-! ## Text next to tags -/

/-- A text without one line end at its start. A line feed counts, also after a carriage return. -/
def dropLineEnd : List Char → List Char
  | '\r' :: '\n' :: rest => rest
  | '\n' :: rest => rest
  | text => text

/-- What the tag before a text does to it: it takes all white space away, or its own line's end. -/
structure Before where
  trims : Bool
  takesLine : Bool

/-- A text after the tag before it has had its effect. -/
def Before.applyTo (before : Before) (text : List Char) : List Char :=
  if before.trims then Text.trimStart text
  else if before.takesLine then dropLineEnd (text.dropWhile isMargin)
  else text

def applyNext (next : Option Tag) (text : List Char) : List Char :=
  match next with
  | none => text
  | some tag =>
      let trimmed := if tag.written.trimsBefore then Text.trimEnd text else text
      if tag.takesLine then Text.trimEndOf isMargin trimmed else trimmed

def nextTag : List Piece → Option Tag
  | .tag tag :: _ => some tag
  | _ => none

/-- The pieces of a source with the white space removed that tags take away. A blank text after a
tag that trims vanishes without ending the effect of its line. -/
def settleFrom (before : Before) : List Piece → List Piece
  | [] => []
  | .text content :: rest =>
      if before.trims && content.all isTagBlank then
        settleFrom before rest
      else
        .text (applyNext (nextTag rest) (before.applyTo content)) ::
          settleFrom { before with takesLine := false } rest
  | .tag tag :: rest =>
      let trims := if tag.written.kind.decidesAfter then tag.written.trimsAfter else before.trims
      let takesLine := if tag.written.kind.clearsLine then tag.isAlone else before.takesLine
      .tag tag :: settleFrom ⟨trims, takesLine⟩ rest

def settle (pieces : List Piece) : List Piece :=
  settleFrom ⟨false, false⟩ pieces

end ResourceScaffold.Template

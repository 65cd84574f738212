import ResourceScaffold.Session
import ResourceScaffold.Text.Search
import ResourceScaffold.Text.Blank

/-!
Contract: the insertion of a route into the text of the aggregator.

Owns:
- inserting a text in front of the first occurrence of an anchor;
- the two insertions that a route needs;
- the test whether a route is imported already.

Does not own: the anchors and the snippets, and where the text comes from. The text is never parsed,
and inserting twice inserts twice.
-/

namespace ResourceScaffold

/-! ## One insertion -/

/-- A text with a content in front of the first occurrence of an anchor. An empty anchor occurs
nowhere. -/
def insertBeforeChars (text anchor content : List Char) : Option (List Char) :=
  if anchor.isEmpty then none
  else (Text.splitAtFirst anchor text).map fun parts => parts.1 ++ content ++ parts.2

def insertBefore (text anchor content : String) : Option String :=
  (insertBeforeChars text.toList anchor.toList content.toList).map String.ofList

@[simp] theorem insertBeforeChars_nil (text content : List Char) :
    insertBeforeChars text [] content = none := rfl

/-! ## The two insertions of a route -/

/-- The insertions that add a route to the aggregator. -/
structure AggregatorSplice where
  importAnchor : String
  registrationAnchor : String
  importSnippet : String
  registrationSnippet : String
deriving DecidableEq, Repr

namespace AggregatorSplice

def importLine (splice : AggregatorSplice) : String :=
  String.ofList (Text.trim splice.importSnippet.toList)

def alreadyImported (splice : AggregatorSplice) (text : String) : Bool :=
  splice.importLine ≠ "" && Text.occurs splice.importLine.toList text.toList

/-- Inserts the import, then the registration into the text that results. The path only names the
text in failures. -/
def apply (splice : AggregatorSplice) (text : String) (path : Path) : Except Failure String :=
  match insertBefore text splice.importAnchor splice.importSnippet with
  | none => .error (.missingAnchor splice.importAnchor path)
  | some imported =>
      match insertBefore imported splice.registrationAnchor splice.registrationSnippet with
      | none => .error (.missingAnchor splice.registrationAnchor path)
      | some registered => .ok registered

/-- The events of the insertions: a warning if the route is imported already, and an error if an
anchor is missing. -/
def events (splice : AggregatorSplice) (text : String) (path : Path) : List Event :=
  (if splice.alreadyImported text then [.importedTwice path splice.importLine] else []) ++
    match splice.apply text path with
    | .error (.missingAnchor anchor missedPath) => [.anchorNotFound anchor missedPath]
    | _ => []

def run (splice : AggregatorSplice) (text : String) (path : Path) : Action Failure String := do
  Action.note (splice.events text path)
  Action.ofExcept (splice.apply text path)

end AggregatorSplice

end ResourceScaffold

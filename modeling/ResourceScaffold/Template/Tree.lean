import ResourceScaffold.Value.Basic

/-!
Contract: the structure of a template after reading.

Owns:
- references into the data, operands and calls;
- the nodes of a template, with the places that errors report.

Does not own: the written form of tags, and the meaning of any helper.
-/

namespace ResourceScaffold.Template

/-- A line and a column in a template, both counted from one; columns count characters. -/
structure Place where
  line : Nat
  column : Nat
deriving DecidableEq, Repr

/-- A reference to data. `levels` enclosing blocks are left before `names` are followed; a local
reference names a variable of a block, and a root reference starts at the whole data. -/
structure Reference where
  text : String
  fromRoot : Bool
  isLocal : Bool
  levels : Nat
  names : List String
deriving DecidableEq, Repr

/-- An operand of a tag. -/
inductive Operand where
  | reference (reference : Reference)
  | literal (value : Value)
  | call (name : String) (arguments : List Operand) (options : List (String × Operand))

/-- A call of a helper, and the names that it gives to what its block is rendered with. -/
structure Call where
  name : String
  arguments : List Operand
  options : List (String × Operand)
  blockNames : List String

/-- How an embedded template is named: by a word, or by the text of an operand. -/
inductive EmbeddedName where
  | word (name : String)
  | computed (operand : Operand)

def EmbeddedName.written? : EmbeddedName → Option String
  | word name => some name
  | computed (.reference reference) => some reference.text
  | computed _ => none

/-- An embedding of another template. The margin is what the lines of the template are indented
by, and `ownLine` says whether nothing else stands on the line of the tag. -/
structure Embedding where
  name : EmbeddedName
  arguments : List Operand
  options : List (String × Operand)
  ownLine : Bool
  margin : List Char

/-- A part of a template. A block on a line of its own is marked by `ownLine`; a block that
continues an `else` has no place. An embedding may have a body, which the embedded template can
embed in turn. -/
inductive Node where
  | text (content : List Char)
  | output (operand : Operand) (place : Place)
  | helper (call : Call) (place : Place)
  | block (call : Call) (ownLine : Bool) (body : List Node) (otherwise : Option (List Node))
      (place : Option Place)
  | embed (embedding : Embedding) (body : Option (List Node)) (place : Place)
  | decorate (call : Call) (body : Option (List Node)) (place : Place)

end ResourceScaffold.Template

import ResourceScaffold.Template.RenderFault

/-!
Contract: what names refer to while a template is rendered.

Owns:
- the scopes of enclosing blocks;
- following names through data;
- the value of a reference.

Does not own: the blocks that open scopes.
-/

namespace ResourceScaffold.Template

/-- What a block is rendered with: the current value, the names that the block gave to values, and
the variables that belong to the block itself. -/
structure Scope where
  current : Value
  named : List (String × Value)
  locals : List (String × Value)

def Scope.ofValue (value : Value) : Scope := ⟨value, [], []⟩

/-- The scopes of the enclosing blocks, innermost first, the whole data, the margin of the lines
that are written, the bodies of the embeddings around, innermost first, and how many of these are
themselves being embedded. -/
structure Surroundings where
  root : Value
  scopes : List Scope
  margin : List Char
  bodies : List (List Node)
  bodyDepth : Nat

def Surroundings.ofData (data : Value) : Surroundings := ⟨data, [.ofValue data], [], [], 0⟩

def Surroundings.enter (around : Surroundings) (scope : Scope) : Surroundings :=
  { around with scopes := scope :: around.scopes }

/-! ## Following names -/

def indexLimit : Nat := Nat.pow 2 64

/-- The index that a text spells: digits after an optional plus sign. -/
def indexOf? (text : String) : Option Nat :=
  let digits :=
    match text.toList with
    | '+' :: rest => rest
    | other => other
  if digits.isEmpty ∨ !digits.all Char.isDigit then none
  else
    let index := Numeral.natOfDigits digits
    if index < indexLimit then some index else none

/-- One step from a value to one of its parts. A list is entered by index only. -/
def stepInto (value : Value) (name : String) : Except RenderCause (Option Value) :=
  match value with
  | .list items =>
      match indexOf? name with
      | some index => .ok items[index]?
      | none => .error (.invalidIndex name)
  | .record fields => .ok (fields.lookup name)
  | _ => .ok none

/-- The part of a value that names lead to. What is missing has no parts. -/
def follow : Option Value → List String → Except RenderCause (Option Value)
  | found, [] => .ok found
  | none, _ :: _ => .ok none
  | some value, name :: rest =>
      match stepInto value name with
      | .error cause => .error cause
      | .ok next => follow next rest

/-- The value that a block gave a name to, innermost block first. -/
def blockName? (scopes : List Scope) (name : String) : Option Value :=
  scopes.findSome? fun scope => scope.named.lookup name

/-- The current value of the block that lies some levels out, or of the innermost one if there are
not so many. -/
def currentAt (around : Surroundings) (levels : Nat) : Option Value :=
  ((around.scopes[levels]?) <|> around.scopes.head?).map Scope.current

/-- A variable of the block that lies some levels out, or of the first block further out that has
it. -/
def localAt (around : Surroundings) (levels : Nat) (name : String) : Option Value :=
  (around.scopes.drop levels).findSome? fun scope => scope.locals.lookup name

def valueOf (around : Surroundings) (reference : Reference) : Except RenderCause (Option Value) :=
  if reference.isLocal then
    .ok (reference.names.head?.bind (localAt around reference.levels))
  else if reference.fromRoot then
    follow (some around.root) reference.names
  else
    match reference.names.head?.bind (blockName? around.scopes) with
    | some value => follow (some value) reference.names.tail
    | none => follow (currentAt around reference.levels) reference.names

end ResourceScaffold.Template

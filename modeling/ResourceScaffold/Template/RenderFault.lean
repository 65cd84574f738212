import ResourceScaffold.Template.Tree
import ResourceScaffold.Text.Quoted

/-!
Contract: the ways in which rendering a template fails.

Owns:
- the causes with their texts;
- the place and the template that a fault is reported at.

Does not own: faults of a source that is no template.
-/

namespace ResourceScaffold.Template

/-- Why rendering failed. -/
inductive RenderCause where
  | templateNotFound (name : String)
  | missingVariable (path : Option String)
  | embeddedNotFound (name : String)
  | embedsItself
  | helperNotFound (name : String)
  | decoratorNotFound (name : String)
  | argumentMissing (helper : String) (index : Nat)
  | namedArgumentMissing (helper : String) (name : String)
  | invalidIndex (text : String)
  | blockRequired
  | textRequired
  | unknownLogLevel (level : String)
  | embeddedTooDeeply
deriving DecidableEq, Repr

def optionalPath : Option String → String
  | some path => "Some(" ++ String.ofList (Text.quoted path.toList) ++ ")"
  | none => "None"

def RenderCause.message : RenderCause → String
  | templateNotFound name => "Template not found " ++ name
  | missingVariable path => "Failed to access variable in strict mode " ++ optionalPath path
  | embeddedNotFound name => "Partial not found " ++ name
  | embedsItself => "Can not include current template in partial"
  | helperNotFound name => "Helper not found " ++ name
  | decoratorNotFound name => "Decorator not found " ++ name
  | argumentMissing helper index =>
      "Helper/Decorator " ++ helper ++ " param at index " ++ toString index ++
        " required but not found"
  | namedArgumentMissing helper name =>
      "Helper/Decorator " ++ helper ++ " param with name " ++ name ++ " required but not found"
  | invalidIndex text => "Cannot access array/vector with string index, " ++ text
  | blockRequired => "Block content required"
  | textRequired => "Invalid param type, String expected"
  | unknownLogLevel level => "Invalid logging level: " ++ level
  | embeddedTooDeeply => "Templates are embedded too deeply"

/-- A fault of rendering, with the place of the innermost tag and the innermost named template. -/
structure RenderFault where
  cause : RenderCause
  place : Option Place
  template : Option String
deriving DecidableEq, Repr

namespace RenderFault

def ofCause (cause : RenderCause) : RenderFault := ⟨cause, none, none⟩

def atPlace (place : Option Place) (fault : RenderFault) : RenderFault :=
  { fault with place := fault.place <|> place }

def inTemplate (name : Option String) (fault : RenderFault) : RenderFault :=
  { fault with template := fault.template <|> name }

def message (fault : RenderFault) : String :=
  match fault.place with
  | some place =>
      "Error rendering \"" ++ fault.template.getD "Unnamed template" ++ "\" line " ++
        toString place.line ++ ", col " ++ toString place.column ++ ": " ++ fault.cause.message
  | none => fault.cause.message

end RenderFault

end ResourceScaffold.Template

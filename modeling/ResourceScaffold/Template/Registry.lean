import ResourceScaffold.Template.Builtin
import ResourceScaffold.Template.Nesting
import ResourceScaffold.Template.Render

/-!
Contract: the templates that can be rendered and embedded by name.

Owns:
- registering sources under names;
- the registry of the templates that come with the program;
- rendering by name.

Does not own: files that replace templates.
-/

namespace ResourceScaffold.Template

/-- A source that could not be registered, and the name that it was meant for. -/
structure RegistrationFault where
  name : String
  fault : SourceFault
deriving DecidableEq, Repr

/-- The template that a fault of registration is reported for. A literal that is no data value is
reported for none. -/
def RegistrationFault.template? (fault : RegistrationFault) : Option String :=
  match fault.fault with
  | .invalidLiteral _ => none
  | _ => some fault.name

def RegistrationFault.message (fault : RegistrationFault) : String :=
  fault.fault.message

/-- Templates by name. Of two entries with one name the first counts. -/
structure Registry where
  entries : List (String × List Node)

namespace Registry

def empty : Registry := ⟨[]⟩

def register (registry : Registry) (name source : String) : Except RegistrationFault Registry :=
  match ofSource source with
  | .ok nodes => .ok ⟨(name, nodes) :: registry.entries⟩
  | .error fault => .error ⟨name, fault⟩

def template? (registry : Registry) (name : String) : Option Entry :=
  (registry.entries.lookup name).map fun nodes => ⟨some name, nodes⟩

def hasTemplate (registry : Registry) (name : String) : Bool :=
  (registry.template? name).isSome

def registerAll (registry : Registry) : List Builtin → Except RegistrationFault Registry
  | [] => .ok registry
  | builtin :: rest =>
      match registry.register builtin.name builtin.source with
      | .ok next => next.registerAll rest
      | .error fault => .error fault

def builtin : Except RegistrationFault Registry :=
  empty.registerAll Builtin.all

def render (registry : Registry) (name : String) (data : Value) : Except RenderFault String :=
  match registry.template? name with
  | none => .error (.ofCause (.templateNotFound name))
  | some template => Template.render registry.template? template data

end Registry

end ResourceScaffold.Template

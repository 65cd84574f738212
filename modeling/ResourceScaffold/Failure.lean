import ResourceScaffold.Settings.Fault
import ResourceScaffold.Template.Registry

/-!
Contract: the ways in which scaffolding fails.

Owns:
- the causes and the texts that report them;
- the further reports that a cause has below its own.

Does not own: what the program was doing when it failed.
-/

namespace ResourceScaffold

/-- Why scaffolding failed. -/
inductive Failure where
  | invalidName (word : String)
  | missingAnchor (anchor : String) (path : Path)
  | fileExists (path : Path)
  | fileSystem (path : Path) (fault : Fault)
  | templateRender (fault : Template.RenderFault)
  | templateRegistration (fault : Template.RegistrationFault)
  | configuration (fault : SettingsFault)
  | testRunner (command : String) (fault : Fault)

namespace Failure

def message : Failure → String
  | invalidName word => "Invalid resource name: '" ++ word ++ "'"
  | missingAnchor anchor path => "Anchor `" ++ anchor ++ "` not found in " ++ path.text
  | fileExists path => "File already exists: " ++ path.text
  | fileSystem path fault => "File system error at " ++ path.text ++ ": " ++ fault.message
  | templateRender fault => "Template render error: " ++ fault.message
  | templateRegistration fault => "Template registration error: " ++ fault.message
  | configuration fault => "Configuration error: " ++ fault.message
  | testRunner command fault =>
      "Test runner `" ++ command ++ "` failed to start: " ++ fault.message

def reasons : Failure → List String
  | invalidName _ => []
  | missingAnchor _ _ => []
  | fileExists _ => []
  | fileSystem _ fault => [fault.message]
  | templateRender fault => [fault.message, fault.cause.message]
  | templateRegistration fault => [fault.message, fault.fault.message]
  | configuration fault => [fault.message]
  | testRunner _ fault => [fault.message]

end Failure

end ResourceScaffold

import ResourceScaffold.FileTree.Fault
import ResourceScaffold.Settings.Datum

/-!
Contract: the ways in which settings cannot be loaded.

Owns:
- the causes, and the texts that name the key and the source.

Does not own: which settings there are.
-/

namespace ResourceScaffold

/-- What a setting has to be. -/
inductive SettingType where
  | string
  | path
  | boolean
  | sequence
  | group (name : String)
deriving DecidableEq, Repr

def SettingType.description : SettingType → String
  | string => "a string"
  | path => "path string"
  | boolean => "a boolean"
  | sequence => "a sequence"
  | group name => "struct " ++ name

/-- Why settings could not be loaded. -/
inductive SettingsFault where
  | invalidToml (source : SettingsSource)
  | unreadable (path : Path) (fault : Fault)
  | invalidType (found : Datum) (expected : SettingType) (key : List String)

def joinDotted : List String → String
  | [] => ""
  | [part] => part
  | part :: rest => part ++ "." ++ joinDotted rest

def SettingsSource.description : SettingsSource → String
  | text => "TOML source string"
  | file path => path.text ++ " TOML file"
  | environment => "`LAYERGEN_` environment variable(s)"

/-- A key as a report names it: in capitals for a variable, and below the default profile for a
file. -/
def SettingsSource.keyText (source : SettingsSource) (key : List String) : String :=
  match source with
  | environment =>
      joinDotted (key.map fun part => String.ofList (part.toList.map Char.toUpper))
  | _ => joinDotted ("default" :: key)

def SettingsFault.message : SettingsFault → String
  | invalidToml source => "invalid TOML\n in " ++ source.description
  | unreadable path fault => fault.message ++ "\n in " ++ (SettingsSource.file path).description
  | invalidType found expected key =>
      "invalid type: found " ++ found.description ++ ", expected " ++ expected.description ++
        " for key \"" ++ found.source.keyText key ++ "\" in " ++ found.source.description

end ResourceScaffold

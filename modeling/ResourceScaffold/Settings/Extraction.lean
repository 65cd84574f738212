import ResourceScaffold.Settings.Basic
import ResourceScaffold.Settings.Fault

/-!
Contract: typed settings from untyped data.

Owns:
- the keys of the settings and their types;
- the order in which wrong types are reported;
- sections written as lists, in the order of their settings.

Does not own: the merging of sources.
-/

namespace ResourceScaffold

namespace Settings

/-! ## Readers of single settings -/

/-- A reader of a setting at a key. -/
abbrev SettingReader (α : Type) := List String → Datum → Except SettingsFault α

/-- Reads a text; a single character is one. -/
def readTextAs (expected : SettingType) : SettingReader String := fun key datum =>
  match datum with
  | .text _ value => .ok value
  | .character _ value => .ok (String.ofList [value])
  | other => .error (.invalidType other expected key)

def readText : SettingReader String := readTextAs .string

def readPath : SettingReader Path := fun key datum =>
  (readTextAs .path key datum).map Path.mk

def readBoolean : SettingReader Bool := fun key datum =>
  match datum with
  | .boolean _ value => .ok value
  | other => .error (.invalidType other .boolean key)

def readTextsFrom (key : List String) : Nat → List Datum → Except SettingsFault (List String)
  | _, [] => .ok []
  | index, datum :: rest => do
      let text ← readText (key ++ [toString index]) datum
      let others ← readTextsFrom key (index + 1) rest
      return text :: others

def readTexts : SettingReader (List String) := fun key datum =>
  match datum with
  | .list _ items => readTextsFrom key 0 items
  | other => .error (.invalidType other .sequence key)

/-! ## Sections -/

/-- A setting of a section: its name, and how the section changes when the setting is given. -/
structure Field (σ : Type) where
  name : String
  assign : List String → Datum → σ → Except SettingsFault σ

/-- The setting of a name, from a reader of its value and the change that the value makes. -/
def Field.of {σ α : Type} (name : String) (reader : SettingReader α) (put : α → σ → σ) : Field σ :=
  ⟨name, fun key datum current => (reader key datum).map fun value => put value current⟩

def insertByName {σ : Type} (field : Field σ) : List (Field σ) → List (Field σ)
  | [] => [field]
  | other :: rest =>
      if field.name < other.name then field :: other :: rest
      else other :: insertByName field rest

def sortedByName {σ : Type} (fields : List (Field σ)) : List (Field σ) :=
  fields.foldr insertByName []

/-- The settings that are given, by name, each with the last part of its key. -/
abbrev Given := String → Option (String × Datum)

def givenByEntries (entries : List (String × Datum)) : Given := fun name =>
  (entries.lookup name).map fun datum => (name, datum)

/-- The settings that a list gives: its items belong to the names of the section in order. -/
def givenByItems (names : List String) (items : List Datum) : Given := fun name => do
  let index ← names.findIdx? (· = name)
  let datum ← items[index]?
  return (toString index, datum)

/-- Assigns the settings that are given, one after the other. The first wrong type is reported. -/
def assignGiven {σ : Type} (key : List String) (given : Given) :
    List (Field σ) → σ → Except SettingsFault σ
  | [], current => .ok current
  | field :: rest, current =>
      match given field.name with
      | none => assignGiven key given rest current
      | some (part, datum) =>
          match field.assign (key ++ [part]) datum current with
          | .error fault => .error fault
          | .ok next => assignGiven key given rest next

/-- Reads a section. The settings of a table are read in the order of their names, those of a list
in their own order. What is not given has its default, and what is no setting has no effect. -/
def readSection {σ : Type} (title : String) (fields : List (Field σ)) (default : σ) :
    SettingReader σ := fun key datum =>
  match datum with
  | .table _ entries => assignGiven key (givenByEntries entries) (sortedByName fields) default
  | .list _ items =>
      assignGiven key (givenByItems (fields.map Field.name) items) fields default
  | other => .error (.invalidType other (.group title) key)

def layoutFields : List (Field LayoutSettings) := [
  .of "routes_dir" readPath fun value layout => { layout with routesDir := value },
  .of "aggregator_file" readText fun value layout => { layout with aggregatorFile := value },
  .of "controller_dir" readPath fun value layout => { layout with controllerDir := value },
  .of "service_dir" readPath fun value layout => { layout with serviceDir := value },
  .of "repository_dir" readPath fun value layout => { layout with repositoryDir := value },
  .of "test_dir" readPath fun value layout => { layout with testDir := value }]

def aggregatorFields : List (Field AggregatorSettings) := [
  .of "import_anchor" readText fun value aggregator => { aggregator with importAnchor := value },
  .of "registration_anchor" readText fun value aggregator =>
    { aggregator with registrationAnchor := value },
  .of "router_ident" readText fun value aggregator => { aggregator with routerIdent := value }]

def templateFields : List (Field TemplateSettings) := [
  .of "auth_import" readText fun value templates => { templates with authImport := value },
  .of "auth_middleware" readText fun value templates => { templates with authMiddleware := value },
  .of "request_import" readText fun value templates => { templates with requestImport := value },
  .of "request_type" readText fun value templates => { templates with requestType := value },
  .of "database_import" readText fun value templates => { templates with databaseImport := value },
  .of "override_dir" readPath fun value templates => { templates with overrideDir := some value }]

def verifyFields : List (Field VerifySettings) := [
  .of "enabled" readBoolean fun value verify => { verify with enabled := value },
  .of "command" readTexts fun value verify => { verify with command := value }]

def topFields : List (Field Settings) := [
  .of "default_name" readText fun value settings => { settings with defaultName := value },
  .of "layout" (readSection "LayoutSettings" layoutFields {}) fun value settings =>
    { settings with layout := value },
  .of "aggregator" (readSection "AggregatorSettings" aggregatorFields {}) fun value settings =>
    { settings with aggregator := value },
  .of "templates" (readSection "TemplateSettings" templateFields {}) fun value settings =>
    { settings with templates := value },
  .of "verify" (readSection "VerifySettings" verifyFields {}) fun value settings =>
    { settings with verify := value }]

/-- The settings that entries give. The first wrong type in the order of the keys is reported;
entries that are no settings have no effect. -/
def ofEntries (entries : List (String × Datum)) : Except SettingsFault Settings :=
  assignGiven [] (givenByEntries entries) (sortedByName topFields) {}

end Settings

end ResourceScaffold

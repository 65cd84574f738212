import ResourceScaffold.FileTree.Access
import ResourceScaffold.Settings.Environment
import ResourceScaffold.Settings.Extraction
import ResourceScaffold.Toml.Document

/-!
Contract: the settings of a project.

Owns:
- the sources of settings and their order;
- where the file of a project is looked for, and how it is named in reports;
- settings from a text alone.

Does not own: the formats of the sources.
-/

namespace ResourceScaffold

namespace Settings

def fileName : String := "layergen.toml"

/-! ## Files -/

def entriesOfText (source : SettingsSource) (text : String) :
    Except SettingsFault (List (String × Datum)) :=
  match Toml.ofText? text with
  | some entries => .ok (Toml.entriesToData source entries)
  | none => .error (.invalidToml source)

/-- The entries of a settings file, which is reported under a name of its own. -/
def entriesOfFile (tree : FileTree) (path shown : Path) :
    Except SettingsFault (List (String × Datum)) :=
  match tree.readText path with
  | .ok text => entriesOfText (.file shown) text
  | .error fault => .error (.unreadable shown fault)

def pathNames (path : Path) : List String :=
  (FileTree.pathSegments path).filter fun segment => segment ≠ "" ∧ segment ≠ "."

/-- The way from one location to another: up out of the first, then down. -/
def wayBetween : Location → Location → Location
  | base :: baseRest, target :: targetRest =>
      if base = target then wayBetween baseRest targetRest
      else (base :: baseRest).map (fun _ => "..") ++ target :: targetRest
  | [], target => target
  | base, [] => base.map fun _ => ".."

def namesPath (names : List String) : String :=
  String.ofList (Path.joinSegments (names.map String.toList))

/-- A file as reports name it: as seen from the working directory, unless that is longer. -/
def shownPath (tree : FileTree) (path : Path) : Path :=
  if path.isAbsolute then
    let way := wayBetween tree.workingDirectory (pathNames path)
    if way.length < (pathNames path).length + 1 then ⟨namesPath way⟩ else path
  else ⟨namesPath (pathNames path)⟩

/-- A path as seen from the working directory or from one of the directories around it. -/
def seenFrom (path : Path) (directory : Location) : Path :=
  (Path.mk ("/" ++ namesPath directory)).join path

/-- The directories around a location, nearest first, beginning with itself. -/
def directoriesAround (location : Location) : List Location :=
  (FileTree.wayTo location).reverse ++ [[]]

/-- The settings file that a path stands for: the path itself, or the same path as seen from one of
the directories around the working directory. -/
def findFile? (tree : FileTree) (path : Path) : Option Path :=
  if tree.isFile path then some path
  else if path.isAbsolute then none
  else
    ((directoriesAround tree.workingDirectory).map (seenFrom path)).find? fun candidate =>
      tree.isFile candidate

def projectEntries (tree : FileTree) (root : Path) :
    Except SettingsFault (List (String × Datum)) :=
  let path := root.join ⟨fileName⟩
  if tree.pathExists path then
    match findFile? tree path with
    | some found => entriesOfFile tree found (shownPath tree found)
    | none => .ok []
  else .ok []

def explicitEntries (tree : FileTree) (explicit : Option Path) :
    Except SettingsFault (List (String × Datum)) :=
  match explicit with
  | some path => entriesOfFile tree path path
  | none => .ok []

/-! ## Loading -/

/-- The settings with a relative directory of templates seen from a root. -/
def rooted (root : Path) (settings : Settings) : Settings :=
  { settings with
    templates :=
      { settings.templates with
        overrideDir := settings.templates.overrideDir.map fun directory => root.join directory } }

/-- The settings of a project. The file of the project is laid over the defaults, a file that was
asked for over that, and the environment over both. Of two files that cannot be read the second one
is reported.

The defaults are no entries of their own: a setting that is not given has its default when it is
read (`readSection`). A lowest layer with all defaults written out would change nothing. What a
source gives replaces what that layer has for the setting, its tables are united with those of the
source, and a default has the right type, so that neither the first wrong type nor a value is
another one. -/
def load (tree : FileTree) (environment : List (String × String)) (root : Path)
    (explicit : Option Path) : Except SettingsFault Settings :=
  match explicitEntries tree explicit, projectEntries tree root with
  | .error fault, _ => .error fault
  | _, .error fault => .error fault
  | .ok above, .ok below =>
      (ofEntries (Datum.layerEntries (Datum.layerEntries below above)
        (Environment.settingsOf environment))).map (rooted root)

def ofText (text : String) : Except SettingsFault Settings :=
  (entriesOfText .text text).bind ofEntries

end Settings

end ResourceScaffold

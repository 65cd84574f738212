import ResourceScaffold.Proofs.FileTree.Rooted
import ResourceScaffold.Proofs.Settings.Environment
import ResourceScaffold.Proofs.Toml.Distinct
import ResourceScaffold.Settings.Load

/-!
Contract: which source decides a setting.

Owns:
- what the sources of a project give at a key: the environment before a file that was asked for, and
  that before the file of the project;
- that settings are loaded if what is given for each setting is of its type, and are what is given.

Does not own: sources that cannot be read, and sections that are no tables.
-/

namespace ResourceScaffold

open Datum

variable {tree : FileTree} {environment : List (String × String)} {root : Path}
  {explicit : Option Path} {source : SettingsSource} {text : String}
  {entries above below : List (String × Datum)}

/-! ## Files -/

namespace Settings

theorem entriesOfText_distinct (read : entriesOfText source text = .ok entries) :
    DistinctEntries entries := by
  unfold entriesOfText at read
  split at read
  · rename_i document
    cases read
    exact Toml.ofText?_distinct document source
  · cases read

theorem entriesOfFile_distinct {path shown : Path}
    (read : entriesOfFile tree path shown = .ok entries) : DistinctEntries entries := by
  unfold entriesOfFile at read
  split at read
  · exact entriesOfText_distinct read
  · cases read

theorem projectEntries_distinct (read : projectEntries tree root = .ok entries) :
    DistinctEntries entries := by
  unfold projectEntries at read
  dsimp only at read
  split_ifs at read
  · split at read
    · exact entriesOfFile_distinct read
    · cases read
      exact distinctEntries_nil
  · cases read
    exact distinctEntries_nil

theorem explicitEntries_distinct (read : explicitEntries tree explicit = .ok entries) :
    DistinctEntries entries := by
  unfold explicitEntries at read
  split at read
  · exact entriesOfFile_distinct read
  · cases read
    exact distinctEntries_nil

end Settings

/-! ## Sources by priority -/

/-- What is given at a key: by the environment, or else by the file that was asked for, or else by
the file of the project. -/
def givenAt (environment : List (String × String)) (above below : List (String × Datum))
    (key : List String) : Option Datum :=
  (Environment.given? environment key).or ((at? key above).or (at? key below))

/-- All sources laid over each other, the environment over the file that was asked for, and that
over the file of the project. -/
def layered (environment : List (String × String)) (above below : List (String × Datum)) :
    List (String × Datum) :=
  layerEntries (layerEntries below above) (Environment.settingsOf environment)

theorem Setting.chosen_congr (setting : Setting) {found found' : Option Datum}
    (same : found.map setting.read = found'.map setting.read) :
    setting.chosen found = setting.chosen found' := by
  cases found with
  | none =>
      cases found' with
      | none => rfl
      | some datum => cases same
  | some datum =>
      cases found' with
      | none => cases same
      | some datum' => exact Option.some.inj same

theorem Setting.get_eq (setting : Setting) {found : Option Datum} {plain : Settings}
    {value : setting.Value} (chosen : setting.chosen found = some (setting.get plain))
    (read : found.bind setting.read = some value) : setting.get plain = value := by
  cases found with
  | none => cases read
  | some datum => exact Option.some.inj (chosen.symm.trans read)

/-- The sources of a run whose sections are tables, without keys that are given twice. -/
structure Sources (environment : List (String × String)) (above below : List (String × Datum)) :
    Prop where
  below_distinct : DistinctEntries below
  above_distinct : DistinctEntries above
  below_sectioned : Sectioned below
  above_sectioned : Sectioned above
  environment_sectioned : ∀ setting ∈ environment, Sectioned (Environment.entriesOf setting)

namespace Sources

variable (sources : Sources environment above below)
include sources

theorem sectioned : Sectioned (layered environment above below) :=
  (sources.below_sectioned.layer sources.above_distinct sources.above_sectioned).layer
    (Environment.settingsOf_distinct environment)
    (Environment.settingsOf_sectioned sources.environment_sectioned)

/-- Layered sources have for a setting what the first of them gives. -/
theorem chosen_layered (setting : Setting) (member : setting ∈ Setting.all) :
    setting.chosen (at? setting.key (layered environment above below)) =
      setting.chosen (givenAt environment above below setting.key) := by
  have rejects := setting.rejectsTables
  have files := map_at?_layerEntries rejects sources.above_distinct
    (sources.below_sectioned.opens setting member) (sources.above_sectioned.opens setting member)
  have inEnvironment := Environment.map_at?_settingsOf rejects fun entry isEntry =>
    (sources.environment_sectioned entry isEntry).opens setting member
  refine setting.chosen_congr ?_
  rw [layered, givenAt,
    map_at?_layerEntries rejects (Environment.settingsOf_distinct environment)
      ((sources.below_sectioned.layer sources.above_distinct sources.above_sectioned).opens setting
        member)
      ((Environment.settingsOf_sectioned sources.environment_sectioned).opens setting member),
    Option.map_or, Option.map_or, inEnvironment, files]

end Sources

namespace Settings

theorem load_eq (project : projectEntries tree root = .ok below)
    (asked : explicitEntries tree explicit = .ok above) :
    load tree environment root explicit =
      (ofEntries (layered environment above below)).map (rooted root) := by
  rw [load, asked, project, layered]

/-- Settings are loaded exactly if what is given for each setting by the first source that gives it is
of its type. Then they are what is given, or the defaults where nothing is, and a relative directory
of templates is seen from the root. Nothing else in any source has an effect. -/
theorem load_ok_iff_given (project : projectEntries tree root = .ok below)
    (asked : explicitEntries tree explicit = .ok above) (sectioned : Sectioned below)
    (sectioned' : Sectioned above)
    (sectionedVariables : ∀ setting ∈ environment, Sectioned (Environment.entriesOf setting)) :
    ((∃ settings, load tree environment root explicit = .ok settings) ↔
      ∀ setting ∈ Setting.all,
        (setting.chosen (givenAt environment above below setting.key)).isSome) ∧
    ∀ settings, load tree environment root explicit = .ok settings ↔
      ∃ plain : Settings, settings = rooted root plain ∧ ∀ setting ∈ Setting.all,
        setting.chosen (givenAt environment above below setting.key) =
          some (setting.get plain) := by
  have sources : Sources environment above below :=
    ⟨projectEntries_distinct project, explicitEntries_distinct asked, sectioned, sectioned',
      sectionedVariables⟩
  have plainly (plain : Settings) :
      ofEntries (layered environment above below) = .ok plain ↔ ∀ setting ∈ Setting.all,
        setting.chosen (givenAt environment above below setting.key) =
          some (setting.get plain) := by
    refine (ofEntries_ok_iff sources.sectioned).trans (forall₂_congr fun setting member => ?_)
    rw [sources.chosen_layered setting member]
  have loaded (settings : Settings) : load tree environment root explicit = .ok settings ↔
      ∃ plain, ofEntries (layered environment above below) = .ok plain ∧
        rooted root plain = settings := by
    rw [load_eq project asked]
    cases ofEntries (layered environment above below) with
    | error fault => simp [Except.map]
    | ok plain => simp [Except.map]
  refine ⟨?_, fun settings => ?_⟩
  · have exist := exists_ofEntries_iff sources.sectioned
    rw [forall₂_congr fun setting member => by rw [sources.chosen_layered setting member]] at exist
    rw [← exist]
    constructor
    · rintro ⟨settings, done⟩
      obtain ⟨plain, isPlain, -⟩ := (loaded settings).1 done
      exact ⟨plain, isPlain⟩
    · rintro ⟨plain, isPlain⟩
      exact ⟨rooted root plain, (loaded _).2 ⟨plain, isPlain, rfl⟩⟩
  · rw [loaded]
    refine exists_congr fun plain => ?_
    rw [plainly, eq_comm, and_comm]

/-- The settings of a project: a command for tests, a switch of the wrong type, a directory. -/
def projectText : String :=
  "[verify]\ncommand = [\"npm\", \"t\"]\nenabled = 1\n[layout]\nroutes_dir = \"api\"\n"

/-- The settings that are asked for: the switch, and a directory of templates. -/
def askedText : String :=
  "[verify]\nenabled = false\n[templates]\noverride_dir = \"tpl\"\n"

/-- The entries of a text in a file. -/
def documentOf (shown : Path) (text : String) : List (String × Datum) :=
  Toml.entriesToData (.file shown) ((Toml.ofText? text).getD [])

theorem entriesOfFile_eq {path shown : Path} (read : tree.readText path = .ok text)
    (isDocument : (Toml.ofText? text).isSome) :
    entriesOfFile tree path shown = .ok (documentOf shown text) := by
  obtain ⟨found, document⟩ := Option.isSome_iff_exists.1 isDocument
  rw [entriesOfFile, read]
  change entriesOfText _ _ = _
  rw [entriesOfText, documentOf, document, Option.getD_some]

/-- A project with settings of its own, and a file of other settings. -/
def configuredProject : FileTree where
  nodes := [(["work"], .directory), (["work", "app"], .directory),
    (["work", "app", "layergen.toml"], .file projectText.toUTF8),
    (["work", "ci.toml"], .file askedText.toUTF8)]
  workingDirectory := ["work"]

/-- What is given in this project, with one variable. -/
def configuredGiven : List String → Option Datum :=
  givenAt [("LAYERGEN_LAYOUT__ROUTES_DIR", "src/http")] (documentOf ⟨"ci.toml"⟩ askedText)
    (documentOf (shownPath configuredProject ⟨"app/layergen.toml"⟩) projectText)

theorem projectEntries_configured :
    projectEntries configuredProject ⟨"app"⟩ =
      .ok (documentOf (shownPath configuredProject ⟨"app/layergen.toml"⟩) projectText) := by
  have exists' : configuredProject.pathExists ⟨"app/layergen.toml"⟩ = true := by decide +kernel
  have isFile : configuredProject.isFile ⟨"app/layergen.toml"⟩ = true := by decide +kernel
  have joined : Path.join ⟨"app"⟩ ⟨fileName⟩ = ⟨"app/layergen.toml"⟩ := by decide +kernel
  have read : configuredProject.readText ⟨"app/layergen.toml"⟩ = .ok projectText :=
    FileTree.readText_eq_ok_iff.2 ⟨_, by decide +kernel, FileTree.fromUTF8?_toUTF8 _⟩
  have isDocument : (Toml.ofText? projectText).isSome := by decide +kernel
  rw [projectEntries, joined, if_pos exists', findFile?, if_pos isFile]
  exact entriesOfFile_eq read isDocument

theorem explicitEntries_configured :
    explicitEntries configuredProject (some ⟨"ci.toml"⟩) =
      .ok (documentOf ⟨"ci.toml"⟩ askedText) := by
  have read : configuredProject.readText ⟨"ci.toml"⟩ = .ok askedText :=
    FileTree.readText_eq_ok_iff.2 ⟨_, by decide +kernel, FileTree.fromUTF8?_toUTF8 _⟩
  have isDocument : (Toml.ofText? askedText).isSome := by decide +kernel
  rw [explicitEntries, entriesOfFile_eq read isDocument]

/-- The environment decides a directory, and the file that was asked for the switch, for which the
project has no truth value. -/
theorem load_ok_iff_given_layers :
    ∃ settings, load configuredProject [("LAYERGEN_LAYOUT__ROUTES_DIR", "src/http")] ⟨"app"⟩
        (some ⟨"ci.toml"⟩) = .ok settings ∧
      settings.layout.routesDir = ⟨"src/http"⟩ ∧
      settings.verify = ⟨false, ["npm", "t"]⟩ ∧
      settings.templates.overrideDir = some ⟨"app/tpl"⟩ := by
  have variablesSectioned : ∀ setting ∈ [("LAYERGEN_LAYOUT__ROUTES_DIR", "src/http")],
      Sectioned (Environment.entriesOf setting) := by
    rw [List.forall_mem_singleton]
    exact Environment.entriesOf_sectioned (by decide +kernel)
  obtain ⟨loads, loaded⟩ := load_ok_iff_given projectEntries_configured
    explicitEntries_configured (by decide +kernel) (by decide +kernel) variablesSectioned
  obtain ⟨settings, done⟩ := loads.2 (by decide +kernel)
  obtain ⟨plain, rfl, values⟩ := (loaded settings).1 done
  have read (index : Nat) (inside : index < Setting.all.length)
      (value : Setting.all[index].Value)
      (isRead : (configuredGiven Setting.all[index].key).bind Setting.all[index].read =
        some value) : Setting.all[index].get plain = value :=
    Setting.get_eq _ (values _ (List.getElem_mem inside)) isRead
  have routesDir : plain.layout.routesDir = ⟨"src/http"⟩ :=
    read 7 (by decide) _ (show (configuredGiven ["layout", "routes_dir"]).bind path? =
      some (⟨"src/http"⟩ : Path) by decide +kernel)
  have overrideDir : plain.templates.overrideDir = some ⟨"tpl"⟩ :=
    read 13 (by decide) _ (show (configuredGiven ["templates", "override_dir"]).bind
      (fun datum => datum.path?.map some) = some (some (⟨"tpl"⟩ : Path)) by decide +kernel)
  have command : plain.verify.command = ["npm", "t"] :=
    read 16 (by decide) _ (show (configuredGiven ["verify", "command"]).bind texts? =
      some (["npm", "t"] : List String) by decide +kernel)
  have enabled : plain.verify.enabled = false :=
    read 17 (by decide) _ (show (configuredGiven ["verify", "enabled"]).bind truth? =
      some (false : Bool) by decide +kernel)
  refine ⟨_, done, routesDir, congrArg₂ VerifySettings.mk enabled command, ?_⟩
  rw [rooted, overrideDir]
  change some (Path.join ⟨"app"⟩ ⟨"tpl"⟩) = _
  decide +kernel

end Settings

end ResourceScaffold

import ResourceScaffold.Proofs.Settings.Layering
import ResourceScaffold.Settings.Extraction

/-!
Contract: typed settings, one by one.

Owns:
- the data that texts, paths, truth values and lists of texts are read from;
- the places that settings have in a section, and that a section is read place by place;
- the list of all settings, and that entries with tables for sections are read setting by setting.

Does not own: the sources of entries, and which wrong type is reported.
-/

namespace ResourceScaffold

/-! ## Types -/

namespace Datum

def isTable : Datum → Bool
  | .table _ _ => true
  | _ => false

theorem isTable_iff (datum : Datum) :
    datum.isTable = true ↔ ∃ source inner, datum = .table source inner := by
  cases datum <;> simp [isTable]

/-- The text that a part is. A single character is one. -/
def text? : Datum → Option String
  | .text _ value => some value
  | .character _ value => some (String.ofList [value])
  | _ => none

def path? (datum : Datum) : Option Path :=
  datum.text?.map Path.mk

def truth? : Datum → Option Bool
  | .boolean _ value => some value
  | _ => none

def texts? : Datum → Option (List String)
  | .list _ items => items.mapM text?
  | _ => none

theorem text?_rejectsTables : RejectsTables text? := fun _ _ => rfl

theorem path?_rejectsTables : RejectsTables path? := fun _ _ => rfl

theorem truth?_rejectsTables : RejectsTables truth? := fun _ _ => rfl

theorem texts?_rejectsTables : RejectsTables texts? := fun _ _ => rfl

end Datum

open Datum

/-- A setting of a run: its key, what data it is read from, and where the settings have it. -/
structure Setting where
  key : List String
  Value : Type
  read : Datum → Option Value
  rejectsTables : Datum.RejectsTables read
  get : Settings → Value

/-- What a setting is to be: what is found for it if that is of its type, and its default if nothing
is found. -/
def Setting.chosen (setting : Setting) : Option Datum → Option setting.Value
  | none => some (setting.get {})
  | some datum => setting.read datum

namespace Settings

theorem toOption_eq_some_iff {Result : Type} {outcome : Except SettingsFault Result}
    {result : Result} : outcome.toOption = some result ↔ outcome = .ok result := by
  cases outcome with
  | error fault => simp [Except.toOption]
  | ok found => simp [Except.toOption]

theorem readTextAs_toOption (expected : SettingType) (key : List String) (datum : Datum) :
    (readTextAs expected key datum).toOption = datum.text? := by
  cases datum <;> rfl

theorem readText_toOption (key : List String) (datum : Datum) :
    (readText key datum).toOption = datum.text? :=
  readTextAs_toOption .string key datum

theorem readPath_toOption (key : List String) (datum : Datum) :
    (readPath key datum).toOption = datum.path? := by
  rw [path?, ← readTextAs_toOption .path key datum, readPath]
  cases readTextAs .path key datum <;> rfl

theorem readBoolean_toOption (key : List String) (datum : Datum) :
    (readBoolean key datum).toOption = datum.truth? := by
  cases datum <;> rfl

theorem readTextsFrom_toOption (key : List String) (index : Nat) (items : List Datum) :
    (readTextsFrom key index items).toOption = items.mapM text? := by
  induction items generalizing index with
  | nil => rfl
  | cons datum rest inductionHypothesis =>
      rw [readTextsFrom, List.mapM_cons, ← readText_toOption (key ++ [toString index]),
        ← inductionHypothesis (index + 1)]
      cases readText (key ++ [toString index]) datum with
      | error fault => rfl
      | ok text => cases readTextsFrom key (index + 1) rest <;> rfl

theorem readTexts_toOption (key : List String) (datum : Datum) :
    (readTexts key datum).toOption = datum.texts? := by
  cases datum with
  | list source items => exact readTextsFrom_toOption key 0 items
  | _ => rfl

/-! ## Places in a section -/

/-- A place in a section: the name that it is given by, how it is read, and the part of the section
that it is. -/
structure Slot (σ : Type) where
  name : String
  Value : Type
  reader : SettingReader Value
  get : σ → Value
  put : Value → σ → σ
  get_put : ∀ value current, get (put value current) = value
  put_get : ∀ current, put (get current) current = current

variable {σ : Type} {slots rest : List (Slot σ)} {slot other : Slot σ} {key : List String}
  {given : Given} {current result : σ}

def Slot.field (slot : Slot σ) : Field σ :=
  .of slot.name slot.reader slot.put

/-- What a place is to have: what is given for it if that is of its type, or else what it has. -/
def Slot.chosen (slot : Slot σ) (key : List String) (given : Given) (current : σ) :
    Option slot.Value :=
  match given slot.name with
  | none => some (slot.get current)
  | some (part, datum) => (slot.reader (key ++ [part]) datum).toOption

/-- Of two places, neither changes with the other one. -/
def Slot.Apart (slot other : Slot σ) : Prop :=
  (∀ value current, other.get (slot.put value current) = other.get current) ∧
    ∀ value current, slot.get (other.put value current) = slot.get current

theorem Slot.Apart.chosen_put (apart : slot.Apart other) (value : slot.Value) :
    other.chosen key given (slot.put value current) = other.chosen key given current := by
  unfold Slot.chosen
  rw [apart.1]

/-- One step of reading a section puts what its first place is to have. -/
theorem assignGiven_field_ok_iff :
    assignGiven key given (slot.field :: rest.map Slot.field) current = .ok result ↔
      ∃ value, slot.chosen key given current = some value ∧
        assignGiven key given (rest.map Slot.field) (slot.put value current) = .ok result := by
  have named : slot.field.name = slot.name := rfl
  rw [assignGiven, named, Slot.chosen]
  cases given slot.name with
  | none =>
      constructor
      · intro done
        exact ⟨slot.get current, rfl, (slot.put_get current).symm ▸ done⟩
      · rintro ⟨value, chosen, done⟩
        cases chosen
        exact slot.put_get current ▸ done
  | some found =>
      obtain ⟨part, datum⟩ := found
      have assigned : slot.field.assign (key ++ [part]) datum current =
          (slot.reader (key ++ [part]) datum).map fun value => slot.put value current := rfl
      simp only [assigned]
      cases slot.reader (key ++ [part]) datum with
      | error fault =>
          constructor
          · intro done
            cases done
          · rintro ⟨value, chosen, -⟩
            cases chosen
      | ok value =>
          constructor
          · intro done
            exact ⟨value, rfl, done⟩
          · rintro ⟨value', chosen, done⟩
            cases chosen
            exact done

theorem assignGiven_unchanged {Part : Type} {view : σ → Part}
    (keeps : ∀ slot ∈ slots, ∀ value current, view (slot.put value current) = view current)
    (done : assignGiven key given (slots.map Slot.field) current = .ok result) :
    view result = view current := by
  induction slots generalizing current with
  | nil =>
      cases done
      rfl
  | cons slot rest inductionHypothesis =>
      obtain ⟨value, -, others⟩ := assignGiven_field_ok_iff.1 done
      obtain ⟨first, later⟩ := List.forall_mem_cons.1 keeps
      exact (inductionHypothesis later others).trans (first value current)

theorem chosen_of_assignGiven (apart : slots.Pairwise Slot.Apart)
    (done : assignGiven key given (slots.map Slot.field) current = .ok result) :
    ∀ slot ∈ slots, slot.chosen key given current = some (slot.get result) := by
  induction slots generalizing current with
  | nil => exact List.forall_mem_nil _
  | cons slot rest inductionHypothesis =>
      obtain ⟨value, chosen, others⟩ := assignGiven_field_ok_iff.1 done
      obtain ⟨first, later⟩ := List.pairwise_cons.1 apart
      refine List.forall_mem_cons.2 ⟨?_, fun other member => ?_⟩
      · rw [chosen, assignGiven_unchanged (fun other member => (first other member).2) others,
          slot.get_put]
      · rw [← inductionHypothesis later others other member, (first other member).chosen_put]

/-- A section is read if there is something for every place to have. -/
theorem exists_assignGiven (apart : slots.Pairwise Slot.Apart)
    (chosen : ∀ slot ∈ slots, (slot.chosen key given current).isSome) :
    ∃ result, assignGiven key given (slots.map Slot.field) current = .ok result := by
  induction slots generalizing current with
  | nil => exact ⟨current, rfl⟩
  | cons slot rest inductionHypothesis =>
      obtain ⟨first, later⟩ := List.pairwise_cons.1 apart
      obtain ⟨here, others⟩ := List.forall_mem_cons.1 chosen
      obtain ⟨value, isValue⟩ := Option.isSome_iff_exists.1 here
      obtain ⟨result, done⟩ := inductionHypothesis later fun other member => by
        rw [(first other member).chosen_put]
        exact others other member
      exact ⟨result, assignGiven_field_ok_iff.2 ⟨value, isValue, done⟩⟩

/-- Places that do not overlap and together make up a section. -/
structure Places (σ : Type) where
  slots : List (Slot σ)
  apart : slots.Pairwise Slot.Apart
  complete : ∀ {one other : σ}, (∀ slot ∈ slots, slot.get one = slot.get other) → one = other

/-- A section is read place by place. -/
theorem Places.assignGiven_ok_iff (places : Places σ) :
    assignGiven key given (places.slots.map Slot.field) current = .ok result ↔
      ∀ slot ∈ places.slots, slot.chosen key given current = some (slot.get result) := by
  refine ⟨chosen_of_assignGiven places.apart, fun chosen => ?_⟩
  have isGiven (slot : Slot σ) (member : slot ∈ places.slots) :
      (slot.chosen key given current).isSome := by
    rw [chosen slot member, Option.isSome_some]
  obtain ⟨found, done⟩ := exists_assignGiven places.apart isGiven
  have same : found = result := places.complete fun slot member =>
    Option.some.inj ((chosen_of_assignGiven places.apart done slot member).symm.trans
      (chosen slot member))
  exact same ▸ done

/-! ## Places of single settings -/

/-- A place for a setting of a type that no table is of. -/
structure Leaf (σ : Type) extends Slot σ where
  read : Datum → Option Value
  reader_toOption : ∀ key datum, (reader key datum).toOption = read datum
  rejectsTables : RejectsTables read

def Leaf.ofText (name : String) (get : σ → String) (put : String → σ → σ)
    (get_put : ∀ value current, get (put value current) = value := by intros; rfl)
    (put_get : ∀ current, put (get current) current = current := by intros; rfl) : Leaf σ :=
  ⟨⟨name, String, readText, get, put, get_put, put_get⟩, text?, readText_toOption,
    text?_rejectsTables⟩

def Leaf.ofPath (name : String) (get : σ → Path) (put : Path → σ → σ)
    (get_put : ∀ value current, get (put value current) = value := by intros; rfl)
    (put_get : ∀ current, put (get current) current = current := by intros; rfl) : Leaf σ :=
  ⟨⟨name, Path, readPath, get, put, get_put, put_get⟩, path?, readPath_toOption,
    path?_rejectsTables⟩

/-- What a place is to have: what is found for it if that is of its type, or else what it has. -/
def Leaf.chosen (leaf : Leaf σ) (current : σ) : Option Datum → Option leaf.Value
  | none => some (leaf.get current)
  | some datum => leaf.read datum

theorem Leaf.chosen_toSlot (leaf : Leaf σ) (key : List String) (entries : List (String × Datum))
    (current : σ) :
    leaf.toSlot.chosen key (givenByEntries entries) current =
      leaf.chosen current (entries.lookup leaf.name) := by
  rw [Slot.chosen, givenByEntries]
  cases entries.lookup leaf.name with
  | none => rfl
  | some datum => exact leaf.reader_toOption (key ++ [leaf.name]) datum

/-! ## Sections -/

/-- A section of the settings: its name, how it is read, the places of its settings in the order of
their names, and its own place. -/
structure Section (σ : Type) where
  name : String
  title : String
  fields : List (Field σ)
  leaves : List (Leaf σ)
  sorted : sortedByName fields = (leaves.map Leaf.toSlot).map Slot.field
  apart : (leaves.map Leaf.toSlot).Pairwise Slot.Apart
  complete : ∀ {one other : σ},
    (∀ slot ∈ leaves.map Leaf.toSlot, slot.get one = slot.get other) → one = other
  get : Settings → σ
  put : σ → Settings → Settings
  get_put : ∀ value current, get (put value current) = value := by intros; rfl
  put_get : ∀ current, put (get current) current = current := by intros; rfl

namespace Section

def places (part : Section σ) : Places σ :=
  ⟨part.leaves.map Leaf.toSlot, part.apart, part.complete⟩

def place (part : Section σ) : Slot Settings :=
  ⟨part.name, σ, readSection part.title part.fields (part.get {}), part.get, part.put, part.get_put,
    part.put_get⟩

def setting (part : Section σ) (leaf : Leaf σ) : Setting :=
  ⟨[part.name, leaf.name], leaf.Value, leaf.read, leaf.rejectsTables, leaf.get ∘ part.get⟩

def settings (part : Section σ) : List Setting :=
  part.leaves.map part.setting

theorem chosen_setting (part : Section σ) (leaf : Leaf σ) (found : Option Datum) :
    (part.setting leaf).chosen found = leaf.chosen (part.get {}) found := by
  cases found <;> rfl

/-- A table is read place by place. -/
theorem readSection_table_toOption (part : Section σ) (source : SettingsSource)
    (inner : List (String × Datum)) :
    (readSection part.title part.fields current key (.table source inner)).toOption = some result ↔
      ∀ leaf ∈ part.leaves,
        leaf.chosen current (inner.lookup leaf.name) = some (leaf.get result) := by
  rw [toOption_eq_some_iff, readSection, part.sorted]
  refine part.places.assignGiven_ok_iff.trans
    (List.forall_mem_map.trans (forall₂_congr fun leaf _ => ?_))
  rw [Leaf.chosen_toSlot]

/-- A section that is a table, or is not given, is read setting by setting. -/
theorem chosen_place_iff (part : Section σ) {entries : List (String × Datum)} {found : Settings}
    (isTable : ∀ datum, entries.lookup part.name = some datum →
      ∃ source inner, datum = .table source inner) :
    part.place.chosen [] (givenByEntries entries) {} = some (part.get found) ↔
      ∀ setting ∈ part.settings,
        setting.chosen (at? setting.key entries) = some (setting.get found) := by
  have named : part.place.name = part.name := rfl
  rw [settings, List.forall_mem_map, Slot.chosen, givenByEntries, named]
  simp only [chosen_setting]
  change _ ↔ ∀ leaf ∈ part.leaves,
    leaf.chosen (part.get {}) (at? [part.name, leaf.name] entries) =
      some (leaf.get (part.get found))
  simp only [at?]
  cases here : entries.lookup part.name with
  | none =>
      constructor
      · intro same leaf _
        exact congrArg (some ∘ leaf.get) (Option.some.inj same)
      · intro same
        refine congrArg some (part.complete (List.forall_mem_map.2 fun leaf member => ?_))
        exact Option.some.inj (same leaf member)
  | some datum =>
      obtain ⟨source, inner, rfl⟩ := isTable datum here
      exact part.readSection_table_toOption source inner

theorem isSome_place (part : Section σ) {entries : List (String × Datum)}
    (isTable : ∀ datum, entries.lookup part.name = some datum →
      ∃ source inner, datum = .table source inner)
    (settings : ∀ setting ∈ part.settings, (setting.chosen (at? setting.key entries)).isSome) :
    (part.place.chosen [] (givenByEntries entries) {}).isSome := by
  have leaves (leaf : Leaf σ) (member : leaf ∈ part.leaves) :
      (leaf.chosen (part.get {}) (at? [part.name, leaf.name] entries)).isSome := by
    rw [← chosen_setting]
    exact List.forall_mem_map.1 settings leaf member
  have named : part.place.name = part.name := rfl
  rw [Slot.chosen, givenByEntries, named]
  simp only [at?] at leaves
  cases here : entries.lookup part.name with
  | none => rfl
  | some datum =>
      obtain ⟨source, inner, rfl⟩ := isTable datum here
      rw [here] at leaves
      have isGiven : ∀ slot ∈ part.leaves.map Leaf.toSlot,
          (slot.chosen [part.name] (givenByEntries inner) (part.get {})).isSome :=
        List.forall_mem_map.2 fun leaf member => by
          rw [Leaf.chosen_toSlot]
          exact leaves leaf member
      obtain ⟨found, done⟩ := exists_assignGiven part.apart isGiven
      change (readSection part.title part.fields (part.get {}) [part.name]
        (.table source inner)).toOption.isSome
      rw [readSection, part.sorted, done]
      rfl

end Section

/-! ## All settings -/

def aggregatorSection : Section AggregatorSettings where
  name := "aggregator"
  title := "AggregatorSettings"
  fields := aggregatorFields
  leaves := [
    .ofText "import_anchor" AggregatorSettings.importAnchor
      fun value aggregator => { aggregator with importAnchor := value },
    .ofText "registration_anchor" AggregatorSettings.registrationAnchor
      fun value aggregator => { aggregator with registrationAnchor := value },
    .ofText "router_ident" AggregatorSettings.routerIdent
      fun value aggregator => { aggregator with routerIdent := value }]
  sorted := rfl
  apart := by simp [Slot.Apart, Leaf.ofText]
  complete := by
    rintro ⟨⟩ ⟨⟩ same
    simpa [Leaf.ofText] using same
  get := Settings.aggregator
  put value settings := { settings with aggregator := value }

def layoutSection : Section LayoutSettings where
  name := "layout"
  title := "LayoutSettings"
  fields := layoutFields
  leaves := [
    .ofText "aggregator_file" LayoutSettings.aggregatorFile
      fun value layout => { layout with aggregatorFile := value },
    .ofPath "controller_dir" LayoutSettings.controllerDir
      fun value layout => { layout with controllerDir := value },
    .ofPath "repository_dir" LayoutSettings.repositoryDir
      fun value layout => { layout with repositoryDir := value },
    .ofPath "routes_dir" LayoutSettings.routesDir
      fun value layout => { layout with routesDir := value },
    .ofPath "service_dir" LayoutSettings.serviceDir
      fun value layout => { layout with serviceDir := value },
    .ofPath "test_dir" LayoutSettings.testDir
      fun value layout => { layout with testDir := value }]
  sorted := rfl
  apart := by simp [Slot.Apart, Leaf.ofText, Leaf.ofPath]
  complete := by
    rintro ⟨⟩ ⟨⟩ same
    simp [Leaf.ofText, Leaf.ofPath] at same
    simp [same]
  get := Settings.layout
  put value settings := { settings with layout := value }

def overrideDirLeaf : Leaf TemplateSettings where
  name := "override_dir"
  Value := Option Path
  reader key datum := (readPath key datum).map some
  get := TemplateSettings.overrideDir
  put value templates := { templates with overrideDir := value }
  get_put _ _ := rfl
  put_get _ := rfl
  read datum := datum.path?.map some
  reader_toOption key datum := by
    rw [← readPath_toOption key datum]
    cases readPath key datum <;> rfl
  rejectsTables _ _ := rfl

theorem overrideDirLeaf_field :
    overrideDirLeaf.toSlot.field =
      .of "override_dir" readPath fun value templates =>
        { templates with overrideDir := some value } := by
  refine congrArg (Field.mk _) (funext₃ fun key datum current => ?_)
  change (((readPath key datum).map some).map _) = _
  cases readPath key datum <;> rfl

def templatesSection : Section TemplateSettings where
  name := "templates"
  title := "TemplateSettings"
  fields := templateFields
  leaves := [
    .ofText "auth_import" TemplateSettings.authImport
      fun value templates => { templates with authImport := value },
    .ofText "auth_middleware" TemplateSettings.authMiddleware
      fun value templates => { templates with authMiddleware := value },
    .ofText "database_import" TemplateSettings.databaseImport
      fun value templates => { templates with databaseImport := value },
    overrideDirLeaf,
    .ofText "request_import" TemplateSettings.requestImport
      fun value templates => { templates with requestImport := value },
    .ofText "request_type" TemplateSettings.requestType
      fun value templates => { templates with requestType := value }]
  sorted := by
    simp only [List.map_cons, overrideDirLeaf_field]
    rfl
  apart := by simp [Slot.Apart, Leaf.ofText, overrideDirLeaf]
  complete := by
    rintro ⟨⟩ ⟨⟩ same
    simp [Leaf.ofText, overrideDirLeaf] at same
    simp [same]
  get := Settings.templates
  put value settings := { settings with templates := value }

def verifySection : Section VerifySettings where
  name := "verify"
  title := "VerifySettings"
  fields := verifyFields
  leaves := [
    ⟨⟨"command", List String, readTexts, VerifySettings.command,
      fun value verify => { verify with command := value }, fun _ _ => rfl, fun _ => rfl⟩,
      texts?, readTexts_toOption, texts?_rejectsTables⟩,
    ⟨⟨"enabled", Bool, readBoolean, VerifySettings.enabled,
      fun value verify => { verify with enabled := value }, fun _ _ => rfl, fun _ => rfl⟩,
      truth?, readBoolean_toOption, truth?_rejectsTables⟩]
  sorted := rfl
  apart := by simp [Slot.Apart]
  complete := by
    rintro ⟨⟩ ⟨⟩ same
    simp at same
    simp [same]
  get := Settings.verify
  put value settings := { settings with verify := value }

def defaultNameLeaf : Leaf Settings :=
  .ofText "default_name" Settings.defaultName
    fun value settings => { settings with defaultName := value }

def topPlaces : Places Settings where
  slots := [aggregatorSection.place, defaultNameLeaf.toSlot, layoutSection.place,
    templatesSection.place, verifySection.place]
  apart := by
    simp [Slot.Apart, Section.place, aggregatorSection, defaultNameLeaf, Leaf.ofText, layoutSection,
      templatesSection, verifySection]
  complete := by
    rintro ⟨⟩ ⟨⟩ same
    simp [Section.place, aggregatorSection, defaultNameLeaf, Leaf.ofText, layoutSection,
      templatesSection, verifySection] at same
    simp [same]

theorem topFields_sorted : sortedByName topFields = topPlaces.slots.map Slot.field := rfl

end Settings

open Settings

def Setting.defaultName : Setting :=
  ⟨["default_name"], String, text?, text?_rejectsTables, Settings.defaultName⟩

/-- All settings of a run, in the order of their keys. -/
def Setting.all : List Setting :=
  aggregatorSection.settings ++ Setting.defaultName ::
    (layoutSection.settings ++ (templatesSection.settings ++ verifySection.settings))

example : Setting.all.map Setting.key = [
    ["aggregator", "import_anchor"], ["aggregator", "registration_anchor"],
    ["aggregator", "router_ident"], ["default_name"], ["layout", "aggregator_file"],
    ["layout", "controller_dir"], ["layout", "repository_dir"], ["layout", "routes_dir"],
    ["layout", "service_dir"], ["layout", "test_dir"], ["templates", "auth_import"],
    ["templates", "auth_middleware"], ["templates", "database_import"],
    ["templates", "override_dir"], ["templates", "request_import"], ["templates", "request_type"],
    ["verify", "command"], ["verify", "enabled"]] := rfl

/-- Every section that entries give is given as a table. -/
def Sectioned (entries : List (String × Datum)) : Prop :=
  ∀ title ∈ ["aggregator", "layout", "templates", "verify"], ∀ datum,
    entries.lookup title = some datum → ∃ source inner, datum = .table source inner

variable {entries below upper : List (String × Datum)} {settings : Settings}

instance : Decidable (Sectioned entries) :=
  decidable_of_iff
    (∀ title ∈ ["aggregator", "layout", "templates", "verify"],
      (entries.lookup title).all Datum.isTable = true)
    (forall₂_congr fun title _ => by
      rw [Option.all_eq_true]
      exact forall₂_congr fun datum _ => datum.isTable_iff)

theorem opens_pair_iff {title name : String} :
    Opens [title, name] entries ↔ ∀ datum, entries.lookup title = some datum →
      ∃ source inner, datum = .table source inner := by
  simp only [Opens, and_true]

theorem sectioned_nil : Sectioned [] := by
  intro title _ datum found
  cases found

theorem Sectioned.layer (distinct : DistinctEntries upper) (sectioned : Sectioned below)
    (sectioned' : Sectioned upper) : Sectioned (layerEntries below upper) := by
  intro title member
  have opens : Opens [title, title] below := opens_pair_iff.2 (sectioned title member)
  exact opens_pair_iff.1 (opens.layer distinct (opens_pair_iff.2 (sectioned' title member)))

theorem Sectioned.opens (sectioned : Sectioned entries) :
    ∀ setting ∈ Setting.all, Opens setting.key entries := by
  have inside {σ : Type} (part : Section σ)
      (member : part.name ∈ ["aggregator", "layout", "templates", "verify"]) :
      ∀ setting ∈ part.settings, Opens setting.key entries :=
    List.forall_mem_map.2 fun leaf _ => opens_pair_iff.2 (sectioned part.name member)
  simp only [Setting.all, List.forall_mem_cons, List.forall_mem_append]
  exact ⟨inside aggregatorSection (by decide), trivial, inside layoutSection (by decide),
    inside templatesSection (by decide), inside verifySection (by decide)⟩

theorem Setting.chosen_defaultName :
    defaultNameLeaf.toSlot.chosen [] (givenByEntries entries) {} =
      Setting.defaultName.chosen (at? Setting.defaultName.key entries) := by
  rw [Leaf.chosen_toSlot]
  change defaultNameLeaf.chosen {} (entries.lookup "default_name") =
    Setting.defaultName.chosen (entries.lookup "default_name")
  cases entries.lookup "default_name" <;> rfl

/-- Entries with tables for sections are read setting by setting. -/
theorem Settings.ofEntries_ok_iff (sectioned : Sectioned entries) :
    Settings.ofEntries entries = .ok settings ↔
      ∀ setting ∈ Setting.all,
        setting.chosen (at? setting.key entries) = some (setting.get settings) := by
  rw [Settings.ofEntries, topFields_sorted, Places.assignGiven_ok_iff]
  have top : defaultNameLeaf.toSlot.chosen [] (givenByEntries entries) {} =
      some (defaultNameLeaf.get settings) ↔
        Setting.defaultName.chosen (at? Setting.defaultName.key entries) =
          some (Setting.defaultName.get settings) := by
    rw [Setting.chosen_defaultName]
    rfl
  simp only [topPlaces, Setting.all, List.forall_mem_cons, List.forall_mem_append]
  exact and_congr (aggregatorSection.chosen_place_iff (sectioned _ (by decide))) (and_congr top
    (and_congr (layoutSection.chosen_place_iff (sectioned _ (by decide)))
      (and_congr (templatesSection.chosen_place_iff (sectioned _ (by decide)))
        ((and_iff_left (List.forall_mem_nil _)).trans
          (verifySection.chosen_place_iff (sectioned _ (by decide)))))))

theorem Settings.exists_ofEntries_iff (sectioned : Sectioned entries) :
    (∃ settings, Settings.ofEntries entries = .ok settings) ↔
      ∀ setting ∈ Setting.all, (setting.chosen (at? setting.key entries)).isSome := by
  constructor
  · rintro ⟨settings, done⟩ setting member
    rw [(Settings.ofEntries_ok_iff sectioned).1 done setting member, Option.isSome_some]
  · intro chosen
    simp only [Setting.all, List.forall_mem_cons, List.forall_mem_append] at chosen
    obtain ⟨aggregator, top, layout, templates, verify⟩ := chosen
    rw [Settings.ofEntries, topFields_sorted]
    refine exists_assignGiven topPlaces.apart ?_
    simp only [topPlaces, List.forall_mem_cons]
    refine ⟨aggregatorSection.isSome_place (sectioned _ (by decide)) aggregator, ?_,
      layoutSection.isSome_place (sectioned _ (by decide)) layout,
      templatesSection.isSome_place (sectioned _ (by decide)) templates,
      verifySection.isSome_place (sectioned _ (by decide)) verify, List.forall_mem_nil _⟩
    rw [Setting.chosen_defaultName]
    exact top

end ResourceScaffold

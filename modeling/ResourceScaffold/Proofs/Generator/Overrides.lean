import ResourceScaffold.Generator
import ResourceScaffold.Proofs.Action
import ResourceScaffold.Proofs.FileTree.Rooted
import ResourceScaffold.Proofs.Template.Independence

/-!
Contract: what the files of a directory replace, and what they leave as it is.

Owns:
- a registry that holds exactly the templates of the program, each with nodes of its own;
- the nodes of each template after a directory was gone through;
- that a template without a file in the directory renders as if there were no directory at all.

Does not own: sources that cannot be read as templates.
-/

namespace ResourceScaffold

open ResourceScaffold.Action

namespace Template

namespace Registry

variable {registry replaced plain : Registry} {nodesOf : Builtin → List Node} {directory : Path}
  {builtin : Builtin} {before after : Session}

/-! ## Templates by name -/

/-- A registry has the templates of the program and no other, each with its nodes. -/
structure Holds (registry : Registry) (nodesOf : Builtin → List Node) : Prop where
  template? : ∀ builtin, registry.template? builtin.name = some ⟨some builtin.name, nodesOf builtin⟩
  known : ∀ name, registry.hasTemplate name = true → ∃ builtin : Builtin, builtin.name = name

theorem template?_cons (name other : String) (nodes : List Node)
    (entries : List (String × List Node)) :
    template? ⟨(other, nodes) :: entries⟩ name =
      if name = other then some ⟨some name, nodes⟩ else template? ⟨entries⟩ name := by
  simp only [template?, List.lookup_cons]
  by_cases same : name = other
  · simp [same]
  · simp [same, beq_eq_false_iff_ne.2 same]

theorem ofBuiltins_holds : ofBuiltins.Holds Builtin.nodes where
  template? := template?_ofBuiltins
  known := by
    intro name has
    obtain ⟨nodes, found⟩ : ∃ nodes, ofBuiltins.entries.lookup name = some nodes := by
      rw [hasTemplate, Registry.template?, Option.isSome_map] at has
      exact Option.isSome_iff_exists.1 has
    obtain ⟨_, _, entries, -⟩ := List.lookup_eq_some_iff.1 found
    have listed : (name, nodes) ∈ ofBuiltins.entries := by simp [entries]
    simp only [ofBuiltins, List.mem_reverse, List.mem_map] at listed
    obtain ⟨builtin, -, same⟩ := listed
    exact ⟨builtin, congrArg Prod.fst same⟩

theorem Holds.hasTemplate_iff (holds : registry.Holds nodesOf) (name : String) :
    registry.hasTemplate name = true ↔ ∃ builtin : Builtin, builtin.name = name := by
  refine ⟨holds.known name, ?_⟩
  rintro ⟨builtin, rfl⟩
  rw [hasTemplate, holds.template? builtin]
  rfl

theorem Holds.render (holds : registry.Holds nodesOf) (builtin : Builtin) (data : Value) :
    registry.render builtin.name data =
      Template.render registry.template? ⟨some builtin.name, nodesOf builtin⟩ data := by
  rw [Registry.render, holds.template?]

theorem Holds.replace (holds : registry.Holds nodesOf) (builtin : Builtin) (nodes : List Node) :
    Holds ⟨(builtin.name, nodes) :: registry.entries⟩ (Function.update nodesOf builtin nodes) where
  template? other := by
    rw [template?_cons, Function.update_apply]
    by_cases same : other = builtin
    · rw [if_pos (congrArg Builtin.name same), if_pos same]
    · rw [if_neg fun names => same (Builtin.name_injective names), if_neg same]
      exact holds.template? other
  known name has := by
    rw [hasTemplate, template?_cons] at has
    split_ifs at has with same
    · exact ⟨builtin, same.symm⟩
    · exact holds.known name has

/-! ## Going through a directory -/

/-- The file of a template in a directory is read as nodes. -/
def FileReads (files : FileTree) (directory : Path) (builtin : Builtin) (nodes : List Node) : Prop :=
  ∃ source, files.readText (builtin.fileIn directory) = .ok source ∧ ofSource source = .ok nodes

theorem replaceBuiltin_eq_ok {source : String}
    (registered : registry.replaceBuiltin builtin source = .ok replaced) :
    ∃ nodes, ofSource source = .ok nodes ∧
      replaced = ⟨(builtin.name, nodes) :: registry.entries⟩ := by
  rw [replaceBuiltin, register] at registered
  cases read : ofSource source with
  | ok nodes =>
      rw [read] at registered
      cases registered
      exact ⟨nodes, rfl, rfl⟩
  | error fault =>
      rw [read] at registered
      cases registered

/-- One step replaces the nodes of a template by those of its file, if there is one. -/
theorem replaceFrom_ok
    (ran : replaceFrom directory registry builtin before = .ok replaced after) :
    after.files = before.files ∧
      ((before.files.isFile (builtin.fileIn directory) = false ∧ replaced = registry) ∨
        ∃ nodes, before.files.isFile (builtin.fileIn directory) = true ∧
          FileReads before.files directory builtin nodes ∧
          replaced = ⟨(builtin.name, nodes) :: registry.entries⟩) := by
  unfold replaceFrom at ran
  rw [bind_of_ok (files_run before)] at ran
  cases isFile : before.files.isFile (builtin.fileIn directory) with
  | false =>
      rw [if_neg (by rw [isFile]; nofun)] at ran
      cases ran
      exact ⟨rfl, Or.inl ⟨rfl, rfl⟩⟩
  | true =>
      rw [if_pos isFile] at ran
      obtain ⟨source, _, read, registers⟩ := bind_eq_ok_iff.1 ran
      obtain ⟨text, rfl⟩ := reading_eq_ok_iff.1 read
      obtain ⟨next, _, made, notes⟩ := bind_eq_ok_iff.1 registers
      obtain ⟨registered, rfl⟩ := ofExcept_eq_ok_iff.1 made
      rw [bind_of_ok (note_run _ _)] at notes
      cases notes
      obtain ⟨nodes, nodesRead, rfl⟩ := replaceBuiltin_eq_ok registered
      exact ⟨rfl, Or.inr ⟨nodes, rfl, ⟨source, text, nodesRead⟩, rfl⟩⟩

/-- The nodes after some templates were gone through: those of the file of each, if it has one. -/
structure Replaces (files : FileTree) (directory : Path) (builtins : List Builtin)
    (nodesOf nodesOf' : Builtin → List Node) : Prop where
  withoutFile : ∀ builtin : Builtin, files.isFile (builtin.fileIn directory) = false →
    nodesOf' builtin = nodesOf builtin
  withFile : ∀ builtin ∈ builtins, files.isFile (builtin.fileIn directory) = true →
    FileReads files directory builtin (nodesOf' builtin)
  others : ∀ builtin ∉ builtins, nodesOf' builtin = nodesOf builtin

theorem Replaces.nil (files : FileTree) (directory : Path) (nodesOf : Builtin → List Node) :
    Replaces files directory [] nodesOf nodesOf :=
  ⟨fun _ _ => rfl, nofun, fun _ _ => rfl⟩

theorem Replaces.consWithoutFile {files : FileTree} {builtins : List Builtin}
    {nodesOf' : Builtin → List Node} (noFile : files.isFile (builtin.fileIn directory) = false)
    (rest : Replaces files directory builtins nodesOf nodesOf') :
    Replaces files directory (builtin :: builtins) nodesOf nodesOf' where
  withoutFile := rest.withoutFile
  withFile := by
    rintro other member isFile
    rcases List.mem_cons.1 member with rfl | later
    · rw [noFile] at isFile
      cases isFile
    · exact rest.withFile other later isFile
  others other absent := rest.others other fun later => absent (List.mem_cons_of_mem _ later)

/-- A template that has a file has its nodes, or those that it is replaced by later. -/
theorem Replaces.consWithFile {files : FileTree} {builtins : List Builtin} {nodes : List Node}
    {nodesOf' : Builtin → List Node} (isFile : files.isFile (builtin.fileIn directory) = true)
    (reads : FileReads files directory builtin nodes)
    (rest : Replaces files directory builtins (Function.update nodesOf builtin nodes) nodesOf') :
    Replaces files directory (builtin :: builtins) nodesOf nodesOf' where
  withoutFile other noFile := by
    have different : other ≠ builtin := by
      rintro rfl
      rw [isFile] at noFile
      cases noFile
    rw [rest.withoutFile other noFile, Function.update_of_ne different]
  withFile other member otherIsFile := by
    by_cases later : other ∈ builtins
    · exact rest.withFile other later otherIsFile
    · obtain rfl : other = builtin := (List.mem_cons.1 member).resolve_right later
      rwa [rest.others other later, Function.update_self]
  others other absent := by
    rw [List.mem_cons, not_or] at absent
    rw [rest.others other absent.2, Function.update_of_ne absent.1]

theorem foldlM_replaceFrom_holds {builtins : List Builtin} (holds : registry.Holds nodesOf)
    (ran : builtins.foldlM (replaceFrom directory) registry before = .ok replaced after) :
    ∃ nodesOf', replaced.Holds nodesOf' ∧
      Replaces before.files directory builtins nodesOf nodesOf' := by
  induction builtins generalizing registry nodesOf before with
  | nil =>
      cases ran
      exact ⟨nodesOf, holds, .nil _ directory nodesOf⟩
  | cons builtin rest inductionHypothesis =>
      rw [List.foldlM_cons] at ran
      obtain ⟨next, middle, step, run⟩ := bind_eq_ok_iff.1 ran
      obtain ⟨files, ⟨noFile, rfl⟩ | ⟨nodes, isFile, reads, rfl⟩⟩ := replaceFrom_ok step
      · obtain ⟨nodesOf', ends, replaces⟩ := inductionHypothesis holds run
        rw [files] at replaces
        exact ⟨nodesOf', ends, replaces.consWithoutFile noFile⟩
      · obtain ⟨nodesOf', ends, replaces⟩ := inductionHypothesis (holds.replace builtin nodes) run
        rw [files] at replaces
        exact ⟨nodesOf', ends, replaces.consWithFile isFile reads⟩

theorem withOverrides_holds
    (ran : withOverrides directory before = .ok registry after) :
    ∃ nodesOf, registry.Holds nodesOf ∧
      Replaces before.files directory Builtin.all Builtin.nodes nodesOf := by
  obtain ⟨plain, _, made, folds⟩ := bind_eq_ok_iff.1 ran
  obtain ⟨isPlain, rfl⟩ := ofExcept_eq_ok_iff.1 made
  rw [standard_eq] at isPlain
  cases isPlain
  exact foldlM_replaceFrom_holds ofBuiltins_holds folds

/-- Each template without a file in the directory renders as the standard one. -/
theorem render_of_noFile (ran : withOverrides directory before = .ok registry after)
    (noFile : before.files.isFile (builtin.fileIn directory) = false) (data : Value) :
    registry.render builtin.name data = ofBuiltins.render builtin.name data := by
  obtain ⟨nodesOf, holds, replaces⟩ := withOverrides_holds ran
  refine render_of_nodes ?_ data
  rw [holds.template?, replaces.withoutFile builtin noFile]

/-! ## Directories whose files can be read -/

theorem exists_replaceFrom (registry : Registry)
    (readable : before.files.isFile (builtin.fileIn directory) = true →
      ∃ nodes, FileReads before.files directory builtin nodes) :
    ∃ replaced after, replaceFrom directory registry builtin before = .ok replaced after := by
  unfold replaceFrom
  rw [bind_of_ok (files_run before)]
  split_ifs with isFile
  · obtain ⟨nodes, source, text, nodesRead⟩ := readable isFile
    have registered : registry.replaceBuiltin builtin source =
        .ok ⟨(builtin.name, nodes) :: registry.entries⟩ := by
      rw [replaceBuiltin, register, nodesRead]
      rfl
    rw [bind_of_ok (reading_eq_ok_iff.2 ⟨text, rfl⟩), registered,
      bind_of_ok (ofExcept_ok_run _ _), bind_of_ok (note_run _ _)]
    exact ⟨_, _, rfl⟩
  · exact ⟨registry, before, rfl⟩

theorem exists_foldlM_replaceFrom (builtins : List Builtin) (registry : Registry)
    (readable : ∀ builtin : Builtin, before.files.isFile (builtin.fileIn directory) = true →
      ∃ nodes, FileReads before.files directory builtin nodes) :
    ∃ replaced after,
      builtins.foldlM (replaceFrom directory) registry before = .ok replaced after := by
  induction builtins generalizing registry before with
  | nil => exact ⟨registry, before, rfl⟩
  | cons builtin rest inductionHypothesis =>
      rw [List.foldlM_cons]
      obtain ⟨next, middle, step⟩ := exists_replaceFrom registry (readable builtin)
      have files := (replaceFrom_ok step).1
      rw [bind_of_ok step]
      exact inductionHypothesis next (by rwa [files])

theorem exists_withOverrides (directory : Path) (before : Session)
    (readable : ∀ builtin : Builtin, before.files.isFile (builtin.fileIn directory) = true →
      ∃ nodes, FileReads before.files directory builtin nodes) :
    ∃ registry after, withOverrides directory before = .ok registry after := by
  rw [withOverrides, standard_eq, bind_of_ok (ofExcept_ok_run _ _)]
  exact exists_foldlM_replaceFrom Builtin.all ofBuiltins readable

end Registry

end Template

open Template

namespace Generator

variable {name : ResourceName} {settings : Settings} {directory : Path} {before after : Session}
  {overridden : Generator}

/-! ## Generated files -/

def withoutOverrides (settings : Settings) : Settings :=
  { settings with templates := { settings.templates with overrideDir := none } }

theorem create_of_overrideDir {registry : Registry}
    (ran : Registry.withOverrides directory before = .ok registry after)
    (asks : settings.templates.overrideDir = some directory) (name : ResourceName) :
    create name settings before = .ok ⟨name, settings, registry⟩ after := by
  rw [create, asks]
  exact bind_of_ok ran

theorem create_withoutOverrides (name : ResourceName) (settings : Settings) (before : Session) :
    create name (withoutOverrides settings) before =
      .ok ⟨name, withoutOverrides settings, Registry.ofBuiltins⟩ before := by
  rw [create, withoutOverrides, Registry.standard_eq]
  rfl

/-- What is rendered depends on the settings only by what the templates see. -/
theorem renderTemplate_withoutOverrides {registry : Registry}
    (ran : Registry.withOverrides directory before = .ok registry after) (builtin : Builtin)
    (noFile : before.files.isFile (builtin.fileIn directory) = false) (name : ResourceName)
    (settings : Settings) :
    renderTemplate ⟨name, settings, registry⟩ builtin =
      renderTemplate ⟨name, withoutOverrides settings, Registry.ofBuiltins⟩ builtin := by
  have sameData : context ⟨name, settings, registry⟩ =
      context ⟨name, withoutOverrides settings, Registry.ofBuiltins⟩ := rfl
  rw [renderTemplate, renderTemplate, sameData, Registry.render_of_noFile ran noFile]

/-- A registry with the files of a directory has the templates of the program and no other. One that
has no file there renders all data as the standard registry does; one that has a file renders what
that file is read as. So the generated files and the insertions whose templates have no file are those
that are made without the directory. -/
theorem overrides_replace_only_their_templates {registry : Registry}
    (ran : Registry.withOverrides directory before = .ok registry after) :
    (∀ template, registry.hasTemplate template = true ↔
        ∃ builtin : Builtin, builtin.name = template) ∧
      (∃ plain, Registry.standard = .ok plain ∧
        ∀ builtin : Builtin, before.files.isFile (builtin.fileIn directory) = false →
          ∀ data, registry.render builtin.name data = plain.render builtin.name data) ∧
      (∀ builtin : Builtin, before.files.isFile (builtin.fileIn directory) = true →
        ∃ source nodes, before.files.readText (builtin.fileIn directory) = .ok source ∧
          ofSource source = .ok nodes ∧
          ∀ data, registry.render builtin.name data =
            Template.render registry.template? ⟨some builtin.name, nodes⟩ data) ∧
      ∀ name settings, settings.templates.overrideDir = some directory →
        ∃ replacing plain, create name settings before = .ok replacing after ∧
          create name (withoutOverrides settings) before = .ok plain before ∧
          (∀ layer : Layer, before.files.isFile (layer.template.fileIn directory) = false →
            replacing.generateLayer layer = plain.generateLayer layer) ∧
          (before.files.isFile (Builtin.aggregatorImport.fileIn directory) = false →
            before.files.isFile (Builtin.aggregatorRegistration.fileIn directory) = false →
              replacing.aggregatorSplice = plain.aggregatorSplice) := by
  obtain ⟨nodesOf, holds, replaces⟩ := Registry.withOverrides_holds ran
  refine ⟨holds.hasTemplate_iff, ⟨Registry.ofBuiltins, Registry.standard_eq, ?_⟩, ?_, ?_⟩
  · intro builtin noFile
    exact Registry.render_of_noFile ran noFile
  · intro builtin isFile
    obtain ⟨source, text, nodesRead⟩ := replaces.withFile builtin builtin.mem_all isFile
    exact ⟨source, nodesOf builtin, text, nodesRead, holds.render builtin⟩
  · intro name settings asks
    have same := fun builtin noFile =>
      renderTemplate_withoutOverrides ran builtin noFile name settings
    refine ⟨_, _, create_of_overrideDir ran asks name, create_withoutOverrides name settings before,
      fun layer noFile => ?_, fun noImport noRegistration => ?_⟩
    · rw [generateLayer, generateLayer, same layer.template noFile]
      rfl
    · rw [aggregatorSplice, aggregatorSplice, same _ noImport, same _ noRegistration]
      rfl

/-! ## A directory with one template -/

/-- A directory with a service template that embeds the route template, a file that is no template of
the program, and a directory that is named as one. -/
def templatesProject : Session where
  files :=
    { workingDirectory := ["work"]
      nodes := [(["work"], .directory), (["work", "templates"], .directory),
        (["work", "templates", "service.hbs"],
          .file "\x7b\x7b> route\x7d\x7d// \x7b\x7bpascal\x7d\x7d\n".toUTF8),
        (["work", "templates", "model.hbs"], .file "\x7b\x7b".toUTF8),
        (["work", "templates", "test.hbs"], .directory)] }

theorem templatesProject_isFile_iff (builtin : Builtin) :
    templatesProject.files.isFile (builtin.fileIn ⟨"templates"⟩) = true ↔ builtin = .service := by
  cases builtin <;> decide +kernel

theorem templatesProject_fileReads :
    ∃ nodes, Registry.FileReads templatesProject.files ⟨"templates"⟩ .service nodes := by
  have text : templatesProject.files.readText (Builtin.service.fileIn ⟨"templates"⟩) =
      .ok "\x7b\x7b> route\x7d\x7d// \x7b\x7bpascal\x7d\x7d\n" := by
    refine FileTree.readText_eq_ok_iff.2 ⟨_, ?_, FileTree.fromUTF8?_toUTF8 _⟩
    decide +kernel
  have isRead : (ofSource "\x7b\x7b> route\x7d\x7d// \x7b\x7bpascal\x7d\x7d\n").toBool = true := by
    decide +kernel
  cases nodesRead : ofSource "\x7b\x7b> route\x7d\x7d// \x7b\x7bpascal\x7d\x7d\n" with
  | ok nodes => exact ⟨nodes, _, text, nodesRead⟩
  | error fault =>
      rw [nodesRead] at isRead
      cases isRead

/-- Only the service template is replaced there; the route template is the standard one, also for
data that it cannot be rendered with. -/
theorem templatesProject_replaces_service :
    ∃ registry after, Registry.withOverrides ⟨"templates"⟩ templatesProject = .ok registry after ∧
      registry.hasTemplate "model" = false ∧
      (∃ plain, Registry.standard = .ok plain ∧
        ∀ data, registry.render "route" data = plain.render "route" data) ∧
      ∃ source nodes,
        templatesProject.files.readText ⟨"templates/service.hbs"⟩ = .ok source ∧
          ofSource source = .ok nodes ∧
          ∀ data, registry.render "service" data =
            Template.render registry.template? ⟨some "service", nodes⟩ data := by
  obtain ⟨registry, after, ran⟩ :=
    Registry.exists_withOverrides ⟨"templates"⟩ templatesProject fun builtin isFile => by
      rw [templatesProject_isFile_iff] at isFile
      rw [isFile]
      exact templatesProject_fileReads
  obtain ⟨known, ⟨plain, isPlain, unreplaced⟩, replaced, -⟩ :=
    overrides_replace_only_their_templates ran
  refine ⟨registry, after, ran, ?_, ⟨plain, isPlain, unreplaced .route ?_⟩, replaced .service ?_⟩
  · rw [Bool.eq_false_iff, ne_eq, known]
    rintro ⟨builtin, same⟩
    cases builtin <;> simp [Builtin.name] at same
  · rw [Bool.eq_false_iff, ne_eq, templatesProject_isFile_iff]
    decide
  · rw [templatesProject_isFile_iff]

end Generator

end ResourceScaffold

import ResourceScaffold.Proofs.Generator.FileNames
import ResourceScaffold.Proofs.Generator.Statements
import ResourceScaffold.Proofs.Path.Lexical

/-!
Contract: where the imports between the generated files lead.

Owns:
- the file that an import leads to, as far as paths tell;
- that all imports lead to the files that export what they name, exactly if the directories of the
  layers lie as the templates expect;
- that the conventional layout is of this kind, and that another directory for controllers is not.

Does not own: whether the files are written.
-/

namespace ResourceScaffold

open Template Text

/-! ## Imports that lead to files -/

def Path.resolved (file : Path) (specifier : String) : Course :=
  (file.directory.join ⟨specifier ++ ".ts"⟩).course

/-- Every import of a class or router of the resource, in a generated file or in the insertion into
the aggregator, leads to the generated file that exports it. -/
def ImportsResolve (name : ResourceName) (aggregator : Path) (splice : AggregatorSplice)
    (files : List GeneratedFile) : Prop :=
  ∀ source ∈ (aggregator, splice.importSnippet) :: files.map fun file => (file.path, file.content),
    ∀ layer identifier specifier, name.exported? layer = some identifier → IsRelative specifier →
      Imports source.2 identifier specifier →
      ∃ file ∈ files, Exports file.content identifier ∧
        file.path.course = source.1.resolved specifier

namespace Generator

variable {name : ResourceName} {settings : Settings}

/-- The file that the text of a template goes into. -/
def fileFor (generator : Generator) : Builtin → Path
  | .route => generator.pathFor .route
  | .controller => generator.pathFor .controller
  | .service => generator.pathFor .service
  | .repository => generator.pathFor .repository
  | .test => generator.pathFor .test
  | .aggregatorImport | .aggregatorRegistration => generator.aggregatorPath

/-- The directory that the imports of a template are seen from. -/
def importingDirectory (generator : Generator) : Builtin → Path
  | .route => generator.directoryOf .route
  | .controller => generator.directoryOf .controller
  | .service => generator.directoryOf .service
  | .repository => generator.directoryOf .repository
  | .test => generator.directoryOf .test
  | .aggregatorImport | .aggregatorRegistration => generator.aggregatorPath.directory

/-- Whether the directories of the layers lie, seen from each other and from the aggregator, where the
templates expect them. -/
def DirectoriesFit (generator : Generator) : Prop :=
  ∀ builtin ∈ Builtin.all, ∀ entry ∈ builtin.imports,
    ((generator.importingDirectory builtin).join ⟨entry.1⟩).course =
      (generator.directoryOf entry.2).course

instance (generator : Generator) : Decidable generator.DirectoriesFit :=
  inferInstanceAs (Decidable (∀ builtin ∈ Builtin.all, ∀ entry ∈ builtin.imports, _ = _))

theorem course_pathFor {generator : Generator} (isName : IsIdentifier generator.name.camel)
    (layer : Layer) :
    (generator.pathFor layer).course =
        (generator.directoryOf layer).course.step (generator.fileNameOf layer).toList ∧
      (generator.pathFor layer).directory.course = (generator.directoryOf layer).course := by
  have whole := slash_notMem_fileNameOf isName layer
  have busy := (generator.fileNameOf_busy layer).1
  exact ⟨Path.course_join_file _ whole busy, Path.course_directory_join _ whole busy⟩

theorem course_directory_fileFor {generator : Generator}
    (isName : IsIdentifier generator.name.camel) (builtin : Builtin) :
    (generator.fileFor builtin).directory.course =
      (generator.importingDirectory builtin).course := by
  cases builtin with
  | aggregatorImport => rfl
  | aggregatorRegistration => rfl
  | _ => exact (course_pathFor isName _).2

/-- What templates expect of a directory is written as a step up or as staying. -/
theorem expected_directory {builtin : Builtin} {entry : String × Layer}
    (isEntry : entry ∈ builtin.imports) :
    Path.isAbsolute ⟨entry.1⟩ = false ∧ Path.isAbsolute ⟨entry.1 ++ "/"⟩ = false ∧
      (['.', '/'] <+: (entry.1 ++ "/").toList ∨ ['.', '.', '/'] <+: (entry.1 ++ "/").toList) := by
  have checked : ∀ builtin ∈ Builtin.all, ∀ entry ∈ builtin.imports,
      Path.isAbsolute ⟨entry.1⟩ = false ∧ Path.isAbsolute ⟨entry.1 ++ "/"⟩ = false ∧
        (['.', '/'] <+: (entry.1 ++ "/").toList ∨
          ['.', '.', '/'] <+: (entry.1 ++ "/").toList) := by
    decide +kernel
  exact checked builtin builtin.mem_all entry isEntry

/-- An import of a template leads into the directory that the template expects, to a file that is
named as the imported layer's is. -/
theorem resolved_fileFor {generator : Generator} (isName : IsIdentifier generator.name.camel)
    {builtin : Builtin} {entry : String × Layer} (isEntry : entry ∈ builtin.imports) :
    (generator.fileFor builtin).resolved (entry.1 ++ "/" ++ generator.name.moduleOf entry.2) =
      ((generator.importingDirectory builtin).join ⟨entry.1⟩).course.step
        (generator.fileNameOf entry.2).toList := by
  obtain ⟨relative, relative', -⟩ := expected_directory isEntry
  have module : generator.name.moduleOf entry.2 ++ ".ts" = generator.fileNameOf entry.2 := by
    refine String.toList_inj.1 ?_
    cases entry.2 <;> simp [ResourceName.moduleOf, fileNameOf]
  have named : entry.1 ++ "/" ++ generator.name.moduleOf entry.2 ++ ".ts" =
      entry.1 ++ "/" ++ generator.fileNameOf entry.2 := by
    rw [String.append_assoc, module]
  rw [Path.resolved, named, Path.course_join_behind _ relative' (slash_notMem_fileNameOf isName _)
      (generator.fileNameOf_busy _).1,
    Path.course_join_congr (course_directory_fileFor isName builtin) relative]

/-- The files that text is generated for are the aggregator and the files of the layers. -/
theorem mem_sources {source : Path × String} :
    source ∈ ((standard name settings).aggregatorPath, (spliceOf name settings).importSnippet) ::
        (Layer.all.map (standard name settings).fileOf).map
          (fun file => (file.path, file.content)) ↔
      ∃ builtin, builtin ≠ .aggregatorRegistration ∧
        source = ((standard name settings).fileFor builtin,
          String.ofList ((standard name settings).contentOf builtin)) := by
  have snippet : (spliceOf name settings).importSnippet =
      String.ofList ((standard name settings).contentOf .aggregatorImport) := by
    have rendered := renderTemplate_eq name settings .aggregatorImport
    rw [renderTemplate_aggregatorImport] at rendered
    exact Except.ok.inj rendered
  rw [snippet, List.map_map, List.mem_cons, List.mem_map]
  constructor
  · rintro (rfl | ⟨layer, -, rfl⟩)
    · exact ⟨.aggregatorImport, by decide, rfl⟩
    · refine ⟨layer.template, by cases layer <;> decide, ?_⟩
      cases layer <;> rfl
  · rintro ⟨builtin, isImporter, rfl⟩
    cases builtin with
    | aggregatorImport => exact Or.inl rfl
    | aggregatorRegistration => exact absurd rfl isImporter
    | route => exact Or.inr ⟨.route, Layer.mem_all _, rfl⟩
    | controller => exact Or.inr ⟨.controller, Layer.mem_all _, rfl⟩
    | service => exact Or.inr ⟨.service, Layer.mem_all _, rfl⟩
    | repository => exact Or.inr ⟨.repository, Layer.mem_all _, rfl⟩
    | test => exact Or.inr ⟨.test, Layer.mem_all _, rfl⟩

/-- The imports lead to the files exactly if the directories lie as the templates expect. -/
theorem importsResolve_iff (isName : IsIdentifier name.camel)
    (leaves : settings.templates.LeavesImports name) :
    ImportsResolve name (standard name settings).aggregatorPath (spliceOf name settings)
        (Layer.all.map (standard name settings).fileOf) ↔
      (standard name settings).DirectoriesFit := by
  have isName' : IsIdentifier (standard name settings).name.camel := isName
  constructor
  · intro resolves builtin isBuiltin entry isEntry
    have isImporter : builtin ≠ .aggregatorRegistration := by
      rintro rfl
      cases isEntry
    obtain ⟨identifier, exported⟩ := exported?_of_mem_imports name isEntry
    have relative : IsRelative (entry.1 ++ "/" ++ name.moduleOf entry.2) := by
      rw [IsRelative, String.toList_append]
      exact (expected_directory isEntry).2.2.imp (·.trans (List.prefix_append _ _))
        (·.trans (List.prefix_append _ _))
    obtain ⟨file, isFile, -, leads⟩ := resolves _ (mem_sources.2 ⟨builtin, isImporter, rfl⟩)
      entry.2 identifier _ exported relative (imports_contentOf isName leaves isEntry exported)
    obtain ⟨layer, -, rfl⟩ := List.mem_map.1 isFile
    have leads' : ((standard name settings).pathFor layer).course =
        ((standard name settings).fileFor builtin).resolved
          (entry.1 ++ "/" ++ (standard name settings).name.moduleOf entry.2) := leads
    rw [(course_pathFor isName' layer).1, resolved_fileFor isName' isEntry] at leads'
    -- Only the imported layer's own file has the name that the import ends in.
    obtain rfl : layer = entry.2 := fileNameOf_inj (Course.eq_of_step_eq
      (fileNameOf_busy _ _).2 (fileNameOf_busy _ _).2 leads')
    exact ((Course.step_inj (fileNameOf_busy _ _).2).1 leads').symm
  · intro fits source isSource layer identifier specifier exported relative imports
    obtain ⟨builtin, isImporter, rfl⟩ := mem_sources.1 isSource
    obtain ⟨entry, isEntry, exported', rfl⟩ :=
      exists_import isName leaves isImporter exported relative imports
    refine ⟨(standard name settings).fileOf entry.2, List.mem_map_of_mem (Layer.mem_all _),
      exports_contentOf isName leaves exported', ?_⟩
    have leads : ((standard name settings).pathFor entry.2).course =
        ((standard name settings).fileFor builtin).resolved
          (entry.1 ++ "/" ++ (standard name settings).name.moduleOf entry.2) := by
      rw [(course_pathFor isName' entry.2).1, resolved_fileFor isName' isEntry,
        fits builtin builtin.mem_all entry isEntry]
    exact leads

/-! ## Conventional settings -/

/-- The texts of the conventional settings import nothing of the resource. -/
theorem conventional_leavesImports (isName : IsIdentifier name.camel) :
    TemplateSettings.LeavesImports {} name where
  imports text isText layer identifier specifier exported relative imports := by
    have oneLine : ∀ text ∈ [({} : TemplateSettings).authImport, ({} : TemplateSettings).requestImport,
        ({} : TemplateSettings).databaseImport], '\n' ∉ text.toList := by
      decide +kernel
    rw [Imports, splitOn_of_notMem (oneLine text isText), List.mem_singleton] at imports
    have leads : "import \x7b ".toList <+: text.toList := by
      rw [← imports, importStatement_toList]
      exact List.prefix_append _ _
    simp only [List.mem_cons, List.not_mem_nil, or_false] at isText
    rcases isText with rfl | rfl | rfl
    · exact absurd leads (by decide +kernel)
    · have statement : "import \x7b CustomRequest \x7d from '../../types/custom';" =
          importStatement "CustomRequest" "../../types/custom" := by
        decide +kernel
      rw [statement] at imports
      obtain ⟨rfl, -⟩ := importStatement_inj
        (ResourceName.notMem_exported isName exported ' ' (by decide)) (by decide +kernel) imports
      obtain ⟨ending, isEnding, ends⟩ := ResourceName.exported?_endsIn exported
      revert ending
      decide +kernel
    · exact absurd leads (by decide +kernel)
  middleware := by decide
  requestType := by decide +kernel

theorem directoriesFit_congr {first second : Generator}
    (same : first.settings.layout = second.settings.layout) :
    first.DirectoriesFit ↔ second.DirectoriesFit := by
  have directories : first.directoryOf = second.directoryOf := by
    funext layer
    cases layer <;> simp only [directoryOf, same]
  have aggregator : first.aggregatorPath = second.aggregatorPath := by
    rw [aggregatorPath, aggregatorPath, same]
  have importing : first.importingDirectory = second.importingDirectory := by
    funext builtin
    cases builtin <;> simp only [importingDirectory, directories, aggregator]
  rw [DirectoriesFit, DirectoriesFit, directories, importing]

/-- In the conventional layout the directories lie as the templates expect. -/
theorem conventional_directoriesFit (name : ResourceName) : (standard name {}).DirectoriesFit := by
  have order : (standard orderName {}).DirectoriesFit := by decide +kernel
  exact (directoriesFit_congr rfl).1 order

/-- With the conventional settings, the imports lead to the files for every name. -/
theorem conventional_importsResolve (isName : IsIdentifier name.camel) :
    ImportsResolve name (standard name {}).aggregatorPath (spliceOf name {})
      (Layer.all.map (standard name {}).fileOf) :=
  (importsResolve_iff isName (conventional_leavesImports isName)).2
    (conventional_directoriesFit name)

/-! ## Generators -/

/-- With the templates that come with the program, all files and the insertions are generated, and
every import of the resource's own classes and router leads to the file that exports it if and only if
the directories lie as the templates expect. -/
theorem create_imports_iff (isName : IsIdentifier name.camel)
    (plain : settings.templates.overrideDir = none)
    (leaves : settings.templates.LeavesImports name) (session : Session) :
    create name settings session = .ok (standard name settings) session ∧
      ∃ files splice, (standard name settings).generate = .ok files ∧
        (standard name settings).aggregatorSplice = .ok splice ∧
        (ImportsResolve name (standard name settings).aggregatorPath splice files ↔
          (standard name settings).DirectoriesFit) :=
  ⟨create_run name plain session, _, _, generate_eq name settings,
    aggregatorSplice_standard name settings, importsResolve_iff isName leaves⟩

/-- A session in a file tree without any file. -/
def blankSession : Session where
  files := { workingDirectory := [], nodes := [] }

/-- The imports between the files for orders, in the conventional layout. -/
theorem create_imports_iff_order :
    create orderName {} blankSession = .ok (standard orderName {}) blankSession ∧
      ∃ files splice, (standard orderName {}).generate = .ok files ∧
        (standard orderName {}).aggregatorSplice = .ok splice ∧
        (ImportsResolve orderName (standard orderName {}).aggregatorPath splice files ↔
          (standard orderName {}).DirectoriesFit) := by
  have isName : IsIdentifier orderName.camel := ⟨by decide, by decide⟩
  exact create_imports_iff isName rfl (conventional_leavesImports isName) _

/-! ## Another directory for controllers -/

/-- The conventional settings, with another directory for the controllers. -/
def pluralSettings : Settings :=
  { layout := { controllerDir := ⟨"src/controllers"⟩ } }

/-- The route and the test go on importing the controller from the conventional directory. -/
theorem not_importsResolve_plural :
    IsIdentifier orderName.camel ∧
      ∃ files splice, (standard orderName pluralSettings).generate = .ok files ∧
        (standard orderName pluralSettings).aggregatorSplice = .ok splice ∧
        ¬ ImportsResolve orderName (standard orderName pluralSettings).aggregatorPath splice files := by
  have isName : IsIdentifier orderName.camel := ⟨by decide, by decide⟩
  have leaves : pluralSettings.templates.LeavesImports orderName :=
    conventional_leavesImports isName
  have misplaced : ¬ (standard orderName pluralSettings).DirectoriesFit := by
    decide +kernel
  exact ⟨isName, _, _, generate_eq orderName pluralSettings,
    aggregatorSplice_standard orderName pluralSettings,
    fun resolves => misplaced ((importsResolve_iff isName leaves).1 resolves)⟩

end Generator

end ResourceScaffold

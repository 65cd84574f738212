import ResourceScaffold.Proofs.Apply.Backup
import ResourceScaffold.Proofs.FileTree.Rooted
import ResourceScaffold.Proofs.Generator.Contents
import ResourceScaffold.Proofs.Generator.FileNames

/-!
Contract: the paths that runs with the default settings touch.

Owns:
- paths of one depth, whose places are apart if they are different;
- the aggregator, the files of the layers and their backups as such paths;
- that backups are neither of the others, and that the aggregator is no file of a layer;
- a project to try runs on.

Does not own: what becomes of the paths.
-/

namespace ResourceScaffold

open FileTree Text

/-! ## Paths of one depth -/

/-- A relative path of three names, none of which is a step up. -/
structure IsTarget (path : Path) : Prop where
  relative : path.isAbsolute = false
  plain : path.IsPlain
  busy : Path.endsIdle path.segments = false
  depth : path.names.length = 3

theorem IsTarget.apart {first second : Path} (isTarget : IsTarget first)
    (isTarget' : IsTarget second) (different : first.names ≠ second.names) (tree : FileTree)
    (root : Path) : Apart (tree.placeBelow root first) (tree.placeBelow root second) := by
  have equal {left right : Path} (sameDepth : left.names.length = right.names.length)
      (leads : tree.placeBelow root left <+: tree.placeBelow root right) :
      left.names = right.names := by
    rw [placeBelow, placeBelow, List.prefix_append_right_inj] at leads
    have same := leads.eq_of_length (by simpa using sameDepth)
    exact List.map_injective_iff.2 (fun _ _ => String.ofList_inj.1) same
  exact ⟨fun leads => different (equal (isTarget.depth.trans isTarget'.depth.symm) leads),
    fun leads => different (equal (isTarget'.depth.trans isTarget.depth.symm) leads).symm⟩

theorem isTarget_join {directory : Path} (relative : directory.isAbsolute = false)
    (plain : directory.IsPlain) (two : directory.names.length = 2) {fileName : String}
    (whole : '/' ∉ fileName.toList) (busy : Path.isIdle fileName.toList = false)
    (noStepUp : fileName.toList ≠ ['.', '.']) :
    IsTarget (directory.join ⟨fileName⟩) ∧
      (directory.join ⟨fileName⟩).names = directory.names ++ [fileName.toList] := by
  have relativeName := Path.isAbsolute_of_notMem whole
  have single : Path.segments ⟨fileName⟩ = [fileName.toList] := splitOn_of_notMem whole
  have names : (directory.join ⟨fileName⟩).names = directory.names ++ [fileName.toList] := by
    rw [Path.names_join_of_relative directory relativeName, Path.names_of_isIdle whole busy]
  refine ⟨⟨?_, plain.join ?_, ?_, ?_⟩, names⟩
  · rwa [Path.isAbsolute_join_of_relative directory relativeName]
  · rw [Path.IsPlain, single, List.mem_singleton]
    exact Ne.symm noStepUp
  · rw [Path.endsIdle_join, single, Path.endsIdle, List.getLast?_singleton, Option.any_some, busy]
  · rw [names, List.length_append, two, List.length_singleton]

/-- The last name of a path ends in a text. -/
def EndsIn (path : Path) (ending : List Char) : Prop :=
  ∃ last, path.names.getLast? = some last ∧ ending <:+ last

/-- Paths whose names end in texts of which neither is the end of the other one are different. -/
theorem EndsIn.names_ne {first second : Path} {ending ending' : List Char}
    (ends : EndsIn first ending) (ends' : EndsIn second ending') (foreign : ¬ending <:+ ending')
    (foreign' : ¬ending' <:+ ending) : first.names ≠ second.names := by
  obtain ⟨last, found, inner⟩ := ends
  obtain ⟨last', found', inner'⟩ := ends'
  intro same
  rw [same, found', Option.some.injEq] at found
  subst found
  exact (List.suffix_or_suffix_of_suffix inner inner').elim foreign foreign'

/-- The backup of a target is a target, with a name that ends in `.bak`. -/
theorem IsTarget.backup {path : Path} (isTarget : IsTarget path) {time : String}
    (digits : ∀ character ∈ time.toList, character.isDigit = true) :
    IsTarget (backupPath path time) ∧ EndsIn (backupPath path time) ".bak".toList := by
  obtain ⟨names, absolute, plain, busy⟩ := backupPath_spec isTarget.plain digits
  refine ⟨⟨absolute.trans isTarget.relative, plain, busy, ?_⟩, ?_⟩
  · rw [names, List.length_append, List.length_dropLast, isTarget.depth]
    rfl
  · refine ⟨_, by rw [names, List.getLast?_concat], ?_⟩
    rw [backupName, String.toList_append]
    exact List.suffix_append _ _

/-- A target whose name ends in `.ts`. -/
structure IsSource (path : Path) : Prop extends IsTarget path where
  ends : EndsIn path ".ts".toList

theorem IsSource.ne_backup {path backup : Path} (isSource : IsSource path)
    (ends : EndsIn backup ".bak".toList) : path.names ≠ backup.names :=
  isSource.ends.names_ne ends (by decide +kernel) (by decide +kernel)

theorem EndsIn.trans {path : Path} {ending inner : List Char} (ends : EndsIn path ending)
    (suffix : inner <:+ ending) : EndsIn path inner := by
  obtain ⟨last, found, outer⟩ := ends
  exact ⟨last, found, suffix.trans outer⟩

/-! ## Targets of the default settings -/

/-- The aggregator of the default settings. -/
abbrev defaultAggregator : Path := LayoutSettings.aggregatorPath {}

theorem defaultAggregator_names :
    defaultAggregator.names = ["src".toList, "routes".toList, "_index.ts".toList] := by
  decide +kernel

theorem defaultAggregator_endsIn : EndsIn defaultAggregator "_index.ts".toList :=
  ⟨"_index.ts".toList, by rw [defaultAggregator_names]; rfl, List.suffix_rfl⟩

theorem defaultAggregator_isSource : IsSource defaultAggregator where
  relative := by decide +kernel
  plain := by decide +kernel
  busy := by decide +kernel
  depth := by rw [defaultAggregator_names]; rfl
  ends := defaultAggregator_endsIn.trans (by decide +kernel)

theorem defaultDirectories (name : ResourceName) (layer : Layer) :
    ((Generator.standard name {}).directoryOf layer).isAbsolute = false ∧
      ((Generator.standard name {}).directoryOf layer).IsPlain ∧
      ((Generator.standard name {}).directoryOf layer).names.length = 2 := by
  have checked : ∀ directory ∈ [Path.mk "src/routes", ⟨"src/controller"⟩, ⟨"src/service"⟩,
      ⟨"src/repository"⟩, ⟨"test/integration"⟩],
      directory.isAbsolute = false ∧ directory.IsPlain ∧ directory.names.length = 2 := by
    decide +kernel
  exact checked _ (by cases layer <;> simp [Generator.directoryOf, Generator.standard])

/-- The file of a layer for a name, with the default settings. -/
abbrev defaultFile (name : ResourceName) (layer : Layer) : Path :=
  (Generator.standard name {}).pathFor layer

section Files

variable {name : ResourceName} (identifier : IsIdentifier name.camel)

include identifier

theorem defaultFile_isTarget (layer : Layer) :
    IsTarget (defaultFile name layer) ∧
      (defaultFile name layer).names = ((Generator.standard name {}).directoryOf layer).names ++
        [((Generator.standard name {}).fileNameOf layer).toList] := by
  obtain ⟨relative, plain, two⟩ := defaultDirectories name layer
  obtain ⟨busy, noStepUp⟩ := (Generator.standard name {}).fileNameOf_busy layer
  have whole : '/' ∉ ((Generator.standard name {}).fileNameOf layer).toList :=
    Generator.slash_notMem_fileNameOf identifier layer
  exact isTarget_join relative plain two whole busy noStepUp

/-- The name of the file of a layer ends as that of the layer does. -/
theorem defaultFile_endsIn (layer : Layer) :
    EndsIn (defaultFile name layer) layer.ending.toList := by
  obtain ⟨stem, chars⟩ := (Generator.standard name {}).fileNameOf_toList layer
  refine ⟨_, ?_, chars ▸ List.suffix_append stem _⟩
  rw [(defaultFile_isTarget identifier layer).2, List.getLast?_concat]

theorem defaultFile_ne_aggregator (layer : Layer) :
    (defaultFile name layer).names ≠ defaultAggregator.names :=
  (defaultFile_endsIn identifier layer).names_ne defaultAggregator_endsIn
    (by cases layer <;> decide +kernel) (by cases layer <;> decide +kernel)

theorem defaultFile_isSource (layer : Layer) : IsSource (defaultFile name layer) :=
  ⟨(defaultFile_isTarget identifier layer).1,
    (defaultFile_endsIn identifier layer).trans (by cases layer <;> decide +kernel)⟩

end Files

/-! ## A project that lacks a route -/

def routelessAggregator : String :=
  "const appRoutes = Router();\nexport default appRoutes;\n"

def routedAggregator : String :=
  "import \x7b orderRoutes \x7d from './order.routes';\n\nconst appRoutes = Router();\n" ++
    "appRoutes.use(orderRoutes);\n\nexport default appRoutes;\n"

/-- A project that has the main router and all files for orders but their route. -/
def routelessProject : Session where
  files :=
    { workingDirectory := ["work"]
      nodes := [(["work"], .directory), (["work", "src"], .directory),
        (["work", "src", "routes"], .directory),
        (["work", "src", "routes", "_index.ts"], .file routelessAggregator.toUTF8),
        (["work", "src", "controller"], .directory),
        (["work", "src", "controller", "OrderController.ts"], .file "".toUTF8),
        (["work", "src", "service"], .directory),
        (["work", "src", "service", "OrderService.ts"], .file "".toUTF8),
        (["work", "src", "repository"], .directory),
        (["work", "src", "repository", "OrderRepository.ts"], .file "".toUTF8),
        (["work", "test"], .directory), (["work", "test", "integration"], .directory),
        (["work", "test", "integration", "Order.test.ts"], .file "".toUTF8)] }

/-- A host that refuses nothing, and whose user never lets a file be replaced. -/
abbrev calmHost : Host :=
  orderHost fun _ _ => none

theorem routelessProject_wellFormed : routelessProject.files.WellFormed := by
  decide

theorem routelessProject_read :
    routelessProject.files.readText (Path.join ⟨"."⟩ defaultAggregator) =
      .ok routelessAggregator := by
  refine readText_eq_ok_iff.2 ⟨_, ?_, fromUTF8?_toUTF8 _⟩
  decide +kernel

theorem orderName_spliced :
    (Generator.spliceOf orderName {}).apply routelessAggregator defaultAggregator =
      .ok routedAggregator := by
  have applied : ((Generator.spliceOf orderName {}).apply routelessAggregator
      defaultAggregator).toOption = some routedAggregator := by
    decide +kernel
  cases spliced : (Generator.spliceOf orderName {}).apply routelessAggregator
      defaultAggregator with
  | ok text =>
      rw [spliced] at applied
      cases applied
      rfl
  | error failure =>
      rw [spliced] at applied
      cases applied

end ResourceScaffold

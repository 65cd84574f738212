import ResourceScaffold.Proofs.Apply.Journal
import ResourceScaffold.Proofs.Execution.Consent
import ResourceScaffold.Proofs.FileTree.Outside
import ResourceScaffold.Proofs.Generator.Confinement

/-!
Contract: that carrying out a plan changes files only below its root.

Owns:
- the single steps of carrying out a plan whose paths stay below where they start;
- the run over a whole plan, however it ends;
- settings and names whose plans are such plans, and a name whose plan is not.

Does not own: links. A directory below the root that leads elsewhere would take files along.
-/

namespace ResourceScaffold

open FileTree ResourceScaffold.Path
open ResourceScaffold.Action hiding bind_eq_ok_iff

/-! ## Steps -/

theorem Action.maintains_changing {property : FileTree → Prop} {path : Path}
    {change : FileTree → Except Fault FileTree}
    (changes : ∀ {files changed}, property files → change files = .ok changed → property changed) :
    (Action.changing path change).Maintains property := by
  intro before holds
  cases ran : Action.changing path change before with
  | ok result after =>
      obtain ⟨changed, made, rfl⟩ := Action.changing_eq_ok_iff.1 ran
      rw [final_of_ok ran]
      exact changes holds made
  | error failure after =>
      rw [final_of_error ran, Action.changing_eq_error ran]
      exact holds

/-- Files that have changed only below a root since a start, with everything in a directory. -/
structure Confined (root : Path) (start current : FileTree) : Prop where
  wellFormed : current.WellFormed
  keepsOutside : KeepsOutside root start current

variable {host : Host} {root path : Path} {policy : OverwritePolicy} {file : GeneratedFile}
  {plan : ScaffoldPlan} {start current changed : FileTree} {before : Session}

theorem Confined.further (confined : Confined root start current) (wellFormed : changed.WellFormed)
    (keepsOutside : KeepsOutside root current changed) : Confined root start changed :=
  ⟨wellFormed, confined.keepsOutside.trans keepsOutside⟩

theorem writeText_confined (host : Host) (staysBelow : path.StaysBelow) (content : String)
    (start : FileTree) :
    (writeText host (root.join path) content).Maintains (Confined root start) := by
  intro before confined
  obtain ⟨created, isCreated, ran⟩ := writeText_created host (root.join path) content before
  have confined' : Confined root start created := by
    rcases isCreated with rfl | ⟨directory, found, rfl⟩
    · exact confined
    · exact confined.further (createChain_keeps Host.make_eq_ok confined.wellFormed _).2
        (createDirectories_keepsOutside Host.make_eq_ok _ staysBelow found)
  rcases ran with wrote | ⟨failure, failed⟩
  · rw [final_congr wrote]
    refine maintains_changing (fun confined written => ?_) _ confined'
    obtain ⟨wellFormed, keepsOutside⟩ := writeFile_keepsOutside confined.wellFormed staysBelow
      (Host.change_eq_ok_iff.1 written).2
    exact confined.further wellFormed keepsOutside
  · rwa [final_of_error failed]

/-- A rename to a backup moves what is below the root to another name below the root. -/
theorem rename_confined {time : String} (staysBelow : path.StaysBelow)
    (digits : ∀ character ∈ time.toList, character.isDigit = true)
    (confined : Confined root start current)
    (renamed : current.rename (root.join path) (root.join (backupPath path time)) = .ok changed) :
    Confined root start changed := by
  have endsInName := endsInName_of_rename digits confined.wellFormed renamed
  have aside := endsInName.isAside digits current root
  obtain ⟨rfl, replaces⟩ := rename_eq_move confined.wellFormed aside.apart renamed
  obtain ⟨last, found, noStepUp⟩ := endsInName
  have whole : '/' ∉ (path.fileName?.getD "").toList := by
    rw [fileName?_of_getLast? found noStepUp, Option.getD_some, String.toList_ofList]
    exact notMem_of_mem_segments (mem_segments_of_mem_names (List.mem_of_mem_getLast? found))
  obtain ⟨whole', busy, noStepUp'⟩ := backupName_isName whole digits
  have staysBelow' := staysBelow.withFileName found noStepUp whole' busy noStepUp'
  have found' : (backupPath path time).names.getLast? = some _ :=
    (congrArg List.getLast? (names_withFileName found noStepUp whole' busy).1).trans
      List.getLast?_concat
  exact confined.further (confined.wellFormed.move replaces.parent aside.apart.2 aside.apart.1)
    (.move aside.apart (isBelow_landing_join current root staysBelow found noStepUp)
      (isBelow_landing_join current root staysBelow' found' noStepUp'))

namespace ScaffoldPlan

theorem writeGenerated_confined (host : Host) (staysBelow : file.path.StaysBelow)
    (outcome : FileOutcome) (start : FileTree) :
    (writeGenerated host root file outcome).Maintains (Confined root start) :=
  (writeText_confined host staysBelow file.content start).bind fun _ =>
    ((onlyLooks_note _).bind fun _ => onlyLooks_pure _).maintains _

theorem backUp_confined (shows : host.ShowsDigits) (staysBelow : file.path.StaysBelow)
    (start : FileTree) : (backUp host root file).Maintains (Confined root start) := by
  intro before confined
  have step : backUp host root file before = _ := Action.bind_of_ok (Action.readClock_run host before)
  rw [final_congr step]
  refine final_bind (maintains_changing (fun confined renames => ?_) _ confined) fun _ =>
    ((onlyLooks_note _).bind fun _ => onlyLooks_pure _).maintains _
  exact rename_confined staysBelow (shows _) confined (Host.change_eq_ok_iff.1 renames).2

theorem applyFile_confined (shows : host.ShowsDigits) (staysBelow : file.path.StaysBelow)
    (policy : OverwritePolicy) (start : FileTree) :
    (applyFile host root policy file).Maintains (Confined root start) := by
  intro before confined
  rcases applyFile_cases host root policy file before with
    ⟨-, noted, same, -, step⟩ | ⟨-, noted, same, -, step⟩ | ⟨-, step⟩
  · rw [final_congr step]
    exact writeGenerated_confined host staysBelow _ start noted (same ▸ confined)
  · rwa [final_of_ok step, same]
  · rw [final_congr step]
    exact final_bind (backUp_confined shows staysBelow start before confined) fun _ =>
      writeGenerated_confined host staysBelow _ start

theorem applyAggregator_confined (host : Host) (staysBelow : plan.aggregator.path.StaysBelow)
    (policy : OverwritePolicy) (start : FileTree) :
    (plan.applyAggregator host root policy).Maintains (Confined root start) := by
  intro before confined
  rcases applyAggregator_cases plan host root policy before with ⟨-, noted, same, -, step⟩ | ⟨-, step⟩
  · rwa [final_of_ok step, same]
  · rw [final_congr step]
    exact final_bind (writeText_confined host staysBelow _ start before confined) fun _ =>
      ((onlyLooks_note _).bind fun _ => onlyLooks_pure _).maintains _

/-! ## Whole plans -/

/-- A plan whose paths stay below where they start changes nothing outside of its root, whether it is
carried out to its end or not. -/
theorem apply_confined (shows : host.ShowsDigits) (aggregator : plan.aggregator.path.StaysBelow)
    (files : ∀ file ∈ plan.files, file.path.StaysBelow) (root : Path) (policy : OverwritePolicy)
    (wellFormed : before.files.WellFormed) :
    Confined root before.files ((plan.apply host root policy).final before).files := by
  have confined : Confined root before.files before.files := ⟨wellFormed, .refl root _⟩
  rcases apply_cases plan host root policy before with ⟨-, path, -, step⟩ | ⟨-, step⟩
  · rwa [final_of_error step]
  · rw [final_congr step]
    refine final_bind (applyAggregator_confined host aggregator policy _ before confined)
      fun _ => (maintains_mapM fun file member => ?_).bind fun _ => (onlyLooks_pure _).maintains _
    exact applyFile_confined shows (files file member) policy before.files

end ScaffoldPlan

/-! ## Generated plans -/

/-- The directories of all layers and the file of the aggregator are relative and never step up. -/
structure LayoutSettings.Descends (layout : LayoutSettings) : Prop where
  routesDir : layout.routesDir.Descends
  aggregatorFile : Path.Descends ⟨layout.aggregatorFile⟩
  controllerDir : layout.controllerDir.Descends
  serviceDir : layout.serviceDir.Descends
  repositoryDir : layout.repositoryDir.Descends
  testDir : layout.testDir.Descends

namespace Generator

variable {generator : Generator}

theorem directoryOf_descends (layout : generator.settings.layout.Descends) (layer : Layer) :
    (generator.directoryOf layer).Descends := by
  cases layer with
  | route => exact layout.routesDir
  | controller => exact layout.controllerDir
  | service => exact layout.serviceDir
  | repository => exact layout.repositoryDir
  | test => exact layout.testDir

theorem plan_confined (layout : generator.settings.layout.Descends)
    (staysBelow : ∀ layer, (generator.pathFor layer).StaysBelow) {planRoot : Path}
    {started planned : Session} (plans : generator.plan planRoot started = .ok plan planned)
    (shows : host.ShowsDigits) (root : Path) (policy : OverwritePolicy)
    (wellFormed : before.files.WellFormed) :
    Confined root before.files ((plan.apply host root policy).final before).files := by
  obtain ⟨aggregator, paths, -⟩ := plan_eq_ok plans
  refine ScaffoldPlan.apply_confined shows ?_ ?_ root policy wellFormed
  · rw [aggregator]
    exact (layout.routesDir.join layout.aggregatorFile).staysBelow
  · rw [← List.forall_mem_map (P := Path.StaysBelow), paths, List.forall_mem_map]
    exact fun layer _ => staysBelow layer

/-- With directories that lead down, the file of a layer is directly inside its directory exactly if
the name of the resource leads nowhere. As long as no path of a file leads above where it starts, which
is so for all names that lead down, carrying out the plan changes files below the root only, for every
root and policy and however it ends. Directories outside are not changed either, except that missing
ones on the way to the root are created. -/
theorem generated_files_stay_below_root (layout : generator.settings.layout.Descends) :
    (∀ layer, (generator.pathFor layer).IsDirectlyIn (generator.directoryOf layer) ↔
      generator.name.StaysPut) ∧
    ('/' ∉ generator.name.camel.toList → generator.name.StaysPut) ∧
    (generator.name.Descends → ∀ layer, (generator.pathFor layer).StaysBelow) ∧
    ((∀ layer, (generator.pathFor layer).StaysBelow) →
      ∀ planRoot started plan planned, generator.plan planRoot started = .ok plan planned →
        ∀ host : Host, host.ShowsDigits → ∀ root policy (before : Session),
          before.files.WellFormed →
          (∀ location, ¬IsBelow (before.files.landing root) location →
            ((plan.apply host root policy).final before).files.contents location =
              before.files.contents location) ∧
          KeepsOutside root before.files ((plan.apply host root policy).final before).files ∧
          (Reaches before.files root → ∀ location, ¬IsBelow (before.files.landing root) location →
            ((plan.apply host root policy).final before).files.node? location =
              before.files.node? location)) := by
  refine ⟨fun layer => ?_, ResourceName.staysPut_of_notMem, fun descends layer => ?_, ?_⟩
  · exact pathFor_isDirectlyIn_iff (directoryOf_descends layout layer).relative
  · exact (pathFor_descends (directoryOf_descends layout layer) descends).staysBelow
  · intro staysBelow planRoot started plan planned plans host shows root policy before wellFormed
    have keeps := (plan_confined layout staysBelow plans shows root policy wellFormed).keepsOutside
    exact ⟨fun _ => keeps.contents_eq, keeps, fun reaches _ => keeps.node?_eq reaches⟩

theorem orderLayout_descends : orderGenerator.settings.layout.Descends := by
  constructor <;> decide

/-- Everything that is changed for an order is below the root. -/
theorem orderGenerator_stays_below_root :
    (∀ layer, (orderGenerator.pathFor layer).IsDirectlyIn (orderGenerator.directoryOf layer)) ∧
      (∃ planned, orderGenerator.plan ⟨"app"⟩ orderProject = .ok orderPlan planned) ∧
      ∀ location, ¬IsBelow ["work", "app"] location →
        ((orderPlan.apply (orderHost fun _ _ => none) ⟨"app"⟩ .backup).final
            orderProject).files.node? location = orderProject.files.node? location := by
  obtain ⟨directly, whole, stays, keeps⟩ := generated_files_stay_below_root orderLayout_descends
  have staysPut : orderGenerator.name.StaysPut := whole (by decide +kernel)
  have landing : orderProject.files.landing ⟨"app"⟩ = ["work", "app"] := by decide +kernel
  have reaches : Reaches orderProject.files ⟨"app"⟩ := by
    constructor <;> decide +kernel
  obtain ⟨planned, plans⟩ := orderGenerator_plan
  obtain ⟨-, -, same⟩ := keeps (stays staysPut.descends) ⟨"app"⟩ orderProject orderPlan planned plans
    (orderHost fun _ _ => none) (orderHost_digits _) ⟨"app"⟩ .backup orderProject (by decide)
  rw [landing] at same
  exact ⟨fun layer => (directly layer).2 staysPut, ⟨planned, plans⟩, same reaches⟩

/-! ## A name that leads out of the root -/

/-- A name that steps up, in the same settings. -/
def strayGenerator : Generator :=
  { orderGenerator with name := ⟨"../order", by decide⟩ }

def strayPlan : ScaffoldPlan where
  aggregator := orderPlan.aggregator
  files := [
    ⟨⟨"../order.routes.ts"⟩, "routes\n", "Routes for /../order", .route⟩,
    ⟨⟨"../orderController.ts"⟩, "controller\n", "../orderController", .controller⟩,
    ⟨⟨"../orderService.ts"⟩, "service\n", "../orderService", .service⟩,
    ⟨⟨"../orderRepository.ts"⟩, "repository\n", "../orderRepository stub", .repository⟩,
    ⟨⟨"../order.test.ts"⟩, "test\n", "Integration test for ../orderController", .test⟩]

/-- Nothing keeps a name from stepping up out of the directory of its layer, and out of the root. -/
theorem strayName_leaves_root :
    strayGenerator.settings.layout.Descends ∧
      ResourceName.ofWord? "../order" = some strayGenerator.name ∧
      ¬(strayGenerator.pathFor .route).IsDirectlyIn (strayGenerator.directoryOf .route) ∧
      ∃ planned report after,
        strayGenerator.plan ⟨"app"⟩ orderProject = .ok strayPlan planned ∧
        strayPlan.apply (orderHost fun _ _ => none) ⟨"app"⟩ .force orderProject =
          .ok report after ∧
        ¬IsBelow (orderProject.files.landing ⟨"app"⟩) ["work", "order.routes.ts"] ∧
        orderProject.files.contents ["work", "order.routes.ts"] = none ∧
        after.files.contents ["work", "order.routes.ts"] = some "routes\n".toUTF8 := by
  have longer : (strayGenerator.pathFor .route).names.length ≠
      (strayGenerator.directoryOf .route).names.length + 1 := by
    decide +kernel
  have plans : ∃ planned, strayGenerator.plan ⟨"app"⟩ orderProject = .ok strayPlan planned := by
    decide +kernel
  have runs : ∃ report after,
      strayPlan.apply (orderHost fun _ _ => none) ⟨"app"⟩ .force orderProject =
          .ok report after ∧
        after.files.contents ["work", "order.routes.ts"] = some "routes\n".toUTF8 := by
    decide +kernel
  refine ⟨orderLayout_descends, by decide, fun directly => ?_, ?_⟩
  · obtain ⟨name, -, oneMore⟩ := directly.oneMore
    refine longer ?_
    rw [oneMore, List.length_append, List.length_singleton]
  · obtain ⟨planned, isPlanned⟩ := plans
    obtain ⟨report, after, ran, written⟩ := runs
    exact ⟨planned, report, after, isPlanned, ran, by decide +kernel, by decide +kernel, written⟩

end Generator

end ResourceScaffold

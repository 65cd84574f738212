import ResourceScaffold.Proofs.Apply.Run
import ResourceScaffold.Proofs.Generator.Layers

/-!
Contract: what a successful run over a generated plan leaves behind.

Owns:
- that the report of the run says what was there before it;
- that the files are as the report says, and that nothing else has changed.

Does not own: runs that fail.
-/

namespace ResourceScaffold

open FileTree

/-- The paths at which a run changed the files. -/
def ScaffoldReport.changed (report : ScaffoldReport) : List Path :=
  report.aggregator.toList ++ report.written ++ report.backedUp.map Prod.snd

/-- A report says which files were there before the run, as the policy deals with them. -/
structure ScaffoldReport.Tells (report : ScaffoldReport) (generator : Generator)
    (plan : ScaffoldPlan) (root : Path) (policy : OverwritePolicy) (before : FileTree) : Prop where
  skipped : report.skipped = if policy = .skip then plan.conflicts before root else []
  written : report.written =
    (plan.files.map GeneratedFile.path).filter fun path => path ∉ report.skipped
  backedUp : report.backedUp.map Prod.fst =
    if policy = .backup then plan.conflicts before root else []
  aggregator : report.aggregator = none ↔
    policy = .skip ∧ before.pathExists (root.join (generator.pathFor .route)) = true

/-- The files after a run are as its report says: texts stand where they were written, what was
skipped or moved aside is as it was, and elsewhere nothing but directories on the way is new. -/
structure ScaffoldReport.Holds (report : ScaffoldReport) (plan : ScaffoldPlan) (root : Path)
    (before after : FileTree) : Prop where
  wellFormed : after.WellFormed
  written : ∀ file ∈ plan.files, file.path ∈ report.written →
    after.readBytes (root.join file.path) = .ok file.content.toUTF8
  skipped : ∀ path ∈ report.skipped, Inherits before (root.join path) after (root.join path)
  backedUp : ∀ pair ∈ report.backedUp, Inherits before (root.join pair.1) after (root.join pair.2)
  updated : report.aggregator ≠ none →
    after.readBytes (root.join plan.aggregator.path) = .ok plan.aggregator.after.toUTF8
  kept : report.aggregator = none →
    Inherits before (root.join plan.aggregator.path) after (root.join plan.aggregator.path)
  others : ∀ location,
    (∀ path ∈ report.changed, ¬ before.place (root.join path) <+: location) →
      after.node? location = before.node? location ∨
        before.node? location = none ∧ after.node? location = some .directory ∧
          ∃ path ∈ report.changed, location <+: before.place (root.join path)

/-! ## Reports of tasks -/

variable {host : Host} {root : Path} {policy : OverwritePolicy} {tree before after : FileTree}
  {count : Nat} {files : List GeneratedFile} {plan : ScaffoldPlan}

/-- What a report sees of every file is what it sees of the files in order. -/
theorem filterMap_reports {seen : FileReport → Option Path} {kept : Path → Bool}
    (sees : ∀ count path, seen ⟨path, outcomeOf host root policy tree count path⟩ =
      if kept path then some path else none)
    (count : Nat) (files : List GeneratedFile) :
    ((fileTasks host root policy tree count files).map Task.report).filterMap seen =
      (files.map GeneratedFile.path).filter kept := by
  induction files generalizing count with
  | nil => rfl
  | cons file rest inductionHypothesis =>
      have first := sees count file.path
      rw [fileTasks, List.map_cons, List.map_cons, List.filterMap_cons, Task.report, fileTask,
        first, inductionHypothesis]
      by_cases keeps : kept file.path = true
      · rw [if_pos keeps, List.filter_cons_of_pos keeps]
      · rw [if_neg keeps, List.filter_cons_of_neg keeps]

/-- The files that were skipped are those that were there, under the policy that skips. -/
theorem skipped_reports (count : Nat) (files : List GeneratedFile) :
    ((fileTasks host root policy tree count files).map Task.report).filterMap
        FileReport.skipped? =
      (files.map GeneratedFile.path).filter fun path =>
        policy = .skip ∧ tree.pathExists (root.join path) = true := by
  refine filterMap_reports (fun count path => ?_) count files
  unfold outcomeOf
  cases there : tree.pathExists (root.join path) <;> cases policy <;> rfl

theorem written_reports (count : Nat) (files : List GeneratedFile) :
    ((fileTasks host root policy tree count files).map Task.report).filterMap
        FileReport.written? =
      (files.map GeneratedFile.path).filter fun path =>
        ¬ (policy = .skip ∧ tree.pathExists (root.join path) = true) := by
  refine filterMap_reports (fun count path => ?_) count files
  unfold outcomeOf
  cases there : tree.pathExists (root.join path) <;> cases policy <;> rfl

theorem backedUp_reports (count : Nat) (files : List GeneratedFile) :
    ((fileTasks host root policy tree count files).map Task.report).filterMap
        (fun report => report.backedUp?.map Prod.fst) =
      (files.map GeneratedFile.path).filter fun path =>
        policy = .backup ∧ tree.pathExists (root.join path) = true := by
  refine filterMap_reports (fun count path => ?_) count files
  unfold outcomeOf
  cases there : tree.pathExists (root.join path) <;> cases policy <;> rfl

/-- The report of a run over a plan, as it is foreseen. -/
def ScaffoldPlan.foreseen (plan : ScaffoldPlan) (host : Host) (root : Path)
    (policy : OverwritePolicy) (tree : FileTree) (count : Nat) : ScaffoldReport where
  aggregator :=
    if policy = .skip ∧ plan.routeExists tree root then none else some plan.aggregator.path
  files := (fileTasks host root policy tree count plan.files).map Task.report

theorem filter_conflicts (plan : ScaffoldPlan) (root : Path) (policy chosen : OverwritePolicy)
    (tree : FileTree) :
    ((plan.files.map GeneratedFile.path).filter fun path =>
        policy = chosen ∧ tree.pathExists (root.join path) = true) =
      if policy = chosen then plan.conflicts tree root else [] := by
  rw [ScaffoldPlan.conflicts]
  by_cases same : policy = chosen
  · rw [if_pos same]
    exact List.filter_congr fun path _ => by simp [same]
  · rw [if_neg same]
    exact List.filter_eq_nil_iff.2 fun path _ => by simp [same]

theorem skipped_foreseen :
    (plan.foreseen host root policy tree count).skipped =
      (plan.files.map GeneratedFile.path).filter fun path =>
        policy = .skip ∧ tree.pathExists (root.join path) = true :=
  skipped_reports count plan.files

theorem written_foreseen :
    (plan.foreseen host root policy tree count).written =
      (plan.files.map GeneratedFile.path).filter fun path =>
        ¬ (policy = .skip ∧ tree.pathExists (root.join path) = true) :=
  written_reports count plan.files

theorem aggregator_foreseen :
    (plan.foreseen host root policy tree count).aggregator = none ↔
      policy = .skip ∧ plan.routeExists tree root = true := by
  rw [ScaffoldPlan.foreseen]
  split_ifs with keeps
  · simp [keeps]
  · simp [keeps]

theorem tells_foreseen {generator : Generator} {root' : Path} {session session' : Session}
    (planned : generator.plan root' session = .ok plan session') :
    (plan.foreseen host root policy tree count).Tells generator plan root policy tree where
  skipped := by
    rw [skipped_foreseen, filter_conflicts]
  written := by
    rw [written_foreseen]
    refine List.filter_congr fun path member => ?_
    rw [decide_eq_decide, skipped_foreseen, List.mem_filter, decide_eq_true_iff, not_iff_not]
    exact (and_iff_right member).symm
  backedUp := by
    rw [ScaffoldReport.backedUp, List.map_filterMap]
    exact (backedUp_reports count plan.files).trans (filter_conflicts plan root policy .backup tree)
  aggregator := by
    rw [aggregator_foreseen, Generator.routeExists_eq planned]

/-! ## Files after a run -/

theorem FileReport.written?_eq_some_iff {report : FileReport} {path : Path} :
    report.written? = some path ↔ report.outcome ≠ .skipped ∧ report.path = path := by
  rw [written?]
  cases report.outcome <;> simp

theorem FileReport.skipped?_eq_some_iff {report : FileReport} {path : Path} :
    report.skipped? = some path ↔ report.outcome = .skipped ∧ report.path = path := by
  rw [skipped?]
  cases report.outcome <;> simp

theorem FileReport.backedUp?_eq_some_iff {report : FileReport} {path backup : Path} :
    report.backedUp? = some (path, backup) ↔
      report.outcome = .backedUp backup ∧ report.path = path := by
  rw [backedUp?]
  cases report.outcome <;> simp [and_comm]

theorem aggregatorTask_skipped_iff :
    (plan.aggregatorTask root policy tree).outcome = .skipped ↔
      policy = .skip ∧ plan.routeExists tree root = true := by
  rw [ScaffoldPlan.aggregatorTask]
  split_ifs with keeps
  · simp [keeps]
  · simp [keeps]

/-- A place that a run touches is that of a path which its report lists as changed. -/
theorem mem_changed_of_touched {task : Task}
    (member : task ∈ plan.tasks host root policy tree count) {place : Location}
    (touched : place ∈ task.touched tree root) :
    ∃ path ∈ (plan.foreseen host root policy tree count).changed,
      place = tree.place (root.join path) := by
  obtain ⟨changes, isPlace⟩ := Task.mem_touched.1 touched
  rw [ScaffoldReport.changed]
  rcases List.mem_cons.1 member with same | isFile
  · rw [same] at changes isPlace
    rcases ScaffoldPlan.mem_places isPlace with here | ⟨backup, isBackup, -⟩
    · have writes := mt aggregatorTask_skipped_iff.2 changes
      exact ⟨plan.aggregator.path, by simp [ScaffoldPlan.foreseen, writes], here⟩
    · rw [ScaffoldPlan.aggregatorTask_backup] at isBackup
      cases isBackup
  · have reported : task.report ∈ (plan.foreseen host root policy tree count).files :=
      List.mem_map_of_mem isFile
    rcases ScaffoldPlan.mem_places isPlace with here | ⟨backup, isBackup, here⟩
    · have written : task.path ∈ (plan.foreseen host root policy tree count).written :=
        List.mem_filterMap.2 ⟨_, reported, FileReport.written?_eq_some_iff.2 ⟨changes, rfl⟩⟩
      exact ⟨task.path, by simp [written], here⟩
    · have backedUp : (task.path, backup) ∈ (plan.foreseen host root policy tree count).backedUp :=
        List.mem_filterMap.2 ⟨_, reported, FileReport.backedUp?_eq_some_iff.2
          ⟨FileOutcome.mem_backup?_iff.1 isBackup, rfl⟩⟩
      exact ⟨backup, List.mem_append_right _ (List.mem_map_of_mem backedUp), here⟩

/-- After all tasks are done, the files are as the report that was foreseen says. -/
theorem Done.holds (done : Done root before after (plan.tasks host root policy before count)) :
    (plan.foreseen host root policy before count).Holds plan root before after where
  wellFormed := done.wellFormed
  written file member listed := by
    obtain ⟨reading, isTask⟩ := exists_fileTask host root policy before member count
    have settled := done.settled _ (List.mem_cons_of_mem _ isTask)
    rw [written_foreseen, List.mem_filter, decide_eq_true_iff] at listed
    apply settled.written
    rw [fileTask_outcome, ne_eq, outcomeOf_eq_skipped_iff]
    exact listed.2
  skipped path listed := by
    obtain ⟨report, reported, skips⟩ := List.mem_filterMap.1 listed
    obtain ⟨task, isTask, rfl⟩ := List.mem_map.1 reported
    obtain ⟨outcome, rfl⟩ := FileReport.skipped?_eq_some_iff.1 skips
    exact (done.settled _ (List.mem_cons_of_mem _ isTask)).skipped outcome
  backedUp := by
    rintro ⟨path, backup⟩ listed
    obtain ⟨report, reported, moved⟩ := List.mem_filterMap.1 listed
    obtain ⟨task, isTask, rfl⟩ := List.mem_map.1 reported
    obtain ⟨outcome, rfl⟩ := FileReport.backedUp?_eq_some_iff.1 moved
    exact (done.settled _ (List.mem_cons_of_mem _ isTask)).backedUp backup outcome
  updated listed :=
    (done.settled _ List.mem_cons_self).written
      (mt (aggregator_foreseen.2 ∘ aggregatorTask_skipped_iff.1) listed)
  kept unlisted :=
    (done.settled _ List.mem_cons_self).skipped
      (aggregatorTask_skipped_iff.2 (aggregator_foreseen.1 unlisted))
  others location outside := by
    have outside' : ∀ place ∈ (plan.tasks host root policy before count).flatMap
        (Task.touched before root), ¬ place <+: location := by
      intro place member
      obtain ⟨task, isTask, touched⟩ := List.mem_flatMap.1 member
      obtain ⟨path, changed, rfl⟩ := mem_changed_of_touched isTask touched
      exact outside path changed
    rcases done.frame.otherwise location outside' with
      same | ⟨vacant, directory, place, member, leads⟩
    · exact Or.inl same
    · obtain ⟨task, isTask, touched⟩ := List.mem_flatMap.1 member
      obtain ⟨path, changed, rfl⟩ := mem_changed_of_touched isTask touched
      exact Or.inr ⟨vacant, directory, path, changed, leads⟩

/-! ## Successful runs -/

/-- A successful run over a generated plan leaves a report that says what was there before it, and
files that are as the report says. If backups are made, no target is at or below the place of one:
a backup could bring something to such a target that is then moved aside again. -/
theorem Generator.apply_plan_ok {generator : Generator} {root' : Path}
    {session session' planned planned' : Session} {report : ScaffoldReport}
    (plans : generator.plan root' planned = .ok plan planned')
    (admissible : plan.Admissible host root policy session)
    (different : ∀ layer, session.files.place (root.join generator.aggregatorPath) ≠
      session.files.place (root.join (generator.pathFor layer)))
    (noneBelow : plan.NoneBelow root session.files)
    (ran : plan.apply host root policy session = .ok report session') :
    report.Tells generator plan root policy session.files ∧
      report.Holds plan root session.files session'.files := by
  have ready := admissible.ready (targetsApart plans different noneBelow)
  obtain ⟨plainAggregator, plain⟩ := List.forall_mem_cons.1 admissible.plain
  rw [List.forall_mem_map] at plain
  obtain ⟨-, rfl, done⟩ := ScaffoldPlan.apply_ok admissible.digits admissible.plainRoot
    plainAggregator plain ready ran
  exact ⟨tells_foreseen plans, done.holds⟩

/-- Templates without tags, and everything in one directory. -/
def orderGenerator : Generator where
  name := ⟨"order", by decide⟩
  settings :=
    { layout :=
        { routesDir := ⟨""⟩
          aggregatorFile := "index.ts"
          controllerDir := ⟨""⟩
          serviceDir := ⟨""⟩
          repositoryDir := ⟨""⟩
          testDir := ⟨""⟩ }
      aggregator := { importAnchor := "app;", registrationAnchor := "app;" } }
  templates :=
    ⟨[("route", "routes\n"), ("controller", "controller\n"), ("service", "service\n"),
      ("repository", "repository\n"), ("test", "test\n"),
      ("aggregator_import", "import order;\n"), ("aggregator_registration", "use order;\n")].map
        fun (name, text) => (name, [.text text.toList])⟩

theorem orderGenerator_plan :
    ∃ session, orderGenerator.plan ⟨"app"⟩ orderProject = .ok orderPlan session := by
  decide +kernel

theorem orderPlan_noneBelow : orderPlan.NoneBelow ⟨"app"⟩ orderProject.files := by
  rw [ScaffoldPlan.noneBelow_iff_places, orderPlan_places]
  decide

theorem orderPlan_applied :
    ∃ report session, orderPlan.apply (orderHost fun _ _ => none) ⟨"app"⟩ .backup orderProject =
      .ok report session :=
  Action.succeeds_iff.1 (by decide +kernel)

theorem Generator.apply_plan_ok_order :
    ∃ planned report session,
      orderGenerator.plan ⟨"app"⟩ orderProject = .ok orderPlan planned ∧
        orderPlan.apply (orderHost fun _ _ => none) ⟨"app"⟩ .backup orderProject =
          .ok report session ∧
        report.Tells orderGenerator orderPlan ⟨"app"⟩ .backup orderProject.files ∧
        report.Holds orderPlan ⟨"app"⟩ orderProject.files session.files := by
  obtain ⟨planned, plans⟩ := orderGenerator_plan
  obtain ⟨report, session, ran⟩ := orderPlan_applied
  have distinct : (orderPlan.targets.map fun target =>
      orderProject.files.place (Path.join ⟨"app"⟩ target)).Nodup := by
    rw [orderPlan_places]
    decide
  exact ⟨planned, report, session, plans, ran,
    Generator.apply_plan_ok plans (orderPlan_admissible _ .backup)
      (Generator.place_aggregatorPath_ne plans distinct) orderPlan_noneBelow ran⟩

/-! ## Targets in a backup -/

/-- The test lies in what becomes the backup of the routes. -/
def shelfGenerator : Generator :=
  { orderGenerator with
    name := ⟨"x", by decide⟩
    settings.layout.testDir := ⟨"x.routes.ts.20250102030405678.bak"⟩ }

def shelfPlan : ScaffoldPlan where
  aggregator := orderPlan.aggregator
  files := [
    ⟨⟨"x.routes.ts"⟩, "routes\n", "Routes for /x", .route⟩,
    ⟨⟨"XController.ts"⟩, "controller\n", "XController", .controller⟩,
    ⟨⟨"XService.ts"⟩, "service\n", "XService", .service⟩,
    ⟨⟨"XRepository.ts"⟩, "repository\n", "XRepository stub", .repository⟩,
    ⟨⟨"x.routes.ts.20250102030405678.bak/X.test.ts"⟩, "test\n", "Integration test for XController",
      .test⟩]

/-- A project with a directory where the routes go, and an older test in it. -/
def shelfProject : Session where
  files :=
    { workingDirectory := ["app"]
      nodes := [(["app"], .directory), (["app", "index.ts"], .file "app;\n".toUTF8),
        (["app", "x.routes.ts"], .directory),
        (["app", "x.routes.ts", "X.test.ts"], .file "old test\n".toUTF8)] }

theorem shelfPlan_places :
    (shelfPlan.targets.map fun target => shelfProject.files.place (Path.join ⟨""⟩ target)) =
      [["app", "index.ts"], ["app", "x.routes.ts"], ["app", "XController.ts"],
        ["app", "XService.ts"], ["app", "XRepository.ts"],
        ["app", "x.routes.ts.20250102030405678.bak", "X.test.ts"]] := by
  simp [ScaffoldPlan.targets, shelfPlan, orderPlan, shelfProject, place, within, startOf,
    Path.isAbsolute, Path.segments, Path.named, Path.isIdle, Text.splitOn]

theorem shelfPlan_backups :
    (shelfPlan.files.map fun file =>
      shelfProject.files.place (Path.join ⟨""⟩ (backupPath file.path "20250102030405678"))) =
      [["app", "x.routes.ts.20250102030405678.bak"],
        ["app", "XController.ts.20250102030405678.bak"],
        ["app", "XService.ts.20250102030405678.bak"],
        ["app", "XRepository.ts.20250102030405678.bak"],
        ["app", "x.routes.ts.20250102030405678.bak", "X.test.ts.20250102030405678.bak"]] := by
  simp [shelfPlan, shelfProject, place, within, startOf, backupPath, Path.join, Path.joinText,
    Path.isAbsolute, Path.segments, Path.named, Path.isIdle, Path.withFileName, Path.fileName?,
    Path.parent?, Path.segmented, Path.dropIdle, Path.Segmented.written, Path.joinSegments,
    Text.splitOn]

theorem shelfGenerator_plan :
    ∃ session, shelfGenerator.plan ⟨""⟩ shelfProject = .ok shelfPlan session := by
  decide +kernel

/-- The routes and the test are moved aside, though only the routes were in the way. -/
theorem shelfPlan_applied :
    ∃ report session, shelfPlan.apply (orderHost fun _ _ => none) ⟨""⟩ .backup shelfProject =
        .ok report session ∧
      report.backedUp.map Prod.fst =
        [⟨"x.routes.ts"⟩, ⟨"x.routes.ts.20250102030405678.bak/X.test.ts"⟩] ∧
      report.backedUp.head? = some (⟨"x.routes.ts"⟩, ⟨"x.routes.ts.20250102030405678.bak"⟩) ∧
      session.files.node? (session.files.place
          (Path.join ⟨""⟩ ⟨"x.routes.ts.20250102030405678.bak"⟩) ++ ["X.test.ts"]) =
        some (.file "test\n".toUTF8) ∧
      session.files.node? ["app", "x.routes.ts", "X.test.ts"] = none := by
  decide +kernel

/-- With a target below the place of a backup the report and the files can be wrong, although all
names of backups are free. The routes take the older test to their backup, where the test is a
target: it is moved aside too, and the backup has the new test. Nor is the older test where it
was. -/
theorem Generator.apply_plan_backs_up_twice :
    (∃ planned, shelfGenerator.plan ⟨""⟩ shelfProject = .ok shelfPlan planned) ∧
      shelfProject.files.WellFormed ∧ (orderHost fun _ _ => none).ShowsDigits ∧
      Path.IsPlain ⟨""⟩ ∧ (∀ target ∈ shelfPlan.targets, target.IsPlain) ∧
      (∀ layer, shelfProject.files.place (Path.join ⟨""⟩ shelfGenerator.aggregatorPath) ≠
        shelfProject.files.place (Path.join ⟨""⟩ (shelfGenerator.pathFor layer))) ∧
      shelfPlan.NoneBelow ⟨""⟩ shelfProject.files ∧
      (∀ file ∈ shelfPlan.files, ∀ reading, shelfProject.files.node?
        (ScaffoldPlan.backupPlace (orderHost fun _ _ => none) ⟨""⟩ shelfProject.files file.path
          reading) = none) ∧
      ∃ report session, shelfPlan.apply (orderHost fun _ _ => none) ⟨""⟩ .backup shelfProject =
          .ok report session ∧
        ¬ report.Tells shelfGenerator shelfPlan ⟨""⟩ .backup shelfProject.files ∧
        ¬ report.Holds shelfPlan ⟨""⟩ shelfProject.files session.files ∧
        ∃ location content, shelfProject.files.node? location = some (.file content) ∧
          (∀ target ∈ shelfPlan.targets,
            shelfProject.files.place (Path.join ⟨""⟩ target) ≠ location) ∧
          session.files.node? location = none := by
  obtain ⟨report, session, ran, originals, first, overwritten, gone⟩ := shelfPlan_applied
  have free : ∀ backup ∈ shelfPlan.files.map fun file =>
      shelfProject.files.place (Path.join ⟨""⟩ (backupPath file.path "20250102030405678")),
      shelfProject.files.node? backup = none := by
    rw [shelfPlan_backups]
    decide
  have elsewhere : ∀ place ∈ shelfPlan.targets.map fun target =>
      shelfProject.files.place (Path.join ⟨""⟩ target),
      place ≠ ["app", "x.routes.ts", "X.test.ts"] := by
    rw [shelfPlan_places]
    decide
  refine ⟨shelfGenerator_plan, by decide, orderHost_digits _,
    Path.isPlain_of_notMem (by simp) (by simp), ?_, ?_, ?_,
    fun file member _ => free _ (List.mem_map_of_mem member), report, session, ran, ?_, ?_,
    ["app", "x.routes.ts", "X.test.ts"], "old test\n".toUTF8, rfl,
    fun target isTarget => elsewhere _ (List.mem_map_of_mem isTarget), gone⟩
  · simp [ScaffoldPlan.targets, shelfPlan, orderPlan, Path.IsPlain, Path.segments, Text.splitOn]
  · obtain ⟨planned, plans⟩ := shelfGenerator_plan
    refine Generator.place_aggregatorPath_ne plans ?_
    rw [shelfPlan_places]
    decide
  · rw [ScaffoldPlan.noneBelow_iff_places, shelfPlan_places]
    decide
  · intro tells
    have foreseen : shelfPlan.conflicts shelfProject.files ⟨""⟩ = [⟨"x.routes.ts"⟩] := by
      decide +kernel
    have same := tells.backedUp
    rw [originals, if_pos rfl, foreseen] at same
    cases same
  · intro holds
    have carried := (holds.backedUp _ (List.mem_of_mem_head? first)).carries ["X.test.ts"]
    have older : shelfProject.files.node? (shelfProject.files.place
        (Path.join ⟨""⟩ ⟨"x.routes.ts"⟩) ++ ["X.test.ts"]) = some (.file "old test\n".toUTF8) := by
      decide +kernel
    rw [overwritten, older] at carried
    exact absurd carried (by decide +kernel)

end ResourceScaffold

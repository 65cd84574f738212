import ResourceScaffold.Proofs.Apply.Outcome
import ResourceScaffold.Proofs.Apply.Replay

/-!
Contract: that carrying out a plan changes the contents of files as its tasks do, wherever its paths
lead.

Owns:
- the steps for one file, when they succeed;
- the run over all files, and over a whole plan;
- that the tasks of a generated plan are about different files.

Does not own: what becomes of a file in the end.
-/

namespace ResourceScaffold

open FileTree Text

variable {host : Host} {root path : Path} {policy : OverwritePolicy} {file : GeneratedFile}
  {before after : Session}

/-- Where a path leads from a root, if it can be followed. -/
abbrev FileTree.landingBelow (tree : FileTree) (root path : Path) : Location :=
  tree.landing (root.join path)

theorem FileTree.landingBelow_congr {tree tree' : FileTree}
    (sameStart : tree'.workingDirectory = tree.workingDirectory) (root : Path) :
    tree'.landingBelow root = tree.landingBelow root :=
  funext fun path => landing_congr sameStart (root.join path)

/-! ## Paths that end in a name -/

/-- The last part of a path is a name, and no step up. -/
def Path.EndsInName (path : Path) : Prop :=
  ∃ last, path.names.getLast? = some last ∧ last ≠ ['.', '.']

/-- A path that ends in a name leads to that name in a directory, and its backup to another name in
the same directory. -/
theorem Path.EndsInName.isAside (endsInName : path.EndsInName) {time : String}
    (digits : ∀ character ∈ time.toList, character.isDigit = true) (tree : FileTree) (root : Path) :
    IsAside (tree.landingBelow root path) (tree.landingBelow root (backupPath path time)) := by
  obtain ⟨last, found, noStepUp⟩ := endsInName
  obtain ⟨front, names⟩ := List.getLast?_eq_some_iff.1 found
  have member : last ∈ path.names := List.mem_of_mem_getLast? found
  have whole : '/' ∉ (String.ofList last).toList := by
    rw [String.toList_ofList]
    exact Path.notMem_of_mem_segments (Path.mem_segments_of_mem_names member)
  obtain ⟨whole', busy', noStepUp'⟩ := backupName_isName whole digits
  have named : path.fileName?.getD "" = String.ofList last := by
    rw [Path.fileName?_of_getLast? found noStepUp, Option.getD_some]
  obtain ⟨names', absolute'⟩ := Path.names_withFileName found noStepUp whole' busy'
  obtain ⟨start, landing⟩ := tree.landing_join_names root path
  refine ⟨landingFrom start (front.map String.ofList), String.ofList last, time, ?_, ?_, digits⟩
  · rw [landingBelow, landing path rfl, names,
      landingFrom_concat start front (Path.isIdle_of_mem_names member) noStepUp]
  · rw [landingBelow, backupPath, named]
    change tree.landing (root.join (path.withFileName (backupName (String.ofList last) time))) = _
    rw [landing _ absolute', names', names, List.dropLast_concat,
      landingFrom_concat start front busy' noStepUp', String.ofList_toList]

/-! ## Steps -/

theorem CreatesParent.contents {tree created : FileTree}
    (creates : CreatesParent host path tree created) :
    created.contents = tree.contents ∧ created.workingDirectory = tree.workingDirectory := by
  rcases creates with rfl | ⟨directory, -, rfl⟩
  · exact ⟨rfl, rfl⟩
  · exact createChain_contents Host.make_eq_ok tree _

/-- A write that succeeds changes the file that its path leads to, and no other one. -/
theorem writeText_contents {content : String} (wellFormed : before.files.WellFormed)
    (ran : writeText host path content before = .ok () after) :
    after.files.WellFormed ∧ after.files.workingDirectory = before.files.workingDirectory ∧
      after.files.contents =
        before.files.contents.write (before.files.landing path) content.toUTF8 := by
  obtain ⟨created, changed, creates, written, rfl⟩ := writeText_eq_ok ran
  obtain ⟨same, sameStart⟩ := creates.contents
  obtain ⟨-, rfl, valid, noDirectory⟩ :=
    writeFile_landing (creates.keeps wellFormed).2 written
  refine ⟨valid, sameStart, ?_⟩
  change (created.set (created.landing path) (.file content.toUTF8)).contents = _
  rw [contents_set (ne_nil_of_noDirectory noDirectory), same, landing_congr sameStart]

theorem writeText_error_contents {content : String} (wellFormed : before.files.WellFormed)
    {failure : Failure} (ran : writeText host path content before = .error failure after) :
    after.files.WellFormed ∧ after.files.workingDirectory = before.files.workingDirectory ∧
      after.files.contents = before.files.contents := by
  obtain ⟨created, creates, rfl⟩ := writeText_eq_error ran
  exact ⟨(creates.keeps wellFormed).2, creates.contents.2, creates.contents.1⟩

/-- What is done about a file is what a policy does. -/
structure Task.Follows (policy : OverwritePolicy) (task : Task) : Prop where
  skipped : task.outcome = .skipped → policy = .skip
  backedUp : ∀ backup, task.outcome = .backedUp backup → policy = .backup

namespace ScaffoldPlan

theorem writeGenerated_contents {outcome : FileOutcome} {report : FileReport}
    (wellFormed : before.files.WellFormed)
    (ran : writeGenerated host root file outcome before = .ok report after) :
    report = ⟨file.path, outcome⟩ ∧ after.files.WellFormed ∧
      after.files.workingDirectory = before.files.workingDirectory ∧
      after.files.contents = before.files.contents.write
        (before.files.landingBelow root file.path) file.content.toUTF8 := by
  obtain ⟨⟨⟩, middle, wrote, rest⟩ := Action.bind_eq_ok_iff.1 ran
  have written := writeText_contents wellFormed wrote
  cases rest
  exact ⟨rfl, written⟩

/-- Moving a file aside takes along all that lies below it. -/
theorem backUp_contents (shows : host.ShowsDigits) (endsInName : file.path.EndsInName)
    (wellFormed : before.files.WellFormed) {backup : Path}
    (ran : backUp host root file before = .ok backup after) :
    after.files.WellFormed ∧ after.files.workingDirectory = before.files.workingDirectory ∧
      IsAside (before.files.landingBelow root file.path) (before.files.landingBelow root backup) ∧
      before.files.contents.Admits (before.files.landingBelow root file.path)
        (before.files.landingBelow root backup) ∧
      after.files.contents = before.files.contents.moved
        (before.files.landingBelow root file.path) (before.files.landingBelow root backup) := by
  obtain ⟨rfl, renamed, -⟩ := backUp_ok ran
  have aside := endsInName.isAside (shows before.clockReadings) before.files root
  obtain ⟨moves, replaces⟩ := rename_eq_move wellFormed aside.apart renamed
  rw [moves]
  refine ⟨wellFormed.move replaces.parent aside.apart.2 aside.apart.1, rfl, aside, ⟨?_, ?_⟩,
    contents_move aside.apart⟩
  · intro rest below
    rw [contents, replaces.childless rest below]
  · intro occupied
    obtain ⟨content, found⟩ := Option.ne_none_iff_exists'.1 occupied
    obtain ⟨content', found'⟩ := replaces.file content (contents_eq_some_iff.1 found)
    rw [contents_eq_some_iff.2 found']
    exact Option.some_ne_none _

theorem follows_outcomeOf (host : Host) (root : Path) (policy : OverwritePolicy) (tree : FileTree)
    (count : Nat) (file : GeneratedFile) :
    (fileTask host root policy tree count file).Follows policy where
  skipped outcome := (outcomeOf_eq_skipped_iff.1 outcome).1
  backedUp _ outcome := (outcomeOf_eq_backedUp_iff.1 outcome).1

/-- A step for one file that succeeds is a task that follows the policy. -/
theorem applyFile_changes (shows : host.ShowsDigits) (endsInName : file.path.EndsInName)
    (wellFormed : before.files.WellFormed) {report : FileReport}
    (ran : applyFile host root policy file before = .ok report after) :
    ∃ task : Task, task.path = file.path ∧ task.content = file.content ∧ task.report = report ∧
      task.Follows policy ∧ after.files.WellFormed ∧
      after.files.workingDirectory = before.files.workingDirectory ∧
      task.Changes (before.files.landingBelow root) before.files.contents after.files.contents := by
  refine ⟨fileTask host root policy before.files before.clockReadings file, rfl, rfl, ?_⟩
  have follows := follows_outcomeOf host root policy before.files before.clockReadings file
  rw [fileTask] at follows ⊢
  rcases applyFile_cases host root policy file before with
    ⟨outcome, noted, same, -, step⟩ | ⟨outcome, noted, same, -, step⟩ | ⟨outcome, step⟩
  · rw [step] at ran
    rw [outcome] at follows ⊢
    rw [← same] at wellFormed ⊢
    obtain ⟨rfl, valid, sameStart, changed⟩ := writeGenerated_contents wellFormed ran
    rw [changed]
    exact ⟨rfl, follows, valid, sameStart, .written⟩
  · rw [step] at ran
    cases ran
    rw [outcome] at follows ⊢
    rw [same]
    exact ⟨rfl, follows, wellFormed, rfl, .skipped⟩
  · rw [step] at ran
    rw [outcome] at follows ⊢
    obtain ⟨backup, middle, backsUp, writes⟩ := Action.bind_eq_ok_iff.1 ran
    obtain ⟨rfl, -, -⟩ := backUp_ok backsUp
    obtain ⟨valid, sameStart, aside, admits, moved⟩ :=
      backUp_contents shows endsInName wellFormed backsUp
    obtain ⟨rfl, valid', sameStart', changed⟩ := writeGenerated_contents valid writes
    rw [changed, moved, landingBelow_congr sameStart]
    exact ⟨rfl, follows, valid', sameStart'.trans sameStart, .backedUp aside admits⟩

theorem mapM_applyFile_replay (shows : host.ShowsDigits) {files : List GeneratedFile}
    (endInNames : ∀ file ∈ files, file.path.EndsInName) (wellFormed : before.files.WellFormed)
    {reports : List FileReport}
    (ran : files.mapM (applyFile host root policy) before = .ok reports after) :
    ∃ tasks : List Task,
      (tasks.map fun task => (task.path, task.content)) =
          files.map (fun file => (file.path, file.content)) ∧
        tasks.map Task.report = reports ∧ (∀ task ∈ tasks, task.Follows policy) ∧
        after.files.WellFormed ∧
        Replay (before.files.landingBelow root) before.files.contents tasks after.files.contents := by
  induction files generalizing before reports with
  | nil =>
      cases ran
      exact ⟨[], rfl, rfl, by simp, wellFormed, .nil⟩
  | cons file rest inductionHypothesis =>
      rw [List.forall_mem_cons] at endInNames
      obtain ⟨report, middle, reports', first, second, rfl⟩ := Action.mapM_cons_eq_ok ran
      obtain ⟨task, path, content, reported, follows, valid, sameStart, changes⟩ :=
        applyFile_changes shows endInNames.1 wellFormed first
      obtain ⟨tasks, same, reported', follows', valid', replay⟩ :=
        inductionHypothesis endInNames.2 valid second
      rw [landingBelow_congr sameStart] at replay
      refine ⟨task :: tasks, ?_, ?_, ?_, valid', .cons changes replay⟩
      · rw [List.map_cons, List.map_cons, path, content, same]
      · rw [List.map_cons, reported, reported']
      · exact List.forall_mem_cons.2 ⟨follows, follows'⟩

/-! ## Whole plans -/

variable {plan : ScaffoldPlan}

def KeepsAggregator (plan : ScaffoldPlan) (policy : OverwritePolicy) (root : Path)
    (tree : FileTree) : Prop :=
  policy = .skip ∧ plan.routeExists tree root = true

instance (plan : ScaffoldPlan) (policy : OverwritePolicy) (root : Path) (tree : FileTree) :
    Decidable (plan.KeepsAggregator policy root tree) :=
  inferInstanceAs (Decidable (_ ∧ _))

/-- The contents of files once the step for the aggregator is done. -/
def updated (plan : ScaffoldPlan) (policy : OverwritePolicy) (root : Path) (tree : FileTree) :
    Contents :=
  if plan.KeepsAggregator policy root tree then tree.contents
  else tree.contents.write (tree.landingBelow root plan.aggregator.path)
    plan.aggregator.after.toUTF8

/-- The course that carrying out a plan took: tasks for its files, reported and carried out one after
the other when the aggregator was dealt with. -/
structure Course (plan : ScaffoldPlan) (policy : OverwritePolicy) (root : Path)
    (before after : FileTree) (report : ScaffoldReport) (tasks : List Task) : Prop where
  files : (tasks.map fun task => (task.path, task.content)) =
    plan.files.map fun file => (file.path, file.content)
  reports : tasks.map Task.report = report.files
  follows : ∀ task ∈ tasks, task.Follows policy
  wellFormed : after.WellFormed
  replay : Replay (before.landingBelow root) (plan.updated policy root before) tasks after.contents

theorem apply_course (shows : host.ShowsDigits)
    (endInNames : ∀ file ∈ plan.files, file.path.EndsInName) (wellFormed : before.files.WellFormed)
    {report : ScaffoldReport} (ran : plan.apply host root policy before = .ok report after) :
    ∃ tasks, plan.Course policy root before.files after.files report tasks := by
  obtain ⟨-, aggregator, middle, reports, first, second, rfl⟩ := apply_eq_ok ran
  obtain ⟨valid, sameStart, changed⟩ : middle.files.WellFormed ∧
      middle.files.workingDirectory = before.files.workingDirectory ∧
      middle.files.contents = plan.updated policy root before.files := by
    rw [updated]
    rcases applyAggregator_cases plan host root policy before with
      ⟨keeps, noted, same, -, step⟩ | ⟨replaces, step⟩
    · rw [step] at first
      have kept : plan.KeepsAggregator policy root before.files := keeps
      cases first
      rw [if_pos kept, same]
      exact ⟨wellFormed, rfl, rfl⟩
    · have written : ¬plan.KeepsAggregator policy root before.files := replaces
      rw [step] at first
      obtain ⟨⟨⟩, noted, wrote, rest⟩ := Action.bind_eq_ok_iff.1 first
      have changed := writeText_contents wellFormed wrote
      cases rest
      rwa [if_neg written]
  obtain ⟨tasks, same, reported, follows, valid', replay⟩ :=
    mapM_applyFile_replay shows endInNames valid second
  rw [changed, landingBelow_congr sameStart] at replay
  exact ⟨tasks, same, reported, follows, valid', replay⟩

theorem updated_of_ne {tree : FileTree} {location : Location}
    (different : location ≠ tree.landingBelow root plan.aggregator.path) :
    plan.updated policy root tree location = tree.contents location := by
  rw [updated]
  split_ifs
  · rfl
  · exact Function.update_of_ne different _ _

namespace Course

variable {tree tree' : FileTree} {report : ScaffoldReport} {tasks : List Task}
  (course : plan.Course policy root tree tree' report tasks)

include course

theorem mem_backedUp_iff {path backup : Path} :
    (path, backup) ∈ report.backedUp ↔
      ∃ task ∈ tasks, task.path = path ∧ task.outcome = .backedUp backup := by
  simp only [ScaffoldReport.backedUp, ← course.reports, List.mem_filterMap, List.mem_map,
    FileReport.backedUp?_eq_some_iff]
  constructor
  · rintro ⟨_, ⟨task, member, rfl⟩, backsUp, here⟩
    exact ⟨task, member, here, backsUp⟩
  · rintro ⟨task, member, here, backsUp⟩
    exact ⟨task.report, ⟨task, member, rfl⟩, backsUp, here⟩

theorem mem_written_iff {path : Path} :
    path ∈ report.written ↔ ∃ task ∈ tasks, task.path = path ∧ task.outcome ≠ .skipped := by
  simp only [ScaffoldReport.written, ← course.reports, List.mem_filterMap, List.mem_map,
    FileReport.written?_eq_some_iff]
  constructor
  · rintro ⟨_, ⟨task, member, rfl⟩, writes, here⟩
    exact ⟨task, member, here, writes⟩
  · rintro ⟨task, member, here, writes⟩
    exact ⟨task.report, ⟨task, member, rfl⟩, writes, here⟩

theorem exists_task (member : file ∈ plan.files) :
    ∃ task ∈ tasks, task.path = file.path ∧ task.content = file.content := by
  have listed : (file.path, file.content) ∈ tasks.map fun task => (task.path, task.content) :=
    course.files ▸ List.mem_map_of_mem member
  obtain ⟨task, isTask, same⟩ := List.mem_map.1 listed
  exact ⟨task, isTask, (Prod.mk.inj same).1, (Prod.mk.inj same).2⟩

theorem exists_file {task : Task} (member : task ∈ tasks) :
    ∃ file ∈ plan.files, file.path = task.path ∧ file.content = task.content := by
  have listed : (task.path, task.content) ∈ plan.files.map fun file => (file.path, file.content) :=
    course.files ▸ List.mem_map_of_mem member
  obtain ⟨file, isFile, same⟩ := List.mem_map.1 listed
  exact ⟨file, isFile, (Prod.mk.inj same).1, (Prod.mk.inj same).2⟩

/-- Nothing stands any more in a directory that was moved aside. -/
theorem absent {front : Location}
    (displaced : ∃ task ∈ tasks, task.Displaces (tree.landingBelow root) front) (name : String) :
    tree'.contents (front ++ [name]) = none := by
  obtain ⟨task, member, displaces⟩ := displaced
  exact course.wellFormed.contents_valid.none_of_blocks
    (course.replay.blocks_of_displaces member displaces) name

/-- The directory of a file is not moved aside if nothing above the file is reported to be. -/
theorem not_displaced {front : Location} {name : String}
    (directories : ∀ pair ∈ report.backedUp, tree.landingBelow root pair.1 <+: front ++ [name] →
      tree.landingBelow root pair.1 = front ++ [name]) :
    ¬∃ task ∈ tasks, task.Displaces (tree.landingBelow root) front := by
  rintro ⟨task, member, ⟨backup, backsUp⟩, leads⟩
  have same := directories _ (course.mem_backedUp_iff.2 ⟨task, member, rfl, backsUp⟩)
    (leads.trans (List.prefix_append _ _))
  have lengths := leads.length_le
  rw [same, List.length_append, List.length_singleton] at lengths
  omega

end Course

end ScaffoldPlan

/-! ## Generated plans -/

theorem Layer.ending_getLast? (layer : Layer) : layer.ending.toList.getLast? = some 's' := by
  cases layer <;> decide +kernel

namespace Generator

variable {generator : Generator} {plan : ScaffoldPlan} {tree : FileTree}

theorem pathFor_getLast? (generator : Generator) (layer : Layer) :
    ∃ stem, (generator.pathFor layer).names.getLast? = some (stem ++ layer.ending.toList) ∧
      (stem ++ layer.ending.toList).getLast? = some 's' := by
  obtain ⟨word, fileName⟩ := generator.fileNameOf_eq layer
  obtain ⟨stem, last⟩ := Path.names_getLast?_append word layer.ending_whole layer.ending_long
  rw [← fileName] at last
  refine ⟨stem, Path.names_join_getLast? _ last, ?_⟩
  rw [List.getLast?_append, layer.ending_getLast?]
  rfl

theorem endsInName_pathFor (generator : Generator) (layer : Layer) :
    (generator.pathFor layer).EndsInName := by
  obtain ⟨stem, found, last⟩ := generator.pathFor_getLast? layer
  refine ⟨_, found, fun dots => ?_⟩
  rw [dots] at last
  cases last

/-- The file of a layer lies in a directory, under a name with the layer's ending. -/
theorem landingBelow_pathFor (generator : Generator) (tree : FileTree) (root : Path) (layer : Layer) :
    ∃ front stem, tree.landingBelow root (generator.pathFor layer) =
        front ++ [String.ofList (stem ++ layer.ending.toList)] ∧
      (stem ++ layer.ending.toList).getLast? = some 's' := by
  obtain ⟨stem, found, last⟩ := generator.pathFor_getLast? layer
  obtain ⟨front, names⟩ := List.getLast?_eq_some_iff.1 found
  obtain ⟨start, landing⟩ := tree.landing_join_names root (generator.pathFor layer)
  have busy := Path.isIdle_of_mem_names (List.mem_of_mem_getLast? found)
  have noStepUp : stem ++ layer.ending.toList ≠ ['.', '.'] := fun dots => by
    rw [dots] at last
    cases last
  refine ⟨landingFrom start (front.map String.ofList), stem, ?_, last⟩
  rw [landingBelow, landing _ rfl, names, landingFrom_concat start front busy noStepUp]

/-- Different layers have different files, wherever their directories are. -/
theorem landingBelow_pathFor_inj {first second : Layer}
    (same : tree.landingBelow root (generator.pathFor first) =
      tree.landingBelow root (generator.pathFor second)) : first = second := by
  obtain ⟨front, stem, here, -⟩ := generator.landingBelow_pathFor tree root first
  obtain ⟨front', stem', here', -⟩ := generator.landingBelow_pathFor tree root second
  rw [here, here'] at same
  obtain ⟨-, names⟩ := List.append_inj' same rfl
  exact Layer.eq_of_endings (String.ofList_inj.1 (List.singleton_inj.1 names))

/-- No file of a layer is named as a backup is. -/
theorem landingBelow_pathFor_ne (generator : Generator) (tree : FileTree) (root : Path)
    (layer : Layer) (front : Location) (word time : String) :
    tree.landingBelow root (generator.pathFor layer) ≠ front ++ [backupName word time] := by
  obtain ⟨front', stem, here, last⟩ := generator.landingBelow_pathFor tree root layer
  rw [here]
  intro same
  obtain ⟨-, names⟩ := List.append_inj' same rfl
  have final : (backupName word time).toList.getLast? = some 'k' := by
    rw [backupName, String.toList_append, List.getLast?_append_of_ne_nil _ (by decide)]
    rfl
  rw [← List.singleton_inj.1 names, String.toList_ofList, last] at final
  cases final

theorem endInNames (planned : generator.plan root before = .ok plan after) :
    ∀ file ∈ plan.files, file.path.EndsInName := by
  obtain ⟨-, paths, -⟩ := plan_eq_ok planned
  rw [← List.forall_mem_map (P := Path.EndsInName), paths, List.forall_mem_map]
  exact fun layer _ => generator.endsInName_pathFor layer

/-- The tasks of a generated plan are about different files, none of which is a backup. -/
theorem distinct_of_plan (planned : generator.plan root before = .ok plan after) {tasks : List Task}
    (files : (tasks.map fun task => (task.path, task.content)) =
      plan.files.map fun file => (file.path, file.content)) (tree : FileTree) (root' : Path) :
    Distinct (tree.landingBelow root') tasks := by
  obtain ⟨-, paths, -⟩ := plan_eq_ok planned
  have same : tasks.map Task.path = Layer.all.map generator.pathFor := by
    have firsts := congrArg (List.map Prod.fst) files
    rw [List.map_map, List.map_map] at firsts
    exact firsts.trans paths
  constructor
  · have pairwise : (Layer.all.map generator.pathFor).Pairwise fun first second =>
        tree.landingBelow root' first ≠ tree.landingBelow root' second := by
      rw [List.pairwise_map]
      exact Layer.nodup_all.imp fun differ same => differ (landingBelow_pathFor_inj same)
    rwa [← same, List.pairwise_map] at pairwise
  · intro task member front word time
    have isFile : task.path ∈ Layer.all.map generator.pathFor := same ▸ List.mem_map_of_mem member
    obtain ⟨layer, -, found⟩ := List.mem_map.1 isFile
    rw [← found]
    exact generator.landingBelow_pathFor_ne tree root' layer front word time

end Generator

end ResourceScaffold

import ResourceScaffold.Proofs.Apply.Account
import ResourceScaffold.Proofs.Execution.Untouched

/-!
Contract: what is left of the aggregator when a plan was carried out.

Owns:
- when the steps for the files leave a content at the place of the aggregator;
- when the aggregator stands as its own step left it, and a layout for which it does not.

Does not own: the splice that the new text of the aggregator comes from.
-/

namespace ResourceScaffold

open FileTree ResourceScaffold.Action

/-! ## What reaches the place of the aggregator -/

/-- A plan leaves a content at the place of the aggregator: nothing else gets there, and the place
is not moved away. -/
structure ScaffoldPlan.Delivers (plan : ScaffoldPlan) (policy : OverwritePolicy) (root : Path)
    (before : FileTree) (report : ScaffoldReport) (content : ByteArray) : Prop where
  /-- The step for the aggregator leaves the content there, unless something gets there later. -/
  own : plan.updated policy root before (before.landingBelow root plan.aggregator.path) =
      some content ∨
    (∃ file ∈ plan.files, file.path ∈ report.written ∧
      before.landingBelow root file.path = before.landingBelow root plan.aggregator.path) ∨
    ∃ pair ∈ report.backedUp,
      before.landingBelow root pair.2 = before.landingBelow root plan.aggregator.path
  /-- A file that is written there has the content. -/
  files : ∀ file ∈ plan.files, file.path ∈ report.written →
    before.landingBelow root file.path = before.landingBelow root plan.aggregator.path →
      file.content.toUTF8 = content
  /-- A backup that is put there has the content. -/
  backups : ∀ pair ∈ report.backedUp,
    before.landingBelow root pair.2 = before.landingBelow root plan.aggregator.path →
      plan.updated policy root before (before.landingBelow root pair.1) = some content
  /-- The directory of the aggregator is not moved aside. -/
  directories : ∀ pair ∈ report.backedUp,
    before.landingBelow root pair.1 <+: before.landingBelow root plan.aggregator.path →
      before.landingBelow root pair.1 = before.landingBelow root plan.aggregator.path

/-- The steps for the files leave the aggregator as its own step left it. -/
def ScaffoldPlan.SparesAggregator (plan : ScaffoldPlan) (policy : OverwritePolicy) (root : Path)
    (before : FileTree) (report : ScaffoldReport) : Prop :=
  ∀ content, plan.updated policy root before (before.landingBelow root plan.aggregator.path) =
    some content → plan.Delivers policy root before report content

namespace ScaffoldPlan

variable {plan : ScaffoldPlan} {policy : OverwritePolicy} {root : Path} {before after : FileTree}
  {report : ScaffoldReport} {tasks : List Task} {content : ByteArray}

theorem updated_aggregator (plan : ScaffoldPlan) (policy : OverwritePolicy) (root : Path)
    (tree : FileTree) :
    plan.updated policy root tree (tree.landingBelow root plan.aggregator.path) =
      if plan.KeepsAggregator policy root tree then
        tree.contents (tree.landingBelow root plan.aggregator.path)
      else some plan.aggregator.after.toUTF8 := by
  rw [updated]
  split_ifs
  · rfl
  · exact Function.update_self _ _ _

/-- There is an aggregator once its step is done, if there was one before. -/
theorem exists_updated {text : String}
    (original : before.contents (before.landingBelow root plan.aggregator.path) =
      some text.toUTF8) (policy : OverwritePolicy) :
    ∃ content, plan.updated policy root before (before.landingBelow root plan.aggregator.path) =
      some content := by
  rw [updated_aggregator]
  split_ifs
  · exact ⟨_, original⟩
  · exact ⟨_, rfl⟩

namespace Course

variable (course : plan.Course policy root before after report tasks)
  (distinct : Distinct (before.landingBelow root) tasks) {front : Location} {name : String}
  (here : before.landingBelow root plan.aggregator.path = front ++ [name]) {old : ByteArray}
  (there : plan.updated policy root before (front ++ [name]) = some old)

include course distinct here there

/-- The aggregator has a content in the end if the plan delivers it. -/
theorem contents_of_delivers (delivers : plan.Delivers policy root before report content) :
    after.contents (front ++ [name]) = some content := by
  obtain ⟨own, files, backups, directories⟩ := delivers
  rw [here] at own files backups directories
  cases course.replay.fate distinct there with
  | displaced moved => exact absurd moved (course.not_displaced directories)
  | written task member writes leads same =>
      obtain ⟨file, isFile, samePath, sameContent⟩ := course.exists_file member
      have listed := course.mem_written_iff.2 ⟨task, member, samePath.symm, writes⟩
      rw [← samePath] at leads
      rw [same, ← sameContent, files file isFile listed leads]
  | replaced task backup member backsUp leads same =>
      rw [same]
      exact backups (task.path, backup)
        (course.mem_backedUp_iff.2 ⟨task, member, rfl, backsUp⟩) leads
  | kept outside same =>
      rw [same]
      rcases own with own | ⟨file, isFile, listed, leads⟩ | ⟨⟨path, backup⟩, listed, leads⟩
      · exact own
      · -- The file would be written there.
        obtain ⟨task, member, samePath, writes⟩ := course.mem_written_iff.1 listed
        refine absurd ?_ (outside task member)
        rw [← leads, ← samePath]
        exact task.place_mem_targets writes
      · -- The backup would be put there.
        obtain ⟨task, member, -, backsUp⟩ := course.mem_backedUp_iff.1 listed
        refine absurd ?_ (outside task member)
        rw [← leads]
        exact task.backup_mem_targets backsUp

/-- If the aggregator has a content in the end, then the plan delivers it. -/
theorem delivers_of_contents (found : after.contents (front ++ [name]) = some content) :
    plan.Delivers policy root before report content := by
  have stays : ¬∃ task ∈ tasks, task.Displaces (before.landingBelow root) front := fun displaced => by
    rw [course.absent displaced] at found
    cases found
  constructor
  all_goals rw [here]
  · cases course.replay.fate distinct there with
    | displaced moved => exact absurd moved stays
    | written task member writes leads same =>
        obtain ⟨file, isFile, samePath, -⟩ := course.exists_file member
        exact Or.inr (Or.inl ⟨file, isFile,
          course.mem_written_iff.2 ⟨task, member, samePath.symm, writes⟩, samePath ▸ leads⟩)
    | replaced task backup member backsUp leads same =>
        exact Or.inr (Or.inr ⟨(task.path, backup),
          course.mem_backedUp_iff.2 ⟨task, member, rfl, backsUp⟩, leads⟩)
    | kept outside same => exact Or.inl (same.symm.trans found)
  · intro file isFile listed leads
    obtain ⟨task, member, samePath, writes⟩ := course.mem_written_iff.1 listed
    obtain ⟨task', member', samePath', sameContent⟩ := course.exists_task isFile
    obtain rfl := distinct.eq_of_place_eq member member' (by rw [samePath, samePath'])
    rw [← samePath] at leads
    rcases course.replay.path_eq distinct member writes leads with same | ⟨displaced, -⟩
    · rw [leads, found, Option.some.injEq] at same
      rw [← sameContent, same]
    · exact absurd displaced stays
  · rintro ⟨path, backup⟩ listed leads
    obtain ⟨task, member, rfl, backsUp⟩ := course.mem_backedUp_iff.1 listed
    obtain ⟨front', word, time, isPath, isBackup, -⟩ := course.replay.aside member backsUp
    obtain ⟨rfl, -⟩ := List.append_inj' (leads.symm.trans isBackup) rfl
    rcases course.replay.backup_eq distinct member backsUp isPath isBackup
      (Or.inr (leads ▸ there)) with ⟨-, same⟩ | ⟨displaced, -⟩
    · rw [← same, leads, found]
    · exact absurd displaced stays
  · rintro ⟨path, backup⟩ listed leads
    obtain ⟨task, member, rfl, backsUp⟩ := course.mem_backedUp_iff.1 listed
    refine (List.prefix_concat_iff.1 leads).elim id fun inner => ?_
    exact absurd ⟨task, member, ⟨backup, backsUp⟩, inner⟩ stays

/-- The aggregator has a content in the end if and only if the plan delivers it. -/
theorem contents_iff_delivers :
    after.contents (front ++ [name]) = some content ↔
      plan.Delivers policy root before report content :=
  ⟨course.delivers_of_contents distinct here there, course.contents_of_delivers distinct here there⟩

/-- The aggregator stands as its own step left it if and only if the other steps spare it. -/
theorem spares_iff :
    after.contents (front ++ [name]) = plan.updated policy root before (front ++ [name]) ↔
      plan.SparesAggregator policy root before report := by
  rw [ScaffoldPlan.SparesAggregator, here, there]
  constructor
  · rintro same content ⟨⟩
    exact course.delivers_of_contents distinct here there same
  · intro spares
    exact course.contents_of_delivers distinct here there (spares old rfl)

end Course

/-! ## Reports -/

/-- The report of a run names the aggregator, unless the policy kept it. -/
theorem apply_aggregator {host : Host} {session session' : Session}
    (ran : plan.apply host root policy session = .ok report session') :
    report.aggregator =
      if plan.KeepsAggregator policy root session.files then none
      else some plan.aggregator.path := by
  obtain ⟨-, aggregator, middle, reports, first, -, rfl⟩ := apply_eq_ok ran
  rcases applyAggregator_cases plan host root policy session with
    ⟨keeps, noted, -, -, step⟩ | ⟨replaces, step⟩
  · rw [step] at first
    cases first
    exact (if_pos keeps).symm
  · rw [step] at first
    obtain ⟨⟨⟩, written, -, rest⟩ := Action.bind_eq_ok_iff.1 first
    cases rest
    exact (if_neg replaces).symm

end ScaffoldPlan

/-- The aggregator is as a report says: it has the text that an edit ends with if the report names it,
and else it is as it was. -/
def AggregatorEdit.Stands (edit : AggregatorEdit) (root : Path) (before : FileTree)
    (report : ScaffoldReport) (after : FileTree) : Prop :=
  after.contents (before.landingBelow root edit.path) =
    if report.aggregator = none then before.contents (before.landingBelow root edit.path)
    else some edit.after.toUTF8

instance (edit : AggregatorEdit) (root : Path) (before : FileTree) (report : ScaffoldReport)
    (after : FileTree) : Decidable (edit.Stands root before report after) :=
  inferInstanceAs (Decidable (_ = _))

theorem ScaffoldPlan.stands_iff {plan : ScaffoldPlan} {policy : OverwritePolicy} {root : Path}
    {before after : FileTree} {report : ScaffoldReport}
    (named : report.aggregator =
      if plan.KeepsAggregator policy root before then none else some plan.aggregator.path) :
    plan.aggregator.Stands root before report after ↔
      after.contents (before.landingBelow root plan.aggregator.path) =
        plan.updated policy root before (before.landingBelow root plan.aggregator.path) := by
  rw [AggregatorEdit.Stands, named, updated_aggregator]
  by_cases keeps : plan.KeepsAggregator policy root before
  · rw [if_pos keeps, if_pos keeps, if_pos rfl]
  · rw [if_neg keeps, if_neg keeps, if_neg (Option.some_ne_none _)]

/-! ## Generated plans -/

/-- A name ends as those of generated files or of backups do. -/
def MayBeWritten (name : String) : Prop :=
  ∃ ending ∈ ".bak" :: Layer.all.map Layer.ending, ending.toList <:+ name.toList

instance (name : String) : Decidable (MayBeWritten name) :=
  inferInstanceAs (Decidable (∃ ending ∈ _, _))

theorem mayBeWritten_backupName (word time : String) : MayBeWritten (backupName word time) := by
  refine ⟨".bak", List.mem_cons_self, ?_⟩
  rw [backupName, String.toList_append]
  exact List.suffix_append _ _

namespace Generator

variable {generator : Generator} {host : Host} {root : Path} {policy : OverwritePolicy}
  {plan : ScaffoldPlan} {before middle after : Session} {report : ScaffoldReport}

/-- The edit of a generated plan begins with the text of the aggregator. -/
theorem plan_original (planned : generator.plan root before = .ok plan after) :
    before.files.contents (before.files.landingBelow root plan.aggregator.path) =
      some plan.aggregator.before.toUTF8 := by
  obtain ⟨text, middle, reads, spliced⟩ := Action.bind_eq_ok_iff.1 planned
  obtain ⟨result, last, -, generated⟩ := Action.bind_eq_ok_iff.1 spliced
  obtain ⟨files, final, -, ends⟩ := Action.bind_eq_ok_iff.1 generated
  cases ends
  obtain ⟨content, found, decodes⟩ := readText_eq_ok_iff.1 (reading_eq_ok_iff.1 reads).1
  rw [contents_eq_some_iff, ← eq_toUTF8_of_fromUTF8? decodes]
  exact (status_landing found).2.2

/-- Where the file of a layer lies, the last name shows that it may be written. -/
theorem exists_mayBeWritten (planned : generator.plan root before = .ok plan after)
    {file : GeneratedFile} (member : file ∈ plan.files) (tree : FileTree) (root' : Path) :
    ∃ name ∈ tree.landingBelow root' file.path, MayBeWritten name := by
  obtain ⟨-, paths, -⟩ := plan_eq_ok planned
  have isFile : file.path ∈ Layer.all.map generator.pathFor := paths ▸ List.mem_map_of_mem member
  obtain ⟨layer, listed, same⟩ := List.mem_map.1 isFile
  obtain ⟨front, stem, here, -⟩ := generator.landingBelow_pathFor tree root' layer
  rw [← same, here]
  refine ⟨_, List.mem_append_right _ List.mem_cons_self,
    layer.ending, List.mem_cons_of_mem _ (List.mem_map_of_mem listed), ?_⟩
  rw [String.toList_ofList]
  exact List.suffix_append _ _

/-- No step for a file touches an aggregator whose place has no name on the way that a generated file
or a backup may have. -/
theorem spares_of_unmistakable (planned : generator.plan root before = .ok plan middle)
    {tree tree' : FileTree} {tasks : List Task}
    (course : plan.Course policy root tree tree' report tasks)
    (unmistakable : ∀ name ∈ tree.landingBelow root plan.aggregator.path, ¬MayBeWritten name) :
    plan.SparesAggregator policy root tree report := by
  have outside {file : GeneratedFile} (member : file ∈ plan.files) :
      ¬tree.landingBelow root file.path <+: tree.landingBelow root plan.aggregator.path := by
    intro leads
    obtain ⟨name, inside, written⟩ := exists_mayBeWritten planned member tree root
    exact unmistakable name (leads.mem inside) written
  intro content there
  constructor
  · exact Or.inl there
  · intro file isFile listed leads
    refine absurd ?_ (outside isFile)
    rw [leads]
  · rintro ⟨path, backup⟩ listed leads
    obtain ⟨task, member, rfl, backsUp⟩ := course.mem_backedUp_iff.1 listed
    obtain ⟨front, word, time, -, isBackup, -⟩ := course.replay.aside member backsUp
    refine absurd (mayBeWritten_backupName word time) (unmistakable _ ?_)
    rw [← leads, isBackup]
    exact List.mem_append_right _ List.mem_cons_self
  · rintro ⟨path, backup⟩ listed leads
    obtain ⟨task, member, rfl, -⟩ := course.mem_backedUp_iff.1 listed
    obtain ⟨file, isFile, samePath, -⟩ := course.exists_file member
    exact absurd (samePath ▸ leads) (outside isFile)

/-- After a plan was made and carried out, the aggregator is as the report says if and only if the
steps for the files spare it. They do if no name on the way to its place ends as the name of a
generated file or of a backup. -/
theorem aggregator_stands_iff (planned : generator.plan root before = .ok plan middle)
    (wellFormed : before.files.WellFormed) (shows : host.ShowsDigits)
    (ran : plan.apply host root policy middle = .ok report after) :
    (plan.aggregator.Stands root before.files report after.files ↔
        plan.SparesAggregator policy root before.files report) ∧
      ((∀ name ∈ before.files.landingBelow root plan.aggregator.path, ¬MayBeWritten name) →
        plan.aggregator.Stands root before.files report after.files) := by
  have looks := generator.onlyLooks_plan root before
  rw [final_of_ok planned] at looks
  obtain ⟨tasks, course⟩ :=
    ScaffoldPlan.apply_course shows (endInNames planned) (looks.files ▸ wellFormed) ran
  have named := ScaffoldPlan.apply_aggregator ran
  rw [looks.files] at course named
  have distinct := distinct_of_plan planned course.files before.files root
  obtain ⟨content, there⟩ := ScaffoldPlan.exists_updated (plan_original planned) policy
  have spares : plan.aggregator.Stands root before.files report after.files ↔
      plan.SparesAggregator policy root before.files report := by
    obtain ⟨front, name, here⟩ := exists_name (plan_original planned)
    rw [ScaffoldPlan.stands_iff named]
    rw [here] at there ⊢
    exact course.spares_iff distinct here there
  exact ⟨spares, fun unmistakable =>
    spares.2 (spares_of_unmistakable planned course unmistakable)⟩

/-- No step for a file touches the aggregator of the project for orders. -/
theorem aggregator_stands_iff_orders :
    ∃ middle report after, orderGenerator.plan ⟨"app"⟩ orderProject = .ok orderPlan middle ∧
      orderPlan.apply (orderHost fun _ _ => none) ⟨"app"⟩ .backup middle = .ok report after ∧
      orderPlan.aggregator.Stands ⟨"app"⟩ orderProject.files report after.files ∧
      orderPlan.SparesAggregator .backup ⟨"app"⟩ orderProject.files report := by
  obtain ⟨middle, plans⟩ := orderGenerator_plan
  have succeeds : (orderGenerator.plan ⟨"app"⟩ >>= fun plan =>
      plan.apply (orderHost fun _ _ => none) ⟨"app"⟩ .backup).succeeds orderProject = true := by
    decide +kernel
  obtain ⟨report, after, both⟩ := Action.succeeds_iff.1 succeeds
  have ran := (Action.bind_of_ok plans).symm.trans both
  obtain ⟨spares, stands⟩ := aggregator_stands_iff plans (by decide)
    (orderPlan_admissible (fun _ _ => none) .backup).digits ran
  have standing := stands (by decide +kernel)
  exact ⟨middle, report, after, plans, ran, standing, spares.1 standing⟩

/-- The aggregator is not as the report says after a plan was made and carried out. -/
def Misreports (generator : Generator) (host : Host) (root : Path) (policy : OverwritePolicy)
    (before : Session) : Prop :=
  ∃ plan middle report after, generator.plan root before = .ok plan middle ∧
    plan.apply host root policy middle = .ok report after ∧
    ¬plan.aggregator.Stands root before.files report after.files

theorem misreports_of_run {before : Session}
    (runs : (match generator.plan root before with
      | .error _ _ => false
      | .ok plan middle =>
          match plan.apply host root policy middle with
          | .error _ _ => false
          | .ok report after =>
              !decide (plan.aggregator.Stands root before.files report after.files)) = true) :
    generator.Misreports host root policy before := by
  split at runs
  · cases runs
  · rename_i plan middle plans
    split at runs
    · cases runs
    · rename_i report after ran
      exact ⟨plan, middle, report, after, plans, ran, by simpa using runs⟩

/-- The aggregator is named like a file of routes, and so is the resource. -/
def indexGenerator : Generator :=
  { orderGenerator with
    name := ⟨"index", by decide⟩
    settings.layout.aggregatorFile := "index.routes.ts" }

def indexProject : Session where
  files :=
    { workingDirectory := ["work"]
      nodes := [(["work"], .directory), (["work", "app"], .directory),
        (["work", "app", "index.routes.ts"], .file "app;\n".toUTF8)] }

/-- The aggregator is where the service belongs, by a path that steps up out of a directory which is
not there yet. -/
def steppingAggregatorGenerator : Generator :=
  { orderGenerator with
    settings.layout.aggregatorFile := "OrderService.ts"
    settings.layout.serviceDir := ⟨"new/.."⟩ }

/-- A project that has the routes for orders. -/
def steppingAggregatorProject : Session where
  files :=
    { workingDirectory := ["work"]
      nodes := [(["work"], .directory), (["work", "app"], .directory),
        (["work", "app", "OrderService.ts"], .file "app;\n".toUTF8),
        (["work", "app", "order.routes.ts"], .file "old routes\n".toUTF8)] }

/-- The routes of a resource are written over an aggregator that is named like them. The service is
written over an aggregator that the report says was kept, if the path of the service cannot be
followed before its directories are created. -/
theorem misreports_index :
    indexGenerator.Misreports (orderHost fun _ _ => none) ⟨"app"⟩ .force indexProject ∧
      steppingAggregatorGenerator.Misreports (orderHost fun _ _ => none) ⟨"app"⟩ .skip
        steppingAggregatorProject :=
  ⟨misreports_of_run (by decide +kernel), misreports_of_run (by decide +kernel)⟩

end Generator

end ResourceScaffold

import ResourceScaffold.Proofs.Apply.Account

/-!
Contract: which files are preserved when a plan is carried out with backups.

Owns:
- files that are still there, at their places or where the report says;
- when this is so for all files of a project, and runs for which it is not.

Does not own: the aggregator, and other policies.
-/

namespace ResourceScaffold

open FileTree

/-! ## Files and reports -/

/-- Every file but the aggregator still has its content, at its own place or at that of the backup
which the report pairs with it. -/
def ScaffoldReport.Preserves (report : ScaffoldReport) (root aggregator : Path)
    (before after : FileTree) : Prop :=
  ∀ location content, before.contents location = some content →
    location ≠ before.landingBelow root aggregator →
      after.contents location = some content ∨
        ∃ pair ∈ report.backedUp, before.landingBelow root pair.1 = location ∧
          after.contents (before.landingBelow root pair.2) = some content

/-- A plan spares the files of a project, apart from the aggregator. -/
structure ScaffoldPlan.Spares (plan : ScaffoldPlan) (root : Path) (before : FileTree)
    (report : ScaffoldReport) : Prop where
  /-- What a generated file is written over was backed up, or has the same content. -/
  generated : ∀ file ∈ plan.files, ∀ content,
    before.contents (before.landingBelow root file.path) = some content →
      before.landingBelow root file.path ≠ before.landingBelow root plan.aggregator.path →
        (∃ backup, (file.path, backup) ∈ report.backedUp) ∨ content = file.content.toUTF8
  /-- What a backup is moved onto has the same content, once the aggregator is written. -/
  backups : ∀ pair ∈ report.backedUp, ∀ content,
    before.contents (before.landingBelow root pair.2) = some content →
      before.landingBelow root pair.2 ≠ before.landingBelow root plan.aggregator.path →
        plan.updated .backup root before (before.landingBelow root pair.1) = some content
  /-- What is moved aside is no directory with files in it. -/
  directories : ∀ pair ∈ report.backedUp, ∀ location content,
    before.contents location = some content →
      location ≠ before.landingBelow root plan.aggregator.path →
        before.landingBelow root pair.1 <+: location → before.landingBelow root pair.1 = location

namespace ScaffoldPlan.Course

variable {plan : ScaffoldPlan} {root : Path} {before after : FileTree} {report : ScaffoldReport}
  {tasks : List Task} {task : Task} {front : Location} {name : String} {content : ByteArray}
  (course : plan.Course .backup root before after report tasks)
  (distinct : Distinct (before.landingBelow root) tasks)

include course

include distinct

/-- A file that a task moves aside gets as far as its backup. -/
theorem backup_eq {backup : Path} (member : task ∈ tasks) (backsUp : task.outcome = .backedUp backup)
    (found : plan.updated .backup root before (before.landingBelow root task.path) = some content ∨
      plan.updated .backup root before (before.landingBelow root backup) = some content) :
    after.contents (before.landingBelow root backup) =
          plan.updated .backup root before (before.landingBelow root task.path) ∨
      (∃ front word name, before.landingBelow root task.path = front ++ [word] ∧
        before.landingBelow root backup = front ++ [name] ∧
        ∃ task ∈ tasks, task.Displaces (before.landingBelow root) front) := by
  obtain ⟨front, word, time, here, there, -⟩ := course.replay.aside member backsUp
  exact (course.replay.backup_eq distinct member backsUp here there found).imp And.right
    fun ⟨displaced, _⟩ => ⟨front, word, _, here, there, displaced⟩

/-- Files are preserved if the plan spares them. -/
theorem preserves (spares : plan.Spares root before report) :
    report.Preserves root plan.aggregator.path before after := by
  intro location content found different
  have here : plan.updated .backup root before _ = some content :=
    (updated_of_ne different).trans found
  obtain ⟨front, name, rfl⟩ := exists_name found
  have stays := course.not_displaced fun pair listed leads =>
    spares.directories pair listed _ content found different leads
  cases course.replay.fate distinct here with
  | displaced moved => exact absurd moved stays
  | kept outside same => exact Or.inl (same.trans here)
  | replaced task backup member backsUp there same =>
      have listed := course.mem_backedUp_iff.2 ⟨task, member, rfl, backsUp⟩
      rw [← there] at found different
      exact Or.inl (same.trans (spares.backups _ listed content found different))
  | written task member writes there same =>
      cases outcome : task.outcome with
      | skipped => exact absurd outcome writes
      | written =>
          obtain ⟨file, isFile, samePath, sameContent⟩ := course.exists_file member
          rw [← there, ← samePath] at found different
          rcases spares.generated file isFile content found different with ⟨backup, listed⟩ | equal
          · -- Only this task is about the file.
            obtain ⟨task', member', samePath', backsUp⟩ := course.mem_backedUp_iff.1 listed
            obtain rfl := distinct.eq_of_place_eq member member' (by rw [samePath', samePath])
            rw [outcome] at backsUp
            cases backsUp
          · rw [equal, sameContent]
            exact Or.inl same
      | backedUp backup =>
          have listed := course.mem_backedUp_iff.2 ⟨task, member, rfl, outcome⟩
          rcases course.backup_eq distinct member outcome (Or.inl (there.symm ▸ here)) with
            moved | ⟨front', word, other, here', -, displaced⟩
          · rw [there, here] at moved
            exact Or.inr ⟨_, listed, there, moved⟩
          · rw [there] at here'
            obtain ⟨rfl, -⟩ := List.append_inj' here' rfl
            exact absurd displaced stays

/-- If files are preserved, then the plan spares them. -/
theorem spares (preserves : report.Preserves root plan.aggregator.path before after) :
    plan.Spares root before report where
  generated file isFile content found different := by
    obtain ⟨task, member, samePath, sameContent⟩ := course.exists_task isFile
    rw [← samePath] at found different
    obtain ⟨front, name, here⟩ := exists_name found
    by_cases backsUp : ∃ backup, task.outcome = .backedUp backup
    · obtain ⟨backup, backsUp⟩ := backsUp
      exact Or.inl ⟨backup, course.mem_backedUp_iff.2 ⟨task, member, samePath, backsUp⟩⟩
    · right
      have writes : task.outcome ≠ .skipped := fun skips => by
        cases (course.follows task member).skipped skips
      rcases preserves _ content found different with there | ⟨⟨path, backup⟩, listed, same, -⟩
      · rcases course.replay.path_eq distinct member writes here with written | ⟨displaced, -⟩
        · rw [written, Option.some.injEq, sameContent] at there
          exact there.symm
        · rw [here, course.absent displaced] at there
          cases there
      · obtain ⟨task', member', rfl, backsUp'⟩ := course.mem_backedUp_iff.1 listed
        obtain rfl := distinct.eq_of_place_eq member' member same
        exact absurd ⟨backup, backsUp'⟩ backsUp
  backups := by
    rintro ⟨path, backup⟩ listed content found different
    obtain ⟨task, member, rfl, backsUp⟩ := course.mem_backedUp_iff.1 listed
    have here : plan.updated .backup root before _ = some content :=
      (updated_of_ne different).trans found
    have there : after.contents (before.landingBelow root backup) = some content := by
      refine (preserves _ content found different).resolve_right ?_
      rintro ⟨⟨path, backup'⟩, listed', same, -⟩
      obtain ⟨task', member', rfl, -⟩ := course.mem_backedUp_iff.1 listed'
      exact distinct.path_ne_backup member' (course.replay.aside member backsUp) same
    rcases course.backup_eq distinct member backsUp (Or.inr here) with
      moved | ⟨front, word, name, -, isBackup, displaced⟩
    · rw [← moved, there]
    · rw [isBackup, course.absent displaced] at there
      cases there
  directories := by
    rintro ⟨path, backup⟩ listed location content found different leads
    obtain ⟨task, member, rfl, backsUp⟩ := course.mem_backedUp_iff.1 listed
    obtain ⟨front, name, rfl⟩ := exists_name found
    refine (List.prefix_concat_iff.1 leads).elim id fun inner => ?_
    have displaced : ∃ task ∈ tasks, task.Displaces (before.landingBelow root) front :=
      ⟨task, member, ⟨backup, backsUp⟩, inner⟩
    rcases preserves _ content found different with there | ⟨⟨path, backup'⟩, listed', same, there⟩
    · rw [course.absent displaced] at there
      cases there
    · -- A backup would be in the same directory.
      obtain ⟨task', member', rfl, backsUp'⟩ := course.mem_backedUp_iff.1 listed'
      obtain ⟨front', word, time, here, isBackup, -⟩ := course.replay.aside member' backsUp'
      rw [same] at here
      obtain ⟨rfl, -⟩ := List.append_inj' here rfl
      rw [isBackup, course.absent displaced] at there
      cases there

end ScaffoldPlan.Course

/-! ## Lost files -/

/-- A file that stood at a location is neither there any more nor in a backup of it. -/
def ScaffoldReport.Loses (report : ScaffoldReport) (root : Path) (before after : FileTree)
    (location : Location) (content : ByteArray) : Prop :=
  after.contents location ≠ some content ∧
    ∀ pair ∈ report.backedUp, before.landingBelow root pair.1 = location →
      after.contents (before.landingBelow root pair.2) ≠ some content

instance (report : ScaffoldReport) (root : Path) (before after : FileTree) (location : Location)
    (content : ByteArray) : Decidable (report.Loses root before after location content) :=
  inferInstanceAs (Decidable (_ ∧ _))

theorem ScaffoldReport.Loses.not_preserves {report : ScaffoldReport} {root aggregator : Path}
    {before after : FileTree} {location : Location} {content : ByteArray}
    (loses : report.Loses root before after location content)
    (found : before.contents location = some content)
    (different : location ≠ before.landingBelow root aggregator) :
    ¬report.Preserves root aggregator before after := by
  intro preserves
  rcases preserves location content found different with there | ⟨pair, listed, same, moved⟩
  · exact loses.1 there
  · exact loses.2 pair listed same moved

/-! ## Generated plans -/

/-- When a generated plan is carried out with backups, all files but the aggregator are preserved if
and only if the plan spares them. -/
theorem Generator.backup_preserves_iff {generator : Generator} {root root' : Path}
    {plan : ScaffoldPlan} {planning planned before after : Session} {host : Host}
    {report : ScaffoldReport} (isPlan : generator.plan root planning = .ok plan planned)
    (wellFormed : before.files.WellFormed) (shows : host.ShowsDigits)
    (ran : plan.apply host root' .backup before = .ok report after) :
    report.Preserves root' plan.aggregator.path before.files after.files ↔
      plan.Spares root' before.files report := by
  obtain ⟨tasks, course⟩ := ScaffoldPlan.apply_course shows (endInNames isPlan) wellFormed ran
  have distinct := distinct_of_plan isPlan course.files before.files root'
  exact ⟨course.spares distinct, course.preserves distinct⟩

/-- A project whose service was backed up before, when the clock showed the same time. -/
def agedProject : Session where
  files :=
    { workingDirectory := ["work"]
      nodes := [(["work"], .directory), (["work", "app"], .directory),
        (["work", "app", "index.ts"], .file "app;\n".toUTF8),
        (["work", "app", "OrderService.ts"], .file "old service\n".toUTF8),
        (["work", "app", "OrderService.ts.20250102030405678.bak"],
          .file "first service\n".toUTF8)] }

/-- The second backup takes the place of the first one. -/
theorem orderPlan_loses_backup :
    ∃ report after,
      orderPlan.apply (orderHost fun _ _ => none) ⟨"app"⟩ .backup agedProject = .ok report after ∧
        ¬report.Preserves ⟨"app"⟩ orderPlan.aggregator.path agedProject.files after.files := by
  have lost : ∃ report after,
      orderPlan.apply (orderHost fun _ _ => none) ⟨"app"⟩ .backup agedProject = .ok report after ∧
        report.Loses ⟨"app"⟩ agedProject.files after.files
          ["work", "app", "OrderService.ts.20250102030405678.bak"] "first service\n".toUTF8 := by
    decide +kernel
  obtain ⟨report, after, ran, loses⟩ := lost
  exact ⟨report, after, ran, loses.not_preserves (by decide +kernel) (by decide +kernel)⟩

/-- With an older backup of the same time in the project, the plan for orders does not spare it. -/
theorem Generator.backup_preserves_iff_aged :
    ∃ planned report after,
      orderGenerator.plan ⟨"app"⟩ orderProject = .ok orderPlan planned ∧
        orderPlan.apply (orderHost fun _ _ => none) ⟨"app"⟩ .backup agedProject =
          .ok report after ∧
        ¬orderPlan.Spares ⟨"app"⟩ agedProject.files report := by
  obtain ⟨planned, plans⟩ := orderGenerator_plan
  obtain ⟨report, after, ran, lost⟩ := orderPlan_loses_backup
  exact ⟨planned, report, after, plans, ran, fun spares => lost
    ((Generator.backup_preserves_iff plans (by decide)
      (orderPlan_admissible (fun _ _ => none) .backup).digits ran).2 spares)⟩

/-- The service lies where a path leads that steps up out of a directory which is not there yet. -/
def steppingGenerator : Generator :=
  { orderGenerator with
    settings.layout.serviceDir := ⟨"new/.."⟩ }

/-- A second backup at the same time takes the place of the first one. A file is written over without
a backup if its path cannot be followed before its directories are created. -/
theorem Generator.backup_loses_orders :
    (∃ planned report after,
      orderGenerator.plan ⟨"app"⟩ orderProject = .ok orderPlan planned ∧
        orderPlan.apply (orderHost fun _ _ => none) ⟨"app"⟩ .backup agedProject =
          .ok report after ∧
        ¬report.Preserves ⟨"app"⟩ orderPlan.aggregator.path agedProject.files after.files) ∧
      ∃ plan planned report after,
        steppingGenerator.plan ⟨"app"⟩ orderProject = .ok plan planned ∧
          plan.apply (orderHost fun _ _ => none) ⟨"app"⟩ .backup orderProject =
            .ok report after ∧
          ¬report.Preserves ⟨"app"⟩ plan.aggregator.path orderProject.files after.files := by
  constructor
  · obtain ⟨planned, plans⟩ := orderGenerator_plan
    obtain ⟨report, after, ran, lost⟩ := orderPlan_loses_backup
    exact ⟨planned, report, after, plans, ran, lost⟩
  · have lost : ∃ plan planned,
        steppingGenerator.plan ⟨"app"⟩ orderProject = .ok plan planned ∧
          ∃ report after,
            plan.apply (orderHost fun _ _ => none) ⟨"app"⟩ .backup orderProject =
              .ok report after ∧
            plan.aggregator.path = ⟨"index.ts"⟩ ∧
              report.Loses ⟨"app"⟩ orderProject.files after.files
                ["work", "app", "OrderService.ts"] "old service\n".toUTF8 := by
      decide +kernel
    obtain ⟨plan, planned, plans, report, after, ran, same, loses⟩ := lost
    refine ⟨plan, planned, report, after, plans, ran, loses.not_preserves (by decide +kernel) ?_⟩
    rw [same]
    decide +kernel

end ResourceScaffold

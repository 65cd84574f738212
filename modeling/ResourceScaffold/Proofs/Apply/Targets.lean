import ResourceScaffold.Proofs.Apply.Backup
import ResourceScaffold.Proofs.Apply.Task

/-!
Contract: plans whose tasks do not get in each other's way.

Owns:
- the targets of a plan, in the order in which they are dealt with;
- what is asked of the files, the clock and the paths before a plan is carried out;
- that the tasks of such a plan are ready if no target is at or below another one.

Does not own: why the targets of a generated plan are different.
-/

namespace ResourceScaffold

open FileTree

namespace ScaffoldPlan

/-! ## Targets -/

/-- The paths that a plan is about: the aggregator first, then the generated files. -/
def targets (plan : ScaffoldPlan) : List Path :=
  plan.aggregator.path :: plan.files.map GeneratedFile.path

/-- The place of a backup that is made at a reading of the clock. -/
def backupPlace (host : Host) (root : Path) (tree : FileTree) (path : Path) (reading : Nat) :
    Location :=
  tree.place (root.join (backupPath path (host.clock reading)))

/-- No file has the name of a backup that a run may make: neither is one there, nor is one among the
targets or above them. -/
def BackupsFree (plan : ScaffoldPlan) (host : Host) (root : Path) (session : Session) : Prop :=
  ∀ file ∈ plan.files, ∀ reading, session.clockReadings ≤ reading →
    reading < session.clockReadings + plan.files.length →
      session.files.node? (backupPlace host root session.files file.path reading) = none ∧
        ∀ target ∈ plan.targets, ¬ backupPlace host root session.files file.path reading <+:
          session.files.place (root.join target)

/-- If the clock stands still, all backups of a run have one time. -/
theorem BackupsFree.of_stillClock {plan : ScaffoldPlan} {host : Host} {root : Path}
    {session : Session} {time : String} (still : ∀ reading, host.clock reading = time)
    (free : ∀ backup ∈ plan.files.map fun file =>
        session.files.place (root.join (backupPath file.path time)),
      session.files.node? backup = none ∧
        ∀ place ∈ plan.targets.map fun target => session.files.place (root.join target),
          ¬ backup <+: place) :
    plan.BackupsFree host root session := by
  intro file member reading _ _
  rw [backupPlace, still]
  obtain ⟨vacant, outside⟩ := free _ (List.mem_map_of_mem member)
  exact ⟨vacant, fun target isTarget => outside _ (List.mem_map_of_mem isTarget)⟩

/-- What is asked before a plan is carried out: everything lies in a directory, the clock shows
digits, no path steps up, and the names of backups are free if backups are made. -/
structure Admissible (plan : ScaffoldPlan) (host : Host) (root : Path) (policy : OverwritePolicy)
    (session : Session) : Prop where
  wellFormed : session.files.WellFormed
  digits : host.ShowsDigits
  plainRoot : root.IsPlain
  plain : ∀ target ∈ plan.targets, target.IsPlain
  free : policy = .backup → plan.BackupsFree host root session

/-- No target is at or below another one. -/
def TargetsApart (plan : ScaffoldPlan) (root : Path) (tree : FileTree) : Prop :=
  (plan.targets.map fun target => tree.place (root.join target)).Pairwise Apart

/-! ## Tasks of targets -/

variable {plan : ScaffoldPlan} {host : Host} {root : Path} {policy : OverwritePolicy}
  {tree : FileTree} {session : Session} {task : Task} {backup : Path}

theorem fileTasks_paths (host : Host) (root : Path) (policy : OverwritePolicy) (tree : FileTree)
    (count : Nat) (files : List GeneratedFile) :
    (fileTasks host root policy tree count files).map Task.path =
      files.map GeneratedFile.path := by
  induction files generalizing count with
  | nil => rfl
  | cons file rest inductionHypothesis =>
      rw [fileTasks, List.map_cons, List.map_cons, inductionHypothesis]
      rfl

theorem tasks_paths (plan : ScaffoldPlan) (host : Host) (root : Path) (policy : OverwritePolicy)
    (tree : FileTree) (count : Nat) :
    (plan.tasks host root policy tree count).map Task.path = plan.targets := by
  rw [tasks, List.map_cons, fileTasks_paths, targets]
  rfl

theorem path_mem_targets {count : Nat} (member : task ∈ plan.tasks host root policy tree count) :
    task.path ∈ plan.targets := by
  rw [← tasks_paths plan host root policy tree count]
  exact List.mem_map_of_mem member

/-- Only under the policy that makes them do outcomes have backups. -/
theorem outcomeOf_backup {count : Nat} {path : Path}
    (isBackup : backup ∈ (outcomeOf host root policy tree count path).backup?) :
    policy = .backup ∧ backup = backupPath path (host.clock count) := by
  obtain ⟨backs, -, named⟩ :=
    outcomeOf_eq_backedUp_iff.1 (FileOutcome.mem_backup?_iff.1 isBackup)
  exact ⟨backs, named⟩

theorem readings_le (outcome : FileOutcome) : outcome.readings ≤ 1 := by
  cases outcome <;> simp [FileOutcome.readings]

/-- The backups of a run are named after the readings of the clock that it can make. -/
theorem fileTasks_backup {count : Nat} {files : List GeneratedFile}
    (member : task ∈ fileTasks host root policy tree count files)
    (isBackup : backup ∈ task.outcome.backup?) :
    policy = .backup ∧ ∃ file ∈ files, file.path = task.path ∧
      ∃ reading, count ≤ reading ∧ reading < count + files.length ∧
        backup = backupPath task.path (host.clock reading) := by
  induction files generalizing count with
  | nil => cases member
  | cons file rest inductionHypothesis =>
      rw [fileTasks] at member
      rcases List.mem_cons.1 member with rfl | later
      · rw [fileTask_outcome] at isBackup
        obtain ⟨backs, named⟩ := outcomeOf_backup isBackup
        refine ⟨backs, file, List.mem_cons_self, rfl, count, le_rfl, ?_, named⟩
        rw [List.length_cons]
        omega
      · obtain ⟨backs, file', inRest, path, reading, lower, upper, named⟩ :=
          inductionHypothesis later
        refine ⟨backs, file', List.mem_cons_of_mem _ inRest, path, reading, by omega, ?_, named⟩
        have once := readings_le (fileTask host root policy tree count file).outcome
        rw [List.length_cons]
        omega

theorem aggregatorTask_backup (plan : ScaffoldPlan) (root : Path) (policy : OverwritePolicy)
    (tree : FileTree) : (plan.aggregatorTask root policy tree).outcome.backup? = none := by
  rw [aggregatorTask]
  split_ifs <;> rfl

theorem tasks_backup {count : Nat} (member : task ∈ plan.tasks host root policy tree count)
    (isBackup : backup ∈ task.outcome.backup?) :
    policy = .backup ∧ ∃ file ∈ plan.files, file.path = task.path ∧
      ∃ reading, count ≤ reading ∧ reading < count + plan.files.length ∧
        backup = backupPath task.path (host.clock reading) := by
  rw [tasks] at member
  rcases List.mem_cons.1 member with rfl | later
  · rw [aggregatorTask_backup] at isBackup
    cases isBackup
  · exact fileTasks_backup later isBackup

/-! ## Ready tasks -/

theorem mem_places {place : Location} (member : place ∈ task.places tree root) :
    place = tree.place (root.join task.path) ∨
      ∃ backup ∈ task.outcome.backup?, place = tree.place (root.join backup) := by
  rcases List.mem_cons.1 member with same | moved
  · exact Or.inl same
  · obtain ⟨backup, isBackup, rfl⟩ := List.mem_map.1 moved
    exact Or.inr ⟨backup, by simpa using isBackup, rfl⟩

section Admissible

variable (admissible : plan.Admissible host root policy session)

include admissible

/-- The place of a backup is vacant, leads to no target, and lies in a directory that leads to the
target which is backed up. -/
theorem Admissible.backup_spec
    (member : task ∈ plan.tasks host root policy session.files session.clockReadings)
    (isBackup : backup ∈ task.outcome.backup?) :
    session.files.node? (session.files.place (root.join backup)) = none ∧
      (∀ target ∈ plan.targets, ¬ session.files.place (root.join backup) <+:
        session.files.place (root.join target)) ∧
      (session.files.place (root.join backup)).dropLast <+:
        session.files.place (root.join task.path) := by
  obtain ⟨backs, file, inFiles, path, reading, lower, upper, rfl⟩ := tasks_backup member isBackup
  obtain ⟨vacant, outside⟩ := admissible.free backs file inFiles reading lower upper
  rw [path, backupPlace] at vacant outside
  exact ⟨vacant, outside, backup_dropLast_leads (admissible.plain _ (path_mem_targets member))
    (admissible.digits reading)⟩

/-- The target of a task and the backup of another one are apart. -/
theorem Admissible.target_apart_backup {other : Task}
    (member : task ∈ plan.tasks host root policy session.files session.clockReadings)
    (isOther : other ∈ plan.tasks host root policy session.files session.clockReadings)
    (apart : Apart (session.files.place (root.join task.path))
      (session.files.place (root.join other.path)))
    (isBackup : backup ∈ other.outcome.backup?) :
    Apart (session.files.place (root.join task.path)) (session.files.place (root.join backup)) := by
  obtain ⟨-, outside, leads⟩ := admissible.backup_spec isOther isBackup
  have notBelow := outside task.path (path_mem_targets member)
  refine ⟨fun inner => ?_, notBelow⟩
  rcases eq_or_leads_dropLast inner with same | above
  · rw [same] at notBelow
    exact notBelow List.prefix_rfl
  · exact apart.1 (above.trans leads)

/-- The backups of two targets that are apart do not lead to each other. -/
theorem Admissible.backup_not_leads {other : Task} {backup' : Path}
    (member : task ∈ plan.tasks host root policy session.files session.clockReadings)
    (isOther : other ∈ plan.tasks host root policy session.files session.clockReadings)
    (apart : Apart (session.files.place (root.join task.path))
      (session.files.place (root.join other.path)))
    (isBackup : backup ∈ task.outcome.backup?) (isBackup' : backup' ∈ other.outcome.backup?) :
    ¬ session.files.place (root.join backup) <+: session.files.place (root.join backup') := by
  obtain ⟨-, outside, -⟩ := admissible.backup_spec member isBackup
  obtain ⟨-, -, leads⟩ := admissible.backup_spec isOther isBackup'
  intro inner
  rcases eq_or_leads_dropLast inner with same | above
  · -- One name for two backups can only come from one target.
    obtain ⟨-, -, -, -, reading, -, -, rfl⟩ := tasks_backup member isBackup
    obtain ⟨-, -, -, -, reading', -, -, rfl⟩ := tasks_backup isOther isBackup'
    have targets := place_backupPath_inj (admissible.plain _ (path_mem_targets member))
      (admissible.plain _ (path_mem_targets isOther)) (admissible.digits reading)
      (admissible.digits reading') same
    rw [targets] at apart
    exact apart.1 List.prefix_rfl
  · exact outside other.path (path_mem_targets isOther) (above.trans leads)

/-- If no target is at or below another one, no task gets in the way of another one. -/
theorem Admissible.ready (apart : plan.TargetsApart root session.files) :
    Ready root session.files
      (plan.tasks host root policy session.files session.clockReadings) where
  wellFormed := admissible.wellFormed
  plain task member :=
    admissible.plainRoot.join (admissible.plain _ (path_mem_targets member))
  plainBackup task member backup isBackup := by
    obtain ⟨-, -, -, -, reading, -, -, rfl⟩ := tasks_backup member isBackup
    exact admissible.plainRoot.join (backupPath_spec
      (admissible.plain _ (path_mem_targets member)) (admissible.digits reading)).2.2.1
  apart := by
    rw [TargetsApart, ← tasks_paths plan host root policy session.files session.clockReadings,
      List.map_map, List.pairwise_map] at apart
    refine apart.imp_of_mem fun {first second} inFirst inSecond targets => ?_
    intro place isPlace other isOther
    rcases mem_places isPlace with here | ⟨backup, isBackup, here⟩ <;> rw [here]
    · rcases mem_places isOther with there | ⟨backup', isBackup', there⟩ <;> rw [there]
      · exact targets
      · exact admissible.target_apart_backup inFirst inSecond targets isBackup'
    · rcases mem_places isOther with there | ⟨backup', isBackup', there⟩ <;> rw [there]
      · exact (admissible.target_apart_backup inSecond inFirst targets.symm isBackup).symm
      · exact ⟨admissible.backup_not_leads inFirst inSecond targets isBackup isBackup',
          admissible.backup_not_leads inSecond inFirst targets.symm isBackup' isBackup⟩
  vacant task member backup isBackup := (admissible.backup_spec member isBackup).1

end Admissible

end ScaffoldPlan

/-! ## A plan with six targets -/

/-- A plan for one resource, with everything in one directory. -/
def orderPlan : ScaffoldPlan where
  aggregator := ⟨⟨"index.ts"⟩, "app;\n", "import order;\nuse order;\napp;\n"⟩
  files := [
    ⟨⟨"order.routes.ts"⟩, "routes\n", "Routes for /order", .route⟩,
    ⟨⟨"OrderController.ts"⟩, "controller\n", "OrderController", .controller⟩,
    ⟨⟨"OrderService.ts"⟩, "service\n", "OrderService", .service⟩,
    ⟨⟨"OrderRepository.ts"⟩, "repository\n", "OrderRepository stub", .repository⟩,
    ⟨⟨"Order.test.ts"⟩, "test\n", "Integration test for OrderController", .test⟩]

/-- A project that has an aggregator and an older service. -/
def orderProject : Session where
  files :=
    { workingDirectory := ["work"]
      nodes := [(["work"], .directory), (["work", "app"], .directory),
        (["work", "app", "index.ts"], .file "app;\n".toUTF8),
        (["work", "app", "OrderService.ts"], .file "old service\n".toUTF8)] }

/-- A host whose clock stands still. -/
def orderHost (refuses : FileOperation → FileTree → Option Fault) : Host where
  environment := []
  clock _ := "20250102030405678"
  confirm _ := .ok false
  refuses := refuses
  start _ files := (files, .error .notFound)

theorem orderPlan_named : ∀ target ∈ orderPlan.targets,
    '/' ∉ target.text.toList ∧ Path.isIdle target.text.toList = false ∧
      target.text.toList ≠ ['.', '.'] := by
  simp [ScaffoldPlan.targets, orderPlan, Path.isIdle]

theorem orderProject_place : orderProject.files.place ⟨"app"⟩ = ["work", "app"] := by
  simp [place, within, startOf, Path.isAbsolute, Path.segments, Text.splitOn, Path.named,
    Path.isIdle, orderProject]

theorem orderPlan_places :
    (orderPlan.targets.map fun target => orderProject.files.place (Path.join ⟨"app"⟩ target)) =
      [["work", "app", "index.ts"], ["work", "app", "order.routes.ts"],
        ["work", "app", "OrderController.ts"], ["work", "app", "OrderService.ts"],
        ["work", "app", "OrderRepository.ts"], ["work", "app", "Order.test.ts"]] := by
  have inDirectory : ∀ target ∈ orderPlan.targets,
      orderProject.files.place (Path.join ⟨"app"⟩ target) = ["work", "app", target.text] := by
    intro target isTarget
    obtain ⟨whole, busy, -⟩ := orderPlan_named target isTarget
    rw [place_join_name orderProject.files ⟨"app"⟩ whole busy, orderProject_place]
    rfl
  rw [List.map_congr_left inDirectory]
  rfl

theorem orderPlan_apart : orderPlan.TargetsApart ⟨"app"⟩ orderProject.files := by
  rw [ScaffoldPlan.TargetsApart, orderPlan_places]
  decide

theorem orderHost_digits (refuses : FileOperation → FileTree → Option Fault) :
    (orderHost refuses).ShowsDigits := by
  intro reading
  simp [orderHost]

theorem orderPlan_backups :
    (orderPlan.files.map fun file =>
      orderProject.files.place
        (Path.join ⟨"app"⟩ (backupPath file.path "20250102030405678"))) =
      [["work", "app", "order.routes.ts.20250102030405678.bak"],
        ["work", "app", "OrderController.ts.20250102030405678.bak"],
        ["work", "app", "OrderService.ts.20250102030405678.bak"],
        ["work", "app", "OrderRepository.ts.20250102030405678.bak"],
        ["work", "app", "Order.test.ts.20250102030405678.bak"]] := by
  have inDirectory : ∀ file ∈ orderPlan.files,
      orderProject.files.place (Path.join ⟨"app"⟩ (backupPath file.path "20250102030405678")) =
        ["work", "app", backupName file.path.text "20250102030405678"] := by
    intro file inFiles
    obtain ⟨whole, busy, noStepUp⟩ :=
      orderPlan_named file.path (List.mem_cons_of_mem _ (List.mem_map_of_mem inFiles))
    have placed := place_backupPath_name orderProject.files ⟨"app"⟩ whole busy noStepUp
      (orderHost_digits (fun _ _ => none) 0)
    rw [orderProject_place] at placed
    exact placed
  rw [List.map_congr_left inDirectory]
  simp [orderPlan, backupName]

theorem orderPlan_admissible (refuses : FileOperation → FileTree → Option Fault)
    (policy : OverwritePolicy) :
    orderPlan.Admissible (orderHost refuses) ⟨"app"⟩ policy orderProject where
  wellFormed := by decide
  digits := orderHost_digits refuses
  plainRoot := Path.isPlain_of_notMem (by simp) (by simp)
  plain target isTarget := by
    obtain ⟨whole, -, noStepUp⟩ := orderPlan_named target isTarget
    exact Path.isPlain_of_notMem whole noStepUp
  free _ := by
    refine .of_stillClock (fun _ => rfl) ?_
    rw [orderPlan_backups, orderPlan_places]
    decide

end ResourceScaffold

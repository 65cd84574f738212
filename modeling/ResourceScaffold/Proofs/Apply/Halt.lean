import ResourceScaffold.Proofs.Apply.Run
import ResourceScaffold.Proofs.Apply.Targets

/-!
Contract: what is left when carrying out a plan fails on the way.

Owns:
- the state of the files between two targets, and in the middle of one;
- that no file is lost, wherever the run stops.

Does not own: which faults there are. There is no way back: what was done before stays.
-/

namespace ResourceScaffold

open FileTree

variable {host : Host} {root : Path} {policy : OverwritePolicy} {before after : FileTree}
  {tasks earlier later : List Task} {task current : Task} {location : Location}
  {content : ByteArray}

/-- The file of a location stood in a directory that was moved aside, and is in the backup now. -/
def Task.TakesAlong (root : Path) (before after : FileTree) (location : Location)
    (content : ByteArray) (task : Task) : Prop :=
  ∃ backup rest, task.outcome = .backedUp backup ∧ rest ≠ [] ∧
    location = before.place (root.join task.path) ++ rest ∧
    after.node? (before.place (root.join backup) ++ rest) = some (.file content)

/-- A run stopped at a task. What was to be done about the earlier targets is done; what was at the
target is there, or in the backup if backups are made; the later targets, and all files that are no
targets, are as they were. -/
structure Halted (root : Path) (policy : OverwritePolicy) (before after : FileTree)
    (earlier : List Task) (current : Task) (later : List Task) : Prop where
  wellFormed : after.WellFormed
  settled : ∀ task ∈ earlier, task.Settled root before after
  remains : Inherits before (root.join current.path) after (root.join current.path) ∨
    policy = .backup ∧ ∃ backup, current.outcome = .backedUp backup ∧
      Inherits before (root.join current.path) after (root.join backup)
  untouched : ∀ task ∈ later, Inherits before (root.join task.path) after (root.join task.path)
  /-- A file of a directory that stands at a target shares the fate of the directory. -/
  kept : ∀ location content, before.node? location = some (.file content) →
    (∀ task ∈ earlier ++ current :: later, location ≠ before.place (root.join task.path)) →
      after.node? location = some (.file content) ∨
        ∃ task ∈ earlier ++ [current], task.TakesAlong root before after location content
  noOthers : ∀ location content, after.node? location = some (.file content) →
    before.node? location = some (.file content) ∨
      ∃ task ∈ earlier ++ [current], ∃ place ∈ task.places before root, place <+: location

/-! ## Files around the places of tasks -/

/-- No file is at or below the place of a backup before the run. -/
theorem Ready.not_in_backup (ready : Ready root before tasks) (member : task ∈ tasks)
    {backup : Path} (isBackup : backup ∈ task.outcome.backup?) {node : Node}
    (found : before.node? location = some node) :
    ¬ before.place (root.join backup) <+: location := by
  rintro ⟨rest, rfl⟩
  have vacant := ready.vacant task member backup isBackup
  by_cases whole : rest = []
  · rw [whole, List.append_nil, vacant] at found
    cases found
  · rw [ready.wellFormed.vacant_below (by simp [vacant]) whole] at found
    cases found

/-- A file at a place that a task is about, but not at its target, is below the target. -/
theorem Ready.below_target (ready : Ready root before tasks) (member : task ∈ tasks)
    {place : Location} (isPlace : place ∈ task.places before root) (leads : place <+: location)
    (found : before.node? location = some (.file content))
    (other : location ≠ before.place (root.join task.path)) :
    ∃ rest, rest ≠ [] ∧ location = before.place (root.join task.path) ++ rest ∧
      before.node? (before.place (root.join task.path)) = some .directory := by
  rcases ScaffoldPlan.mem_places isPlace with rfl | ⟨backup, isBackup, rfl⟩
  · obtain ⟨rest, rfl⟩ := leads
    have below : rest ≠ [] := by
      rintro rfl
      exact other (List.append_nil _)
    exact ⟨rest, below, rfl, ready.wellFormed.directory_of_below below (by simp [found])⟩
  · exact absurd leads (ready.not_in_backup member isBackup found)

/-- A file below a settled target that was touched has gone to the backup with its directory. -/
theorem Task.Settled.takesAlong (settled : task.Settled root before after)
    (sameStart : after.workingDirectory = before.workingDirectory)
    (touched : task.outcome ≠ .skipped) {rest : Location} (below : rest ≠ [])
    (directory : before.node? (before.place (root.join task.path)) = some .directory)
    (found : before.node? (before.place (root.join task.path) ++ rest) = some (.file content)) :
    task.TakesAlong root before after (before.place (root.join task.path) ++ rest) content := by
  cases outcome : task.outcome with
  | written => exact absurd directory (settled.replaced outcome)
  | skipped => exact absurd outcome touched
  | backedUp backup =>
      have carries := (settled.backedUp backup outcome).carries rest
      rw [place_congr sameStart, found] at carries
      exact ⟨backup, rest, outcome, below, rfl, carries⟩

/-- No file that is not a target is lost. -/
theorem StoppedAt.kept (ready : Ready root before (earlier ++ current :: later))
    (stopped : StoppedAt root before after earlier current later)
    (found : before.node? location = some (.file content))
    (other : ∀ task ∈ earlier ++ current :: later, location ≠ before.place (root.join task.path)) :
    after.node? location = some (.file content) ∨
      ∃ task ∈ earlier ++ [current], task.TakesAlong root before after location content := by
  have sameStart := stopped.frame.sameStart
  by_cases inside : ∃ place ∈ earlier.flatMap (Task.touched before root) ++
      current.places before root, place <+: location
  · obtain ⟨place, member, leads⟩ := inside
    rcases List.mem_append.1 member with inTouched | isPlace
    · obtain ⟨task, isEarlier, touched⟩ := List.mem_flatMap.1 inTouched
      obtain ⟨changed, isPlace⟩ := Task.mem_touched.1 touched
      have inTasks : task ∈ earlier ++ current :: later := List.mem_append_left _ isEarlier
      obtain ⟨rest, below, rfl, directory⟩ :=
        ready.below_target inTasks isPlace leads found (other task inTasks)
      exact Or.inr ⟨task, List.mem_append_left _ isEarlier,
        (stopped.settled task isEarlier).takesAlong sameStart changed below directory found⟩
    · have inTasks : current ∈ earlier ++ current :: later := by simp
      obtain ⟨rest, below, rfl, directory⟩ :=
        ready.below_target inTasks isPlace leads found (other current inTasks)
      -- What stood below the target is still there, or all of it is in the backup.
      rcases stopped.remains with stays | ⟨backup, moved, inherits⟩
      · have carries := stays.carries rest
        rw [place_congr sameStart, found] at carries
        exact Or.inl carries
      · have carries := inherits.carries rest
        rw [place_congr sameStart, found] at carries
        exact Or.inr ⟨current, by simp, backup, rest, moved, below, rfl, carries⟩
  · push Not at inside
    rcases stopped.frame.otherwise location inside with same | ⟨vacant, -⟩
    · exact Or.inl (same.trans found)
    · rw [vacant] at found
      cases found

/-- No file appears anywhere but at the places of the tasks up to the one that stopped. -/
theorem StoppedAt.noOthers (stopped : StoppedAt root before after earlier current later)
    (found : after.node? location = some (.file content)) :
    before.node? location = some (.file content) ∨
      ∃ task ∈ earlier ++ [current], ∃ place ∈ task.places before root, place <+: location := by
  by_cases inside : ∃ place ∈ earlier.flatMap (Task.touched before root) ++
      current.places before root, place <+: location
  · right
    obtain ⟨place, member, leads⟩ := inside
    rcases List.mem_append.1 member with inTouched | isPlace
    · obtain ⟨task, isEarlier, touched⟩ := List.mem_flatMap.1 inTouched
      exact ⟨task, List.mem_append_left _ isEarlier, place, (Task.mem_touched.1 touched).2, leads⟩
    · exact ⟨current, by simp, place, isPlace, leads⟩
  · left
    push Not at inside
    rcases stopped.frame.otherwise location inside with same | ⟨-, directory, -⟩
    · exact same.symm.trans found
    · rw [directory] at found
      cases found

/-! ## Failed runs -/

/-- A run over a plan that fails at the files stops at one of the targets: those before it are done,
and neither a later target nor any other file has changed. -/
theorem ScaffoldPlan.apply_halts {plan : ScaffoldPlan} {session session' : Session}
    (admissible : plan.Admissible host root policy session)
    (apart : plan.TargetsApart root session.files) {path : Path} {fault : Fault}
    (ran : plan.apply host root policy session = .error (.fileSystem path fault) session') :
    ∃ earlier current later,
      plan.tasks host root policy session.files session.clockReadings =
        earlier ++ current :: later ∧
      Halted root policy session.files session'.files earlier current later := by
  have ready := admissible.ready apart
  obtain ⟨plainAggregator, plain⟩ := List.forall_mem_cons.1 admissible.plain
  rw [List.forall_mem_map] at plain
  rcases apply_error admissible.digits admissible.plainRoot plainAggregator plain ready ran with
    ⟨⟨_, refused⟩, -⟩ | ⟨earlier, current, later, split, stopped⟩
  · cases refused
  · refine ⟨earlier, current, later, split, ?_⟩
    have isTask : current ∈ plan.tasks host root policy session.files session.clockReadings := by
      rw [split]
      simp
    rw [split] at ready
    constructor
    · exact stopped.wellFormed
    · exact stopped.settled
    · rcases stopped.remains with stays | ⟨backup, moved, inherits⟩
      · exact Or.inl stays
      · have isBackup : backup ∈ current.outcome.backup? := by
          rw [moved, FileOutcome.backup?]
          rfl
        exact Or.inr ⟨(tasks_backup isTask isBackup).1, backup, moved, inherits⟩
    · exact stopped.untouched
    · exact fun location content found other => stopped.kept ready found other
    · exact fun location content found => stopped.noOthers found

/-- A device that refuses to write the service, after the older one was moved aside. -/
def refusesService : FileOperation → FileTree → Option Fault
  | .writeFile path _, _ =>
      if path = ⟨"app/OrderService.ts"⟩ then some .permissionDenied else none
  | _, _ => none

theorem orderPlan_refused :
    ∃ after, orderPlan.apply (orderHost refusesService) ⟨"app"⟩ .backup orderProject =
      .error (.fileSystem ⟨"app/OrderService.ts"⟩ .permissionDenied) after := by
  have stops : (match orderPlan.apply (orderHost refusesService) ⟨"app"⟩ .backup orderProject with
      | .error (.fileSystem path fault) _ =>
          decide (path = ⟨"app/OrderService.ts"⟩ ∧ fault = .permissionDenied)
      | _ => false) = true := by
    decide +kernel
  split at stops
  · rename_i path fault after ran
    obtain ⟨rfl, rfl⟩ := of_decide_eq_true stops
    exact ⟨after, ran⟩
  · cases stops

theorem ScaffoldPlan.apply_halts_at_service :
    ∃ after, orderPlan.apply (orderHost refusesService) ⟨"app"⟩ .backup orderProject =
        .error (.fileSystem ⟨"app/OrderService.ts"⟩ .permissionDenied) after ∧
      ∃ earlier current later,
        orderPlan.tasks (orderHost refusesService) ⟨"app"⟩ .backup orderProject.files
          orderProject.clockReadings = earlier ++ current :: later ∧
        Halted ⟨"app"⟩ .backup orderProject.files after.files earlier current later := by
  obtain ⟨after, ran⟩ := orderPlan_refused
  exact ⟨after, ran,
    ScaffoldPlan.apply_halts (orderPlan_admissible refusesService .backup) orderPlan_apart ran⟩

/-- The plan for orders with the test in a directory of its own. -/
def nestedTestPlan : ScaffoldPlan :=
  { orderPlan with
    files := orderPlan.files.dropLast ++
      [⟨⟨"test/Order.test.ts"⟩, "test\n", "Integration test for OrderController", .test⟩] }

/-- A project with a directory where the service goes, and with a file where the directory of the
test goes. -/
def shelvedProject : Session where
  files :=
    { workingDirectory := ["work"]
      nodes := [(["work"], .directory), (["work", "app"], .directory),
        (["work", "app", "index.ts"], .file "app;\n".toUTF8),
        (["work", "app", "OrderService.ts"], .directory),
        (["work", "app", "OrderService.ts", "notes.txt"], .file "notes\n".toUTF8),
        (["work", "app", "test"], .file "tests\n".toUTF8)] }

theorem nestedTestPlan_places :
    (nestedTestPlan.targets.map fun target =>
      shelvedProject.files.place (Path.join ⟨"app"⟩ target)) =
      [["work", "app", "index.ts"], ["work", "app", "order.routes.ts"],
        ["work", "app", "OrderController.ts"], ["work", "app", "OrderService.ts"],
        ["work", "app", "OrderRepository.ts"], ["work", "app", "test", "Order.test.ts"]] := by
  simp [ScaffoldPlan.targets, nestedTestPlan, orderPlan, shelvedProject, place, within, startOf,
    Path.join, Path.joinText, Path.isAbsolute, Path.segments, Path.named, Path.isIdle, Text.splitOn]

theorem nestedTestPlan_backups :
    (nestedTestPlan.files.map fun file =>
      shelvedProject.files.place
        (Path.join ⟨"app"⟩ (backupPath file.path "20250102030405678"))) =
      [["work", "app", "order.routes.ts.20250102030405678.bak"],
        ["work", "app", "OrderController.ts.20250102030405678.bak"],
        ["work", "app", "OrderService.ts.20250102030405678.bak"],
        ["work", "app", "OrderRepository.ts.20250102030405678.bak"],
        ["work", "app", "test", "Order.test.ts.20250102030405678.bak"]] := by
  simp [nestedTestPlan, orderPlan, shelvedProject, place, within, startOf, backupPath, Path.join,
    Path.joinText, Path.isAbsolute, Path.segments, Path.named, Path.isIdle, Path.withFileName,
    Path.fileName?, Path.parent?, Path.segmented, Path.dropIdle, Path.Segmented.written,
    Path.joinSegments, Text.splitOn]

theorem nestedTestPlan_apart : nestedTestPlan.TargetsApart ⟨"app"⟩ shelvedProject.files := by
  rw [ScaffoldPlan.TargetsApart, nestedTestPlan_places]
  decide

theorem nestedTestPlan_admissible :
    nestedTestPlan.Admissible (orderHost fun _ _ => none) ⟨"app"⟩ .backup shelvedProject where
  wellFormed := by decide
  digits := orderHost_digits _
  plainRoot := Path.isPlain_of_notMem (by simp) (by simp)
  plain := by
    simp [ScaffoldPlan.targets, nestedTestPlan, orderPlan, Path.IsPlain, Path.segments,
      Text.splitOn]
  free _ := by
    refine .of_stillClock (fun _ => rfl) ?_
    rw [nestedTestPlan_backups, nestedTestPlan_places]
    decide

/-- The notes are no target, and yet they are gone after the run stopped at the test: they went to
the backup of the service with the directory that they were in. -/
theorem ScaffoldPlan.apply_moves_notes :
    nestedTestPlan.Admissible (orderHost fun _ _ => none) ⟨"app"⟩ .backup shelvedProject ∧
      nestedTestPlan.TargetsApart ⟨"app"⟩ shelvedProject.files ∧
      (∀ target ∈ nestedTestPlan.targets,
        shelvedProject.files.place (Path.join ⟨"app"⟩ target) ≠
          ["work", "app", "OrderService.ts", "notes.txt"]) ∧
      shelvedProject.files.node? ["work", "app", "OrderService.ts", "notes.txt"] =
        some (.file "notes\n".toUTF8) ∧
      ∃ path fault after,
        nestedTestPlan.apply (orderHost fun _ _ => none) ⟨"app"⟩ .backup shelvedProject =
            .error (.fileSystem path fault) after ∧
          after.files.node? ["work", "app", "OrderService.ts", "notes.txt"] = none := by
  have stops : (match nestedTestPlan.apply (orderHost fun _ _ => none) ⟨"app"⟩ .backup
        shelvedProject with
      | .error (.fileSystem _ _) after => decide (after.files.node?
          ["work", "app", "OrderService.ts", "notes.txt"] = none)
      | _ => false) = true := by
    decide +kernel
  have elsewhere : ∀ place ∈ nestedTestPlan.targets.map fun target =>
      shelvedProject.files.place (Path.join ⟨"app"⟩ target),
      place ≠ ["work", "app", "OrderService.ts", "notes.txt"] := by
    rw [nestedTestPlan_places]
    decide
  refine ⟨nestedTestPlan_admissible, nestedTestPlan_apart,
    fun target isTarget => elsewhere _ (List.mem_map_of_mem isTarget), rfl, ?_⟩
  split at stops
  · rename_i path fault after ran
    exact ⟨path, fault, after, ran, of_decide_eq_true stops⟩
  · cases stops

end ResourceScaffold

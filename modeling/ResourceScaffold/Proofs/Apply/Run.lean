import ResourceScaffold.Proofs.Apply.Step
import ResourceScaffold.Proofs.Apply.Task

/-!
Contract: that carrying out a plan carries out its tasks, as they were foreseen.

Owns:
- the step for one generated file, when it succeeds and when it fails;
- the run over all generated files.

Does not own: why the tasks of a plan do not get in each other's way.
-/

namespace ResourceScaffold

open FileTree

namespace ScaffoldPlan

variable {host : Host} {root : Path} {policy : OverwritePolicy} {file : GeneratedFile}
  {before after : Session}

/-! ## Steps of one file -/

theorem writeGenerated_ok (wellFormed : before.files.WellFormed)
    (plain : (root.join file.path).IsPlain) {outcome : FileOutcome} {report : FileReport}
    (ran : writeGenerated host root file outcome before = .ok report after) :
    report = ⟨file.path, outcome⟩ ∧ after.files.WellFormed ∧
      Frame [before.files.place (root.join file.path)] before.files after.files ∧
      after.files.readBytes (root.join file.path) = .ok file.content.toUTF8 ∧
      before.files.node? (before.files.place (root.join file.path)) ≠ some .directory ∧
      after.clockReadings = before.clockReadings := by
  obtain ⟨_, middle, wrote, rest⟩ := Action.bind_eq_ok_iff.1 ran
  obtain ⟨valid, frame, reads, replaced, readings⟩ := writeText_ok wellFormed plain wrote
  cases rest
  exact ⟨rfl, valid, frame, reads, replaced, readings⟩

theorem writeGenerated_error (wellFormed : before.files.WellFormed)
    (plain : (root.join file.path).IsPlain) {outcome : FileOutcome} {failure : Failure}
    (ran : writeGenerated host root file outcome before = .error failure after) :
    after.files.WellFormed ∧
      Grown (before.files.place (root.join file.path)).dropLast before.files after.files := by
  rcases Action.bind_eq_error_iff.1 ran with failed | ⟨_, middle, _, rest⟩
  · exact writeText_error wellFormed plain failed
  · cases rest

theorem backUp_ok {backup : Path} (ran : backUp host root file before = .ok backup after) :
    backup = backupPath file.path (host.clock before.clockReadings) ∧
      before.files.rename (root.join file.path) (root.join backup) = .ok after.files ∧
      after.clockReadings = before.clockReadings + 1 ∧
      after.events = before.events ++ [.fileBackedUp file.path backup] := by
  unfold backUp at ran
  rw [Action.bind_of_ok (Action.readClock_run host before)] at ran
  obtain ⟨_, middle, changed, rest⟩ := Action.bind_eq_ok_iff.1 ran
  obtain ⟨files, renamed, rfl⟩ := Action.changing_eq_ok_iff.1 changed
  cases rest
  exact ⟨rfl, (Host.change_eq_ok_iff.1 renamed).2, rfl, rfl⟩

theorem backUp_error {failure : Failure}
    (ran : backUp host root file before = .error failure after) :
    after = { before with clockReadings := before.clockReadings + 1 } := by
  unfold backUp at ran
  rw [Action.bind_of_ok (Action.readClock_run host before)] at ran
  rcases Action.bind_eq_error_iff.1 ran with failed | ⟨_, middle, _, rest⟩
  · exact Action.changing_eq_error failed
  · cases rest

/-! ## One file -/

theorem done_written {path : Path} {content : String} {tree written : FileTree}
    (wellFormed : written.WellFormed) (frame : Frame [tree.place (root.join path)] tree written)
    (reads : written.readBytes (root.join path) = .ok content.toUTF8)
    (replaced : tree.node? (tree.place (root.join path)) ≠ some .directory) :
    Done root tree written [⟨path, content, .written⟩] where
  wellFormed := wellFormed
  settled := by
    rw [List.forall_mem_singleton]
    exact ⟨fun _ => reads, fun _ => replaced, nofun, nofun⟩
  frame := by simpa [Task.touched, Task.places, FileOutcome.backup?] using frame

theorem done_skipped {path : Path} {content : String} {tree : FileTree}
    (wellFormed : tree.WellFormed) : Done root tree tree [⟨path, content, .skipped⟩] where
  wellFormed := wellFormed
  settled := by
    rw [List.forall_mem_singleton]
    exact ⟨fun wrote => absurd rfl wrote, nofun, fun _ => Inherits.refl tree _, nofun⟩
  frame := Frame.refl _ tree

/-- A file that is moved aside and then written: the backup is apart from the place of the file. -/
theorem done_backedUp {path backup : Path} {content : String} {tree moved written : FileTree}
    (valid : moved.WellFormed) (wellFormed : written.WellFormed)
    (plainBackup : (root.join backup).IsPlain)
    (apart : Apart (tree.place (root.join path)) (tree.place (root.join backup)))
    (moves : Frame [tree.place (root.join path), tree.place (root.join backup)] tree moved)
    (inherits : Inherits tree (root.join path) moved (root.join backup))
    (frame : Frame [moved.place (root.join path)] moved written)
    (reads : written.readBytes (root.join path) = .ok content.toUTF8) :
    Done root tree written [⟨path, content, .backedUp backup⟩] where
  wellFormed := wellFormed
  settled := by
    rw [List.forall_mem_singleton]
    refine ⟨fun _ => reads, nofun, nofun, fun other same => ?_⟩
    cases same
    refine inherits.trans (frame.inherits valid wellFormed plainBackup fun place member => ?_)
    rw [List.mem_singleton.1 member, place_congr moves.sameStart, place_congr moves.sameStart]
    exact apart
  frame := by
    have both := moves.trans frame
    rw [place_congr moves.sameStart] at both
    refine both.mono ?_
    simp [Task.touched, Task.places, FileOutcome.backup?]

/-- A write that failed: what was there is as it was. -/
theorem stoppedAt_write {path : Path} {content : String} {tree grown : FileTree}
    {outcome : FileOutcome} (wellFormed : tree.WellFormed) (valid : grown.WellFormed)
    (plain : (root.join path).IsPlain)
    (grows : Grown (tree.place (root.join path)).dropLast tree grown) :
    StoppedAt root tree grown [] ⟨path, content, outcome⟩ [] where
  wellFormed := valid
  settled := by simp
  remains := Or.inl (grows.inherits wellFormed valid plain)
  untouched := by simp
  frame := grows.frame.mono (by simp [Task.places])

/-- A move aside that succeeded before a write that failed: what was there is in the backup. -/
theorem stoppedAt_backedUp {path backup : Path} {content : String} {tree moved grown : FileTree}
    (valid : moved.WellFormed) (wellFormed : grown.WellFormed)
    (plainBackup : (root.join backup).IsPlain)
    (apart : Apart (tree.place (root.join path)) (tree.place (root.join backup)))
    (moves : Frame [tree.place (root.join path), tree.place (root.join backup)] tree moved)
    (inherits : Inherits tree (root.join path) moved (root.join backup))
    (grows : Grown (moved.place (root.join path)).dropLast moved grown) :
    StoppedAt root tree grown [] ⟨path, content, .backedUp backup⟩ [] where
  wellFormed := wellFormed
  settled := by simp
  remains := by
    refine Or.inr ⟨backup, rfl, inherits.trans
      (grows.frame.inherits valid wellFormed plainBackup fun place member => ?_)⟩
    rw [List.mem_singleton.1 member, place_congr moves.sameStart, place_congr moves.sameStart]
    exact apart
  untouched := by simp
  frame := by
    have both := moves.trans grows.frame
    rw [place_congr moves.sameStart] at both
    exact both.mono (by simp [Task.places, FileOutcome.backup?])

/-- The three things that a step for a file can come to, by the outcome that was foreseen. -/
theorem applyFile_cases (host : Host) (root : Path) (policy : OverwritePolicy)
    (file : GeneratedFile) (before : Session) :
    (outcomeOf host root policy before.files before.clockReadings file.path = .written ∧
        ∃ noted : Session, noted.files = before.files ∧
          noted.clockReadings = before.clockReadings ∧
          applyFile host root policy file before = writeGenerated host root file .written noted) ∨
      (outcomeOf host root policy before.files before.clockReadings file.path = .skipped ∧
        ∃ noted : Session, noted.files = before.files ∧
          noted.clockReadings = before.clockReadings ∧
          applyFile host root policy file before = .ok ⟨file.path, .skipped⟩ noted) ∨
      outcomeOf host root policy before.files before.clockReadings file.path =
          .backedUp (backupPath file.path (host.clock before.clockReadings)) ∧
        applyFile host root policy file before =
          (backUp host root file >>= fun backup =>
            writeGenerated host root file (.backedUp backup)) before := by
  unfold applyFile outcomeOf
  rw [Action.bind_of_ok (Action.files_run before)]
  by_cases there : before.files.pathExists (root.join file.path) = true
  · rw [if_pos there, if_pos there]
    cases policy with
    | skip =>
        refine Or.inr (Or.inl ⟨rfl, _, ?_, ?_, Action.bind_of_ok (Action.note_run _ before)⟩) <;> rfl
    | backup => exact Or.inr (Or.inr ⟨rfl, rfl⟩)
    | force =>
        refine Or.inl ⟨rfl, _, ?_, ?_, Action.bind_of_ok (Action.note_run _ before)⟩ <;> rfl
    | fail =>
        refine Or.inl ⟨rfl, _, ?_, ?_, Action.bind_of_ok (Action.note_run _ before)⟩ <;> rfl
  · rw [if_neg there, if_neg there]
    exact Or.inl ⟨rfl, before, rfl, rfl, rfl⟩

section OneFile

variable (shows : host.ShowsDigits) (plainRoot : root.IsPlain) (plain : file.path.IsPlain)
  (ready : Ready root before.files
    [fileTask host root policy before.files before.clockReadings file])

include shows plainRoot plain ready

/-- A step for a file that succeeds reports the task that was foreseen, and settles it. -/
theorem applyFile_ok {report : FileReport}
    (ran : applyFile host root policy file before = .ok report after) :
    report = (fileTask host root policy before.files before.clockReadings file).report ∧
      after.clockReadings = before.clockReadings +
        (fileTask host root policy before.files before.clockReadings file).outcome.readings ∧
      Done root before.files after.files
        [fileTask host root policy before.files before.clockReadings file] := by
  have wellFormed := ready.wellFormed
  have plain' := plainRoot.join plain
  rw [fileTask] at ready ⊢
  rcases applyFile_cases host root policy file before with
    ⟨outcome, noted, files, readings, step⟩ | ⟨outcome, noted, files, readings, step⟩ |
      ⟨outcome, step⟩
  · rw [step] at ran
    rw [outcome, ← files, ← readings]
    obtain ⟨rfl, valid, frame, reads, replaced, same⟩ :=
      writeGenerated_ok (files.symm ▸ wellFormed) plain' ran
    exact ⟨rfl, same, done_written valid frame reads replaced⟩
  · rw [step] at ran
    cases ran
    rw [outcome, ← files, ← readings]
    exact ⟨rfl, rfl, done_skipped (files.symm ▸ wellFormed)⟩
  · rw [step] at ran
    rw [outcome] at ready ⊢
    obtain ⟨backup, middle, backsUp, writes⟩ := Action.bind_eq_ok_iff.1 ran
    obtain ⟨rfl, renamed, readings, -⟩ := backUp_ok backsUp
    obtain ⟨valid, apart, moves, inherits⟩ := rename_backup shows wellFormed plainRoot plain
      (ready.vacant _ List.mem_cons_self _ rfl) renamed
    obtain ⟨rfl, valid', frame, reads, -, same⟩ := writeGenerated_ok valid plain' writes
    exact ⟨rfl, same.trans readings, done_backedUp valid valid'
      (isPlain_join_backupPath shows plainRoot plain _) apart moves inherits frame reads⟩

theorem applyFile_error {failure : Failure}
    (ran : applyFile host root policy file before = .error failure after) :
    StoppedAt root before.files after.files []
      (fileTask host root policy before.files before.clockReadings file) [] := by
  have wellFormed := ready.wellFormed
  have plain' := plainRoot.join plain
  rw [fileTask] at ready ⊢
  rcases applyFile_cases host root policy file before with
    ⟨outcome, noted, files, readings, step⟩ | ⟨outcome, noted, files, readings, step⟩ |
      ⟨outcome, step⟩
  · rw [step] at ran
    rw [outcome, ← files]
    obtain ⟨valid, grown⟩ := writeGenerated_error (files.symm ▸ wellFormed) plain' ran
    exact stoppedAt_write (files.symm ▸ wellFormed) valid plain' grown
  · rw [step] at ran
    cases ran
  · rw [step] at ran
    rw [outcome] at ready ⊢
    rcases Action.bind_eq_error_iff.1 ran with failed | ⟨backup, middle, backsUp, writes⟩
    · rw [backUp_error failed]
      exact stoppedAt_write wellFormed wellFormed plain' (Grown.refl _ _)
    · obtain ⟨rfl, renamed, readings, -⟩ := backUp_ok backsUp
      obtain ⟨valid, apart, moves, inherits⟩ := rename_backup shows wellFormed plainRoot plain
        (ready.vacant _ List.mem_cons_self _ rfl) renamed
      obtain ⟨valid', grown⟩ := writeGenerated_error valid plain' writes
      exact stoppedAt_backedUp valid valid' (isPlain_join_backupPath shows plainRoot plain _) apart
        moves inherits grown

end OneFile

/-! ## All files -/

/-- After the first file, the tasks of the others are still those that were foreseen. -/
theorem fileTasks_after {files : List GeneratedFile} {middle : Session} {task : Task} {count : Nat}
    (ready : Ready root before.files (task :: fileTasks host root policy before.files count files))
    (done : Done root before.files middle.files [task]) :
    fileTasks host root policy middle.files count files =
      fileTasks host root policy before.files count files := by
  refine fileTasks_congr (fun other member => ?_) count
  obtain ⟨reading, inTasks⟩ := exists_fileTask host root policy before.files member count
  have same := ready.pathExists_eq done.frame_places done.wellFormed inTasks
  rwa [fileTask_path] at same

/-- After the first task, the files that are left can be dealt with as they were foreseen. -/
theorem ready_after {files : List GeneratedFile} {middle : Session} {task : Task} {count : Nat}
    (ready : Ready root before.files (task :: fileTasks host root policy before.files count files))
    (done : Done root before.files middle.files [task]) :
    Ready root middle.files (fileTasks host root policy middle.files count files) := by
  rw [fileTasks_after ready done]
  exact ready.tail done.frame_places done.wellFormed

/-- A run over files that succeeds reports the tasks that were foreseen, and settles them. -/
theorem mapM_applyFile_ok (shows : host.ShowsDigits) (plainRoot : root.IsPlain)
    {files : List GeneratedFile} (plain : ∀ file ∈ files, file.path.IsPlain)
    (ready : Ready root before.files
      (fileTasks host root policy before.files before.clockReadings files))
    {reports : List FileReport}
    (ran : files.mapM (applyFile host root policy) before = .ok reports after) :
    reports = (fileTasks host root policy before.files before.clockReadings files).map Task.report ∧
      Done root before.files after.files
        (fileTasks host root policy before.files before.clockReadings files) := by
  induction files generalizing before reports with
  | nil =>
      cases ran
      exact ⟨rfl, Done.nil ready.wellFormed⟩
  | cons file rest inductionHypothesis =>
      rw [List.forall_mem_cons] at plain
      rw [fileTasks] at ready ⊢
      obtain ⟨report, middle, reports', first, second, rfl⟩ := Action.mapM_cons_eq_ok ran
      obtain ⟨rfl, readings, done⟩ := applyFile_ok shows plainRoot plain.1 ready.head first
      -- The tasks of the others are foreseen anew after the first file, and are the same.
      have ready' := ready_after ready done
      rw [← readings] at ready'
      obtain ⟨rfl, done'⟩ := inductionHypothesis plain.2 ready' second
      rw [readings, fileTasks_after ready done] at done' ⊢
      exact ⟨rfl, done.cons ready done'⟩

theorem mapM_applyFile_error (shows : host.ShowsDigits) (plainRoot : root.IsPlain)
    {files : List GeneratedFile} (plain : ∀ file ∈ files, file.path.IsPlain)
    (ready : Ready root before.files
      (fileTasks host root policy before.files before.clockReadings files))
    {failure : Failure}
    (ran : files.mapM (applyFile host root policy) before = .error failure after) :
    ∃ earlier current later,
      fileTasks host root policy before.files before.clockReadings files =
        earlier ++ current :: later ∧
      StoppedAt root before.files after.files earlier current later := by
  induction files generalizing before with
  | nil => cases ran
  | cons file rest inductionHypothesis =>
      rw [List.forall_mem_cons] at plain
      rw [fileTasks] at ready ⊢
      rcases Action.mapM_cons_eq_error ran with failed | ⟨report, middle, first, failed⟩
      · -- The run stops at the first file: no other one was looked at.
        have stopped := applyFile_error shows plainRoot plain.1 ready.head failed
        exact ⟨[], _, _, rfl, stopped.before_rest ready⟩
      · obtain ⟨rfl, readings, done⟩ := applyFile_ok shows plainRoot plain.1 ready.head first
        have ready' := ready_after ready done
        rw [← readings] at ready'
        obtain ⟨earlier, current, later, split, stopped⟩ :=
          inductionHypothesis plain.2 ready' failed
        rw [readings, fileTasks_after ready done] at split
        refine ⟨_ :: earlier, current, later, congrArg (_ :: ·) split, ?_⟩
        rw [split] at ready
        exact stopped.cons ready done

/-! ## Whole plans -/

variable {plan : ScaffoldPlan}

/-- What a step for the aggregator can come to, by the outcome that was foreseen. -/
theorem applyAggregator_cases (plan : ScaffoldPlan) (host : Host) (root : Path)
    (policy : OverwritePolicy) (before : Session) :
    ((policy = .skip ∧ plan.routeExists before.files root) ∧
        ∃ noted : Session, noted.files = before.files ∧
          noted.clockReadings = before.clockReadings ∧
          plan.applyAggregator host root policy before = .ok none noted) ∨
      ¬(policy = .skip ∧ plan.routeExists before.files root) ∧
        plan.applyAggregator host root policy before =
          (writeText host (root.join plan.aggregator.path) plan.aggregator.after >>= fun _ =>
            Action.note [.aggregatorUpdated plan.aggregator.path] >>= fun _ =>
              pure (some plan.aggregator.path)) before := by
  unfold applyAggregator
  rw [Action.bind_of_ok (Action.files_run before)]
  by_cases keeps : policy = .skip ∧ plan.routeExists before.files root
  · rw [if_pos keeps]
    refine Or.inl ⟨keeps, _, ?_, ?_, Action.bind_of_ok (Action.note_run _ before)⟩ <;> rfl
  · rw [if_neg keeps]
    exact Or.inr ⟨keeps, rfl⟩

theorem applyAggregator_ok (wellFormed : before.files.WellFormed)
    (plain : (root.join plan.aggregator.path).IsPlain) {aggregator : Option Path}
    (ran : plan.applyAggregator host root policy before = .ok aggregator after) :
    (aggregator = if policy = .skip ∧ plan.routeExists before.files root then none
      else some plan.aggregator.path) ∧
      after.clockReadings = before.clockReadings ∧
      Done root before.files after.files [plan.aggregatorTask root policy before.files] := by
  rw [aggregatorTask]
  rcases applyAggregator_cases plan host root policy before with
    ⟨keeps, noted, files, readings, step⟩ | ⟨replaces, step⟩
  · rw [step] at ran
    cases ran
    rw [if_pos keeps, if_pos keeps, ← files, ← readings]
    exact ⟨rfl, rfl, done_skipped (files.symm ▸ wellFormed)⟩
  · rw [step] at ran
    rw [if_neg replaces, if_neg replaces]
    obtain ⟨_, middle, wrote, rest⟩ := Action.bind_eq_ok_iff.1 ran
    obtain ⟨valid, frame, reads, replaced, readings⟩ := writeText_ok wellFormed plain wrote
    cases rest
    exact ⟨rfl, readings, done_written valid frame reads replaced⟩

theorem applyAggregator_error (wellFormed : before.files.WellFormed)
    (plain : (root.join plan.aggregator.path).IsPlain) {failure : Failure}
    (ran : plan.applyAggregator host root policy before = .error failure after) :
    StoppedAt root before.files after.files [] (plan.aggregatorTask root policy before.files) [] := by
  rcases applyAggregator_cases plan host root policy before with
    ⟨keeps, noted, files, readings, step⟩ | ⟨replaces, step⟩
  · rw [step] at ran
    cases ran
  · rw [step] at ran
    rcases Action.bind_eq_error_iff.1 ran with failed | ⟨_, middle, _, rest⟩
    · obtain ⟨valid, grown⟩ := writeText_error wellFormed plain failed
      exact stoppedAt_write wellFormed valid plain grown
    · cases rest

/-- A plan is refused because of a file that is there already, or it is carried out step by step. -/
theorem apply_cases (plan : ScaffoldPlan) (host : Host) (root : Path) (policy : OverwritePolicy)
    (before : Session) :
    (policy = .fail ∧ ∃ path ∈ plan.conflicts before.files root,
        plan.apply host root policy before = .error (.fileExists path) before) ∨
      (policy = .fail → plan.conflicts before.files root = []) ∧
        plan.apply host root policy before =
          (plan.applyAggregator host root policy >>= fun aggregator =>
            plan.files.mapM (applyFile host root policy) >>= fun reports =>
              pure ⟨aggregator, reports⟩) before := by
  unfold apply
  rw [Action.bind_of_ok (Action.files_run before)]
  by_cases stops : policy = .fail
  · rw [if_pos stops]
    cases conflicts : plan.conflicts before.files root with
    | nil => exact Or.inr ⟨fun _ => rfl, rfl⟩
    | cons path others =>
        exact Or.inl ⟨stops, path, List.mem_cons_self, rfl⟩
  · rw [if_neg stops]
    exact Or.inr ⟨fun same => absurd same stops, rfl⟩

theorem apply_eq_ok {report : ScaffoldReport}
    (ran : plan.apply host root policy before = .ok report after) :
    (policy = .fail → plan.conflicts before.files root = []) ∧
      ∃ aggregator middle reports,
        plan.applyAggregator host root policy before = .ok aggregator middle ∧
        plan.files.mapM (applyFile host root policy) middle = .ok reports after ∧
        report = ⟨aggregator, reports⟩ := by
  rcases apply_cases plan host root policy before with ⟨-, path, -, step⟩ | ⟨clear, step⟩
  · rw [step] at ran
    cases ran
  · rw [step] at ran
    obtain ⟨aggregator, middle, first, others⟩ := Action.bind_eq_ok_iff.1 ran
    obtain ⟨reports, last, second, ends⟩ := Action.bind_eq_ok_iff.1 others
    cases ends
    exact ⟨clear, aggregator, middle, reports, first, second, rfl⟩

/-- A run fails at the outset, at the aggregator, or at one of the files. -/
theorem apply_eq_error {failure : Failure}
    (ran : plan.apply host root policy before = .error failure after) :
    (policy = .fail ∧ (∃ path ∈ plan.conflicts before.files root, failure = .fileExists path) ∧
        after = before) ∨
      plan.applyAggregator host root policy before = .error failure after ∨
      ∃ aggregator middle, plan.applyAggregator host root policy before = .ok aggregator middle ∧
        plan.files.mapM (applyFile host root policy) middle = .error failure after := by
  rcases apply_cases plan host root policy before with ⟨stops, path, member, step⟩ | ⟨-, step⟩
  · rw [step] at ran
    cases ran
    exact Or.inl ⟨stops, ⟨path, member, rfl⟩, rfl⟩
  · rw [step] at ran
    rcases Action.bind_eq_error_iff.1 ran with failed | ⟨aggregator, middle, first, others⟩
    · exact Or.inr (Or.inl failed)
    · rcases Action.bind_eq_error_iff.1 others with failed | ⟨_, _, _, ends⟩
      · exact Or.inr (Or.inr ⟨aggregator, middle, first, failed⟩)
      · cases ends

section Tasks

variable (shows : host.ShowsDigits) (plainRoot : root.IsPlain)
  (plainAggregator : plan.aggregator.path.IsPlain) (plain : ∀ file ∈ plan.files, file.path.IsPlain)
  (ready : Ready root before.files (plan.tasks host root policy before.files before.clockReadings))

include shows plainRoot plainAggregator plain ready

/-- Carrying out a plan, if it succeeds, settles all of its tasks and reports them. -/
theorem apply_ok {report : ScaffoldReport}
    (ran : plan.apply host root policy before = .ok report after) :
    (policy = .fail → plan.conflicts before.files root = []) ∧
      report = ⟨if policy = .skip ∧ plan.routeExists before.files root then none
          else some plan.aggregator.path,
        (fileTasks host root policy before.files before.clockReadings plan.files).map
          Task.report⟩ ∧
      Done root before.files after.files
        (plan.tasks host root policy before.files before.clockReadings) := by
  obtain ⟨clear, aggregator, middle, reports, first, second, rfl⟩ := apply_eq_ok ran
  rw [tasks] at ready ⊢
  obtain ⟨rfl, readings, done⟩ :=
    applyAggregator_ok ready.wellFormed (plainRoot.join plainAggregator) first
  have ready' := ready_after ready done
  rw [← readings] at ready'
  obtain ⟨rfl, done'⟩ := mapM_applyFile_ok shows plainRoot plain ready' second
  rw [readings, fileTasks_after ready done] at done' ⊢
  exact ⟨clear, rfl, done.cons ready done'⟩

/-- Carrying out a plan, if it fails, changes nothing, or stops at one of its tasks. -/
theorem apply_error {failure : Failure}
    (ran : plan.apply host root policy before = .error failure after) :
    ((∃ path, failure = .fileExists path) ∧ after = before) ∨
      ∃ earlier current later,
        plan.tasks host root policy before.files before.clockReadings =
          earlier ++ current :: later ∧
        StoppedAt root before.files after.files earlier current later := by
  rcases apply_eq_error ran with
    ⟨-, ⟨path, -, rfl⟩, rfl⟩ | failed | ⟨aggregator, middle, first, failed⟩
  · exact Or.inl ⟨⟨path, rfl⟩, rfl⟩
  · rw [tasks] at ready ⊢
    have stopped := applyAggregator_error ready.wellFormed (plainRoot.join plainAggregator) failed
    exact Or.inr ⟨[], _, _, rfl, stopped.before_rest ready⟩
  · rw [tasks] at ready ⊢
    obtain ⟨rfl, readings, done⟩ :=
      applyAggregator_ok ready.wellFormed (plainRoot.join plainAggregator) first
    have ready' := ready_after ready done
    rw [← readings] at ready'
    obtain ⟨earlier, current, later, split, stopped⟩ :=
      mapM_applyFile_error shows plainRoot plain ready' failed
    rw [readings, fileTasks_after ready done] at split
    refine Or.inr ⟨_ :: earlier, current, later, congrArg (_ :: ·) split, ?_⟩
    rw [split] at ready
    exact stopped.cons ready done

end Tasks

end ScaffoldPlan

end ResourceScaffold

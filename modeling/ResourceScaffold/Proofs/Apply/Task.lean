import ResourceScaffold.Proofs.FileTree.Frame
import ResourceScaffold.Apply

/-!
Contract: what is to be done about each target of a plan, and when it is done.

Owns:
- the tasks of a plan, foreseen from the files as they are before anything is written;
- tasks that are settled, tasks that stopped halfway, and tasks that do not get in each other's way;
- what one task leaves to the next ones.

Does not own: the steps that carry out a task.
-/

namespace ResourceScaffold

open FileTree

/-! ## Tasks -/

def FileOutcome.backup? : FileOutcome → Option Path
  | .backedUp backup => some backup
  | .written | .skipped => none

theorem FileOutcome.mem_backup?_iff {outcome : FileOutcome} {backup : Path} :
    backup ∈ outcome.backup? ↔ outcome = .backedUp backup := by
  cases outcome <;> simp [backup?]

/-- How often the clock is read: each backup has its own time. -/
def FileOutcome.readings : FileOutcome → Nat
  | .backedUp _ => 1
  | .written | .skipped => 0

/-- What is to be done about a target of a plan: the text for it, and what becomes of what is there
already. -/
structure Task where
  path : Path
  content : String
  outcome : FileOutcome
deriving DecidableEq

namespace Task

def report (task : Task) : FileReport :=
  ⟨task.path, task.outcome⟩

/-- The places that a task is about: that of the target, and that of its backup. -/
def places (tree : FileTree) (root : Path) (task : Task) : List Location :=
  tree.place (root.join task.path) ::
    task.outcome.backup?.toList.map fun backup => tree.place (root.join backup)

def touched (tree : FileTree) (root : Path) (task : Task) : List Location :=
  if task.outcome = .skipped then [] else task.places tree root

/-- A task is settled: its text stands at its path unless it was skipped, nothing but a file was
written over, what it skips is as it was, and the backup holds what it replaces. -/
structure Settled (root : Path) (before after : FileTree) (task : Task) : Prop where
  written : task.outcome ≠ .skipped →
    after.readBytes (root.join task.path) = .ok task.content.toUTF8
  replaced : task.outcome = .written →
    before.node? (before.place (root.join task.path)) ≠ some .directory
  skipped : task.outcome = .skipped →
    Inherits before (root.join task.path) after (root.join task.path)
  backedUp : ∀ backup, task.outcome = .backedUp backup →
    Inherits before (root.join task.path) after (root.join backup)

/-- What was at the path of a task is still there, or has got as far as the backup. -/
def Remains (root : Path) (before after : FileTree) (task : Task) : Prop :=
  Inherits before (root.join task.path) after (root.join task.path) ∨
    ∃ backup, task.outcome = .backedUp backup ∧
      Inherits before (root.join task.path) after (root.join backup)

end Task

/-- All of some tasks are settled, and nothing but their places has changed. -/
structure Done (root : Path) (before after : FileTree) (tasks : List Task) : Prop where
  wellFormed : after.WellFormed
  settled : ∀ task ∈ tasks, task.Settled root before after
  frame : Frame (tasks.flatMap (Task.touched before root)) before after

/-- The tasks up to one are settled, that one stopped halfway, and what later ones are about is as it
was. Nothing but the places of the settled tasks and of the one that stopped has changed. -/
structure StoppedAt (root : Path) (before after : FileTree) (earlier : List Task) (current : Task)
    (later : List Task) : Prop where
  wellFormed : after.WellFormed
  settled : ∀ task ∈ earlier, task.Settled root before after
  remains : current.Remains root before after
  untouched : ∀ task ∈ later, Inherits before (root.join task.path) after (root.join task.path)
  frame : Frame (earlier.flatMap (Task.touched before root) ++ current.places before root)
    before after

/-- Tasks that can be carried out one after the other without getting in each other's way: their
places are apart, and nothing stands where a backup goes. -/
structure Ready (root : Path) (tree : FileTree) (tasks : List Task) : Prop where
  wellFormed : tree.WellFormed
  plain : ∀ task ∈ tasks, (root.join task.path).IsPlain
  plainBackup : ∀ task ∈ tasks, ∀ backup ∈ task.outcome.backup?, (root.join backup).IsPlain
  apart : tasks.Pairwise fun first second =>
    ∀ place ∈ first.places tree root, ∀ other ∈ second.places tree root, Apart place other
  vacant : ∀ task ∈ tasks, ∀ backup ∈ task.outcome.backup?,
    tree.node? (tree.place (root.join backup)) = none

/-! ## The tasks of a plan -/

/-- What becomes of a generated file, as the files are and after so many readings of the clock. -/
def outcomeOf (host : Host) (root : Path) (policy : OverwritePolicy) (tree : FileTree) (count : Nat)
    (path : Path) : FileOutcome :=
  if tree.pathExists (root.join path) then
    match policy with
    | .skip => .skipped
    | .backup => .backedUp (backupPath path (host.clock count))
    | .force | .fail => .written
  else .written

theorem outcomeOf_eq_skipped_iff {host : Host} {root : Path} {policy : OverwritePolicy}
    {tree : FileTree} {count : Nat} {path : Path} :
    outcomeOf host root policy tree count path = .skipped ↔
      policy = .skip ∧ tree.pathExists (root.join path) = true := by
  unfold outcomeOf
  by_cases there : tree.pathExists (root.join path) = true
  · rw [if_pos there]
    cases policy <;> simp [there]
  · rw [if_neg there]
    simp [there]

theorem outcomeOf_eq_backedUp_iff {host : Host} {root : Path} {policy : OverwritePolicy}
    {tree : FileTree} {count : Nat} {path backup : Path} :
    outcomeOf host root policy tree count path = .backedUp backup ↔
      policy = .backup ∧ tree.pathExists (root.join path) = true ∧
        backup = backupPath path (host.clock count) := by
  unfold outcomeOf
  by_cases there : tree.pathExists (root.join path) = true
  · rw [if_pos there]
    cases policy <;> simp [there, eq_comm]
  · rw [if_neg there]
    simp [there]

def fileTask (host : Host) (root : Path) (policy : OverwritePolicy) (tree : FileTree) (count : Nat)
    (file : GeneratedFile) : Task :=
  ⟨file.path, file.content, outcomeOf host root policy tree count file.path⟩

theorem fileTask_path (host : Host) (root : Path) (policy : OverwritePolicy)
    (tree : FileTree) (count : Nat) (file : GeneratedFile) :
    (fileTask host root policy tree count file).path = file.path := rfl

theorem fileTask_outcome (host : Host) (root : Path) (policy : OverwritePolicy)
    (tree : FileTree) (count : Nat) (file : GeneratedFile) :
    (fileTask host root policy tree count file).outcome =
      outcomeOf host root policy tree count file.path := by
  simp only [fileTask]

/-- The tasks of generated files, all foreseen from the same files. -/
def fileTasks (host : Host) (root : Path) (policy : OverwritePolicy) (tree : FileTree) :
    Nat → List GeneratedFile → List Task
  | _, [] => []
  | count, file :: rest =>
      let task := fileTask host root policy tree count file
      task :: fileTasks host root policy tree (count + task.outcome.readings) rest

theorem fileTasks_congr {host : Host} {root : Path} {policy : OverwritePolicy}
    {before after : FileTree} {files : List GeneratedFile}
    (same : ∀ file ∈ files,
      after.pathExists (root.join file.path) = before.pathExists (root.join file.path))
    (count : Nat) :
    fileTasks host root policy after count files =
      fileTasks host root policy before count files := by
  induction files generalizing count with
  | nil => rfl
  | cons file rest inductionHypothesis =>
      rw [List.forall_mem_cons] at same
      have task : fileTask host root policy after count file =
          fileTask host root policy before count file := by
        simp only [fileTask, outcomeOf, same.1]
      rw [fileTasks, fileTasks, task, inductionHypothesis same.2]

theorem exists_fileTask (host : Host) (root : Path) (policy : OverwritePolicy) (tree : FileTree)
    {file : GeneratedFile} {files : List GeneratedFile} (member : file ∈ files) (count : Nat) :
    ∃ reading, fileTask host root policy tree reading file ∈
      fileTasks host root policy tree count files := by
  induction files generalizing count with
  | nil => cases member
  | cons first rest inductionHypothesis =>
      rw [fileTasks]
      rcases List.mem_cons.1 member with rfl | later
      · exact ⟨count, List.mem_cons_self⟩
      · obtain ⟨reading, inRest⟩ := inductionHypothesis later _
        exact ⟨reading, List.mem_cons_of_mem _ inRest⟩

def ScaffoldPlan.aggregatorTask (plan : ScaffoldPlan) (root : Path) (policy : OverwritePolicy)
    (tree : FileTree) : Task :=
  ⟨plan.aggregator.path, plan.aggregator.after,
    if policy = .skip ∧ plan.routeExists tree root then .skipped else .written⟩

/-- All tasks of a plan, in the order in which they are carried out. -/
def ScaffoldPlan.tasks (plan : ScaffoldPlan) (host : Host) (root : Path) (policy : OverwritePolicy)
    (tree : FileTree) (count : Nat) : List Task :=
  plan.aggregatorTask root policy tree :: fileTasks host root policy tree count plan.files

/-! ## One task after the other -/

section Order

variable {root : Path} {before middle after : FileTree} {task : Task} {tasks rest : List Task}

theorem Task.places_congr (sameStart : after.workingDirectory = before.workingDirectory)
    (root : Path) : Task.places after root = Task.places before root := by
  funext task
  simp only [places, place_congr sameStart]

theorem Task.touched_congr (sameStart : after.workingDirectory = before.workingDirectory)
    (root : Path) : Task.touched after root = Task.touched before root := by
  funext task
  simp only [touched, places_congr sameStart]

theorem Task.mem_touched {tree : FileTree} {place : Location} :
    place ∈ task.touched tree root ↔ task.outcome ≠ .skipped ∧ place ∈ task.places tree root := by
  unfold touched
  split_ifs with skips
  · simp [skips]
  · simp [skips]

theorem Task.touched_subset (tree : FileTree) (root : Path) (task : Task) :
    task.touched tree root ⊆ task.places tree root :=
  fun _ member => (mem_touched.1 member).2

theorem Ready.head (ready : Ready root before (task :: rest)) : Ready root before [task] where
  wellFormed := ready.wellFormed
  plain := by simpa using ready.plain task List.mem_cons_self
  plainBackup := by simpa using ready.plainBackup task List.mem_cons_self
  apart := List.pairwise_singleton _ _
  vacant := by simpa using ready.vacant task List.mem_cons_self

theorem Ready.tail (ready : Ready root before (task :: rest))
    (frame : Frame (task.places before root) before after) (wellFormed : after.WellFormed) :
    Ready root after rest where
  wellFormed := wellFormed
  plain other member := ready.plain other (List.mem_cons_of_mem _ member)
  plainBackup other member := ready.plainBackup other (List.mem_cons_of_mem _ member)
  apart := by
    simpa only [Task.places_congr frame.sameStart] using ready.apart.of_cons
  vacant other member backup isBackup := by
    have apart := List.rel_of_pairwise_cons ready.apart member
    have inPlaces : before.place (root.join backup) ∈ other.places before root := by
      refine List.mem_cons_of_mem _ (List.mem_map.2 ⟨backup, ?_, rfl⟩)
      simpa using isBackup
    rw [place_congr frame.sameStart,
      (frame.carries fun place isPlace => apart place isPlace _ inPlaces).node]
    exact ready.vacant other (List.mem_cons_of_mem _ member) backup isBackup

/-- What a path of a later task refers to is as it was. -/
theorem Ready.inherits (ready : Ready root before (task :: rest))
    (frame : Frame (task.places before root) before after) (wellFormed : after.WellFormed)
    {other : Task} (member : other ∈ rest) :
    Inherits before (root.join other.path) after (root.join other.path) := by
  have apart := List.rel_of_pairwise_cons ready.apart member
  exact frame.inherits ready.wellFormed wellFormed
    (ready.plain other (List.mem_cons_of_mem _ member))
    fun place isPlace => apart place isPlace _ List.mem_cons_self

theorem Ready.pathExists_eq (ready : Ready root before (task :: rest))
    (frame : Frame (task.places before root) before after) (wellFormed : after.WellFormed)
    {other : Task} (member : other ∈ rest) :
    after.pathExists (root.join other.path) = before.pathExists (root.join other.path) := by
  have apart := List.rel_of_pairwise_cons ready.apart member
  exact frame.pathExists_eq ready.wellFormed wellFormed
    (ready.plain other (List.mem_cons_of_mem _ member))
    fun place isPlace => apart place isPlace _ List.mem_cons_self

theorem Task.Settled.later (settled : task.Settled root before middle)
    {touched : List Location} (frame : Frame touched middle after) (wellFormed : middle.WellFormed)
    (wellFormed' : after.WellFormed) (plain : (root.join task.path).IsPlain)
    (plainBackup : ∀ backup ∈ task.outcome.backup?, (root.join backup).IsPlain)
    (apart : ∀ place ∈ touched, ∀ own ∈ task.places middle root, Apart place own) :
    task.Settled root before after := by
  have keeps : Inherits middle (root.join task.path) after (root.join task.path) :=
    frame.inherits wellFormed wellFormed' plain fun place member =>
      apart place member _ List.mem_cons_self
  refine ⟨fun wrote => keeps.readBytes (settled.written wrote), settled.replaced,
    fun skips => (settled.skipped skips).trans keeps, fun backup moved => ?_⟩
  have isBackup : backup ∈ task.outcome.backup? := by rw [moved, FileOutcome.backup?]; rfl
  refine (settled.backedUp backup moved).trans (frame.inherits wellFormed wellFormed'
    (plainBackup backup isBackup) fun place member => apart place member _ ?_)
  exact List.mem_cons_of_mem _ (List.mem_map.2 ⟨backup, by simpa using isBackup, rfl⟩)

theorem Task.Settled.earlier (settled : task.Settled root middle after)
    (inherits : Inherits before (root.join task.path) middle (root.join task.path)) :
    task.Settled root before after where
  written := settled.written
  replaced wrote := by
    rw [← inherits.carries.node]
    exact settled.replaced wrote
  skipped skips := inherits.trans (settled.skipped skips)
  backedUp backup moved := inherits.trans (settled.backedUp backup moved)

theorem Ready.settled_head (ready : Ready root before (task :: rest))
    (first : Done root before middle [task]) {touched : List Location}
    (frame : Frame touched middle after) (wellFormed : after.WellFormed)
    (within : ∀ place ∈ touched, ∃ other ∈ rest, place ∈ other.places middle root) :
    task.Settled root before after := by
  refine (first.settled task List.mem_cons_self).later frame first.wellFormed wellFormed
    (ready.plain task List.mem_cons_self) (ready.plainBackup task List.mem_cons_self)
    fun place member own isOwn => ?_
  obtain ⟨other, isOther, inOther⟩ := within place member
  rw [Task.places_congr first.frame.sameStart] at inOther isOwn
  exact (List.rel_of_pairwise_cons ready.apart isOther own isOwn place inOther).symm

theorem Done.frame_places (first : Done root before middle [task]) :
    Frame (task.places before root) before middle := by
  refine first.frame.mono ?_
  rw [List.flatMap_singleton]
  exact task.touched_subset before root

theorem Done.nil (wellFormed : before.WellFormed) : Done root before before [] :=
  ⟨wellFormed, by simp, Frame.refl _ _⟩

/-- A task and then the others: all of them are settled in the end. -/
theorem Done.cons (ready : Ready root before (task :: rest)) (first : Done root before middle [task])
    (others : Done root middle after rest) : Done root before after (task :: rest) where
  wellFormed := others.wellFormed
  settled := by
    rw [List.forall_mem_cons]
    refine ⟨ready.settled_head first others.frame others.wellFormed fun place member => ?_,
      fun other isOther => ?_⟩
    · obtain ⟨other, isOther, inTouched⟩ := List.mem_flatMap.1 member
      exact ⟨other, isOther, other.touched_subset middle root inTouched⟩
    · -- What a later task finds at its path is what was there at the beginning.
      exact (others.settled other isOther).earlier
        (ready.inherits first.frame_places first.wellFormed isOther)
  frame := by
    have frame := first.frame.trans others.frame
    rwa [Task.touched_congr first.frame.sameStart, ← List.flatMap_append] at frame

/-- What stops at the first task leaves the others untouched. -/
theorem StoppedAt.before_rest (ready : Ready root before (task :: rest))
    (stopped : StoppedAt root before after [] task []) : StoppedAt root before after [] task rest where
  wellFormed := stopped.wellFormed
  settled := stopped.settled
  remains := stopped.remains
  untouched _ member := ready.inherits stopped.frame stopped.wellFormed member
  frame := stopped.frame

/-- A task, and then others that stop somewhere: the whole list stops there. -/
theorem StoppedAt.cons {earlier later : List Task} {current : Task}
    (ready : Ready root before (task :: (earlier ++ current :: later)))
    (first : Done root before middle [task])
    (others : StoppedAt root middle after earlier current later) :
    StoppedAt root before after (task :: earlier) current later := by
  have keeps {other : Task} (isOther : other ∈ earlier ++ current :: later) :=
    ready.inherits first.frame_places first.wellFormed isOther
  constructor
  · exact others.wellFormed
  · rw [List.forall_mem_cons]
    refine ⟨ready.settled_head first others.frame others.wellFormed fun place member => ?_,
      fun other isOther => ?_⟩
    · rcases List.mem_append.1 member with touched | own
      · obtain ⟨other, isOther, inTouched⟩ := List.mem_flatMap.1 touched
        exact ⟨other, List.mem_append_left _ isOther, other.touched_subset middle root inTouched⟩
      · exact ⟨current, by simp, own⟩
    · exact (others.settled other isOther).earlier (keeps (List.mem_append_left _ isOther))
  · exact others.remains.imp (keeps (by simp)).trans
      fun ⟨backup, moved, inherits⟩ => ⟨backup, moved, (keeps (by simp)).trans inherits⟩
  · exact fun other isOther => (keeps (by simp [isOther])).trans (others.untouched other isOther)
  · have frame := first.frame.trans others.frame
    rwa [Task.touched_congr first.frame.sameStart, Task.places_congr first.frame.sameStart,
      ← List.append_assoc, ← List.flatMap_append] at frame

end Order

end ResourceScaffold

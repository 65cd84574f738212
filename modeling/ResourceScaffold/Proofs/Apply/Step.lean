import ResourceScaffold.Proofs.Action
import ResourceScaffold.Proofs.Apply.Backup
import ResourceScaffold.Proofs.FileTree.Landing

/-!
Contract: what the single steps of carrying out a plan do to the files.

Owns:
- writing a text together with the directories it lies in;
- moving a file aside.

Does not own: which steps are taken, and in which order.
-/

namespace ResourceScaffold

open FileTree

variable {host : Host} {root path : Path} {content : String} {before after : Session}

/-! ## Operations -/

/-- An operation succeeds if neither the device nor the files forbid it. -/
theorem Host.change_eq_ok_iff {operation : FileOperation} {files changed : FileTree} :
    host.change operation files = .ok changed ↔
      host.refuses operation files = none ∧ operation.run files = .ok changed := by
  rw [change]
  cases host.refuses operation files with
  | some fault => simp
  | none => simp

/-- Creating directories on a device that may refuse any of them. -/
abbrev Host.make (host : Host) : FileTree → Path → Except Fault FileTree :=
  fun files directory => host.change (.createDirectory directory) files

theorem Host.make_eq_ok {files changed : FileTree} {directory : Path}
    (made : host.make files directory = .ok changed) :
    files.createDirectory directory = .ok changed :=
  (change_eq_ok_iff.1 made).2

/-! ## Writing a text -/

/-- The directories that a write creates first: they lie above the place of the path. -/
theorem createParent_grown (host : Host) {tree : FileTree} (wellFormed : tree.WellFormed)
    (plain : path.IsPlain) {directory : Path} (found : path.parent? = some directory) :
    Grown (tree.place path).dropLast tree (tree.createDirectories directory host.make).1 ∧
      (tree.createDirectories directory host.make).1.WellFormed := by
  obtain ⟨names, absolute, plainParent⟩ := Path.parent?_spec found
  by_cases unnamed : path.names = []
  · -- Nothing is created for the empty path, which stands for the directory of a bare name.
    have bare : directory = ⟨""⟩ := Path.parent?_of_unnamed unnamed found
    rw [bare]
    exact ⟨Grown.refl _ _, wellFormed⟩
  · have here : tree.place directory = (tree.place path).dropLast := by
      rw [place, place, within, within, startOf, startOf, absolute, ← Path.names, ← Path.names,
        names, List.map_dropLast, List.dropLast_append_of_ne_nil (by simpa using unnamed)]
    rw [← here]
    exact createDirectories_grown Host.make_eq_ok wellFormed (plainParent plain)

/-- What a write creates before the text itself is written: the directory that the path lies in, as
far as it can be created. -/
def CreatesParent (host : Host) (path : Path) (before created : FileTree) : Prop :=
  created = before ∨ ∃ directory, path.parent? = some directory ∧
    created = (before.createDirectories directory host.make).1

theorem CreatesParent.grown {tree created : FileTree}
    (creates : CreatesParent host path tree created) (wellFormed : tree.WellFormed)
    (plain : path.IsPlain) :
    Grown (tree.place path).dropLast tree created ∧ created.WellFormed := by
  rcases creates with rfl | ⟨directory, found, rfl⟩
  · exact ⟨Grown.refl _ _, wellFormed⟩
  · exact createParent_grown host wellFormed plain found

theorem CreatesParent.keeps {tree created : FileTree}
    (creates : CreatesParent host path tree created) (wellFormed : tree.WellFormed) :
    Keeps [] tree created ∧ created.WellFormed := by
  rcases creates with rfl | ⟨directory, -, rfl⟩
  · exact ⟨Keeps.refl _ _, wellFormed⟩
  · exact createChain_keeps Host.make_eq_ok wellFormed directory.ancestors

/-- A write writes into the files as they are once the directory of the path was created, unless it
could not be created. -/
theorem writeText_created (host : Host) (path : Path) (content : String) (before : Session) :
    ∃ created, CreatesParent host path before.files created ∧
      (writeText host path content before =
          Action.changing path (host.change (.writeFile path content.toUTF8))
            { before with files := created } ∨
        ∃ failure, writeText host path content before =
          .error failure { before with files := created }) := by
  unfold writeText
  cases found : path.parent? with
  | none => exact ⟨before.files, Or.inl rfl, Or.inl rfl⟩
  | some directory =>
      refine ⟨_, Or.inr ⟨directory, found, rfl⟩, ?_⟩
      cases created : before.files.createDirectories directory host.make with
      | mk files outcome =>
          cases outcome with
          | none =>
              have ran : createDirectories host directory before =
                  .ok () { before with files } := by
                rw [createDirectories, created]
              exact Or.inl (Action.bind_of_ok ran)
          | some fault =>
              have ran : createDirectories host directory before =
                  .error (.fileSystem directory fault) { before with files } := by
                rw [createDirectories, created]
              exact Or.inr ⟨_, Action.bind_of_error ran⟩

theorem writeText_eq_ok (ran : writeText host path content before = .ok () after) :
    ∃ created changed, CreatesParent host path before.files created ∧
      created.writeFile path content.toUTF8 = .ok changed ∧
      after = { before with files := changed } := by
  obtain ⟨created, creates, wrote | ⟨failure, failed⟩⟩ := writeText_created host path content before
  · rw [wrote] at ran
    obtain ⟨changed, written, rfl⟩ := Action.changing_eq_ok_iff.1 ran
    exact ⟨created, changed, creates, (Host.change_eq_ok_iff.1 written).2, rfl⟩
  · rw [failed] at ran
    cases ran

/-- A write that fails has done nothing but create directories. -/
theorem writeText_eq_error {failure : Failure}
    (ran : writeText host path content before = .error failure after) :
    ∃ created, CreatesParent host path before.files created ∧
      after = { before with files := created } := by
  obtain ⟨created, creates, wrote | ⟨failure', failed⟩⟩ :=
    writeText_created host path content before
  · rw [wrote] at ran
    exact ⟨created, creates, Action.changing_eq_error ran⟩
  · rw [failed] at ran
    cases ran
    exact ⟨created, creates, rfl⟩

/-- A write that succeeds touches nothing but the place of the path, where the text then stands and
where no directory was. -/
theorem writeText_ok (wellFormed : before.files.WellFormed) (plain : path.IsPlain)
    (ran : writeText host path content before = .ok () after) :
    after.files.WellFormed ∧ Frame [before.files.place path] before.files after.files ∧
      after.files.readBytes path = .ok content.toUTF8 ∧
      before.files.node? (before.files.place path) ≠ some .directory ∧
      after.clockReadings = before.clockReadings := by
  obtain ⟨files, changed, creates, written, rfl⟩ := writeText_eq_ok ran
  obtain ⟨grown, valid⟩ := creates.grown wellFormed plain
  obtain ⟨rfl, checked, fit, busy, parent, noDirectory⟩ := writeFile_eq_ok plain written
  have below := ne_nil_of_noDirectory noDirectory
  have valid' := valid.set (.file content.toUTF8) parent below
    fun directory => absurd directory noDirectory
  have frame := grown.frame.trans (set_frame files (files.place path) (.file content.toUTF8))
  refine ⟨valid', frame.mono ?_, ?_, ?_, rfl⟩
  · rw [place_congr grown.sameStart]
    simp
  · rw [readBytes_eq_ok_iff, valid'.status_eq_ok_iff plain]
    exact ⟨checked, fit, fun idle => by simp [busy] at idle, node?_set_self _ _ below⟩
  · rwa [place_congr grown.sameStart, grown.carries.node] at noDirectory

/-- A write that fails has at most created directories above the place of the path. -/
theorem writeText_error (wellFormed : before.files.WellFormed) (plain : path.IsPlain)
    {failure : Failure} (ran : writeText host path content before = .error failure after) :
    after.files.WellFormed ∧
      Grown (before.files.place path).dropLast before.files after.files := by
  obtain ⟨created, creates, rfl⟩ := writeText_eq_error ran
  exact (creates.grown wellFormed plain).symm

/-! ## Moving a file aside -/

/-- The path of a backup is plain if those of the root and of the file are. -/
theorem isPlain_join_backupPath (shows : host.ShowsDigits) (plainRoot : root.IsPlain)
    (plain : path.IsPlain) (count : Nat) :
    (root.join (backupPath path (host.clock count))).IsPlain :=
  plainRoot.join (backupPath_spec plain (shows count)).2.2.1

/-- A move aside that succeeds carries everything at the place of the file to the place of the
backup, which was vacant, and touches nothing else. -/
theorem rename_backup (shows : host.ShowsDigits) (wellFormed : before.files.WellFormed)
    (plainRoot : root.IsPlain) (plain : path.IsPlain) {count : Nat} {changed : FileTree}
    (vacant : before.files.node?
      (before.files.place (root.join (backupPath path (host.clock count)))) = none)
    (renamed : before.files.rename (root.join path)
      (root.join (backupPath path (host.clock count))) = .ok changed) :
    changed.WellFormed ∧
      Apart (before.files.place (root.join path))
        (before.files.place (root.join (backupPath path (host.clock count)))) ∧
      Frame [before.files.place (root.join path),
        before.files.place (root.join (backupPath path (host.clock count)))] before.files changed ∧
      Inherits before.files (root.join path) changed
        (root.join (backupPath path (host.clock count))) := by
  have plain' := isPlain_join_backupPath shows plainRoot plain count
  have busy : Path.endsIdle (root.join (backupPath path (host.clock count))).segments = false := by
    rw [Path.endsIdle_join]
    exact (backupPath_spec plain (shows count)).2.2.2
  have named := named_ne_nil_of_endsIdle (Path.segments_ne_nil _) busy
  obtain ⟨⟨node, found⟩, checked, fit, parent, moved⟩ :=
    rename_eq_ok wellFormed (plainRoot.join plain) plain' named renamed
  obtain ⟨-, -, -, here⟩ := (wellFormed.status_eq_ok_iff (plainRoot.join plain)).1 found
  rcases moved with ⟨same, -⟩ | ⟨outside, rfl⟩
  · rw [same, vacant] at here
    cases here
  · have apart : Apart (before.files.place (root.join path))
        (before.files.place (root.join (backupPath path (host.clock count)))) := by
      refine ⟨outside, fun leads => ?_⟩
      -- Otherwise the file would lie below a place that is vacant.
      obtain ⟨rest, split⟩ := leads
      rw [← split] at here
      by_cases below : rest = []
      · rw [below, List.append_nil, vacant] at here
        cases here
      · rw [wellFormed.vacant_below (by simp [vacant]) below] at here
        cases here
    have valid := wellFormed.move parent apart.2 apart.1
    refine ⟨valid, apart, move_frame apart, ⟨move_carries apart, fun node' found' => ?_⟩⟩
    obtain ⟨-, -, -, here'⟩ := (wellFormed.status_eq_ok_iff (plainRoot.join plain)).1 found'
    refine (valid.status_eq_ok_iff plain').2 ⟨checked, fit, fun idle => by simp [busy] at idle, ?_⟩
    exact (move_carries apart).node.trans here'

end ResourceScaffold

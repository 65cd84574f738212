import ResourceScaffold.Proofs.Apply.Run
import ResourceScaffold.Proofs.Runs.Targets

/-!
Contract: what carrying out a plan keeps below a root that may step up.

Owns:
- writing a text and moving a file aside, below a root;
- dealing with generated files and with the aggregator;
- what is still there after that, and what is there now.

Does not own: which plan is carried out.
-/

namespace ResourceScaffold

open FileTree

variable {host : Host} {root path : Path} {content : String} {policy : OverwritePolicy}
  {file : GeneratedFile} {before middle after : Session}

/-! ## Sound trees -/

/-- Everything lies in a directory, and the root is reached. -/
structure Sound (root : Path) (tree : FileTree) : Prop where
  wellFormed : tree.WellFormed
  reaches : Reaches tree root

/-- What a source refers to depends on a sound tree only through the node at its place. -/
theorem Sound.status_iff {tree : FileTree} (sound : Sound root tree) (isTarget : IsTarget path)
    {node : Node} :
    tree.status (root.join path) = .ok node ↔
      checkPath (root.join path) = .ok () ∧ NamesFit path.segments ∧
        tree.node? (tree.placeBelow root path) = some node := by
  rw [sound.wellFormed.status_join_iff isTarget.relative isTarget.plain isTarget.busy]
  simp only [sound.reaches, true_and]

/-- A source that lies outside of what was touched refers to the same as before. -/
theorem Sound.status_of_keeps {tree tree' : FileTree} {touched : List Location}
    (sound : Sound root tree) (sound' : Sound root tree') (isTarget : IsTarget path)
    (keeps : Keeps touched tree tree')
    (outside : ∀ place ∈ touched, FileTree.Apart place (tree.placeBelow root path)) {node : Node}
    (found : tree.status (root.join path) = .ok node) :
    tree'.status (root.join path) = .ok node := by
  obtain ⟨checked, fit, here⟩ := (sound.status_iff isTarget).1 found
  refine (sound'.status_iff isTarget).2 ⟨checked, fit, ?_⟩
  rw [placeBelow_congr keeps.sameStart]
  exact keeps.nodes here fun place member => (outside place member).1

/-! ## Writing a text -/

theorem writeText_error_keeps (wellFormed : before.files.WellFormed) {failure : Failure}
    (ran : writeText host path content before = .error failure after) :
    Keeps [] before.files after.files ∧ after.files.WellFormed := by
  obtain ⟨created, creates, rfl⟩ := writeText_eq_error ran
  exact creates.keeps wellFormed

/-- A write below a root that succeeds has reached the root. It keeps whatever does not lie at the
place of the path, where the text stands now. -/
theorem writeText_below (isTarget : IsTarget path) (wellFormed : before.files.WellFormed)
    (ran : writeText host (root.join path) content before = .ok () after) :
    Sound root after.files ∧ Keeps [before.files.placeBelow root path] before.files after.files ∧
      after.files.status (root.join path) = .ok (.file content.toUTF8) := by
  obtain ⟨created, changed, creates, written, rfl⟩ := writeText_eq_ok ran
  obtain ⟨keeps, valid⟩ := creates.keeps wellFormed
  obtain ⟨located, rfl, valid', noDirectory⟩ := writeFile_landing valid written
  have kept : KeepsDirectories created
      (created.set (created.landing (root.join path)) (.file content.toUTF8)) :=
    set_keepsDirectories noDirectory _
  have here := landing_join created root isTarget.relative isTarget.plain
  obtain ⟨checked, followed, -⟩ := locate_eq_ok located
  obtain ⟨reaches, -⟩ := (follow_join_iff isTarget.relative).1 followed
  refine ⟨⟨valid', reaches.mono rfl kept⟩, ?_, ?_⟩
  · have both := keeps.trans (set_keeps created (created.landing (root.join path))
      (.file content.toUTF8))
    rw [List.nil_append] at both
    rw [← placeBelow_congr keeps.sameStart, ← here]
    exact both
  · refine status_eq_ok_iff_locate.2 ⟨created.landing (root.join path), ?_,
      node?_set_self created _ (ne_nil_of_noDirectory noDirectory)⟩
    exact bind_eq_ok_iff.2 ⟨(), checked, follow_mono kept followed⟩

/-! ## Sources below a root -/

/-- What dealing with some paths leaves of the sources below a root: all that exist still do, and
those that are none of the paths are as they were. -/
structure Settles (root : Path) (paths : List Path) (before after : FileTree) : Prop where
  sound : Sound root after
  others : ∀ {other}, IsSource other → (∀ path ∈ paths, other.names ≠ path.names) →
    ∀ {node}, before.status (root.join other) = .ok node →
      after.status (root.join other) = .ok node
  existing : ∀ {other}, IsSource other → before.pathExists (root.join other) = true →
    after.pathExists (root.join other) = true

namespace Settles

variable {tree first second third : FileTree} {paths paths' : List Path}

theorem refl (sound : Sound root tree) (paths : List Path) : Settles root paths tree tree :=
  ⟨sound, fun _ _ _ found => found, fun _ found => found⟩

theorem mono (settles : Settles root paths first second) (subset : paths ⊆ paths') :
    Settles root paths' first second :=
  ⟨settles.sound, fun isSource different _ found =>
    settles.others isSource (fun path member => different path (subset member)) found,
    settles.existing⟩

theorem trans (settles : Settles root paths first second)
    (settles' : Settles root paths' second third) : Settles root (paths ++ paths') first third where
  sound := settles'.sound
  others isSource different _ found :=
    settles'.others isSource (fun path member => different path (List.mem_append_right _ member))
      (settles.others isSource (fun path member => different path (List.mem_append_left _ member))
        found)
  existing isSource found := settles'.existing isSource (settles.existing isSource found)

theorem of_keeps (sound : Sound root first) (wellFormed : second.WellFormed)
    (keeps : Keeps [] first second) (paths : List Path) : Settles root paths first second := by
  have sound' : Sound root second := ⟨wellFormed, sound.reaches.mono keeps.sameStart keeps.directories⟩
  have status {other : Path} (isSource : IsSource other) {node : Node}
      (found : first.status (root.join other) = .ok node) :
      second.status (root.join other) = .ok node :=
    sound.status_of_keeps sound' isSource.toIsTarget keeps (by simp) found
  refine ⟨sound', fun isSource _ _ found => status isSource found, fun isSource found => ?_⟩
  obtain ⟨node, found⟩ := pathExists_iff.1 found
  exact pathExists_iff.2 ⟨node, status isSource found⟩

/-- What touches one source, which is there afterwards, and otherwise only backups, keeps the other
sources. -/
theorem of_touched {touched : List Location} (sound : Sound root first) (sound' : Sound root second)
    (isSource : IsSource path) (keeps : Keeps touched first second)
    (places : ∀ place ∈ touched, place = first.placeBelow root path ∨
      ∃ backup, IsTarget backup ∧ EndsIn backup ".bak".toList ∧ place = first.placeBelow root backup)
    (present : second.pathExists (root.join path) = true) : Settles root [path] first second := by
  have status {other : Path} (isOther : IsSource other) (different : other.names ≠ path.names)
      {node : Node} (found : first.status (root.join other) = .ok node) :
      second.status (root.join other) = .ok node := by
    refine sound.status_of_keeps sound' isOther.toIsTarget keeps (fun place member => ?_) found
    rcases places place member with rfl | ⟨backup, isTarget, ends, rfl⟩
    · exact isSource.apart isOther.toIsTarget different.symm first root
    · exact isTarget.apart isOther.toIsTarget (isOther.ne_backup ends).symm first root
  refine ⟨sound', fun isOther different _ => status isOther (different _ List.mem_cons_self),
    fun {other} isOther exists_ => ?_⟩
  obtain ⟨node, found⟩ := pathExists_iff.1 exists_
  by_cases different : other.names = path.names
  · -- Another spelling of the source: it refers to what is there now.
    obtain ⟨node', present⟩ := pathExists_iff.1 present
    obtain ⟨-, -, here⟩ := (sound'.status_iff isSource.toIsTarget).1 present
    obtain ⟨checked, fit, -⟩ := (sound.status_iff isOther.toIsTarget).1 found
    rw [placeBelow, ← different] at here
    exact pathExists_iff.2 ⟨node', (sound'.status_iff isOther.toIsTarget).2 ⟨checked, fit, here⟩⟩
  · exact pathExists_iff.2 ⟨node, status isOther different found⟩

end Settles

theorem writeText_settles (isSource : IsSource path) (sound : Sound root before.files)
    (ran : writeText host (root.join path) content before = .ok () after) :
    Settles root [path] before.files after.files ∧
      after.files.status (root.join path) = .ok (.file content.toUTF8) := by
  obtain ⟨sound', keeps, written⟩ := writeText_below isSource.toIsTarget sound.wellFormed ran
  refine ⟨.of_touched sound sound' isSource keeps (fun place member => ?_)
    (pathExists_iff.2 ⟨_, written⟩), written⟩
  exact Or.inl (List.mem_singleton.1 member)

/-! ## One generated file -/

namespace ScaffoldPlan

theorem writeGenerated_settles {outcome : FileOutcome} {report : FileReport}
    (isSource : IsSource file.path) (sound : Sound root before.files)
    (ran : writeGenerated host root file outcome before = .ok report after) :
    Settles root [file.path] before.files after.files ∧
      after.files.pathExists (root.join file.path) = true := by
  obtain ⟨_, middle, wrote, rest⟩ := Action.bind_eq_ok_iff.1 ran
  obtain ⟨settles, written⟩ := writeText_settles isSource sound wrote
  cases rest
  exact ⟨settles, pathExists_iff.2 ⟨_, written⟩⟩

/-- Moving a source aside touches the source and a backup. The root may not be reached after that,
since it may lead through the source and up again. -/
theorem backUp_below (shows : host.ShowsDigits) (isSource : IsSource file.path)
    (wellFormed : before.files.WellFormed) {backup : Path}
    (ran : backUp host root file before = .ok backup after) :
    IsTarget backup ∧ EndsIn backup ".bak".toList ∧ after.files.WellFormed ∧
      Keeps [before.files.placeBelow root file.path, before.files.placeBelow root backup]
        before.files after.files := by
  obtain ⟨rfl, renamed, -⟩ := backUp_ok ran
  obtain ⟨isTarget, ends⟩ := isSource.backup (shows before.clockReadings)
  have apart := isSource.apart isTarget (isSource.ne_backup ends) before.files root
  rw [← landing_join before.files root isSource.relative isSource.plain,
    ← landing_join before.files root isTarget.relative isTarget.plain] at apart ⊢
  obtain ⟨keeps, valid⟩ := rename_landing wellFormed apart renamed
  exact ⟨isTarget, ends, valid, keeps⟩

theorem applyFile_settles (shows : policy = .backup → host.ShowsDigits) (isSource : IsSource file.path)
    (sound : Sound root before.files) {report : FileReport}
    (ran : applyFile host root policy file before = .ok report after) :
    Settles root [file.path] before.files after.files ∧
      after.files.pathExists (root.join file.path) = true := by
  rcases applyFile_cases host root policy file before with
    ⟨-, noted, same, -, step⟩ | ⟨skips, noted, same, -, step⟩ | ⟨backsUp, step⟩
  · rw [step] at ran
    rw [← same] at sound ⊢
    exact writeGenerated_settles isSource sound ran
  · rw [step] at ran
    cases ran
    rw [same]
    refine ⟨.refl sound _, ?_⟩
    exact (outcomeOf_eq_skipped_iff.1 skips).2
  · rw [step] at ran
    obtain ⟨backup, middle, moved, writes⟩ := Action.bind_eq_ok_iff.1 ran
    obtain ⟨isTarget, ends, valid, moves⟩ :=
      backUp_below (shows (outcomeOf_eq_backedUp_iff.1 backsUp).1) isSource sound.wellFormed moved
    obtain ⟨⟨⟩, last, wrote, rest⟩ := Action.bind_eq_ok_iff.1 writes
    obtain ⟨sound', keeps, written⟩ := writeText_below isSource.toIsTarget valid wrote
    cases rest
    have present : last.files.pathExists (root.join file.path) = true :=
      pathExists_iff.2 ⟨_, written⟩
    refine ⟨.of_touched sound sound' isSource (moves.trans keeps) ?_ present, present⟩
    -- The write is below the root as it is after the move, which is the same place.
    rw [placeBelow_congr moves.sameStart]
    rintro place member
    simp only [List.cons_append, List.nil_append, List.mem_cons, List.not_mem_nil, or_false]
      at member
    rcases member with rfl | rfl | rfl
    · exact Or.inl rfl
    · exact Or.inr ⟨backup, isTarget, ends, rfl⟩
    · exact Or.inl rfl

/-- Dealing with a generated file takes nothing away when it fails, unless it moves files aside. -/
theorem applyFile_error_settles (inPlace : policy ≠ .backup) (sound : Sound root before.files)
    {failure : Failure} (ran : applyFile host root policy file before = .error failure after) :
    Settles root [file.path] before.files after.files := by
  rcases applyFile_cases host root policy file before with
    ⟨-, noted, same, -, step⟩ | ⟨-, noted, -, -, step⟩ | ⟨backsUp, step⟩
  · rw [step] at ran
    rw [← same] at sound ⊢
    rcases Action.bind_eq_error_iff.1 ran with failed | ⟨_, middle, _, rest⟩
    · obtain ⟨keeps, valid⟩ := writeText_error_keeps sound.wellFormed failed
      exact .of_keeps sound valid keeps _
    · cases rest
  · rw [step] at ran
    cases ran
  · exact absurd (outcomeOf_eq_backedUp_iff.1 backsUp).1 inPlace

/-! ## All generated files -/

variable {files : List GeneratedFile}

theorem mapM_applyFile_settles (shows : policy = .backup → host.ShowsDigits)
    (areSources : ∀ file ∈ files, IsSource file.path) (sound : Sound root before.files)
    {reports : List FileReport}
    (ran : files.mapM (applyFile host root policy) before = .ok reports after) :
    Settles root (files.map GeneratedFile.path) before.files after.files ∧
      ∀ file ∈ files, after.files.pathExists (root.join file.path) = true := by
  induction files generalizing before reports with
  | nil =>
      cases ran
      exact ⟨.refl sound _, by simp⟩
  | cons file rest inductionHypothesis =>
      rw [List.forall_mem_cons] at areSources ⊢
      obtain ⟨report, middle, reports', first, second, rfl⟩ := Action.mapM_cons_eq_ok ran
      obtain ⟨settles, present⟩ := applyFile_settles shows areSources.1 sound first
      obtain ⟨settles', present'⟩ := inductionHypothesis areSources.2 settles.sound second
      exact ⟨settles.trans settles', settles'.existing areSources.1 present, present'⟩

/-- A run over generated files takes nothing away when it fails, unless it moves files aside. -/
theorem mapM_applyFile_error_settles (inPlace : policy ≠ .backup)
    (areSources : ∀ file ∈ files, IsSource file.path) (sound : Sound root before.files)
    {failure : Failure}
    (ran : files.mapM (applyFile host root policy) before = .error failure after) :
    Settles root (files.map GeneratedFile.path) before.files after.files := by
  induction files generalizing before with
  | nil => cases ran
  | cons file rest inductionHypothesis =>
      rw [List.forall_mem_cons] at areSources
      rcases Action.mapM_cons_eq_error ran with failed | ⟨report, middle, first, failed⟩
      · exact (applyFile_error_settles inPlace sound failed).mono (by simp)
      · obtain ⟨settles, -⟩ :=
          applyFile_settles (fun backsUp => absurd backsUp inPlace) areSources.1 sound first
        exact settles.trans (inductionHypothesis areSources.2 settles.sound failed)

/-! ## Plans -/

variable {plan : ScaffoldPlan} {text : String}

/-- The aggregator and the generated files of a plan are sources, and the aggregator is none of the
files. -/
structure OfSources (plan : ScaffoldPlan) : Prop where
  aggregator : IsSource plan.aggregator.path
  files : ∀ file ∈ plan.files, IsSource file.path
  different : ∀ file ∈ plan.files, plan.aggregator.path.names ≠ file.path.names

theorem OfSources.readText_kept (ofSources : plan.OfSources) {before after : FileTree}
    (settles : Settles root (plan.files.map GeneratedFile.path) before after)
    (read : before.readText (root.join plan.aggregator.path) = .ok text) :
    after.readText (root.join plan.aggregator.path) = .ok text := by
  obtain ⟨content, found, decodes⟩ := readText_eq_ok_iff.1 read
  refine readText_eq_ok_iff.2 ⟨content, settles.others ofSources.aggregator ?_ found, decodes⟩
  rw [List.forall_mem_map]
  exact ofSources.different

/-- The step for the aggregator writes the text of the plan, or keeps the text that is there because
the route file is there already. -/
theorem applyAggregator_settles (ofSources : plan.OfSources) (sound : Sound root before.files)
    {aggregator : Option Path}
    (ran : plan.applyAggregator host root policy before = .ok aggregator after) :
    Settles root [plan.aggregator.path] before.files after.files ∧
      ((policy = .skip ∧ plan.routeExists before.files root = true) ∧ aggregator = none ∧
          after.files = before.files ∨
        ¬(policy = .skip ∧ plan.routeExists before.files root = true) ∧
          aggregator = some plan.aggregator.path ∧
          after.files.readText (root.join plan.aggregator.path) = .ok plan.aggregator.after) := by
  rcases applyAggregator_cases plan host root policy before with
    ⟨keeps, noted, same, -, step⟩ | ⟨replaces, step⟩
  · rw [step] at ran
    cases ran
    rw [same]
    exact ⟨.refl sound _, Or.inl ⟨keeps, rfl, rfl⟩⟩
  · rw [step] at ran
    obtain ⟨⟨⟩, middle, wrote, rest⟩ := Action.bind_eq_ok_iff.1 ran
    obtain ⟨settles, written⟩ := writeText_settles ofSources.aggregator sound wrote
    cases rest
    exact ⟨settles, Or.inr ⟨replaces, rfl, readText_eq_ok_iff.2 ⟨_, written, fromUTF8?_toUTF8 _⟩⟩⟩

theorem applyAggregator_error_settles (sound : Sound root before.files) {failure : Failure}
    (ran : plan.applyAggregator host root policy before = .error failure after) :
    Settles root [] before.files after.files := by
  rcases applyAggregator_cases plan host root policy before with
    ⟨-, noted, -, -, step⟩ | ⟨-, step⟩
  · rw [step] at ran
    cases ran
  · rw [step] at ran
    rcases Action.bind_eq_error_iff.1 ran with failed | ⟨_, middle, _, rest⟩
    · obtain ⟨keeps, valid⟩ := writeText_error_keeps sound.wellFormed failed
      exact .of_keeps sound valid keeps _
    · cases rest

/-- A plan that is carried out leaves all of its files there, takes no source away, and leaves the
text of the plan in the aggregator if the report says so. -/
theorem apply_settles (shows : policy = .backup → host.ShowsDigits) (ofSources : plan.OfSources)
    (sound : Sound root before.files)
    (read : before.files.readText (root.join plan.aggregator.path) = .ok text)
    {report : ScaffoldReport} (ran : plan.apply host root policy before = .ok report after) :
    Settles root (plan.aggregator.path :: plan.files.map GeneratedFile.path) before.files
        after.files ∧
      (∀ file ∈ plan.files, after.files.pathExists (root.join file.path) = true) ∧
      after.files.readText (root.join plan.aggregator.path) =
        .ok (if report.aggregator.isSome then plan.aggregator.after else text) := by
  obtain ⟨-, aggregator, middle, reports, first, second, rfl⟩ := apply_eq_ok ran
  obtain ⟨settles, written⟩ := applyAggregator_settles ofSources sound first
  obtain ⟨settles', present⟩ := mapM_applyFile_settles shows ofSources.files settles.sound second
  refine ⟨settles.trans settles', present, ofSources.readText_kept settles' ?_⟩
  rcases written with ⟨-, rfl, same⟩ | ⟨-, rfl, written⟩
  · rw [same]
    exact read
  · exact written

/-- What a plan leaves that was carried out under the policy that skips, or that failed on the way: no
source is taken away, and the aggregator keeps its text if the route file was there or the aggregator
could not be written, and has that of the plan otherwise. -/
def SettlesSkipping (plan : ScaffoldPlan) (host : Host) (root : Path) (text : String)
    (before after : Session) : Prop :=
  Settles root (plan.aggregator.path :: plan.files.map GeneratedFile.path) before.files
      after.files ∧
    (after.files.readText (root.join plan.aggregator.path) = .ok text ∧
        (plan.routeExists before.files root = true ∨ ∃ failure stopped,
          plan.applyAggregator host root .skip before = .error failure stopped) ∨
      after.files.readText (root.join plan.aggregator.path) = .ok plan.aggregator.after ∧
        plan.routeExists before.files root = false)

theorem apply_skip_settles (ofSources : plan.OfSources) (sound : Sound root before.files)
    (read : before.files.readText (root.join plan.aggregator.path) = .ok text)
    (ran : (∃ report, plan.apply host root .skip before = .ok report after) ∨
      ∃ failure, plan.apply host root .skip before = .error failure after) :
    plan.SettlesSkipping host root text before after := by
  -- The step for the aggregator came first, and what follows it leaves the aggregator alone.
  have follows {middle : Session} {aggregator : Option Path}
      (first : plan.applyAggregator host root .skip before = .ok aggregator middle)
      (settles' : Settles root (plan.files.map GeneratedFile.path) middle.files after.files) :
      plan.SettlesSkipping host root text before after := by
    obtain ⟨settles, written⟩ := applyAggregator_settles ofSources sound first
    refine ⟨settles.trans settles', ?_⟩
    rcases written with ⟨⟨-, there⟩, -, same⟩ | ⟨replaces, -, written⟩
    · rw [← same] at read
      exact Or.inl ⟨ofSources.readText_kept settles' read, Or.inl there⟩
    · exact Or.inr ⟨ofSources.readText_kept settles' written, by simpa using replaces⟩
  rcases ran with ⟨report, ran⟩ | ⟨failure, ran⟩
  · obtain ⟨-, aggregator, middle, reports, first, second, -⟩ := apply_eq_ok ran
    obtain ⟨settles, -⟩ := applyAggregator_settles ofSources sound first
    have shows : OverwritePolicy.skip = .backup → host.ShowsDigits := fun same => by cases same
    exact follows first (mapM_applyFile_settles shows ofSources.files settles.sound second).1
  · rcases apply_eq_error ran with ⟨stops, -⟩ | failed | ⟨aggregator, middle, first, failed⟩
    · cases stops
    · have settles := applyAggregator_error_settles sound failed
      obtain ⟨content, found, decodes⟩ := readText_eq_ok_iff.1 read
      refine ⟨settles.mono (by simp), Or.inl ⟨?_, Or.inr ⟨failure, after, failed⟩⟩⟩
      exact readText_eq_ok_iff.2
        ⟨content, settles.others ofSources.aggregator (by simp) found, decodes⟩
    · obtain ⟨settles, -⟩ := applyAggregator_settles ofSources sound first
      exact follows first
        (mapM_applyFile_error_settles (by decide) ofSources.files settles.sound failed)

end ScaffoldPlan

end ResourceScaffold

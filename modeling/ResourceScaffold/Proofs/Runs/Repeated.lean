import ResourceScaffold.Proofs.Apply.Outcome
import ResourceScaffold.Proofs.Execution.Untouched
import ResourceScaffold.Proofs.Runs.Keeping

/-!
Contract: repeated runs of one generator that keep the files that are there.

Owns:
- trees that have lost nothing, and that a run under this policy loses nothing;
- that all generated files are there after such a run, along any paths;
- plans whose files are all there, which are carried out without a change;
- that runs after a successful one change nothing.

Does not own: runs of several generators, and what the first run writes.
-/

namespace ResourceScaffold

open FileTree

/-! ## Trees that lose nothing -/

/-- Nothing was lost: directories are directories still, and what is there may only have another
content. -/
structure FileTree.Grows (before after : FileTree) : Prop where
  sameStart : after.workingDirectory = before.workingDirectory
  directories : KeepsDirectories before after
  occupied : ∀ {location}, before.node? location ≠ none → after.node? location ≠ none

namespace FileTree.Grows

variable {before middle after : FileTree} {path : Path}

theorem refl (tree : FileTree) : Grows tree tree :=
  ⟨rfl, id, id⟩

theorem trans (first : Grows before middle) (second : Grows middle after) : Grows before after :=
  ⟨second.sameStart.trans first.sameStart, fun found => second.directories (first.directories found),
    fun there => second.occupied (first.occupied there)⟩

theorem of_keeps (keeps : Keeps [] before after) : Grows before after where
  sameStart := keeps.sameStart
  directories := keeps.directories
  occupied there := by
    obtain ⟨node, found⟩ := Option.ne_none_iff_exists'.1 there
    rw [keeps.nodes found (by simp)]
    exact Option.some_ne_none _

theorem of_set {tree : FileTree} {location : Location} (below : location ≠ [])
    (noDirectory : tree.node? location ≠ some .directory) (node : Node) :
    Grows tree (tree.set location node) where
  sameStart := rfl
  directories := set_keepsDirectories noDirectory node
  occupied {other} there := by
    by_cases same : other = location
    · rw [same, node?_set_self tree node below]
      exact Option.some_ne_none _
    · rwa [node?_set_of_ne tree node same]

theorem locate (grows : Grows before after) {location : Location}
    (located : before.locate path = .ok location) : after.locate path = .ok location := by
  obtain ⟨⟨⟩, checked, followed⟩ := bind_eq_ok_iff.1 located
  refine bind_eq_ok_iff.2 ⟨(), checked, ?_⟩
  rw [startOf, grows.sameStart]
  exact follow_mono grows.directories followed

/-- What exists along a path still does, even if the path steps up. -/
theorem pathExists (grows : Grows before after) (there : before.pathExists path = true) :
    after.pathExists path = true := by
  obtain ⟨node, found⟩ := pathExists_iff.1 there
  obtain ⟨location, located, here⟩ := status_eq_ok_iff_locate.1 found
  have occupied : before.node? location ≠ none := here ▸ Option.some_ne_none node
  obtain ⟨node', here'⟩ := Option.ne_none_iff_exists'.1 (grows.occupied occupied)
  exact pathExists_iff.2 ⟨node', status_eq_ok_iff_locate.2 ⟨location, grows.locate located, here'⟩⟩

end FileTree.Grows

/-! ## Runs that lose nothing -/

variable {host : Host} {root path : Path} {content : String} {before after : Session}

theorem writeText_grows (wellFormed : before.files.WellFormed)
    (ran : writeText host path content before = .ok () after) :
    Grows before.files after.files ∧ after.files.WellFormed ∧
      after.files.pathExists path = true := by
  obtain ⟨created, changed, creates, written, rfl⟩ := writeText_eq_ok ran
  obtain ⟨keeps, valid⟩ := creates.keeps wellFormed
  obtain ⟨located, rfl, valid', noDirectory⟩ := writeFile_landing valid written
  have below := ne_nil_of_noDirectory noDirectory
  have grows := Grows.of_set below noDirectory (.file content.toUTF8)
  refine ⟨(Grows.of_keeps keeps).trans grows, valid', pathExists_iff.2 ⟨.file content.toUTF8, ?_⟩⟩
  exact status_eq_ok_iff_locate.2 ⟨_, grows.locate located, node?_set_self created _ below⟩

namespace ScaffoldPlan

variable {plan : ScaffoldPlan} {file : GeneratedFile}

/-- Dealing with a file loses nothing under the policy that keeps files, and then the file is
there. -/
theorem applyFile_grows (wellFormed : before.files.WellFormed) {report : FileReport}
    (ran : applyFile host root .skip file before = .ok report after) :
    Grows before.files after.files ∧ after.files.WellFormed ∧
      after.files.pathExists (root.join file.path) = true := by
  rcases applyFile_cases host root .skip file before with
    ⟨-, noted, same, -, step⟩ | ⟨outcome, noted, same, -, step⟩ | ⟨outcome, -⟩
  · rw [step] at ran
    obtain ⟨⟨⟩, middle, wrote, rest⟩ := Action.bind_eq_ok_iff.1 ran
    rw [← same] at wellFormed ⊢
    have grown := writeText_grows wellFormed wrote
    cases rest
    exact grown
  · rw [step] at ran
    cases ran
    rw [same]
    exact ⟨.refl _, wellFormed, (outcomeOf_eq_skipped_iff.1 outcome).2⟩
  · cases (outcomeOf_backup (FileOutcome.mem_backup?_iff.2 outcome)).1

theorem mapM_applyFile_grows {files : List GeneratedFile} (wellFormed : before.files.WellFormed)
    {reports : List FileReport}
    (ran : files.mapM (applyFile host root .skip) before = .ok reports after) :
    Grows before.files after.files ∧ after.files.WellFormed ∧
      ∀ file ∈ files, after.files.pathExists (root.join file.path) = true := by
  induction files generalizing before reports with
  | nil =>
      cases ran
      exact ⟨.refl _, wellFormed, by simp⟩
  | cons file rest inductionHypothesis =>
      obtain ⟨report, middle, reports', first, second, rfl⟩ := Action.mapM_cons_eq_ok ran
      obtain ⟨grows, valid, there⟩ := applyFile_grows wellFormed first
      obtain ⟨grows', valid', there'⟩ := inductionHypothesis valid second
      exact ⟨grows.trans grows', valid',
        List.forall_mem_cons.2 ⟨grows'.pathExists there, there'⟩⟩

/-- After a plan was carried out under the policy that keeps files, all its files are there. -/
theorem pathExists_of_apply (wellFormed : before.files.WellFormed) {report : ScaffoldReport}
    (ran : plan.apply host root .skip before = .ok report after) :
    ∀ file ∈ plan.files, after.files.pathExists (root.join file.path) = true := by
  obtain ⟨-, aggregator, middle, reports, first, second, rfl⟩ := apply_eq_ok ran
  have valid : middle.files.WellFormed := by
    rcases applyAggregator_cases plan host root .skip before with
      ⟨-, noted, same, -, step⟩ | ⟨-, step⟩
    · rw [step] at first
      cases first
      rwa [same]
    · rw [step] at first
      obtain ⟨⟨⟩, written, wrote, rest⟩ := Action.bind_eq_ok_iff.1 first
      cases rest
      exact (writeText_grows wellFormed wrote).2.1
  exact (mapM_applyFile_grows valid second).2.2

/-! ## Plans that keep everything -/

theorem applyFile_of_kept (host : Host)
    (there : before.files.pathExists (root.join file.path) = true) :
    ∃ report after, applyFile host root .skip file before = .ok report after ∧
      after.files = before.files := by
  have skips : outcomeOf host root .skip before.files before.clockReadings file.path = .skipped :=
    outcomeOf_eq_skipped_iff.2 ⟨rfl, there⟩
  rcases applyFile_cases host root .skip file before with
    ⟨outcome, -⟩ | ⟨-, noted, same, -, step⟩ | ⟨outcome, -⟩
  · rw [skips] at outcome
    cases outcome
  · exact ⟨_, noted, step, same⟩
  · rw [skips] at outcome
    cases outcome

theorem mapM_applyFile_of_kept (host : Host) {files : List GeneratedFile}
    (there : ∀ file ∈ files, before.files.pathExists (root.join file.path) = true) :
    ∃ reports after, files.mapM (applyFile host root .skip) before = .ok reports after ∧
      after.files = before.files := by
  induction files generalizing before with
  | nil => exact ⟨[], before, rfl, rfl⟩
  | cons file rest inductionHypothesis =>
      rw [List.forall_mem_cons] at there
      obtain ⟨report, middle, first, same⟩ := applyFile_of_kept host there.1
      obtain ⟨reports, after, second, same'⟩ := inductionHypothesis (same ▸ there.2)
      refine ⟨report :: reports, after, ?_, same'.trans same⟩
      rw [List.mapM_cons, Action.bind_of_ok first, Action.bind_of_ok second]
      rfl

/-- If all files of a plan are there and are to be kept, then it is carried out without a change. -/
theorem apply_of_kept (host : Host) (routed : plan.routeExists before.files root = true)
    (there : ∀ file ∈ plan.files, before.files.pathExists (root.join file.path) = true) :
    ∃ report after, plan.apply host root .skip before = .ok report after ∧
      after.files = before.files := by
  rcases apply_cases plan host root .skip before with ⟨stops, -⟩ | ⟨-, step⟩
  · cases stops
  · rcases applyAggregator_cases plan host root .skip before with
      ⟨-, noted, same, -, first⟩ | ⟨replaces, -⟩
    · rw [← same] at there
      obtain ⟨reports, after, second, same'⟩ := mapM_applyFile_of_kept host there
      refine ⟨⟨none, reports⟩, after, ?_, same'.trans same⟩
      rw [step, Action.bind_of_ok first, Action.bind_of_ok second]
      rfl
    · exact absurd ⟨rfl, routed⟩ replaces

end ScaffoldPlan

/-! ## Repeated runs -/

namespace Generator

variable {generator : Generator} {report : ScaffoldReport}

/-- Makes a plan and carries it out, keeping the files that are there. -/
def keepingRun (generator : Generator) (root : Path) (host : Host) :
    Action Failure ScaffoldReport :=
  generator.plan root >>= fun plan => plan.apply host root .skip

def FilesExist (generator : Generator) (root : Path) (tree : FileTree) : Prop :=
  ∀ layer, tree.pathExists (root.join (generator.pathFor layer)) = true

theorem filesExist_iff {plan : ScaffoldPlan} {middle : Session}
    (planned : generator.plan root before = .ok plan middle) {tree : FileTree} :
    generator.FilesExist root tree ↔
      ∀ file ∈ plan.files, tree.pathExists (root.join file.path) = true := by
  obtain ⟨-, paths, -⟩ := plan_eq_ok planned
  have listed := List.forall_mem_map (f := GeneratedFile.path) (l := plan.files)
    (P := fun path => tree.pathExists (root.join path) = true)
  rw [← listed, paths, List.forall_mem_map, FilesExist]
  exact ⟨fun there layer _ => there layer, fun there layer => there layer layer.mem_all⟩

/-- After a run that keeps files has succeeded, all files of its generator are there. -/
theorem filesExist_of_keepingRun (wellFormed : before.files.WellFormed)
    (ran : generator.keepingRun root host before = .ok report after) :
    generator.FilesExist root after.files := by
  obtain ⟨plan, middle, planned, applied⟩ := Action.bind_eq_ok_iff.1 ran
  have looks := generator.onlyLooks_plan root before
  rw [Action.final_of_ok planned] at looks
  exact (filesExist_iff planned).2
    (ScaffoldPlan.pathExists_of_apply (looks.files ▸ wellFormed) applied)

/-- A run changes nothing if all files of its generator are there and are to be kept, whether it
succeeds or not. -/
theorem keepingRun_unchanged (host : Host) (there : generator.FilesExist root before.files) :
    ((generator.keepingRun root host).final before).files = before.files := by
  have looks := generator.onlyLooks_plan root before
  cases planned : generator.plan root before with
  | error failure middle =>
      rw [Action.final_of_error planned] at looks
      have ran : generator.keepingRun root host before = .error failure middle :=
        Action.bind_of_error planned
      rw [Action.final_of_error ran]
      exact looks.files
  | ok plan middle =>
      rw [Action.final_of_ok planned] at looks
      rw [← looks.files] at there
      have routed : plan.routeExists middle.files root = true := by
        rw [routeExists_eq planned]
        exact there .route
      obtain ⟨report, after, applied, same⟩ :=
        ScaffoldPlan.apply_of_kept host routed ((filesExist_iff planned).1 there)
      have ran : generator.keepingRun root host before = .ok report after :=
        (Action.bind_of_ok planned).trans applied
      rw [Action.final_of_ok ran, same, looks.files]

/-- Once a generator was run with success under the policy that keeps files, running it again in this
way changes nothing, any number of times and on any hosts, whether these runs succeed or not. -/
theorem keepingRuns_unchanged (wellFormed : before.files.WellFormed)
    (ran : generator.keepingRun root host before = .ok report after) (hosts : List Host) :
    (hosts.foldl (fun session host => (generator.keepingRun root host).final session) after).files =
      after.files := by
  have there := filesExist_of_keepingRun wellFormed ran
  clear ran
  induction hosts generalizing after with
  | nil => rfl
  | cons host rest inductionHypothesis =>
      have same := keepingRun_unchanged host there
      have there' : generator.FilesExist root ((generator.keepingRun root host).final after).files := by
        rwa [same]
      rw [List.foldl_cons, inductionHypothesis there', same]

/-- Runs for orders in a project that has an older service, on a device that refuses nothing at first
and everything later. -/
theorem keepingRuns_unchanged_orders :
    ∃ report after,
      orderGenerator.keepingRun ⟨"app"⟩ (orderHost fun _ _ => none) orderProject =
          .ok report after ∧
        ([orderHost fun _ _ => none, orderHost fun _ _ => some .permissionDenied].foldl
          (fun session host => (orderGenerator.keepingRun ⟨"app"⟩ host).final session) after).files =
            after.files := by
  have succeeds : (orderGenerator.keepingRun ⟨"app"⟩ (orderHost fun _ _ => none)).succeeds
      orderProject = true := by
    decide +kernel
  obtain ⟨report, after, ran⟩ := Action.succeeds_iff.1 succeeds
  exact ⟨report, after, ran, keepingRuns_unchanged (by decide) ran _⟩

end Generator

end ResourceScaffold

import ResourceScaffold.Proofs.Apply.Journal
import ResourceScaffold.Proofs.Execution.DryRun
import ResourceScaffold.Proofs.FileTree.Entering

/-!
Contract: that the generated test does not decide how a run ends.

Owns:
- actions that start no command;
- that the file of the test is there once a plan was carried out;
- that a run ends as it does without the test, and starts the test command at most once, on the files
  that the run without it leaves behind.

Does not own: what the test command does. It may do anything to the files, and end in any way.
-/

namespace ResourceScaffold

open FileTree

/-! ## Actions that start nothing -/

namespace Action

variable {Error Result First Second Item : Type}

/-- How an action ends, apart from what it leaves behind. -/
def outcome (action : Action Error Result) (before : Session) : Except Error Result :=
  match action before with
  | .ok result _ => .ok result
  | .error error _ => .error error

theorem outcome_of_ok {action : Action Error Result} {before after : Session} {result : Result}
    (ran : action before = .ok result after) : action.outcome before = .ok result := by
  rw [outcome, ran]

/-- An action that does not start the test command, however it ends. -/
def StartsNothing (action : Action Error Result) : Prop :=
  ∀ before, (action.final before).launches = before.launches

theorem OnlyLooks.startsNothing {action : Action Error Result} (looks : action.OnlyLooks) :
    action.StartsNothing :=
  fun before => (looks before).launches

theorem startsNothing_readClock (host : Host) :
    (readClock host : Action Error String).StartsNothing :=
  fun _ => rfl

theorem startsNothing_changing (path : Path) (change : FileTree → Except Fault FileTree) :
    (changing path change).StartsNothing := by
  intro before
  unfold final changing
  cases change before.files <;> rfl

theorem StartsNothing.bind {action : Action Error First} {next : First → Action Error Second}
    (first : action.StartsNothing) (rest : ∀ result, (next result).StartsNothing) :
    (action >>= next).StartsNothing := by
  intro before
  have same := first before
  cases ran : action before with
  | ok result middle =>
      rw [final_of_ok ran] at same
      have later := rest result middle
      rw [final, bind_of_ok ran]
      exact later.trans same
  | error error middle =>
      rw [final_of_error ran] at same
      rwa [final_of_error (bind_of_error ran)]

theorem startsNothing_mapM {step : Item → Action Error Result}
    (each : ∀ item, (step item).StartsNothing) (items : List Item) :
    (items.mapM step).StartsNothing := by
  induction items with
  | nil => exact (onlyLooks_pure []).startsNothing
  | cons item rest inductionHypothesis =>
      rw [List.mapM_cons]
      exact (each item).bind fun _ => inductionHypothesis.bind fun _ =>
        (onlyLooks_pure _).startsNothing

end Action

open ResourceScaffold.Action

namespace ScaffoldPlan

variable {plan : ScaffoldPlan} {host : Host} {root : Path} {policy : OverwritePolicy}
  {file : GeneratedFile} {before after : Session}

theorem startsNothing_writeText (host : Host) (path : Path) (content : String) :
    (writeText host path content).StartsNothing := by
  intro before
  obtain ⟨created, -, wrote | ⟨failure, failed⟩⟩ := writeText_created host path content before
  · rw [final, wrote]
    exact startsNothing_changing path _ { before with files := created }
  · rw [final_of_error failed]

theorem startsNothing_writeGenerated (host : Host) (root : Path) (file : GeneratedFile)
    (outcome : FileOutcome) : (writeGenerated host root file outcome).StartsNothing :=
  (startsNothing_writeText host _ _).bind fun _ =>
    (onlyLooks_note _).startsNothing.bind fun _ => (onlyLooks_pure _).startsNothing

theorem startsNothing_applyFile (host : Host) (root : Path) (policy : OverwritePolicy)
    (file : GeneratedFile) : (applyFile host root policy file).StartsNothing := by
  have backsUp : (backUp host root file).StartsNothing :=
    (startsNothing_readClock host).bind fun _ => (startsNothing_changing _ _).bind fun _ =>
      (onlyLooks_note _).startsNothing.bind fun _ => (onlyLooks_pure _).startsNothing
  refine onlyLooks_files.startsNothing.bind fun files => ?_
  split_ifs
  · cases policy with
    | skip =>
        exact (onlyLooks_note _).startsNothing.bind fun _ => (onlyLooks_pure _).startsNothing
    | backup => exact backsUp.bind fun _ => startsNothing_writeGenerated host root file _
    | force =>
        exact (onlyLooks_note _).startsNothing.bind fun _ =>
          startsNothing_writeGenerated host root file _
    | fail =>
        exact (onlyLooks_note _).startsNothing.bind fun _ =>
          startsNothing_writeGenerated host root file _
  · exact startsNothing_writeGenerated host root file _

theorem startsNothing_apply (plan : ScaffoldPlan) (host : Host) (root : Path)
    (policy : OverwritePolicy) : (plan.apply host root policy).StartsNothing := by
  have aggregates : (plan.applyAggregator host root policy).StartsNothing := by
    refine onlyLooks_files.startsNothing.bind fun files => ?_
    split_ifs
    · exact (onlyLooks_note _).startsNothing.bind fun _ => (onlyLooks_pure _).startsNothing
    · exact (startsNothing_writeText host _ _).bind fun _ =>
        (onlyLooks_note _).startsNothing.bind fun _ => (onlyLooks_pure _).startsNothing
  intro before
  rcases apply_cases plan host root policy before with ⟨-, path, -, step⟩ | ⟨-, step⟩
  · rw [final_of_error step]
  · rw [final_congr step]
    exact (aggregates.bind fun _ =>
      (startsNothing_mapM (startsNothing_applyFile host root policy) plan.files).bind fun _ =>
        (onlyLooks_pure _).startsNothing) before

/-! ## Files that are there -/

theorem writeGenerated_pathExists {outcome : FileOutcome} {report : FileReport}
    (ran : writeGenerated host root file outcome before = .ok report after)
    (wellFormed : before.files.WellFormed) :
    after.files.pathExists (root.join file.path) = true := by
  obtain ⟨⟨⟩, middle, wrote, ends⟩ := Action.bind_eq_ok_iff.1 ran
  have grown := writeText_grows wellFormed wrote
  cases ends
  exact grown.2.2

theorem applyFile_pathExists (shows : host.ShowsDigits) (wellFormed : before.files.WellFormed)
    {report : FileReport} (ran : applyFile host root policy file before = .ok report after) :
    after.files.pathExists (root.join file.path) = true := by
  rcases applyFile_warns host root policy file before with
    ⟨-, there, step⟩ | ⟨-, step⟩ | ⟨-, step⟩ | ⟨-, step⟩
  · rw [step] at ran
    cases ran
    exact there
  · rw [step] at ran
    obtain ⟨backup, middle, moves, writes⟩ := Action.bind_eq_ok_iff.1 ran
    have moved := backUp_recorded ⟨⟨⟨""⟩, "", ""⟩, []⟩ [] shows wellFormed moves
    exact writeGenerated_pathExists writes moved.wellFormed
  · rw [step] at ran
    exact writeGenerated_pathExists ran wellFormed
  · rw [step] at ran
    exact writeGenerated_pathExists ran wellFormed

/-- Nothing comes after the last file that could take it away. -/
theorem mapM_applyFile_last (shows : host.ShowsDigits) {files : List GeneratedFile}
    (wellFormed : before.files.WellFormed) (last : files.getLast? = some file)
    {reports : List FileReport}
    (ran : files.mapM (applyFile host root policy) before = .ok reports after) :
    after.files.pathExists (root.join file.path) = true := by
  induction files generalizing before reports with
  | nil => cases last
  | cons first rest inductionHypothesis =>
      obtain ⟨report, middle, reports', step, run, rfl⟩ := Action.mapM_cons_eq_ok ran
      cases rest with
      | nil =>
          cases last
          cases run
          exact applyFile_pathExists shows wellFormed step
      | cons second others =>
          obtain ⟨_, _, recorded, -, -⟩ := applyFile_recorded ⟨⟨⟨""⟩, "", ""⟩, []⟩ [] shows
            wellFormed (.nil _ _ _) step
          exact inductionHypothesis recorded.wellFormed (by rwa [List.getLast?_cons_cons] at last) run

theorem apply_last (shows : host.ShowsDigits) (wellFormed : before.files.WellFormed)
    (last : plan.files.getLast? = some file) {report : ScaffoldReport}
    (ran : plan.apply host root policy before = .ok report after) :
    after.files.pathExists (root.join file.path) = true := by
  obtain ⟨-, aggregator, middle, reports, first, second, rfl⟩ := apply_eq_ok ran
  obtain ⟨_, recorded, -⟩ := applyAggregator_recorded [] wellFormed first
  exact mapM_applyFile_last shows recorded.wellFormed last second

end ScaffoldPlan

theorem Generator.plan_test {generator : Generator} {root : Path} {plan : ScaffoldPlan}
    {before after : Session} (planned : generator.plan root before = .ok plan after) :
    ∃ testFile, plan.file? .test = some testFile ∧ plan.files.getLast? = some testFile ∧
      testFile.path = generator.pathFor .test := by
  obtain ⟨-, paths, layers⟩ := plan_eq_ok planned
  have split : plan.files.map GeneratedFile.layer =
      [.route, .controller, .service, .repository] ++ [.test] := layers
  obtain ⟨front, back, files, fronts, backs⟩ := List.map_eq_append_iff.1 split
  obtain ⟨testFile, rfl, isTest⟩ := List.map_eq_singleton_iff.1 backs
  have last : plan.files.getLast? = some testFile := by rw [files, List.getLast?_concat]
  refine ⟨testFile, ?_, last, ?_⟩
  · have none : front.find? (fun file => file.layer = Layer.test) = none := by
      refine List.find?_eq_none.2 fun file member => ?_
      have listed := List.mem_map_of_mem (f := GeneratedFile.layer) member
      rw [fronts] at listed
      rintro isTest'
      rw [of_decide_eq_true isTest'] at listed
      simp at listed
    rw [ScaffoldPlan.file?, files, List.find?_append, none, Option.none_or,
      List.find?_cons_of_pos (by simpa using isTest)]
  · have lasts := congrArg List.getLast? paths
    rw [List.getLast?_map, last] at lasts
    exact Option.some.inj lasts

/-! ## Running the test -/

theorem Action.launch_run {Error : Type} (host : Host) (invocation : Invocation)
    (before : Session) :
    (Action.launch host invocation : Action Error _) before =
      .ok (host.start invocation before.files).2
        { before with
          files := (host.start invocation before.files).1
          launches := before.launches ++ [⟨invocation, before.files⟩] } :=
  rfl

/-- The test command is started once, on the files as they are, whatever comes of it. -/
theorem TestRunner.run_launches (runner : TestRunner) (host : Host) (testFile : Path)
    (before : Session) :
    ((runner.run host testFile).final before).launches =
      before.launches ++ [⟨runner.invocation testFile, before.files⟩] := by
  let started : Session :=
    { before with
      files := (host.start (runner.invocation testFile) before.files).1
      events := before.events ++ [.testStarted (runner.commandText testFile) runner.directory]
      launches := before.launches ++ [⟨runner.invocation testFile, before.files⟩] }
  cases ended : (host.start (runner.invocation testFile) before.files).2 with
  | error fault =>
      have failed : runner.run host testFile before =
          .error (.testRunner (runner.commandText testFile) fault) started := by
        unfold run
        rw [bind_of_ok (note_run _ before), bind_of_ok (launch_run host _ _)]
        dsimp only
        rw [ended]
        rfl
      rw [final_of_error failed]
  | ok output =>
      let report := reportOf (runner.commandText testFile) output
      have passed : runner.run host testFile before =
          .ok report { started with events := started.events ++ [eventOf report] } := by
        unfold run
        rw [bind_of_ok (note_run _ before), bind_of_ok (launch_run host _ _)]
        dsimp only
        rw [ended]
        rfl
      rw [final_of_ok passed]

namespace Options

variable {options : Options} {host : Host} {generator : Generator} {plan : ScaffoldPlan}
  {policy : OverwritePolicy} {before after : Session}

def unverified (options : Options) : Options :=
  { options with noVerify := true }

theorem runGeneratedTest_run (options : Options) (host : Host) (settings : VerifySettings)
    (testFile : Path) (before : Session) :
    ∃ after, options.runGeneratedTest host settings testFile before = .ok () after ∧
      after.launches = before.launches ++
        ((TestRunner.ofSettings? settings options.root).map fun runner =>
          ⟨runner.invocation testFile, before.files⟩).toList := by
  unfold runGeneratedTest
  cases TestRunner.ofSettings? settings options.root with
  | none => exact ⟨_, printLines_run _ before, (List.append_nil _).symm⟩
  | some runner =>
      have launches := runner.run_launches host testFile before
      dsimp only
      cases ran : runner.run host testFile before with
      | ok report middle =>
          rw [final_of_ok ran] at launches
          exact ⟨_, printLines_run _ middle, launches⟩
      | error failure middle =>
          rw [final_of_error ran] at launches
          exact ⟨_, (bind_of_ok (note_run _ middle)).trans (printLines_run _ _), launches⟩

/-- The starts of the test command once a plan was carried out. -/
def testLaunches (options : Options) (generator : Generator) (plan : ScaffoldPlan)
    (files : FileTree) : List Launch :=
  match plan.file? .test, TestRunner.ofSettings? generator.settings.verify options.root with
  | some testFile, some runner => [⟨runner.invocation testFile.path, files⟩]
  | _, _ => []

theorem mem_testLaunches {files : FileTree} {launch : Launch}
    (member : launch ∈ options.testLaunches generator plan files) :
    launch.files = files ∧ launch.invocation.directory = options.root ∧
      ∃ testFile, plan.file? .test = some testFile ∧
        launch.invocation.arguments.getLast? = some testFile.path.text := by
  unfold testLaunches at member
  split at member
  · rename_i testFile runner isTest settings
    rw [List.mem_singleton] at member
    rw [member]
    have directory : runner.directory = options.root := by
      unfold TestRunner.ofSettings? at settings
      split at settings <;> cases settings
      rfl
    exact ⟨rfl, directory, testFile, isTest, List.getLast?_concat⟩
  · cases member

theorem length_testLaunches (options : Options) (generator : Generator) (plan : ScaffoldPlan)
    (files : FileTree) : (options.testLaunches generator plan files).length ≤ 1 := by
  unfold testLaunches
  split <;> simp

theorem carryOut_of_error {failure : Failure} (generator : Generator)
    (ran : plan.apply host options.root policy before = .error failure after) :
    options.carryOut host generator plan policy before =
      .error (.during "Failed to write scaffold files" failure) after := by
  have failed : (plan.apply host options.root policy).mapError
      (RunFailure.during "Failed to write scaffold files") before =
        .error (.during "Failed to write scaffold files" failure) after := by
    rw [Action.mapError, ran]
  exact bind_of_error failed

/-- Once a plan was carried out, a run ends well with and without the test, and only the test can still
start a command or change a file. -/
theorem carryOut_of_ok (verifies : options.noVerify = false) {report : ScaffoldReport}
    {applied : Session} (generator : Generator)
    (ran : plan.apply host options.root policy before = .ok report applied) :
    ∃ after plain, options.carryOut host generator plan policy before = .ok () after ∧
      options.unverified.carryOut host generator plan policy before = .ok () plain ∧
      plain.files = applied.files ∧ plain.launches = applied.launches ∧
      after.launches = applied.launches ++ options.testLaunches generator plan applied.files := by
  have carried : (plan.apply host options.root policy).mapError
      (RunFailure.during "Failed to write scaffold files") before = .ok report applied :=
    mapError_eq_ok_iff.2 ran
  let shown : Session :=
    { applied with
      output := withLines applied.output (Display.report (Display.showsSigns host) plan report) }
  have printed : printLines (Display.report (Display.showsSigns host) plan report) applied =
      .ok () shown := printLines_run _ _
  have plain : options.unverified.carryOut host generator plan policy before =
      .ok () { shown with
        output := withLines shown.output (Display.farewell generator.name.pascal) } :=
    (bind_of_ok carried).trans ((bind_of_ok printed).trans (printLines_run _ shown))
  suffices ∃ after, options.carryOut host generator plan policy before = .ok () after ∧
      after.launches = applied.launches ++ options.testLaunches generator plan applied.files by
    obtain ⟨after, ended, launches⟩ := this
    exact ⟨after, _, ended, plain, rfl, rfl, launches⟩
  unfold carryOut testLaunches
  rw [bind_of_ok carried, bind_of_ok printed, verifies]
  cases plan.file? .test with
  | none => exact ⟨_, printLines_run _ shown, (List.append_nil _).symm⟩
  | some testFile =>
      obtain ⟨tested, verified, launches⟩ :=
        options.runGeneratedTest_run host generator.settings.verify testFile.path shown
      refine ⟨_, (bind_of_ok verified).trans (printLines_run _ tested), launches.trans ?_⟩
      cases TestRunner.ofSettings? generator.settings.verify options.root with
      | none => rfl
      | some runner => rfl

/-- A plan that is not carried out fails with and without the test alike. One that is ends well both
times, and only the test can still start a command or change a file. -/
theorem carryOut_cases (verifies : options.noVerify = false) (host : Host) (generator : Generator)
    (plan : ScaffoldPlan) (policy : OverwritePolicy) (before : Session) :
    (∃ failure stopped,
        (∀ report applied, plan.apply host options.root policy before ≠ .ok report applied) ∧
        options.carryOut host generator plan policy before = .error failure stopped ∧
        options.unverified.carryOut host generator plan policy before = .error failure stopped ∧
        stopped.launches = before.launches) ∨
      ∃ report applied after plain,
        plan.apply host options.root policy before = .ok report applied ∧
        options.carryOut host generator plan policy before = .ok () after ∧
        options.unverified.carryOut host generator plan policy before = .ok () plain ∧
        plain.files = applied.files ∧ plain.launches = before.launches ∧
        after.launches = before.launches ++ options.testLaunches generator plan applied.files := by
  have starts := plan.startsNothing_apply host options.root policy before
  cases ran : plan.apply host options.root policy before with
  | error failure stopped =>
      rw [final_of_error ran] at starts
      exact Or.inl ⟨_, stopped, fun _ _ => by simp, carryOut_of_error generator ran,
        carryOut_of_error generator ran, starts⟩
  | ok report applied =>
      rw [final_of_ok ran] at starts
      obtain ⟨after, plain, ended, plainEnded, files, launches, tests⟩ :=
        carryOut_of_ok verifies generator ran
      rw [starts] at launches tests
      exact Or.inr ⟨report, applied, after, plain, rfl, ended, plainEnded, files, launches, tests⟩

/-! ## Whole runs -/

/-- A run carries its plan out under some policy. -/
def Applies (options : Options) (host : Host) (before : Session) (generator : Generator)
    (plan : ScaffoldPlan) (applied : Session) : Prop :=
  options.dryRun = false ∧ ∃ prepared policy asked report,
    options.prepare host before = .ok (generator, plan) prepared ∧
      resolvePolicy options.onConflict (plan.conflicts prepared.files options.root)
        (confirmOverwrite host) prepared = .ok (some policy) asked ∧
      plan.apply host options.root policy asked = .ok report applied

theorem Applies.unique {generator' : Generator} {plan' : ScaffoldPlan} {applied applied' : Session}
    (applies : options.Applies host before generator plan applied)
    (applies' : options.Applies host before generator' plan' applied') :
    generator = generator' ∧ plan = plan' ∧ applied = applied' := by
  obtain ⟨-, prepared, policy, asked, report, ready, resolved, carried⟩ := applies
  obtain ⟨-, prepared', policy', asked', report', ready', resolved', carried'⟩ := applies'
  rw [ready] at ready'
  cases ready'
  rw [resolved] at resolved'
  cases resolved'
  rw [carried] at carried'
  cases carried'
  exact ⟨rfl, rfl, rfl⟩

/-- What two runs come to of which one has no generated test. -/
inductive Compares (options : Options) (host : Host) (before : Session) : Prop
  /-- No plan is carried out, and the runs are the same. -/
  | same (stopped : Session) (files : (options.unverified.execute host).final before = stopped)
      (run : options.execute host before = options.unverified.execute host before)
      (launches : stopped.launches = before.launches)
      (unapplied : ∀ generator plan applied, ¬options.Applies host before generator plan applied)
  /-- A plan is carried out, and both runs succeed. -/
  | tested (generator : Generator) (plan : ScaffoldPlan) (applied after plain : Session)
      (applies : options.Applies host before generator plan applied)
      (run : options.execute host before = .ok () after)
      (plainRun : options.unverified.execute host before = .ok () plain)
      (files : plain.files = applied.files) (plainLaunches : plain.launches = before.launches)
      (launches : after.launches =
        before.launches ++ options.testLaunches generator plan applied.files)

theorem compares_of_prepare_error {failure : RunFailure}
    (failed : options.prepare host before = .error failure after) : options.Compares host before := by
  have run : options.execute host before = .error failure after := by
    rw [execute_eq, bind_of_error failed]
  have failed' : options.unverified.prepare host before = .error failure after := failed
  have plainRun : options.unverified.execute host before = .error failure after := by
    rw [execute_eq, bind_of_error failed']
  have looks := onlyLooks_prepare options host before
  rw [final_of_error failed] at looks
  refine .same after (final_of_error plainRun) (run.trans plainRun.symm) looks.launches ?_
  rintro generator plan applied ⟨-, prepared, _, _, _, ready, -⟩
  rw [failed] at ready
  cases ready

section Planned

variable {prepared asked : Session}
  (ready : options.prepare host before = .ok (generator, plan) prepared)

include ready

theorem compares_of_same (action : Action RunFailure Unit) (session : Session)
    (ends : options.conclude host generator plan prepared = action session)
    (plainEnds : options.unverified.conclude host generator plan prepared = action session)
    (launches : (action.final session).launches = prepared.launches)
    (unapplied : ∀ policy asked report applied, options.dryRun = false →
      resolvePolicy options.onConflict (plan.conflicts prepared.files options.root)
        (confirmOverwrite host) prepared = .ok (some policy) asked →
          plan.apply host options.root policy asked ≠ .ok report applied) :
    options.Compares host before := by
  have ready' : options.unverified.prepare host before = .ok (generator, plan) prepared := ready
  have run : options.execute host before = action session := by
    rw [execute_eq, bind_of_ok ready, ends]
  have plainRun : options.unverified.execute host before = action session := by
    rw [execute_eq, bind_of_ok ready', plainEnds]
  have looks := onlyLooks_prepare options host before
  rw [final_of_ok ready] at looks
  refine .same (action.final session) ?_ (run.trans plainRun.symm) (launches.trans looks.launches) ?_
  · rw [final, plainRun, final]
  · rintro generator' plan' applied ⟨live, _, policy, asked, report, other, resolved, carried⟩
    rw [ready] at other
    cases other
    exact unapplied policy asked report applied live resolved carried

theorem compares_of_dry (dry : options.dryRun = true) : options.Compares host before := by
  have dry' : options.unverified.dryRun = true := dry
  refine compares_of_same ready (printLines
    (Display.dryRun (Display.showsSigns host) plan prepared.files options.root)) prepared ?_ ?_
    (onlyLooks_printLines _ prepared).launches fun _ _ _ _ live => ?_
  · rw [conclude, bind_of_ok (files_run prepared), if_pos dry]
  · rw [conclude, bind_of_ok (files_run prepared), if_pos dry']
    rfl
  · rw [dry] at live
    cases live

theorem compares_of_unresolved (live : ¬options.dryRun = true) {failure : RunFailure}
    (resolved : resolvePolicy options.onConflict (plan.conflicts prepared.files options.root)
      (confirmOverwrite host) prepared = .error failure asked) : options.Compares host before := by
  have live' : ¬options.unverified.dryRun = true := live
  have resolved' : resolvePolicy options.unverified.onConflict
      (plan.conflicts prepared.files options.unverified.root) (confirmOverwrite host) prepared =
        .error failure asked := resolved
  have asking := onlyLooks_resolvePolicy host options.onConflict
    (plan.conflicts prepared.files options.root) prepared
  rw [final_of_error resolved] at asking
  refine compares_of_same ready (throw failure) asked ?_ ?_
    asking.launches fun _ _ _ _ _ other => ?_
  · rw [conclude, bind_of_ok (files_run prepared), if_neg live, bind_of_error resolved]
    rfl
  · rw [conclude, bind_of_ok (files_run prepared), if_neg live', bind_of_error resolved']
    rfl
  · rw [resolved] at other
    cases other

theorem compares_of_resolved (verifies : options.noVerify = false) (live : ¬options.dryRun = true)
    {policy? : Option OverwritePolicy}
    (resolved : resolvePolicy options.onConflict (plan.conflicts prepared.files options.root)
      (confirmOverwrite host) prepared = .ok policy? asked) : options.Compares host before := by
  have live' : ¬options.unverified.dryRun = true := live
  have resolved' : resolvePolicy options.unverified.onConflict
      (plan.conflicts prepared.files options.unverified.root) (confirmOverwrite host) prepared =
        .ok policy? asked := resolved
  have asking := onlyLooks_resolvePolicy host options.onConflict
    (plan.conflicts prepared.files options.root) prepared
  rw [final_of_ok resolved] at asking
  have ends : options.conclude host generator plan prepared =
      options.proceed host generator plan policy? asked := by
    rw [conclude, bind_of_ok (files_run prepared), if_neg live, bind_of_ok resolved]
  have plainEnds : options.unverified.conclude host generator plan prepared =
      options.unverified.proceed host generator plan policy? asked := by
    rw [conclude, bind_of_ok (files_run prepared), if_neg live', bind_of_ok resolved']
  cases policy? with
  | none =>
      refine compares_of_same ready _ _ ends plainEnds
        ((onlyLooks_printLines _ asked).launches.trans asking.launches) fun _ _ _ _ _ other => ?_
      rw [resolved] at other
      cases other
  | some policy =>
      rcases carryOut_cases verifies host generator plan policy asked with
        ⟨failure, stopped, unapplied, failed, plainFailed, same⟩ |
          ⟨report, applied, after, plain, carried, ended, plainEnded, files, plainLaunches, tests⟩
      · refine compares_of_same ready (throw failure) stopped
          (ends.trans failed) (plainEnds.trans plainFailed) (same.trans asking.launches) ?_
        rintro policy' asked' report applied - other
        rw [resolved] at other
        cases other
        exact unapplied report applied
      · have looks := onlyLooks_prepare options host before
        rw [final_of_ok ready] at looks
        rw [asking.launches, looks.launches] at plainLaunches tests
        have ready' : options.unverified.prepare host before = .ok (generator, plan) prepared := ready
        refine .tested generator plan applied after plain
          ⟨by simpa using live, prepared, policy, asked, report, ready, resolved, carried⟩
          ?_ ?_ files plainLaunches tests
        · rw [execute_eq, bind_of_ok ready, ends]
          exact ended
        · rw [execute_eq, bind_of_ok ready', plainEnds]
          exact plainEnded

end Planned

/-- With the same surroundings, a run differs from the one without the test only if its plan is
carried out. -/
theorem compares (verifies : options.noVerify = false) (host : Host) (before : Session) :
    options.Compares host before := by
  cases prepares : options.prepare host before with
  | error failure after => exact compares_of_prepare_error prepares
  | ok planned prepared =>
      by_cases dry : options.dryRun = true
      · exact compares_of_dry prepares dry
      · cases resolved : resolvePolicy options.onConflict
            (planned.2.conflicts prepared.files options.root) (confirmOverwrite host) prepared with
        | error failure asked => exact compares_of_unresolved prepares dry resolved
        | ok policy? asked => exact compares_of_resolved prepares verifies dry resolved

/-- The file of the test is there once the plan is carried out, and the test command finds it by its
path from within the root. -/
theorem Applies.locate_test {applied : Session} (shows : host.ShowsDigits)
    (wellFormed : before.files.WellFormed)
    (applies : options.Applies host before generator plan applied) :
    ∃ testFile location, plan.file? .test = some testFile ∧
      applied.files.locate (options.root.join testFile.path) = .ok location ∧
      (applied.files.enter options.root).locate testFile.path = .ok location ∧
      applied.files.node? location ≠ none := by
  obtain ⟨-, prepared, policy, asked, report, ready, resolved, carried⟩ := applies
  have looks := onlyLooks_prepare options host before
  rw [final_of_ok ready] at looks
  have asking := onlyLooks_resolvePolicy host options.onConflict
    (plan.conflicts prepared.files options.root) prepared
  rw [final_of_ok resolved] at asking
  obtain ⟨planning, -, planned⟩ := plan_of_prepare ready
  obtain ⟨testFile, isTest, last, path⟩ := Generator.plan_test planned
  have there := ScaffoldPlan.apply_last shows (asking.files ▸ looks.files ▸ wellFormed) last carried
  obtain ⟨node, found⟩ := pathExists_iff.1 there
  obtain ⟨location, located, here⟩ := status_eq_ok_iff_locate.1 found
  have nonempty : testFile.path.text ≠ "" := by
    obtain ⟨final, named, -⟩ := generator.endsInName_pathFor .test
    rw [path]
    intro empty
    have unnamed : (generator.pathFor .test).names = [] := by
      rw [Path.names, Path.segments, empty]
      rfl
    rw [unnamed] at named
    cases named
  refine ⟨testFile, location, isTest, located, locate_enter nonempty located, ?_⟩
  rw [here]
  exact Option.some_ne_none node

/-- With the test, a run ends as it does without it, however the test command behaves. The command is
started at most once, and exactly if the plan is carried out and the settings have a command. It then
finds the files as the run without the test leaves them, and its last argument leads from within
its directory to the file of the test below the root, which is there. -/
theorem execute_indifferent_to_test (verifies : options.noVerify = false) (shows : host.ShowsDigits)
    (wellFormed : before.files.WellFormed) :
    (options.execute host).outcome before = (options.unverified.execute host).outcome before ∧
      ((options.unverified.execute host).final before).launches = before.launches ∧
      ∃ launches,
        ((options.execute host).final before).launches = before.launches ++ launches ∧
        launches.length ≤ 1 ∧
        (∀ generator plan applied, options.Applies host before generator plan applied →
          launches = options.testLaunches generator plan applied.files) ∧
        ∀ launch ∈ launches,
          launch.files = ((options.unverified.execute host).final before).files ∧
          ∃ generator plan applied testFile location,
            options.Applies host before generator plan applied ∧ applied.files = launch.files ∧
            plan.file? .test = some testFile ∧ launch.invocation.directory = options.root ∧
            launch.invocation.arguments.getLast? = some testFile.path.text ∧
            launch.files.locate (options.root.join testFile.path) = .ok location ∧
            (launch.files.enter launch.invocation.directory).locate testFile.path = .ok location ∧
            launch.files.node? location ≠ none := by
  cases compares verifies host before with
  | same stopped files run launches unapplied =>
      refine ⟨by rw [outcome, run, outcome], by rw [files, launches], [], ?_, Nat.zero_le 1,
        fun generator plan applied applies => absurd applies (unapplied generator plan applied),
        fun _ member => absurd member List.not_mem_nil⟩
      have same : (options.execute host).final before = stopped := by rw [final, run, ← files, final]
      rw [same, launches, List.append_nil]
  | tested generator plan applied after plain applies run plainRun files plainLaunches launches =>
      rw [outcome_of_ok run, outcome_of_ok plainRun, final_of_ok run, final_of_ok plainRun, files]
      refine ⟨rfl, plainLaunches, _, launches, options.length_testLaunches generator plan _, ?_, ?_⟩
      · intro generator' plan' applied' applies'
        obtain ⟨rfl, rfl, rfl⟩ := applies.unique applies'
        rfl
      · intro launch member
        obtain ⟨found, directory, testFile, isTest, last⟩ := mem_testLaunches member
        obtain ⟨testFile', location, isTest', located, entered, there⟩ :=
          applies.locate_test shows wellFormed
        rw [isTest] at isTest'
        cases isTest'
        rw [found, directory]
        exact ⟨rfl, generator, plan, applied, testFile, location, applies, rfl, isTest, rfl, last,
          located, entered, there⟩

/-! ## A test command that destroys everything -/

/-- A host whose test command erases all files and is killed by a signal. -/
def wreckingHost : Host :=
  { calmHost with
    start := fun _ _ => (⟨[], []⟩, .ok ⟨none, "FAIL".toUTF8, .empty⟩) }

theorem keepingOptions_applies :
    ∃ applied, keepingOptions.Applies wreckingHost unroutedProject (Generator.standard orderName {})
        (defaultPlan orderName routelessAggregator routedAggregator) applied ∧
      applied.files = unroutedProject.files := by
  obtain ⟨prepared, ready⟩ := keepingOptions_run.1
  have ready' : keepingOptions.prepare wreckingHost unroutedProject = .ok (Generator.standard
      orderName {}, defaultPlan orderName routelessAggregator routedAggregator) prepared := ready
  have looks := onlyLooks_prepare keepingOptions calmHost unroutedProject
  rw [final_of_ok ready] at looks
  obtain ⟨report, applied, carried, kept⟩ := apply_unroutedProject wreckingHost looks.files
  exact ⟨applied, ⟨rfl, prepared, .skip, prepared, report, ready', rfl, carried⟩,
    kept.trans looks.files⟩

theorem testLaunches_orders (files : FileTree) :
    keepingOptions.testLaunches (Generator.standard orderName {})
        (defaultPlan orderName routelessAggregator routedAggregator) files =
      [⟨⟨"yarn", ["test", "test/integration/Order.test.ts"], ⟨"."⟩⟩, files⟩] := by
  have found : (defaultPlan orderName routelessAggregator routedAggregator).file? .test =
      some ((Generator.standard orderName {}).fileOf .test) := rfl
  have runner : TestRunner.ofSettings? (Generator.standard orderName {}).settings.verify
      keepingOptions.root = some ⟨"yarn", ["test"], ⟨"."⟩⟩ := rfl
  have path : ((Generator.standard orderName {}).fileOf .test).path =
      ⟨"test/integration/Order.test.ts"⟩ := by
    decide +kernel
  rw [testLaunches, found, runner]
  dsimp only [TestRunner.invocation]
  rw [path]
  rfl

/-- The run ends well all the same, and the command found the project as it was. -/
theorem execute_indifferent_to_wreckage :
    (keepingOptions.execute wreckingHost).outcome unroutedProject =
        (keepingOptions.unverified.execute wreckingHost).outcome unroutedProject ∧
      ∃ launch, ((keepingOptions.execute wreckingHost).final unroutedProject).launches = [launch] ∧
        launch.files = unroutedProject.files ∧
        launch.invocation =
          ⟨"yarn", ["test", "test/integration/Order.test.ts"], ⟨"."⟩⟩ ∧
        launch.files = ((keepingOptions.unverified.execute wreckingHost).final unroutedProject).files ∧
        launch.files.pathExists ⟨"./test/integration/Order.test.ts"⟩ = true := by
  have digits : wreckingHost.ShowsDigits := orderHost_digits fun _ _ => none
  obtain ⟨applied, applies, same⟩ := keepingOptions_applies
  have verifies : keepingOptions.noVerify = false := rfl
  have wellFormed : unroutedProject.files.WellFormed := by decide
  obtain ⟨outcome, -, launches, started, -, exactly', finds⟩ :=
    execute_indifferent_to_test verifies digits wellFormed
  have tests : launches =
      [⟨⟨"yarn", ["test", "test/integration/Order.test.ts"], ⟨"."⟩⟩, applied.files⟩] :=
    (exactly' _ _ _ applies).trans (testLaunches_orders _)
  rw [tests] at started finds
  refine ⟨outcome, _, started, same, rfl, (finds _ List.mem_cons_self).1, ?_⟩
  change applied.files.pathExists _ = true
  rw [same]
  exact unroutedProject_files .test

end Options

end ResourceScaffold

import ResourceScaffold.Execution
import ResourceScaffold.Proofs.Apply.Run
import ResourceScaffold.Proofs.Runs.Targets

/-!
Contract: the ends of a run that leave the project as it was.

Owns:
- actions that neither change the files nor start the test command, and the faults of the others;
- the part of a run that comes before anything is written;
- the ends of a run that come before the first write.

Does not own: what a run leaves behind that stops between two writes.
-/

namespace ResourceScaffold

/-! ## Untouched projects -/

/-- The files are the same, and the test command was not started in between. -/
structure Untouched (before after : Session) : Prop where
  files : after.files = before.files
  launches : after.launches = before.launches

namespace Untouched

theorem refl (session : Session) : Untouched session session := ⟨rfl, rfl⟩

theorem trans {before middle after : Session} (first : Untouched before middle)
    (second : Untouched middle after) : Untouched before after :=
  ⟨second.files.trans first.files, second.launches.trans first.launches⟩

end Untouched

namespace Action

variable {Error Result First Second : Type}

/-- The session that an action leaves behind, whether it succeeds or fails. -/
def final (action : Action Error Result) (before : Session) : Session :=
  match action before with
  | .ok _ after => after
  | .error _ after => after

theorem final_of_ok {action : Action Error Result} {before after : Session} {result : Result}
    (ran : action before = .ok result after) : action.final before = after := by
  rw [final, ran]

theorem final_of_error {action : Action Error Result} {before after : Session} {error : Error}
    (ran : action before = .error error after) : action.final before = after := by
  rw [final, ran]

theorem final_congr {action other : Action Error Result} {before before' : Session}
    (same : action before = other before') : action.final before = other.final before' := by
  rw [final, final, same]

/-! ## Actions that only look -/

/-- An action that leaves the project untouched, however it ends. -/
def OnlyLooks (action : Action Error Result) : Prop :=
  ∀ before, Untouched before (action.final before)

theorem onlyLooks_pure (result : Result) : (pure result : Action Error Result).OnlyLooks :=
  fun before => .refl before

theorem onlyLooks_throw (error : Error) : (throw error : Action Error Result).OnlyLooks :=
  fun before => .refl before

theorem onlyLooks_ofExcept (result : Except Error Result) : (ofExcept result).OnlyLooks := by
  cases result with
  | ok result => exact onlyLooks_pure result
  | error error => exact onlyLooks_throw error

theorem onlyLooks_files : (files : Action Error FileTree).OnlyLooks :=
  fun before => .refl before

theorem onlyLooks_note (events : List Event) : (note events : Action Error Unit).OnlyLooks :=
  fun _ => ⟨rfl, rfl⟩

theorem onlyLooks_printLine (line : String) : (printLine line : Action Error Unit).OnlyLooks :=
  fun _ => ⟨rfl, rfl⟩

theorem onlyLooks_reading (path : Path) (read : FileTree → Except Fault Result) :
    (reading path read).OnlyLooks := by
  intro before
  unfold final reading
  cases read before.files <;> exact .refl before

theorem OnlyLooks.bind {action : Action Error First} {next : First → Action Error Second}
    (looks : action.OnlyLooks) (rest : ∀ first, (next first).OnlyLooks) :
    (action >>= next).OnlyLooks := by
  intro before
  have first := looks before
  cases ran : action before with
  | ok result middle =>
      rw [final_of_ok ran] at first
      have same : (action >>= next).final before = (next result).final middle := by
        rw [final, bind_of_ok ran, final]
      rw [same]
      exact first.trans (rest result middle)
  | error error middle =>
      rw [final_of_error ran] at first
      rwa [final_of_error (bind_of_error ran)]

theorem OnlyLooks.mapError {Other : Type} {action : Action Error Result}
    (looks : action.OnlyLooks) (words : Error → Other) : (action.mapError words).OnlyLooks := by
  intro before
  have same : (action.mapError words).final before = action.final before := by
    unfold final Action.mapError
    cases action before <;> rfl
  rw [same]
  exact looks before

theorem onlyLooks_forM {Item : Type} {step : Item → Action Error Unit}
    (looks : ∀ item, (step item).OnlyLooks) (items : List Item) : (items.forM step).OnlyLooks := by
  induction items with
  | nil => exact onlyLooks_pure ()
  | cons item rest inductionHypothesis => exact (looks item).bind fun _ => inductionHypothesis

theorem onlyLooks_foldlM {Item State : Type} {step : State → Item → Action Error State}
    (looks : ∀ state item, (step state item).OnlyLooks) (items : List Item) (state : State) :
    (items.foldlM step state).OnlyLooks := by
  induction items generalizing state with
  | nil => exact onlyLooks_pure state
  | cons item rest inductionHypothesis =>
      rw [List.foldlM_cons]
      exact (looks state item).bind inductionHypothesis

/-! ## Failures of actions -/

/-- Every failure of an action is of a kind. -/
def FailsWith (kind : Error → Prop) (action : Action Error Result) : Prop :=
  ∀ before error after, action before = .error error after → kind error

variable {kind : Error → Prop}

theorem failsWith_pure (result : Result) : (pure result : Action Error Result).FailsWith kind :=
  nofun

theorem failsWith_note (events : List Event) : (note events).FailsWith kind := nofun

theorem failsWith_printLine (line : String) : (printLine line).FailsWith kind := nofun

theorem failsWith_readClock (host : Host) : (readClock host).FailsWith kind := nofun

theorem FailsWith.bind {action : Action Error First} {next : First → Action Error Second}
    (fails : action.FailsWith kind) (rest : ∀ first, (next first).FailsWith kind) :
    (action >>= next).FailsWith kind := by
  intro before error after ran
  rcases bind_eq_error_iff.1 ran with failed | ⟨first, middle, -, failed⟩
  · exact fails before error after failed
  · exact rest first middle error after failed

theorem failsWith_forM {Item : Type} {step : Item → Action Error Unit}
    (fails : ∀ item, (step item).FailsWith kind) (items : List Item) :
    (items.forM step).FailsWith kind := by
  induction items with
  | nil => exact failsWith_pure ()
  | cons item rest inductionHypothesis => exact (fails item).bind fun _ => inductionHypothesis

theorem failsWith_mapM {Item : Type} {step : Item → Action Error Result}
    (fails : ∀ item, (step item).FailsWith kind) (items : List Item) :
    (items.mapM step).FailsWith kind := by
  induction items with
  | nil => exact failsWith_pure []
  | cons item rest inductionHypothesis =>
      rw [List.mapM_cons]
      exact (fails item).bind fun _ => inductionHypothesis.bind fun _ => failsWith_pure _

/-- An action that has no way to fail. -/
abbrev NeverFails (action : Action Error Result) : Prop :=
  action.FailsWith fun _ => False

theorem NeverFails.exists_ok {action : Action Error Result} (never : action.NeverFails)
    (before : Session) : ∃ result after, action before = .ok result after := by
  cases ran : action before with
  | ok result after => exact ⟨result, after, rfl⟩
  | error error after => exact (never before error after ran).elim

end Action

open ResourceScaffold.Action

/-! ## Steps before the first write -/

theorem Template.Registry.onlyLooks_replaceFrom (directory : Path) (registry : Registry)
    (builtin : Builtin) : (replaceFrom directory registry builtin).OnlyLooks := by
  refine onlyLooks_files.bind fun files => ?_
  split_ifs
  · exact (onlyLooks_reading _ _).bind fun source => (onlyLooks_ofExcept _).bind fun replaced =>
      (onlyLooks_note _).bind fun _ => onlyLooks_pure replaced
  · exact onlyLooks_pure registry

namespace Generator

theorem onlyLooks_create (name : ResourceName) (settings : Settings) :
    (create name settings).OnlyLooks := by
  intro before
  unfold create
  cases settings.templates.overrideDir with
  | none =>
      exact (onlyLooks_ofExcept Template.Registry.standard).bind (fun _ => onlyLooks_pure _) before
  | some directory =>
      have replaces := (onlyLooks_ofExcept Template.Registry.standard).bind fun registry =>
        onlyLooks_foldlM (Template.Registry.onlyLooks_replaceFrom directory)
          Template.Builtin.all registry
      exact replaces.bind (fun _ => onlyLooks_pure _) before

theorem onlyLooks_plan (generator : Generator) (root : Path) : (generator.plan root).OnlyLooks := by
  refine (onlyLooks_reading _ _).bind fun before => OnlyLooks.bind ?_ fun after =>
    (onlyLooks_ofExcept _).bind fun files => onlyLooks_pure _
  exact (onlyLooks_ofExcept _).bind fun splice =>
    (onlyLooks_note _).bind fun _ => onlyLooks_ofExcept _

end Generator

/-! ## Carrying out a plan -/

/-- A failure because the files, or the device, refused an operation. -/
def Failure.OnFiles (failure : Failure) : Prop :=
  ∃ path fault, failure = .fileSystem path fault

namespace ScaffoldPlan

variable {plan : ScaffoldPlan} {host : Host} {root : Path} {policy : OverwritePolicy}
  {before after : Session}

theorem failsWith_changing (path : Path) (change : FileTree → Except Fault FileTree) :
    (changing path change).FailsWith Failure.OnFiles := by
  intro before failure after ran
  unfold changing at ran
  split at ran
  · cases ran
  · cases ran
    exact ⟨path, _, rfl⟩

theorem failsWith_createDirectories (host : Host) (path : Path) :
    (createDirectories host path).FailsWith Failure.OnFiles := by
  intro before failure after ran
  unfold createDirectories at ran
  simp only at ran
  split at ran
  · cases ran
  · cases ran
    exact ⟨path, _, rfl⟩

theorem failsWith_writeText (host : Host) (path : Path) (content : String) :
    (writeText host path content).FailsWith Failure.OnFiles := by
  unfold writeText
  split
  · exact (failsWith_createDirectories host _).bind fun _ => failsWith_changing _ _
  · exact (failsWith_pure _).bind fun _ => failsWith_changing _ _

theorem failsWith_writeGenerated (host : Host) (root : Path) (file : GeneratedFile)
    (outcome : FileOutcome) : (writeGenerated host root file outcome).FailsWith Failure.OnFiles :=
  (failsWith_writeText host _ _).bind fun _ =>
    (failsWith_note _).bind fun _ => failsWith_pure _

theorem failsWith_backUp (host : Host) (root : Path) (file : GeneratedFile) :
    (backUp host root file).FailsWith Failure.OnFiles :=
  (failsWith_readClock host).bind fun _ => (failsWith_changing _ _).bind fun _ =>
    (failsWith_note _).bind fun _ => failsWith_pure _

theorem failsWith_applyFile (host : Host) (root : Path) (policy : OverwritePolicy)
    (file : GeneratedFile) : (applyFile host root policy file).FailsWith Failure.OnFiles := by
  intro before failure after ran
  rcases applyFile_cases host root policy file before with
    ⟨-, noted, -, -, step⟩ | ⟨-, noted, -, -, step⟩ | ⟨-, step⟩
  · rw [step] at ran
    exact failsWith_writeGenerated host root file _ noted failure after ran
  · rw [step] at ran
    cases ran
  · rw [step] at ran
    have fails := (failsWith_backUp host root file).bind fun backup =>
      failsWith_writeGenerated host root file (.backedUp backup)
    exact fails before failure after ran

theorem failsWith_applyAggregator (plan : ScaffoldPlan) (host : Host) (root : Path)
    (policy : OverwritePolicy) : (plan.applyAggregator host root policy).FailsWith Failure.OnFiles := by
  intro before failure after ran
  rcases applyAggregator_cases plan host root policy before with ⟨-, noted, -, -, step⟩ | ⟨-, step⟩
  · rw [step] at ran
    cases ran
  · rw [step] at ran
    have fails := (failsWith_writeText host (root.join plan.aggregator.path)
      plan.aggregator.after).bind fun _ =>
        (failsWith_note [.aggregatorUpdated plan.aggregator.path]).bind fun _ =>
          failsWith_pure (some plan.aggregator.path)
    exact fails before failure after ran

/-- A plan that is not carried out to its end was refused because of a file that is there already,
with nothing changed, or a write failed. -/
theorem apply_error_cases {failure : Failure}
    (ran : plan.apply host root policy before = .error failure after) :
    (policy = .fail ∧ after = before ∧
        ∃ path ∈ plan.conflicts before.files root, failure = .fileExists path) ∨
      failure.OnFiles := by
  rcases apply_cases plan host root policy before with ⟨stops, path, member, step⟩ | ⟨-, step⟩
  · rw [step] at ran
    cases ran
    exact Or.inl ⟨stops, rfl, path, member, rfl⟩
  · rw [step] at ran
    have fails := (failsWith_applyAggregator plan host root policy).bind fun aggregator =>
      (failsWith_mapM (failsWith_applyFile host root policy) plan.files).bind fun reports =>
        failsWith_pure (ScaffoldReport.mk aggregator reports)
    exact Or.inr (fails before failure after ran)

/-- The path of a file of the plan that is there already, while no earlier file of the plan is. -/
def FirstConflict (plan : ScaffoldPlan) (tree : FileTree) (root path : Path) : Prop :=
  ∃ earlier file later, plan.files = earlier ++ file :: later ∧ file.path = path ∧
    tree.pathExists (root.join file.path) = true ∧
    ∀ other ∈ earlier, tree.pathExists (root.join other.path) = false

theorem head?_conflicts_eq_some_iff {tree : FileTree} {path : Path} :
    (plan.conflicts tree root).head? = some path ↔ plan.FirstConflict tree root path := by
  unfold conflicts FirstConflict
  rw [List.filter_map, List.head?_map, List.head?_filter, Option.map_eq_some_iff]
  simp only [List.find?_eq_some_iff_append]
  constructor
  · rintro ⟨file, ⟨there, earlier, later, split, none⟩, rfl⟩
    exact ⟨earlier, file, later, split, rfl, there, fun other member => by
      simpa using none other member⟩
  · rintro ⟨earlier, file, later, split, rfl, there, none⟩
    exact ⟨file, ⟨there, earlier, later, split, fun other member => by
      simpa using none other member⟩, rfl⟩

/-- A plan is refused exactly when one of its files is there already, and the first one is named. -/
theorem apply_fail_eq_fileExists_iff {path : Path} :
    plan.apply host root .fail before = .error (.fileExists path) after ↔
      plan.FirstConflict before.files root path ∧ after = before := by
  rw [← head?_conflicts_eq_some_iff]
  cases conflicts : plan.conflicts before.files root with
  | nil =>
      constructor
      · intro ran
        -- Nothing is there, so the plan was carried out, and that fails on files only.
        rcases apply_error_cases ran with ⟨-, -, other, member, -⟩ | ⟨_, _, same⟩
        · simp [conflicts] at member
        · cases same
      · rintro ⟨none, -⟩
        cases none
  | cons first rest =>
      have refused : plan.apply host root .fail before = .error (.fileExists first) before := by
        unfold apply
        rw [bind_of_ok (files_run before), if_pos rfl, conflicts]
        rfl
      rw [refused]
      constructor
      · intro ran
        cases ran
        exact ⟨rfl, rfl⟩
      · rintro ⟨same, rfl⟩
        cases same
        rfl

end ScaffoldPlan

/-! ## Runs -/

/-- The failure of a run that was about to carry out its plan when the files, or the device, refused
an operation. -/
def RunFailure.WhileWriting (failure : RunFailure) : Prop :=
  ∃ cause : Failure, cause.OnFiles ∧ failure = .during "Failed to write scaffold files" cause

namespace Options

variable {options : Options} {host : Host} {before after : Session}

/-- The part of a run that comes before anything is decided: settings, name, templates and plan. -/
def prepare (options : Options) (host : Host) : Action RunFailure (Generator × ScaffoldPlan) := do
  let settings ← options.loadSettings host
  let name ←
    Action.ofExcept ((options.resolveName settings).mapError fun failure =>
      ⟨[], .scaffolding failure⟩)
  printLines (Display.announcement name.camel name.basePath)
  let generator ←
    (Generator.create name settings).mapError
      (RunFailure.during "Failed to create scaffold generator")
  let plan ←
    (generator.plan options.root).mapError (RunFailure.during "Failed to prepare scaffold")
  pure (generator, plan)

/-- What a run does with its plan under a policy, or without one. -/
def proceed (options : Options) (host : Host) (generator : Generator) (plan : ScaffoldPlan) :
    Option OverwritePolicy → Action RunFailure Unit
  | some policy => options.carryOut host generator plan policy
  | none => printLines Display.refusal

/-- The part of a run that comes after its plan is made. -/
def conclude (options : Options) (host : Host) (generator : Generator) (plan : ScaffoldPlan) :
    Action RunFailure Unit := do
  let files ← Action.files
  if options.dryRun then
    printLines (Display.dryRun (Display.showsSigns host) plan files options.root)
  else
    let policy? ←
      resolvePolicy options.onConflict (plan.conflicts files options.root) (confirmOverwrite host)
    options.proceed host generator plan policy?

theorem execute_eq (options : Options) (host : Host) :
    options.execute host =
      options.prepare host >>= fun planned => options.conclude host planned.1 planned.2 := by
  unfold execute prepare
  simp only [bind_assoc, pure_bind]
  rfl

theorem onlyLooks_printLines (lines : List String) : (printLines lines).OnlyLooks :=
  onlyLooks_forM onlyLooks_printLine lines

theorem onlyLooks_prepare (options : Options) (host : Host) : (options.prepare host).OnlyLooks := by
  refine OnlyLooks.bind ?_ fun settings => (onlyLooks_ofExcept _).bind fun name =>
    (onlyLooks_printLines _).bind fun _ =>
      ((Generator.onlyLooks_create name settings).mapError _).bind fun generator =>
        ((generator.onlyLooks_plan options.root).mapError _).bind fun plan => onlyLooks_pure _
  exact onlyLooks_files.bind fun files => onlyLooks_ofExcept _

theorem neverFails_printLines (lines : List String) : (printLines lines).NeverFails :=
  failsWith_forM failsWith_printLine lines

theorem neverFails_runGeneratedTest (options : Options) (host : Host) (settings : VerifySettings)
    (testFile : Path) : (options.runGeneratedTest host settings testFile).NeverFails := by
  intro before failure after ran
  unfold runGeneratedTest at ran
  cases runs : TestRunner.ofSettings? settings options.root with
  | none =>
      rw [runs] at ran
      exact neverFails_printLines _ before failure after ran
  | some runner =>
      rw [runs] at ran
      simp only at ran
      split at ran
      · exact neverFails_printLines _ _ failure after ran
      · exact (failsWith_note _).bind (fun _ => neverFails_printLines _) _ failure after ran

/-! ### Asking -/

theorem onlyLooks_confirmOverwrite (host : Host) (conflicts : List Path) :
    (confirmOverwrite host conflicts).OnlyLooks := by
  refine (onlyLooks_printLines _).bind fun _ => ?_
  split
  · exact onlyLooks_pure _
  · exact onlyLooks_throw _

theorem onlyLooks_resolvePolicy (host : Host) (choice : ConflictChoice) (conflicts : List Path) :
    (resolvePolicy choice conflicts (confirmOverwrite host)).OnlyLooks := by
  unfold resolvePolicy
  split
  · exact onlyLooks_pure _
  · split_ifs
    · exact onlyLooks_pure _
    · exact (onlyLooks_confirmOverwrite host conflicts).bind fun _ => onlyLooks_pure _

/-- The user is asked, and answers that no file may be replaced. -/
structure Declines (host : Host) (choice : ConflictChoice) (conflicts : List Path) : Prop where
  asks : choice.policy? = none
  conflicting : conflicts ≠ []
  refuses : host.confirm conflicts = .ok false

theorem resolvePolicy_of_declines {choice : ConflictChoice} {conflicts : List Path}
    (declines : Declines host choice conflicts) (before : Session) :
    ∃ after, resolvePolicy choice conflicts (confirmOverwrite host) before = .ok none after := by
  obtain ⟨_, asked, printed⟩ :=
    (neverFails_printLines (Display.conflictList conflicts)).exists_ok before
  have answer : confirmOverwrite host conflicts before = .ok false asked := by
    unfold confirmOverwrite
    rw [bind_of_ok printed, declines.refuses]
    rfl
  refine ⟨asked, ?_⟩
  unfold resolvePolicy
  rw [declines.asks]
  simp only [List.isEmpty_iff, declines.conflicting, ↓reduceIte]
  rw [bind_of_ok answer]
  rfl

/-! ### Carrying out -/

theorem carryOut_error {generator : Generator} {plan : ScaffoldPlan} {policy : OverwritePolicy}
    {failure : RunFailure}
    (ran : options.carryOut host generator plan policy before = .error failure after) :
    failure.WhileWriting ∨ Untouched before after := by
  rcases bind_eq_error_iff.1 ran with failed | ⟨report, middle, -, failed⟩
  · unfold mapError at failed
    cases applied : plan.apply host options.root policy before with
    | ok report middle =>
        rw [applied] at failed
        cases failed
    | error cause middle =>
        rw [applied] at failed
        cases failed
        rcases ScaffoldPlan.apply_error_cases applied with ⟨-, rfl, -⟩ | onFiles
        · exact Or.inr (.refl _)
        · exact Or.inl ⟨cause, onFiles, rfl⟩
  · -- The plan is carried out: nothing after that can fail.
    refine ((neverFails_printLines _).bind (fun _ => ?_) middle failure after failed).elim
    split_ifs
    · split
      · exact (neverFails_runGeneratedTest options host _ _).bind fun _ => neverFails_printLines _
      · exact neverFails_printLines _
    · exact neverFails_printLines _

/-! ### Whole runs -/

theorem onlyLooks_dryRun (dry : options.dryRun = true) (host : Host) (generator : Generator)
    (plan : ScaffoldPlan) : (options.conclude host generator plan).OnlyLooks := by
  refine onlyLooks_files.bind fun files => ?_
  rw [if_pos dry]
  exact onlyLooks_printLines _

theorem conclude_error {generator : Generator} {plan : ScaffoldPlan} {failure : RunFailure}
    (ran : options.conclude host generator plan before = .error failure after) :
    failure.WhileWriting ∨ Untouched before after := by
  by_cases dry : options.dryRun = true
  · have looks := onlyLooks_dryRun dry host generator plan before
    rw [final_of_error ran] at looks
    exact Or.inr looks
  · unfold conclude at ran
    rw [bind_of_ok (files_run before), if_neg dry] at ran
    have asking := onlyLooks_resolvePolicy host options.onConflict
      (plan.conflicts before.files options.root) before
    rcases bind_eq_error_iff.1 ran with failed | ⟨policy?, middle, resolved, failed⟩
    · rw [final_of_error failed] at asking
      exact Or.inr asking
    · rw [final_of_ok resolved] at asking
      cases policy? with
      | none => exact (neverFails_printLines _ middle failure after failed).elim
      | some policy => exact (carryOut_error failed).imp_right asking.trans

theorem conclude_of_declines (generator : Generator) {plan : ScaffoldPlan}
    (declines : Declines host options.onConflict (plan.conflicts before.files options.root)) :
    ∃ after, options.conclude host generator plan before = .ok () after ∧
      Untouched before after := by
  unfold conclude
  rw [bind_of_ok (files_run before)]
  by_cases dry : options.dryRun = true
  · rw [if_pos dry]
    obtain ⟨⟨⟩, after, printed⟩ := (neverFails_printLines (Display.dryRun
      (Display.showsSigns host) plan before.files options.root)).exists_ok before
    have looks := onlyLooks_printLines (Display.dryRun
      (Display.showsSigns host) plan before.files options.root) before
    rw [final_of_ok printed] at looks
    exact ⟨after, printed, looks⟩
  · rw [if_neg dry]
    obtain ⟨asked, resolved⟩ := resolvePolicy_of_declines declines before
    have asking := onlyLooks_resolvePolicy host options.onConflict
      (plan.conflicts before.files options.root) before
    rw [final_of_ok resolved] at asking
    obtain ⟨⟨⟩, after, printed⟩ := (neverFails_printLines Display.refusal).exists_ok asked
    have looks := onlyLooks_printLines Display.refusal asked
    rw [final_of_ok printed] at looks
    exact ⟨after, (bind_of_ok resolved).trans printed, asking.trans looks⟩

/-- A run that ends otherwise than while it writes leaves the project as it was: no failure up to the
policy, no refusal, no answer that forbids it and no dry run changes a file or starts the test
command. A plan is refused exactly for the first of its files that is there already. -/
theorem execute_untouched (options : Options) (host : Host) (before : Session) :
    (∀ failure after, options.execute host before = .error failure after →
      ¬failure.WhileWriting → Untouched before after) ∧
    (∀ generator plan prepared, options.prepare host before = .ok (generator, plan) prepared →
      Declines host options.onConflict (plan.conflicts prepared.files options.root) →
      ∃ after, options.execute host before = .ok () after ∧ Untouched before after) ∧
    (options.dryRun = true → Untouched before ((options.execute host).final before)) ∧
    ∀ (plan : ScaffoldPlan) (root path : Path) (session after : Session),
      plan.apply host root .fail session = .error (.fileExists path) after ↔
        plan.FirstConflict session.files root path ∧ after = session := by
  have preparing := onlyLooks_prepare options host before
  rw [execute_eq]
  refine ⟨fun failure after ran writing => ?_, fun generator plan prepared planned declines => ?_,
    fun dry => ?_, fun plan root path session after => ScaffoldPlan.apply_fail_eq_fileExists_iff⟩
  · -- Up to the plan nothing is written, and after it only what a failure while writing tells of.
    rcases bind_eq_error_iff.1 ran with failed | ⟨planned, prepared, ready, failed⟩
    · rwa [final_of_error failed] at preparing
    · rw [final_of_ok ready] at preparing
      exact preparing.trans ((conclude_error failed).resolve_left writing)
  · rw [final_of_ok planned] at preparing
    obtain ⟨after, ran, untouched⟩ := conclude_of_declines generator declines
    exact ⟨after, (bind_of_ok planned).trans ran, preparing.trans untouched⟩
  · exact (onlyLooks_prepare options host).bind (fun _ => onlyLooks_dryRun dry host _ _) before

/-- A run whose settings can be loaded, ask for no templates of their own and give a name has a plan
for that name if the route can be added to the aggregator. -/
theorem prepare_of_spliced {options : Options} {host : Host} {session : Session}
    {settings : Settings} {name : ResourceName} {before after : String}
    (loads : Settings.load session.files host.environment options.root options.config = .ok settings)
    (named : options.resolveName settings = .ok name)
    (plain : settings.templates.overrideDir = none)
    (read : session.files.readText (options.root.join settings.layout.aggregatorPath) = .ok before)
    (spliced : (Generator.spliceOf name settings).apply before settings.layout.aggregatorPath =
      .ok after) :
    ∃ prepared, options.prepare host session =
        .ok (Generator.standard name settings,
          ⟨⟨settings.layout.aggregatorPath, before, after⟩,
            Layer.all.map (Generator.standard name settings).fileOf⟩) prepared ∧
      prepared.files = session.files := by
  have loaded : options.loadSettings host session = .ok settings session := by
    rw [loadSettings, bind_of_ok (files_run session), loads]
    rfl
  have resolved : (Action.ofExcept ((options.resolveName settings).mapError fun failure =>
      ⟨[], .scaffolding failure⟩) : Action RunFailure ResourceName) session = .ok name session := by
    rw [named]
    rfl
  have announces := onlyLooks_printLines (Display.announcement name.camel name.basePath) session
  obtain ⟨⟨⟩, shown, printed⟩ := (neverFails_printLines
    (Display.announcement name.camel name.basePath)).exists_ok session
  rw [final_of_ok printed] at announces
  have created : (Generator.create name settings).mapError
      (RunFailure.during "Failed to create scaffold generator") shown =
        .ok (Generator.standard name settings) shown := by
    rw [Action.mapError, Generator.create_run name plain]
  rw [← announces.files] at read
  have planned := Generator.plan_eq read spliced
  have prepares : ((Generator.standard name settings).plan options.root).mapError
      (RunFailure.during "Failed to prepare scaffold") shown =
        .ok ⟨⟨settings.layout.aggregatorPath, before, after⟩,
            Layer.all.map (Generator.standard name settings).fileOf⟩
          { shown with
            events := shown.events ++
              (Generator.spliceOf name settings).events before settings.layout.aggregatorPath } := by
    rw [Action.mapError, planned]
  have first : options.prepare host session =
      (((Generator.standard name settings).plan options.root).mapError
        (RunFailure.during "Failed to prepare scaffold") >>= fun plan =>
          pure (Generator.standard name settings, plan)) shown := by
    rw [prepare, bind_of_ok loaded, bind_of_ok resolved, bind_of_ok printed, bind_of_ok created]
  exact ⟨_, first.trans (bind_of_ok prepares), announces.files⟩

/-! ### Runs for orders -/

/-- Asks for settings that do not exist. -/
def lostOptions : Options where
  config := some ⟨"missing.toml"⟩

/-- Asks for the files for orders, and to be asked before files are replaced. -/
def askingOptions : Options where
  name := some (some "order")
  onConflict := .ask

theorem execute_lostOptions :
    lostOptions.execute calmHost routelessProject =
      .error (.during "Failed to load configuration"
        (.configuration (.unreadable ⟨"missing.toml"⟩ .notFound))) routelessProject := by
  have missing : routelessProject.files.readText ⟨"missing.toml"⟩ = .error .notFound := rfl
  have loads : Settings.load routelessProject.files [] ⟨"."⟩ (some ⟨"missing.toml"⟩) =
      .error (.unreadable ⟨"missing.toml"⟩ .notFound) := by
    rw [Settings.load, Settings.explicitEntries, Settings.entriesOfFile, missing]
  have failed : lostOptions.loadSettings calmHost routelessProject =
      .error (.during "Failed to load configuration"
        (.configuration (.unreadable ⟨"missing.toml"⟩ .notFound))) routelessProject := by
    rw [loadSettings, bind_of_ok (files_run routelessProject)]
    change ofExcept ((Settings.load routelessProject.files [] ⟨"."⟩
      (some ⟨"missing.toml"⟩)).mapError _) routelessProject = _
    rw [loads]
    rfl
  rw [execute, bind_of_error failed]

/-- A run for orders with the default settings, in a project whose main router has no route yet. -/
theorem prepare_orders {options : Options} {session : Session}
    (loads : (Settings.load session.files [] options.root options.config).toOption = some {})
    (named : options.resolveName {} = .ok orderName)
    (read : session.files.readText (options.root.join defaultAggregator) =
      .ok routelessAggregator) :
    ∃ prepared, options.prepare calmHost session =
        .ok (Generator.standard orderName {},
          ⟨⟨defaultAggregator, routelessAggregator, routedAggregator⟩,
            Layer.all.map (Generator.standard orderName {}).fileOf⟩) prepared ∧
      prepared.files = session.files := by
  have loaded : Settings.load session.files [] options.root options.config = .ok {} := by
    cases loaded : Settings.load session.files [] options.root options.config with
    | error fault =>
        rw [loaded] at loads
        cases loads
    | ok settings =>
        rw [loaded] at loads
        cases loads
        rfl
  exact prepare_of_spliced loaded named rfl read orderName_spliced

theorem prepare_askingOptions :
    ∃ plan prepared, askingOptions.prepare calmHost routelessProject =
        .ok (Generator.standard orderName {}, plan) prepared ∧
      prepared.files = routelessProject.files ∧
      plan.files = Layer.all.map (Generator.standard orderName {}).fileOf := by
  have loads : (Settings.load routelessProject.files [] ⟨"."⟩ none).toOption = some {} := by
    decide +kernel
  obtain ⟨prepared, ready, same⟩ : ∃ prepared, askingOptions.prepare calmHost routelessProject =
      .ok _ prepared ∧ prepared.files = routelessProject.files :=
    prepare_orders loads rfl routelessProject_read
  exact ⟨_, prepared, ready, same, rfl⟩

/-- A run without settings, one whose question is declined, a dry run, and a refused plan. -/
theorem execute_untouched_orders :
    Untouched routelessProject ((lostOptions.execute calmHost).final routelessProject) ∧
      (∃ after, askingOptions.execute calmHost routelessProject = .ok () after ∧
        Untouched routelessProject after) ∧
      Untouched routelessProject
        ((({ dryRun := true } : Options).execute calmHost).final routelessProject) ∧
      orderPlan.apply calmHost ⟨"app"⟩ .fail orderProject =
        .error (.fileExists ⟨"OrderService.ts"⟩) orderProject := by
  refine ⟨?_, ?_, (execute_untouched { dryRun := true } calmHost routelessProject).2.2.1 rfl, ?_⟩
  · rw [final_of_error execute_lostOptions]
    refine (execute_untouched lostOptions calmHost routelessProject).1 _ _ execute_lostOptions ?_
    rintro ⟨cause, -, other⟩
    simp [RunFailure.during] at other
  · obtain ⟨plan, prepared, ready, same, files⟩ := prepare_askingOptions
    refine (execute_untouched askingOptions calmHost routelessProject).2.1 _ _ _ ready
      ⟨rfl, fun none => ?_, rfl⟩
    have there : routelessProject.files.pathExists
        (Path.join ⟨"."⟩ (defaultFile orderName .controller)) = true := by
      decide +kernel
    have conflicting : defaultFile orderName .controller ∈
        plan.conflicts prepared.files askingOptions.root := by
      rw [ScaffoldPlan.mem_conflicts_iff, files, same]
      exact ⟨⟨_, List.mem_map_of_mem Layer.controller.mem_all, by rw [Generator.fileOf]⟩, there⟩
    rw [none] at conflicting
    cases conflicting
  · refine ((execute_untouched lostOptions calmHost orderProject).2.2.2 orderPlan ⟨"app"⟩ _
      orderProject orderProject).2 ⟨?_, rfl⟩
    rw [← ScaffoldPlan.head?_conflicts_eq_some_iff]
    decide +kernel

end Options

end ResourceScaffold

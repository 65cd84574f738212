import ResourceScaffold.Display
import ResourceScaffold.Generator
import ResourceScaffold.Policy
import ResourceScaffold.Settings.Load

/-!
Contract: one run of the program with its options.

Owns:
- the order of the steps, and what each failure says it was doing;
- asking before files are replaced;
- the run of the generated test, which never makes a run fail.

Does not own: reading the options, and showing failures.
-/

namespace ResourceScaffold

/-! ## Failures -/

/-- Why a run failed. -/
inductive RunCause where
  | scaffolding (failure : Failure)
  | confirmation (reports : List String)

/-- A failure of a run: what it was doing, outermost first, and why it failed. -/
structure RunFailure where
  context : List String
  cause : RunCause

namespace RunCause

def reports : RunCause → List String
  | scaffolding failure => failure.message :: failure.reasons
  | confirmation reports => reports

end RunCause

namespace RunFailure

def reports (failure : RunFailure) : List String :=
  failure.context ++ failure.cause.reports

def during (context : String) (failure : Failure) : RunFailure :=
  ⟨[context], .scaffolding failure⟩

end RunFailure

/-! ## Steps -/

namespace Options

def printLines (lines : List String) : Action RunFailure Unit :=
  lines.forM Action.printLine

def loadSettings (options : Options) (host : Host) : Action RunFailure Settings := do
  let files ← Action.files
  Action.ofExcept <|
    (Settings.load files host.environment options.root options.config).mapError fun fault =>
      .during "Failed to load configuration" (.configuration fault)

/-- The name of the resource: the given one, or the default of the settings. -/
def resolveName (options : Options) (settings : Settings) : Except Failure ResourceName :=
  let word := ResourceName.chosenWord options.givenName settings.defaultName
  match ResourceName.ofWord? word with
  | some name => .ok name
  | none => .error (.invalidName word)

def confirmOverwrite (host : Host) (conflicts : List Path) : Action RunFailure Bool := do
  printLines (Display.conflictList conflicts)
  match host.confirm conflicts with
  | .ok consents => pure consents
  | .error reports => throw ⟨["Failed to read confirmation"], .confirmation reports⟩

/-- Runs the generated test and prints how it went. A test that cannot be run is only reported. -/
def runGeneratedTest (options : Options) (host : Host) (settings : VerifySettings)
    (testFile : Path) : Action RunFailure Unit := do
  let shows := Display.showsSigns host
  match TestRunner.ofSettings? settings options.root with
  | none => printLines Display.testDisabled
  | some runner => fun session =>
      match runner.run host testFile session with
      | .ok report after => printLines (Display.verification shows report) after
      | .error failure after =>
          (do
            Action.note [.testNotRun failure.message]
            printLines (Display.notRun shows failure.message) : Action RunFailure Unit) after

/-- Carries a plan out under a policy, prints what was done, and runs the generated test unless the
options say otherwise. -/
def carryOut (options : Options) (host : Host) (generator : Generator) (plan : ScaffoldPlan)
    (policy : OverwritePolicy) : Action RunFailure Unit := do
  let report ←
    (plan.apply host options.root policy).mapError
      (RunFailure.during "Failed to write scaffold files")
  printLines (Display.report (Display.showsSigns host) plan report)
  if !options.noVerify then
    if let some testFile := plan.file? .test then
      options.runGeneratedTest host generator.settings.verify testFile.path
  printLines (Display.farewell generator.name.pascal)

/-! ## Runs -/

/-- A run: settings, name, plan, and then either a dry run or the plan under the policy that the
conflicts call for. -/
def execute (options : Options) (host : Host) : Action RunFailure Unit := do
  let settings ← options.loadSettings host
  let name ←
    Action.ofExcept ((options.resolveName settings).mapError fun failure =>
      ⟨[], .scaffolding failure⟩)
  printLines (Display.announcement name.camel name.basePath)
  let generator ←
    (Generator.create name settings).mapError
      (RunFailure.during "Failed to create scaffold generator")
  let plan ←
    (generator.plan options.root).mapError (RunFailure.during "Failed to prepare scaffold")
  let files ← Action.files
  if options.dryRun then
    printLines (Display.dryRun (Display.showsSigns host) plan files options.root)
  else
    match ← resolvePolicy options.onConflict (plan.conflicts files options.root)
        (confirmOverwrite host) with
    | some policy => options.carryOut host generator plan policy
    | none => printLines Display.refusal

end Options

end ResourceScaffold

import ResourceScaffold.Session
import ResourceScaffold.Settings.Basic
import ResourceScaffold.Text.Lossy

/-!
Contract: the run of the generated test after its files are written.

Owns:
- the test command with its arguments;
- running it, and the report of how it went.

Does not own: what the command does. A test that fails is a report and not a failure.
-/

namespace ResourceScaffold

/-- How the run of a test went. -/
structure VerificationReport where
  command : String
  exitCode : ExitCode
  standardOutput : String
  standardError : String
deriving DecidableEq, Repr

def VerificationReport.passed (report : VerificationReport) : Bool :=
  report.exitCode = some 0

/-- The command that runs a test, in a directory. -/
structure TestRunner where
  program : String
  arguments : List String
  directory : Path
deriving DecidableEq, Repr

namespace TestRunner

/-- The command that the settings name, unless they disable the run or name none. -/
def ofSettings? (settings : VerifySettings) (directory : Path) : Option TestRunner :=
  match settings.enabled, settings.command with
  | true, program :: arguments => some ⟨program, arguments, directory⟩
  | _, _ => none

/-- The program and its arguments. The test file is the last one. -/
def commandLine (runner : TestRunner) (testFile : Path) : List String :=
  runner.program :: runner.arguments ++ [testFile.text]

def commandText (runner : TestRunner) (testFile : Path) : String :=
  " ".intercalate (runner.commandLine testFile)

def invocation (runner : TestRunner) (testFile : Path) : Invocation :=
  ⟨runner.program, runner.arguments ++ [testFile.text], runner.directory⟩

def reportOf (command : String) (output : ProcessOutput) : VerificationReport :=
  ⟨command, output.exitCode, Text.lossy output.standardOutput, Text.lossy output.standardError⟩

def eventOf (report : VerificationReport) : Event :=
  if report.passed then .testPassed report.command
  else .testFailed report.command report.exitCode

/-- Runs the test and waits for it. It fails only if the program cannot be started. -/
def run (runner : TestRunner) (host : Host) (testFile : Path) :
    Action Failure VerificationReport := do
  let command := runner.commandText testFile
  Action.note [.testStarted command runner.directory]
  match ← Action.launch host (runner.invocation testFile) with
  | .error fault => throw (.testRunner command fault)
  | .ok output =>
      let report := reportOf command output
      Action.note [eventOf report]
      pure report

end TestRunner

end ResourceScaffold

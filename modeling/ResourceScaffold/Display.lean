import ResourceScaffold.Diff.Unified
import ResourceScaffold.Text.Blank
import ResourceScaffold.Text.Case
import ResourceScaffold.Verification
import ResourceScaffold.Apply

/-!
Contract: what a run prints for its user.

Owns:
- the lines for a resource, a dry run, a report and a test;
- the signs in front of lines, which need a terminal that can show them.

Does not own: when lines are printed.
-/

namespace ResourceScaffold

namespace Display

/-! ## Signs -/

/-- A sign in front of a line. -/
inductive Sign where
  | done
  | failed
  | kept
  | page
deriving DecidableEq, Repr

/-- Whether the language setting of a host promises that all signs can be shown. -/
def showsSigns (host : Host) : Bool :=
  match host.valueOf? "LANG" with
  | some language => "UTF-8".toList.isSuffixOf (Text.upperText language.toList)
  | none => false

def signText (shows : Bool) (sign : Sign) : String :=
  if shows then
    match sign with
    | .done => "✓ "
    | .failed => "✗ "
    | .kept => "- "
    | .page => "📄 "
  else ""

/-! ## Lines -/

def announcement (name basePath : String) : List String :=
  ["", "Scaffolding resource " ++ name ++ " (" ++ basePath ++ ")"]

def farewell (typeName : String) : List String :=
  ["", "✨ Resource " ++ typeName ++ " is ready!"]

def refusal : List String :=
  ["", "Aborted, nothing was written."]

def conflictList (conflicts : List Path) : List String :=
  ["", "These files already exist:"] ++ conflicts.map fun path => "  " ++ path.text

def described (path : Path) (description : String) : String :=
  path.text ++ " (" ++ description ++ ")"

def fileForecast (tree : FileTree) (root : Path) (file : GeneratedFile) : String :=
  "  " ++ (if tree.pathExists (root.join file.path) then "exists " else "new ") ++
    described file.path file.description

def dryRun (shows : Bool) (plan : ScaffoldPlan) (tree : FileTree) (root : Path) : List String :=
  ["", "Dry run, nothing will be written.", "",
    signText shows .page ++ plan.aggregator.path.text] ++
    (Text.printedLines plan.aggregator.difference.toList).map String.ofList ++
    ["", "Files:"] ++ plan.files.map (fileForecast tree root)

def report (shows : Bool) (plan : ScaffoldPlan) (report : ScaffoldReport) : List String :=
  let written := report.written
  ["",
    match report.aggregator with
    | some path => "Updated " ++ path.text
    | none => "Kept " ++ plan.aggregator.path.text,
    "Generated " ++ toString written.length ++ " files:"] ++
    ((plan.files.filter fun file => file.path ∈ written).map fun file =>
      "  " ++ signText shows .done ++ described file.path file.description) ++
    (report.skipped.map fun path =>
      "  " ++ signText shows .kept ++ path.text ++ " (kept existing)") ++
    report.backedUp.map fun pair => "  backup " ++ pair.1.text ++ " -> " ++ pair.2.text

/-! ## Tests -/

def exitText : ExitCode → String
  | some code => "exit code " ++ toString code
  | none => "terminated by signal"

/-- The lines about a stream of a test, unless it is blank. -/
def streamLines (title content : String) : List String :=
  if (Text.trim content.toList).isEmpty then []
  else ["", title ++ ":", String.ofList (Text.trimEnd content.toList)]

def verification (shows : Bool) (report : VerificationReport) : List String :=
  ["",
    if report.passed then signText shows .done ++ report.command ++ " passed"
    else
      signText shows .failed ++ report.command ++ " failed (" ++ exitText report.exitCode ++ ")"] ++
    streamLines "stdout" report.standardOutput ++ streamLines "stderr" report.standardError

def notRun (shows : Bool) (reason : String) : List String :=
  ["", signText shows .failed ++ "Could not run the generated test: " ++ reason]

def testDisabled : List String :=
  ["", "Test run disabled in configuration, skipping."]

end Display

end ResourceScaffold

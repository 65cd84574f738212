import ResourceScaffold.Plan

/-!
Contract: carrying out a plan.

Owns:
- the policies for files that are there already;
- the order of the writes: the aggregator first, then the files as the plan lists them;
- the report of what was done.

Does not own: choosing a policy. A write that was made is not taken back when a later one fails.
-/

namespace ResourceScaffold

/-- What to do about a generated file that is there already. -/
inductive OverwritePolicy where
  /-- Stop before anything is written. -/
  | fail
  | force
  /-- Keep the file. A route file that is kept also keeps the aggregator as it is. -/
  | skip
  /-- Move the file aside, then write the new one. -/
  | backup
deriving DecidableEq, Repr

instance : Inhabited OverwritePolicy := ⟨.force⟩

/-! ## Reports -/

/-- What was done about one generated file. -/
inductive FileOutcome where
  | written
  | skipped
  | backedUp (backup : Path)
deriving DecidableEq, Repr

/-- What was done about the file of a path. -/
structure FileReport where
  path : Path
  outcome : FileOutcome
deriving DecidableEq, Repr

/-- What carrying out a plan did. The aggregator is missing from it if it was left untouched. -/
structure ScaffoldReport where
  aggregator : Option Path
  files : List FileReport
deriving DecidableEq, Repr

namespace FileReport

def written? (report : FileReport) : Option Path :=
  match report.outcome with
  | .skipped => none
  | .written | .backedUp _ => some report.path

def skipped? (report : FileReport) : Option Path :=
  match report.outcome with
  | .skipped => some report.path
  | .written | .backedUp _ => none

def backedUp? (report : FileReport) : Option (Path × Path) :=
  match report.outcome with
  | .backedUp backup => some (report.path, backup)
  | .written | .skipped => none

end FileReport

namespace ScaffoldReport

def written (report : ScaffoldReport) : List Path :=
  report.files.filterMap FileReport.written?

def skipped (report : ScaffoldReport) : List Path :=
  report.files.filterMap FileReport.skipped?

def backedUp (report : ScaffoldReport) : List (Path × Path) :=
  report.files.filterMap FileReport.backedUp?

end ScaffoldReport

/-! ## Writes -/

/-- Where a file is moved to at a time: next to where it was, under its name, the time and
`.bak`. -/
def backupPath (path : Path) (time : String) : Path :=
  path.withFileName (path.fileName?.getD "" ++ "." ++ time ++ ".bak")

/-- Creates a directory and the parents it lacks. The directories that could be created stay even if
one could not. -/
def createDirectories (host : Host) (path : Path) : Action Failure Unit := fun session =>
  let make := fun files directory => host.change (.createDirectory directory) files
  match session.files.createDirectories path make with
  | (files, none) => .ok () { session with files }
  | (files, some fault) => .error (.fileSystem path fault) { session with files }

/-- Writes a file, and creates the directory it lies in. -/
def writeText (host : Host) (path : Path) (content : String) : Action Failure Unit := do
  if let some directory := path.parent? then
    createDirectories host directory
  Action.changing path (host.change (.writeFile path content.toUTF8))

/-! ## Plans -/

namespace ScaffoldPlan

/-- Writes the aggregator, unless the policy keeps it. -/
def applyAggregator (plan : ScaffoldPlan) (host : Host) (root : Path)
    (policy : OverwritePolicy) : Action Failure (Option Path) := do
  let edit := plan.aggregator
  let files ← Action.files
  if policy = .skip ∧ plan.routeExists files root then
    Action.note [.aggregatorKept edit.path]
    pure none
  else
    writeText host (root.join edit.path) edit.after
    Action.note [.aggregatorUpdated edit.path]
    pure (some edit.path)

def writeGenerated (host : Host) (root : Path) (file : GeneratedFile) (outcome : FileOutcome) :
    Action Failure FileReport := do
  writeText host (root.join file.path) file.content
  Action.note [.fileWritten file.layer file.path]
  pure ⟨file.path, outcome⟩

/-- Moves a file aside and gives the path of its backup. -/
def backUp (host : Host) (root : Path) (file : GeneratedFile) : Action Failure Path := do
  let time ← Action.readClock host
  let backup := backupPath file.path time
  let fullPath := root.join file.path
  Action.changing fullPath (host.change (.rename fullPath (root.join backup)))
  Action.note [.fileBackedUp file.path backup]
  pure backup

def applyFile (host : Host) (root : Path) (policy : OverwritePolicy) (file : GeneratedFile) :
    Action Failure FileReport := do
  let files ← Action.files
  if files.pathExists (root.join file.path) then
    match policy with
    | .skip =>
        Action.note [.fileSkipped file.path]
        pure ⟨file.path, .skipped⟩
    | .backup =>
        let backup ← backUp host root file
        writeGenerated host root file (.backedUp backup)
    | .force | .fail =>
        Action.note [.fileReplaced file.path]
        writeGenerated host root file .written
  else
    writeGenerated host root file .written

/-- Carries out a plan below a root. Under the policy that stops, the first file that is there
already is reported and nothing is written. -/
def apply (plan : ScaffoldPlan) (host : Host) (root : Path) (policy : OverwritePolicy) :
    Action Failure ScaffoldReport := do
  let files ← Action.files
  if policy = .fail then
    if let some path := (plan.conflicts files root).head? then
      throw (.fileExists path)
  let aggregator ← plan.applyAggregator host root policy
  let reports ← plan.files.mapM (applyFile host root policy)
  pure ⟨aggregator, reports⟩

end ScaffoldPlan

end ResourceScaffold

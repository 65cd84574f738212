import ResourceScaffold.Layer
import ResourceScaffold.Path

/-!
Contract: the events of a run that are worth a line in its log.

Owns:
- the events, with what each one is about;
- their levels, messages, fields and topics.

Does not own: which events a log shows, and how its lines look.
-/

namespace ResourceScaffold

/-- How much an event matters. -/
inductive EventLevel where
  | info
  | warning
  | error
deriving DecidableEq, Repr

/-- The exit of a process: its code, unless a signal ended it. -/
abbrev ExitCode := Option Nat

/-- Something that happened in a run. -/
inductive Event where
  /-- A file replaced a template that comes with the program. -/
  | templateReplaced (template : String) (path : Path)
  /-- The aggregator contained the import before it was spliced in. -/
  | importedTwice (path : Path) (importText : String)
  /-- The aggregator lacks an anchor. -/
  | anchorNotFound (anchor : String) (path : Path)
  /-- The aggregator was left alone because the route file was there. -/
  | aggregatorKept (path : Path)
  | aggregatorUpdated (path : Path)
  | fileSkipped (path : Path)
  | fileBackedUp (path backup : Path)
  /-- A file that was there is about to be replaced. -/
  | fileReplaced (path : Path)
  | fileWritten (layer : Layer) (path : Path)
  | testStarted (command : String) (directory : Path)
  | testPassed (command : String)
  | testFailed (command : String) (exitCode : ExitCode)
  | testNotRun (reason : String)
deriving DecidableEq, Repr

/-- A field of an event. Texts that are not names or paths are quoted in log lines. -/
structure EventField where
  name : String
  value : String
  isQuoted : Bool := false
deriving DecidableEq, Repr

def ExitCode.text : ExitCode → String
  | some code => "Some(" ++ toString code ++ ")"
  | none => "None"

namespace Event

def level : Event → EventLevel
  | templateReplaced _ _ => .info
  | importedTwice _ _ => .warning
  | anchorNotFound _ _ => .error
  | aggregatorKept _ => .warning
  | aggregatorUpdated _ => .info
  | fileSkipped _ => .warning
  | fileBackedUp _ _ => .info
  | fileReplaced _ => .warning
  | fileWritten _ _ => .info
  | testStarted _ _ => .info
  | testPassed _ => .info
  | testFailed _ _ => .warning
  | testNotRun _ => .warning

def message : Event → String
  | templateReplaced _ _ => "using template override"
  | importedTwice _ _ => "aggregator already imports this route; it will be imported twice"
  | anchorNotFound _ _ => "anchor not found in aggregator"
  | aggregatorKept _ => "route file exists, leaving aggregator untouched"
  | aggregatorUpdated _ => "updated aggregator"
  | fileSkipped _ => "file exists, skipping"
  | fileBackedUp _ _ => "backed up existing file"
  | fileReplaced _ => "overwriting existing file"
  | fileWritten _ _ => "wrote file"
  | testStarted _ _ => "running generated test"
  | testPassed _ => "generated test passed"
  | testFailed _ _ => "generated test failed"
  | testNotRun _ => "could not run generated test"

def fields : Event → List EventField
  | templateReplaced template path => [⟨"template", template, true⟩, ⟨"path", path.text, false⟩]
  | importedTwice path importText =>
      [⟨"path", path.text, false⟩, ⟨"import", importText, true⟩]
  | anchorNotFound anchor path => [⟨"anchor", anchor, true⟩, ⟨"path", path.text, false⟩]
  | aggregatorKept path => [⟨"path", path.text, false⟩]
  | aggregatorUpdated path => [⟨"path", path.text, false⟩]
  | fileSkipped path => [⟨"path", path.text, false⟩]
  | fileBackedUp path backup => [⟨"path", path.text, false⟩, ⟨"backup", backup.text, false⟩]
  | fileReplaced path => [⟨"path", path.text, false⟩]
  | fileWritten layer path => [⟨"layer", layer.name, false⟩, ⟨"path", path.text, false⟩]
  | testStarted command directory =>
      [⟨"command", command, false⟩, ⟨"dir", directory.text, false⟩]
  | testPassed command => [⟨"command", command, false⟩]
  | testFailed command exitCode =>
      [⟨"command", command, false⟩, ⟨"exit_code", exitCode.text, false⟩]
  | testNotRun reason => [⟨"error", reason, false⟩]

/-- The topic of an event, by which a log filter selects. -/
def topic : Event → String
  | templateReplaced _ _ => "layergen::templates"
  | importedTwice _ _ | anchorNotFound _ _ => "layergen::scaffold::splice"
  | aggregatorKept _ | aggregatorUpdated _ | fileSkipped _ | fileBackedUp _ _ | fileReplaced _
  | fileWritten _ _ => "layergen::scaffold::plan"
  | testStarted _ _ | testPassed _ | testFailed _ _ => "layergen::verify"
  | testNotRun _ => "layergen_cli_lib::commands::generate"

end Event

end ResourceScaffold

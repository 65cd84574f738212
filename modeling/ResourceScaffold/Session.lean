import ResourceScaffold.Event
import ResourceScaffold.Failure
import ResourceScaffold.FileTree.Access

/-!
Contract: what a run reads from its surroundings and what it leaves behind.

Owns:
- the host: environment, clock, terminal, storage device and test command;
- the session: files, events, printed text, readings of the clock and launches of the test command;
- actions, which keep what they did to the session when they fail.

Does not own: what a run does.
-/

namespace ResourceScaffold

/-! ## Processes -/

/-- The start of a program with its arguments in a directory. -/
structure Invocation where
  program : String
  arguments : List String
  directory : Path
deriving DecidableEq, Repr

/-- What a process left behind when it ended. -/
structure ProcessOutput where
  exitCode : ExitCode
  standardOutput : ByteArray
  standardError : ByteArray

/-! ## File operations -/

/-- A single change of the files. -/
inductive FileOperation where
  | createDirectory (path : Path)
  | writeFile (path : Path) (content : ByteArray)
  | rename (source target : Path)

def FileOperation.run : FileOperation → FileTree → Except Fault FileTree
  | createDirectory path, files => files.createDirectory path
  | writeFile path content, files => files.writeFile path content
  | rename source target, files => files.rename source target

/-! ## Host -/

/-- The surroundings of a run. -/
structure Host where
  /-- The variables of the environment. -/
  environment : List (String × String)
  /-- The time that the clock shows when it is read, by the number of earlier readings: year, month,
  day, hour, minute, second and millisecond in seventeen digits. -/
  clock : Nat → String
  /-- The answer to the question whether files may be overwritten, or the reports of why there is
  none, outermost first. -/
  confirm : List Path → Except (List String) Bool
  /-- The fault that the storage device has with an operation, on top of what the files themselves
  forbid: a full disk, or a missing permission. -/
  refuses : FileOperation → FileTree → Option Fault := fun _ _ => none
  /-- Runs a program on a file tree. -/
  start : Invocation → FileTree → FileTree × Except Fault ProcessOutput

namespace Host

def valueOf? (host : Host) (name : String) : Option String :=
  host.environment.lookup name

/-- The files after an operation. One that the device refuses changes nothing. -/
def change (host : Host) (operation : FileOperation) (files : FileTree) : Except Fault FileTree :=
  match host.refuses operation files with
  | some fault => .error fault
  | none => operation.run files

end Host

/-! ## Session -/

/-- A start of the test command, with the files that it found. -/
structure Launch where
  invocation : Invocation
  files : FileTree

/-- The state of a run. -/
structure Session where
  files : FileTree
  /-- The events so far, in order. -/
  events : List Event := []
  /-- The text printed so far. -/
  output : String := ""
  /-- How often the clock was read. -/
  clockReadings : Nat := 0
  /-- The starts of the test command, in order. -/
  launches : List Launch := []

/-! ## Actions -/

/-- A step of a run. When it fails, what it did before stays. -/
abbrev Action (Error Result : Type) := EStateM Error Session Result

namespace Action

variable {Error Result : Type}

def files : Action Error FileTree :=
  EStateM.bind EStateM.get fun session => EStateM.pure session.files

def note (events : List Event) : Action Error Unit :=
  EStateM.modifyGet fun session => ((), { session with events := session.events ++ events })

def printLine (line : String) : Action Error Unit :=
  EStateM.modifyGet fun session => ((), { session with output := session.output ++ line ++ "\n" })

def readClock (host : Host) : Action Error String :=
  EStateM.modifyGet fun session =>
    (host.clock session.clockReadings, { session with clockReadings := session.clockReadings + 1 })

@[simp] theorem files_run (session : Session) :
    (files : Action Error FileTree) session = .ok session.files session := rfl

@[simp] theorem note_run (events : List Event) (session : Session) :
    (note events : Action Error Unit) session =
      .ok () { session with events := session.events ++ events } := rfl

@[simp] theorem printLine_run (line : String) (session : Session) :
    (printLine line : Action Error Unit) session =
      .ok () { session with output := session.output ++ line ++ "\n" } := rfl

@[simp] theorem readClock_run (host : Host) (session : Session) :
    (readClock host : Action Error String) session =
      .ok (host.clock session.clockReadings)
        { session with clockReadings := session.clockReadings + 1 } := rfl

def ofExcept : Except Error Result → Action Error Result
  | .ok result => EStateM.pure result
  | .error error => EStateM.throw error

def mapError {Other : Type} (words : Error → Other) (action : Action Error Result) :
    Action Other Result := fun session =>
  match action session with
  | .ok result after => .ok result after
  | .error error after => .error (words error) after

/-- Reads from the files; a fault is reported at a path. -/
def reading (path : Path) (read : FileTree → Except Fault Result) :
    Action Failure Result := fun session =>
  match read session.files with
  | .ok result => .ok result session
  | .error fault => .error (.fileSystem path fault) session

/-- Changes the files; a fault is reported at a path and changes nothing. -/
def changing (path : Path) (change : FileTree → Except Fault FileTree) :
    Action Failure Unit := fun session =>
  match change session.files with
  | .ok files => .ok () { session with files := files }
  | .error fault => .error (.fileSystem path fault) session

def launch (host : Host) (invocation : Invocation) :
    Action Error (Except Fault ProcessOutput) := fun session =>
  let outcome := host.start invocation session.files
  .ok outcome.2
    { session with
      files := outcome.1
      launches := session.launches ++ [⟨invocation, session.files⟩] }

end Action

end ResourceScaffold

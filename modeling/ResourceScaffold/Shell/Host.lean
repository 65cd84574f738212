import ResourceScaffold.Session
import ResourceScaffold.Shell.Evaluation

/-!
Contract: test commands that run without an operating system.

Owns:
- the programs that can be started, and faults of starting one;
- what a program leaves behind.

Does not own: programs of a project. A program has no input but the files that it names.
-/

namespace ResourceScaffold.Shell

def levelLimit : Nat := 10000

/-- The state in which a program starts: it has no input, and what it prints is collected. Of the
environment, only what has the name of a variable counts. -/
def State.initial (environment : List (String × String)) (directory : Path) (files : FileTree) :
    State :=
  let exported := environment.filterMap fun entry =>
    let name := Bytes.ofString entry.1
    if isName name then some (name, (⟨some (Bytes.ofString entry.2), true, false⟩ : Variable))
    else none
  { files, streams := #[.source [], .collected ByteArray.empty, .collected ByteArray.empty],
    directory, descriptors := [(0, 0), (1, 1), (2, 2)], name := [], arguments := [],
    table := exported.foldl (fun table entry => Association.set entry.1 entry.2 table)
      initialVariables }

def State.collected (state : State) (number : Nat) : ByteArray :=
  match state.streams[number]? with
  | some (.collected bytes) => bytes
  | _ => ByteArray.empty

def processOutput (state : State) (exitCode : ExitCode) : ProcessOutput :=
  ⟨exitCode, state.collected 1, state.collected 2⟩

/-- Runs a program to its end, under the name by which it was called. -/
def runToEnd (program name : Bytes) (arguments : List Bytes) (state : State) :
    FileTree × ProcessOutput :=
  let run := runWithin levelLimit
  let work : Work Unit :=
    if ["sh".toList, "dash".toList].contains program then
      runShell run arguments
    else do Work.setCode (← runProgram run program name arguments)
  match work { state with name, line := 0 } with
  | .error (.killed _) after => (after.files, processOutput after none)
  | .error _ after => (after.files, processOutput after (some (after.code % 256)))
  | .ok _ after => (after.files, processOutput after (some (after.code % 256)))

/-- Why a program that is unknown cannot be started. A path leads to a file that cannot be executed,
or to none. -/
def missingProgram (program : String) (directory : Path) (files : FileTree) : Fault :=
  if program.toList.contains '/' then
    match files.status (directory.join ⟨program⟩) with
    | .ok _ => .permissionDenied
    | .error fault => fault
  else if FileTree.nameLimit < program.utf8ByteSize then .nameTooLong
  else .notFound

/-- Whether an invocation has a text that ends too early for a system that ends texts with NUL. -/
def hasNul (invocation : Invocation) : Bool :=
  (invocation.program :: invocation.directory.text :: invocation.arguments).any fun text =>
    text.toList.contains '\x00'

/-- Starts a program in a directory that has to exist. -/
def start (environment : List (String × String)) (invocation : Invocation) (files : FileTree) :
    FileTree × Except Fault ProcessOutput :=
  let directory := invocation.directory
  if hasNul invocation then (files, .error .nulInArgument)
  else
    match files.status directory with
    | .error fault => (files, .error fault)
    | .ok (.file _) => (files, .error .notDirectory)
    | .ok .directory =>
        let name := Bytes.ofString invocation.program
        match programOf? name with
        | some program =>
            let outcome := runToEnd program name (invocation.arguments.map Bytes.ofString)
              (State.initial environment directory files)
            (outcome.1, .ok outcome.2)
        | none =>
            (files, .error (missingProgram invocation.program directory files))

end ResourceScaffold.Shell

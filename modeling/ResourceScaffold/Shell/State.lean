import ResourceScaffold.FileTree.Access
import ResourceScaffold.Shell.Script
import ResourceScaffold.Text.Lossy

/-!
Contract: the state of a running shell.

Owns:
- variables, functions, options and positional parameters;
- what descriptors are connected to;
- steps of a shell, and the ways in which they stop it.

Does not own: what commands do to the state.
-/

namespace ResourceScaffold.Shell

/-! ## Parts of the state -/

/-- A variable. It can be declared without having a value. -/
structure Variable where
  value : Option Bytes
  isExported : Bool := false
  isReadonly : Bool := false
deriving DecidableEq, Repr

/-- What a descriptor can be connected to: a place that collects what is written, a text to read
from, a file with the position of the next byte, where no position means its end, or a place that
holds nothing and swallows all output. -/
inductive Stream where
  | collected (bytes : ByteArray)
  | source (bytes : Bytes)
  | file (path : Path) (position : Option Nat)
  | void

/-- The options of a shell that have an effect here. -/
structure Options where
  stopsOnFailure : Bool := false
  refusesUnset : Bool := false
  ignoresPatterns : Bool := false
  traces : Bool := false
  executesNothing : Bool := false
  keepsFiles : Bool := false
  exportsAll : Bool := false
deriving DecidableEq, Repr

/-- The state of a shell. `streams` holds what the descriptors of this and of all other shells of
the script are connected to, by number. -/
structure State where
  files : FileTree
  streams : Array Stream
  documents : List (Nat × Word) := []
  directory : Path
  /-- The numbers of the streams that descriptors are connected to. -/
  descriptors : List (Nat × Nat)
  /-- The name under which the shell reports, and its arguments. -/
  name : Bytes
  arguments : List Bytes
  /-- The command of the shell that is at work, if there is one. -/
  running : Option Bytes := none
  /-- The variables by name. -/
  table : List (Bytes × Variable)
  functions : List (Bytes × Command) := []
  options : Options := {}
  /-- The code of the last command, and of the last script inside a word. -/
  code : Nat := 0
  innerCode : Nat := 0
  /-- The line that reports name, and the line that reading has reached. -/
  line : Nat := 1
  lineReached : Nat := 1
  loops : Nat := 0
  /-- The variables of the function that is running, as they were before it, if there is one. -/
  hidden : Option (List (Bytes × Option Variable)) := none
  /-- Scripts to run on signals, by number. Zero stands for the end of the shell. -/
  traps : List (Nat × Bytes) := []
  /-- The code before a script that a signal made run, while that is running. -/
  codeBefore : Option Nat := none
  /-- Signals that were sent to the outermost shell and wait for it. -/
  pending : List Nat := []
  /-- Whether the shell runs inside another one. -/
  isNested : Bool := false

/-- The state of a shell after another one inside it: only files, streams, the texts of
redirections and waiting signals can have changed. -/
def State.after (outer inner : State) : State :=
  { outer with
    files := inner.files, streams := inner.streams, documents := inner.documents,
    pending := inner.pending }

/-- Why a shell does not go on to the next command: loops are left or begun again, a function or
the shell ends, a command has failed in a way that ends the shell, or a signal has ended it. -/
inductive Stop where
  | leave (levels : Nat)
  | again (levels : Nat)
  | finish
  | exit
  | failure
  | killed (signal : Nat)
deriving DecidableEq, Repr

/-- A step of a shell. What it did before it stops the shell stays. -/
abbrev Work (α : Type) := EStateM Stop State α

namespace Work

variable {α : Type}

/-! ## Paths -/

def textOf (bytes : Bytes) : String :=
  Text.lossy bytes.toArray

def pathOf (name : Bytes) : Work Path := do
  return (← get).directory.join ⟨textOf name⟩

/-- The name of the place that holds nothing and swallows all output. -/
def voidName : Bytes := "/dev/null".toList

/-! ## Streams -/

def openStream (stream : Stream) : Work Nat := do
  let state ← get
  set { state with streams := state.streams.push stream }
  return state.streams.size

def setStream (number : Nat) (stream : Stream) : Work Unit :=
  modify fun state => { state with streams := state.streams.setIfInBounds number stream }

def streamOf? (descriptor : Nat) : Work (Option (Nat × Stream)) := do
  let state ← get
  return do
    let number ← state.descriptors.lookup descriptor
    let stream ← state.streams[number]?
    return (number, stream)

def connect (descriptor : Nat) (number : Option Nat) : Work Unit :=
  modify fun state =>
    { state with
      descriptors :=
        match number with
        | some found => Association.set descriptor found state.descriptors
        | none => Association.erase descriptor state.descriptors }

def overwrite (content : ByteArray) (position : Nat) (bytes : Bytes) : ByteArray :=
  let start := content.toList.take position
  let gap := List.replicate (position - content.size) 0
  let rest := content.toList.drop (position + bytes.length)
  ⟨(start ++ gap ++ bytes.toArray.toList ++ rest).toArray⟩

/-- Writes to a stream, and says whether that was possible. -/
def writeTo (number : Nat) (bytes : Bytes) : Work Bool := do
  let state ← get
  match state.streams[number]? with
  | some (.collected content) =>
      setStream number (.collected (content ++ bytes.toArray))
      return true
  | some (.file path position) =>
      match state.files.readBytes path with
      | .error _ => return true
      | .ok content =>
          let start := position.getD content.size
          match state.files.writeFile path (overwrite content start bytes) with
          | .ok files =>
              set { state with files }
              setStream number (.file path (position.map (· + bytes.length)))
              return true
          | .error _ => return true
  | some .void => return true
  | _ => return bytes.isEmpty

def write (descriptor : Nat) (bytes : Bytes) : Work Bool := do
  match (← get).descriptors.lookup descriptor with
  | some number => writeTo number bytes
  | none => return bytes.isEmpty

def readAll (descriptor : Nat) : Work Bytes := do
  match ← streamOf? descriptor with
  | some (number, .source bytes) =>
      setStream number (.source [])
      return bytes
  | some (number, .file path position) =>
      match (← get).files.readBytes path with
      | .ok content =>
          setStream number (.file path (some content.size))
          return Bytes.ofArray ⟨(content.toList.drop (position.getD content.size)).toArray⟩
      | .error _ => return []
  | _ => return []

def putBack (descriptor : Nat) (bytes : Bytes) : Work Unit := do
  match ← streamOf? descriptor with
  | some (number, .source rest) => setStream number (.source (bytes ++ rest))
  | some (number, .file path position) =>
      setStream number (.file path (position.map (· - bytes.length)))
  | _ => return

/-! ## Reports -/

def setCode (code : Nat) : Work Unit :=
  modify fun state => { state with code }

/-- Reports something on the stream for errors, with the name of the shell, the line and the command
of the shell that is at work. -/
def report (text : Bytes) : Work Unit := do
  let state ← get
  let start := state.name ++ ": ".toList ++ Bytes.ofNat state.line ++ ": ".toList
  let source :=
    match state.running with
    | some name => name ++ ": ".toList
    | none => []
  let _ ← write 2 (start ++ source ++ text ++ ['\n'])

def fail (text : Bytes) : Work α := do
  report text
  setCode 2
  throw .failure

def setLine (line : Nat) : Work Unit :=
  modify fun state => { state with line }

def failReading (line : Nat) (reason : Bytes) : Work α := do
  setLine line
  fail ("Syntax error: ".toList ++ reason)

/-! ## Variables -/

def stored? (name : Bytes) : Work (Option Variable) := do
  return (← get).table.lookup name

def value? (name : Bytes) : Work (Option Bytes) := do
  return (← stored? name).bind Variable.value

def put (name : Bytes) (content : Variable) : Work Unit :=
  modify fun state =>
    { state with table := Association.set name content state.table }

def assign (name value : Bytes) : Work Unit := do
  let old := (← stored? name).getD ⟨none, false, false⟩
  if old.isReadonly then fail (name ++ ": is read only".toList)
  else
    let exports := old.isExported || (← get).options.exportsAll
    put name { old with value := some value, isExported := exports }

/-- The characters at which the values of parameters are cut. -/
def separators : Work Bytes := do
  return (← value? ['I', 'F', 'S']).getD [' ', '\t', '\n']

/-! ## Stops -/

/-- Whether a step went through, and the state after it. -/
def attempt (work : Work α) : Work (Except Stop α) := fun state =>
  match work state with
  | .ok result after => .ok (.ok result) after
  | .error stop after => .ok (.error stop) after

/-- Some work, with a part of the state as it was afterwards. -/
def restoring (restore : State → State → State) (work : Work α) : Work α := fun state =>
  match work state with
  | .ok result after => .ok result (restore state after)
  | .error stop after => .error stop (restore state after)

end Work

end ResourceScaffold.Shell

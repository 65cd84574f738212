import ResourceScaffold.Shell.Expansion

/-!
Contract: what redirections do.

Owns:
- the words of redirections after they have been put in;
- opening files, and the reports of files that cannot be opened;
- connecting descriptors.

Does not own: when redirections end.
-/

namespace ResourceScaffold.Shell

open Work

/-- A redirection whose word has been put in. A descriptor that is connected to nothing is
closed. -/
inductive Connection where
  | file (descriptor : Nat) (mode : OpenMode) (name : Bytes)
  | duplicate (descriptor : Nat) (source : Option Nat)
  | text (descriptor : Nat) (content : Bytes)

def connectionOf (outputOf : OutputOf) : Redirection → Work Connection
  | .file descriptor mode path => do
      return .file descriptor mode (← textOfWord outputOf path)
  | .duplicate descriptor target => do
      let refuse : Work Connection := do
        failReading (← get).lineReached "Bad fd number".toList
      let text ← textOfWord outputOf target
      match text with
      | ['-'] => return .duplicate descriptor none
      | [digit] =>
          if digit.isDigit then return .duplicate descriptor (some (naturalIn 10 [digit]))
          else refuse
      | _ => refuse
  | .document descriptor number => do
      let word := ((← get).documents.lookup number).getD []
      return .text descriptor (textOfAtoms (← atomsOfWord outputOf false word))

def connectionsOf (outputOf : OutputOf) : List Redirection → Work (List Connection)
  | [] => return []
  | redirection :: rest => do
      let connection ← connectionOf outputOf redirection
      let others ← connectionsOf outputOf rest
      return connection :: others

/-! ## Files -/

def faultText (fault : Fault) : Bytes :=
  (fault.message.toList.takeWhile (· ≠ '(')).reverse.dropWhile (· = ' ') |>.reverse

/-- Why a file could not be opened. What is missing is the file itself, or the directory of a file
that is new. -/
def openFaultText (isNew : Bool) : Fault → Bytes
  | .notFound => if isNew then "Directory nonexistent".toList else "No such file".toList
  | .notDirectory => if isNew then "Directory nonexistent".toList else "No such file".toList
  | fault => faultText fault

def namedDescriptor? (name : Bytes) : Option Nat :=
  match String.ofList name with
  | "/dev/stdin" => some 0
  | "/dev/stdout" => some 1
  | "/dev/stderr" => some 2
  | _ => none

/-- Opens a file for reading. A directory can be opened, but nothing can be read from it. -/
def openSource (name : Bytes) : Work (Except Bytes Nat) := do
  let path ← pathOf name
  match (← get).files.status path with
  | .ok _ => return .ok (← openStream (.file path (some 0)))
  | .error fault =>
      return .error ("cannot open ".toList ++ name ++ ": ".toList ++ openFaultText false fault)

def openSink (mode : OpenMode) (name : Bytes) : Work (Except Bytes Nat) := do
  let path ← pathOf name
  let state ← get
  let refusal (reason : Bytes) : Except Bytes Nat :=
    .error ("cannot create ".toList ++ name ++ ": ".toList ++ reason)
  if mode = .write ∧ state.options.keepsFiles ∧ state.files.isFile path then
    return refusal "File exists".toList
  else
    let content :=
      match mode, state.files.readBytes path with
      | .write, _ => ByteArray.empty
      | .replace, _ => ByteArray.empty
      | _, .ok found => found
      | _, .error _ => ByteArray.empty
    match state.files.writeFile path content with
    | .ok files =>
        set { state with files }
        return .ok (← openStream (.file path (if mode = .append then none else some 0)))
    | .error fault => return refusal (openFaultText true fault)

def openFile (mode : OpenMode) (name : Bytes) : Work (Except Bytes Nat) := do
  let state ← get
  match (namedDescriptor? name).bind fun descriptor => state.descriptors.lookup descriptor with
  | some number => return .ok number
  | none =>
      if name = voidName then return .ok (← openStream .void)
      else if mode = .read then openSource name
      else openSink mode name

/-! ## Connecting -/

def connectOne : Connection → Work Bool
  | .file descriptor mode name => do
      match ← openFile mode name with
      | .ok number =>
          connect descriptor (some number)
          return true
      | .error reason =>
          report reason
          return false
  | .duplicate descriptor none => do
      connect descriptor none
      return true
  | .duplicate descriptor (some source) => do
      match (← get).descriptors.lookup source with
      | some number =>
          connect descriptor (some number)
          return true
      | none =>
          report (Bytes.ofNat source ++ ": Bad file descriptor".toList)
          return false
  | .text descriptor content => do
      connect descriptor (some (← openStream (.source content)))
      return true

/-- Makes connections until one is not possible, and says whether all were. -/
def connectAll : List Connection → Work Bool
  | [] => return true
  | connection :: rest => do
      if ← connectOne connection then connectAll rest else return false

end ResourceScaffold.Shell

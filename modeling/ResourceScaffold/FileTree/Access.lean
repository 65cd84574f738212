import ResourceScaffold.FileTree.Basic
import ResourceScaffold.Path

/-!
Contract: operations on files by written path, with the faults of a real file system.

Owns:
- following a path through a tree;
- existence, kind and content of what a path refers to;
- writing a file, creating directories and renaming.

Does not own: which paths a program touches.
-/

namespace ResourceScaffold.FileTree

/-! ## Following a path -/

/-- The longest file name, in bytes. -/
def nameLimit : Nat := 255

/-- The length in bytes from which a path as a whole is too long. -/
def pathLimit : Nat := 4096

/-- The location that segments lead to from a location. Every segment needs a directory to start
from; the place reached at the end may be vacant. -/
def follow (tree : FileTree) : Location → List String → Except Fault Location
  | location, [] => .ok location
  | location, segment :: rest =>
      match tree.node? location with
      | none => .error .notFound
      | some (.file _) => .error .notDirectory
      | some .directory =>
          if segment = "" ∨ segment = "." then tree.follow location rest
          else if segment = ".." then tree.follow location.dropLast rest
          else if nameLimit < segment.utf8ByteSize then .error .nameTooLong
          else tree.follow (location ++ [segment]) rest

def pathSegments (path : Path) : List String :=
  (Text.splitOn '/' path.text.toList).map String.ofList

def startOf (tree : FileTree) (path : Path) : Location :=
  if path.isAbsolute then [] else tree.workingDirectory

def checkPath (path : Path) : Except Fault Unit :=
  if path.text.toList.contains '\x00' then .error .nulInPath
  else if path.text.isEmpty then .error .notFound
  else if pathLimit ≤ path.text.utf8ByteSize then .error .nameTooLong
  else .ok ()

/-- The location that a path leads to. It may be vacant. -/
def locate (tree : FileTree) (path : Path) : Except Fault Location := do
  checkPath path
  tree.follow (tree.startOf path) (pathSegments path)

def status (tree : FileTree) (path : Path) : Except Fault Node := do
  let location ← tree.locate path
  match tree.node? location with
  | some node => .ok node
  | none => .error .notFound

/-- Whether a path refers to a file or a directory. A path that cannot be followed does not. -/
def pathExists (tree : FileTree) (path : Path) : Bool :=
  match tree.status path with
  | .ok _ => true
  | .error _ => false

def isFile (tree : FileTree) (path : Path) : Bool :=
  match tree.status path with
  | .ok (.file _) => true
  | _ => false

def isDirectory (tree : FileTree) (path : Path) : Bool :=
  match tree.status path with
  | .ok .directory => true
  | _ => false

/-! ## Reading -/

def readBytes (tree : FileTree) (path : Path) : Except Fault ByteArray := do
  match ← tree.status path with
  | .file content => .ok content
  | .directory => .error .isDirectory

/-- The text of a file, which must be valid UTF-8. -/
def readText (tree : FileTree) (path : Path) : Except Fault String := do
  let content ← tree.readBytes path
  match String.fromUTF8? content with
  | some text => .ok text
  | none => .error .invalidText

/-! ## Writing -/

/-- The segments of a path without the empty ones at its end. -/
def creationSegments (path : Path) : List String :=
  ((pathSegments path).reverse.dropWhile fun segment => segment.isEmpty).reverse

/-- Writes a file, replacing the content of one that exists. A path that ends in `/` can only be
meant for a directory. -/
def writeFile (tree : FileTree) (path : Path) (content : ByteArray) : Except Fault FileTree := do
  checkPath path
  let segments := creationSegments path
  if path.text.toList.getLast? = some '/' ∧
      segments.getLast?.all (fun last => last ≠ "." ∧ last ≠ "..") then
    let _ ← tree.follow (tree.startOf path) (segments.dropLast ++ ["."])
    throw .isDirectory
  let location ← tree.follow (tree.startOf path) (pathSegments path)
  match tree.node? location with
  | some .directory => throw .isDirectory
  | _ => return tree.set location (.file content)

def createDirectory (tree : FileTree) (path : Path) : Except Fault FileTree := do
  checkPath path
  let location ← tree.follow (tree.startOf path) (creationSegments path)
  match tree.node? location with
  | some _ => throw .alreadyExists
  | none => return tree.set location .directory

/-- Creates the first of the given directories, and before it those of the others that it needs;
each is the parent of the one before it. `make` is asked for one directory at a time. A directory
that exists already is fine. -/
def createChain (make : FileTree → Path → Except Fault FileTree) (tree : FileTree) :
    List Path → FileTree × Option Fault
  | [] => (tree, some .noWholeTree)
  | path :: parents =>
      if path.text.isEmpty then (tree, none)
      else
        match make tree path with
        | .ok created => (created, none)
        | .error .notFound =>
            match createChain make tree parents with
            | (deeper, some fault) => (deeper, some fault)
            | (deeper, none) =>
                match make deeper path with
                | .ok created => (created, none)
                | .error fault =>
                    if deeper.isDirectory path then (deeper, none) else (deeper, some fault)
        | .error fault =>
            if tree.isDirectory path then (tree, none) else (tree, some fault)

/-- Creates a directory together with the parents it lacks. What was created before a fault
stays. -/
def createDirectories (tree : FileTree) (path : Path)
    (make : FileTree → Path → Except Fault FileTree := createDirectory) :
    FileTree × Option Fault :=
  createChain make tree path.ancestors

/-! ## Renaming -/

/-- Whether the last segment of a path is a dot or two, or there is none. -/
def endsInDots (path : Path) : Bool :=
  match (creationSegments path).getLast? with
  | some last => last = "." || last = ".."
  | none => true

/-- Moves what `source` refers to so that `target` refers to it. A file replaces a file, and a
directory replaces an empty directory. -/
def rename (tree : FileTree) (source target : Path) : Except Fault FileTree := do
  checkPath source
  checkPath target
  if endsInDots source ∨ endsInDots target then throw .busy
  let sourceLocation ← tree.locate source
  let some moved := tree.node? sourceLocation | throw .notFound
  let targetLocation ← tree.follow (tree.startOf target) (creationSegments target)
  if sourceLocation = targetLocation then return tree
  match moved, tree.node? targetLocation with
  | .file _, some .directory => throw .isDirectory
  | .directory, some (.file _) => throw .notDirectory
  | .directory, occupant =>
      if isWithin sourceLocation targetLocation then throw .invalidArgument
      if occupant.isSome ∧ tree.hasChildren targetLocation then throw .directoryNotEmpty
      return tree.move sourceLocation targetLocation
  | .file _, _ => return tree.move sourceLocation targetLocation

end ResourceScaffold.FileTree

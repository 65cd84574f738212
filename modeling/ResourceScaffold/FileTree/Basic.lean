import ResourceScaffold.Association
import ResourceScaffold.FileTree.Fault

/-!
Contract: a file tree as a finite map from absolute locations to files and directories.

Owns:
- locations, nodes and the tree;
- looking up, setting, erasing and moving nodes.

Does not own: reading written paths, and the checks that a real operation makes. There are no
symbolic links and no permissions.
-/

namespace ResourceScaffold

/-- An absolute location: the names on the way from the root directory. -/
abbrev Location := List String

/-- What a location holds. -/
inductive Node where
  | directory
  | file (content : ByteArray)

instance : DecidableEq Node
  | .directory, .directory => isTrue rfl
  | .directory, .file _ => isFalse nofun
  | .file _, .directory => isFalse nofun
  | .file left, .file right =>
      match ByteArray.instDecidableEq left right with
      | isTrue same => isTrue (by rw [same])
      | isFalse different => isFalse (by simpa using different)

/-- A file tree and the directory that relative paths start from. Each location is listed at most
once; the root directory is there without being listed. -/
structure FileTree where
  nodes : List (Location × Node)
  workingDirectory : Location
deriving DecidableEq

namespace FileTree

/-- The directories on the way to a location, and the location itself, outermost first. -/
def wayTo : Location → List Location
  | [] => []
  | name :: rest => [name] :: (wayTo rest).map (name :: ·)

def empty (workingDirectory : Location) : FileTree where
  nodes := (wayTo workingDirectory).map fun location => (location, .directory)
  workingDirectory := workingDirectory

def node? (tree : FileTree) (location : Location) : Option Node :=
  if location.isEmpty then some .directory else tree.nodes.lookup location

def set (tree : FileTree) (location : Location) (node : Node) : FileTree :=
  { tree with nodes := Association.set location node tree.nodes }

@[simp] theorem node?_root (tree : FileTree) : tree.node? [] = some .directory := rfl

theorem node?_set_self (tree : FileTree) {location : Location} (node : Node)
    (below : location ≠ []) : (tree.set location node).node? location = some node := by
  simp [node?, set, below]

theorem node?_set_of_ne (tree : FileTree) {location other : Location} (node : Node)
    (different : other ≠ location) :
    (tree.set location node).node? other = tree.node? other := by
  simp [node?, set, Association.lookup_set_of_ne node tree.nodes different]

/-- Whether `inner` is `outer` or lies below it. -/
def isWithin (outer inner : Location) : Bool :=
  outer.isPrefixOf inner

/-- The tree without a location and everything below it. -/
def erase (tree : FileTree) (location : Location) : FileTree :=
  { tree with nodes := tree.nodes.filter fun entry => !isWithin location entry.1 }

def hasChildren (tree : FileTree) (location : Location) : Bool :=
  tree.nodes.any fun entry => isWithin location entry.1 && entry.1 != location

def relocated (source target location : Location) : Location :=
  if isWithin source location then target ++ location.drop source.length else location

/-- The tree in which everything at or below `source` stands at `target` instead. What stood at
`target` is gone. -/
def move (tree : FileTree) (source target : Location) : FileTree :=
  { tree with
    nodes := (tree.erase target).nodes.map fun entry =>
      (relocated source target entry.1, entry.2) }

end FileTree

end ResourceScaffold

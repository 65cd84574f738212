import ResourceScaffold.Moment
import ResourceScaffold.Program
import ResourceScaffold.Shell.Host

/-!
Contract: the program on a real machine.

Owns:
- reading the files below the working directory, the environment and the clock;
- writing back what the program changed, and printing what it says.

Does not own: any decision of the program. Questions are never asked here, and test commands run as
`Shell` runs them.
-/

namespace ResourceScaffold

/-! ## Reading -/

/-- The files and directories below a directory. -/
partial def readBelow (directory : String) (location : Location) : IO (List (Location × Node)) := do
  let entries ← (← IO.FS.realPath directory).readDir
  let found ← entries.toList.mapM fun entry => do
    let place := location ++ [entry.fileName]
    if ← entry.path.isDir then
      return (place, Node.directory) :: (← readBelow entry.path.toString place)
    else
      return [(place, Node.file (← IO.FS.readBinFile entry.path))]
  return found.flatten

def readTree : IO FileTree := do
  let here := toString (← IO.currentDir)
  let location := (here.splitOn "/").filter fun name => name ≠ ""
  let start := FileTree.empty location
  return { start with nodes := start.nodes ++ (← readBelow here location) }

def readEnvironment : IO (List (String × String)) := do
  let bytes ← IO.FS.readBinFile "/proc/self/environ"
  let settings := (Text.splitOn '\x00' (Text.lossy bytes).toList).filter fun text => !text.isEmpty
  return settings.map fun text =>
    (String.ofList (text.takeWhile (· ≠ '=')), String.ofList ((text.dropWhile (· ≠ '=')).drop 1))

/-- The time now, from the time at which the machine was started and the time since then. -/
def readMoment : IO Moment := do
  let status ← IO.FS.readFile "/proc/stat"
  let running ← IO.FS.readFile "/proc/uptime"
  let started := ((status.splitOn "btime ").drop 1).headD ""
  let digitsAt := fun text : String => Numeral.natOfDigits (text.toList.takeWhile Char.isDigit)
  let fraction := (((running.splitOn ".").drop 1).headD "").toList.takeWhile Char.isDigit
  return ⟨digitsAt started * 1000 + digitsAt running * 1000 +
    Numeral.natOfDigits (fraction.take 2) * 10⟩

/-! ## Writing -/

def pathOf (location : Location) : String :=
  "/" ++ "/".intercalate location

/-- Removes files that are gone, then creates directories and files that are new or changed. -/
def writeChanges (before after : FileTree) : IO Unit := do
  for (location, node) in before.nodes do
    if let .file _ := node then
      if (after.nodes.lookup location).isNone then
        IO.FS.removeFile (pathOf location)
  for (location, node) in after.nodes do
    unless before.nodes.lookup location = some node do
      match node with
      | .directory => IO.FS.createDirAll (pathOf location)
      | .file content => IO.FS.writeBinFile (pathOf location) content

def runHere (arguments : List String) : IO UInt32 := do
  let files ← readTree
  let now ← readMoment
  let environment ← readEnvironment
  let host : Host :=
    { environment
      clock := fun _ => now.stamp
      confirm := fun _ => .error ["IO error: not a terminal", "not a terminal"]
      start := Shell.start environment }
  let result := runProgram host now.logText arguments files
  writeChanges files result.files
  IO.print result.standardOutput
  IO.eprint result.standardError
  return UInt32.ofNat result.exitCode

end ResourceScaffold

def main (arguments : List String) : IO UInt32 :=
  ResourceScaffold.runHere arguments

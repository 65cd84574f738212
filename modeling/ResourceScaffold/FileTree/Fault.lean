/-!
Contract: the ways in which an operation on a file tree fails.

Owns:
- the causes, and the text that names each of them.

Does not own: which path an operation was asked for.
-/

namespace ResourceScaffold

/-- Why an operation on files, on a program or on a terminal failed. -/
inductive Fault where
  | notFound
  | alreadyExists
  | notDirectory
  | isDirectory
  | directoryNotEmpty
  | nameTooLong
  | busy
  | invalidArgument
  | invalidText
  | permissionDenied
  | nulInPath
  | nulInArgument
  | noWholeTree
deriving DecidableEq, Repr

def Fault.message : Fault → String
  | notFound => "No such file or directory (os error 2)"
  | alreadyExists => "File exists (os error 17)"
  | notDirectory => "Not a directory (os error 20)"
  | isDirectory => "Is a directory (os error 21)"
  | directoryNotEmpty => "Directory not empty (os error 39)"
  | nameTooLong => "File name too long (os error 36)"
  | busy => "Device or resource busy (os error 16)"
  | invalidArgument => "Invalid argument (os error 22)"
  | invalidText => "stream did not contain valid UTF-8"
  | permissionDenied => "Permission denied (os error 13)"
  | nulInArgument => "nul byte found in provided data"
  | nulInPath => "file name contained an unexpected NUL byte"
  | noWholeTree => "failed to create whole tree"

end ResourceScaffold

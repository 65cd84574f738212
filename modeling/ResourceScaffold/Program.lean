import ResourceScaffold.CommandLine.Arguments
import ResourceScaffold.CommandLine.Help
import ResourceScaffold.Execution
import ResourceScaffold.Log.Line

/-!
Contract: the program as a whole, from its arguments to its exit code.

Owns:
- what goes to the standard output and to the standard error;
- the report of a failure with its causes.

Does not own: reading the surroundings, and writing to them.
-/

namespace ResourceScaffold

/-! ## Reports of failures -/

def indentedLines (indent text : String) : String :=
  ("\n" ++ indent).intercalate ((Text.splitOn '\n' text.toList).map String.ofList)

def numberedCause (number : Nat) (cause : String) : String :=
  let digits := toString number
  String.ofList (List.replicate (5 - digits.length) ' ') ++ digits ++ ": " ++
    indentedLines "       " cause

/-- The part of a report that tells the causes. A single one has no number. -/
def causesText : List String → String
  | [] => ""
  | [cause] => "\n\nCaused by:\n    " ++ indentedLines "    " cause
  | causes =>
      "\n\nCaused by:" ++
        String.join (causes.zipIdx.map fun entry => "\n" ++ numberedCause entry.2 entry.1)

def failureReport (reports : List String) : String :=
  match reports with
  | head :: causes => "Error: " ++ head ++ causesText causes ++ "\n"
  | [] => ""

/-! ## Command lines that cannot be read -/

def UsageFault.message : UsageFault → String
  | unknownArgument => "error: unexpected argument found\n"
  | repeatedOption => "error: an argument cannot be used multiple times\n"
  | invalidValue => "error: a value is missing or invalid\n"
  | needlessValue => "error: a value was given to an argument that takes none\n"

/-! ## Programs -/

/-- What the program leaves behind. -/
structure ProgramResult where
  exitCode : Nat
  standardOutput : String
  standardError : String
  files : FileTree

def logVariable : String := "RUST_LOG"

/-- The program: it reads its arguments, runs, and reports events and failures. Help and version end
it well, a misuse with code 2 and a failed run with code 1. -/
def runProgram (host : Host) (time : String) (arguments : List String) (files : FileTree) :
    ProgramResult :=
  match Options.ofArguments arguments with
  | .error (.misuse fault) => ⟨2, "", fault.message, files⟩
  | .error interruption =>
      ⟨0, (CommandLine.answerText? interruption).getD "", "", files⟩
  | .ok options =>
      let filter := Log.Filter.ofSetting (host.valueOf? logVariable)
      let logText := fun session : Session =>
        String.join ((Log.linesOf filter time session.events).map fun line => line ++ "\n")
      match options.execute host ⟨files, [], "", 0, []⟩ with
      | .ok _ session => ⟨0, session.output, logText session, session.files⟩
      | .error failure session =>
          ⟨1, session.output, logText session ++ failureReport failure.reports, session.files⟩

end ResourceScaffold

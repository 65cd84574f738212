import ResourceScaffold.Shell.Connection

/-!
Contract: programs that read files or wait.

Owns:
- printing files one after the other, with line numbers if an option asks for them;
- waiting, which takes no time here.

Does not own: how programs are found.
-/

namespace ResourceScaffold.Shell

open Work

/-! ## Reports -/

def complain (program text : Bytes) : Work Unit := do
  let _ ← write 2 (program ++ ": ".toList ++ text ++ ['\n'])

def refuseUsage (program text : Bytes) : Work Nat := do
  complain program text
  let _ ← write 2 ("Try '".toList ++ program ++ " --help' for more information.\n".toList)
  return 1

/-! ## Printing files -/

def concatenationName : Bytes := "cat".toList

/-- The bytes that a file or the input holds, or why they cannot be read. -/
def contentNamed (name : Bytes) : Work (Except Bytes Bytes) := do
  if name = ['-'] then
    match ← streamOf? 0 with
    | none => return .error "Bad file descriptor".toList
    | some (_, .file path _) =>
        if (← get).files.isDirectory path then return .error "Is a directory".toList
        else return .ok (← readAll 0)
    | some _ => return .ok (← readAll 0)
  else if name = voidName then return .ok []
  else
    match (← get).files.readBytes (← pathOf name) with
    | .ok content => return .ok (Bytes.ofArray content)
    | .error fault => return .error (faultText fault)

/-- The contents of files one after the other, and whether all could be read. -/
def contentsNamed : List Bytes → Work (Bytes × Bool)
  | [] => return ([], true)
  | name :: rest => do
      match ← contentNamed name with
      | .ok content =>
          let (others, isComplete) ← contentsNamed rest
          return (content ++ others, isComplete)
      | .error reason =>
          complain concatenationName (name ++ ": ".toList ++ reason)
          let (others, _) ← contentsNamed rest
          return (others, false)

def lineNumber (number : Nat) : Bytes :=
  let digits := Bytes.ofNat number
  List.replicate (6 - digits.length) ' ' ++ digits ++ ['\t']

/-- A text with a number in front of each line. `atStart` says that a line begins. -/
def numberedLines (number : Nat) (atStart : Bool) : Bytes → Bytes
  | [] => []
  | character :: rest =>
      let next := if character = '\n' then number + 1 else number
      let others := character :: numberedLines next (character = '\n') rest
      if atStart then lineNumber number ++ others else others

/-- Prints files one after the other. A hyphen stands for the input, and so does the lack of any
name. -/
def concatenate (arguments : List Bytes) : Work Nat := do
  let isOption (argument : Bytes) : Bool :=
    argument.length > 1 && argument.head? = some '-'
  let options := arguments.takeWhile fun argument => isOption argument && argument ≠ ['-', '-']
  let names := arguments.dropWhile isOption
  let letters := options.flatMap fun option => option.drop 1
  match options.find? fun option => option.take 2 = ['-', '-'] with
  | some option =>
      refuseUsage concatenationName ("unrecognized option '".toList ++ option ++ ['\''])
  | none =>
      match letters.find? fun letter => letter ≠ 'n' ∧ letter ≠ 'u' with
      | some letter =>
          refuseUsage concatenationName ("invalid option -- '".toList ++ [letter, '\''])
      | none =>
          let sources := if names.isEmpty then [['-']] else names
          let (content, isComplete) ← contentsNamed sources
          let _ ← write 1
            (if letters.contains 'n' then numberedLines 1 true content else content)
          if sources.contains ['-'] ∧ (← streamOf? 0).isNone then
            complain concatenationName "closing standard input: Bad file descriptor".toList
          return if isComplete then 0 else 1

/-! ## Waiting -/

/-- Whether a text is a time to wait for. -/
def isInterval (text : Bytes) : Bool :=
  let digits := text.filter (· ≠ '.')
  let shown := if digits.getLast?.any ("smhd".toList.contains ·) then digits.dropLast else digits
  !shown.isEmpty && shown.all Char.isDigit

/-- Waits for a time, which is over at once. -/
def sleep (arguments : List Bytes) : Work Nat := do
  let name : Bytes := "sleep".toList
  if arguments.isEmpty then refuseUsage name "missing operand".toList
  else
    match arguments.find? fun text => !isInterval text with
    | some text => refuseUsage name ("invalid time interval '".toList ++ text ++ ['\''])
    | none => return 0

end ResourceScaffold.Shell

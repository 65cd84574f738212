import ResourceScaffold.Shell.Builtin
import ResourceScaffold.Shell.Concatenation

/-!
Contract: running the commands of a shell.

Owns:
- simple commands, functions and programs;
- loops, choices, pipelines and shells inside the shell;
- what signals and the end of a shell make run.

Does not own: reading scripts, and what words stand for. How nested commands are run is supplied,
and tied together at the end within a number of levels.
-/

namespace ResourceScaffold.Shell

open Work

/-- How a command is run. The failure of a tested command never ends the shell. -/
abbrev Run := Bool → Command → Work Unit

/-! ## Scripts -/

/-- Runs the commands of a text line by line, within a number of lines, and says whether there were
any. -/
def runLines (run : Run) (tested : Bool) : Nat → Reading → Work Bool
  | 0, _ => return false
  | steps + 1, reading => do
      match readLine { reading with documents := (← get).documents } with
      | .error fault => failReading fault.line fault.reason
      | .ok none => return false
      | .ok (some (command, after)) =>
          modify fun state =>
            { state with documents := after.documents, lineReached := after.line }
          run tested command
          let others ← runLines run tested steps after
          match command with
          | .empty => return others
          | _ => return true

/-- Runs the commands of a text. Without any, all is well. -/
def runText (run : Run) (tested : Bool) (text : Bytes) : Work Unit := do
  let isEmpty ← restoring (fun outer inner => { inner with lineReached := outer.lineReached }) do
    return !(← runLines run tested (text.length + 1) { rest := text })
  if isEmpty then setCode 0

/-! ## Signals and ends -/

def endOnFailure (tested : Bool) : Work Unit := do
  let state ← get
  if state.options.stopsOnFailure ∧ !tested ∧ state.code ≠ 0 then throw .exit

def receive (run : Run) (signal : Nat) : Work Unit := do
  let state ← get
  match (state.traps.lookup signal).filter fun _ => canBeCaught signal with
  | some [] => return
  | some text =>
      set { state with codeBefore := some state.code }
      runText run false text
      modify fun after => { after with code := state.code, codeBefore := state.codeBefore }
  | none => if endsProcess signal then throw (.killed signal)

def receiveAll (run : Run) : Work Unit := do
  let state ← get
  if !state.isNested ∧ !state.pending.isEmpty then
    set { state with pending := [] }
    state.pending.forM (receive run)

def runAtEnd (run : Run) : Work Unit := do
  let state ← get
  match state.traps.lookup 0 with
  | none => return
  | some text =>
      set { state with
        traps := Association.erase 0 state.traps, codeBefore := some state.code }
      match ← attempt (runText run false text) with
      | .error (.killed signal) => throw (.killed signal)
      | .error .exit => return
      | _ => setCode state.code

/-- Runs a shell to its end. Only a signal can stop it before. -/
def concluded (run : Run) (work : Work Unit) : Work Unit := do
  match ← attempt work with
  | .error (.killed signal) => throw (.killed signal)
  | _ => runAtEnd run

/-! ## Shells inside the shell -/

/-- Runs something in a shell inside the shell, as the code with which that ends. -/
def nested (run : Run) (work : Work Unit) : Work Nat := fun outer =>
  let inner :=
    { outer with isNested := true, traps := outer.traps.filter fun trap => trap.2.isEmpty }
  match concluded run work inner with
  | .ok _ after => .ok (after.code % 256) (outer.after after)
  | .error _ after => .ok (after.code % 256) (outer.after after)

def collectedIn (number : Nat) : Work Bytes := do
  match (← get).streams[number]? with
  | some (.collected bytes) => return Bytes.ofArray bytes
  | _ => return []

def outputOf (run : Run) : OutputOf
  | .empty => return []
  | script => do
      let number ← openStream (.collected ByteArray.empty)
      let code ← nested run do
        connect 1 (some number)
        run false script
      modify fun state => { state with innerCode := code }
      collectedIn number

/-- Runs commands, each of which reads what the one before it has written. -/
def runPiped (run : Run) (tested : Bool) (source : Option Nat) : List Command → Work Nat
  | [] => return 0
  | command :: rest => do
      let start : Work Unit :=
        match source with
        | some number => connect 0 (some number)
        | none => pure ()
      match rest with
      | [] =>
          nested run do
            start
            run tested command
      | _ :: _ =>
          let number ← openStream (.collected ByteArray.empty)
          let _ ← nested run do
            start
            connect 1 (some number)
            run tested command
          setStream number (.source (← collectedIn number))
          runPiped run tested (some number) rest

/-! ## Loops -/

/-- How a pass of a loop has ended. -/
inductive Pass where
  | whole
  | again
  | last
deriving DecidableEq, Repr

/-- Runs a part of a loop, and takes the ends that are meant for this loop. -/
def passOf (work : Work Unit) : Work Pass := do
  match ← attempt work with
  | .ok _ => return .whole
  | .error (.leave levels) => if levels ≤ 1 then return .last else throw (.leave (levels - 1))
  | .error (.again levels) => if levels ≤ 1 then return .again else throw (.again (levels - 1))
  | .error stop => throw stop

def inLoop (work : Work Nat) : Work Unit := do
  let code ← restoring (fun outer inner => { inner with loops := outer.loops }) do
    modify fun state => { state with loops := state.loops + 1 }
    work
  setCode code

def passLimit : Nat := 1000000

/-- Runs a body as long as a condition succeeds, or fails, within a number of passes. The code is
that of the last body. -/
def repeatWhile (run : Run) (tested untilTrue : Bool) (condition body : Command) :
    Nat → Nat → Work Nat
  | 0, code => return code
  | passes + 1, code => do
      match ← passOf (run true condition) with
      | .last => return code
      | .again => repeatWhile run tested untilTrue condition body passes code
      | .whole =>
          if ((← get).code = 0) = untilTrue then return code
          else
            let pass ← passOf (run tested body)
            let after := (← get).code
            if pass = .last then return after
            else repeatWhile run tested untilTrue condition body passes after

/-- Runs a body for each of some texts. The code is that of the last body. -/
def repeatFor (run : Run) (tested : Bool) (name : Bytes) (body : Command) :
    Nat → List Bytes → Work Nat
  | code, [] => return code
  | _, text :: rest => do
      assign name text
      let pass ← passOf (run tested body)
      let after := (← get).code
      if pass = .last then return after else repeatFor run tested name body after rest

/-! ## Choices -/

def fitsAny (run : Run) (text : Bytes) : List Word → Work Bool
  | [] => return false
  | word :: rest => do
      let pattern ← patternOfWord (outputOf run) word
      if pattern.fits text then return true else fitsAny run text rest

def runChoice (run : Run) (tested : Bool) (text : Bytes) :
    List (List Word × Command) → Work Unit
  | [] => setCode 0
  | (patterns, body) :: rest => do
      if ← fitsAny run text patterns then
        match body with
        | .empty => setCode 0
        | _ => run tested body
      else runChoice run tested text rest

/-! ## Functions -/

def withoutLocals (hidden : List (Bytes × Option Variable)) (table : List (Bytes × Variable)) :
    List (Bytes × Variable) :=
  hidden.foldl (fun found entry =>
    match entry.2 with
    | some content => Association.set entry.1 content found
    | none => Association.erase entry.1 found) table

def State.afterFunction (outer inner : State) : State :=
  { inner with
    arguments := outer.arguments, loops := outer.loops, hidden := outer.hidden,
    table := withoutLocals (inner.hidden.getD []) inner.table }

def callFunction (run : Run) (tested : Bool) (body : Command) (arguments : List Bytes) :
    Work Unit :=
  restoring State.afterFunction do
    modify fun state => { state with arguments, loops := 0, hidden := some [] }
    match ← attempt (run tested body) with
    | .ok _ => return
    | .error .finish => return
    | .error stop => throw stop

/-! ## Programs -/

def programNames : List Bytes :=
  ["cat", "dash", "echo", "false", "sh", "sleep", "true"].map String.toList

/-- The program with a name, which may include the directory of programs. -/
def programOf? (name : Bytes) : Option Bytes :=
  let directories := ["/bin/".toList, "/usr/bin/".toList]
  let short :=
    match directories.find? fun directory => directory.isPrefixOf name with
    | some directory => name.drop directory.length
    | none => name
  if programNames.contains short then some short else none

def initialVariables : List (Bytes × Variable) :=
  [("IFS", " \t\n"), ("OPTIND", "1"), ("PS1", "# "), ("PS2", "> "), ("PS4", "+ ")].map
    fun entry => (entry.1.toList, ⟨some entry.2.toList, false, false⟩)

/-- The state of a shell that another shell starts as a program, under a name. -/
def State.forProgram (name : Bytes) (outer : State) : State :=
  let exported := outer.table.filter fun entry => entry.2.isExported
  let table := exported.foldl (fun found entry =>
    Association.set entry.1 { entry.2 with isReadonly := false } found) initialVariables
  { files := outer.files, streams := outer.streams, documents := outer.documents,
    directory := outer.directory, descriptors := outer.descriptors, name,
    arguments := [], table, line := 0,
    traps := outer.traps.filter fun trap => trap.2.isEmpty }

def runScript (run : Run) (name : Bytes) (arguments : List Bytes) (text : Bytes) : Work Unit := do
  modify fun state => { state with name, arguments }
  runText run false text

/-- Runs a shell that has just started with its arguments: a script after an option, or the name of
a file with a script, or else a script that is its input. -/
def runShell (run : Run) (arguments : List Bytes) : Work Unit :=
  concluded run do
    let options ← Builtin.readOptions true arguments
    let name := (← get).name
    match options.hasScript, options.rest with
    | true, [] => fail "-c requires an argument".toList
    | true, text :: rest => runScript run (rest.headD name) (rest.drop 1) text
    | false, [] => runScript run name [] (← readAll 0)
    | false, path :: rest =>
        if options.readsInput then
          runScript run name (path :: rest) (← readAll 0)
        else match ← openFile .read path with
        | .error reason => fail reason
        | .ok number =>
            let content ← restoring (fun outer inner =>
                { inner with descriptors := outer.descriptors }) do
              connect 0 (some number)
              readAll 0
            runScript run path rest content

def deathText (signal : Nat) : Bytes :=
  match signal with
  | 1 => "Hangup".toList
  | 3 => "Quit".toList
  | 6 => "Aborted".toList
  | 9 => "Killed".toList
  | 11 => "Segmentation fault".toList
  | 14 => "Alarm clock".toList
  | 15 => "Terminated".toList
  | _ => []

def runShellProgram (run : Run) (name : Bytes) (arguments : List Bytes) : Work Nat := fun outer =>
  let back (inner : State) : State := { outer.after inner with pending := outer.pending }
  match runShell run arguments (outer.forProgram name) with
  | .error (.killed signal) inner =>
      let tell : Work Nat := do
        let text := deathText signal
        let _ ← if text.isEmpty then pure true else write 2 (text ++ ['\n'])
        return 128 + signal
      tell (back inner)
  | .error _ inner => .ok (inner.code % 256) (back inner)
  | .ok _ inner => .ok (inner.code % 256) (back inner)

/-- Runs a program that exists, under the name by which it was called, as its code. -/
def runProgram (run : Run) (program name : Bytes) (arguments : List Bytes) : Work Nat := do
  match String.ofList program with
  | "cat" => concatenate arguments
  | "echo" =>
      let _ ← write 1 (echo arguments)
      return 0
  | "false" => return 1
  | "sleep" => sleep arguments
  | "true" => return 0
  | _ => runShellProgram run name arguments

def refuseProgram (name : Bytes) : Work Nat := do
  let path ← pathOf name
  if name.isEmpty then
    report ": Permission denied".toList
    return 127
  else if name.contains '/' ∧ (← get).files.pathExists path then
    report (name ++ ": Permission denied".toList)
    return 126
  else
    report (name ++ ": not found".toList)
    return 127

def runNamedProgram (run : Run) (name : Bytes) (arguments : List Bytes) : Work Nat :=
  match programOf? name with
  | some program => runProgram run program name arguments
  | none => refuseProgram name

/-! ## Kinds of commands -/

/-- What the name of a command stands for. -/
inductive NameKind where
  | keyword
  | special
  | function
  | builtin
  | program (path : Bytes)
  | unknown
deriving DecidableEq, Repr

def nameKindOf (name : Bytes) : Work NameKind := do
  if reservedWords.contains name then return .keyword
  else if specialCommands.contains name then return .special
  else if ((← get).functions.lookup name).isSome then return .function
  else if (Builtin.find? name).isSome ∨ name = "command".toList ∨ name = "type".toList then
    return .builtin
  else
    match programOf? name with
    | some program =>
        return .program (if name = program then "/usr/bin/".toList ++ name else name)
    | none => return .unknown

def NameKind.description (kind : NameKind) (name : Bytes) : Bytes :=
  match kind with
  | .keyword => name ++ " is a shell keyword\n".toList
  | .special => name ++ " is a special shell builtin\n".toList
  | .function => name ++ " is a shell function\n".toList
  | .builtin => name ++ " is a shell builtin\n".toList
  | .program path => name ++ " is ".toList ++ path ++ ['\n']
  | .unknown => name ++ ": not found\n".toList

def NameKind.shortText (kind : NameKind) (name : Bytes) : Bytes :=
  match kind with
  | .program path => path ++ ['\n']
  | .unknown => []
  | _ => name ++ ['\n']

def describe (isLong : Bool) (name : Bytes) : Work Nat := do
  let kind ← nameKindOf name
  let text := if isLong then kind.description name else kind.shortText name
  Builtin.say text (if kind = .unknown then 127 else 0)

def describeAll : List Bytes → Work Nat
  | [] => return 0
  | name :: rest => do
      let code ← describe true name
      return max code (← describeAll rest)

/-! ## Commands that run commands -/

/-- Runs a script in a file. A return ends the script. -/
def runFile (run : Run) (name : Bytes) : Work Unit := do
  if !name.contains '/' then fail (name ++ ": not found".toList)
  else
    match (← get).files.status (← pathOf name) with
    | .error fault =>
        fail ("cannot open ".toList ++ name ++ ": ".toList ++ openFaultText false fault)
    | .ok .directory => setCode 0
    | .ok (.file content) =>
        modify fun state => { state with running := some name }
        match ← attempt (runText run false (Bytes.ofArray content)) with
        | .ok _ => return
        | .error .finish => return
        | .error stop => throw stop

/-- Runs a program in place of the shell. Nothing runs at the end of the shell then. -/
def replaceShell (run : Run) (name : Bytes) (arguments : List Bytes) : Work Unit := do
  match programOf? name with
  | some program =>
      modify fun state => { state with traps := [], running := none }
      setCode (← runProgram run program name arguments)
  | none => setCode (← refuseProgram name)
  throw .exit

/-- A command of the shell at work. A failure of a special command stops the shell. -/
def atWork (name : Bytes) (isSpecial : Bool) (work : Work Unit) : Work Unit := do
  let before := (← get).running
  modify fun state => { state with running := some name }
  let outcome ← attempt work
  modify fun state => { state with running := before }
  match outcome with
  | .ok _ => return
  | .error .failure => if isSpecial then throw .failure
  | .error stop => throw stop

/-- The command of the shell with a name, among those that run other commands and those that do
not. -/
def builtinOf? (run : Run) (tested : Bool) (name : Bytes) (arguments : List Bytes) :
    Option (Work Unit) :=
  match String.ofList name with
  | "eval" => some (runText run tested (spaced arguments))
  | "." =>
      some (match arguments with
        | file :: _ => runFile run file
        | [] => setCode 0)
  | "exec" =>
      some (match arguments with
        | program :: rest => replaceShell run program rest
        | [] => setCode 0)
  | "type" => some (describeAll arguments >>= setCode)
  | "command" =>
      some (match arguments with
        | ['-', 'v'] :: word :: _ => describe false word >>= setCode
        | ['-', 'V'] :: word :: _ => describe true word >>= setCode
        | _ => setCode 0)
  | _ => (Builtin.find? name).map fun work => work arguments >>= setCode

/-! ## Simple commands -/

/-- The words of a simple command, whether its failure stops the shell, and whether functions are
passed over. -/
structure Target where
  words : List Bytes
  isSpecial : Bool
  skipsFunctions : Bool := false

/-- What words run. A word that only says that a command follows falls away, and with it the special
standing of the command. -/
def targetOf : List Bytes → Target
  | [] => ⟨[], false, false⟩
  | name :: rest =>
      if name ≠ "command".toList then ⟨name :: rest, specialCommands.contains name, false⟩
      else
        let isPlain (word : Bytes) : Bool := word = ['-', 'p'] || word = ['-', '-'] || word = name
        match rest.dropWhile isPlain with
        | [] => ⟨[name], false, true⟩
        | word :: others =>
            if word.head? = some '-' then ⟨name :: word :: others, false, true⟩
            else ⟨word :: others, false, true⟩

/-- Runs the words of a simple command. Without any, the code is that of the last script inside a
word. -/
def runTarget (run : Run) (tested : Bool) (target : Target) : Work Unit := do
  match target.words with
  | [] => setCode (← get).innerCode
  | name :: arguments =>
      let state ← get
      let functions := if target.isSpecial || target.skipsFunctions then [] else state.functions
      match functions.lookup name with
      | some body => callFunction run tested body arguments
      | none =>
          match builtinOf? run tested name arguments with
          | some work => atWork name target.isSpecial work
          | none => setCode (← runNamedProgram run name arguments)

def assigningCommands : List Bytes :=
  ["export", "local", "readonly"].map String.toList

/-- The fields of the words of a simple command. Arguments that are assignments are not cut where
the command assigns them. -/
def commandFields (run : Run) : List Word → Work (List Bytes)
  | [] => return []
  | word :: rest => do
      let first ← fieldsOfWords (outputOf run) [word]
      match (targetOf first).words with
      | [] => commandFields run rest
      | name :: _ =>
          if name = "command".toList then return first ++ (← commandFields run rest)
          else if assigningCommands.contains name then
            let fieldsOf (argument : Word) : Work (List Bytes) := do
              if (assignmentOf? argument).isSome then
                return [← textOfWord (outputOf run) argument]
              else fieldsOfWords (outputOf run) [argument]
            return first ++ (← rest.mapM fieldsOf).flatten
          else return first ++ (← fieldsOfWords (outputOf run) rest)

/-- Makes assignments, and gives their texts. Those in front of a command hold only for it and are
handed on to it. -/
def assignAll (run : Run) (isLocal : Bool) : List (Bytes × Word) → Work (List Bytes)
  | [] => return []
  | (name, word) :: rest => do
      let value ← textOfWord (outputOf run) word
      assign name value
      if isLocal then put name ⟨some value, true, false⟩
      let others ← assignAll run isLocal rest
      return (name ++ '=' :: value) :: others

/-- The state after a command, with the variables that were assigned only for it. -/
def State.afterAssignments (names : List Bytes) (outer inner : State) : State :=
  { inner with
    table := withoutLocals (names.map fun name => (name, outer.table.lookup name)) inner.table }

def trace (number : Option Nat) (texts : List Bytes) : Work Unit := do
  let state ← get
  if state.options.traces then
    let start := (← value? "PS4".toList).getD []
    match number with
    | some found =>
        let _ ← writeTo found (start ++ spaced texts ++ ['\n'])
    | none => return

def runSimple (run : Run) (tested : Bool) (assignments : List (Bytes × Word))
    (words : List Word) (redirections : List Redirection) : Work Unit := do
  modify fun state => { state with innerCode := 0 }
  let fields ← commandFields run words
  let target := targetOf fields
  let staysOpen := target.words = ["exec".toList]
  let isLocal := !fields.isEmpty ∧ !target.isSpecial
  let reports := (← get).descriptors.lookup 2
  let names := if isLocal then assignments.map Prod.fst else []
  let back (outer inner : State) : State :=
    let after := outer.afterAssignments names inner
    if staysOpen then after else { after with descriptors := outer.descriptors }
  restoring back do
    let connections ← connectionsOf (outputOf run) redirections
    if ← connectAll connections then
      let texts ← assignAll run isLocal assignments
      trace reports (texts ++ fields)
      runTarget run tested target
    else
      setCode 2
      if target.isSpecial then throw .failure

/-! ## Commands -/

def runRedirected (run : Run) (tested : Bool) (body : Command)
    (redirections : List Redirection) : Work Unit := do
  restoring (fun outer inner => { inner with descriptors := outer.descriptors }) do
    let connections ← connectionsOf (outputOf run) redirections
    if ← connectAll connections then run tested body
    else
      setCode 2
      endOnFailure tested

def runKind (run : Run) (tested : Bool) : Command → Work Unit
  | .empty => return
  | .simple line assignments words redirections => do
      setLine line
      runSimple run tested assignments words redirections
      endOnFailure tested
  | .pipeline commands => do
      setCode (← runPiped run tested none commands)
      endOnFailure tested
  | .negated command => do
      run true command
      setCode (if (← get).code = 0 then 1 else 0)
  | .both first second => do
      run true first
      if (← get).code = 0 then run tested second
  | .either first second => do
      run true first
      if (← get).code ≠ 0 then run tested second
  | .sequence first second => do
      run tested first
      run tested second
  | .background command => do
      let _ ← nested run do
        connect 0 (some (← openStream .void))
        run false command
      setCode 0
  | .conditional condition body otherwise => do
      run true condition
      if (← get).code = 0 then run tested body
      else
        match otherwise with
        | .empty => setCode 0
        | _ => run tested otherwise
  | .loop untilTrue condition body =>
      inLoop (repeatWhile run tested untilTrue condition body passLimit 0)
  | .forEach line name words body => do
      setLine line
      let texts ← fieldsOfWords (outputOf run) words
      inLoop (repeatFor run tested name body 0 texts)
  | .choice line subject branches => do
      setLine line
      runChoice run tested (← textOfWord (outputOf run) subject) branches
  | .subshell line body => do
      setLine line
      setCode (← nested run (run tested body))
      endOnFailure tested
  | .redirected line body redirections => do
      setLine line
      runRedirected run tested body redirections
  | .define name body => do
      modify fun state => { state with functions := Association.set name body state.functions }
      setCode 0

/-- Runs a command, unless an option forbids it, and takes care of signals after it. -/
def runCommand (run : Run) (tested : Bool) (command : Command) : Work Unit := do
  if !(← get).options.executesNothing then
    runKind run tested command
    receiveAll run

def runWithin : Nat → Run
  | 0, _, _ => fail "Script nested too deeply".toList
  | levels + 1, tested, command => runCommand (runWithin levels) tested command

end ResourceScaffold.Shell

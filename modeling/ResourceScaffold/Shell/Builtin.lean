import ResourceScaffold.Shell.Condition
import ResourceScaffold.Shell.Connection
import ResourceScaffold.Shell.Program
import ResourceScaffold.Shell.Signal

/-!
Contract: the commands that a shell has of its own.

Owns:
- commands that print, test, or change the state of the shell;
- commands that end loops, functions and the shell.

Does not own: commands that run other commands.
-/

namespace ResourceScaffold.Shell

open Work

namespace Builtin

/-! ## Parts of commands -/

/-- Prints something, as the code of a command that would end with a code of its own. -/
def say (text : Bytes) (code : Nat) : Work Nat := do
  if ← write 1 text then return code
  else
    report (((← get).running).getD [] ++ ": I/O error".toList)
    return max code 1

def numberOf (text : Bytes) : Work Nat := do
  match integerOf? false text with
  | some number =>
      if 0 ≤ number ∧ number ≤ 2147483647 then return number.toNat
      else fail ("Illegal number: ".toList ++ text)
  | none => fail ("Illegal number: ".toList ++ text)

def refuseOption {α : Type} (letter : Bytes) : Work α :=
  fail ("Illegal option -".toList ++ letter)

/-- The letters of the options in front of the arguments, and the arguments after them. -/
def optionsIn : List Bytes → Bytes × List Bytes
  | [] => ([], [])
  | text :: rest =>
      match text with
      | ['-', '-'] => ([], rest)
      | '-' :: letter :: letters =>
          let others := optionsIn rest
          (letter :: letters ++ others.1, others.2)
      | _ => ([], text :: rest)

def knownOptions (known : Bytes) (arguments : List Bytes) : Work (Bytes × List Bytes) := do
  let (letters, rest) := optionsIn arguments
  match letters.find? fun letter => !known.contains letter with
  | some letter => refuseOption [letter]
  | none => return (letters, rest)

def splitAssignment (argument : Bytes) : Bytes × Option Bytes :=
  match argument.dropWhile (· ≠ '=') with
  | _ :: value => (argument.takeWhile (· ≠ '='), some value)
  | [] => (argument, none)

def checkName (name : Bytes) : Work Unit :=
  if isName name then pure () else fail (name ++ ": bad variable name".toList)

/-- A text after an opening quote, up to a closing one. Quotes inside of it stand between quotes of
the other kind, which are open if `isInside`. -/
def quotedRest : Bool → Bytes → Bytes
  | isInside, [] => [if isInside then '"' else '\'']
  | isInside, character :: rest =>
      if character = '\'' then
        (if isInside then ['\''] else ['\'', '"', '\'']) ++ quotedRest true rest
      else (if isInside then ['"', '\'', character] else [character]) ++ quotedRest false rest

/-- A text between quotes, as the shell would read it again. -/
def quotedText (text : Bytes) : Bytes :=
  '\'' :: quotedRest false text

/-! ## Printing and testing -/

def printByFormat (arguments : List Bytes) : Work Nat := do
  let (_, rest) ← knownOptions [] arguments
  match rest with
  | [] => fail "usage: printf format [arg ...]".toList
  | format :: values =>
      let printed := printf format values
      printed.warnings.forM report
      let code ← say printed.output (if printed.warnings.isEmpty then 0 else 1)
      match printed.refusal with
      | some reason => fail reason
      | none => return code

/-- Whether a file is of the kind of a letter. No file can be executed. -/
def isOfKind (state : State) (letter : Char) (name : Bytes) : Bool :=
  let path := state.directory.join ⟨textOf name⟩
  if name = voidName then ['e', 'c', 'r', 'w'].contains letter
  else
    match state.files.status path with
    | .error _ => false
    | .ok .directory => ['e', 'd', 'r', 'w', 'x', 's', 'O', 'G'].contains letter
    | .ok (.file content) =>
        ['e', 'f', 'r', 'w', 'O', 'G'].contains letter || (letter = 's' && !content.isEmpty)

def test (arguments : List Bytes) : Work Nat := do
  match conditionHolds (isOfKind (← get)) 8 arguments with
  | .ok holds => return if holds then 0 else 1
  | .error reason => fail reason

def bracket (arguments : List Bytes) : Work Nat :=
  if arguments.getLast? = some [']'] then test arguments.dropLast
  else fail "missing ]".toList

/-! ## Directories -/

def fullName (files : FileTree) (directory : Path) : Bytes :=
  let location := (files.locate directory).toOption.getD files.workingDirectory
  '/' :: Bytes.joined ['/'] (location.map Bytes.ofString)

def printDirectory (_ : List Bytes) : Work Nat := do
  let state ← get
  say (fullName state.files state.directory ++ ['\n']) 0

def changeDirectory (arguments : List Bytes) : Work Nat := do
  let (_, rest) ← knownOptions ['L', 'P'] arguments
  let before := fullName (← get).files (← get).directory
  let (target, isShown) ←
    match rest with
    | [] => pure ((← value? "HOME".toList).getD [], false)
    | ['-'] :: _ => pure ((← value? "OLDPWD".toList).getD before, true)
    | name :: _ => pure (name, false)
  if target.isEmpty then return 0
  else
    let path ← pathOf target
    if (← get).files.isDirectory path then
      modify fun state => { state with directory := path }
      assign "OLDPWD".toList before
      let after := fullName (← get).files path
      assign "PWD".toList after
      if isShown then say (after ++ ['\n']) 0 else return 0
    else fail ("can't cd to ".toList ++ target)

/-! ## Variables -/

def insertByName (entry : Bytes × Variable) :
    List (Bytes × Variable) → List (Bytes × Variable)
  | [] => [entry]
  | other :: rest =>
      if entry.1 < other.1 then entry :: other :: rest else other :: insertByName entry rest

def assignmentsText (word : Bytes) (isOfKind : Variable → Bool) : Work Bytes := do
  let sorted := (← get).table.foldr insertByName []
  return (sorted.filter fun entry => isOfKind entry.2).flatMap fun entry =>
    let value :=
      match entry.2.value with
      | some text => '=' :: quotedText text
      | none => []
    word ++ entry.1 ++ value ++ ['\n']

def markAll (mark : Variable → Variable) : List Bytes → Work Unit
  | [] => return
  | argument :: rest => do
      let (name, value) := splitAssignment argument
      checkName name
      match value with
      | some text => assign name text
      | none => pure ()
      put name (mark ((← stored? name).getD ⟨none, false, false⟩))
      markAll mark rest

def markOrShow (word : String) (mark : Variable → Variable) (hasMark : Variable → Bool)
    (arguments : List Bytes) : Work Nat := do
  let (letters, rest) ← knownOptions ['p'] arguments
  if rest.isEmpty ∨ letters.contains 'p' then
    say (← assignmentsText (word.toList ++ [' ']) hasMark) 0
  else
    markAll mark rest
    return 0

def exportAll : List Bytes → Work Nat :=
  markOrShow "export" (fun content => { content with isExported := true }) Variable.isExported

def fixAll : List Bytes → Work Nat :=
  markOrShow "readonly" (fun content => { content with isReadonly := true }) Variable.isReadonly

def unset (arguments : List Bytes) : Work Nat := do
  let (letters, rest) ← knownOptions ['f', 'v'] arguments
  rest.forM fun name => do
    if letters.getLast? = some 'f' then
      modify fun state => { state with functions := Association.erase name state.functions }
    else
      checkName name
      if (← stored? name).any Variable.isReadonly then fail (name ++ ": is read only".toList)
      else modify fun state => { state with table := Association.erase name state.table }
  return 0

/-- Makes variables belong to the function that is running. They keep their values at first. -/
def makeLocal : List Bytes → Work Nat
  | [] => return 0
  | argument :: rest => do
      let state ← get
      match state.hidden with
      | none => fail "not in a function".toList
      | some hidden =>
          let (name, value) := splitAssignment argument
          checkName name
          if (hidden.lookup name).isNone then
            set { state with hidden := some ((name, state.table.lookup name) :: hidden) }
          match value with
          | some text => assign name text
          | none => pure ()
          makeLocal rest

/-! ## Options and arguments -/

def optionNames : List (String × Char) :=
  [("errexit", 'e'), ("noglob", 'f'), ("ignoreeof", 'I'), ("interactive", 'i'), ("monitor", 'm'),
    ("noexec", 'n'), ("stdin", 's'), ("xtrace", 'x'), ("verbose", 'v'), ("vi", 'V'),
    ("emacs", 'E'), ("noclobber", 'C'), ("allexport", 'a'), ("notify", 'b'), ("nounset", 'u'),
    ("privileged", 'p'), ("nolog", ' '), ("debug", ' ')]

/-- Options with one of them set, if there is one with the letter. Some have no effect. -/
def setLetter? (options : Options) (isOn : Bool) (letter : Char) : Option Options :=
  match letter with
  | 'e' => some { options with stopsOnFailure := isOn }
  | 'f' => some { options with ignoresPatterns := isOn }
  | 'n' => some { options with executesNothing := isOn }
  | 'x' => some { options with traces := isOn }
  | 'C' => some { options with keepsFiles := isOn }
  | 'a' => some { options with exportsAll := isOn }
  | 'u' => some { options with refusesUnset := isOn }
  | _ => if optionNames.any fun entry => entry.2 = letter then some options else none

def optionsText (options : Options) (asCommands : Bool) : Bytes :=
  let isOn (letter : Char) : Bool := options.letters.contains letter
  let lines := optionNames.map fun entry =>
    let name := entry.1.toList
    if asCommands then
      "set ".toList ++ (if isOn entry.2 then ['-', 'o', ' '] else ['+', 'o', ' ']) ++ name
    else
      name ++ List.replicate (16 - name.length) ' ' ++
        (if isOn entry.2 then "on".toList else "off".toList)
  let title := if asCommands then [] else "Current option settings\n".toList
  title ++ lines.flatMap fun line => line ++ ['\n']

def setLetters (isOn : Bool) : Bytes → Work Unit
  | [] => return
  | letter :: rest => do
      let state ← get
      match setLetter? state.options isOn letter with
      | some options =>
          set { state with options }
          setLetters isOn rest
      | none => refuseOption [letter]

def setNamed (isOn : Bool) (name : Bytes) : Work Unit :=
  match optionNames.find? fun entry => entry.1.toList = name with
  | some entry => if entry.2 = ' ' then pure () else setLetters isOn [entry.2]
  | none => refuseOption ('o' :: ' ' :: name)

/-- What was read of the options in front of arguments: whether the letters for a script and for the
input were among them, the arguments that are left, and whether they were set off. -/
structure OptionsRead where
  hasScript : Bool := false
  readsInput : Bool := false
  rest : List Bytes
  isSetOff : Bool := false

/-- Sets the options in front of arguments. The letter for a script is known only at the start of a
shell. -/
def readOptions (isStart : Bool) : List Bytes → Work OptionsRead
  | [] => return { rest := [] }
  | argument :: rest => do
      match argument with
      | sign :: letters =>
          if sign ≠ '-' ∧ sign ≠ '+' then return { rest := argument :: rest }
          else if argument = ['-', '-'] then return { rest, isSetOff := true }
          else if argument = ['-'] then
            setLetters false ['x', 'v']
            return { rest }
          else
            let isScript := isStart && letters.contains 'c'
            let isInput := isStart && letters.contains 's'
            setLetters (sign = '-')
              (letters.filter fun letter => letter ≠ 'o' ∧ !(isStart ∧ letter = 'c'))
            let after ←
              if !letters.contains 'o' then readOptions isStart rest
              else
                match rest with
                | name :: others =>
                    setNamed (sign = '-') name
                    readOptions isStart others
                | [] =>
                    let _ ← say (optionsText (← get).options (sign = '+')) 0
                    pure { rest := [] }
            return { after with
              hasScript := isScript || after.hasScript
              readsInput := isInput || after.readsInput }
      | [] => return { rest := argument :: rest }

def setAll (arguments : List Bytes) : Work Nat := do
  if arguments.isEmpty then say (← assignmentsText [] fun content => content.value.isSome) 0
  else
    let after ← readOptions false arguments
    if !after.rest.isEmpty ∨ after.isSetOff then
      modify fun state => { state with arguments := after.rest }
    return 0

def shift (arguments : List Bytes) : Work Nat := do
  let count ←
    match arguments with
    | [] => pure 1
    | text :: _ => numberOf text
  let state ← get
  if state.arguments.length < count then fail "can't shift that many".toList
  else
    set { state with arguments := state.arguments.drop count }
    return 0

/-! ## Reading -/

/-- A line that was read: its characters and whether a backslash hid their meaning, what follows
the line, and whether the line was ended. -/
structure LineRead where
  characters : List (Char × Bool) := []
  rest : Bytes := []
  isEnded : Bool := false

def LineRead.cons (line : LineRead) (character : Char) (isHidden : Bool) : LineRead :=
  { line with characters := (character, isHidden) :: line.characters }

/-- Reads a line. A backslash hides the character after it, and takes a line end away. -/
def lineOf (isRaw : Bool) : Bytes → LineRead
  | [] => {}
  | '\n' :: rest => { rest, isEnded := true }
  | '\\' :: next :: rest =>
      if isRaw then (lineOf isRaw (next :: rest)).cons '\\' false
      else if next = '\n' then lineOf isRaw rest
      else (lineOf isRaw rest).cons next true
  | character :: rest => (lineOf isRaw rest).cons character false

/-- The values for a number of variables. Separators between them fall away; the last one takes all
that is left, without white space at its end. -/
def valuesOf (separators : Bytes) : Nat → List (Char × Bool) → List Bytes
  | 0, _ => []
  | count + 1, characters =>
      let separates (item : Char × Bool) : Bool := !item.2 && separators.contains item.1
      let isBlank (item : Char × Bool) : Bool :=
        separates item && (item.1 = ' ' || item.1 = '\t' || item.1 = '\n')
      let start := characters.dropWhile isBlank
      if count = 0 then [(start.reverse.dropWhile isBlank).reverse.map Prod.fst]
      else
        let value := start.takeWhile fun item => !separates item
        let gap := (start.drop value.length).dropWhile isBlank
        let rest := if gap.head?.any separates then gap.drop 1 else gap
        value.map Prod.fst :: valuesOf separators count rest

def read (arguments : List Bytes) : Work Nat := do
  let (letters, names) ← knownOptions ['r'] arguments
  if names.isEmpty then fail "arg count".toList
  else
    names.forM checkName
    let line := lineOf (letters.contains 'r') (← readAll 0)
    putBack 0 line.rest
    let values := valuesOf (← separators) names.length line.characters
    (names.zip values).forM fun entry => assign entry.1 entry.2
    return if line.isEnded then 0 else 1

/-! ## Signals -/

def trapText (trap : Nat × Bytes) : Bytes :=
  "trap -- ".toList ++ quotedText trap.2 ++ ' ' :: signalName trap.1 ++ ['\n']

def setTraps (action : Option Bytes) : List Bytes → Work Nat
  | [] => return 0
  | name :: rest => do
      match signalOf? name with
      | none =>
          let _ ← write 2 ("trap: ".toList ++ name ++ ": bad trap\n".toList)
          return 1
      | some signal =>
          modify fun state =>
            { state with
              traps :=
                match action with
                | some text => Association.set signal text state.traps
                | none => Association.erase signal state.traps }
          setTraps action rest

def trap (arguments : List Bytes) : Work Nat := do
  let (_, rest) ← knownOptions [] arguments
  match rest with
  | [] =>
      let traps := (← get).traps
      let sorted := (List.range signalLimit).filterMap fun signal =>
        (traps.lookup signal).map fun text => trapText (signal, text)
      say sorted.flatten 0
  | [name] => setTraps none [name]
  | first :: names =>
      if first.all Char.isDigit ∧ (signalOf? first).isSome then setTraps none rest
      else setTraps (if first = ['-'] then none else some first) names

def killUsage : Bytes :=
  "Usage: kill [-s sigspec | -signum | -sigspec] [pid | job]... or\nkill -l [exitstatus]".toList

/-- Sends a signal to the process with a number. No process but the shell can be found. -/
def sendSignal (signal : Nat) (process : Bytes) : Work Nat := do
  let _ ← numberOf (process.dropWhile (· = '-'))
  if process = processNumber then
    modify fun state => { state with pending := state.pending ++ [signal] }
    return 0
  else
    report "No such process\n".toList
    return 1

def sendSignals (signal : Nat) : List Bytes → Work Nat
  | [] => return 0
  | process :: rest => do
      let code ← sendSignal signal process
      return max code (← sendSignals signal rest)

def sendToAll (signal : Nat) (processes : List Bytes) : Work Nat :=
  if processes.isEmpty then fail killUsage else sendSignals signal processes

def showSignals : List Bytes → Work Nat
  | [] => do
      let names := (List.range signalLimit).drop 1 |>.map signalName
      say (Bytes.joined ['\n'] (['0'] :: names) ++ ['\n']) 0
  | text :: _ => do say (signalName ((← numberOf text) % 128) ++ ['\n']) 0

def sendNamed : List Bytes → Work Nat
  | [] => fail "No arg for -s option".toList
  | name :: processes =>
      match signalOf? name with
      | some signal => sendToAll signal processes
      | none => fail ("invalid signal number or name: ".toList ++ name)

def kill : List Bytes → Work Nat
  | [] => fail killUsage
  | first :: rest =>
      if first = ['-', 'l'] then showSignals rest
      else if first = ['-', 's'] then sendNamed rest
      else if first.head? = some '-' then
        match signalOf? (first.drop 1) with
        | some signal => sendToAll signal rest
        | none => refuseOption ((first.drop 1).take 1)
      else sendSignals 15 (first :: rest)

/-! ## Ends -/

/-- Ends the shell with a code, or with the code of the last command. -/
def exit (arguments : List Bytes) : Work Nat := do
  match arguments with
  | [] => modify fun state => { state with code := state.codeBefore.getD state.code }
  | text :: _ =>
      let code ← numberOf text
      modify fun state => { state with code, codeBefore := state.codeBefore.map fun _ => code }
  throw .exit

/-- Ends a function or a script with a code, or with the code of the last command. -/
def finish (arguments : List Bytes) : Work Nat := do
  match arguments with
  | [] => pure ()
  | text :: _ => setCode (← numberOf text)
  throw .finish

/-- Ends a pass of loops. Without a loop there is nothing to end. -/
def endLoops (stop : Nat → Stop) (arguments : List Bytes) : Work Nat := do
  let levels ←
    match arguments with
    | [] => pure 1
    | text :: _ =>
        let number ← numberOf text
        if number = 0 then fail ("Illegal number: ".toList ++ text) else pure number
  let loops := (← get).loops
  if loops = 0 then return 0
  else
    setCode 0
    throw (stop (min levels loops))

/-! ## Other commands -/

/-- Waits for processes. All of them have ended. -/
def wait (arguments : List Bytes) : Work Nat := do
  match arguments with
  | [] => return 0
  | _ =>
      arguments.forM fun text => do
        let _ ← numberOf text
      return 127

/-- Shows the rights that new files do not get. -/
def rights (arguments : List Bytes) : Work Nat :=
  if arguments.isEmpty then say "0022\n".toList 0 else pure 0

/-- Shows the time that was used, of which nothing is known. -/
def times (_ : List Bytes) : Work Nat :=
  say "0m0.000000s 0m0.000000s\n0m0.000000s 0m0.000000s\n".toList 0

def nothing (_ : List Bytes) : Work Nat :=
  return 0

def table : List (String × (List Bytes → Work Nat)) :=
  [(":", nothing), ("true", nothing), ("false", fun _ => return 1),
    ("echo", fun arguments => say (shellEcho arguments) 0), ("printf", printByFormat),
    ("test", test), ("[", bracket), ("pwd", printDirectory), ("cd", changeDirectory),
    ("chdir", changeDirectory), ("export", exportAll), ("readonly", fixAll), ("unset", unset),
    ("local", makeLocal), ("set", setAll), ("shift", shift), ("read", read), ("trap", trap),
    ("kill", kill), ("exit", exit), ("return", finish), ("break", endLoops .leave),
    ("continue", endLoops .again), ("wait", wait), ("umask", rights), ("times", times),
    ("hash", nothing), ("jobs", nothing), ("alias", nothing), ("unalias", nothing)]

def find? (name : Bytes) : Option (List Bytes → Work Nat) :=
  (table.find? fun entry => entry.1.toList = name).map Prod.snd

end Builtin

end ResourceScaffold.Shell

import ResourceScaffold.Shell.Token

/-!
Contract: reading shell scripts.

Owns:
- simple commands, compound commands and functions;
- how commands are joined;
- reading a script line by line.

Does not own: the tokens of a script, and what commands do.
-/

namespace ResourceScaffold.Shell

open Parsing

/-! ## What a command is made of -/

/-- Where a list of commands ends: at the end of a line, in front of a token that ends a compound
command, or in front of any token that is no command. The last kind may be empty. -/
inductive ListKind where
  | line
  | body
  | branch
deriving DecidableEq, Repr

/-- Readers of nested commands. -/
structure Nested where
  list : ListKind → Parsing Command
  command : Parsing Command

def Nested.script (nested : Nested) : Parsing Command :=
  nested.list .branch

def Nested.plainToken (nested : Nested) : Parsing Token :=
  readToken nested.script false false

def Nested.token (nested : Nested) : Parsing Token :=
  readToken nested.script false true

def Nested.tokenPastLines (nested : Nested) : Parsing Token :=
  readToken nested.script true true

def Token.isReserved (token : Token) (text : String) : Bool :=
  match token with
  | .reserved found => found = text.toList
  | _ => false

def Nested.expect (nested : Nested) (text : String) : Parsing Unit := do
  let token ← nested.token
  if !token.isReserved text then unexpected (some (.reserved text.toList))

/-! ## Redirections -/

/-- The text that a mark spells when the quotes are taken away from it. Parameters in it have no
meaning. -/
def markText : Word → Bytes
  | [] => []
  | .character value :: rest => value :: markText rest
  | .quoted value :: rest => value :: markText rest
  | .parameter name _ _ :: rest => '$' :: name ++ markText rest
  | _ :: rest => markText rest

def hasQuotes (word : Word) : Bool :=
  word.any fun piece =>
    match piece with
    | .quoted _ => true
    | .quotes => true
    | _ => false

def readTarget (nested : Nested) (descriptor : Nat) (kind : RedirectionKind) :
    Parsing Redirection := do
  match ← nested.plainToken with
  | .word word =>
      match kind with
      | .file mode => return .file descriptor mode word
      | .duplicate => return .duplicate descriptor word
      | .document stripsTabs =>
          let reading ← get
          let number := reading.documents.length + reading.awaited.length
          let awaited : Awaited := ⟨number, markText word, hasQuotes word, stripsTabs⟩
          set { reading with awaited := reading.awaited ++ [awaited] }
          return .document descriptor number
  | _ => unexpected none

def readRedirections (nested : Nested) : Nat → Parsing (List Redirection)
  | 0 => fault "Script too long"
  | steps + 1 => do
      match ← nested.token with
      | .redirection descriptor kind =>
          let redirection ← readTarget nested descriptor kind
          return redirection :: (← readRedirections nested steps)
      | _ =>
          takeBack
          return []

/-! ## Simple commands -/

/-- The parts of a simple command. -/
structure SimpleParts where
  assignments : List (Bytes × Word) := []
  words : List Word := []
  redirections : List Redirection := []

/-- The characters at the start of a word that can make up a name, and the rest of the word. -/
def leadingName : Word → Bytes × Word
  | .character value :: rest =>
      if continuesName value then
        let found := leadingName rest
        (value :: found.1, found.2)
      else ([], .character value :: rest)
  | word => ([], word)

/-- The name of the variable that a word assigns to, and the word of the value. -/
def assignmentOf? (word : Word) : Option (Bytes × Word) :=
  match leadingName word with
  | (name, .character '=' :: value) => if isName name then some (name, value) else none
  | _ => none

def specialCommands : List Bytes :=
  [".", ":", "break", "continue", "eval", "exec", "exit", "export", "readonly", "return", "set",
    "shift", "times", "trap", "unset", "local"].map String.toList

def isFunctionName (name : Bytes) : Bool :=
  isName name && !specialCommands.contains name

/-- Reads the rest of a function after its name and the parenthesis that follows it. -/
def readFunction (nested : Nested) (word : Word) : Parsing Command := do
  match ← nested.plainToken with
  | .rightParenthesis =>
      match plainText? word with
      | some name =>
          if isFunctionName name then
            let _ ← nested.tokenPastLines
            takeBack
            return .define name (← nested.command)
          else fault "Bad function name"
      | none => fault "Bad function name"
  | _ => unexpected (some .rightParenthesis)

/-- Reads the rest of a simple command or a function, within a number of steps. -/
def readSimple (nested : Nested) (line : Nat) : Nat → SimpleParts → Parsing Command
  | 0, _ => fault "Script too long"
  | steps + 1, parts => do
      let finish : Parsing Command := do
        takeBack
        return .simple line parts.assignments parts.words parts.redirections
      match ← nested.plainToken with
      | .word word =>
          match parts.words, assignmentOf? word with
          | [], some assignment =>
              readSimple nested line steps
                { parts with assignments := parts.assignments ++ [assignment] }
          | _, _ => readSimple nested line steps { parts with words := parts.words ++ [word] }
      | .redirection descriptor kind =>
          let redirection ← readTarget nested descriptor kind
          readSimple nested line steps
            { parts with redirections := parts.redirections ++ [redirection] }
      | .leftParenthesis =>
          match parts with
          | ⟨[], [word], []⟩ => readFunction nested word
          | _ => finish
      | _ => finish

/-! ## Compound commands -/

/-- Reads a condition after `if` or `elif`, within a number of steps, up to its last part. -/
def readConditional (nested : Nested) : Nat → Parsing Command
  | 0 => fault "Script too long"
  | steps + 1 => do
      let condition ← nested.list .body
      nested.expect "then"
      let body ← nested.list .body
      let token ← nested.token
      if token.isReserved "elif" then
        return .conditional condition body (← readConditional nested steps)
      else if token.isReserved "else" then
        return .conditional condition body (← nested.list .body)
      else
        takeBack
        return .conditional condition body .empty

def readWords (nested : Nested) : Nat → Parsing (List Word)
  | 0 => fault "Script too long"
  | steps + 1 => do
      match ← nested.plainToken with
      | .word word => return word :: (← readWords nested steps)
      | _ => return []

def allArguments : Word :=
  [.parameter ['@'] .value true]

def readForEach (nested : Nested) (line : Nat) : Parsing Command := do
  let name ←
    match ← nested.plainToken with
    | .word word =>
        match plainText? word with
        | some name => if isName name then pure name else fault "Bad for loop variable"
        | none => fault "Bad for loop variable"
    | _ => fault "Bad for loop variable"
  let token ← nested.tokenPastLines
  let words ←
    if token.isReserved "in" then
      let words ← readWords nested (← stepsLeft)
      match (← get).last with
      | .newline => pure words
      | .semicolon => pure words
      | _ => unexpected none
    else
      match token with
      | .semicolon => pure [allArguments]
      | _ =>
          takeBack
          pure [allArguments]
  let _ ← nested.tokenPastLines
  takeBack
  nested.expect "do"
  let body ← nested.list .body
  return .forEach line name words body

/-- Reads the patterns of a branch up to the closing parenthesis, within a number of steps. The
first token has been read. -/
def readPatterns (nested : Nested) : Nat → Token → Parsing (List Word)
  | 0, _ => fault "Script too long"
  | steps + 1, token => do
      let pattern : Word :=
        match token with
        | .word word => word
        | .reserved text => text.map Piece.character
        | _ => []
      match ← nested.plainToken with
      | .pipe => return pattern :: (← readPatterns nested steps (← nested.plainToken))
      | .rightParenthesis => return [pattern]
      | _ => unexpected (some .rightParenthesis)

def readBranches (nested : Nested) : Nat → Parsing (List (List Word × Command))
  | 0 => fault "Script too long"
  | steps + 1 => do
      let first ← nested.tokenPastLines
      if first.isReserved "esac" then return []
      else
        let token ←
          match first with
          | .leftParenthesis => nested.plainToken
          | other => pure other
        let patterns ← readPatterns nested (← stepsLeft) token
        let body ← nested.list .branch
        let next ← nested.tokenPastLines
        if next.isReserved "esac" then return [(patterns, body)]
        else
          match next with
          | .branchEnd => return (patterns, body) :: (← readBranches nested steps)
          | _ => unexpected (some .branchEnd)

def readChoice (nested : Nested) (line : Nat) : Parsing Command := do
  match ← nested.plainToken with
  | .word subject =>
      let _ ← nested.tokenPastLines
      takeBack
      nested.expect "in"
      return .choice line subject (← readBranches nested (← stepsLeft))
  | _ => unexpected (some (.word []))

def readAfter (nested : Nested) (line : Nat) (command : Command) : Parsing Command := do
  match ← readRedirections nested (← stepsLeft) with
  | [] => return command
  | redirections => return .redirected line command redirections

def readCommand (nested : Nested) : Parsing Command := do
  let line := (← get).line
  let token ← nested.token
  match token with
  | .leftParenthesis =>
      let body ← nested.list .body
      match ← nested.plainToken with
      | .rightParenthesis => readAfter nested line (.subshell line body)
      | _ => unexpected (some .rightParenthesis)
  | .word _ =>
      takeBack
      readSimple nested (← get).line (← stepsLeft) {}
  | .redirection _ _ =>
      takeBack
      readSimple nested (← get).line (← stepsLeft) {}
  | .reserved _ =>
      if token.isReserved "if" then
        let command ← readConditional nested (← stepsLeft)
        nested.expect "fi"
        readAfter nested line command
      else if token.isReserved "while" ∨ token.isReserved "until" then
        let condition ← nested.list .body
        nested.expect "do"
        let body ← nested.list .body
        nested.expect "done"
        readAfter nested line (.loop (token.isReserved "until") condition body)
      else if token.isReserved "for" then
        let command ← readForEach nested line
        nested.expect "done"
        readAfter nested line command
      else if token.isReserved "case" then
        let command ← readChoice nested line
        readAfter nested line command
      else if token.isReserved "\x7b" then
        let body ← nested.list .body
        nested.expect "\x7d"
        readAfter nested line body
      else unexpected none
  | _ => unexpected none

/-! ## Lists of commands -/

def readPiped (nested : Nested) : Nat → Parsing (List Command)
  | 0 => fault "Script too long"
  | steps + 1 => do
      match ← nested.plainToken with
      | .pipe =>
          let _ ← nested.tokenPastLines
          takeBack
          let command ← readCommand nested
          return command :: (← readPiped nested steps)
      | _ =>
          takeBack
          return []

def readPipeline (nested : Nested) : Parsing Command := do
  let token ← nested.token
  let isNegated := token.isReserved "!"
  if !isNegated then takeBack
  let first ← readCommand nested
  let others ← readPiped nested (← stepsLeft)
  let pipeline : Command := if others.isEmpty then first else .pipeline (first :: others)
  return if isNegated then .negated pipeline else pipeline

/-- Reads further pipelines that run according to the one before, within a number of steps. -/
def readJoined (nested : Nested) : Nat → Command → Parsing Command
  | 0, _ => fault "Script too long"
  | steps + 1, first => do
      match ← nested.plainToken with
      | .andThen =>
          let _ ← nested.tokenPastLines
          takeBack
          readJoined nested steps (.both first (← readPipeline nested))
      | .orElse =>
          let _ ← nested.tokenPastLines
          takeBack
          readJoined nested steps (.either first (← readPipeline nested))
      | _ =>
          takeBack
          return first

def Command.before (next : Command) : Command → Command
  | .empty => next
  | first => .sequence first next

def Token.endsList : Token → Bool
  | .scriptEnd => true
  | .rightParenthesis => true
  | .branchEnd => true
  | .reserved text =>
      ["do", "done", "elif", "else", "esac", "fi", "then", "\x7d"].any fun word =>
        word.toList = text
  | _ => false

/-- Reads a list of commands after those read so far, within a number of steps. -/
def readList (nested : Nested) (kind : ListKind) : Nat → Bool → Command → Parsing Command
  | 0, _, _ => fault "Script too long"
  | steps + 1, mayEnd, read => do
      let token ← readToken nested.script (kind ≠ .line) true
      match token with
      | .newline =>
          readDocuments nested.script
          return read
      | .scriptEnd =>
          readDocuments nested.script
          takeBack
          return read
      | _ =>
          takeBack
          if mayEnd ∧ kind ≠ .line ∧ token.endsList then return read
          else
            let command ← readJoined nested (← stepsLeft) (← readPipeline nested)
            let next ← nested.plainToken
            let joined (command : Command) : Command := command.before read
            match next with
            | .newline =>
                takeBack
                readList nested kind steps true (joined command)
            | .scriptEnd =>
                takeBack
                readList nested kind steps true (joined command)
            | .ampersand => readList nested kind steps true (joined (.background command))
            | .semicolon => readList nested kind steps true (joined command)
            | _ =>
                if kind = .line then unexpected none
                else
                  takeBack
                  return joined command

mutual

/-- Reads a list of commands, nested no deeper than a number of levels. -/
def listWithin : Nat → ListKind → Parsing Command
  | 0, _ => fault "Script nested too deeply"
  | depth + 1, kind => do
      readList ⟨listWithin depth, commandWithin depth⟩ kind (← stepsLeft) (kind = .branch) .empty

def commandWithin : Nat → Parsing Command
  | 0 => fault "Script nested too deeply"
  | depth + 1 => readCommand ⟨listWithin depth, commandWithin depth⟩

end

/-! ## Scripts -/

/-- A part of a script that is run before the next one is read: its commands, and the state of
reading after it. There is none at the end of the script. -/
def readLine (reading : Reading) : Except SyntaxFault (Option (Command × Reading)) :=
  match listWithin (reading.rest.length + 2) .line { reading with isTakenBack := false } with
  | .error fault _ => .error fault
  | .ok command after =>
      match command, after.last with
      | .empty, .scriptEnd => .ok none
      | _, _ => .ok (some (command, after))

end ResourceScaffold.Shell

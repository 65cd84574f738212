import ResourceScaffold.CommandLine.Options

/-!
Contract: options read from the arguments of a command line.

Owns:
- the written forms of an argument;
- the options with their names and with the values they take;
- reading arguments from left to right.

Does not own: what is printed for help. A value may follow its option as an argument of its own;
such an option stays open until the next option begins.
-/

namespace ResourceScaffold.CommandLine

/-! ## Written forms -/

/-- An argument as it is written. -/
inductive Argument where
  /-- Two hyphens alone: no option follows. -/
  | separator
  /-- Two hyphens and a name, with an optional value after an equals sign. -/
  | long (name : List Char) (value : Option (List Char))
  | short (letters : List Char)
  | plain
deriving DecidableEq, Repr

def cutAtEquals (text : List Char) : List Char × Option (List Char) :=
  match text.dropWhile (· ≠ '=') with
  | _ :: value => (text.takeWhile (· ≠ '='), some value)
  | [] => (text, none)

def Argument.ofText : List Char → Argument
  | ['-', '-'] => .separator
  | '-' :: '-' :: rest => .long (cutAtEquals rest).1 (cutAtEquals rest).2
  | ['-'] => .plain
  | '-' :: letters => .short letters
  | _ => .plain

/-! ## Options -/

/-- An option that takes a value. -/
inductive ValueOption where
  | name
  | root
  | config
  | onConflict
deriving DecidableEq, Repr

/-- An option without a value. -/
inductive Switch where
  | dryRun
  | noVerify
  | help
  | version
deriving DecidableEq, Repr

/-- An option. -/
inductive Key where
  | takesValue (option : ValueOption)
  | switch (switch : Switch)
deriving DecidableEq, Repr

namespace Key

def longName : Key → String
  | takesValue .name => "name"
  | takesValue .root => "root"
  | takesValue .config => "config"
  | takesValue .onConflict => "on-conflict"
  | switch .dryRun => "dry-run"
  | switch .noVerify => "no-verify"
  | switch .help => "help"
  | switch .version => "version"

def letter? : Key → Option Char
  | takesValue .name => some 'n'
  | takesValue .config => some 'c'
  | switch .help => some 'h'
  | switch .version => some 'V'
  | _ => none

def all : List Key :=
  [takesValue .name, takesValue .root, takesValue .config, takesValue .onConflict,
    switch .dryRun, switch .noVerify, switch .help, switch .version]

def ofLongName? (name : List Char) : Option Key :=
  all.find? fun key => key.longName.toList = name

def ofLetter? (letter : Char) : Option Key :=
  all.find? fun key => key.letter? = some letter

end Key

/-! ## Options given -/

/-- What has been read so far: the options, those that were given, and an option whose value may
still follow or has followed as an argument of its own. -/
structure Progress where
  options : Options := {}
  given : List Key := []
  pending : Option (ValueOption × Option String) := none

namespace Progress

/-- Options with a value set. Only the name can be without one. -/
def withValue (options : Options) :
    ValueOption → Option String → Except UsageFault Options
  | .name, value => .ok { options with name := some value }
  | .root, some value =>
      if value = "" then .error .invalidValue else .ok { options with root := ⟨value⟩ }
  | .config, some value =>
      if value = "" then .error .invalidValue else .ok { options with config := some ⟨value⟩ }
  | .onConflict, some value =>
      match ConflictChoice.ofWord? value with
      | some choice => .ok { options with onConflict := choice }
      | none => .error .invalidValue
  | _, none => .error .invalidValue

/-- Takes an option with its value. No option may be given twice, and a value that is missing is
noticed before that, a wrong one after it. -/
def accept (progress : Progress) (option : ValueOption) (value : Option String) :
    Except Interruption Progress :=
  let key := Key.takesValue option
  if value.isNone ∧ option ≠ .name then .error (.misuse .invalidValue)
  else if key ∈ progress.given then .error (.misuse .repeatedOption)
  else
    match withValue progress.options option value with
    | .ok options => .ok { progress with options, given := key :: progress.given }
    | .error fault => .error (.misuse fault)

/-- Takes the option that is still open, if there is one. -/
def settle (progress : Progress) : Except Interruption Progress :=
  match progress.pending with
  | some (option, value) => { progress with pending := none }.accept option value
  | none => .ok progress

def attach (progress : Progress) (option : ValueOption) (value : List Char) :
    Except Interruption Progress := do
  let settled ← progress.settle
  settled.accept option (some (String.ofList value))

def begin (progress : Progress) (option : ValueOption) : Except Interruption Progress := do
  let settled ← progress.settle
  return { settled with pending := some (option, none) }

def withSwitch (options : Options) : Switch → Options
  | .dryRun => { options with dryRun := true }
  | .noVerify => { options with noVerify := true }
  | .help | .version => options

/-- Takes a switch. The first one that asks for help or for the version ends the reading. Help is
brief for the letter. -/
def turnOn (progress : Progress) (isLetter : Bool) (switch : Switch) :
    Except Interruption Progress := do
  let settled ← progress.settle
  match switch with
  | .help => .error (if isLetter then .briefHelp else .fullHelp)
  | .version => .error .version
  | .dryRun | .noVerify =>
      if Key.switch switch ∈ settled.given then .error (.misuse .repeatedOption)
      else
        .ok { settled with
          options := withSwitch settled.options switch
          given := .switch switch :: settled.given }

def takeLong (progress : Progress) (name : List Char) (value : Option (List Char)) :
    Except Interruption Progress :=
  match Key.ofLongName? name, value with
  | some (.takesValue option), some attached => progress.attach option attached
  | some (.takesValue option), none => progress.begin option
  | some (.switch _), some _ => .error (.misuse .needlessValue)
  | some (.switch switch), none => progress.turnOn false switch
  | none, _ => .error (.misuse .unknownArgument)

/-- Letters after that of an option are its value; an equals sign in front of it is left out. -/
def takeLetters (progress : Progress) : List Char → Except Interruption Progress
  | [] => .ok progress
  | letter :: rest =>
      match Key.ofLetter? letter with
      | some (.takesValue option) =>
          match rest with
          | [] => progress.begin option
          | '=' :: value => progress.attach option value
          | value => progress.attach option value
      | some (.switch switch) =>
          match progress.turnOn true switch with
          | .ok next => next.takeLetters rest
          | .error interruption => .error interruption
      | none => .error (.misuse .unknownArgument)

/-- Takes an argument that is no option: the value of the option in front of it, if that waits for
one. -/
def takePlain (progress : Progress) (argument : String) : Except Interruption Progress :=
  match progress.pending with
  | some (option, none) => .ok { progress with pending := some (option, some argument) }
  | _ => .error (.misuse .unknownArgument)

/-- Takes arguments one after the other. After the separator no argument is accepted. -/
def takeAll (progress : Progress) : List String → Except Interruption Progress
  | [] => progress.settle
  | argument :: rest =>
      match Argument.ofText argument.toList with
      | .separator =>
          match rest with
          | [] => progress.settle
          | _ :: _ => .error (.misuse .unknownArgument)
      | .long name value =>
          match progress.takeLong name value with
          | .ok next => next.takeAll rest
          | .error interruption => .error interruption
      | .short letters =>
          match progress.takeLetters letters with
          | .ok next => next.takeAll rest
          | .error interruption => .error interruption
      | .plain =>
          match progress.takePlain argument with
          | .ok next => next.takeAll rest
          | .error interruption => .error interruption

end Progress

end ResourceScaffold.CommandLine

namespace ResourceScaffold

def Options.ofArguments (arguments : List String) : Except Interruption Options :=
  (CommandLine.Progress.takeAll {} arguments).map CommandLine.Progress.options

end ResourceScaffold

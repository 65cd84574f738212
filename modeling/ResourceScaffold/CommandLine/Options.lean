import ResourceScaffold.Apply

/-!
Contract: the options of a run, as its command line gives them.

Owns:
- the choices for files that are there already;
- the options with their defaults;
- the ways in which a command line asks for something else than a run.

Does not own: how options are written.
-/

namespace ResourceScaffold

/-- What the user wants done about generated files that are there already. -/
inductive ConflictChoice where
  | fail
  | force
  | skip
  | backup
  /-- The user is asked. -/
  | ask
deriving DecidableEq, Repr

namespace ConflictChoice

def word : ConflictChoice → String
  | fail => "fail"
  | force => "force"
  | skip => "skip"
  | backup => "backup"
  | ask => "prompt"

def all : List ConflictChoice := [fail, force, skip, backup, ask]

def ofWord? (word : String) : Option ConflictChoice :=
  all.find? fun choice => choice.word = word

def policy? : ConflictChoice → Option OverwritePolicy
  | fail => some .fail
  | force => some .force
  | skip => some .skip
  | backup => some .backup
  | ask => none

theorem ofWord?_word (choice : ConflictChoice) : ofWord? choice.word = some choice := by
  cases choice <;> decide

end ConflictChoice

/-- The options of a run. A name can be asked for without being given. -/
structure Options where
  name : Option (Option String) := none
  root : Path := ⟨"."⟩
  config : Option Path := none
  onConflict : ConflictChoice := .force
  dryRun : Bool := false
  noVerify : Bool := false
deriving DecidableEq, Repr

namespace Options

def givenName (options : Options) : Option String :=
  options.name.join

end Options

/-- What is wrong with a command line. -/
inductive UsageFault where
  | unknownArgument
  | repeatedOption
  | invalidValue
  | needlessValue
deriving DecidableEq, Repr

/-- What a command line asks for if not for a run. -/
inductive Interruption where
  | briefHelp
  | fullHelp
  | version
  | misuse (fault : UsageFault)
deriving DecidableEq, Repr

end ResourceScaffold

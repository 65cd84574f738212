import ResourceScaffold.Shell.Bytes

/-!
Contract: the structure of a shell script after reading.

Owns:
- words as pieces that stand for themselves or are put in later;
- redirections;
- simple and compound commands.

Does not own: the written form of scripts, and what commands do.
-/

namespace ResourceScaffold.Shell

/-- How a file is opened for a redirection. Only the second way to write takes no heed of the option
that keeps files. -/
inductive OpenMode where
  | read
  | write
  | replace
  | append
  | readWrite
deriving DecidableEq, Repr

mutual

/-- A piece of a word. A pair of quotes makes a word even if nothing stands between them, so it
leaves a piece of its own. -/
inductive Piece where
  | character (value : Char)
  | quoted (value : Char)
  | quotes
  | parameter (name : Bytes) (use : Use) (isQuoted : Bool)
  | output (script : Command) (isQuoted : Bool)
  | arithmetic (expression : List Piece) (isQuoted : Bool)

/-- What is put in for a parameter. `orNull` says that an empty parameter counts as one that is not
set. -/
inductive Use where
  | value
  | length
  | default (orNull : Bool) (word : List Piece)
  | assigned (orNull : Bool) (word : List Piece)
  | replaced (orNull : Bool) (word : List Piece)
  | demanded (orNull : Bool) (word : List Piece)
  | trimmed (fromEnd longest : Bool) (pattern : List Piece)
  | invalid

/-- A redirection of a descriptor: to a file, to what another descriptor is connected to, or from a
text inside the script, which has a number. -/
inductive Redirection where
  | file (descriptor : Nat) (mode : OpenMode) (path : List Piece)
  | duplicate (descriptor : Nat) (target : List Piece)
  | document (descriptor number : Nat)

/-- A command. `empty` is what an empty script consists of. -/
inductive Command where
  | empty
  | simple (line : Nat) (assignments : List (Bytes × List Piece)) (words : List (List Piece))
      (redirections : List Redirection)
  | pipeline (commands : List Command)
  | negated (command : Command)
  | both (first second : Command)
  | either (first second : Command)
  | sequence (first second : Command)
  | background (command : Command)
  | conditional (condition body otherwise : Command)
  | loop (untilTrue : Bool) (condition body : Command)
  | forEach (line : Nat) (name : Bytes) (words : List (List Piece)) (body : Command)
  | choice (line : Nat) (subject : List Piece) (branches : List (List (List Piece) × Command))
  | subshell (line : Nat) (body : Command)
  | redirected (line : Nat) (body : Command) (redirections : List Redirection)
  | define (name : Bytes) (body : Command)

end

/-- A word before anything is put in. -/
abbrev Word := List Piece

def startsName (character : Char) : Bool :=
  character.isAlpha || character = '_'

def continuesName (character : Char) : Bool :=
  startsName character || character.isDigit

def isName : Bytes → Bool
  | first :: rest => startsName first && rest.all continuesName
  | [] => false

def plainText? : Word → Option Bytes
  | [] => some []
  | .character value :: rest => (plainText? rest).map (value :: ·)
  | _ => none

def quotedWord (text : Bytes) : Word :=
  text.map Piece.quoted

end ResourceScaffold.Shell

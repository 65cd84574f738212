import ResourceScaffold.Shell.Command

/-!
Contract: the tokens of a shell script.

Owns:
- words with their quotes, parameters and substitutions;
- operators, reserved words and the starts of redirections;
- texts inside the script that redirections read from;
- the state of reading, and the faults of a script.

Does not own: how tokens make up commands. Scripts inside of words are read by a given reader.
-/

namespace ResourceScaffold.Shell

/-! ## Tokens -/

/-- How a redirection goes on after its operator. -/
inductive RedirectionKind where
  | file (mode : OpenMode)
  | duplicate
  | document (stripsTabs : Bool)
deriving DecidableEq, Repr

/-- A token. -/
inductive Token where
  | scriptEnd
  | newline
  | semicolon
  | ampersand
  | andThen
  | orElse
  | pipe
  | leftParenthesis
  | rightParenthesis
  | branchEnd
  | redirection (descriptor : Nat) (kind : RedirectionKind)
  | word (word : Word)
  | reserved (word : Bytes)

def reservedWords : List Bytes :=
  ["!", "case", "do", "done", "elif", "else", "esac", "fi", "for", "if", "in", "then", "until",
    "while", "\x7b", "\x7d"].map String.toList

def Token.shown : Token → Bytes
  | scriptEnd => "end of file".toList
  | newline => "newline".toList
  | semicolon => "\";\"".toList
  | ampersand => "\"&\"".toList
  | andThen => "\"&&\"".toList
  | orElse => "\"||\"".toList
  | pipe => "\"|\"".toList
  | leftParenthesis => "\"(\"".toList
  | rightParenthesis => "\")\"".toList
  | branchEnd => "\";;\"".toList
  | redirection _ _ => "redirection".toList
  | word _ => "word".toList
  | reserved text => '"' :: text ++ ['"']

def Token.reserve : Token → Token
  | word pieces =>
      match plainText? pieces with
      | some text => if reservedWords.contains text then reserved text else word pieces
      | none => word pieces
  | other => other

/-! ## Reading -/

/-- Why a script cannot be read, and the line on which that shows. -/
structure SyntaxFault where
  line : Nat
  reason : Bytes
deriving DecidableEq, Repr

/-- A text that a redirection waits for. It follows on the lines after the redirection and ends with
a line that holds nothing but the mark. -/
structure Awaited where
  number : Nat
  mark : Bytes
  isLiteral : Bool
  stripsTabs : Bool

/-- The state of reading: what is left of the script, the number of the line, the last token and
whether it is to be taken again, the texts that are awaited, and the texts read so far. -/
structure Reading where
  rest : Bytes
  line : Nat := 1
  last : Token := .newline
  isTakenBack : Bool := false
  awaited : List Awaited := []
  documents : List (Nat × Word) := []

/-- A step of reading. -/
abbrev Parsing (α : Type) := EStateM SyntaxFault Reading α

namespace Parsing

variable {α : Type}

def fault (reason : String) : Parsing α := do
  throw ⟨(← get).line, reason.toList⟩

def unexpected (needed : Option Token) : Parsing α := do
  let reading ← get
  let needs :=
    match needed with
    | some token => " (expecting ".toList ++ token.shown ++ [')']
    | none => []
  throw ⟨reading.line, reading.last.shown ++ " unexpected".toList ++ needs⟩

/-- A number of steps that suffices to pass over what is left. -/
def stepsLeft : Parsing Nat := do
  return 2 * (← get).rest.length + 2

def takeBack : Parsing Unit :=
  modify fun reading => { reading with isTakenBack := true }

/-- A text without the line ends at its start that a backslash hides, and their number. -/
def dropHidden : Bytes → Bytes × Nat
  | '\\' :: '\n' :: rest =>
      let found := dropHidden rest
      (found.1, found.2 + 1)
  | text => (text, 0)

def peek : Parsing (Option Char) := do
  let reading ← get
  let (rest, lines) := dropHidden reading.rest
  set { reading with rest, line := reading.line + lines }
  return rest.head?

def advance : Parsing Unit :=
  modify fun reading =>
    { reading with
      rest := reading.rest.drop 1
      line := if reading.rest.head? = some '\n' then reading.line + 1 else reading.line }

/-- Passes over the next character if it is the given one, and says whether it is. -/
def passes (character : Char) : Parsing Bool := do
  if (← peek) = some character then
    advance
    return true
  else return false

def takeWhile (belongs : Char → Bool) : Nat → Parsing Bytes
  | 0 => return []
  | steps + 1 => do
      match ← peek with
      | some character =>
          if belongs character then
            advance
            return character :: (← takeWhile belongs steps)
          else return []
      | none => return []

end Parsing

open Parsing

/-! ## Words -/

/-- Where a piece of a word stands: inside double quotes, inside the braces of a parameter, inside
a text of a redirection, inside an arithmetic expression within so many parentheses, or inside
quotes within braces within quotes. -/
structure Place where
  isQuoted : Bool := false
  inBraces : Bool := false
  inDocument : Bool := false
  parentheses : Option Nat := none
  inInnerQuotes : Bool := false

def endsWord (character : Char) : Bool :=
  [' ', '\t', '\n', ';', '&', '|', '<', '>', '(', ')'].contains character

def isSign (character : Char) : Bool :=
  ['@', '*', '#', '?', '$', '!', '-'].contains character

/-- Whether a backslash in double quotes takes away the meaning of a character. -/
def Place.escapes (place : Place) (character : Char) : Bool :=
  character = '\\' || character = '`' || character = '$' ||
    (character = '"' && (!place.inDocument || place.inBraces)) ||
    (character = '\x7d' && place.inBraces)

def readSingle : Nat → Parsing Bytes
  | 0 => fault "Unterminated quoted string"
  | steps + 1 => do
      match (← get).rest with
      | [] => fault "Unterminated quoted string"
      | character :: _ =>
          advance
          if character = '\'' then return []
          else return character :: (← readSingle steps)

/-- The script between back quotes, within a number of steps. A backslash in front of a back quote,
a dollar sign or another backslash is dropped. -/
def readBackQuoted (isQuoted : Bool) : Nat → Parsing Bytes
  | 0 => fault "EOF in backquote substitution"
  | steps + 1 => do
      match ← peek with
      | none => fault "EOF in backquote substitution"
      | some character =>
          advance
          if character = '`' then return []
          else if character = '\\' then
            match (← get).rest with
            | [] => fault "EOF in backquote substitution"
            | next :: _ =>
                advance
                let dropped :=
                  next = '\\' || next = '`' || next = '$' || (next = '"' && isQuoted)
                let others ← readBackQuoted isQuoted steps
                return if dropped then next :: others else '\\' :: next :: others
          else return character :: (← readBackQuoted isQuoted steps)

/-- Reads a script that is given as a text of its own, with lines of its own. What follows its last
command is left out. -/
def readInside (script : Parsing Command) (text : Bytes) : Parsing Command := do
  let outer ← get
  set { outer with rest := text, line := 1 }
  let command ← script
  modify fun inner =>
    { inner with rest := outer.rest, line := outer.line, last := outer.last, isTakenBack := false }
  return command

def useOf? (orNull : Bool) (mark : Char) : Option (Word → Use) :=
  if mark = '-' then some (.default orNull)
  else if mark = '=' then some (.assigned orNull)
  else if mark = '+' then some (.replaced orNull)
  else if mark = '?' then some (.demanded orNull)
  else none

/-- Reads the name of a parameter in braces: whether its length is asked for, and the name. There
is no name if none is spelled. -/
def readBracedName : Parsing (Bool × Bytes) := do
  let steps ← stepsLeft
  match ← peek with
  | none => return (false, [])
  | some first =>
      if startsName first then return (false, ← takeWhile continuesName steps)
      else if first.isDigit then return (false, ← takeWhile Char.isDigit steps)
      else if first = '\x7d' then return (false, [])
      else
        advance
        if first = '#' then
          match ← peek with
          | none => return (false, ['#'])
          | some second =>
              if startsName second then return (true, ← takeWhile continuesName steps)
              else if second.isDigit then return (true, ← takeWhile Char.isDigit steps)
              else if second ≠ '\x7d' ∧ isSign second ∧ (← get).rest[1]? = some '\x7d' then
                advance
                return (true, [second])
              else return (false, ['#'])
        else if isSign first then return (false, [first])
        else return (false, [])

mutual

/-- Reads pieces of a word up to where it ends at a place, within a number of steps. The pieces
read so far are given last one first. -/
def readPieces (script : Parsing Command) : Nat → Place → Word → Parsing Word
  | 0, _, _ => fault "Word too long"
  | steps + 1, place, read => do
      match ← peek with
      | none =>
          if place.parentheses.isSome then fault "Missing '))'"
          else if place.isQuoted ∧ !place.inDocument then fault "Unterminated quoted string"
          else if place.inBraces then fault "Missing '\x7d'"
          else return read.reverse
      | some character =>
          let stays : Parsing Word := do
            advance
            readPieces script steps place
              ((if place.isQuoted then .quoted character else .character character) :: read)
          if character = '\x7d' ∧ place.inBraces ∧ !place.inInnerQuotes then
            advance
            return read.reverse
          else if character = '$' then
            advance
            let piece ← readDollar script steps place
            readPieces script steps place (piece :: read)
          else if character = '`' then
            advance
            let text ← readBackQuoted place.isQuoted (← stepsLeft)
            let command ← readInside script text
            readPieces script steps place (.output command place.isQuoted :: read)
          else if character = '\\' then
            advance
            match (← get).rest with
            | [] => readPieces script steps place (.quoted '\\' :: read)
            | next :: _ =>
                advance
                let kept : Word :=
                  if place.isQuoted && !place.escapes next then [.quoted next, .quoted '\\']
                  else [.quoted next]
                readPieces script steps place (kept ++ read)
          else if place.parentheses.isSome then
            readArithmetic script steps place read character
          else if character = '"' then
            if !place.isQuoted then
              advance
              let inside ← readPieces script steps { isQuoted := true } []
              let marked : Word :=
                match inside with
                | [.parameter ['@'] .value true] => inside
                | _ => .quotes :: inside
              readPieces script steps place (marked.reverse ++ read)
            else if place.inBraces then
              advance
              readPieces script steps { place with inInnerQuotes := !place.inInnerQuotes } read
            else if place.inDocument then stays
            else
              advance
              return read.reverse
          else if place.isQuoted then stays
          else if character = '\'' then
            advance
            let text ← readSingle (← stepsLeft)
            readPieces script steps place ((quotedWord text).reverse ++ .quotes :: read)
          else if endsWord character ∧ !place.inBraces then return read.reverse
          else stays

/-- Goes on inside an arithmetic expression at a character without a meaning of its own in words.
The expression ends with two closing parentheses. -/
def readArithmetic (script : Parsing Command) : Nat → Place → Word → Char → Parsing Word
  | 0, _, _, _ => fault "Word too long"
  | steps + 1, place, read, character => do
      let depth := place.parentheses.getD 0
      let goOn (depth : Nat) : Parsing Word :=
        readPieces script steps { place with parentheses := some depth }
          (.quoted character :: read)
      advance
      if character = '(' then goOn (depth + 1)
      else if character = ')' then
        if 0 < depth then goOn (depth - 1)
        else if ← passes ')' then return read.reverse
        else goOn depth
      else goOn depth

def readDollar (script : Parsing Command) : Nat → Place → Parsing Piece
  | 0, _ => fault "Word too long"
  | steps + 1, place => do
      let alone : Piece := if place.isQuoted then .quoted '$' else .character '$'
      match ← peek with
      | none => return alone
      | some character =>
          if character = '(' then
            advance
            if ← passes '(' then
              let expression ←
                readPieces script steps { isQuoted := true, parentheses := some 0 } []
              return .arithmetic expression place.isQuoted
            else
              let outer ← get
              set { outer with isTakenBack := false }
              let command ← script
              match (← get).last with
              | .rightParenthesis =>
                  modify fun inner => { inner with last := outer.last, isTakenBack := false }
                  return .output command place.isQuoted
              | _ => unexpected (some .rightParenthesis)
          else if character = '\x7b' then
            advance
            let (isLength, name) ← readBracedName
            readUse script steps place isLength name
          else if startsName character then
            let name ← takeWhile continuesName (← stepsLeft)
            return .parameter name .value place.isQuoted
          else if character.isDigit ∨ isSign character then
            advance
            return .parameter [character] .value place.isQuoted
          else return alone

/-- Reads how a parameter in braces is used, up to the closing brace, within a number of steps. -/
def readUse (script : Parsing Command) : Nat → Place → Bool → Bytes → Parsing Piece
  | 0, _, _, _ => fault "Word too long"
  | steps + 1, place, isLength, name => do
      let inner : Place :=
        { isQuoted := place.isQuoted, inBraces := true, inDocument := place.inDocument }
      let finish (use : Word → Use) (inside : Place) : Parsing Piece := do
        let word ← readPieces script steps inside []
        return .parameter name (use word) place.isQuoted
      let invalid : Parsing Piece := finish (fun _ => .invalid) inner
      if name.isEmpty then invalid
      else
        match ← peek with
        | none => invalid
        | some mark =>
            if isLength then
              if mark = '\x7d' then finish (fun _ => .length) inner else invalid
            else if mark = '\x7d' then
              advance
              return .parameter name .value place.isQuoted
            else if mark = ':' then
              advance
              match ← peek with
              | none => invalid
              | some next =>
                  advance
                  match useOf? true next with
                  | some use => finish use inner
                  | none => invalid
            else if mark = '%' ∨ mark = '#' then
              advance
              let longest ← passes mark
              finish (.trimmed (mark = '%') longest) { inBraces := true }
            else
              advance
              match useOf? false mark with
              | some use => finish use inner
              | none => invalid

end

/-- Reads a whole text as one word in which nothing but parameters and substitutions has a
meaning. -/
def readDocument (script : Parsing Command) (text : Bytes) : Parsing Word := do
  let outer ← get
  set { outer with rest := text }
  let word ← readPieces script (← stepsLeft) { isQuoted := true, inDocument := true } []
  modify fun inner => { inner with rest := outer.rest, line := outer.line }
  return word

/-! ## Texts for redirections -/

/-- The lines before a line that holds a mark alone, and what follows that line. -/
def takeDocument (awaited : Awaited) : Nat → Bytes → Bytes × Bytes
  | 0, text => ([], text)
  | _ + 1, [] => ([], [])
  | steps + 1, text =>
      let stripped := if awaited.stripsTabs then text.dropWhile (· = '\t') else text
      let line := stripped.takeWhile (· ≠ '\n')
      let rest := stripped.dropWhile (· ≠ '\n')
      if line = awaited.mark then ([], rest.drop 1)
      else
        let others := takeDocument awaited steps (rest.drop 1)
        (line ++ rest.take 1 ++ others.1, others.2)

def readAwaited (script : Parsing Command) : List Awaited → Parsing Unit
  | [] => return
  | awaited :: others => do
      let reading ← get
      let (text, rest) := takeDocument awaited (reading.rest.length + 1) reading.rest
      let passed := reading.rest.take (reading.rest.length - rest.length)
      let word ← if awaited.isLiteral then pure (quotedWord text) else readDocument script text
      modify fun inner =>
        { inner with
          rest
          line := reading.line + passed.count '\n'
          documents := inner.documents ++ [(awaited.number, word)] }
      readAwaited script others

def readDocuments (script : Parsing Command) : Parsing Unit := do
  let awaited := (← get).awaited
  modify fun reading => { reading with awaited := [] }
  readAwaited script awaited

/-! ## The next token -/

def skipBlanks : Nat → Parsing Unit
  | 0 => return
  | steps + 1 => do
      match ← peek with
      | some character =>
          if character = ' ' ∨ character = '\t' then
            advance
            skipBlanks steps
          else if character = '#' then
            modify fun reading => { reading with rest := reading.rest.dropWhile (· ≠ '\n') }
            skipBlanks steps
          else return
      | none => return

def readRedirection (descriptor : Option Nat) (mark : Char) : Parsing Token := do
  advance
  if mark = '>' then
    let kind : RedirectionKind ←
      if ← passes '>' then pure (.file .append)
      else if ← passes '|' then pure (.file .replace)
      else if ← passes '&' then pure .duplicate
      else pure (.file .write)
    return .redirection (descriptor.getD 1) kind
  else
    let kind : RedirectionKind ←
      if ← passes '<' then pure (.document (← passes '-'))
      else if ← passes '&' then pure .duplicate
      else if ← passes '>' then pure (.file .readWrite)
      else pure (.file .read)
    return .redirection (descriptor.getD 0) kind

/-- Reads a word, or the redirection whose descriptor the word turns out to be. -/
def readWordToken (script : Parsing Command) : Parsing Token := do
  let word ← readPieces script (← stepsLeft) {} []
  match ← peek with
  | some mark =>
      if mark = '<' ∨ mark = '>' then
        match word with
        | [] => readRedirection none mark
        | [.character digit] =>
            if digit.isDigit then readRedirection (some (digit.toNat - '0'.toNat)) mark
            else return .word word
        | _ => return .word word
      else return .word word
  | none => return .word word

def readNewToken (script : Parsing Command) : Parsing Token := do
  skipBlanks (← stepsLeft)
  match ← peek with
  | none => return .scriptEnd
  | some '\n' =>
      advance
      return .newline
  | some '&' =>
      advance
      return if ← passes '&' then .andThen else .ampersand
  | some '|' =>
      advance
      return if ← passes '|' then .orElse else .pipe
  | some ';' =>
      advance
      return if ← passes ';' then .branchEnd else .semicolon
  | some '(' =>
      advance
      return .leftParenthesis
  | some ')' =>
      advance
      return .rightParenthesis
  | some _ => readWordToken script

/-- The next token, which is the last one if that was taken back. -/
def readRawToken (script : Parsing Command) : Parsing Token := do
  let reading ← get
  if reading.isTakenBack then
    set { reading with isTakenBack := false }
    return reading.last
  else
    let token ← readNewToken script
    modify fun inner => { inner with last := token }
    return token

def readPastLines (script : Parsing Command) : Nat → Parsing Token
  | 0 => fault "Script too long"
  | steps + 1 => do
      match ← readRawToken script with
      | .newline =>
          readDocuments script
          readPastLines script steps
      | token => return token

/-- The next token. Line ends may be passed over, and reserved words may be found. -/
def readToken (script : Parsing Command) (pastLines findsReserved : Bool) : Parsing Token := do
  let token ←
    if pastLines then readPastLines script (← stepsLeft) else readRawToken script
  let settled := if findsReserved then token.reserve else token
  modify fun reading => { reading with last := settled }
  return settled

end ResourceScaffold.Shell

import ResourceScaffold.Template.Tree
import ResourceScaffold.Value.Json

/-!
Contract: the written form of tags.

Owns:
- identifiers, references, literals and calls inside a tag;
- the kinds of tags and how each is opened and closed.

Does not own: text between tags, and whether tags match each other.
-/

namespace ResourceScaffold.Template

open Text (Reader dropWord hexValue? takenBefore)

/-! ## Tags -/

/-- What a tag does. A literal that is no data value is kept as a fault of the tag. -/
inductive TagKind where
  | output (operand : Operand)
  | helper (call : Call)
  | openBlock (call : Call)
  | openRaw (call : Call)
  | openDecorator (call : Call)
  | decorate (call : Call)
  | embed (name : EmbeddedName) (arguments : List Operand) (options : List (String × Operand))
  | openEmbed (name : EmbeddedName) (arguments : List Operand)
      (options : List (String × Operand))
  | otherwise
  | otherwiseCall (call : Call)
  | close (name : String)
  | closeRaw (name : String)
  | comment

/-- A tag as written: what it does, whether it takes the white space before and after it away, and
the first literal in it that is no data value. -/
structure WrittenTag where
  kind : TagKind
  trimsBefore : Bool
  trimsAfter : Bool
  badLiteral : Option String

/-! ## Readers -/

def isTagBlank (character : Char) : Bool :=
  character = ' ' || character = '\t' || character = '\n' || character = '\r'

def skipTagBlanks (text : List Char) : List Char :=
  text.dropWhile isTagBlank

def dropToken (token text : List Char) : Option (List Char) :=
  dropWord token (skipTagBlanks text)

def dropTilde (text : List Char) : Bool × List Char :=
  match skipTagBlanks text with
  | '~' :: rest => (true, rest)
  | _ => (false, text)

/-- Whether a character may occur in a name: letters and digits, four marks, and whatever is not
ASCII. -/
def isSymbolChar (character : Char) : Bool :=
  character.isAlphanum || character = '_' || character = '-' || character = '$' ||
    character = ':' || 0x80 ≤ character.toNat

def isEmbeddedChar (character : Char) : Bool :=
  character.isAlphanum || character = '_' || character = '-' || character = '/' ||
    character = '.' || character = '@' || 0x80 ≤ character.toNat

def readWord (belongs : Char → Bool) (text : List Char) : Option (List Char × List Char) :=
  if (text.takeWhile belongs).isEmpty then none
  else some (text.takeWhile belongs, text.dropWhile belongs)

def readIdentifier : Reader (List Char) :=
  fun text => readWord isSymbolChar (skipTagBlanks text)

/-! ## References -/

def dropSeparator : List Char → Option (List Char)
  | '/' :: rest => some rest
  | '.' :: rest => some rest
  | _ => none

/-- Reads one part of a path. Only a part that names something has a name. -/
def readPathItem (text : List Char) : Option (Option (List Char) × List Char) :=
  match readWord isSymbolChar text with
  | some (name, rest) => some (if name = ['t', 'h', 'i', 's'] then none else some name, rest)
  | none =>
      match text with
      | '.' :: '/' :: rest => some (none, rest)
      | '[' :: rest =>
          match rest.dropWhile (· ≠ ']') with
          | _ :: after =>
              let name := rest.takeWhile (· ≠ ']')
              some (if name = ['t', 'h', 'i', 's'] then none else some name, after)
          | [] => none
      | _ => none

def readPathTail : Nat → List Char → List (List Char) × List Char
  | 0, text => ([], text)
  | steps + 1, text =>
      match dropSeparator text with
      | none => ([], text)
      | some afterSeparator =>
          match readPathItem afterSeparator with
          | none => ([], text)
          | some (name, rest) =>
              let tail := readPathTail steps rest
              (name.toList ++ tail.1, tail.2)

/-- Counts leading steps out of a block, within a number of steps. -/
def readLevels : Nat → List Char → Nat × List Char
  | 0, text => (0, text)
  | steps + 1, text =>
      match text with
      | '.' :: '.' :: separator :: rest =>
          if separator = '/' ∨ separator = '.' then
            let found := readLevels steps rest
            (found.1 + 1, found.2)
          else (0, text)
      | _ => (0, text)

def dropMarked (mark text : List Char) : Option (List Char) :=
  (dropWord mark text).bind dropSeparator

def dropCurrent (text : List Char) : List Char :=
  match dropMarked ['t', 'h', 'i', 's'] text with
  | some rest => rest
  | none =>
      match text with
      | '.' :: '/' :: rest => rest
      | _ => text

/-- Reads a reference. It holds no blanks. -/
def readReference (text : List Char) : Option (Reference × List Char) := do
  let afterCurrent := dropCurrent text
  let rooted := dropMarked ['@', 'r', 'o', 'o', 't'] afterCurrent
  let afterRoot := rooted.getD afterCurrent
  let isLocal := afterRoot.head? = some '@'
  let afterMark := if isLocal then afterRoot.drop 1 else afterRoot
  let levels := readLevels afterMark.length afterMark
  let (first, afterFirst) ← readPathItem levels.2
  let tail := readPathTail afterFirst.length afterFirst
  let names := (first.toList ++ tail.1).map String.ofList
  let named := isLocal && !names.isEmpty && rooted.isNone
  return ({ text := String.ofList (text.take (text.length - tail.2.length))
            fromRoot := rooted.isSome
            isLocal := named
            levels := if isLocal && !named then 0 else levels.1
            names := names }, tail.2)

/-! ## Literals -/

/-- What a literal is: a data value, or a text that looks like one and is none. -/
inductive Literal where
  | value (value : Value)
  | bad (text : String)

def endsName (text : List Char) : Bool :=
  !text.head?.any isSymbolChar

def readStringEscape (quote : Char) : Reader (List Char)
  | 'u' :: rest =>
      if 4 ≤ (rest.take 4).length ∧ (rest.take 4).all fun digit => (hexValue? digit).isSome then
        some ('u' :: rest.take 4, rest.drop 4)
      else none
  | mark :: rest =>
      if mark = quote ∨ (['\\', '/', 'b', 'f', 'n', 'r', 't'].contains mark) then
        some ([mark], rest)
      else none
  | [] => none

/-- Reads the inside of a string up to its closing quote, within a number of steps. The text
between the quotes is left as it is written. -/
def readInside (quote : Char) : Nat → Reader (List Char)
  | 0, _ => none
  | _ + 1, [] => none
  | steps + 1, character :: rest =>
      if character = quote then some ([], rest)
      else if character = '\\' then
        match readStringEscape quote rest with
        | none => none
        | some (escape, after) =>
            (readInside quote steps after).map fun found =>
              ('\\' :: escape ++ found.1, found.2)
      else
        (readInside quote steps rest).map fun found => (character :: found.1, found.2)

/-- Reads a quoted string. The text read includes the quotes. -/
def readQuoted : Reader (List Char)
  | quote :: rest =>
      if quote = '"' ∨ quote = '\'' then
        (readInside quote (rest.length + 1) rest).map fun found =>
          (quote :: found.1 ++ [quote], found.2)
      else none
  | [] => none

def readNumberExponent (text : List Char) : List Char × List Char :=
  match text with
  | 'E' :: '-' :: rest =>
      let digits := Numeral.digitsOf rest
      if digits.1.isEmpty then ([], text) else ('E' :: '-' :: digits.1, digits.2)
  | 'E' :: rest =>
      let digits := Numeral.digitsOf rest
      if digits.1.isEmpty then ([], text) else ('E' :: digits.1, digits.2)
  | _ => ([], text)

def readNumberText (text : List Char) : Option (List Char × List Char) :=
  let sign := if text.head? = some '-' then ['-'] else []
  let whole := Numeral.digitsOf (text.drop sign.length)
  if whole.1.isEmpty then none
  else
    let point := if whole.2.head? = some '.' then ['.'] else []
    let fraction := Numeral.digitsOf (whole.2.drop point.length)
    let exponent := readNumberExponent fraction.2
    if endsName exponent.2 then
      some (sign ++ whole.1 ++ point ++ fraction.1 ++ exponent.1, exponent.2)
    else none

def readWholeWord (word text : List Char) : Option (List Char × List Char) :=
  match dropWord word text with
  | some rest => if endsName rest then some (word, rest) else none
  | none => none

def readSimpleLiteral (text : List Char) : Option (List Char × List Char) :=
  readQuoted text <|> readNumberText text <|> readWholeWord ['n', 'u', 'l', 'l'] text <|>
    readWholeWord ['t', 'r', 'u', 'e'] text <|> readWholeWord ['f', 'a', 'l', 's', 'e'] text

mutual

/-- Passes over a literal of any kind, within a number of steps, and returns what follows it. -/
def passLiteral : Nat → List Char → Option (List Char)
  | 0, _ => none
  | steps + 1, text =>
      match text with
      | '[' :: rest => passItems steps true rest
      | '\x7b' :: rest => passFields steps true rest
      | _ => (readSimpleLiteral text).map Prod.snd

def passItems : Nat → Bool → List Char → Option (List Char)
  | 0, _, _ => none
  | steps + 1, atStart, text =>
      match skipTagBlanks text with
      | ']' :: rest => some rest
      | ',' :: rest =>
          match passLiteral steps (skipTagBlanks rest) with
          | some after => passItems steps false after
          | none => none
      | other =>
          if atStart then
            match passLiteral steps other with
            | some after => passItems steps false after
            | none => none
          else none

def passFields : Nat → Bool → List Char → Option (List Char)
  | 0, _, _ => none
  | steps + 1, atStart, text =>
      match skipTagBlanks text with
      | '\x7d' :: rest => some rest
      | ',' :: rest => passField steps (skipTagBlanks rest)
      | other => if atStart then passField steps other else none

def passField : Nat → List Char → Option (List Char)
  | 0, _ => none
  | steps + 1, text =>
      match readQuoted text with
      | none => none
      | some (_, afterKey) =>
          match skipTagBlanks afterKey with
          | ':' :: rest =>
              match passLiteral steps (skipTagBlanks rest) with
              | some after => passFields steps false after
              | none => none
          | _ => none

end

/-- The inside of a string in single quotes, respelled for double quotes. -/
def requote : List Char → List Char
  | [] => []
  | '\\' :: '\'' :: rest => '\'' :: requote rest
  | character :: rest =>
      if character = '"' then '\\' :: '"' :: requote rest else character :: requote rest

/-- The value of the text of a literal. A string in single quotes is respelled for double quotes
first. -/
def literalOf (text : List Char) : Literal :=
  let spelled :=
    if text.head? = some '\'' then '"' :: requote (text.drop 1).dropLast ++ ['"'] else text
  match Value.ofJson? spelled with
  | some value => .value value
  | none => .bad (String.ofList text)

def readLiteral (text : List Char) : Option (Literal × List Char) :=
  (passLiteral (2 * text.length + 2) text).map fun rest => (literalOf (takenBefore text rest), rest)

/-! ## Operands -/

/-- Operands and options in reading order, and the first literal among them that is no value. -/
structure Operands where
  arguments : List Operand
  options : List (String × Operand)
  badLiteral : Option String

def Operands.none : Operands := ⟨[], [], Option.none⟩

def Operands.consArgument (argument : Operand) (bad : Option String) (rest : Operands) : Operands :=
  { rest with arguments := argument :: rest.arguments, badLiteral := bad <|> rest.badLiteral }

/-- Puts an option in front, unless a later option has its key. -/
def Operands.consOption (key : String) (value : Operand) (bad : Option String)
    (rest : Operands) : Operands :=
  { rest with
    options :=
      if (rest.options.lookup key).isSome then rest.options else (key, value) :: rest.options
    badLiteral := bad <|> rest.badLiteral }

def startsWithKeyword (text : List Char) : Bool :=
  (readWholeWord ['a', 's'] text).isSome || (readWholeWord ['e', 'l', 's', 'e'] text).isSome

mutual

def readOperand : Nat → List Char → Option ((Operand × Option String) × List Char)
  | 0, _ => none
  | steps + 1, text =>
      let start := skipTagBlanks text
      if startsWithKeyword start then none
      else
        match readLiteral start with
        | some (.value value, rest) => some ((.literal value, none), rest)
        | some (.bad spelled, rest) => some ((.literal .null, some spelled), rest)
        | none =>
            match readReference start with
            | some (reference, rest) => some ((.reference reference, none), rest)
            | none => readNested steps start

/-- Reads a call in parentheses: an identifier with operands, or a reference alone. -/
def readNested : Nat → List Char → Option ((Operand × Option String) × List Char)
  | 0, _ => none
  | steps + 1, text =>
      match text with
      | '(' :: inside =>
          let called : Option ((Operand × Option String) × List Char) :=
            match readIdentifier inside with
            | none => none
            | some (name, afterName) =>
                let found := readOperands steps afterName
                if found.1.arguments.isEmpty && found.1.options.isEmpty then none
                else
                  some ((.call (String.ofList name) found.1.arguments found.1.options,
                    found.1.badLiteral), found.2)
          let content :=
            match called with
            | some found => some found
            | none =>
                match readReference (skipTagBlanks inside) with
                | some (reference, rest) => some ((.call reference.text [] [], none), rest)
                | none => none
          match content with
          | none => none
          | some (operand, rest) => (dropToken [')'] rest).map fun after => (operand, after)
      | _ => none

def readOperands : Nat → List Char → Operands × List Char
  | 0, text => (.none, text)
  | steps + 1, text =>
      match readOption steps text with
      | some ((key, value, bad), rest) =>
          let found := readOperands steps rest
          (found.1.consOption key value bad, found.2)
      | none =>
          match readOperand steps text with
          | some ((argument, bad), rest) =>
              let found := readOperands steps rest
              (found.1.consArgument argument bad, found.2)
          | none => (.none, text)

/-- Reads an option: an identifier, an equals sign and an operand. -/
def readOption : Nat → List Char → Option ((String × Operand × Option String) × List Char)
  | 0, _ => none
  | steps + 1, text =>
      match readIdentifier text with
      | none => none
      | some (key, afterKey) =>
          match dropToken ['='] afterKey with
          | none => none
          | some afterSign =>
              match readOperand steps afterSign with
              | some ((value, bad), rest) => some ((String.ofList key, value, bad), rest)
              | none => none

end

def operandSteps (text : List Char) : Nat :=
  4 * text.length + 8

/-! ## Tag bodies -/

/-- The inside of a tag, and the first literal in it that is no data value. -/
structure TagBody where
  kind : TagKind
  badLiteral : Option String

/-- Reads the names for a block: `as |item|` or `as |item key|`. -/
def readBlockNames (text : List Char) : Option (List String × List Char) := do
  let afterAs ← dropToken ['a', 's'] text
  let inside ← dropToken ['|'] afterAs
  let (first, afterFirst) ← readIdentifier inside
  match readIdentifier afterFirst with
  | some (second, afterSecond) =>
      let rest ← dropToken ['|'] afterSecond
      return ([String.ofList first, String.ofList second], rest)
  | none =>
      let rest ← dropToken ['|'] afterFirst
      return ([String.ofList first], rest)

def readCall (text : List Char) : Option ((Call × Option String) × List Char) := do
  let (name, afterName) ← readIdentifier text
  let found := readOperands (operandSteps afterName) afterName
  let (names, rest) := (readBlockNames found.2).getD ([], found.2)
  return ((⟨String.ofList name, found.1.arguments, found.1.options, names⟩,
    found.1.badLiteral), rest)

def readName (text : List Char) : Option ((Operand × Option String) × List Char) :=
  let start := skipTagBlanks text
  match readNested (operandSteps start) start with
  | some found => some found
  | none => (readReference start).map fun found => ((.reference found.1, none), found.2)

/-- Reads the inside of a tag that writes something: a helper with operands, or a name. -/
def readExpression (text : List Char) : Option (TagBody × List Char) :=
  let called :=
    match readIdentifier text with
    | none => none
    | some (name, afterName) =>
        let found := readOperands (operandSteps afterName) afterName
        if found.1.arguments.isEmpty && found.1.options.isEmpty then none
        else
          some ((⟨.helper ⟨String.ofList name, found.1.arguments, found.1.options, []⟩,
            found.1.badLiteral⟩ : TagBody), found.2)
  match called with
  | some found => some found
  | none =>
      (readName text).map fun found =>
        ((⟨.output found.1.1, found.1.2⟩ : TagBody), found.2)

/-- Reads the rest of a name in single quotes: its characters, of which a backslash takes a quote
after it along, and the closing quote. -/
def readQuotedRest : List Char → Option (List Char × List Char)
  | [] => none
  | '\\' :: '\'' :: rest =>
      (readQuotedRest rest).map fun found => ('\\' :: '\'' :: found.1, found.2)
  | character :: rest =>
      if character = '\'' then some (['\''], rest)
      else (readQuotedRest rest).map fun found => (character :: found.1, found.2)

/-- Reads a word that names an embedded template: a bare one, or one that is not empty in single
quotes, which belong to the name. -/
def readEmbeddedWord (text : List Char) : Option (List Char × List Char) :=
  match readWord isEmbeddedChar text with
  | some found => some found
  | none =>
      match text with
      | '\'' :: first :: rest =>
          if first = '\'' then none
          else
            (readQuotedRest (first :: rest)).map fun found => ('\'' :: found.1, found.2)
      | _ => none

/-- Reads the name of an embedded template: a word, a reference or a call. -/
def readEmbeddedName (text : List Char) : Option ((EmbeddedName × Option String) × List Char) :=
  let start := skipTagBlanks text
  match readEmbeddedWord start with
  | some (name, rest) => some ((.word (String.ofList name), none), rest)
  | none => (readName start).map fun found => ((.computed found.1.1, found.1.2), found.2)

/-- Reads the inside of a tag that embeds a template, alone or around a body. -/
def readEmbedding
    (kind : EmbeddedName → List Operand → List (String × Operand) → TagKind)
    (text : List Char) : Option (TagBody × List Char) := do
  let ((name, bad), afterName) ← readEmbeddedName text
  let found := readOperands (operandSteps afterName) afterName
  return (⟨kind name found.1.arguments found.1.options, bad <|> found.1.badLiteral⟩, found.2)

def readCallAs (kind : Call → TagKind) (text : List Char) : Option (TagBody × List Char) :=
  (readCall text).map fun found => (⟨kind found.1.1, found.1.2⟩, found.2)

def dropOtherwise (text : List Char) : Option (List Char) :=
  dropToken ['e', 'l', 's', 'e'] text <|> dropToken ['^'] text

/-! ## Whole tags -/

/-- Reads a tag from its braces, an optional `~`, the inside, an optional `~` and the braces. -/
def readBetween (opening closing : List Char) (body : List Char → Option (TagBody × List Char))
    (text : List Char) : Option (WrittenTag × List Char) := do
  let afterOpening ← dropWord opening text
  let (before, inside) := dropTilde afterOpening
  let (found, afterBody) ← body inside
  let (after, ending) := dropTilde afterBody
  let rest ← dropToken closing ending
  return (⟨found.kind, before, after, found.badLiteral⟩, rest)

def openBraces : List Char := ['\x7b', '\x7b']

def closeBraces : List Char := ['\x7d', '\x7d']

def openRawBraces : List Char := openBraces ++ openBraces

def closeRawBraces : List Char := closeBraces ++ closeBraces

/-- Reads a tag whose inside starts with marks, where a `~` may follow the first one. -/
def readMarked (marks : List (List Char)) (body : List Char → Option (TagBody × List Char)) :
    List Char → Option (WrittenTag × List Char) :=
  readBetween openBraces closeBraces fun inside =>
    (marks.foldlM (fun text mark => dropToken mark text) inside).bind body

def readOtherwiseTag : Reader WrittenTag :=
  readBetween openBraces closeBraces fun inside =>
    (dropOtherwise inside).map fun rest => (⟨.otherwise, none⟩, rest)

def readOtherwiseCallTag : Reader WrittenTag :=
  readBetween openBraces closeBraces fun inside =>
    (dropOtherwise inside).bind (readCallAs .otherwiseCall)

/-- Reads a tag that writes a value between three braces, where a `~` stands outside the third. -/
def readTripleTag : Reader WrittenTag :=
  readBetween openBraces closeBraces fun inside => do
    let afterBrace ← dropToken ['\x7b'] inside
    let (found, rest) ← readExpression afterBrace
    let after ← dropToken ['\x7d'] rest
    return (found, after)

def readAmpersandTag : Reader WrittenTag :=
  readMarked [['&']] fun inside =>
    (readName inside).map fun found => ((⟨.output found.1.1, found.1.2⟩ : TagBody), found.2)

/-- Reads a tag that opens a block; a second `~` may follow its mark. -/
def readBlockTag : Reader WrittenTag := fun text => do
  let afterOpening ← dropWord openBraces text
  let (outer, inside) := dropTilde afterOpening
  let afterMark ← dropToken ['#'] inside
  let (inner, body) := dropTilde afterMark
  let (found, afterBody) ← readCallAs .openBlock body
  let (after, ending) := dropTilde afterBody
  let rest ← dropToken closeBraces ending
  return (⟨found.kind, outer || inner, after, found.badLiteral⟩, rest)

/-- Reads the name of a closing tag, which may be left out. -/
def readClosing (kind : String → TagKind) (name : Reader (List Char)) (inside : List Char) :
    Option (TagBody × List Char) :=
  (dropToken ['/'] inside).map fun afterMark =>
    match name (skipTagBlanks afterMark) with
    | some (found, rest) => (⟨kind (String.ofList found), none⟩, rest)
    | none => (⟨kind "", none⟩, afterMark)

def dropThrough (mark : List Char) : List Char → Option (List Char)
  | [] => none
  | character :: rest =>
      match dropWord mark (character :: rest) with
      | some after => some after
      | none => dropThrough mark rest

/-- Reads a comment: a long one between dashes, or a short one up to the next closing braces. -/
def readComment (text : List Char) : Option (WrittenTag × List Char) :=
  match dropWord (openBraces ++ ['!']) text with
  | none => none
  | some inside =>
      let long :=
        match dropToken ['-', '-'] inside with
        | some rest => dropThrough (['-', '-'] ++ closeBraces) rest
        | none => none
      (long <|> dropThrough closeBraces inside).map fun rest =>
        (⟨.comment, false, false, none⟩, rest)

/-- Reads the tag at the start of a text. An alternative is never taken for something that is
written, and of the other kinds the first that fits is taken. -/
def readTag (text : List Char) : Option (WrittenTag × List Char) :=
  readOtherwiseTag text <|> readOtherwiseCallTag text <|>
    readBetween openBraces closeBraces readExpression text <|>
    readBetween (openBraces ++ ['\x7b']) (closeBraces ++ ['\x7d']) readExpression text <|>
    readTripleTag text <|> readAmpersandTag text <|>
    readBlockTag text <|>
    readBetween openRawBraces closeRawBraces (readCallAs .openRaw) text <|>
    readBetween openRawBraces closeRawBraces (readClosing .closeRaw readIdentifier) text <|>
    readComment text <|>
    readMarked [['*']] (readCallAs .decorate) text <|>
    readMarked [['#'], ['*']] (readCallAs .openDecorator) text <|>
    readMarked [['>']] (readEmbedding .embed) text <|>
    readMarked [['#'], ['>']] (readEmbedding .openEmbed) text <|>
    readBetween openBraces closeBraces (readClosing .close readIdentifier) text <|>
    readBetween openBraces closeBraces (readClosing .close readEmbeddedWord) text

end ResourceScaffold.Template

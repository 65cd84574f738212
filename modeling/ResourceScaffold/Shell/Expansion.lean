import ResourceScaffold.Shell.Arithmetic
import ResourceScaffold.Shell.Pattern

/-!
Contract: what words stand for.

Owns:
- the values of parameters and what is put in for them;
- cutting what was put in at separators, and the names of files that fit a word;
- the fields, the one text or the pattern that a word stands for.

Does not own: running the scripts inside of words; their output is supplied.
-/

namespace ResourceScaffold.Shell

open Work

/-! ## Atoms -/

/-- A character of a word after parameters have been put in: one that stood there, one that is
quoted, or one that was put in and at which the word can be cut. Quotes make a field even if it is
empty, and at a border a field ends. -/
inductive Atom where
  | plain (value : Char)
  | quoted (value : Char)
  | loose (value : Char)
  | quotes
  | border
deriving DecidableEq, Repr

/-- Characters that are put in. -/
def atomsOf (isQuoted : Bool) (text : Bytes) : List Atom :=
  text.map fun character => if isQuoted then .quoted character else .loose character

def textOfAtoms (atoms : List Atom) : Bytes :=
  atoms.flatMap fun atom =>
    match atom with
    | .plain value => [value]
    | .quoted value => [value]
    | .loose value => [value]
    | .quotes => []
    | .border => [' ']

def markedOfAtoms (atoms : List Atom) : Marked :=
  atoms.flatMap fun atom =>
    match atom with
    | .plain value => [(value, false)]
    | .quoted value => [(value, true)]
    | .loose value => [(value, false)]
    | .quotes => []
    | .border => [(' ', true)]

/-! ## Fields -/

/-- Fields that are complete, last one first, the field that has begun, and whether a separator that
is no white space would only end the gap after the last field. -/
structure Fields where
  complete : List Marked := []
  begun : Option Marked := none
  hasGap : Bool := false

def Fields.add (fields : Fields) (characters : Marked) : Fields :=
  { fields with begun := some (fields.begun.getD [] ++ characters), hasGap := false }

def Fields.cut (fields : Fields) : Fields :=
  match fields.begun with
  | some field => { complete := field :: fields.complete }
  | none => { fields with hasGap := false }

/-- Adds a character that was put in. White space between fields counts once; any other separator
ends a field, even an empty one. -/
def Fields.addLoose (separators : Bytes) (fields : Fields) (character : Char) : Fields :=
  if !separators.contains character then fields.add [(character, false)]
  else if character = ' ' ∨ character = '\t' ∨ character = '\n' then
    match fields.begun with
    | some _ => { fields.cut with hasGap := true }
    | none => fields
  else if fields.begun.isNone ∧ fields.hasGap then { fields with hasGap := false }
  else (fields.add []).cut

def Fields.addAtom (separators : Bytes) (fields : Fields) : Atom → Fields
  | .plain value => fields.add [(value, false)]
  | .quoted value => fields.add [(value, true)]
  | .loose value => fields.addLoose separators value
  | .quotes => fields.add []
  | .border => fields.cut

def fieldsOf (separators : Bytes) (atoms : List Atom) : List Marked :=
  (atoms.foldl (Fields.addAtom separators) {}).cut.complete.reverse

/-! ## Names of files -/

def segmentsOf : Marked → List Marked
  | [] => [[]]
  | item :: rest =>
      if item.1 = '/' then [] :: segmentsOf rest
      else
        match segmentsOf rest with
        | first :: others => (item :: first) :: others
        | [] => [[item]]

def insertInOrder (name : Bytes) : List Bytes → List Bytes
  | [] => [name]
  | other :: rest =>
      if name < other then name :: other :: rest else other :: insertInOrder name rest

/-- The names in a directory, in order. The directory itself and the one around it have names
too. -/
def namesIn (files : FileTree) (directory : Path) : List Bytes :=
  match files.locate directory with
  | .error _ => []
  | .ok location =>
      let names := files.nodes.filterMap fun entry =>
        if entry.1.dropLast = location ∧ entry.1 ≠ [] then entry.1.getLast?.map Bytes.ofString
        else none
      names.foldr insertInOrder [['.'], ['.', '.']]

def filesThatFit (files : FileTree) (seen : Bytes → Path) (start : Bytes) :
    List Marked → List Bytes
  | [] => []
  | segment :: rest =>
      let name := segment.map Prod.fst
      let names : List Bytes :=
        if !isPattern segment then [name]
        else
          let pattern := Pattern.ofMarked segment
          let directory := if start.isEmpty then ['.'] else start
          (namesIn files (seen directory)).filter fun candidate =>
            (candidate.head? ≠ some '.' || name.head? = some '.') && pattern.fits candidate
      match rest with
      | [] =>
          (names.map (start ++ ·)).filter fun found =>
            found.isEmpty || files.pathExists (seen found)
      | _ :: _ =>
          names.flatMap fun candidate =>
            let next := start ++ candidate ++ ['/']
            if candidate.isEmpty ∨ files.isDirectory (seen next) then
              filesThatFit files seen next rest
            else []

/-- The texts that a field stands for: the names of files that fit it, or else its own text. -/
def textsOfField (field : Marked) : Work (List Bytes) := do
  let state ← get
  let text := field.map Prod.fst
  if state.options.ignoresPatterns ∨ !isPattern field then return [text]
  else
    let seen (name : Bytes) : Path := state.directory.join ⟨textOf name⟩
    let found := filesThatFit state.files seen [] (segmentsOf field)
    return if found.isEmpty then [text] else found

/-! ## Parameters -/

/-- Texts with borders between them. Quotes keep empty ones. -/
def borderedAtoms (isQuoted : Bool) : List Bytes → List Atom
  | [] => []
  | [text] => (if isQuoted then [Atom.quotes] else []) ++ atomsOf isQuoted text
  | text :: rest =>
      (if isQuoted then [Atom.quotes] else []) ++ atomsOf isQuoted text ++
        .border :: borderedAtoms isQuoted rest

def Options.letters (options : Options) : Bytes :=
  [(options.stopsOnFailure, 'e'), (options.ignoresPatterns, 'f'), (options.executesNothing, 'n'),
    (options.traces, 'x'), (options.keepsFiles, 'C'), (options.exportsAll, 'a'),
    (options.refusesUnset, 'u')].filterMap fun option => if option.1 then some option.2 else none

def processNumber : Bytes := ['1']

def parameter? (name : Bytes) : Work (Option Bytes) := do
  let state ← get
  let joined (separator : Bytes) : Option Bytes :=
    if state.arguments.isEmpty then none else some (Bytes.joined separator state.arguments)
  match name with
  | ['@'] => return joined [' ']
  | ['*'] => return joined ((← separators).take 1)
  | ['#'] => return some (Bytes.ofNat state.arguments.length)
  | ['?'] => return some (Bytes.ofNat state.code)
  | ['-'] => return some state.options.letters
  | ['$'] => return some processNumber
  | ['!'] => return none
  | _ =>
      if name.all Char.isDigit then
        match readInteger false name with
        | ⟨0, _, _, _⟩ => return some state.name
        | found => return state.arguments[found.value.toNat - 1]?
      else value? name

def isAllArguments (name : Bytes) : Bool :=
  name = ['@'] || name = ['*']

/-- What is put in for the value of a parameter. All arguments are fields of their own where a word
is cut into fields, unless quotes join them. -/
def valueAtoms (cuts isQuoted : Bool) (name : Bytes) : Work (List Atom) := do
  if isAllArguments name ∧ cuts ∧ (name = ['@'] ∨ !isQuoted) then
    return borderedAtoms isQuoted (← get).arguments
  else if isAllArguments name then
    let separator := (← separators).take 1
    return atomsOf isQuoted (Bytes.joined separator (← get).arguments)
  else return atomsOf isQuoted ((← parameter? name).getD [])

/-! ## Words -/

/-- How the output of a script inside a word is found. -/
abbrev OutputOf := Command → Work Bytes

def dropLastLines (text : Bytes) : Bytes :=
  (text.reverse.dropWhile (· = '\n')).reverse

def loosened (atoms : List Atom) : List Atom :=
  atoms.map fun atom =>
    match atom with
    | .plain value => .loose value
    | other => other

def refuseUnset {α : Type} (name : Bytes) (orNull : Bool) : Work α :=
  fail (name ++ ": parameter not set".toList ++ (if orNull then " or null".toList else []))

def checkSet (name : Bytes) (value : Option Bytes) : Work Unit := do
  if value.isNone ∧ !isAllArguments name ∧ name ≠ ['!'] ∧ (← get).options.refusesUnset then
    refuseUnset name false

mutual

/-- The atoms of a word. `cuts` says whether the word is cut into fields. -/
def atomsOfWord (outputOf : OutputOf) (cuts : Bool) : List Piece → Work (List Atom)
  | [] => return []
  | piece :: rest => do
      let first ← atomsOfPiece outputOf cuts piece
      let others ← atomsOfWord outputOf cuts rest
      return first ++ others

def atomsOfPiece (outputOf : OutputOf) (cuts : Bool) : Piece → Work (List Atom)
  | .character value => return [.plain value]
  | .quoted value => return [.quoted value]
  | .quotes => return [.quotes]
  | .output script isQuoted => do
      return atomsOf isQuoted (dropLastLines (← outputOf script))
  | .arithmetic expression isQuoted => do
      let text := textOfAtoms (← atomsOfWord outputOf false expression)
      return atomsOf isQuoted (Bytes.ofInt (← Arithmetic.evaluate text))
  | .parameter name use isQuoted => atomsOfUse outputOf cuts name isQuoted use

def atomsOfUse (outputOf : OutputOf) (cuts : Bool) (name : Bytes) (isQuoted : Bool) :
    Use → Work (List Atom)
  | .value => do
      checkSet name (← parameter? name)
      valueAtoms cuts isQuoted name
  | .length => do
      let value ← if isAllArguments name then parameter? ['*'] else parameter? name
      checkSet name value
      return atomsOf isQuoted (Bytes.ofNat (value.getD []).length)
  | .default orNull word => do
      if isGiven orNull (← parameter? name) then valueAtoms cuts isQuoted name
      else
        let atoms ← atomsOfWord outputOf cuts word
        return if isQuoted then atoms else loosened atoms
  | .replaced orNull word => do
      if isGiven orNull (← parameter? name) then
        let atoms ← atomsOfWord outputOf cuts word
        return if isQuoted then atoms else loosened atoms
      else return []
  | .assigned orNull word => do
      if isGiven orNull (← parameter? name) then valueAtoms cuts isQuoted name
      else
        let text := textOfAtoms (← atomsOfWord outputOf false word)
        if isName name then
          Work.assign name text
          return atomsOf isQuoted text
        else fail (name ++ ": bad variable name".toList)
  | .demanded orNull word => do
      if isGiven orNull (← parameter? name) then valueAtoms cuts isQuoted name
      else
        let text := textOfAtoms (← atomsOfWord outputOf false word)
        if word.isEmpty then refuseUnset name orNull
        else fail (name ++ ": ".toList ++ text)
  | .trimmed fromEnd longest word => do
      let value ← parameter? name
      checkSet name value
      let marked := markedOfAtoms (← atomsOfWord outputOf false word)
      return atomsOf isQuoted
        ((Pattern.ofMarked marked).trim fromEnd longest (value.getD []))
  | .invalid => fail "Bad substitution".toList
where
  /-- Whether a parameter is set, and not empty if that counts. -/
  isGiven (orNull : Bool) (value : Option Bytes) : Bool :=
    value.any fun text => !orNull || !text.isEmpty

end

/-- A word with the name of the home directory in place of a tilde at its start. -/
def withHome (word : Word) : Work Word := do
  let isEnd (rest : Word) : Bool :=
    match rest with
    | [] => true
    | .character '/' :: _ => true
    | _ => false
  match word with
  | .character '~' :: rest =>
      if isEnd rest then
        match ← value? "HOME".toList with
        | some home => return quotedWord home ++ rest
        | none => return word
      else return word
  | _ => return word

def fieldsOfWords (outputOf : OutputOf) : List Word → Work (List Bytes)
  | [] => return []
  | word :: rest => do
      let atoms ← atomsOfWord outputOf true (← withHome word)
      let fields := fieldsOf (← separators) atoms
      let texts ← fields.mapM textsOfField
      let others ← fieldsOfWords outputOf rest
      return texts.flatten ++ others

def textOfWord (outputOf : OutputOf) (word : Word) : Work Bytes := do
  return textOfAtoms (← atomsOfWord outputOf false (← withHome word))

def patternOfWord (outputOf : OutputOf) (word : Word) : Work Pattern := do
  return Pattern.ofMarked (markedOfAtoms (← atomsOfWord outputOf false (← withHome word)))

end ResourceScaffold.Shell

import ResourceScaffold.Shell.Bytes

/-!
Contract: patterns that texts are compared with.

Owns:
- the signs of patterns and their reading;
- whether a pattern fits a text;
- the shortest and longest part of a text that a pattern fits.

Does not own: patterns that stand for the names of files.
-/

namespace ResourceScaffold.Shell

/-- A character of a pattern as it is written, and whether it is quoted. A quoted character has no
meaning of its own. -/
abbrev Marked := List (Char × Bool)

/-- What one place of a set of characters holds. -/
inductive SetItem where
  | range (first last : Char)
  | named (name : Bytes)
deriving DecidableEq, Repr

/-- A part of a pattern. -/
inductive PatternItem where
  | letter (value : Char)
  | any
  | anything
  | set (isNegated : Bool) (items : List SetItem)
deriving DecidableEq, Repr

/-- A pattern. -/
abbrev Pattern := List PatternItem

/-! ## Reading -/

def isPattern (text : Marked) : Bool :=
  text.any fun item => !item.2 && (item.1 = '*' || item.1 = '?' || item.1 = '[')

/-- The name of a class of characters in front of `:]`, and what follows, within a number of
steps. -/
def readClass : Nat → Marked → Option (Bytes × Marked)
  | 0, _ => none
  | _ + 1, [] => none
  | steps + 1, (character, isQuoted) :: rest =>
      match rest with
      | (']', _) :: after =>
          if character = ':' ∧ !isQuoted then some ([], after)
          else (readClass steps rest).map fun found => (character :: found.1, found.2)
      | _ => (readClass steps rest).map fun found => (character :: found.1, found.2)

/-- Reads the items of a set up to its bracket, within a number of steps. A bracket that comes first
is an item. -/
def readSet : Nat → Bool → Marked → Option (List SetItem × Marked)
  | 0, _, _ => none
  | _ + 1, _, [] => none
  | steps + 1, isFirst, (character, isQuoted) :: rest =>
      let single (value : Char) (after : Marked) : Option (List SetItem × Marked) :=
        (readSet steps false after).map fun found => (.range value value :: found.1, found.2)
      if character = ']' ∧ !isQuoted ∧ !isFirst then some ([], rest)
      else
        match rest with
        | (':', false) :: after =>
            if character = '[' ∧ !isQuoted then
              match readClass (after.length + 1) after with
              | some (name, others) =>
                  (readSet steps false others).map fun found => (.named name :: found.1, found.2)
              | none => single character rest
            else single character rest
        | ('-', false) :: (']', false) :: _ => single character rest
        | ('-', false) :: (last, _) :: after =>
            (readSet steps false after).map fun found =>
              (.range character last :: found.1, found.2)
        | _ => single character rest

/-- Reads a pattern, within a number of steps. A bracket that is not closed stands for itself. -/
def readPattern : Nat → Marked → Pattern
  | 0, _ => []
  | _ + 1, [] => []
  | steps + 1, (character, isQuoted) :: rest =>
      if isQuoted then .letter character :: readPattern steps rest
      else if character = '*' then .anything :: readPattern steps rest
      else if character = '?' then .any :: readPattern steps rest
      else if character = '[' then
        let isNegated := rest.head? = some ('!', false)
        let inside := if isNegated then rest.drop 1 else rest
        match readSet (inside.length + 1) true inside with
        | some (items, after) => .set isNegated items :: readPattern steps after
        | none => .letter character :: readPattern steps rest
      else .letter character :: readPattern steps rest

def Pattern.ofMarked (text : Marked) : Pattern :=
  readPattern (text.length + 1) text

/-! ## Fitting -/

def inClass (name : Bytes) (character : Char) : Bool :=
  match String.ofList name with
  | "alpha" => character.isAlpha
  | "digit" => character.isDigit
  | "alnum" => character.isAlphanum
  | "upper" => character.isUpper
  | "lower" => character.isLower
  | "space" => character.isWhitespace || character = '\x0b' || character = '\x0c'
  | "blank" => character = ' ' || character = '\t'
  | "punct" => '!' ≤ character && character ≤ '~' && !character.isAlphanum
  | "print" => ' ' ≤ character && character ≤ '~'
  | "graph" => '!' ≤ character && character ≤ '~'
  | "cntrl" => character < ' ' || character = '\x7f'
  | "xdigit" =>
      character.isDigit || ('a' ≤ character && character ≤ 'f') ||
        ('A' ≤ character && character ≤ 'F')
  | _ => false

def SetItem.holds (item : SetItem) (character : Char) : Bool :=
  match item with
  | range first last => first ≤ character && character ≤ last
  | named name => inClass name character

/-- All ends of a text, longest first. -/
def endsOf : Bytes → List Bytes
  | [] => [[]]
  | character :: rest => (character :: rest) :: endsOf rest

def Pattern.fits : Pattern → Bytes → Bool
  | [], text => text.isEmpty
  | .anything :: rest, text => (endsOf text).any (Pattern.fits rest)
  | .any :: rest, _ :: text => Pattern.fits rest text
  | .letter value :: rest, character :: text => value = character && Pattern.fits rest text
  | .set isNegated items :: rest, character :: text =>
      (items.any fun item => item.holds character) != isNegated && Pattern.fits rest text
  | _, [] => false

/-- The splits of a text into a start and the rest, shortest start first. -/
def splitsOf (text : Bytes) : List (Bytes × Bytes) :=
  (List.range (text.length + 1)).map text.splitAt

/-- A text without the shortest or longest part at its start or end that a pattern fits. -/
def Pattern.trim (pattern : Pattern) (fromEnd longest : Bool) (text : Bytes) : Bytes :=
  let splits := if fromEnd = longest then splitsOf text else (splitsOf text).reverse
  let fitting := splits.find? fun split => pattern.fits (if fromEnd then split.2 else split.1)
  match fitting with
  | some split => if fromEnd then split.1 else split.2
  | none => text

end ResourceScaffold.Shell

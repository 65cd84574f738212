import ResourceScaffold.Number.Spelled
import ResourceScaffold.Text.Blank
import ResourceScaffold.Text.Search
import ResourceScaffold.Toml.Scalar

/-!
Contract: settings from environment variables.

Owns:
- which variables are settings, and the keys that their names spell;
- the values that their texts spell;
- the order in which variables are laid over each other.

Does not own: the types of settings.
-/

namespace ResourceScaffold.Environment

open Text (Reader)

/-! ## Values -/

def isSpace (character : Char) : Bool :=
  character = ' ' || character = '\t' || character = '\n' || character = '\r' ||
    character = '\x0c'

def skipSpace (text : List Char) : List Char :=
  text.dropWhile isSpace

def isSeparator (character : Char) : Bool :=
  [',', '\x7b', '\x7d', '[', ']'].contains character

def isKeyChar (character : Char) : Bool :=
  character.isAlphanum || character = '_' || character = '-'

/-- Whether a character may stand in a string in double quotes: control characters may not, but for
the tab. -/
def isStringChar (character : Char) : Bool :=
  character = '\t' || (0x20 ≤ character.toNat && character.toNat != 0x7f)

def readStringRest : Nat → Reader (List Char)
  | 0, _ => none
  | _ + 1, [] => none
  | _ + 1, '"' :: rest => some ([], rest)
  | steps + 1, '\\' :: rest =>
      match Toml.readEscape rest with
      | none => none
      | some (character, after) =>
          (readStringRest steps after).map fun found => (character :: found.1, found.2)
  | steps + 1, character :: rest =>
      if isStringChar character then
        (readStringRest steps rest).map fun found => (character :: found.1, found.2)
      else none

def readString : Reader String := fun text =>
  (readStringRest (text.length + 1) text).map fun found => (String.ofList found.1, found.2)

/-- The number that digits after an optional plus sign spell, if it is below a limit. -/
def unsignedOf? (limit : Nat) (text : List Char) : Option Nat :=
  let digits := if text.head? = some '+' then text.drop 1 else text
  if digits.isEmpty ∨ !digits.all Char.isDigit then none
  else
    let number := Numeral.natOfDigits digits
    if number < limit then some number else none

/-- The value that a bare word spells: a real number if it has a point, a whole number, or a
text. -/
def wordValue (word : List Char) : Datum :=
  let real := if word.contains '.' then Binary64.ofSpelled? word else none
  match real with
  | some value => .real .environment value
  | none =>
      match unsignedOf? (Nat.pow 2 64) word with
      | some number => .whole .environment false number
      | none =>
          match word with
          | '-' :: digits =>
              if digits.head? = some '+' then .text .environment (String.ofList word)
              else
                match unsignedOf? (Nat.pow 2 63 + 1) digits with
                | some number => .whole .environment true (-(number : Int))
                | none => .text .environment (String.ofList word)
          | _ => .text .environment (String.ofList word)

mutual

def readValue : Nat → List Char → Option (Datum × List Char)
  | 0, _ => none
  | steps + 1, text =>
      let found : Option (Datum × List Char) :=
        match skipSpace text with
        | 't' :: 'r' :: 'u' :: 'e' :: rest => some (.boolean .environment true, rest)
        | 'f' :: 'a' :: 'l' :: 's' :: 'e' :: rest => some (.boolean .environment false, rest)
        | '\x7b' :: rest => readEntries steps [] rest
        | '[' :: rest => readItems steps [] rest
        | '"' :: rest =>
            (readString rest).map fun found => (.text .environment found.1, found.2)
        | '\'' :: character :: '\'' :: rest => some (.character .environment character, rest)
        | '\'' :: _ => none
        | start =>
            some (wordValue (Text.trim (start.takeWhile fun character => !isSeparator character)),
              start.dropWhile fun character => !isSeparator character)
      found.map fun found => (found.1, skipSpace found.2)

/-- Reads the rest of a list. Between its brackets only nothing at all is an empty list. -/
def readItems : Nat → List Datum → List Char → Option (Datum × List Char)
  | 0, _, _ => none
  | steps + 1, items, text =>
      match text with
      | ']' :: rest => some (.list .environment items.reverse, rest)
      | start =>
          match readValue steps start with
          | some (item, ',' :: rest) => readItems steps (item :: items) rest
          | some (item, ']' :: rest) => some (.list .environment (item :: items).reverse, rest)
          | _ => none

def readEntries : Nat → List (String × Datum) → List Char →
    Option (Datum × List Char)
  | 0, _, _ => none
  | steps + 1, entries, text =>
      match text with
      | '\x7d' :: rest => some (.table .environment entries, rest)
      | start =>
          match readKey (skipSpace start) with
          | none => none
          | some (key, afterKey) =>
              match skipSpace afterKey with
              | '=' :: valueStart =>
                  match readValue steps valueStart with
                  | some (datum, ',' :: rest) =>
                      readEntries steps (Association.set key datum entries) rest
                  | some (datum, '\x7d' :: rest) =>
                      some (.table .environment (Association.set key datum entries), rest)
                  | _ => none
              | _ => none
where
  /-- Reads the key of an entry. -/
  readKey : Reader String
    | '"' :: rest => readString rest
    | start =>
        let name := start.takeWhile isKeyChar
        if name.isEmpty then none else some (String.ofList name, start.dropWhile isKeyChar)

end

/-- The value that the text of a variable spells. A text that is not read to its end stands for
itself. -/
def valueOf (text : String) : Datum :=
  match readValue (2 * text.length + 2) text.toList with
  | some (datum, []) => datum
  | _ => .text .environment text

/-! ## Names -/

def nameStart : List Char := "layergen_".toList

def lowered (text : List Char) : List Char :=
  text.map Char.toLower

/-- A text with every pair of underscores replaced by a dot, from left to right. -/
def pairsToDots : List Char → List Char
  | '_' :: '_' :: rest => '.' :: pairsToDots rest
  | character :: rest => character :: pairsToDots rest
  | [] => []

/-- The parts of the key that the name of a variable spells, if the variable is a setting. -/
def keyOf? (name : String) : Option (List String) :=
  let trimmed := lowered (Text.trim name.toList)
  if nameStart.isPrefixOf trimmed then
    let parts := Text.splitOn '.' (Text.trim (pairsToDots (trimmed.drop nameStart.length)))
    if parts.any List.isEmpty then none else some (parts.map String.ofList)
  else none

def nested (datum : Datum) : List String → List (String × Datum)
  | [] => []
  | [part] => [(part, datum)]
  | part :: rest => [(part, .table .environment (nested datum rest))]

def entriesOf (setting : String × String) : List (String × Datum) :=
  match keyOf? setting.1 with
  | some parts => nested (valueOf setting.2) parts
  | none => []

/-- The settings that variables give. A later variable is laid over the earlier ones. -/
def settingsOf (settings : List (String × String)) : List (String × Datum) :=
  settings.foldl (fun below setting => Datum.layerEntries below (entriesOf setting)) []

end ResourceScaffold.Environment

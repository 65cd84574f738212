import ResourceScaffold.Text.Reader
import ResourceScaffold.Value.Basic

/-!
Contract: values read from JSON text.

Owns:
- strings with their escapes, numbers, lists and records;
- a reader of a whole text and a reader of a value at the start of a text.

Does not own: writing JSON.
-/

namespace ResourceScaffold.Value

open Text (Reader dropWord readHex)

/-! ## Blanks and strings -/

def isJsonBlank (character : Char) : Bool :=
  character = ' ' || character = '\t' || character = '\n' || character = '\r'

def skipBlanks (text : List Char) : List Char :=
  text.dropWhile isJsonBlank

/-- Reads what follows the mark of a numbered escape: one code unit, or two that make up one
character. A half of a pair alone is refused. -/
def readNumbered : Reader Char := fun text => do
  let (unit, rest) ← readHex 4 text
  if 0xd800 ≤ unit ∧ unit < 0xdc00 then
    match rest with
    | '\\' :: 'u' :: tail =>
        let (low, after) ← readHex 4 tail
        if 0xdc00 ≤ low ∧ low < 0xe000 then
          return (Char.ofNat (0x10000 + (unit - 0xd800) * 0x400 + (low - 0xdc00)), after)
        else none
    | _ => none
  else if 0xdc00 ≤ unit ∧ unit < 0xe000 then none
  else return (Char.ofNat unit, rest)

def simpleEscape? : Char → Option Char
  | '"' => some '"'
  | '\\' => some '\\'
  | '/' => some '/'
  | 'b' => some '\x08'
  | 'f' => some '\x0c'
  | 'n' => some '\n'
  | 'r' => some '\r'
  | 't' => some '\t'
  | _ => none

/-- Reads the rest of a string after its opening quote, within a number of steps. -/
def readStringWithin : Nat → List Char → List Char → Option (String × List Char)
  | 0, _, _ => none
  | _ + 1, _, [] => none
  | steps + 1, read, character :: rest =>
      if character = '"' then some (String.ofList read.reverse, rest)
      else if character = '\\' then
        match rest with
        | 'u' :: tail =>
            match readNumbered tail with
            | some (decoded, after) => readStringWithin steps (decoded :: read) after
            | none => none
        | mark :: tail =>
            match simpleEscape? mark with
            | some decoded => readStringWithin steps (decoded :: read) tail
            | none => none
        | [] => none
      else if character.toNat < 0x20 then none
      else readStringWithin steps (character :: read) rest

def readString : Reader String := fun text =>
  readStringWithin (text.length + 1) [] text

/-! ## Values -/

mutual

def readWithin : Nat → List Char → Option (Value × List Char)
  | 0, _ => none
  | steps + 1, text =>
      match skipBlanks text with
      | '"' :: rest => (readString rest).map fun found => (.string found.1, found.2)
      | '[' :: rest =>
          match skipBlanks rest with
          | ']' :: after => some (.list [], after)
          | _ => readItems steps [] rest
      | '\x7b' :: rest =>
          match skipBlanks rest with
          | '\x7d' :: after => some (.record [], after)
          | _ => readFields steps [] rest
      | 'n' :: rest => (dropWord ['u', 'l', 'l'] rest).map fun after => (.null, after)
      | 't' :: rest => (dropWord ['r', 'u', 'e'] rest).map fun after => (.boolean true, after)
      | 'f' :: rest =>
          (dropWord ['a', 'l', 's', 'e'] rest).map fun after => (.boolean false, after)
      | other => (Numeral.read? other).map fun found => (.number found.1, found.2)

def readItems : Nat → List Value → List Char → Option (Value × List Char)
  | 0, _, _ => none
  | steps + 1, items, text =>
      match readWithin steps text with
      | none => none
      | some (item, rest) =>
          match skipBlanks rest with
          | ',' :: more => readItems steps (item :: items) more
          | ']' :: after => some (.list (item :: items).reverse, after)
          | _ => none

def readFields : Nat → List (String × Value) → List Char → Option (Value × List Char)
  | 0, _, _ => none
  | steps + 1, fields, text =>
      match skipBlanks text with
      | '"' :: rest =>
          match readString rest with
          | none => none
          | some (key, afterKey) =>
              match skipBlanks afterKey with
              | ':' :: value =>
                  match readWithin steps value with
                  | none => none
                  | some (found, afterValue) =>
                      match skipBlanks afterValue with
                      | ',' :: more => readFields steps ((key, found) :: fields) more
                      | '\x7d' :: after =>
                          some (ofFields ((key, found) :: fields).reverse, after)
                      | _ => none
              | _ => none
      | _ => none

end

def ofJson? (text : List Char) : Option Value :=
  match readWithin (text.length + 1) text with
  | some (value, rest) => if (skipBlanks rest).isEmpty then some value else none
  | none => none

end ResourceScaffold.Value

/-!
Contract: reading something at the start of a text.

Owns:
- the shape of a reader;
- fixed words and hexadecimal digits.

Does not own: any format.
-/

namespace ResourceScaffold.Text

/-- A reader of something at the start of a text: what was read and the rest, if it was there. -/
abbrev Reader (α : Type) := List Char → Option (α × List Char)

def dropWord (word text : List Char) : Option (List Char) :=
  if word.isPrefixOf text then some (text.drop word.length) else none

def hexValue? (digit : Char) : Option Nat :=
  if digit.isDigit then some (digit.toNat - '0'.toNat)
  else if 'a' ≤ digit ∧ digit ≤ 'f' then some (digit.toNat - 'a'.toNat + 10)
  else if 'A' ≤ digit ∧ digit ≤ 'F' then some (digit.toNat - 'A'.toNat + 10)
  else none

def readHexFrom (value : Nat) : Nat → Reader Nat
  | 0, text => some (value, text)
  | _ + 1, [] => none
  | count + 1, digit :: rest =>
      match hexValue? digit with
      | some next => readHexFrom (value * 16 + next) count rest
      | none => none

def readHex (count : Nat) : Reader Nat :=
  readHexFrom 0 count

def takenBefore (text rest : List Char) : List Char :=
  text.take (text.length - rest.length)

end ResourceScaffold.Text

import ResourceScaffold.Text.GraphemeExtend
import ResourceScaffold.Text.Unprintable

/-!
Contract: text in double quotes, as messages and log lines show it.

Owns:
- which characters are escaped inside quotes and how.

Does not own: reading quoted text back; each format that is read has escapes of its own.
-/

namespace ResourceScaffold.Text

/-- The hexadecimal digits of a number, lower case and without leading zeros. -/
def hexDigits (number : Nat) : List Char :=
  Nat.toDigits 16 number

/-- Whether a character extends the one before it by taking no place of its own. The two sound marks
of half width extend it, but stand beside it. -/
def extendsInPlace (character : Char) : Bool :=
  graphemeExtend.contains character && character.toNat != 0xff9e && character.toNat != 0xff9f

/-- One character inside double quotes. Single quotes stand as they are. -/
def quotedChar (character : Char) : List Char :=
  match character with
  | '\x00' => ['\\', '0']
  | '\t' => ['\\', 't']
  | '\r' => ['\\', 'r']
  | '\n' => ['\\', 'n']
  | '"' => ['\\', '"']
  | '\\' => ['\\', '\\']
  | _ =>
      if extendsInPlace character || unprintable.contains character then
        ['\\', 'u', '\x7b'] ++ hexDigits character.toNat ++ ['\x7d']
      else
        [character]

/-- A text in double quotes, with quotes, backslashes and everything that does not print as a
character of its own escaped. -/
def quoted (text : List Char) : List Char :=
  ['"'] ++ text.flatMap quotedChar ++ ['"']

end ResourceScaffold.Text

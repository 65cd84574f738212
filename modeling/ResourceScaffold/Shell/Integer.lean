import ResourceScaffold.Shell.Bytes
import ResourceScaffold.Text.Reader

/-!
Contract: whole numbers of 64 bits as texts spell them.

Owns:
- reading a number at the start of a text, decimal or in the base that its first digits tell;
- arithmetic that goes round at 64 bits.

Does not own: reports about texts that spell no number.
-/

namespace ResourceScaffold.Shell

def greatestInteger : Int := 9223372036854775807

def leastInteger : Int := -9223372036854775808

/-- A result taken round into the range of numbers. -/
def wrapInteger (value : Int) : Int :=
  Int.bmod value (Nat.pow 2 64)

/-- A number as the natural number with the same 64 bits. -/
def bitsOfInteger (value : Int) : Nat :=
  (Int.emod value (Int.ofNat (Nat.pow 2 64))).toNat

def isNumberSpace (character : Char) : Bool :=
  character = ' ' || ('\t' ≤ character && character ≤ '\x0d')

/-- A number that was read: its value, what follows it, whether it had any digits, and whether it
was out of range and was replaced by the nearest number. -/
structure SpelledInteger where
  value : Int
  rest : Bytes
  hasDigits : Bool
  isTooLarge : Bool

/-- The base of a number that tells it itself, and its digits. -/
def ownBase : Bytes → Nat × Bytes
  | '0' :: mark :: digit :: rest =>
      if (mark = 'x' ∨ mark = 'X') ∧ (Text.hexValue? digit).isSome then (16, digit :: rest)
      else (8, '0' :: mark :: digit :: rest)
  | '0' :: rest => (8, '0' :: rest)
  | digits => (10, digits)

def digitIn? (base : Nat) (digit : Char) : Option Nat :=
  (Text.hexValue? digit).filter (· < base)

def naturalIn (base : Nat) (digits : Bytes) : Nat :=
  digits.foldl (fun value digit => value * base + (digitIn? base digit).getD 0) 0

/-- Reads a number at the start of a text: white space, a sign and digits. Its base is ten unless it
is told by the number itself. -/
def readInteger (tellsBase : Bool) (text : Bytes) : SpelledInteger :=
  let start := text.dropWhile isNumberSpace
  let isNegative := start.head? = some '-'
  let unsigned := if isNegative ∨ start.head? = some '+' then start.drop 1 else start
  let (base, digits) := if tellsBase then ownBase unsigned else (10, unsigned)
  let spelled := digits.takeWhile fun digit => (digitIn? base digit).isSome
  if spelled.isEmpty then ⟨0, text, false, false⟩
  else
    let magnitude : Int := naturalIn base spelled
    let value := if isNegative then -magnitude else magnitude
    let kept := max leastInteger (min greatestInteger value)
    ⟨kept, digits.drop spelled.length, true, kept ≠ value⟩

def integerOf? (tellsBase : Bool) (text : Bytes) : Option Int :=
  let found := readInteger tellsBase text
  if found.hasDigits ∧ !found.isTooLarge ∧ found.rest.all isNumberSpace then some found.value
  else none

end ResourceScaffold.Shell

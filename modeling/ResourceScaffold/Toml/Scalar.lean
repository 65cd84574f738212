import ResourceScaffold.Number.Numeral
import ResourceScaffold.Text.Reader
import ResourceScaffold.Toml.Value

/-!
Contract: single values of a TOML document.

Owns:
- strings of the four kinds;
- whole and real numbers;
- dates and times.

Does not own: lists, tables and keys.
-/

namespace ResourceScaffold.Toml

open Text (Reader dropWord readHex)

/-! ## Characters -/

def isBlank (character : Char) : Bool :=
  character = ' ' || character = '\t'

def skipBlanks (text : List Char) : List Char :=
  text.dropWhile isBlank

def dropNewline : List Char → Option (List Char)
  | '\n' :: rest => some rest
  | '\r' :: '\n' :: rest => some rest
  | _ => none

/-- Whether a character may stand in a document outside of escapes: a tab or no control
character. -/
def isPlain (character : Char) : Bool :=
  character = '\t' || (0x20 ≤ character.toNat && character.toNat ≠ 0x7f)

/-! ## Strings -/

def characterOf? (code : Nat) : Option Char :=
  if code < 0xd800 ∨ (0xe000 ≤ code ∧ code ≤ 0x10ffff) then some (Char.ofNat code) else none

def readEscape : Reader Char
  | 'b' :: rest => some ('\x08', rest)
  | 't' :: rest => some ('\t', rest)
  | 'n' :: rest => some ('\n', rest)
  | 'f' :: rest => some ('\x0c', rest)
  | 'r' :: rest => some ('\r', rest)
  | '"' :: rest => some ('"', rest)
  | '\\' :: rest => some ('\\', rest)
  | 'u' :: rest => do
      let (code, after) ← readHex 4 rest
      let character ← characterOf? code
      return (character, after)
  | 'U' :: rest => do
      let (code, after) ← readHex 8 rest
      let character ← characterOf? code
      return (character, after)
  | _ => none

def readBasicRest : Nat → Reader (List Char)
  | 0, _ => none
  | _ + 1, [] => none
  | _ + 1, '"' :: rest => some ([], rest)
  | steps + 1, '\\' :: rest =>
      match readEscape rest with
      | none => none
      | some (character, after) =>
          (readBasicRest steps after).map fun found => (character :: found.1, found.2)
  | steps + 1, character :: rest =>
      if isPlain character then
        (readBasicRest steps rest).map fun found => (character :: found.1, found.2)
      else none

def readLiteralRest : Reader (List Char)
  | [] => none
  | '\'' :: rest => some ([], rest)
  | character :: rest =>
      if isPlain character then
        (readLiteralRest rest).map fun found => (character :: found.1, found.2)
      else none

def skipFolded : Nat → List Char → List Char
  | 0, text => text
  | steps + 1, text =>
      match text with
      | ' ' :: rest => skipFolded steps rest
      | '\t' :: rest => skipFolded steps rest
      | _ =>
          match dropNewline text with
          | some rest => skipFolded steps rest
          | none => text

/-- The quotes that belong to a string which ends in a run of quotes: two at most. -/
def quotesBeforeEnd (run : Nat) : Nat :=
  min (run - 3) 2

/-- Reads the rest of a string of several lines, within a number of steps. Every line end becomes a
line feed; only strings in double quotes have escapes, and an escaped line end vanishes with the
blanks after it. -/
def readLinesRest (quote : Char) : Nat → Reader (List Char)
  | 0, _ => none
  | _ + 1, [] => none
  | steps + 1, character :: rest =>
      if character = quote then
        let run := (character :: rest).takeWhile (· = quote)
        if 3 ≤ run.length then
          let kept := quotesBeforeEnd run.length
          some (List.replicate kept quote, (character :: rest).drop (kept + 3))
        else
          (readLinesRest quote steps rest).map fun found => (character :: found.1, found.2)
      else if character = '\\' ∧ quote = '"' then
        match dropNewline (skipBlanks rest) with
        | some after => readLinesRest quote steps (skipFolded after.length after)
        | none =>
            match readEscape rest with
            | none => none
            | some (escaped, after) =>
                (readLinesRest quote steps after).map fun found => (escaped :: found.1, found.2)
      else
        match dropNewline (character :: rest) with
        | some after =>
            (readLinesRest quote steps after).map fun found => ('\n' :: found.1, found.2)
        | none =>
            if isPlain character then
              (readLinesRest quote steps rest).map fun found => (character :: found.1, found.2)
            else none

/-- Reads the rest of a string of several lines; a line end right after the opening quotes does not
belong to it. -/
def readLines (quote : Char) (text : List Char) : Option (List Char × List Char) :=
  let start := (dropNewline text).getD text
  readLinesRest quote (start.length + 1) start

def readLineString : Reader String
  | '"' :: rest =>
      (readBasicRest (rest.length + 1) rest).map fun found => (String.ofList found.1, found.2)
  | '\'' :: rest => (readLiteralRest rest).map fun found => (String.ofList found.1, found.2)
  | _ => none

def readString (text : List Char) : Option (String × List Char) :=
  match text with
  | '"' :: '"' :: '"' :: rest =>
      (readLines '"' rest).map fun found => (String.ofList found.1, found.2)
  | '\'' :: '\'' :: '\'' :: rest =>
      (readLines '\'' rest).map fun found => (String.ofList found.1, found.2)
  | _ => readLineString text

/-! ## Numbers -/

/-- Reads further digits, each of which an underscore may precede, and drops the underscores. -/
def readMoreDigits (isDigit : Char → Bool) : List Char → List Char × List Char
  | [] => ([], [])
  | '_' :: digit :: rest =>
      if isDigit digit then
        let found := readMoreDigits isDigit rest
        (digit :: found.1, found.2)
      else ([], '_' :: digit :: rest)
  | digit :: rest =>
      if isDigit digit then
        let found := readMoreDigits isDigit rest
        (digit :: found.1, found.2)
      else ([], digit :: rest)

def readDigits (isDigit : Char → Bool) : Reader (List Char)
  | [] => none
  | digit :: rest =>
      if isDigit digit then
        let found := readMoreDigits isDigit rest
        some (digit :: found.1, found.2)
      else none

def readSign : List Char → Bool × List Char
  | '-' :: rest => (true, rest)
  | '+' :: rest => (false, rest)
  | text => (false, text)

def readDecimal (text : List Char) : Option ((Bool × List Char) × List Char) :=
  let signed := readSign text
  match signed.2 with
  | '0' :: rest => some ((signed.1, ['0']), rest)
  | unsigned => (readDigits Char.isDigit unsigned).map fun found => ((signed.1, found.1), found.2)

def readExponent : Reader Int
  | mark :: rest =>
      if mark = 'e' ∨ mark = 'E' then
        let signed := readSign rest
        (readDigits Char.isDigit signed.2).map fun found =>
          let size : Int := Numeral.natOfDigits found.1
          (if signed.1 then -size else size, found.2)
      else none
  | [] => none

def readFraction : Reader (List Char)
  | '.' :: rest => readDigits Char.isDigit rest
  | _ => none

def isTooLarge (value : Binary64) : Bool :=
  value = .infinite false

/-- Reads a real number: it has a fraction or an exponent, or is a word. -/
def readFloat (text : List Char) : Option (Binary64 × List Char) :=
  let signed := readSign text
  match dropWord ['i', 'n', 'f'] signed.2 with
  | some rest => some (.infinite signed.1, rest)
  | none =>
      match dropWord ['n', 'a', 'n'] signed.2 with
      | some rest => some (.undefined, rest)
      | none => do
          let ((negative, whole), afterWhole) ← readDecimal text
          let fraction := readFraction afterWhole
          let afterFraction := (fraction.map Prod.snd).getD afterWhole
          let exponent := readExponent afterFraction
          if fraction.isNone ∧ exponent.isNone then none
          let digits := (fraction.map Prod.fst).getD []
          let power := (exponent.map Prod.fst).getD 0
          let value :=
            Binary64.ofDecimal negative (Numeral.natOfDigits (whole ++ digits))
              (power - digits.length)
          if isTooLarge value then none
          return (value, (exponent.map Prod.snd).getD afterFraction)

def numberOf (base : Nat) (digits : List Char) : Nat :=
  digits.foldl (fun number digit => number * base + (Text.hexValue? digit).getD 0) 0

/-- Whether a character is a digit below a base of at most sixteen. -/
def isDigitOf (base : Nat) (character : Char) : Bool :=
  (Text.hexValue? character).any (· < base)

def readBased (base : Nat) (text : List Char) : Option (Int × List Char) := do
  let (digits, rest) ← readDigits (isDigitOf base) text
  if numberOf base digits < Nat.pow 2 63 then return ((numberOf base digits : Int), rest) else none

/-- Reads a whole number of 64 bits with a sign. -/
def readInteger (text : List Char) : Option (Int × List Char) :=
  match text with
  | '0' :: 'x' :: rest => readBased 16 rest
  | '0' :: 'o' :: rest => readBased 8 rest
  | '0' :: 'b' :: rest => readBased 2 rest
  | _ => do
      let ((negative, digits), rest) ← readDecimal text
      let size := Numeral.natOfDigits digits
      if negative then
        if size ≤ Nat.pow 2 63 then return (-(size : Int), rest) else none
      else if size < Nat.pow 2 63 then return ((size : Int), rest)
      else none

/-! ## Dates and times -/

def readPadded (count least greatest : Nat) (text : List Char) : Option (Nat × List Char) :=
  let digits := text.take count
  let number := Numeral.natOfDigits digits
  if digits.length = count ∧ digits.all Char.isDigit ∧ least ≤ number ∧ number ≤ greatest then
    some (number, text.drop count)
  else none

def daysOf (year month : Nat) : Nat :=
  if month = 2 then
    if year % 4 = 0 ∧ (year % 100 ≠ 0 ∨ year % 400 = 0) then 29 else 28
  else if month = 4 ∨ month = 6 ∨ month = 9 ∨ month = 11 then 30
  else 31

def passDate (text : List Char) : Option (List Char) := do
  let (year, afterYear) ← readPadded 4 0 9999 text
  let monthStart ← dropWord ['-'] afterYear
  let (month, afterMonth) ← readPadded 2 1 12 monthStart
  let dayStart ← dropWord ['-'] afterMonth
  let (_, rest) ← readPadded 2 1 (daysOf year month) dayStart
  return rest

def passTime (text : List Char) : Option (List Char) := do
  let (_, afterHour) ← readPadded 2 0 23 text
  let minuteStart ← dropWord [':'] afterHour
  let (_, afterMinute) ← readPadded 2 0 59 minuteStart
  let secondStart ← dropWord [':'] afterMinute
  let (_, rest) ← readPadded 2 0 60 secondStart
  match rest with
  | '.' :: digit :: more =>
      if digit.isDigit then return more.dropWhile Char.isDigit else none
  | _ => return rest

def passOffset (text : List Char) : Option (List Char) :=
  match text with
  | 'Z' :: rest => some rest
  | 'z' :: rest => some rest
  | sign :: rest =>
      if sign = '+' ∨ sign = '-' then do
        let (_, afterHour) ← readPadded 2 0 23 rest
        let minuteStart ← dropWord [':'] afterHour
        let (_, after) ← readPadded 2 0 59 minuteStart
        return after
      else none
  | [] => none

def passTimeOfDate (text : List Char) : List Char :=
  match text with
  | separator :: rest =>
      if separator = 'T' ∨ separator = 't' ∨ separator = ' ' then
        match passTime rest with
        | some after => (passOffset after).getD after
        | none => text
      else text
  | [] => []

def readMoment (text : List Char) : Option (Value × List Char) :=
  match passDate text with
  | some rest => some (.moment, passTimeOfDate rest)
  | none => (passTime text).map fun rest => (.moment, rest)

def readScalar (text : List Char) : Option (Value × List Char) :=
  match text with
  | '"' :: _ => (readString text).map fun found => (.text found.1, found.2)
  | '\'' :: _ => (readString text).map fun found => (.text found.1, found.2)
  | 't' :: 'r' :: 'u' :: 'e' :: rest => some (.boolean true, rest)
  | 'f' :: 'a' :: 'l' :: 's' :: 'e' :: rest => some (.boolean false, rest)
  | _ =>
      readMoment text <|>
        ((readFloat text).map fun found => (.float found.1, found.2)) <|>
        ((readInteger text).map fun found => (.integer found.1, found.2))

end ResourceScaffold.Toml

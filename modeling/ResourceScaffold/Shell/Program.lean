import ResourceScaffold.Shell.Integer
import ResourceScaffold.Text.Reader

/-!
Contract: programs that print their arguments.

Owns:
- printing arguments, with and without escapes;
- printing by a format.

Does not own: where output goes, and files.
-/

namespace ResourceScaffold.Shell

/-! ## Escapes -/

def isOctal (digit : Char) : Bool :=
  '0' ≤ digit && digit ≤ '7'

def octalDigits (count : Nat) (text : Bytes) : Bytes :=
  (text.take count).takeWhile isOctal

/-- The byte of a number, of which the higher bits are lost. -/
def byteOf (number : Nat) : Char :=
  Char.ofNat (number % 256)

def octalByte (digits : Bytes) : Char :=
  byteOf (naturalIn 8 digits)

def letterEscape? : Char → Option Char
  | 'a' => some '\x07'
  | 'b' => some '\x08'
  | 'e' => some '\x1b'
  | 'f' => some '\x0c'
  | 'n' => some '\n'
  | 'r' => some '\r'
  | 't' => some '\t'
  | 'v' => some '\x0b'
  | '\\' => some '\\'
  | _ => none

/-- The byte that an escape stands for, after its backslash, and how many characters it takes. A
backslash that begins no escape stands for itself. -/
def escapeAfter (text : Bytes) : Char × Nat :=
  match text with
  | [] => ('\\', 0)
  | mark :: _ =>
      match letterEscape? mark with
      | some byte => (byte, 1)
      | none =>
          let digits := octalDigits 3 text
          if digits.isEmpty then ('\\', 0) else (octalByte digits, digits.length)

/-- The bytes of an argument with its escapes, within a number of steps, and whether it asked for
the end of all output. An octal number begins with a zero of its own. -/
def unescapedWithin : Nat → Bytes → Bytes × Bool
  | 0, _ => ([], false)
  | _ + 1, [] => ([], false)
  | steps + 1, character :: rest =>
      if character = '\\' then
        if rest.head? = some 'c' then ([], true)
        else
          let skipped := if rest.head? = some '0' ∧ (rest[1]?.any isOctal) then 1 else 0
          let found := escapeAfter (rest.drop skipped)
          let others := unescapedWithin steps (rest.drop (skipped + found.2))
          (found.1 :: others.1, others.2)
      else
        let others := unescapedWithin steps rest
        (character :: others.1, others.2)

def unescaped (text : Bytes) : Bytes × Bool :=
  unescapedWithin (text.length + 1) text

/-! ## Printing arguments -/

def spaced (texts : List Bytes) : Bytes :=
  Bytes.joined [' '] texts

/-- What the command of the shell prints: escapes are put in. -/
def shellEcho (arguments : List Bytes) : Bytes :=
  let isSilent := arguments.head? = some ['-', 'n']
  let printed := unescaped (spaced (if isSilent then arguments.drop 1 else arguments))
  printed.1 ++ (if isSilent || printed.2 then [] else ['\n'])

def isEchoOption : Bytes → Bool
  | '-' :: letters => !letters.isEmpty && letters.all fun letter => ['n', 'e', 'E'].contains letter
  | _ => false

/-- The bytes of the arguments of the program with their escapes, within a number of steps, and
whether the end of all output was asked for. Numbers are octal or hexadecimal here. -/
def echoEscapes : Nat → Bytes → Bytes × Bool
  | 0, _ => ([], false)
  | _ + 1, [] => ([], false)
  | steps + 1, character :: rest =>
      let goOn (bytes rest : Bytes) : Bytes × Bool :=
        let others := echoEscapes steps rest
        (bytes ++ others.1, others.2)
      if character ≠ '\\' then goOn [character] rest
      else
        match rest with
        | [] => goOn ['\\'] []
        | mark :: after =>
            if mark = 'c' then ([], true)
            else if mark = 'x' then
              let digits := (after.take 2).takeWhile fun digit => (Text.hexValue? digit).isSome
              if digits.isEmpty then goOn ['\\', 'x'] after
              else goOn [byteOf (naturalIn 16 digits)] (after.drop digits.length)
            else if mark = '0' then
              let digits := octalDigits 3 after
              goOn [octalByte digits] (after.drop digits.length)
            else if isOctal mark then
              let digits := octalDigits 3 rest
              goOn [octalByte digits] (rest.drop digits.length)
            else
              match letterEscape? mark with
              | some byte => goOn [byte] after
              | none => goOn ['\\', mark] after

/-- What the program prints: escapes are put in only if an option asks for it. -/
def echo (arguments : List Bytes) : Bytes :=
  let letters := (arguments.takeWhile isEchoOption).flatMap fun option => option.drop 1
  let words := spaced (arguments.dropWhile isEchoOption)
  let lastMode := letters.reverse.find? fun letter => letter = 'e' || letter = 'E'
  let printed :=
    if lastMode = some 'e' then echoEscapes (words.length + 1) words else (words, false)
  printed.1 ++ (if letters.contains 'n' || printed.2 then [] else ['\n'])

/-! ## Printing by a format -/

/-- The form of a directive: its flags, the least width and the precision. -/
structure DirectiveForm where
  flags : Bytes
  width : Option Int
  precision : Option Int

/-- What was printed by a format: the bytes, the arguments that are left, whether any argument was
asked for, warnings, and whether all output has ended. A format that is wrong ends it with a
reason. -/
structure Formatted where
  output : Bytes := []
  left : List Bytes
  isReading : Bool := false
  warnings : List Bytes := []
  hasEnded : Bool := false
  refusal : Option Bytes := none

namespace Formatted

def next (formatted : Formatted) : Option Bytes × Formatted :=
  (formatted.left.head?, { formatted with left := formatted.left.drop 1, isReading := true })

def print (formatted : Formatted) (bytes : Bytes) : Formatted :=
  { formatted with output := formatted.output ++ bytes }

/-- The next argument as a number, with a warning if it is none. A quote stands for the code of the
character after it. -/
def nextNumber (formatted : Formatted) (isSigned : Bool) : Int × Formatted :=
  match formatted.next with
  | (none, after) => (0, after)
  | (some text, after) =>
      match text with
      | '"' :: rest => (((rest.headD '\x00').toNat : Int), after)
      | '\'' :: rest => (((rest.headD '\x00').toNat : Int), after)
      | _ =>
          let found := readInteger true text
          let value :=
            if isSigned then found.value else Int.ofNat (bitsOfInteger found.value)
          let warning : List Bytes :=
            if !found.rest.isEmpty then
              if found.hasDigits then [text ++ ": not completely converted".toList]
              else [text ++ ": expected numeric value".toList]
            else if found.isTooLarge then
              [text ++ ": Numerical result out of range".toList]
            else []
          (value, { after with warnings := after.warnings ++ warning })

end Formatted

def DirectiveForm.fill (form : DirectiveForm) (text : Bytes) : Bytes :=
  let width := form.width.getD 0
  let blanks := List.replicate (width.natAbs - text.length) ' '
  if form.flags.contains '-' ∨ width < 0 then text ++ blanks else blanks ++ text

def DirectiveForm.number (form : DirectiveForm) (mark digits : Bytes) : Bytes :=
  let least := (form.precision.getD 1).toNat
  let shown := if form.precision = some 0 ∧ digits = ['0'] then [] else digits
  let padded := List.replicate (least - shown.length) '0' ++ shown
  let width := form.width.getD 0
  let zeros :=
    if form.flags.contains '0' ∧ !form.flags.contains '-' ∧ form.precision.isNone then
      List.replicate (width.toNat - mark.length - padded.length) '0'
    else []
  form.fill (mark ++ zeros ++ padded)

/-- A text cut down to the precision of a form and filled up to its width. -/
def DirectiveForm.text (form : DirectiveForm) (text : Bytes) : Bytes :=
  match form.precision with
  | some length => form.fill (if length < 0 then text else text.take length.toNat)
  | none => form.fill text

def DirectiveForm.sign (form : DirectiveForm) (value : Int) : Bytes :=
  if value < 0 then ['-']
  else if form.flags.contains '+' then ['+']
  else if form.flags.contains ' ' then [' ']
  else []

def digitsIn (base : Nat) (number : Nat) : Bytes :=
  Nat.toDigits base number

/-- Prints a directive with a letter. There is no result for a letter without a meaning. -/
def printDirective (form : DirectiveForm) (letter : Char) (formatted : Formatted) :
    Option Formatted :=
  let hasMark := form.flags.contains '#'
  let unsigned (base : Nat) (mark : Bytes) (upper : Bool) : Formatted :=
    let (value, after) := formatted.nextNumber false
    let digits := digitsIn base value.toNat
    let cased := if upper then digits.map Char.toUpper else digits
    after.print (form.number (if hasMark ∧ value ≠ 0 then mark else []) cased)
  if letter = 's' then
    let (argument, after) := formatted.next
    some (after.print (form.text (argument.getD [])))
  else if letter = 'b' then
    let (argument, after) := formatted.next
    let (bytes, ends) := unescaped (argument.getD [])
    some { after.print (form.text bytes) with hasEnded := ends }
  else if letter = 'c' then
    let (argument, after) := formatted.next
    some (after.print (form.fill [(argument.getD []).headD '\x00']))
  else if letter = 'd' ∨ letter = 'i' then
    let (value, after) := formatted.nextNumber true
    some (after.print (form.number (form.sign value) (Bytes.ofNat value.natAbs)))
  else if letter = 'u' then some (unsigned 10 [] false)
  else if letter = 'o' then some (unsigned 8 ['0'] false)
  else if letter = 'x' then some (unsigned 16 ['0', 'x'] false)
  else if letter = 'X' then some (unsigned 16 ['0', 'X'] true)
  else none

/-- A number inside a directive: an argument, if an asterisk stands there, or digits. -/
def readWidth (text : Bytes) (formatted : Formatted) : Option Int × Bytes × Formatted :=
  match text with
  | '*' :: rest =>
      let (value, after) := formatted.nextNumber true
      (some value, rest, after)
  | _ =>
      let digits := text.takeWhile Char.isDigit
      (if digits.isEmpty then none else some (naturalIn 10 digits), text.drop digits.length,
        formatted)

def formatWithin : Nat → Bytes → Formatted → Formatted
  | 0, _, formatted => formatted
  | _ + 1, [], formatted => formatted
  | steps + 1, character :: rest, formatted =>
      if character = '\\' then
        let found := escapeAfter rest
        formatWithin steps (rest.drop found.2) (formatted.print [found.1])
      else if character ≠ '%' then formatWithin steps rest (formatted.print [character])
      else if rest.head? = some '%' then formatWithin steps (rest.drop 1) (formatted.print ['%'])
      else
        let isFlag := fun flag : Char => ['#', '-', '+', ' ', '0'].contains flag
        let flags := rest.takeWhile isFlag
        let (width, afterWidth, withWidth) := readWidth (rest.dropWhile isFlag) formatted
        let (precision, afterPrecision, ready) :=
          match afterWidth with
          | '.' :: inside =>
              let found := readWidth inside withWidth
              (some (found.1.getD 0), found.2)
          | _ => (none, afterWidth, withWidth)
        match afterPrecision with
        | [] => { ready with refusal := some "missing format character".toList }
        | letter :: after =>
            match printDirective ⟨flags, width, precision⟩ letter ready with
            | some printed =>
                if printed.hasEnded then printed else formatWithin steps after printed
            | none =>
                let taken := '%' :: rest.take (rest.length - after.length)
                { ready with refusal := some (taken ++ ": invalid directive".toList) }

/-- Passes over a format as long as arguments are left that it asks for, within a number of
passes. -/
def formatAll (format : Bytes) : Nat → Formatted → Formatted
  | 0, formatted => formatted
  | passes + 1, formatted =>
      let pass := formatWithin (format.length + 1) format { formatted with isReading := false }
      if pass.hasEnded ∨ pass.refusal.isSome ∨ !pass.isReading ∨ pass.left.isEmpty then pass
      else formatAll format passes pass

def printf (format : Bytes) (arguments : List Bytes) : Formatted :=
  formatAll format (arguments.length + 1) { left := arguments }

end ResourceScaffold.Shell

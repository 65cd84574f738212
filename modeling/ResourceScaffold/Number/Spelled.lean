import ResourceScaffold.Number.Numeral

/-!
Contract: real numbers in the spelling that settings accept.

Owns:
- decimal numbers with an optional sign, where either side of the point may be empty;
- the words for infinity and for the undefined value, in any letter case.

Does not own: the stricter spelling of numbers in data.
-/

namespace ResourceScaffold

namespace Binary64

/-- The words for values without digits. -/
def ofWord? (negative : Bool) (word : List Char) : Option Binary64 :=
  let lowered := word.map Char.toLower
  if lowered = ['i', 'n', 'f'] ∨ lowered = ['i', 'n', 'f', 'i', 'n', 'i', 't', 'y'] then
    some (.infinite negative)
  else if lowered = ['n', 'a', 'n'] then some .undefined
  else none

/-- Splits a fraction off: a point and the digits after it, of which there may be none. -/
def spelledFraction : List Char → List Char × List Char
  | '.' :: rest => Numeral.digitsOf rest
  | text => ([], text)

/-- Reads a whole text as a real number, rounded to the nearest value. -/
def ofSpelled? (text : List Char) : Option Binary64 :=
  let signed : Bool × List Char :=
    match text with
    | '-' :: rest => (true, rest)
    | '+' :: rest => (false, rest)
    | rest => (false, rest)
  let whole := Numeral.digitsOf signed.2
  let fraction := spelledFraction whole.2
  if whole.1.isEmpty ∧ fraction.1.isEmpty then ofWord? signed.1 signed.2
  else
    match Numeral.readExponent fraction.2 with
    | some (exponent, []) =>
        let shift : Int :=
          match exponent with
          | some (true, digits) => -(Numeral.natOfDigits digits : Int)
          | some (false, digits) => Numeral.natOfDigits digits
          | none => 0
        some (ofDecimal signed.1 (Numeral.natOfDigits (whole.1 ++ fraction.1))
          (shift - fraction.1.length))
    | _ => none

end Binary64

end ResourceScaffold

import ResourceScaffold.Number.Decimal

/-!
Contract: the numbers of data values, whole or real, and their written form.

Owns:
- the range of whole numbers that stay whole;
- reading a number: sign, digits, fraction and exponent;
- the text of a number.

Does not own: the formats whose numbers have other spellings.
-/

namespace ResourceScaffold

/-- A number as data holds it. A whole number lies between `-2 ^ 63` and `2 ^ 64 - 1`; a number that
is written with a fraction or an exponent is real even if its value is whole. -/
inductive Numeral where
  | whole (value : Int)
  | real (value : Binary64)
deriving DecidableEq, Repr

namespace Numeral

/-! ## Reading -/

/-- The greatest coefficient that is kept while digits are read. -/
def coefficientLimit : Nat := Nat.pow 2 64 - 1

/-- Digits read so far: the coefficient, the power of ten that it has to be scaled by, and whether
a digit had to be left out. -/
structure Scaled where
  coefficient : Nat
  exponent : Int
  cut : Bool

def Scaled.wholeDigit (number : Scaled) (digit : Char) : Scaled :=
  let next := number.coefficient * 10 + (digit.toNat - '0'.toNat)
  if number.cut || coefficientLimit < next then
    { number with exponent := number.exponent + 1, cut := true }
  else
    { number with coefficient := next }

def Scaled.fractionDigit (number : Scaled) (digit : Char) : Scaled :=
  let next := number.coefficient * 10 + (digit.toNat - '0'.toNat)
  if number.cut || coefficientLimit < next then
    { number with cut := true }
  else
    { number with coefficient := next, exponent := number.exponent - 1 }

/-- The power of ten up to which one step scales a coefficient. -/
def powerLimit : Nat := 308

/-- Scales a coefficient by a power of ten, the coefficient and the product each rounded to the
nearest value. There is none when the result is too large. -/
def Scaled.toReal? (number : Scaled) : Option Binary64 :=
  let start := Binary64.ofNat number.coefficient
  if 0 ≤ number.exponent then
    if number.coefficient = 0 then some start
    else if powerLimit < number.exponent then none
    else
      match start.scaleUp (Nat.pow 10 number.exponent.toNat) with
      | .finite negative significand exponent => some (.finite negative significand exponent)
      | _ => none
  else if powerLimit < number.exponent.natAbs then
    if 2 * powerLimit < number.exponent.natAbs then some (Binary64.zero false)
    else
      some ((start.scaleDown (Nat.pow 10 powerLimit)).scaleDown
        (Nat.pow 10 (number.exponent.natAbs - powerLimit)))
  else
    some (start.scaleDown (Nat.pow 10 number.exponent.natAbs))

/-- The parts of a written number. -/
structure Written where
  negative : Bool
  whole : List Char
  fraction : Option (List Char)
  exponent : Option (Bool × List Char)

def digitsOf (text : List Char) : List Char × List Char :=
  (text.takeWhile Char.isDigit, text.dropWhile Char.isDigit)

/-- Reads an optional fraction: a point and at least one digit. -/
def readFraction : List Char → Option (Option (List Char) × List Char)
  | '.' :: rest =>
      let parts := digitsOf rest
      if parts.1.isEmpty then none else some (some parts.1, parts.2)
  | text => some (none, text)

/-- Reads an optional exponent: a mark, an optional sign and at least one digit. -/
def readExponent : List Char → Option (Option (Bool × List Char) × List Char)
  | mark :: rest =>
      if mark = 'e' ∨ mark = 'E' then
        let signed : Bool × List Char :=
          match rest with
          | '-' :: digits => (true, digits)
          | '+' :: digits => (false, digits)
          | digits => (false, digits)
        let parts := digitsOf signed.2
        if parts.1.isEmpty then none else some (some (signed.1, parts.1), parts.2)
      else
        some (none, mark :: rest)
  | [] => some (none, [])

/-- Reads the parts of a number at the start of a text. The whole part has no needless leading
zero. -/
def readWritten (text : List Char) : Option (Written × List Char) := do
  let signed : Bool × List Char :=
    match text with
    | '-' :: rest => (true, rest)
    | rest => (false, rest)
  let digits := digitsOf signed.2
  if digits.1.isEmpty ∨ (1 < digits.1.length ∧ digits.1.head? = some '0') then none
  let (fraction, afterFraction) ← readFraction digits.2
  let (exponent, rest) ← readExponent afterFraction
  return (⟨signed.1, digits.1, fraction, exponent⟩, rest)

def natOfDigits (digits : List Char) : Nat :=
  digits.foldl (fun number digit => number * 10 + (digit.toNat - '0'.toNat)) 0

def ofWritten? (written : Written) : Option Numeral :=
  let whole := natOfDigits written.whole
  let isWhole := written.fraction.isNone && written.exponent.isNone
  if isWhole && !written.negative && whole ≤ coefficientLimit then some (.whole whole)
  else if isWhole && written.negative && 0 < whole && whole ≤ Nat.pow 2 63 then
    some (.whole (-whole))
  else
    let scaled := written.whole.foldl Scaled.wholeDigit ⟨0, 0, false⟩
    let digits := (written.fraction.getD []).foldl Scaled.fractionDigit scaled
    let shift : Int :=
      match written.exponent with
      | some (true, digits) => -(natOfDigits digits : Int)
      | some (false, digits) => natOfDigits digits
      | none => 0
    (Scaled.toReal? { digits with exponent := digits.exponent + shift }).map fun value =>
      .real (if written.negative then value.negate else value)

def read? (text : List Char) : Option (Numeral × List Char) := do
  let (written, rest) ← readWritten text
  let number ← ofWritten? written
  return (number, rest)

def ofText? (text : List Char) : Option Numeral :=
  match read? text with
  | some (number, []) => some number
  | _ => none

/-! ## Text and order -/

def text : Numeral → List Char
  | .whole value => (toString value).toList
  | .real value => DecimalLayout.value.render value

def toBinary : Numeral → Binary64
  | .whole value => Binary64.ofInt value
  | .real value => value

def ratio? : Numeral → Option (Int × Nat)
  | .whole value => some (value, 1)
  | .real (.finite negative significand exponent) =>
      some (Binary64.signedRatio negative significand exponent)
  | .real _ => none

def compare? (left right : Numeral) : Option Ordering := do
  let leftRatio ← left.ratio?
  let rightRatio ← right.ratio?
  return compare (leftRatio.1 * rightRatio.2) (rightRatio.1 * leftRatio.2)

end Numeral

end ResourceScaffold

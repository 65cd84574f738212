import ResourceScaffold.Number.Binary64

/-!
Contract: the shortest decimal text of a double-precision number.

Owns:
- the shortest digits that read back as a value, and of those the nearest;
- the layout of digits around a decimal point, positional or with an exponent;
- the two layouts in use.

Does not own: reading decimal text.
-/

namespace ResourceScaffold

/-! ## Shortest digits -/

/-- Digits with a point: the number `0.d₁d₂… * 10 ^ point`. -/
structure DecimalDigits where
  digits : List Char
  point : Int
deriving DecidableEq, Repr

namespace DecimalDigits

/-- The reals that round to a positive value, scaled to a common denominator: the value, the lower
and the upper end, and whether the ends belong to the interval. -/
structure Interval where
  value : Nat
  lower : Nat
  upper : Nat
  denominator : Nat
  closed : Bool

/-- The interval of reals that round to `significand * 2 ^ exponent`. Below a power of two the next
value is half as far away. -/
def interval (significand : Nat) (exponent : Int) : Interval :=
  let ratio := Binary64.ratio significand exponent
  let step := Binary64.ratio 1 exponent
  let narrow := significand = Nat.pow 2 52 ∧ Binary64.leastExponent < exponent
  { value := ratio.1 * 4
    lower := if narrow then ratio.1 * 4 - step.1 else ratio.1 * 4 - step.1 * 2
    upper := ratio.1 * 4 + step.1 * 2
    denominator := ratio.2 * 4
    closed := significand % 2 == 0 }

/-- Whether `coefficient * 10 ^ exponent` lies in an interval. -/
def Interval.holds (interval : Interval) (coefficient : Nat) (exponent : Int) : Bool :=
  let scaled :=
    if 0 ≤ exponent then (coefficient * Nat.pow 10 exponent.toNat, 1)
    else (coefficient, Nat.pow 10 (-exponent).toNat)
  let position := scaled.1 * interval.denominator
  let lower := interval.lower * scaled.2
  let upper := interval.upper * scaled.2
  if interval.closed then lower ≤ position && position ≤ upper
  else lower < position && position < upper

/-- The place of the decimal point of a positive ratio, found from a first guess: the least `point`
with the ratio below `10 ^ point`. -/
def pointFrom (numerator denominator : Nat) : Nat → Int → Int
  | 0, guess => guess
  | steps + 1, guess =>
      let below :=
        if 0 ≤ guess then decide (numerator < denominator * Nat.pow 10 guess.toNat)
        else decide (numerator * Nat.pow 10 (-guess).toNat < denominator)
      if below then pointFrom numerator denominator steps (guess - 1) else guess + 1

def greatestPoint : Int := 309

def pointCount : Nat := 640

/-- The candidates with one number of digits, nearer one first: the neighbours of the value on the
grid of multiples of `10 ^ exponent`. -/
def neighbours (interval : Interval) (exponent : Int) : List Nat :=
  let scaled :=
    if 0 ≤ exponent then (interval.value, interval.denominator * Nat.pow 10 exponent.toNat)
    else (interval.value * Nat.pow 10 (-exponent).toNat, interval.denominator)
  let below := scaled.1 / scaled.2
  let remainder := scaled.1 % scaled.2
  if 2 * remainder < scaled.2 ∨ (2 * remainder = scaled.2 ∧ below % 2 = 0) then [below, below + 1]
  else [below + 1, below]

/-- The first grid, from `count` digits on, with a candidate in the interval. -/
def shortestFrom (interval : Interval) (point : Int) : Nat → Nat → Nat × Int
  | 0, count => ((neighbours interval (point - count)).headD 0, point - count)
  | more + 1, count =>
      match (neighbours interval (point - count)).find? fun candidate =>
          interval.holds candidate (point - count) with
      | some candidate => (candidate, point - count)
      | none => shortestFrom interval point more (count + 1)

/-- The shortest digits that read back as the positive value `significand * 2 ^ exponent`. -/
def ofBinary (significand : Nat) (exponent : Int) : DecimalDigits :=
  let reals := interval significand exponent
  let point := pointFrom reals.value reals.denominator pointCount greatestPoint
  let found := shortestFrom reals point 16 1
  let digits := Nat.toDigits 10 found.1
  let kept := (digits.reverse.dropWhile (· = '0')).reverse
  { digits := kept, point := found.2 + digits.length }

end DecimalDigits

/-! ## Layout -/

/-- How digits are laid out. Between the two bounds of the point the number is positional; outside
it has one digit in front of the point and an exponent. -/
structure DecimalLayout where
  leastPoint : Option Int
  greatestPoint : Option Int
  wholeHasPoint : Bool
deriving DecidableEq, Repr

namespace DecimalLayout

/-- The layout of values in rendered text: positional from five decimal places to sixteen whole
digits, and a whole number shows its point. -/
def value : DecimalLayout := ⟨some (-4), some 16, true⟩

/-- The layout of numbers in messages: always positional, and a whole number has no point. -/
def plain : DecimalLayout := ⟨none, none, false⟩

def isPositional (layout : DecimalLayout) (point : Int) : Bool :=
  layout.leastPoint.all (· ≤ point) && layout.greatestPoint.all (point ≤ ·)

/-- Digits with the point at its place, filled up with zeros. -/
def positional (layout : DecimalLayout) (number : DecimalDigits) : List Char :=
  let count := number.digits.length
  if number.point ≤ 0 then
    ['0', '.'] ++ List.replicate (-number.point).toNat '0' ++ number.digits
  else if number.point < count then
    number.digits.take number.point.toNat ++ '.' :: number.digits.drop number.point.toNat
  else
    number.digits ++ List.replicate (number.point.toNat - count) '0' ++
      (if layout.wholeHasPoint then ['.', '0'] else [])

def exponentText (exponent : Int) : List Char :=
  (if exponent < 0 then '-' else '+') :: (toString exponent.natAbs).toList

/-- Digits with one of them in front of the point, and an exponent. -/
def scientific (number : DecimalDigits) : List Char :=
  let exponent := exponentText (number.point - 1)
  match number.digits with
  | [] => ['0']
  | [digit] => digit :: 'e' :: exponent
  | digit :: rest => digit :: '.' :: rest ++ 'e' :: exponent

def render (layout : DecimalLayout) : Binary64 → List Char
  | .undefined => ['N', 'a', 'N']
  | .infinite negative => (if negative then ['-'] else []) ++ ['i', 'n', 'f']
  | .finite negative significand exponent =>
      let sign := if negative then ['-'] else []
      if significand = 0 then
        sign ++ '0' :: (if layout.wholeHasPoint then ['.', '0'] else [])
      else
        let number := DecimalDigits.ofBinary significand exponent
        sign ++
          (if layout.isPositional number.point then layout.positional number
           else scientific number)

end DecimalLayout

end ResourceScaffold

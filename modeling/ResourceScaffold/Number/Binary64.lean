/-!
Contract: numbers with a 53-bit significand and an 11-bit exponent, in exact integer arithmetic.

Owns:
- the values, with zeros of both signs, infinities and the undefined value;
- rounding a ratio of natural numbers to the nearest value, a tie going to the even significand;
- products and quotients of finite values, and their order.

Does not own: decimal text.
-/

namespace ResourceScaffold

/-- A double-precision number. A finite value is `significand * 2 ^ exponent` with its sign, where
the significand is below `2 ^ 53`, and at least `2 ^ 52` unless the exponent is the least one. -/
inductive Binary64 where
  | finite (negative : Bool) (significand : Nat) (exponent : Int)
  | infinite (negative : Bool)
  | undefined
deriving DecidableEq, Repr

namespace Binary64

def leastExponent : Int := -1074

def greatestExponent : Int := 971

def zero (negative : Bool) : Binary64 :=
  .finite negative 0 leastExponent

/-! ## Rounding -/

/-- The quotient of two naturals, rounded to the nearest natural, a tie going to the even one. -/
def divideToEven (numerator denominator : Nat) : Nat :=
  let quotient := numerator / denominator
  let twice := 2 * (numerator % denominator)
  if twice < denominator then quotient
  else if denominator < twice then quotient + 1
  else quotient + quotient % 2

/-- A ratio divided by `2 ^ exponent`, as a ratio. -/
def unscaled (numerator denominator : Nat) (exponent : Int) : Nat × Nat :=
  if 0 ≤ exponent then (numerator, denominator * Nat.pow 2 exponent.toNat)
  else (numerator * Nat.pow 2 (-exponent).toNat, denominator)

/-- The value nearest to a ratio, given with a sign. The denominator is not zero. -/
def ofRatio (negative : Bool) (numerator denominator : Nat) : Binary64 :=
  if numerator = 0 then zero negative
  else
    let guess := max leastExponent ((numerator.log2 : Int) - (denominator.log2 : Int) - 53)
    let guessed := unscaled numerator denominator guess
    let exponent := if Nat.pow 2 53 ≤ guessed.1 / guessed.2 then guess + 1 else guess
    let ratio := unscaled numerator denominator exponent
    let rounded := divideToEven ratio.1 ratio.2
    let significand := if rounded = Nat.pow 2 53 then Nat.pow 2 52 else rounded
    let settled := if rounded = Nat.pow 2 53 then exponent + 1 else exponent
    if greatestExponent < settled then .infinite negative
    else .finite negative significand settled

def ofNat (number : Nat) : Binary64 :=
  ofRatio false number 1

def ratio (significand : Nat) (exponent : Int) : Nat × Nat :=
  if 0 ≤ exponent then (significand * Nat.pow 2 exponent.toNat, 1)
  else (significand, Nat.pow 2 (-exponent).toNat)

/-- Decimal exponents beyond which a coefficient of at most `digits` digits is infinite or zero are
cut off, so that no power is built that is not needed. -/
def ofDecimal (negative : Bool) (coefficient : Nat) (exponent : Int) : Binary64 :=
  if coefficient = 0 then zero negative
  else if 400 < exponent then .infinite negative
  else if (Nat.toDigits 10 coefficient).length + exponent < -400 then zero negative
  else if 0 ≤ exponent then ofRatio negative (coefficient * Nat.pow 10 exponent.toNat) 1
  else ofRatio negative coefficient (Nat.pow 10 (-exponent).toNat)

/-! ## Arithmetic and order -/

def negate : Binary64 → Binary64
  | .finite negative significand exponent => .finite (!negative) significand exponent
  | .infinite negative => .infinite (!negative)
  | .undefined => .undefined

/-- The product of a value and a natural number's nearest value. -/
def scaleUp (value : Binary64) (factor : Nat) : Binary64 :=
  match value, ofNat factor with
  | .finite negative left leftExponent, .finite _ right rightExponent =>
      let leftRatio := ratio left leftExponent
      let rightRatio := ratio right rightExponent
      ofRatio negative (leftRatio.1 * rightRatio.1) (leftRatio.2 * rightRatio.2)
  | other, _ => other

/-- The quotient of a value and a positive natural number's nearest value. -/
def scaleDown (value : Binary64) (divisor : Nat) : Binary64 :=
  match value, ofNat divisor with
  | .finite negative left leftExponent, .finite _ right rightExponent =>
      let leftRatio := ratio left leftExponent
      let rightRatio := ratio right rightExponent
      ofRatio negative (leftRatio.1 * rightRatio.2) (leftRatio.2 * rightRatio.1)
  | other, _ => other

def signedRatio (negative : Bool) (significand : Nat) (exponent : Int) : Int × Nat :=
  let magnitude := ratio significand exponent
  (if negative then -(magnitude.1 : Int) else magnitude.1, magnitude.2)

/-- The order of two values, `none` when one is undefined. Zeros of both signs are equal. -/
def compare? : Binary64 → Binary64 → Option Ordering
  | .undefined, _ => none
  | _, .undefined => none
  | .infinite left, .infinite right =>
      some (if left = right then .eq else if left then .lt else .gt)
  | .infinite left, .finite _ _ _ => some (if left then .lt else .gt)
  | .finite _ _ _, .infinite right => some (if right then .gt else .lt)
  | .finite leftSign left leftExponent, .finite rightSign right rightExponent =>
      let leftRatio := signedRatio leftSign left leftExponent
      let rightRatio := signedRatio rightSign right rightExponent
      some (compare (leftRatio.1 * rightRatio.2) (rightRatio.1 * leftRatio.2))

def ofInt (number : Int) : Binary64 :=
  ofRatio (number < 0) number.natAbs 1

/-- Whether a value is finite with a full significand: neither zero nor below the normal range. -/
def isNormal : Binary64 → Bool
  | .finite _ significand _ => Nat.pow 2 52 ≤ significand
  | _ => false

end Binary64

end ResourceScaffold

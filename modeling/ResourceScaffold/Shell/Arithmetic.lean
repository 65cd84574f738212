import ResourceScaffold.Shell.Integer
import ResourceScaffold.Shell.State

/-!
Contract: arithmetic expressions.

Owns:
- the tokens of an expression;
- the value of an expression, with the variables that it reads and assigns;
- the reports about expressions that have no value.

Does not own: parameters in an expression, which are put in before it is read.
-/

namespace ResourceScaffold.Shell

open Work

/-! ## Tokens -/

/-- A token of an expression. -/
inductive Term where
  | number (value : Int)
  | name (text : Bytes)
  | operator (text : Bytes)
deriving DecidableEq, Repr

/-- The operators, of which a longer one is found first. -/
def operators : List Bytes :=
  ["<<=", ">>=", "<<", ">>", "<=", ">=", "==", "!=", "&&", "||", "+=", "-=", "*=", "/=", "%=",
    "&=", "|=", "^=", "=", "<", ">", "&", "|", "^", "+", "-", "*", "/", "%", "!", "~", "(", ")",
    "?", ":"].map String.toList

/-- The tokens of an expression, within a number of steps. A character without a meaning is a token
that fits nowhere. -/
def termsWithin : Nat → Bytes → List Term
  | 0, _ => []
  | _ + 1, [] => []
  | steps + 1, character :: rest =>
      if isNumberSpace character then termsWithin steps rest
      else if character.isDigit then
        let found := readInteger true (character :: rest)
        .number found.value :: termsWithin steps found.rest
      else if startsName character then
        let text := character :: rest
        .name (text.takeWhile continuesName) ::
          termsWithin steps (text.dropWhile continuesName)
      else
        match operators.find? fun operator => operator.isPrefixOf (character :: rest) with
        | some operator =>
            .operator operator :: termsWithin steps ((character :: rest).drop operator.length)
        | none => .operator [character] :: termsWithin steps rest

def termsOf (text : Bytes) : List Term :=
  termsWithin (text.length + 1) text

/-! ## Operators -/

/-- The levels of operators between two operands, from those that bind most tightly on. -/
def operatorLevels : List (List Bytes) :=
  [["*", "/", "%"], ["+", "-"], ["<<", ">>"], ["<", "<=", ">", ">="], ["==", "!="], ["&"], ["^"],
    ["|"]].map (·.map String.toList)

def truthNumber (holds : Bool) : Int :=
  if holds then 1 else 0

/-- The result of an operator. A division by zero has none. -/
def combine? (operator : Bytes) (left right : Int) : Option Int :=
  match String.ofList operator with
  | "*" => some (wrapInteger (left * right))
  | "/" => if right = 0 then none else some (wrapInteger (Int.tdiv left right))
  | "%" => if right = 0 then none else some (Int.tmod left right)
  | "+" => some (wrapInteger (left + right))
  | "-" => some (wrapInteger (left - right))
  | "<<" =>
      some (wrapInteger (Int.ofNat (bitsOfInteger left * Nat.pow 2 (bitsOfInteger right % 64))))
  | ">>" => some (Int.fdiv left (Int.ofNat (Nat.pow 2 (bitsOfInteger right % 64))))
  | "<" => some (truthNumber (left < right))
  | "<=" => some (truthNumber (left ≤ right))
  | ">" => some (truthNumber (right < left))
  | ">=" => some (truthNumber (right ≤ left))
  | "==" => some (truthNumber (left = right))
  | "!=" => some (truthNumber (left ≠ right))
  | "&" => some (wrapInteger (Int.ofNat (bitsOfInteger left &&& bitsOfInteger right)))
  | "^" => some (wrapInteger (Int.ofNat (bitsOfInteger left ^^^ bitsOfInteger right)))
  | "|" => some (wrapInteger (Int.ofNat (bitsOfInteger left ||| bitsOfInteger right)))
  | _ => some right

/-- The operator that an assignment combines the old value with, if a token is an assignment. -/
def assignmentOperator? (operator : Bytes) : Option Bytes :=
  let assignments :=
    ["=", "+=", "-=", "*=", "/=", "%=", "<<=", ">>=", "&=", "|=", "^="].map String.toList
  if assignments.contains operator then some operator.dropLast else none

/-! ## Values -/

/-- A value, and the tokens after the part of the expression that has it. -/
abbrev Valued := Work (Int × List Term)

/-- An expression being evaluated: its text, for reports. -/
structure Arithmetic where
  text : Bytes

namespace Arithmetic

def refuse {α : Type} (expression : Arithmetic) (reason : String) : Work α :=
  fail ("arithmetic expression: ".toList ++ reason.toList ++ ": \"".toList ++ expression.text ++
    ['"'])

def combine (expression : Arithmetic) (needed : Bool) (operator : Bytes) (left right : Int) :
    Work Int :=
  if !needed then return right
  else
    match combine? operator left right with
    | some value => return value
    | none => expression.refuse "division by zero"

/-- The number that a variable holds. One that is not set or empty holds zero. -/
def variableNumber (name : Bytes) : Work Int := do
  let value := (← value? name).getD []
  if value.isEmpty then return 0
  else
    match integerOf? true value with
    | some number => return number
    | none => fail ("Illegal number: ".toList ++ value)

mutual

/-- The value of an assignment or of what binds more tightly, within a number of steps. -/
def assignment (expression : Arithmetic) : Nat → Bool → List Term → Valued
  | 0, _, _ => expression.refuse "expecting primary"
  | steps + 1, needed, terms =>
      match terms with
      | .name name :: .operator operator :: rest =>
          match assignmentOperator? operator with
          | some combining => do
              let (value, after) ← assignment expression steps needed rest
              if needed then
                let result ←
                  if combining.isEmpty then pure value
                  else
                    expression.combine true combining (← variableNumber name) value
                Work.assign name (Bytes.ofInt result)
                return (result, after)
              else return (value, after)
          | none => conditional expression steps needed terms
      | _ => conditional expression steps needed terms

def conditional (expression : Arithmetic) : Nat → Bool → List Term → Valued
  | 0, _, _ => expression.refuse "expecting primary"
  | steps + 1, needed, terms => do
      let (condition, rest) ← either expression steps needed terms
      match rest with
      | .operator ['?'] :: inside =>
          let (first, after) ← assignment expression steps (needed && condition ≠ 0) inside
          match after with
          | .operator [':'] :: others =>
              let (second, last) ← conditional expression steps (needed && condition = 0) others
              return (if condition ≠ 0 then first else second, last)
          | _ => expression.refuse "expecting ':'"
      | _ => return (condition, rest)

/-- The value of a disjunction, whose second part is needed only if the first one is zero. -/
def either (expression : Arithmetic) : Nat → Bool → List Term → Valued
  | 0, _, _ => expression.refuse "expecting primary"
  | steps + 1, needed, terms => do
      let (left, rest) ← both expression steps needed terms
      match rest with
      | .operator ['|', '|'] :: others =>
          let (right, after) ← either expression steps (needed && left = 0) others
          return (truthNumber (left ≠ 0 || right ≠ 0), after)
      | _ => return (left, rest)

/-- The value of a conjunction, whose second part is needed only if the first one is not zero. -/
def both (expression : Arithmetic) : Nat → Bool → List Term → Valued
  | 0, _, _ => expression.refuse "expecting primary"
  | steps + 1, needed, terms => do
      let (left, rest) ← binary expression steps operatorLevels.length needed terms
      match rest with
      | .operator ['&', '&'] :: others =>
          let (right, after) ← both expression steps (needed && left ≠ 0) others
          return (truthNumber (left ≠ 0 && right ≠ 0), after)
      | _ => return (left, rest)

def binary (expression : Arithmetic) : Nat → Nat → Bool → List Term → Valued
  | 0, _, _, _ => expression.refuse "expecting primary"
  | steps + 1, 0, needed, terms => primary expression steps needed terms
  | steps + 1, level + 1, needed, terms => do
      let (left, rest) ← binary expression steps level needed terms
      binaryRest expression steps level needed left rest

def binaryRest (expression : Arithmetic) : Nat → Nat → Bool → Int → List Term → Valued
  | 0, _, _, _, _ => expression.refuse "expecting primary"
  | steps + 1, level, needed, left, terms =>
      match terms with
      | .operator operator :: rest =>
          if ((operatorLevels[level]?).getD []).contains operator then do
            let (right, after) ← binary expression steps level needed rest
            let value ← expression.combine needed operator left right
            binaryRest expression steps level needed value after
          else return (left, terms)
      | _ => return (left, terms)

def primary (expression : Arithmetic) : Nat → Bool → List Term → Valued
  | 0, _, _ => expression.refuse "expecting primary"
  | steps + 1, needed, terms =>
      match terms with
      | .number value :: rest => return (value, rest)
      | .name name :: rest => do
          if needed then return (← variableNumber name, rest)
          else return (0, rest)
      | .operator operator :: rest =>
          if operator = ['('] then do
            let (value, after) ← assignment expression steps needed rest
            match after with
            | .operator [')'] :: others => return (value, others)
            | _ => expression.refuse "expecting ')'"
          else if operator = ['+'] then primary expression steps needed rest
          else if operator = ['-'] then do
            let (value, after) ← primary expression steps needed rest
            return (wrapInteger (-value), after)
          else if operator = ['!'] then do
            let (value, after) ← primary expression steps needed rest
            return (truthNumber (value = 0), after)
          else if operator = ['~'] then do
            let (value, after) ← primary expression steps needed rest
            return (-value - 1, after)
          else expression.refuse "expecting primary"
      | [] => expression.refuse "expecting primary"

end

def evaluate (text : Bytes) : Work Int := do
  let expression : Arithmetic := ⟨text⟩
  let terms := termsOf text
  let (value, rest) ← assignment expression (32 * (terms.length + 2)) true terms
  if rest.isEmpty then return value
  else expression.refuse "expecting EOF"

end Arithmetic

end ResourceScaffold.Shell

import ResourceScaffold.Shell.Integer

/-!
Contract: conditions on texts, numbers and files.

Owns:
- the operators of conditions and how they are told from operands;
- whether a condition holds, and the reports about conditions that are none.

Does not own: files; whether one is of a kind is supplied.
-/

namespace ResourceScaffold.Shell

/-! ## Operators -/

/-- What an argument of a condition is. -/
inductive ConditionToken where
  | missing
  | operand
  | unary (letter : Char)
  | binary (operator : Bytes)
  | negation
  | conjunction
  | disjunction
  | leftParenthesis
  | rightParenthesis
deriving DecidableEq, Repr

def unaryLetters : List Char :=
  "rwxefdcbpugkstznhOGLS".toList

def binaryOperators : List Bytes :=
  ["=", "!=", "<", ">", "-eq", "-ne", "-ge", "-gt", "-le", "-lt", "-nt", "-ot", "-ef"].map
    String.toList

def operatorOf? (text : Bytes) : Option ConditionToken :=
  match text with
  | ['!'] => some .negation
  | ['-', 'a'] => some .conjunction
  | ['-', 'o'] => some .disjunction
  | ['('] => some .leftParenthesis
  | [')'] => some .rightParenthesis
  | ['-', letter] => if unaryLetters.contains letter then some (.unary letter) else none
  | _ => if binaryOperators.contains text then some (.binary text) else none

def isBinary (text : Bytes) : Bool :=
  match operatorOf? text with
  | some (.binary _) => true
  | _ => false

/-- A condition: its arguments, and whether a file is of the kind of a letter. -/
structure Condition where
  arguments : List Bytes
  isOfKind : Char → Bytes → Bool

namespace Condition

/-- Whether an operator with one operand stands where an operand is meant. -/
def isOperand (condition : Condition) (place : Nat) : Bool :=
  match condition.arguments[place + 1]?, condition.arguments[place + 2]? with
  | none, _ => true
  | some _, none => false
  | some next, some _ => isBinary next

def token (condition : Condition) (place : Nat) : ConditionToken :=
  match condition.arguments[place]? with
  | none => .missing
  | some text =>
      match operatorOf? text with
      | some (.unary letter) =>
          if condition.isOperand place then .operand else .unary letter
      | some .leftParenthesis =>
          if condition.arguments[place + 1]?.isNone then .operand else .leftParenthesis
      | some found => found
      | none => .operand

/-! ## Holding -/

/-- Whether a part of a condition holds and the place of its last argument, or a report. -/
abbrev Held := Except Bytes (Bool × Nat)

def numberOf (text : Bytes) : Except Bytes Int :=
  match integerOf? false text with
  | some number => .ok number
  | none => .error ("Illegal number: ".toList ++ text)

def relates (operator left right : Bytes) : Except Bytes Bool := do
  match String.ofList operator with
  | "=" => return left = right
  | "!=" => return left ≠ right
  | "<" => return left < right
  | ">" => return right < left
  | "-eq" => return (← numberOf left) = (← numberOf right)
  | "-ne" => return (← numberOf left) ≠ (← numberOf right)
  | "-ge" => return (← numberOf right) ≤ (← numberOf left)
  | "-gt" => return (← numberOf right) < (← numberOf left)
  | "-le" => return (← numberOf left) ≤ (← numberOf right)
  | "-lt" => return (← numberOf left) < (← numberOf right)
  | _ => return false

def holdsOf (condition : Condition) (letter : Char) (operand : Bytes) : Except Bytes Bool := do
  if letter = 'z' then return operand.isEmpty
  else if letter = 'n' then return !operand.isEmpty
  else if letter = 't' then
    let _ ← numberOf operand
    return false
  else return condition.isOfKind letter operand

mutual

/-- Whether one of the conditions from a place on holds that are joined by `-o`, within a number of
steps. -/
def anyHolds (condition : Condition) : Nat → ConditionToken → Nat → Held
  | 0, _, place => .ok (false, place)
  | steps + 1, token, place =>
      match condition.allHold steps token place with
      | .error reason => .error reason
      | .ok (holds, last) =>
          if condition.token (last + 1) = .disjunction then
            match condition.anyHolds steps (condition.token (last + 2)) (last + 2) with
            | .error reason => .error reason
            | .ok (others, after) => .ok (holds || others, after)
          else .ok (holds, last)

/-- Whether all of the conditions from a place on hold that are joined by `-a`. -/
def allHold (condition : Condition) : Nat → ConditionToken → Nat → Held
  | 0, _, place => .ok (false, place)
  | steps + 1, token, place =>
      match condition.negatedHolds steps token place with
      | .error reason => .error reason
      | .ok (holds, last) =>
          if condition.token (last + 1) = .conjunction then
            match condition.allHold steps (condition.token (last + 2)) (last + 2) with
            | .error reason => .error reason
            | .ok (others, after) => .ok (holds && others, after)
          else .ok (holds, last)

def negatedHolds (condition : Condition) : Nat → ConditionToken → Nat → Held
  | 0, _, place => .ok (false, place)
  | steps + 1, token, place =>
      if token = .negation then
        let next := condition.token (place + 1)
        let start := if next = .missing then place else place + 1
        (condition.negatedHolds steps next start).map fun found => (!found.1, found.2)
      else condition.singleHolds steps token place

/-- Whether a condition without `-a` and `-o` holds. -/
def singleHolds (condition : Condition) : Nat → ConditionToken → Nat → Held
  | 0, _, place => .ok (false, place)
  | steps + 1, token, place =>
      match token with
      | .missing => .ok (false, place)
      | .leftParenthesis =>
          let next := condition.token (place + 1)
          if next = .rightParenthesis then .ok (false, place + 1)
          else
            match condition.anyHolds steps next (place + 1) with
            | .error reason => .error reason
            | .ok (holds, last) =>
                if condition.token (last + 1) = .rightParenthesis then .ok (holds, last + 1)
                else .error "closing paren expected".toList
      | .unary letter =>
          match condition.arguments[place + 1]? with
          | none => .error (['-', letter] ++ ": argument expected".toList)
          | some operand =>
              (condition.holdsOf letter operand).map fun holds => (holds, place + 1)
      | _ =>
          let left := (condition.arguments[place]?).getD []
          match condition.token (place + 1) with
          | .binary operator =>
              match condition.arguments[place + 2]? with
              | none => .error (operator ++ ": argument expected".toList)
              | some right =>
                  (relates operator left right).map fun holds => (holds, place + 2)
          | _ => .ok (!left.isEmpty, place)

end

/-- Whether a condition holds as a whole. Nothing may follow it. -/
def holdsFrom (condition : Condition) (token : ConditionToken) : Except Bytes Bool := do
  let steps := 6 * (condition.arguments.length + 2)
  let (holds, last) ← condition.anyHolds steps token 0
  match condition.arguments[last]?, condition.arguments[last + 1]? with
  | some text, some _ => throw (text ++ ": unexpected operator".toList)
  | _, _ => return holds

end Condition

/-- Whether the condition that arguments make up holds. Three and four arguments are told apart by
rules of their own. -/
def conditionHolds (isOfKind : Char → Bytes → Bool) : Nat → List Bytes → Except Bytes Bool
  | 0, _ => .ok false
  | steps + 1, arguments =>
      let condition : Condition := ⟨arguments, isOfKind⟩
      let inParentheses :=
        arguments.head? = some ['('] ∧ arguments.getLast? = some [')']
      let stripped : Condition := ⟨(arguments.drop 1).dropLast, isOfKind⟩
      match arguments with
      | [] => .ok false
      | [_, operator, _] =>
          if isBinary operator then condition.holdsFrom .operand
          else if inParentheses then stripped.holdsFrom (stripped.token 0)
          else if arguments.head? = some ['!'] then
            (conditionHolds isOfKind steps (arguments.drop 1)).map (! ·)
          else condition.holdsFrom (condition.token 0)
      | [_, _, _, _] =>
          if inParentheses then stripped.holdsFrom (stripped.token 0)
          else if arguments.head? = some ['!'] then
            (conditionHolds isOfKind steps (arguments.drop 1)).map (! ·)
          else condition.holdsFrom (condition.token 0)
      | _ => condition.holdsFrom (condition.token 0)

end ResourceScaffold.Shell

import ResourceScaffold.Template.Scope
import ResourceScaffold.Number.Spelled

/-!
Contract: the helpers that tags can call.

Owns:
- the names of the helpers;
- the values of helpers that compute one;
- the values of operands.

Does not own: helpers' effects on the blocks that call them, which are rendering.
-/

namespace ResourceScaffold.Template

/-! ## Helpers -/

/-- The helpers that compute a value. -/
inductive ValueHelper where
  | lookup
  | size
deriving DecidableEq, Repr

/-- The helpers that answer a question about their arguments. -/
inductive Predicate where
  | equal
  | notEqual
  | greater
  | greaterOrEqual
  | less
  | lessOrEqual
  | conjunction
  | disjunction
  | negation
deriving DecidableEq, Repr

/-- The helpers. `condition true` renders its block if its argument is true, `condition false` if
it is not. -/
inductive Helper where
  | condition (expected : Bool)
  | each
  | scoped
  | raw
  | log
  | value (helper : ValueHelper)
  | predicate (predicate : Predicate)
deriving DecidableEq, Repr

def Helper.ofName? : String → Option Helper
  | "if" => some (.condition true)
  | "unless" => some (.condition false)
  | "each" => some .each
  | "with" => some .scoped
  | "raw" => some .raw
  | "log" => some .log
  | "lookup" => some (.value .lookup)
  | "len" => some (.value .size)
  | "eq" => some (.predicate .equal)
  | "ne" => some (.predicate .notEqual)
  | "gt" => some (.predicate .greater)
  | "gte" => some (.predicate .greaterOrEqual)
  | "lt" => some (.predicate .less)
  | "lte" => some (.predicate .lessOrEqual)
  | "and" => some (.predicate .conjunction)
  | "or" => some (.predicate .disjunction)
  | "not" => some (.predicate .negation)
  | _ => none

/-- Whether a helper answers a question. The answer is written without any margin. -/
def Helper.isPredicate : Helper → Bool
  | predicate _ => true
  | _ => false

def Predicate.name : Predicate → String
  | equal => "eq"
  | notEqual => "ne"
  | greater => "gt"
  | greaterOrEqual => "gte"
  | less => "lt"
  | lessOrEqual => "lte"
  | conjunction => "and"
  | disjunction => "or"
  | negation => "not"

/-! ## Found values -/

/-- What an operand came to: a value, unless it refers to nothing, and the path that was written. -/
structure Found where
  value : Option Value
  path : Option String

/-- The value of an operand, where what is missing counts as null. -/
def Found.orNull (found : Found) : Value :=
  found.value.getD .null

/-- The order of two values, if they have one. A number and a text are compared as numbers if the
whole text spells one. -/
def compareValues : Value → Value → Option Ordering
  | .number left, .number right => left.compare? right
  | .string left, .string right => some (compare left right)
  | .boolean left, .boolean right => some (compare left right)
  | .number left, .string right => (Numeral.ofText? right.toList).bind left.compare?
  | .string left, .number right =>
      (Numeral.ofText? left.toList).bind fun number => number.compare? right
  | _, _ => none

/-- The number of items, fields or bytes of a value. -/
def sizeOfValue : Value → Nat
  | .list items => items.length
  | .record fields => fields.length
  | .string text => text.utf8ByteSize
  | _ => 0

/-- The part of a list at an index, or of a record under a key. -/
def partOf (collection key : Value) : Option Value :=
  match collection, key with
  | .list items, .number (.whole index) =>
      if 0 ≤ index then items[index.toNat]? else none
  | .record fields, .string name => fields.lookup name
  | _, _ => none

def argumentAt (helper : String) (arguments : List Found) (index : Nat) :
    Except RenderCause Found :=
  match arguments[index]? with
  | some found => .ok found
  | none => .error (.argumentMissing helper index)

def requiredAt (helper : String) (arguments : List Found) (index : Nat) :
    Except RenderCause Value :=
  match arguments[index]?.bind Found.value with
  | some value => .ok value
  | none => .error (.argumentMissing helper index)

def ordered (accepted : Ordering → Bool) (left right : Value) : Bool :=
  (compareValues left right).any accepted

def Predicate.ofPair (predicate : Predicate) (arguments : List Found)
    (holds : Value → Value → Bool) : Except RenderCause Bool := do
  let left ← requiredAt predicate.name arguments 0
  let right ← requiredAt predicate.name arguments 1
  return holds left right

/-- The answer of a predicate. A conjunction and a disjunction take any number of arguments, and
what is missing counts as false in them. -/
def Predicate.apply (predicate : Predicate) (arguments : List Found) : Except RenderCause Bool :=
  match predicate with
  | .equal => predicate.ofPair arguments Value.same
  | .notEqual => predicate.ofPair arguments fun left right => !Value.same left right
  | .greater => predicate.ofPair arguments (ordered (· == .gt))
  | .greaterOrEqual => predicate.ofPair arguments (ordered (· != .lt))
  | .less => predicate.ofPair arguments (ordered (· == .lt))
  | .lessOrEqual => predicate.ofPair arguments (ordered (· != .gt))
  | .conjunction => .ok (arguments.all fun argument => argument.orNull.isTrue false)
  | .disjunction => .ok (arguments.any fun argument => argument.orNull.isTrue false)
  | .negation => (requiredAt predicate.name arguments 0).map fun value => !value.isTrue false

def ValueHelper.apply (helper : ValueHelper) (arguments : List Found) : Except RenderCause Value :=
  match helper with
  | .lookup => do
      let collection ← argumentAt "lookup" arguments 0
      let key ← argumentAt "lookup" arguments 1
      match partOf collection.orNull key.orNull with
      | some value => return value
      | none => throw (.missingVariable none)
  | .size =>
      match arguments.head?.bind Found.value with
      | some value => .ok (.number (.whole (sizeOfValue value)))
      | none => .error (.namedArgumentMissing "len" "x")

/-! ## Helpers without a block -/

def logLevels : List String := ["error", "warn", "info", "debug", "trace"]

def checkLogLevel (options : List (String × Found)) : Except RenderCause Unit :=
  match (options.lookup "level").bind Found.value with
  | some (.string level) =>
      if logLevels.contains (String.ofList (level.toList.map Char.toLower)) then .ok ()
      else .error (.unknownLogLevel level)
  | _ => .ok ()

/-- What a helper that has no block writes: the value that it computes, or nothing. -/
def Helper.blockless (helper : Helper) (arguments : List Found) (options : List (String × Found)) :
    Except RenderCause (Option Value) :=
  match helper with
  | .condition _ => (argumentAt "if" arguments 0).map fun _ => none
  | .each => (argumentAt "each" arguments 0).map fun _ => none
  | .scoped => do
      let argument ← argumentAt "with" arguments 0
      if argument.orNull.isTrue false then return none
      else throw (.missingVariable argument.path)
  | .raw => .ok none
  | .log => (checkLogLevel options).map fun _ => none
  | .value computed => (computed.apply arguments).map some
  | .predicate asked => (asked.apply arguments).map fun answer => some (.boolean answer)

/-! ## Operands -/

mutual

def findOperand (around : Surroundings) : Operand → Except RenderCause Found
  | .reference reference =>
      (valueOf around reference).map fun value => ⟨value, some reference.text⟩
  | .literal value => .ok ⟨some value, none⟩
  | .call name arguments options => do
      let foundArguments ← findArguments around arguments
      let foundOptions ← findOptions around options
      match Helper.ofName? name with
      | none => throw (.helperNotFound name)
      | some helper =>
          let computed ← helper.blockless foundArguments foundOptions
          return ⟨some (computed.getD (.string "")), none⟩

def findArguments (around : Surroundings) : List Operand → Except RenderCause (List Found)
  | [] => .ok []
  | argument :: rest => do
      let found ← findOperand around argument
      let others ← findArguments around rest
      return found :: others

def findOptions (around : Surroundings) :
    List (String × Operand) → Except RenderCause (List (String × Found))
  | [] => .ok []
  | (key, value) :: rest => do
      let found ← findOperand around value
      let others ← findOptions around rest
      return (key, found) :: others

end

end ResourceScaffold.Template

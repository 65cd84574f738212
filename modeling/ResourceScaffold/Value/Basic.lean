import ResourceScaffold.Number.Numeral

/-!
Contract: the data that templates are rendered with.

Owns:
- data values and the access to their parts;
- records with their keys in order;
- truth, text and equality of values, as conditions and output use them.

Does not own: a written form that can be read back.
-/

namespace ResourceScaffold

/-- A data value. The fields of a record are sorted by key, and no key occurs twice. -/
inductive Value where
  | null
  | boolean (value : Bool)
  | number (value : Numeral)
  | string (value : String)
  | list (items : List Value)
  | record (fields : List (String × Value))

namespace Value

/-! ## Records -/

/-- Fields with one field set, at the place that its key has in the order. -/
def setField (key : String) (value : Value) : List (String × Value) → List (String × Value)
  | [] => [(key, value)]
  | field :: rest =>
      if key = field.1 then (key, value) :: rest
      else if key < field.1 then (key, value) :: field :: rest
      else field :: setField key value rest

/-- The record with the given fields, of which a later one replaces an earlier one. -/
def ofFields (fields : List (String × Value)) : Value :=
  .record (fields.foldl (fun sorted field => setField field.1 field.2 sorted) [])

def field? (key : String) : Value → Option Value
  | .record fields => fields.lookup key
  | _ => none

/-! ## Truth -/

/-- Whether a number counts as true. Zero does only if it is included. -/
def numberIsTrue (includeZero : Bool) (number : Numeral) : Bool :=
  includeZero || number.toBinary.isNormal

/-- Whether a value counts as true in a condition: anything but null, false, zero and what is
empty. -/
def isTrue (includeZero : Bool) : Value → Bool
  | .null => false
  | .boolean value => value
  | .number value => numberIsTrue includeZero value
  | .string value => !value.isEmpty
  | .list items => !items.isEmpty
  | .record fields => !fields.isEmpty

/-! ## Text -/

mutual

def text : Value → List Char
  | .null => []
  | .boolean true => ['t', 'r', 'u', 'e']
  | .boolean false => ['f', 'a', 'l', 's', 'e']
  | .number value => value.text
  | .string value => value.toList
  | .list items => '[' :: itemsText items ++ [']']
  | .record _ => ['[', 'o', 'b', 'j', 'e', 'c', 't', ']']

/-- The texts of values, with a comma and a space between them. -/
def itemsText : List Value → List Char
  | [] => []
  | item :: rest =>
      match rest with
      | [] => item.text
      | next :: others => item.text ++ ',' :: ' ' :: itemsText (next :: others)

end

/-! ## Equality -/

/-- Whether two numbers are the same: a whole number never equals a real one. -/
def sameNumber : Numeral → Numeral → Bool
  | .whole left, .whole right => left == right
  | .real left, .real right => left.compare? right == some .eq
  | _, _ => false

mutual

def same : Value → Value → Bool
  | .null, .null => true
  | .boolean left, .boolean right => left == right
  | .number left, .number right => sameNumber left right
  | .string left, .string right => left == right
  | .list left, .list right => sameItems left right
  | .record left, .record right => sameFields left right
  | _, _ => false

def sameItems : List Value → List Value → Bool
  | [], [] => true
  | left :: leftRest, right :: rightRest => same left right && sameItems leftRest rightRest
  | _, _ => false

def sameFields : List (String × Value) → List (String × Value) → Bool
  | [], [] => true
  | (leftKey, left) :: leftRest, (rightKey, right) :: rightRest =>
      leftKey == rightKey && same left right && sameFields leftRest rightRest
  | _, _ => false

end

end Value

end ResourceScaffold

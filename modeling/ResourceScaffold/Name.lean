import ResourceScaffold.Text.Blank
import ResourceScaffold.Text.Case
import ResourceScaffold.Text.Cluster

/-!
Contract: the name of a resource and the forms in which generated code uses it.

Owns:
- the type of accepted names;
- the derived forms: type name, URL segment, identifier field, title, base path and router name;
- the choice between a given name and the default one.

Does not own: where a form is used.
-/

namespace ResourceScaffold

/-! ## Word forms -/

/-- A word as a URL segment: a hyphen goes in front of every ASCII capital, every character is put
into lower case on its own, and hyphens and white space are trimmed at the ends. -/
def kebabChars (word : List Char) : List Char :=
  Text.trimOf (fun character => character = '-' || Text.isBlank character)
    (word.flatMap fun character =>
      if character.isUpper then '-' :: Text.lower character else Text.lower character)

def kebabCase (word : String) : String :=
  String.ofList (kebabChars word.toList)

def upperFirst (word : String) : String :=
  String.ofList (Text.upperFirst word.toList)

def idField (word : String) : String :=
  "id" ++ upperFirst word

/-! ## Titles -/

/-- How a cluster counts when a name is cut into words. -/
inductive ClusterKind where
  | separator
  | upper
  | lower
  | digit
  | other
deriving DecidableEq, Repr

/-- The kind of a cluster. A cluster has a case when its two case forms differ and it is one of
them; a digit is a cluster of ASCII digits. -/
def clusterKind (cluster : List Char) : ClusterKind :=
  let upperForm := Text.upperText cluster
  let lowerForm := Text.lowerText cluster
  if cluster = ['_'] ∨ cluster = ['-'] ∨ cluster = [' '] then .separator
  else if upperForm ≠ lowerForm ∧ cluster = upperForm then .upper
  else if upperForm ≠ lowerForm ∧ cluster = lowerForm then .lower
  else if cluster.all Char.isDigit then .digit
  else .other

/-- Whether a word ends after a cluster, given the kinds of the cluster and of those after it. -/
def wordEndsAfter : ClusterKind → List ClusterKind → Bool
  | .lower, .upper :: _ => true
  | .lower, .digit :: _ => true
  | .upper, .digit :: _ => true
  | .digit, .lower :: _ => true
  | .digit, .upper :: _ => true
  | .upper, .upper :: .lower :: _ => true
  | _, _ => false

/-- The words of a name, where `word` holds the characters of the word that has begun. -/
def wordsAfter (word : List Char) : List (List Char) → List (List Char)
  | [] => [word]
  | cluster :: rest =>
      if clusterKind cluster = .separator then
        word :: wordsAfter [] rest
      else if wordEndsAfter (clusterKind cluster) ((rest.take 2).map clusterKind) then
        (word ++ cluster) :: wordsAfter [] rest
      else
        wordsAfter (word ++ cluster) rest

def joinWords : List (List Char) → List Char
  | [] => []
  | [word] => word
  | word :: rest => word ++ ' ' :: joinWords rest

/-- A name as a title: its words capitalised, with single spaces between them. -/
def titleCase (name : String) : String :=
  String.ofList
    (joinWords ((wordsAfter [] (Text.clusters name.toList)).map Text.capitalized))

/-! ## Names -/

/-- The name of a resource: any text that is not empty. -/
structure ResourceName where
  camel : String
  camel_ne_empty : camel ≠ ""
deriving DecidableEq

namespace ResourceName

def ofWord? (word : String) : Option ResourceName :=
  if accepted : word ≠ "" then some ⟨word, accepted⟩ else none

/-- The word that names the resource: the given one unless it is missing or empty, else the
default. -/
def chosenWord (given : Option String) (default : String) : String :=
  match given with
  | some word => if word = "" then default else word
  | none => default

def pascal (name : ResourceName) : String :=
  upperFirst name.camel

def kebab (name : ResourceName) : String :=
  kebabCase name.camel

def idField (name : ResourceName) : String :=
  ResourceScaffold.idField name.camel

def title (name : ResourceName) : String :=
  titleCase name.camel

def basePath (name : ResourceName) : String :=
  "/" ++ name.kebab

def routesIdent (name : ResourceName) : String :=
  name.camel ++ "Routes"

/-- A word is accepted exactly when it is not empty, and then it is the name. -/
theorem ofWord?_eq_some_iff {word : String} {name : ResourceName} :
    ofWord? word = some name ↔ word ≠ "" ∧ name.camel = word := by
  unfold ofWord?
  split
  · rename_i accepted
    constructor
    · intro equal
      cases equal
      exact ⟨accepted, rfl⟩
    · rintro ⟨_, rfl⟩
      rfl
  · rename_i refused
    simp [refused]

end ResourceName

end ResourceScaffold

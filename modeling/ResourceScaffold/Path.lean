import ResourceScaffold.Text.Search

/-!
Contract: file paths as written, with `/` between their parts.

Owns:
- joining paths, where an absolute right side replaces the left;
- the parent, the file name and the replacement of the file name of a path.

Does not own: what a path refers to. No operation here looks at a file tree, and none resolves
`.` or `..`.
-/

namespace ResourceScaffold

open Text (splitOn)

/-- A file path as it is written. -/
structure Path where
  text : String
deriving DecidableEq, Repr, Inhabited

namespace Path

/-! ## Written form -/

def joinSegments : List (List Char) → List Char
  | [] => []
  | [segment] => segment
  | segment :: rest => segment ++ '/' :: joinSegments rest

def isAbsolute (path : Path) : Bool :=
  path.text.toList.head? = some '/'

/-- Joins two written paths with one `/`, unless the left one is empty or already ends in `/`. -/
def joinText (left right : List Char) : List Char :=
  if right.head? = some '/' then right
  else if left.getLast?.all (· = '/') then left ++ right
  else left ++ '/' :: right

/-- The path `right` seen from the directory `left`; an absolute `right` stays as it is. -/
def join (left right : Path) : Path :=
  ⟨String.ofList (joinText left.text.toList right.text.toList)⟩

/-! ## Lead and body -/

/-- A written path cut into a lead that is not a name, and the segments after it. The lead is the
root `/`, a leading `.`, or nothing. -/
structure Segmented where
  lead : List Char
  body : List (List Char)

def segmented (path : Path) : Segmented :=
  match splitOn '/' path.text.toList with
  | [] => ⟨[], []⟩
  | [] :: rest => if path.text.isEmpty then ⟨[], []⟩ else ⟨['/'], rest⟩
  | ['.'] :: rest => ⟨['.'], rest⟩
  | segments => ⟨[], segments⟩

/-- Whether a segment names nothing: it is empty or a dot. -/
def isIdle (segment : List Char) : Bool :=
  segment.isEmpty || segment = ['.']

def dropIdle (segments : List (List Char)) : List (List Char) :=
  (segments.reverse.dropWhile isIdle).reverse

def Segmented.written (parts : Segmented) : List Char :=
  match parts.body with
  | [] => parts.lead
  | body =>
      if parts.lead = ['.'] then '.' :: '/' :: joinSegments body
      else parts.lead ++ joinSegments body

/-- The path without its last component. The root and the empty path have none, and separators
and dots in front of the removed component go with it. -/
def parent? (path : Path) : Option Path :=
  let parts := path.segmented
  match dropIdle parts.body with
  | [] => if parts.lead = ['.'] then some ⟨""⟩ else none
  | body =>
      some ⟨String.ofList (Segmented.written ⟨parts.lead, dropIdle body.dropLast⟩)⟩

def fileName? (path : Path) : Option String :=
  match (dropIdle path.segmented.body).getLast? with
  | some segment => if segment = ['.', '.'] then none else some (String.ofList segment)
  | none => none

/-- The path with another last component. A path without a file name is only extended. -/
def withFileName (path : Path) (name : String) : Path :=
  match path.fileName?, path.parent? with
  | some _, some parent => parent.join ⟨name⟩
  | _, _ => path.join ⟨name⟩

/-- A path followed by its parent, the parent's parent and so on, at most `depth` of them. -/
def ancestorsWithin : Nat → Path → List Path
  | 0, _ => []
  | depth + 1, path =>
      path :: match path.parent? with
        | some parent => ancestorsWithin depth parent
        | none => []

/-- A path followed by all its parents, outermost last. -/
def ancestors (path : Path) : List Path :=
  ancestorsWithin (path.text.length + 1) path

/-! ## Laws -/

theorem join_of_isAbsolute (left : Path) {right : Path} (absolute : right.isAbsolute = true) :
    left.join right = right := by
  have leads : right.text.toList.head? = some '/' := by simpa [isAbsolute] using absolute
  simp [join, joinText, leads]

@[simp] theorem empty_join (right : Path) : (Path.mk "").join right = right := by
  simp [join, joinText]

end Path

end ResourceScaffold

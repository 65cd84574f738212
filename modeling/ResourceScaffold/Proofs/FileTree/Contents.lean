import ResourceScaffold.Proofs.FileTree.Rooted

/-!
Contract: the contents of the files in a tree, and what operations make of them.

Owns:
- contents by location, without the directories around them;
- contents after a write, after new directories and after a move;
- where a path leads by its names, steps up included.

Does not own: which operations a program carries out.
-/

namespace ResourceScaffold.FileTree

variable {tree changed : FileTree} {path : Path} {location : Location} {content : ByteArray}

/-! ## Contents -/

/-- The contents of files, by location. -/
abbrev Contents := Location → Option ByteArray

def contents (tree : FileTree) : Contents := fun location =>
  match tree.node? location with
  | some (.file content) => some content
  | _ => none

theorem contents_eq_some_iff :
    tree.contents location = some content ↔ tree.node? location = some (.file content) := by
  rw [contents]
  rcases tree.node? location with - | ⟨- | other⟩ <;> simp

theorem exists_name (found : tree.contents location = some content) :
    ∃ front name, location = front ++ [name] := by
  rcases List.eq_nil_or_concat location with rfl | ⟨front, name, same⟩
  · cases found
  · exact ⟨front, name, same.trans List.concat_eq_append⟩

/-- No file lies below a file. -/
def Contents.Valid (contents : Contents) : Prop :=
  ∀ outer inner, outer <+: inner → contents outer ≠ none → contents inner ≠ none → outer = inner

theorem WellFormed.contents_valid (wellFormed : tree.WellFormed) : tree.contents.Valid := by
  rintro outer inner ⟨rest, rfl⟩ here below
  obtain ⟨content, found⟩ := Option.ne_none_iff_exists'.1 here
  obtain ⟨content', found'⟩ := Option.ne_none_iff_exists'.1 below
  by_contra different
  have nonempty : rest ≠ [] := fun empty => different (by simp [empty])
  have noDirectory : tree.node? outer ≠ some .directory := by
    rw [contents_eq_some_iff.1 found]
    nofun
  have vacant := wellFormed.vacant_below noDirectory nonempty
  rw [contents_eq_some_iff.1 found'] at vacant
  cases vacant

/-! ## Changes -/

/-- Contents after a file was written. -/
abbrev Contents.write (contents : Contents) (location : Location) (content : ByteArray) : Contents :=
  Function.update contents location (some content)

def Contents.moved (contents : Contents) (source target : Location) : Contents := fun location =>
  if target <+: location then contents (source ++ location.drop target.length)
  else if source <+: location then none
  else contents location

theorem contents_set (below : location ≠ []) (content : ByteArray) :
    (tree.set location (.file content)).contents = tree.contents.write location content := by
  funext other
  by_cases same : other = location
  · rw [same, Contents.write, Function.update_self, contents_eq_some_iff,
      node?_set_self tree _ below]
  · rw [Contents.write, Function.update_of_ne same, contents, contents, node?_set_of_ne tree _ same]

theorem contents_move {source target : Location} (apart : Apart source target) :
    (tree.move source target).contents = tree.contents.moved source target := by
  funext other
  by_cases root : other = []
  · -- Neither of the two places is the root, which is a directory before and after.
    have outside {place other : Location} (apart : Apart place other) : ¬place <+: [] := fun leads =>
      apart.1 (List.prefix_nil.1 leads ▸ List.nil_prefix)
    rw [root, Contents.moved, if_neg (outside apart.symm), if_neg (outside apart)]
    rfl
  · rw [contents, node?_move_of_apart apart root, Contents.moved]
    split_ifs <;> rfl

/-! ## Operations -/

theorem createDirectory_contents (created : tree.createDirectory path = .ok changed) :
    changed.contents = tree.contents ∧ changed.workingDirectory = tree.workingDirectory := by
  obtain ⟨below, vacant, rfl, -⟩ := createDirectory_landing created
  refine ⟨funext fun other => ?_, rfl⟩
  by_cases same : other = tree.landing path
  · rw [same, contents, contents, node?_set_self tree _ below, vacant]
  · rw [contents, contents, node?_set_of_ne tree _ same]

/-- Creating directories changes no file, whether it succeeds or not. -/
theorem createChain_contents {make : FileTree → Path → Except Fault FileTree}
    (makes : ∀ {tree path after}, make tree path = .ok after → tree.createDirectory path = .ok after)
    (tree : FileTree) (paths : List Path) :
    (createChain make tree paths).1.contents = tree.contents ∧
      (createChain make tree paths).1.workingDirectory = tree.workingDirectory :=
  createChain_closed makes (fun before after => after.contents = before.contents ∧
      after.workingDirectory = before.workingDirectory)
    (fun _ => ⟨rfl, rfl⟩)
    (fun first second => ⟨second.1.trans first.1, second.2.trans first.2⟩) tree paths
    fun _ _ => createDirectory_contents

/-! ## Landings by names -/

theorem landingFrom_named (location : Location) (segments : List (List Char)) :
    landingFrom location (segments.map String.ofList) =
      landingFrom location ((Path.named segments).map String.ofList) := by
  induction segments generalizing location with
  | nil => rfl
  | cons segment rest inductionHypothesis =>
      rw [List.map_cons, landingFrom, List.foldl_cons]
      change landingFrom (step location (String.ofList segment)) _ = _
      rw [inductionHypothesis]
      by_cases idle : Path.isIdle segment = true
      · rw [Path.named_cons_of_isIdle idle, step, if_pos (isIdle_iff.1 idle)]
      · rw [Path.named_cons_of_busy (by simpa using idle), List.map_cons, landingFrom, landingFrom,
          List.foldl_cons]

/-- Paths seen from a root lead on by their names from where the root leads, unless they are
absolute. -/
theorem landing_join_names (tree : FileTree) (root path : Path) :
    ∃ start, ∀ other : Path, other.isAbsolute = path.isAbsolute →
      tree.landing (root.join other) = landingFrom start (other.names.map String.ofList) := by
  by_cases absolute : path.isAbsolute = true
  · refine ⟨[], fun other same => ?_⟩
    rw [absolute] at same
    rw [Path.join_of_isAbsolute root same, landing, startOf, if_pos same, pathSegments_eq,
      landingFrom_named]
    rfl
  · refine ⟨tree.landing root, fun other same => ?_⟩
    have relative : other.isAbsolute = false := by
      rw [same]
      simpa using absolute
    obtain ⟨front, joined, ends⟩ := pathSegments_join root relative
    rw [landing, startOf_join tree root relative, joined, landingFrom_append,
      landingFrom_front tree ends, pathSegments_eq, landingFrom_named]
    rfl

/-- A path that does not end in a step up leads to its last name in a directory. -/
theorem landingFrom_concat (start : Location) (front : List (List Char)) {last : List Char}
    (busy : Path.isIdle last = false) (noStepUp : last ≠ ['.', '.']) :
    landingFrom start ((front ++ [last]).map String.ofList) =
      landingFrom start (front.map String.ofList) ++ [String.ofList last] := by
  have notUp : ¬String.ofList last = ".." := mt stepsUp_iff.1 noStepUp
  have notIdle : ¬(String.ofList last = "" ∨ String.ofList last = ".") :=
    mt isIdle_iff.2 (by simp [busy])
  rw [List.map_append, landingFrom_append, List.map_singleton, landingFrom, List.foldl_cons,
    List.foldl_nil, step, if_neg notIdle, if_neg notUp]

end ResourceScaffold.FileTree

import ResourceScaffold.Proofs.FileTree.Landing

/-!
Contract: paths below a root that may step up, while they never do themselves.

Owns:
- roots that can be followed to a directory;
- the place of a path below a root, and what its status depends on;
- reading the text of a file.

Does not own: operations.
-/

namespace ResourceScaffold.FileTree

open ResourceScaffold.Path (named isIdle endsIdle)

variable {tree before after : FileTree} {root path : Path}

/-! ## Roots -/

/-- A root can be followed, and leads to a directory. -/
structure Reaches (tree : FileTree) (root : Path) : Prop where
  followed : tree.follow (tree.startOf root) (pathSegments root) = .ok (tree.landing root)
  directory : tree.node? (tree.landing root) = some .directory

theorem landing_congr (sameStart : after.workingDirectory = before.workingDirectory) (path : Path) :
    after.landing path = before.landing path := by
  rw [landing, landing, startOf, startOf, sameStart]

theorem Reaches.mono (reaches : Reaches before root)
    (sameStart : after.workingDirectory = before.workingDirectory)
    (kept : KeepsDirectories before after) : Reaches after root where
  followed := by
    have start : after.startOf root = before.startOf root := by
      rw [startOf, startOf, sameStart]
    rw [start, landing_congr sameStart]
    exact follow_mono kept reaches.followed
  directory := by
    rw [landing_congr sameStart]
    exact kept reaches.directory

/-! ## Places -/

/-- Where a path leads below a root. -/
def placeBelow (tree : FileTree) (root path : Path) : Location :=
  tree.landing root ++ path.names.map String.ofList

theorem placeBelow_congr (sameStart : after.workingDirectory = before.workingDirectory)
    (root path : Path) : after.placeBelow root path = before.placeBelow root path := by
  rw [placeBelow, placeBelow, landing_congr sameStart]

/-- Segments that never step up lead to the place that their names describe. -/
theorem landingFrom_plain {segments : List (List Char)} (plain : ['.', '.'] ∉ segments)
    (location : Location) :
    landingFrom location (segments.map String.ofList) = within location segments := by
  induction segments generalizing location with
  | nil => simp [landingFrom]
  | cons segment rest inductionHypothesis =>
      rw [List.mem_cons, not_or] at plain
      have notUp : ¬String.ofList segment = ".." := fun up => plain.1 (stepsUp_iff.1 up).symm
      rw [List.map_cons, landingFrom, List.foldl_cons]
      change landingFrom (step location (String.ofList segment)) _ = _
      rw [inductionHypothesis plain.2, step]
      by_cases idle : isIdle segment = true
      · rw [if_pos (isIdle_iff.1 idle), within_cons_of_isIdle idle]
      · rw [if_neg (mt isIdle_iff.2 idle), if_neg notUp, within_cons_of_busy (by simpa using idle)]

theorem pathSegments_join (root : Path) (relative : path.isAbsolute = false) :
    ∃ front, pathSegments (root.join path) = front ++ pathSegments path ∧
      (pathSegments root = front ∨ pathSegments root = front ++ [""]) := by
  obtain ⟨front, joined, same⟩ := Path.segments_join root relative
  refine ⟨front.map String.ofList, ?_, ?_⟩
  · rw [pathSegments_eq, joined, List.map_append, pathSegments_eq]
  · rw [pathSegments_eq]
    rcases same with same | same
    · exact Or.inl (by rw [same])
    · exact Or.inr (by rw [same, List.map_append]; rfl)

theorem startOf_join (tree : FileTree) (root : Path) (relative : path.isAbsolute = false) :
    tree.startOf (root.join path) = tree.startOf root := by
  rw [startOf, startOf, Path.isAbsolute_join_of_relative root relative]

/-- An empty segment leads nowhere. -/
theorem landingFrom_blank (location : Location) (front : List String) :
    landingFrom location (front ++ [""]) = landingFrom location front := by
  rw [landingFrom_append]
  simp [landingFrom, step]

/-- The segments of a root lead to its landing, with or without an empty one at the end. -/
theorem landingFrom_front (tree : FileTree) {front : List String}
    (same : pathSegments root = front ∨ pathSegments root = front ++ [""]) :
    landingFrom (tree.startOf root) front = tree.landing root := by
  rcases same with same | same
  · rw [landing, same]
  · rw [landing, same, landingFrom_blank]

theorem follow_join_iff (relative : path.isAbsolute = false) {result : Location} :
    tree.follow (tree.startOf (root.join path)) (pathSegments (root.join path)) = .ok result ↔
      Reaches tree root ∧ tree.follow (tree.landing root) (pathSegments path) = .ok result := by
  obtain ⟨front, joined, same⟩ := pathSegments_join root relative
  have landing_eq := landingFrom_front tree same
  obtain ⟨first, rest, split⟩ : ∃ first rest, pathSegments path = first :: rest := by
    rw [pathSegments_eq]
    cases segments : path.segments with
    | nil => exact absurd segments path.segments_ne_nil
    | cons first rest => exact ⟨_, _, rfl⟩
  rw [startOf_join tree root relative, joined, follow_append, bind_eq_ok_iff]
  constructor
  · rintro ⟨reached, followed, continued⟩
    obtain rfl := (follow_eq_landing followed).trans landing_eq
    have directory : tree.node? (tree.landing root) = some .directory := by
      rw [split] at continued
      exact (follow_cons continued).1
    refine ⟨⟨?_, directory⟩, continued⟩
    rcases same with same | same
    · rwa [same]
    · rw [same, follow_append, followed]
      change tree.follow (tree.landing root) [""] = _
      rw [follow, directory]
      rfl
  · rintro ⟨reaches, continued⟩
    refine ⟨tree.landing root, ?_, continued⟩
    have followed := reaches.followed
    rcases same with same | same
    · rwa [← same]
    · rw [same, follow_append, bind_eq_ok_iff] at followed
      obtain ⟨reached, followed, -⟩ := followed
      rwa [(follow_eq_landing followed).trans landing_eq] at followed

theorem landing_join (tree : FileTree) (root : Path) (relative : path.isAbsolute = false)
    (plain : path.IsPlain) : tree.landing (root.join path) = tree.placeBelow root path := by
  obtain ⟨front, joined, same⟩ := pathSegments_join root relative
  rw [landing, startOf_join tree root relative, joined, landingFrom_append,
    landingFrom_front tree same, pathSegments_eq, landingFrom_plain plain]
  rfl

/-! ## What a path refers to -/

/-- What a path below a root refers to depends on the tree only through the node at its place, once
the root is reached. -/
theorem WellFormed.status_join_iff (wellFormed : tree.WellFormed) (relative : path.isAbsolute = false)
    (plain : path.IsPlain) (busy : endsIdle path.segments = false) {node : Node} :
    tree.status (root.join path) = .ok node ↔
      checkPath (root.join path) = .ok () ∧ NamesFit path.segments ∧ Reaches tree root ∧
        tree.node? (tree.placeBelow root path) = some node := by
  rw [status_eq_ok_iff_locate]
  have ends : endsIdle path.segments = true → node = .directory := fun idle => by simp [busy] at idle
  constructor
  · rintro ⟨location, located, found⟩
    obtain ⟨⟨⟩, checked, followed⟩ := bind_eq_ok_iff.1 located
    obtain ⟨reaches, followed⟩ := (follow_join_iff relative).1 followed
    obtain ⟨rfl, fit, -⟩ := (follow_eq_ok_iff plain).1 followed
    exact ⟨checked, fit, reaches, found⟩
  · rintro ⟨checked, fit, reaches, found⟩
    have here : tree.node? (within (tree.landing root) path.segments) = some node := found
    have visits := (wellFormed.visits_iff here).2 ends
    refine ⟨tree.placeBelow root path, bind_eq_ok_iff.2 ⟨(), checked, ?_⟩, found⟩
    exact (follow_join_iff relative).2 ⟨reaches, (follow_eq_ok_iff plain).2 ⟨rfl, fit, visits⟩⟩

/-! ## Texts -/

theorem fromUTF8?_toUTF8 (text : String) : String.fromUTF8? text.toUTF8 = some text := by
  rw [String.fromUTF8?, String.toUTF8_eq_toByteArray, dif_pos text.isValidUTF8]
  rfl

theorem eq_toUTF8_of_fromUTF8? {content : ByteArray} {text : String}
    (decodes : String.fromUTF8? content = some text) : content = text.toUTF8 := by
  rw [String.fromUTF8?] at decodes
  split_ifs at decodes
  cases decodes
  rfl

theorem toUTF8_inj {first second : String} (same : first.toUTF8 = second.toUTF8) : first = second :=
  Option.some.inj <| by rw [← fromUTF8?_toUTF8 first, same, fromUTF8?_toUTF8]

theorem readText_eq_ok_iff {text : String} :
    tree.readText path = .ok text ↔
      ∃ content, tree.status path = .ok (.file content) ∧ String.fromUTF8? content = some text := by
  rw [readText, bind_eq_ok_iff]
  refine exists_congr fun content => and_congr readBytes_eq_ok_iff ?_
  cases String.fromUTF8? content <;> simp

end ResourceScaffold.FileTree

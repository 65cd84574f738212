import ResourceScaffold.FileTree.Relocation
import ResourceScaffold.Proofs.FileTree.Place

/-!
Contract: what a file tree is after an operation on a path without steps up has succeeded.

Owns:
- writing a file, creating a directory and renaming, each as one change at the places of its paths;
- that these changes leave everything in a directory.

Does not own: several operations in a row, and operations that fail.
-/

namespace ResourceScaffold.FileTree

open ResourceScaffold.Path (named isIdle endsIdle)

variable {tree changed : FileTree} {path : Path}

/-! ## Places that change -/

theorem WellFormed.set {location : Location} (wellFormed : tree.WellFormed) (node : Node)
    (parent : tree.node? location.dropLast = some .directory) (below : location ≠ [])
    (noChildren : tree.node? location = some .directory → node = .directory) :
    (tree.set location node).WellFormed := by
  intro front name occupied
  by_cases here : front ++ [name] = location
  · subst here
    rw [List.dropLast_concat] at parent
    rwa [node?_set_of_ne tree node (by simp)]
  · rw [node?_set_of_ne tree node here] at occupied
    have directory := wellFormed front name occupied
    by_cases same : front = location
    · subst same
      rw [node?_set_self tree node below, noChildren directory]
    · rwa [node?_set_of_ne tree node same]

/-- A part of a tree that moves to a vacant place in a directory leaves everything in a directory. -/
theorem WellFormed.move {source target : Location} (wellFormed : tree.WellFormed)
    (parent : tree.node? target.dropLast = some .directory) (apart : ¬ target <+: source)
    (apart' : ¬ source <+: target) : (tree.move source target).WellFormed := by
  have moved {other : Location} (below : other ≠ []) := node?_move tree
    (Bool.eq_false_iff.2 (mt isWithin_iff.1 apart)) (Bool.eq_false_iff.2 (mt isWithin_iff.1 apart'))
    below
  simp only [isWithin_iff] at moved
  intro front name occupied
  rw [moved (by simp)] at occupied
  by_cases root : front = []
  · rw [root, node?_root]
  rw [moved root]
  by_cases arrives : target <+: front ++ [name]
  · rw [if_pos arrives] at occupied
    rcases List.prefix_concat_iff.1 arrives with rfl | leads
    · -- The target itself: the directory above it has not moved.
      rw [List.dropLast_concat] at parent
      have shorter : ¬ front ++ [name] <+: front := by
        intro leads
        have lengths := leads.length_le
        rw [List.length_append, List.length_singleton] at lengths
        omega
      rw [if_neg shorter, if_neg fun leads => apart' (leads.trans (List.prefix_append _ _)), parent]
    · obtain ⟨rest, rfl⟩ := leads
      rw [List.append_assoc, List.drop_left, ← List.append_assoc] at occupied
      rw [if_pos (List.prefix_append _ _), List.drop_left]
      exact wellFormed _ name occupied
  · rw [if_neg arrives] at occupied
    by_cases left : source <+: front ++ [name]
    · rw [if_pos left] at occupied
      exact absurd rfl occupied
    · rw [if_neg left] at occupied
      rw [if_neg fun leads => arrives (leads.trans (List.prefix_append _ _)),
        if_neg fun leads => left (leads.trans (List.prefix_append _ _))]
      exact wellFormed front name occupied

/-! ## Following to a place that may be vacant -/

/-- A place with a name is reached from the directory above it. -/
theorem Visits.parent {location : Location} {segments : List (List Char)}
    (visits : tree.Visits location segments) (nonempty : named segments ≠ []) :
    tree.node? (within location segments).dropLast = some .directory := by
  induction segments using List.reverseRecOn with
  | nil => exact absurd rfl nonempty
  | append_singleton front last inductionHypothesis =>
      by_cases idle : isIdle last = true
      · rw [within_append, within_cons_of_isIdle idle, within_nil]
        refine inductionHypothesis (fun inner segment back split => ?_) ?_
        · exact visits inner segment (back ++ [last]) (by simp [split])
        · rwa [Path.named_append, Path.named_cons_of_isIdle idle, Path.named_nil,
            List.append_nil] at nonempty
      · rw [within_append, within_cons_of_busy (by simpa using idle), within_nil,
          List.dropLast_concat]
        exact visits front last [] rfl

/-- A path that ends in a segment without a name leads to a directory. -/
theorem Visits.directory {location : Location} {segments : List (List Char)}
    (visits : tree.Visits location segments) (idle : endsIdle segments = true) :
    tree.node? (within location segments) = some .directory := by
  rcases List.eq_nil_or_concat segments with rfl | ⟨front, last, rfl⟩
  · cases idle
  · rw [List.concat_eq_append] at visits idle ⊢
    have lastIdle : isIdle last = true := by simpa [endsIdle] using idle
    rw [within_append, within_cons_of_isIdle lastIdle, within_nil]
    exact visits front last [] rfl

theorem named_ne_nil_of_endsIdle {segments : List (List Char)} (nonempty : segments ≠ [])
    (busy : endsIdle segments = false) : named segments ≠ [] := by
  rcases List.eq_nil_or_concat segments with rfl | ⟨front, last, rfl⟩
  · exact absurd rfl nonempty
  · rw [List.concat_eq_append] at busy ⊢
    have lastBusy : isIdle last = false := by simpa [endsIdle] using busy
    rw [Path.named_append, Path.named_singleton lastBusy]
    simp

/-- The segments of a path without the empty ones at its end: the names are the same. -/
theorem creationSegments_spec (path : Path) :
    ∃ segments, creationSegments path = segments.map String.ofList ∧ segments <+: path.segments ∧
      named segments = path.names ∧ (segments = [] → ∀ segment ∈ path.segments, segment = []) := by
  rw [creationSegments, pathSegments_eq, Path.names]
  induction path.segments using List.reverseRecOn with
  | nil => exact ⟨[], rfl, List.prefix_rfl, rfl, by simp⟩
  | append_singleton front last inductionHypothesis =>
      rw [List.map_append, List.map_singleton, List.reverse_append, List.reverse_singleton,
        List.singleton_append, List.dropWhile_cons]
      by_cases empty : last = []
      · obtain ⟨segments, same, leads, names, only⟩ := inductionHypothesis
        refine ⟨segments, ?_, leads.trans (List.prefix_append _ _), ?_, fun none => ?_⟩
        · rw [if_pos (by simp [empty]), same]
        · rw [names, Path.named_append, empty, Path.named_cons_of_isIdle rfl, Path.named_nil,
            List.append_nil]
        · simpa [empty, or_imp, forall_and] using only none
      · refine ⟨front ++ [last], ?_, List.prefix_rfl, rfl, by simp⟩
        rw [if_neg (by simp [empty])]
        simp

theorem names_ne_nil_of_vacant (checked : checkPath path = .ok ())
    {segments : List (List Char)} (visits : tree.Visits (tree.startOf path) segments)
    (names : named segments = path.names)
    (only : segments = [] → ∀ segment ∈ path.segments, segment = [])
    (vacant : tree.node? (within (tree.startOf path) segments) = none) : path.names ≠ [] := by
  intro unnamed
  rw [within, names, unnamed, List.map_nil, List.append_nil] at vacant
  cases segments with
  | cons first rest =>
      have start := visits [] first rest rfl
      rw [within_nil, vacant] at start
      cases start
  | nil =>
      rcases path.segmented_cases with ⟨empty, _⟩ | ⟨rest, _, absolute, _⟩ |
        ⟨_, ⟨rest, split, _⟩ | ⟨first, rest, split, busy, _⟩⟩
      · simp [checkPath, empty] at checked
      · rw [startOf, if_pos absolute, node?_root] at vacant
        cases vacant
      · have blank := only rfl ['.'] (by simp [split])
        cases blank
      · have blank := only rfl first (by simp [split])
        rw [blank] at busy
        cases busy

/-! ## What an operation that succeeds has done -/

theorem exists_of_writeFile {content : ByteArray}
    (wrote : tree.writeFile path content = .ok changed) :
    ∃ location, checkPath path = .ok () ∧
      tree.follow (tree.startOf path) (pathSegments path) = .ok location ∧
      tree.node? location ≠ some .directory ∧ changed = tree.set location (.file content) := by
  unfold writeFile at wrote
  obtain ⟨⟨⟩, checked, afterCheck⟩ := bind_eq_ok_iff.1 wrote
  dsimp only at afterCheck
  split_ifs at afterCheck with slash
  · obtain ⟨_, _, thrown⟩ := bind_eq_ok_iff.1 afterCheck
    cases thrown
  · obtain ⟨location, followed, placed⟩ := bind_eq_ok_iff.1 afterCheck
    refine ⟨location, checked, followed, ?_⟩
    split at placed
    · cases placed
    · rename_i noDirectory
      cases placed
      exact ⟨noDirectory, rfl⟩

theorem exists_of_createDirectory (created : tree.createDirectory path = .ok changed) :
    ∃ location, checkPath path = .ok () ∧
      tree.follow (tree.startOf path) (creationSegments path) = .ok location ∧
      tree.node? location = none ∧ changed = tree.set location .directory := by
  unfold createDirectory at created
  obtain ⟨⟨⟩, checked, afterCheck⟩ := bind_eq_ok_iff.1 created
  obtain ⟨location, followed, placed⟩ := bind_eq_ok_iff.1 afterCheck
  refine ⟨location, checked, followed, ?_⟩
  split at placed
  · cases placed
  · rename_i vacant
    cases placed
    exact ⟨vacant, rfl⟩

/-- Everything that renaming checks and does if it succeeds, at the locations that the paths lead
to. -/
structure Renames (tree : FileTree) (source target : Path) (changed : FileTree) (moved : Node)
    (sourceLocation targetLocation : Location) : Prop where
  named : endsInDots source = false
  checked : checkPath target = .ok ()
  located : tree.locate source = .ok sourceLocation
  found : tree.node? sourceLocation = some moved
  followed : tree.follow (tree.startOf target) (creationSegments target) = .ok targetLocation
  stays : sourceLocation = targetLocation → changed = tree
  moves : sourceLocation ≠ targetLocation → changed = tree.move sourceLocation targetLocation
  outside : sourceLocation ≠ targetLocation → moved = .directory →
    isWithin sourceLocation targetLocation = false
  overDirectory : sourceLocation ≠ targetLocation → tree.node? targetLocation = some .directory →
    moved = .directory ∧ tree.hasChildren targetLocation = false
  overFile : sourceLocation ≠ targetLocation → ∀ content,
    tree.node? targetLocation = some (.file content) → moved ≠ .directory

theorem renames_of_rename {source target : Path} (renamed : tree.rename source target = .ok changed) :
    ∃ moved sourceLocation targetLocation,
      tree.Renames source target changed moved sourceLocation targetLocation := by
  unfold rename at renamed
  obtain ⟨⟨⟩, -, afterSource⟩ := bind_eq_ok_iff.1 renamed
  obtain ⟨⟨⟩, checked, afterTarget⟩ := bind_eq_ok_iff.1 afterSource
  dsimp only at afterTarget
  split_ifs at afterTarget with dots
  · obtain ⟨_, thrown, _⟩ := bind_eq_ok_iff.1 afterTarget
    cases thrown
  have named : endsInDots source = false := Bool.eq_false_iff.2 fun ends => dots (Or.inl ends)
  obtain ⟨sourceLocation, located, afterSource⟩ := bind_eq_ok_iff.1 afterTarget
  split at afterSource
  · rename_i moved found
    obtain ⟨targetLocation, followed, placed⟩ := bind_eq_ok_iff.1 afterSource
    refine ⟨moved, sourceLocation, targetLocation, ?_⟩
    by_cases same : sourceLocation = targetLocation
    · rw [if_pos same] at placed
      cases placed
      exact ⟨named, checked, located, found, followed, fun _ => rfl, absurd same, absurd same,
        absurd same, absurd same⟩
    · rw [if_neg same] at placed
      cases moved with
      | file content =>
          rcases occupied : tree.node? targetLocation with - | ⟨- | other⟩ <;>
            rw [occupied] at placed <;> cases placed <;>
            exact ⟨named, checked, located, found, followed, fun equal => absurd equal same,
              fun _ => rfl, by simp, by simp [occupied], by simp⟩
      | directory =>
          by_cases inside : isWithin sourceLocation targetLocation = true
          · rcases occupied : tree.node? targetLocation with - | ⟨- | other⟩ <;>
              rw [occupied] at placed <;> simp only [inside, if_true] at placed <;> cases placed
          · rw [Bool.not_eq_true] at inside
            simp only [inside, Bool.false_eq_true, if_false] at placed
            rcases occupied : tree.node? targetLocation with - | ⟨- | other⟩ <;>
              rw [occupied] at placed
            · cases placed
              exact ⟨named, checked, located, found, followed, fun equal => absurd equal same,
                fun _ => rfl, fun _ _ => inside, by simp [occupied], by simp [occupied]⟩
            · dsimp only at placed
              split_ifs at placed with children
              · cases placed
              · cases placed
                refine ⟨named, checked, located, found, followed, fun equal => absurd equal same,
                  fun _ => rfl, fun _ _ => inside, fun _ _ => ⟨rfl, ?_⟩, by simp [occupied]⟩
                simpa using children
            · cases placed
  · cases afterSource

/-! ## Operations on paths without steps up -/

/-- Segments with the names of a path lead to its place. -/
theorem within_eq_place (tree : FileTree) {segments : List (List Char)}
    (names : named segments = path.names) :
    within (tree.startOf path) segments = tree.place path := by
  rw [within, names, place, within, Path.names]

/-- A place in a directory does not lie below a file. -/
theorem WellFormed.file_not_leads (wellFormed : tree.WellFormed) {source target : Location}
    {content : ByteArray} (found : tree.node? source = some (.file content))
    (parent : tree.node? target.dropLast = some .directory) (different : source ≠ target) :
    ¬ source <+: target := by
  intro leads
  rcases eq_or_leads_dropLast leads with same | leads
  · exact different same
  · rw [wellFormed.directory_of_leads leads parent] at found
    cases found

/-- Writing a file that succeeds puts it at the place of the path, in a directory. -/
theorem writeFile_eq_ok (plain : path.IsPlain) {content : ByteArray}
    (wrote : tree.writeFile path content = .ok changed) :
    changed = tree.set (tree.place path) (.file content) ∧ checkPath path = .ok () ∧
      NamesFit path.segments ∧ endsIdle path.segments = false ∧
      tree.node? (tree.place path).dropLast = some .directory ∧
      tree.node? (tree.place path) ≠ some .directory := by
  obtain ⟨location, checked, followed, noDirectory, rfl⟩ := exists_of_writeFile wrote
  obtain ⟨rfl, fit, visits⟩ := (follow_eq_ok_iff plain).1 followed
  have busy : endsIdle path.segments = false := by
    rw [Bool.eq_false_iff]
    exact fun idle => noDirectory (visits.directory idle)
  exact ⟨rfl, checked, fit, busy,
    visits.parent (named_ne_nil_of_endsIdle path.segments_ne_nil busy), noDirectory⟩

/-- Creating a directory that succeeds puts it at the vacant place of the path, in a directory. -/
theorem createDirectory_eq_ok (plain : path.IsPlain)
    (created : tree.createDirectory path = .ok changed) :
    changed = tree.set (tree.place path) .directory ∧
      tree.node? (tree.place path).dropLast = some .directory ∧
      tree.node? (tree.place path) = none := by
  obtain ⟨segments, creation, leads, names, only⟩ := creationSegments_spec path
  obtain ⟨location, checked, followed, vacant, rfl⟩ := exists_of_createDirectory created
  rw [creation] at followed
  obtain ⟨rfl, -, visits⟩ := (follow_eq_ok_iff fun up => plain (leads.subset up)).1 followed
  have nonempty := names_ne_nil_of_vacant checked visits names only vacant
  have parent := visits.parent (names.trans_ne nonempty)
  rw [within_eq_place tree names] at parent vacant ⊢
  exact ⟨rfl, parent, vacant⟩

/-- Renaming to a path that ends in a name moves everything at the place of the source, unless the
places are the same. -/
theorem rename_eq_ok (wellFormed : tree.WellFormed) {source target : Path} (plain : source.IsPlain)
    (plain' : target.IsPlain) (nonempty : target.names ≠ [])
    (renamed : tree.rename source target = .ok changed) :
    (∃ node, tree.status source = .ok node) ∧ checkPath target = .ok () ∧
      NamesFit target.segments ∧ tree.node? (tree.place target).dropLast = some .directory ∧
      (tree.place source = tree.place target ∧ changed = tree ∨
        ¬ tree.place source <+: tree.place target ∧
          changed = tree.move (tree.place source) (tree.place target)) := by
  obtain ⟨segments, creation, leads, names, -⟩ := creationSegments_spec target
  obtain ⟨node, sourceLocation, targetLocation, renames⟩ := renames_of_rename renamed
  have there := status_eq_ok_iff_locate.2 ⟨sourceLocation, renames.located, renames.found⟩
  obtain ⟨-, rfl, -, -⟩ := (locate_eq_ok_iff plain).1 renames.located
  have followed := renames.followed
  rw [creation] at followed
  obtain ⟨rfl, fit, visits⟩ := (follow_eq_ok_iff fun up => plain' (leads.subset up)).1 followed
  have parent := visits.parent (names.trans_ne nonempty)
  rw [within_eq_place tree names] at parent renames
  rw [NamesFit, names] at fit
  refine ⟨⟨node, there⟩, renames.checked, fit, parent, ?_⟩
  by_cases same : tree.place source = tree.place target
  · exact Or.inl ⟨same, renames.stays same⟩
  · refine Or.inr ⟨?_, renames.moves same⟩
    cases node with
    | file content => exact wellFormed.file_not_leads renames.found parent same
    | directory =>
        rw [← isWithin_iff, renames.outside same rfl]
        exact Bool.false_ne_true

end ResourceScaffold.FileTree

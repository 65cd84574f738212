import ResourceScaffold.Proofs.FileTree.Frame

/-!
Contract: where paths lead that may step up, and what operations on them keep.

Owns:
- the landing of a path, read off its segments alone;
- what was there outside of some locations and is still there;
- writing a file, creating directories and renaming, each at the landings of its paths;
- what renaming needs of the two places.

Does not own: which places a program touches.
-/

namespace ResourceScaffold.FileTree

variable {tree changed before middle after : FileTree} {path : Path}
  {location result : Location} {segments : List String}

/-! ## Landings -/

def step (location : Location) (segment : String) : Location :=
  if segment = "" ∨ segment = "." then location
  else if segment = ".." then location.dropLast
  else location ++ [segment]

/-- Where segments lead, if they can be followed. -/
def landingFrom (location : Location) (segments : List String) : Location :=
  segments.foldl step location

def landing (tree : FileTree) (path : Path) : Location :=
  landingFrom (tree.startOf path) (pathSegments path)

theorem landingFrom_append (location : Location) (front back : List String) :
    landingFrom location (front ++ back) = landingFrom (landingFrom location front) back :=
  List.foldl_append

theorem follow_cons {segment : String} {rest : List String}
    (followed : tree.follow location (segment :: rest) = .ok result) :
    tree.node? location = some .directory ∧
      tree.follow (step location segment) rest = .ok result := by
  rw [follow] at followed
  unfold step
  split at followed
  · cases followed
  · cases followed
  · rename_i directory
    refine ⟨directory, ?_⟩
    split_ifs at followed ⊢
    · exact followed
    · exact followed
    · exact followed

/-- Segments that can be followed lead to their landing. -/
theorem follow_eq_landing (followed : tree.follow location segments = .ok result) :
    result = landingFrom location segments := by
  induction segments generalizing location with
  | nil =>
      cases followed
      rfl
  | cons segment rest inductionHypothesis => exact inductionHypothesis (follow_cons followed).2

theorem follow_append (front back : List String) :
    tree.follow location (front ++ back) =
      tree.follow location front >>= fun reached => tree.follow reached back := by
  induction front generalizing location with
  | nil => rfl
  | cons segment rest inductionHypothesis =>
      rw [List.cons_append, follow, follow]
      cases tree.node? location with
      | none => rfl
      | some node =>
          cases node with
          | file content => rfl
          | directory =>
              simp only [inductionHypothesis]
              split_ifs
              · rfl
              · rfl
              · rfl
              · rfl

theorem follow_mono
    (kept : ∀ {location}, before.node? location = some .directory →
      after.node? location = some .directory)
    (followed : before.follow location segments = .ok result) :
    after.follow location segments = .ok result := by
  induction segments generalizing location with
  | nil => exact followed
  | cons segment rest inductionHypothesis =>
      obtain ⟨directory, -⟩ := follow_cons followed
      rw [follow, directory] at followed
      rw [follow, kept directory]
      simp only at followed ⊢
      split_ifs at followed ⊢
      · exact inductionHypothesis followed
      · exact inductionHypothesis followed
      · exact inductionHypothesis followed

theorem WellFormed.follow_parent (wellFormed : tree.WellFormed)
    (parent : tree.node? location.dropLast = some .directory)
    (followed : tree.follow location segments = .ok result) :
    tree.node? result.dropLast = some .directory := by
  induction segments generalizing location with
  | nil =>
      cases followed
      exact parent
  | cons segment rest inductionHypothesis =>
      obtain ⟨directory, rest⟩ := follow_cons followed
      refine inductionHypothesis ?_ rest
      unfold step
      split_ifs
      · exact parent
      · exact wellFormed.directory_of_leads (List.dropLast_prefix _) parent
      · rwa [List.dropLast_concat]

/-- Where a path starts from lies in a directory, once a segment of it is followed. -/
theorem WellFormed.start_parent (wellFormed : tree.WellFormed)
    (directory : tree.node? location = some .directory) :
    tree.node? location.dropLast = some .directory :=
  wellFormed.directory_of_leads (List.dropLast_prefix _) directory

/-! ## What is kept -/

/-- What was there outside of some locations is still there. -/
structure Keeps (touched : List Location) (before after : FileTree) : Prop where
  sameStart : after.workingDirectory = before.workingDirectory
  nodes : ∀ {location node}, before.node? location = some node →
    (∀ place ∈ touched, ¬ place <+: location) → after.node? location = some node

theorem Keeps.refl (touched : List Location) (tree : FileTree) : Keeps touched tree tree :=
  ⟨rfl, fun found _ => found⟩

theorem Keeps.trans {touched touched' : List Location} (first : Keeps touched before middle)
    (second : Keeps touched' middle after) : Keeps (touched ++ touched') before after where
  sameStart := second.sameStart.trans first.sameStart
  nodes found outside :=
    second.nodes (first.nodes found fun place member => outside place (List.mem_append_left _ member))
      fun place member => outside place (List.mem_append_right _ member)

theorem Keeps.mono {touched touched' : List Location} (keeps : Keeps touched before after)
    (subset : touched ⊆ touched') : Keeps touched' before after :=
  ⟨keeps.sameStart, fun found outside => keeps.nodes found fun place member =>
    outside place (subset member)⟩

def KeepsDirectories (before after : FileTree) : Prop :=
  ∀ {location}, before.node? location = some .directory → after.node? location = some .directory

theorem Keeps.directories (keeps : Keeps [] before after) : KeepsDirectories before after :=
  fun found => keeps.nodes found (by simp)

theorem set_keeps (tree : FileTree) (location : Location) (node : Node) :
    Keeps [location] tree (tree.set location node) where
  sameStart := rfl
  nodes found outside := by
    rw [node?_set_of_ne tree node, found]
    rintro rfl
    exact outside _ List.mem_cons_self List.prefix_rfl

theorem set_keeps_of_vacant (vacant : tree.node? location = none) (node : Node) :
    Keeps [] tree (tree.set location node) where
  sameStart := rfl
  nodes found _ := by
    rw [node?_set_of_ne tree node, found]
    rintro rfl
    rw [vacant] at found
    cases found

theorem set_keepsDirectories (noDirectory : tree.node? location ≠ some .directory) (node : Node) :
    KeepsDirectories tree (tree.set location node) := by
  intro other found
  rw [node?_set_of_ne tree node, found]
  rintro rfl
  exact noDirectory found

/-- Moving a part of a tree touches nothing outside of the two places. -/
theorem move_keeps {source target : Location} (apart : Apart source target) :
    Keeps [source, target] tree (tree.move source target) where
  sameStart := rfl
  nodes found outside := by
    rcases (move_frame apart).otherwise _ outside with same | ⟨vacant, -⟩
    · rw [same, found]
    · rw [vacant] at found
      cases found

/-! ## Operations -/

/-- Segments of a path without the empty ones at its end lead to the landing of the path. -/
theorem landingFrom_creationSegments (path : Path) (location : Location) :
    landingFrom location (creationSegments path) = landingFrom location (pathSegments path) := by
  rw [creationSegments]
  induction pathSegments path using List.reverseRecOn with
  | nil => rfl
  | append_singleton front last inductionHypothesis =>
      rw [List.reverse_append, List.reverse_singleton, List.singleton_append, List.dropWhile_cons]
      split_ifs with empty
      · rw [inductionHypothesis, landingFrom_append]
        have idle : last = "" := by simpa using empty
        simp [landingFrom, step, idle]
      · simp

theorem follow_creationSegments_eq_landing
    (followed : tree.follow (tree.startOf path) (creationSegments path) = .ok result) :
    result = tree.landing path := by
  rw [follow_eq_landing followed, landingFrom_creationSegments, landing]

theorem locate_eq_ok (located : tree.locate path = .ok result) :
    checkPath path = .ok () ∧
      tree.follow (tree.startOf path) (pathSegments path) = .ok result ∧
        result = tree.landing path := by
  obtain ⟨⟨⟩, checked, followed⟩ := bind_eq_ok_iff.1 located
  exact ⟨checked, followed, follow_eq_landing followed⟩

/-- A path without a segment to follow stands for the root, so every path that is followed starts
from a directory. -/
theorem node?_startOf (checked : checkPath path = .ok ())
    (followed : tree.follow (tree.startOf path) (creationSegments path) = .ok result) :
    tree.node? (tree.startOf path) = some .directory := by
  cases creation : creationSegments path with
  | cons segment rest =>
      rw [creation] at followed
      exact (follow_cons followed).1
  | nil =>
      obtain ⟨segments, same, -, -, only⟩ := creationSegments_spec path
      have blank := only (by simpa [creation] using same.symm)
      rcases path.segmented_cases with ⟨empty, -⟩ | ⟨-, -, absolute, -⟩ |
        ⟨-, ⟨rest, split, -⟩ | ⟨first, rest, split, busy, -⟩⟩
      · simp [checkPath, empty] at checked
      · rw [startOf, if_pos absolute, node?_root]
      · have none := blank ['.'] (by simp [split])
        cases none
      · have none := blank first (by simp [split])
        rw [none] at busy
        cases busy

/-- The node above the landing of a path that is followed, without the empty segments at its end, is
a directory. -/
theorem WellFormed.landing_parent (wellFormed : tree.WellFormed) (checked : checkPath path = .ok ())
    (followed : tree.follow (tree.startOf path) (creationSegments path) = .ok result) :
    result = tree.landing path ∧ tree.node? result.dropLast = some .directory := by
  exact ⟨follow_creationSegments_eq_landing followed,
    wellFormed.follow_parent (wellFormed.start_parent (node?_startOf checked followed)) followed⟩

/-- Creating a directory that succeeds puts it at the landing of the path, which was vacant. -/
theorem createDirectory_landing (created : tree.createDirectory path = .ok changed) :
    tree.landing path ≠ [] ∧ tree.node? (tree.landing path) = none ∧
      changed = tree.set (tree.landing path) .directory ∧ checkPath path = .ok () ∧
      tree.follow (tree.startOf path) (creationSegments path) = .ok (tree.landing path) := by
  obtain ⟨location, checked, followed, vacant, rfl⟩ := exists_of_createDirectory created
  obtain rfl := follow_creationSegments_eq_landing followed
  exact ⟨ne_nil_of_noDirectory (vacant.trans_ne (by simp)), vacant, rfl, checked, followed⟩

theorem createDirectory_keeps (wellFormed : tree.WellFormed)
    (created : tree.createDirectory path = .ok changed) :
    Keeps [] tree changed ∧ changed.WellFormed := by
  obtain ⟨below, vacant, rfl, checked, followed⟩ := createDirectory_landing created
  obtain ⟨-, parent⟩ := wellFormed.landing_parent checked followed
  exact ⟨set_keeps_of_vacant vacant .directory,
    wellFormed.set .directory parent below fun _ => rfl⟩

section Chain

variable {make : FileTree → Path → Except Fault FileTree}
  (makes : ∀ {tree path after}, make tree path = .ok after → tree.createDirectory path = .ok after)

include makes

/-- What holds of every directory of a chain that is created holds of the whole chain, whether all of
it can be created or not. -/
theorem createChain_closed (relation : FileTree → FileTree → Prop)
    (refl : ∀ tree, relation tree tree)
    (trans : ∀ {first second third}, relation first second → relation second third →
      relation first third)
    (tree : FileTree) (paths : List Path)
    (creates : ∀ path ∈ paths, ∀ {tree changed}, tree.createDirectory path = .ok changed →
      relation tree changed) : relation tree (createChain make tree paths).1 := by
  induction paths with
  | nil => exact refl tree
  | cons path parents inductionHypothesis =>
      rw [List.forall_mem_cons] at creates
      have first {tree changed : FileTree} (made : make tree path = .ok changed) :
          relation tree changed := creates.1 (makes made)
      have others := inductionHypothesis creates.2
      rw [createChain]
      by_cases empty : path.text.isEmpty = true
      · rw [if_pos empty]
        exact refl tree
      rw [if_neg empty]
      split
      · rename_i made
        exact first made
      · split
        · rename_i deeper fault failed
          rwa [failed] at others
        · rename_i deeper made
          rw [made] at others
          split
          · rename_i made'
            exact trans others (first made')
          · split_ifs <;> exact others
      · split_ifs <;> exact refl tree

theorem createChain_keeps (wellFormed : tree.WellFormed) (paths : List Path) :
    Keeps [] tree (createChain make tree paths).1 ∧ (createChain make tree paths).1.WellFormed := by
  refine createChain_closed makes
    (fun before after => before.WellFormed → Keeps [] before after ∧ after.WellFormed)
    (fun tree valid => ⟨Keeps.refl _ _, valid⟩) (fun first second valid => ?_) tree paths
    (fun _ _ _ _ created valid => createDirectory_keeps valid created) wellFormed
  obtain ⟨keeps, valid'⟩ := first valid
  obtain ⟨keeps', valid''⟩ := second valid'
  exact ⟨keeps.trans keeps', valid''⟩

end Chain

/-- Writing a file that succeeds puts it at the landing of the path, where no directory was. -/
theorem writeFile_landing (wellFormed : tree.WellFormed) {content : ByteArray}
    (wrote : tree.writeFile path content = .ok changed) :
    tree.locate path = .ok (tree.landing path) ∧
      changed = tree.set (tree.landing path) (.file content) ∧ changed.WellFormed ∧
      tree.node? (tree.landing path) ≠ some .directory := by
  obtain ⟨location, checked, followed, noDirectory, rfl⟩ := exists_of_writeFile wrote
  obtain rfl : location = tree.landing path := follow_eq_landing followed
  have located : tree.locate path = .ok (tree.landing path) := by
    rw [locate, checked]
    exact followed
  have start : tree.node? (tree.startOf path) = some .directory := by
    cases segments : pathSegments path with
    | nil =>
        rw [pathSegments_eq, List.map_eq_nil_iff] at segments
        exact absurd segments path.segments_ne_nil
    | cons segment rest =>
        rw [segments] at followed
        exact (follow_cons followed).1
  have parent := wellFormed.follow_parent (wellFormed.start_parent start) followed
  exact ⟨located, rfl, wellFormed.set _ parent (ne_nil_of_noDirectory noDirectory)
    fun directory => absurd directory noDirectory, noDirectory⟩

theorem vacant_of_hasChildren (childless : tree.hasChildren location = false) {rest : Location}
    (below : rest ≠ []) : tree.node? (location ++ rest) = none := by
  by_contra occupied
  rw [node?, if_neg (by simp [below]), List.lookup_eq_none_iff] at occupied
  push Not at occupied
  obtain ⟨⟨entry, node⟩, member, same⟩ := occupied
  obtain rfl : location ++ rest = entry := by simpa using same
  rw [hasChildren, List.any_eq_false] at childless
  refine childless _ member ?_
  rw [Bool.and_eq_true, isWithin_iff, bne_iff_ne]
  exact ⟨List.prefix_append _ _, by simpa using below⟩

/-- What renaming needs of two places that are apart, if it succeeds: there is something to move, and
its new place lies in a directory, has nothing below it and is a file only if a file is moved. -/
structure Replaces (tree : FileTree) (source target : Location) : Prop where
  occupied : tree.node? source ≠ none
  parent : tree.node? target.dropLast = some .directory
  childless : ∀ rest, rest ≠ [] → tree.node? (target ++ rest) = none
  file : ∀ content, tree.node? target = some (.file content) →
    ∃ content', tree.node? source = some (.file content')

theorem rename_eq_move (wellFormed : tree.WellFormed) {source target : Path}
    (apart : Apart (tree.landing source) (tree.landing target))
    (renamed : tree.rename source target = .ok changed) :
    changed = tree.move (tree.landing source) (tree.landing target) ∧
      tree.Replaces (tree.landing source) (tree.landing target) := by
  obtain ⟨moved, sourceLocation, targetLocation, renames⟩ := renames_of_rename renamed
  obtain ⟨-, -, rfl⟩ := locate_eq_ok renames.located
  obtain ⟨rfl, parent⟩ := wellFormed.landing_parent renames.checked renames.followed
  have different : tree.landing source ≠ tree.landing target := fun same =>
    apart.1 (same ▸ List.prefix_rfl)
  refine ⟨renames.moves different, by simp [renames.found], parent, fun rest below => ?_,
    fun content found => ?_⟩
  · by_cases directory : tree.node? (tree.landing target) = some .directory
    · exact vacant_of_hasChildren (renames.overDirectory different directory).2 below
    · exact wellFormed.vacant_below directory below
  · cases moved with
    | file content' => exact ⟨content', renames.found⟩
    | directory => exact absurd rfl (renames.overFile different content found)

theorem rename_landing (wellFormed : tree.WellFormed) {source target : Path}
    (apart : Apart (tree.landing source) (tree.landing target))
    (renamed : tree.rename source target = .ok changed) :
    Keeps [tree.landing source, tree.landing target] tree changed ∧ changed.WellFormed := by
  obtain ⟨rfl, replaces⟩ := rename_eq_move wellFormed apart renamed
  exact ⟨move_keeps apart, wellFormed.move replaces.parent apart.2 apart.1⟩

/-! ## Operations on what is there -/

theorem status_landing {node : Node} (found : tree.status path = .ok node) :
    checkPath path = .ok () ∧
      tree.follow (tree.startOf path) (pathSegments path) = .ok (tree.landing path) ∧
      tree.node? (tree.landing path) = some node := by
  obtain ⟨location, located, here⟩ := status_eq_ok_iff_locate.1 found
  obtain ⟨checked, followed, rfl⟩ := locate_eq_ok located
  exact ⟨checked, followed, here⟩

theorem createDirectory_of_status {node : Node} (found : tree.status path = .ok node) :
    tree.createDirectory path = .error .alreadyExists := by
  obtain ⟨checked, followed, here⟩ := status_landing found
  obtain ⟨segments, same, ⟨blanks, split⟩, -, -⟩ := creationSegments_spec path
  have reached : tree.follow (tree.startOf path) (creationSegments path) =
      .ok (tree.landing path) := by
    rw [pathSegments_eq, ← split, List.map_append, ← same, follow_append] at followed
    obtain ⟨location, first, -⟩ := bind_eq_ok_iff.1 followed
    rw [first, follow_creationSegments_eq_landing first]
  unfold createDirectory
  rw [checked, reached]
  simp only [bind, Except.bind, here]
  rfl

/-- A directory that is there does not have to be created, nor what it lies in. -/
theorem createChain_of_status {make : FileTree → Path → Except Fault FileTree}
    (made : make tree path = .error .alreadyExists) (found : tree.status path = .ok .directory)
    (parents : List Path) : createChain make tree (path :: parents) = (tree, none) := by
  have there : tree.isDirectory path = true := by rw [isDirectory, found]
  rw [createChain, made]
  simp only [there, if_true, ite_self]

theorem writeFile_of_status {old content : ByteArray} (found : tree.status path = .ok (.file old))
    (ends : path.text.toList.getLast? ≠ some '/') :
    tree.writeFile path content = .ok (tree.set (tree.landing path) (.file content)) := by
  obtain ⟨checked, followed, here⟩ := status_landing found
  unfold writeFile
  refine bind_eq_ok_iff.2 ⟨(), checked, ?_⟩
  dsimp only
  rw [if_neg fun slash => ends slash.1]
  refine bind_eq_ok_iff.2 ⟨tree.landing path, followed, ?_⟩
  rw [here]
  rfl

end ResourceScaffold.FileTree

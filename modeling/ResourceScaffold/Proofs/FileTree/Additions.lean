import ResourceScaffold.Proofs.FileTree.Contents

/-!
Contract: trees that differ in nothing but additional directories.

Owns:
- the relation, and its closure under setting and moving the same in both trees;
- that creating directories adds directories only, whether it succeeds or not;
- what renaming to a path below its own source comes to.

Does not own: which directories a program creates.
-/

namespace ResourceScaffold.FileTree

variable {tree changed before middle after : FileTree} {path : Path} {location : Location}

/-! ## Additional directories -/

/-- Everything is as it was, but there may be more directories. -/
structure AddsDirectories (before after : FileTree) : Prop where
  sameStart : after.workingDirectory = before.workingDirectory
  otherwise : ∀ location, after.node? location = before.node? location ∨
    before.node? location = none ∧ after.node? location = some .directory

namespace AddsDirectories

theorem refl (tree : FileTree) : AddsDirectories tree tree :=
  ⟨rfl, fun _ => Or.inl rfl⟩

theorem trans (first : AddsDirectories before middle) (second : AddsDirectories middle after) :
    AddsDirectories before after where
  sameStart := second.sameStart.trans first.sameStart
  otherwise location := by
    rcases first.otherwise location with same | ⟨vacant, directory⟩
    · rw [← same]
      exact second.otherwise location
    · rcases second.otherwise location with same | ⟨vacant', -⟩
      · exact Or.inr ⟨vacant, same.trans directory⟩
      · rw [directory] at vacant'
        cases vacant'

theorem landingBelow (adds : AddsDirectories before after) (root : Path) :
    after.landing (root.join path) = before.landing (root.join path) :=
  landing_congr adds.sameStart _

theorem set (adds : AddsDirectories before after) (below : location ≠ []) (node : Node) :
    AddsDirectories (before.set location node) (after.set location node) where
  sameStart := adds.sameStart
  otherwise other := by
    by_cases same : other = location
    · rw [same, node?_set_self _ _ below, node?_set_self _ _ below]
      exact Or.inl rfl
    · rw [node?_set_of_ne _ _ same, node?_set_of_ne _ _ same]
      exact adds.otherwise other

theorem move (adds : AddsDirectories before after) {source target : Location}
    (apart : Apart source target) :
    AddsDirectories (before.move source target) (after.move source target) where
  sameStart := adds.sameStart
  otherwise other := by
    by_cases root : other = []
    · rw [root, node?_root, node?_root]
      exact Or.inl rfl
    · rw [node?_move_of_apart apart root, node?_move_of_apart apart root]
      split_ifs
      · exact adds.otherwise _
      · exact Or.inl rfl
      · exact adds.otherwise other

end AddsDirectories

theorem createDirectory_adds (created : tree.createDirectory path = .ok changed) :
    AddsDirectories tree changed := by
  obtain ⟨below, vacant, rfl, -⟩ := createDirectory_landing created
  refine ⟨rfl, fun other => ?_⟩
  by_cases same : other = tree.landing path
  · rw [same]
    exact Or.inr ⟨vacant, node?_set_self tree .directory below⟩
  · exact Or.inl (node?_set_of_ne tree .directory same)

theorem createChain_adds {make : FileTree → Path → Except Fault FileTree}
    (makes : ∀ {tree path after}, make tree path = .ok after → tree.createDirectory path = .ok after)
    (tree : FileTree) (paths : List Path) :
    AddsDirectories tree (createChain make tree paths).1 :=
  createChain_closed makes AddsDirectories .refl .trans tree paths fun _ _ => createDirectory_adds

/-! ## Renaming without dots -/

theorem endsInDots_of_getLast? {segments : List (List Char)} (front : List (List Char))
    (same : pathSegments path = (front ++ segments).map String.ofList)
    (last : (Path.named segments).getLast? = some ['.', '.']) : endsInDots path = true := by
  -- Behind the step up there are only idle segments, of which the empty ones do not count.
  have ends : ∃ final, (creationSegments path).getLast? = some final ∧
      (final = "." ∨ final = "..") := by
    rw [creationSegments, same, List.getLast?_reverse]
    clear same
    induction segments using List.reverseRecOn with
    | nil => cases last
    | append_singleton others segment inductionHypothesis =>
        rw [← List.append_assoc, List.map_append, List.map_singleton, List.reverse_append,
          List.reverse_singleton, List.singleton_append, List.dropWhile_cons]
        by_cases busy : Path.isIdle segment = false
        · rw [Path.named_append, Path.named_singleton busy, List.getLast?_concat] at last
          obtain rfl := Option.some.inj last
          exact ⟨"..", rfl, Or.inr rfl⟩
        · rw [Bool.not_eq_false] at busy
          rw [Path.named_append, Path.named_cons_of_isIdle busy, Path.named_nil,
            List.append_nil] at last
          rcases isIdle_iff.1 busy with empty | dot
          · rw [empty]
            exact inductionHypothesis last
          · rw [dot]
            exact ⟨".", rfl, Or.inl rfl⟩
  obtain ⟨final, found, dots⟩ := ends
  rw [endsInDots, found]
  simpa using dots

theorem rename_endsInDots {source target : Path} (renamed : tree.rename source target = .ok changed) :
    endsInDots source = false := by
  obtain ⟨_, _, _, renames⟩ := renames_of_rename renamed
  exact renames.named

theorem rename_not_within (wellFormed : tree.WellFormed) {source target : Path} {name : String}
    (within : tree.landing target = tree.landing source ++ [name]) :
    tree.rename source target ≠ .ok changed := by
  intro renamed
  obtain ⟨moved, sourceLocation, targetLocation, renames⟩ := renames_of_rename renamed
  obtain ⟨-, -, rfl⟩ := locate_eq_ok renames.located
  obtain ⟨rfl, parent⟩ := wellFormed.landing_parent renames.checked renames.followed
  -- The target lies in the source, which therefore is a directory.
  rw [within, List.dropLast_concat, renames.found] at parent
  obtain rfl : moved = .directory := Option.some.inj parent
  have different : tree.landing source ≠ tree.landing target := fun same => by
    have lengths := congrArg List.length (same.trans within)
    rw [List.length_append, List.length_singleton] at lengths
    omega
  have outside := renames.outside different rfl
  rw [Bool.eq_false_iff, ne_eq, isWithin_iff, within] at outside
  exact outside (List.prefix_append _ _)

end ResourceScaffold.FileTree

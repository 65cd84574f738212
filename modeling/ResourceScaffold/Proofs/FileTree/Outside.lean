import ResourceScaffold.Proofs.FileTree.Contents
import ResourceScaffold.Proofs.Path.Descent

/-!
Contract: file trees that differ only below a root.

Owns:
- locations below another one, and the locations that a path passes through;
- trees that are the same but below a root and for missing directories on the way to it;
- that writing a file, moving and creating directories below a root keep to this.

Does not own: which paths a program touches.
-/

namespace ResourceScaffold.FileTree

open ResourceScaffold.Path (named)

variable {tree changed before middle after : FileTree} {root path : Path}
  {limit location source target : Location}

/-! ## Locations -/

/-- A location lies below another one, and is not that one. -/
def IsBelow (limit location : Location) : Prop :=
  limit <+: location ∧ location ≠ limit

instance (limit location : Location) : Decidable (IsBelow limit location) :=
  inferInstanceAs (Decidable (_ ∧ _))

theorem IsBelow.leads {other : Location} (below : IsBelow limit location)
    (leads : location <+: other) : IsBelow limit other := by
  refine ⟨below.1.trans leads, ?_⟩
  rintro rfl
  exact below.2 (leads.eq_of_length_le below.1.length_le)

/-- A path passes through the locations that its first names lead to. -/
def Passes (tree : FileTree) (path : Path) (location : Location) : Prop :=
  ∃ front, front <+: path.names ∧
    landingFrom (tree.startOf path) (front.map String.ofList) = location

theorem landing_eq_names (tree : FileTree) (path : Path) :
    tree.landing path = landingFrom (tree.startOf path) (path.names.map String.ofList) := by
  rw [landing, pathSegments_eq, landingFrom_named, Path.names]

theorem directory_of_follow {segments front : List (List Char)} {result : Location}
    (followed : tree.follow location (segments.map String.ofList) = .ok result)
    (directory : tree.node? result = some .directory) (leads : front <+: named segments) :
    tree.node? (landingFrom location (front.map String.ofList)) = some .directory := by
  induction segments generalizing location front with
  | nil =>
      cases followed
      rw [List.prefix_nil.1 leads]
      exact directory
  | cons segment rest inductionHypothesis =>
      obtain ⟨here, later⟩ := follow_cons followed
      by_cases idle : Path.isIdle segment = true
      · rw [step, if_pos (isIdle_iff.1 idle)] at later
        rw [Path.named_cons_of_isIdle idle] at leads
        exact inductionHypothesis later leads
      · rw [Path.named_cons_of_busy (by simpa using idle)] at leads
        cases front with
        | nil => exact here
        | cons first others =>
            rw [List.cons_prefix_cons] at leads
            rw [leads.1]
            change tree.node? (landingFrom (step location (String.ofList segment))
              (others.map String.ofList)) = _
            exact inductionHypothesis later leads.2

/-- A root that is reached passes through directories only. -/
theorem Reaches.directory_of_passes (reaches : Reaches tree root)
    (passes : tree.Passes root location) : tree.node? location = some .directory := by
  obtain ⟨front, leads, rfl⟩ := passes
  exact directory_of_follow reaches.followed reaches.directory leads

/-! ## Paths that stay below -/

/-- Names that at no point lead above the start lead on from wherever they start. -/
theorem landingFrom_follow (course : Course) (relative : course.absolute = false)
    {names : List (List Char)} (busy : ∀ name ∈ names, Path.isIdle name = false)
    (neverAbove : (course.follow names).ups = 0) (location : Location) :
    landingFrom (location ++ course.names.map String.ofList) (names.map String.ofList) =
      location ++ (course.follow names).names.map String.ofList := by
  induction names generalizing course with
  | nil => rfl
  | cons name rest inductionHypothesis =>
      rw [List.forall_mem_cons] at busy
      change ((course.step name).follow rest).ups = 0 at neverAbove
      change landingFrom (step (location ++ course.names.map String.ofList) (String.ofList name))
        (rest.map String.ofList) = location ++ ((course.step name).follow rest).names.map String.ofList
      obtain ⟨relative', same⟩ : (course.step name).absolute = false ∧
          step (location ++ course.names.map String.ofList) (String.ofList name) =
            location ++ (course.step name).names.map String.ofList := by
        have noUp := (course.step name).ups_le_follow rest
        rw [neverAbove] at noUp
        have notIdle : ¬(String.ofList name = "" ∨ String.ofList name = ".") :=
          mt isIdle_iff.2 (by simp [busy.1])
        rw [step, if_neg notIdle]
        by_cases stepUp : name = ['.', '.']
        · rw [if_pos (stepsUp_iff.2 stepUp)]
          rw [Course.step, if_pos stepUp] at noUp ⊢
          by_cases named : course.names ≠ []
          · rw [if_pos named, List.map_dropLast,
              List.dropLast_append_of_ne_nil (by simpa using named)]
            exact ⟨relative, rfl⟩
          · rw [if_neg named, relative] at noUp
            exact absurd noUp (by simp)
        · rw [if_neg (mt stepsUp_iff.1 stepUp), Course.step, if_neg stepUp]
          exact ⟨relative, by simp⟩
      rw [same]
      exact inductionHypothesis _ relative' busy.2 neverAbove

/-- A path that stays below ends at or below the root that it is seen from. -/
theorem landing_join_course (tree : FileTree) (root : Path) (staysBelow : path.StaysBelow) :
    tree.landing (root.join path) =
      tree.landing root ++ path.course.names.map String.ofList := by
  have further := landingFrom_follow ⟨path.isAbsolute, 0, []⟩ staysBelow.relative
    (fun _ => Path.isIdle_of_mem_names) staysBelow.neverAbove (tree.landing root)
  rw [List.map_nil, List.append_nil] at further
  rw [landing_eq_names, startOf_join tree root staysBelow.relative,
    Path.names_join_of_relative root staysBelow.relative, List.map_append, landingFrom_append,
    ← landing_eq_names, further, Path.course]

/-- A location that names lead to from another one is that one or below it. -/
theorem eq_or_isBelow (location further : Location) :
    location ++ further = location ∨ IsBelow location (location ++ further) := by
  by_cases empty : further = []
  · exact Or.inl (by rw [empty, List.append_nil])
  · refine Or.inr ⟨List.prefix_append _ _, fun same => empty ?_⟩
    rwa [List.append_right_eq_self] at same

/-- What lies above a path that stays below is below the root or on the way to it. -/
theorem passes_or_isBelow (tree : FileTree) (staysBelow : path.StaysBelow) {other : Path}
    (leads : other.names <+: (root.join path).names)
    (sameStart : other.isAbsolute = (root.join path).isAbsolute) :
    tree.Passes root (tree.landing other) ∨
      IsBelow (tree.landing root) (tree.landing other) := by
  have relative := staysBelow.relative
  rw [Path.names_join_of_relative root relative] at leads
  have start : tree.startOf other = tree.startOf root := by
    rw [startOf, startOf, sameStart, Path.isAbsolute_join_of_relative root relative]
  rw [landing_eq_names tree other, start]
  rcases List.prefix_or_prefix_of_prefix leads (List.prefix_append _ _) with shorter | ⟨rest, same⟩
  · exact Or.inl ⟨_, shorter, rfl⟩
  · rw [← same, List.prefix_append_right_inj] at leads
    obtain ⟨more, split⟩ := leads
    have neverAbove := staysBelow.neverAbove
    rw [Path.course, ← split, Course.follow_append] at neverAbove
    have further := landingFrom_follow ⟨path.isAbsolute, 0, []⟩ relative
      (fun _ member => Path.isIdle_of_mem_names (split ▸ List.mem_append_left more member))
      (Nat.le_zero.1 ((Course.ups_le_follow _ more).trans neverAbove.le)) (tree.landing root)
    rw [List.map_nil, List.append_nil] at further
    rw [← same, List.map_append, landingFrom_append, ← landing_eq_names, further]
    refine (eq_or_isBelow (tree.landing root) _).imp_left fun here => ?_
    rw [here]
    exact ⟨_, List.prefix_rfl, (landing_eq_names tree root).symm⟩

/-- A path that stays below and does not end in a step up ends below the root that it is seen from. -/
theorem isBelow_landing_join (tree : FileTree) (root : Path) (staysBelow : path.StaysBelow)
    {last : List Char} (found : path.names.getLast? = some last) (noStepUp : last ≠ ['.', '.']) :
    IsBelow (tree.landing root) (tree.landing (root.join path)) := by
  obtain ⟨front, names⟩ := List.getLast?_eq_some_iff.1 found
  rw [landing_join_course tree root staysBelow]
  refine (eq_or_isBelow (tree.landing root) _).resolve_left fun here => ?_
  rw [List.append_right_eq_self, Path.course_eq_step names, Course.step, if_neg noStepUp] at here
  simp at here

/-! ## Outside of a root -/

/-- Everything that is not below a root is as it was, except that missing directories on the way to
the root may be new. -/
structure KeepsOutside (root : Path) (before after : FileTree) : Prop where
  sameStart : after.workingDirectory = before.workingDirectory
  outside : ∀ location, ¬IsBelow (before.landing root) location →
    after.node? location = before.node? location ∨
      before.node? location = none ∧ after.node? location = some .directory ∧
        before.Passes root location

namespace KeepsOutside

theorem refl (root : Path) (tree : FileTree) : KeepsOutside root tree tree :=
  ⟨rfl, fun _ _ => Or.inl rfl⟩

theorem trans (first : KeepsOutside root before middle) (second : KeepsOutside root middle after) :
    KeepsOutside root before after where
  sameStart := second.sameStart.trans first.sameStart
  outside location isOutside := by
    have start : middle.startOf root = before.startOf root := by
      rw [startOf, startOf, first.sameStart]
    have later := second.outside location
    rw [landing_congr first.sameStart, Passes, start] at later
    rcases first.outside location isOutside with same | ⟨vacant, directory, passes⟩
    · rw [← same]
      exact later isOutside
    · rcases later isOutside with same | ⟨vacant', -⟩
      · exact Or.inr ⟨vacant, same.trans directory, passes⟩
      · rw [directory] at vacant'
        cases vacant'

/-- No file outside of the root is changed. -/
theorem contents_eq (keeps : KeepsOutside root before after)
    (isOutside : ¬IsBelow (before.landing root) location) :
    after.contents location = before.contents location := by
  rcases keeps.outside location isOutside with same | ⟨vacant, directory, -⟩
  · rw [contents, contents, same]
  · rw [contents, contents, vacant, directory]

/-- Nothing at all is changed outside of a root that is a directory. -/
theorem node?_eq (keeps : KeepsOutside root before after) (reaches : Reaches before root)
    (isOutside : ¬IsBelow (before.landing root) location) :
    after.node? location = before.node? location := by
  rcases keeps.outside location isOutside with same | ⟨vacant, -, passes⟩
  · exact same
  · rw [reaches.directory_of_passes passes] at vacant
    cases vacant

theorem set (below : IsBelow (tree.landing root) location) (node : Node) :
    KeepsOutside root tree (tree.set location node) where
  sameStart := rfl
  outside other isOutside := by
    refine Or.inl (node?_set_of_ne tree node ?_)
    rintro rfl
    exact isOutside below

theorem move (apart : Apart source target) (below : IsBelow (tree.landing root) source)
    (below' : IsBelow (tree.landing root) target) :
    KeepsOutside root tree (tree.move source target) where
  sameStart := rfl
  outside other isOutside := by
    by_cases top : other = []
    · rw [top, node?_root, node?_root]
      exact Or.inl rfl
    · rw [node?_move_of_apart apart top, if_neg fun leads => isOutside (below'.leads leads),
        if_neg fun leads => isOutside (below.leads leads)]
      exact Or.inl rfl

end KeepsOutside

/-! ## Operations -/

theorem createDirectory_keepsOutside (created : tree.createDirectory path = .ok changed)
    (place : tree.Passes root (tree.landing path) ∨
      IsBelow (tree.landing root) (tree.landing path)) :
    KeepsOutside root tree changed := by
  obtain ⟨notTop, vacant, rfl, -⟩ := createDirectory_landing created
  rcases place with passes | below
  · refine ⟨rfl, fun other _ => ?_⟩
    by_cases same : other = tree.landing path
    · rw [same]
      exact Or.inr ⟨vacant, node?_set_self tree .directory notTop, passes⟩
    · exact Or.inl (node?_set_of_ne tree .directory same)
  · exact .set below .directory

/-- The directories above a path that stays below are created below the root, or on the way to it. -/
theorem createDirectories_keepsOutside {make : FileTree → Path → Except Fault FileTree}
    (makes : ∀ {tree path after}, make tree path = .ok after → tree.createDirectory path = .ok after)
    (tree : FileTree) (staysBelow : path.StaysBelow) {directory : Path}
    (found : (root.join path).parent? = some directory) :
    KeepsOutside root tree (tree.createDirectories directory make).1 := by
  obtain ⟨names, absolute, -⟩ := Path.parent?_spec found
  refine createChain_closed makes (KeepsOutside root) (.refl root) .trans tree _
    fun other member tree changed created => createDirectory_keepsOutside created ?_
  obtain ⟨leads, sameStart⟩ := Path.names_of_mem_ancestors member
  exact passes_or_isBelow tree staysBelow (leads.trans (names ▸ List.dropLast_prefix _))
    (sameStart.trans absolute)

/-- A file that is written by a path that stays below stands below the root. It cannot stand at the
root itself, which is a directory if it can be passed. -/
theorem writeFile_keepsOutside (wellFormed : tree.WellFormed) (staysBelow : path.StaysBelow)
    {content : ByteArray} (wrote : tree.writeFile (root.join path) content = .ok changed) :
    changed.WellFormed ∧ KeepsOutside root tree changed := by
  obtain ⟨located, rfl, valid, noDirectory⟩ := writeFile_landing wellFormed wrote
  obtain ⟨⟨⟩, -, followed⟩ := bind_eq_ok_iff.1 located
  obtain ⟨reaches, -⟩ := (follow_join_iff staysBelow.relative).1 followed
  rw [landing_join_course tree root staysBelow] at noDirectory valid ⊢
  refine ⟨valid, .set ((eq_or_isBelow (tree.landing root) _).resolve_left fun here => ?_) _⟩
  rw [here] at noDirectory
  exact noDirectory reaches.directory

end ResourceScaffold.FileTree

import ResourceScaffold.Proofs.FileTree.Writing

/-!
Contract: what operations on a file tree leave alone.

Owns:
- trees that differ only in new directories on the way to a place;
- trees that differ only within some places, and in new directories on the way to them;
- what creating directories and moving a part of a tree leave alone.

Does not own: which places a program touches.
-/

namespace ResourceScaffold.FileTree

variable {before middle after tree : FileTree} {path : Path}

/-- Two locations of which neither lies within the other. -/
def Apart (first second : Location) : Prop :=
  ¬ first <+: second ∧ ¬ second <+: first

instance (first second : Location) : Decidable (Apart first second) :=
  inferInstanceAs (Decidable (_ ∧ _))

theorem Apart.symm {first second : Location} (apart : Apart first second) : Apart second first :=
  ⟨apart.2, apart.1⟩

theorem Apart.not_leads_append {first second : Location} (apart : Apart first second)
    (rest : Location) : ¬ first <+: second ++ rest := fun leads =>
  (List.prefix_or_prefix_of_prefix leads (List.prefix_append second rest)).elim apart.1 apart.2

/-- What lies at a place and below it is what lay at and below another place before. -/
def Carries (before : FileTree) (source : Location) (after : FileTree) (target : Location) : Prop :=
  ∀ rest, after.node? (target ++ rest) = before.node? (source ++ rest)

theorem Carries.trans {source between target : Location} (first : Carries before source middle between)
    (second : Carries middle between after target) : Carries before source after target :=
  fun rest => (second rest).trans (first rest)

theorem Carries.node {source target : Location} (carries : Carries before source after target) :
    after.node? target = before.node? source := by
  simpa using carries []

theorem place_congr (sameStart : after.workingDirectory = before.workingDirectory) (path : Path) :
    after.place path = before.place path := by
  rw [place, place, startOf, startOf, sameStart]

/-! ## New directories -/

/-- Some directories on the way to a location are new. -/
structure Grown (limit : Location) (before after : FileTree) : Prop where
  sameStart : after.workingDirectory = before.workingDirectory
  otherwise : ∀ location, after.node? location = before.node? location ∨
    before.node? location = none ∧ after.node? location = some .directory ∧ location <+: limit

theorem Grown.refl (limit : Location) (tree : FileTree) : Grown limit tree tree :=
  ⟨rfl, fun _ => Or.inl rfl⟩

theorem Grown.trans {limit : Location} (first : Grown limit before middle)
    (second : Grown limit middle after) : Grown limit before after where
  sameStart := second.sameStart.trans first.sameStart
  otherwise location := by
    rcases first.otherwise location with same | ⟨vacant, directory, leads⟩
    · rw [← same]
      exact second.otherwise location
    · rcases second.otherwise location with same | ⟨vacant', _⟩
      · exact Or.inr ⟨vacant, same.trans directory, leads⟩
      · rw [directory] at vacant'
        cases vacant'

theorem Grown.mono {limit limit' : Location} (grown : Grown limit before after)
    (leads : limit <+: limit') : Grown limit' before after where
  sameStart := grown.sameStart
  otherwise location := (grown.otherwise location).imp_right
    fun ⟨vacant, directory, inner⟩ => ⟨vacant, directory, inner.trans leads⟩

theorem createDirectory_grown (wellFormed : tree.WellFormed) (plain : path.IsPlain)
    (created : tree.createDirectory path = .ok after) :
    Grown (tree.place path) tree after ∧ after.WellFormed := by
  obtain ⟨rfl, parent, vacant⟩ := createDirectory_eq_ok plain created
  have below : tree.place path ≠ [] := ne_nil_of_noDirectory (vacant.trans_ne (by simp))
  refine ⟨⟨rfl, fun location => ?_⟩, wellFormed.set .directory parent below fun _ => rfl⟩
  by_cases here : location = tree.place path
  · rw [here]
    exact Or.inr ⟨vacant, node?_set_self tree .directory below, List.prefix_rfl⟩
  · exact Or.inl (node?_set_of_ne tree .directory here)

theorem place_parent_leads {parent : Path} (found : path.parent? = some parent) :
    tree.place parent <+: tree.place path := by
  obtain ⟨names, absolute, -⟩ := Path.parent?_spec found
  rw [place, place, within, within, startOf, startOf, absolute, ← Path.names, ← Path.names, names,
    List.map_dropLast]
  exact (List.prefix_append_right_inj _).2 (List.dropLast_prefix _)

section Chain

variable {make : FileTree → Path → Except Fault FileTree}
  (makes : ∀ {tree path after}, make tree path = .ok after → tree.createDirectory path = .ok after)

include makes

/-- Creating a chain of directories adds directories at the end of the chain and on the way to it,
whether it succeeds or not. -/
theorem createChain_grown (wellFormed : tree.WellFormed) (plain : path.IsPlain) (depth : Nat) :
    Grown (tree.place path) tree (createChain make tree (Path.ancestorsWithin depth path)).1 ∧
      (createChain make tree (Path.ancestorsWithin depth path)).1.WellFormed := by
  induction depth generalizing path with
  | zero => exact ⟨Grown.refl _ _, wellFormed⟩
  | succ depth inductionHypothesis =>
      obtain ⟨parents, chain, ancestors⟩ : ∃ parents,
          path.parent?.elim [] (Path.ancestorsWithin depth) = parents ∧
            Path.ancestorsWithin (depth + 1) path = path :: parents := by
        refine ⟨_, rfl, ?_⟩
        rw [Path.ancestorsWithin]
        cases path.parent? <;> rfl
      have parentsGrown : Grown (tree.place path) tree (createChain make tree parents).1 ∧
          (createChain make tree parents).1.WellFormed := by
        cases found : path.parent? with
        | none =>
            rw [← chain, found]
            exact ⟨Grown.refl _ _, wellFormed⟩
        | some parent =>
            rw [← chain, found]
            obtain ⟨grown, valid⟩ := inductionHypothesis ((Path.parent?_spec found).2.2 plain)
            exact ⟨grown.mono (place_parent_leads found), valid⟩
      rw [ancestors, createChain]
      by_cases empty : path.text.isEmpty = true
      · rw [if_pos empty]
        exact ⟨Grown.refl _ _, wellFormed⟩
      rw [if_neg empty]
      split
      · rename_i made
        exact createDirectory_grown wellFormed plain (makes made)
      · split
        · rename_i deeper fault failed
          rw [failed] at parentsGrown
          exact parentsGrown
        · rename_i deeper made
          rw [made] at parentsGrown
          obtain ⟨grown, valid⟩ := parentsGrown
          split
          · rename_i made'
            have last := createDirectory_grown valid plain (makes made')
            rw [place_congr grown.sameStart] at last
            exact ⟨grown.trans last.1, last.2⟩
          · split_ifs <;> exact ⟨grown, valid⟩
      · split_ifs <;> exact ⟨Grown.refl _ _, wellFormed⟩

theorem createDirectories_grown (wellFormed : tree.WellFormed) (plain : path.IsPlain) :
    Grown (tree.place path) tree (tree.createDirectories path make).1 ∧
      (tree.createDirectories path make).1.WellFormed :=
  createChain_grown makes wellFormed plain _

end Chain

/-! ## Touched places -/

/-- Everything outside some places is as it was, except that directories on the way to them may be
new. -/
structure Frame (touched : List Location) (before after : FileTree) : Prop where
  sameStart : after.workingDirectory = before.workingDirectory
  otherwise : ∀ location, (∀ place ∈ touched, ¬ place <+: location) →
    after.node? location = before.node? location ∨
      before.node? location = none ∧ after.node? location = some .directory ∧
        ∃ place ∈ touched, location <+: place

theorem Frame.refl (touched : List Location) (tree : FileTree) : Frame touched tree tree :=
  ⟨rfl, fun _ _ => Or.inl rfl⟩

theorem Frame.trans {touched touched' : List Location} (first : Frame touched before middle)
    (second : Frame touched' middle after) : Frame (touched ++ touched') before after where
  sameStart := second.sameStart.trans first.sameStart
  otherwise location outside := by
    have outside' := fun place member => outside place (List.mem_append_left touched' member)
    have outside'' := fun place member => outside place (List.mem_append_right touched member)
    rcases first.otherwise location outside' with same | ⟨vacant, directory, place, member, leads⟩
    · rw [← same]
      exact (second.otherwise location outside'').imp_right
        fun ⟨vacant, directory, place, member, leads⟩ =>
          ⟨vacant, directory, place, List.mem_append_right touched member, leads⟩
    · rcases second.otherwise location outside'' with same | ⟨vacant', _⟩
      · exact Or.inr ⟨vacant, same.trans directory, place, List.mem_append_left touched' member,
          leads⟩
      · rw [directory] at vacant'
        cases vacant'

theorem Frame.mono {touched touched' : List Location} (frame : Frame touched before after)
    (subset : touched ⊆ touched') : Frame touched' before after where
  sameStart := frame.sameStart
  otherwise location outside :=
    (frame.otherwise location fun place member => outside place (subset member)).imp_right
      fun ⟨vacant, directory, place, member, leads⟩ =>
        ⟨vacant, directory, place, subset member, leads⟩

/-- A place apart from all touched ones keeps everything at and below it. -/
theorem Frame.carries {touched : List Location} (frame : Frame touched before after)
    {location : Location} (apart : ∀ place ∈ touched, Apart place location) :
    Carries before location after location := by
  intro rest
  have outside (place : Location) (member : place ∈ touched) : ¬ place <+: location ++ rest :=
    (apart place member).not_leads_append rest
  rcases frame.otherwise (location ++ rest) outside with same | ⟨-, -, place, member, leads⟩
  · exact same
  · exact absurd ((List.prefix_append location rest).trans leads) (apart place member).2

theorem Grown.carries {place : Location} (grown : Grown place.dropLast before after) :
    Carries before place after place := by
  intro rest
  rcases grown.otherwise (place ++ rest) with same | ⟨vacant, -, leads⟩
  · exact same
  · have lengths := leads.length_le
    rw [List.length_append, List.length_dropLast] at lengths
    have root : place = [] := List.eq_nil_of_length_eq_zero (by omega)
    have whole : rest = [] := List.eq_nil_of_length_eq_zero (by omega)
    rw [root, whole] at vacant
    cases vacant

/-! ## What paths refer to -/

/-- A path refers afterwards to what a path referred to before, with everything below it. -/
structure Inherits (before : FileTree) (source : Path) (after : FileTree) (target : Path) :
    Prop where
  carries : Carries before (before.place source) after (after.place target)
  status : ∀ node, before.status source = .ok node → after.status target = .ok node

theorem Inherits.refl (tree : FileTree) (path : Path) : Inherits tree path tree path :=
  ⟨fun _ => rfl, fun _ found => found⟩

theorem Inherits.trans {source between target : Path} (first : Inherits before source middle between)
    (second : Inherits middle between after target) : Inherits before source after target :=
  ⟨first.carries.trans second.carries, fun node found => second.status node (first.status node found)⟩

theorem Inherits.readBytes {source target : Path} (inherits : Inherits before source after target)
    {content : ByteArray} (reads : before.readBytes source = .ok content) :
    after.readBytes target = .ok content :=
  readBytes_eq_ok_iff.2 (inherits.status _ (readBytes_eq_ok_iff.1 reads))

theorem Carries.inherits (wellFormed : before.WellFormed) (wellFormed' : after.WellFormed)
    (sameStart : after.workingDirectory = before.workingDirectory) (plain : path.IsPlain)
    (carries : Carries before (before.place path) after (before.place path)) :
    Inherits before path after path where
  carries := by rwa [place_congr sameStart]
  status node found := by
    obtain ⟨checked, fit, ends, here⟩ := (wellFormed.status_eq_ok_iff plain).1 found
    refine (wellFormed'.status_eq_ok_iff plain).2 ⟨checked, fit, ends, ?_⟩
    rw [place_congr sameStart, carries.node, here]

theorem Frame.inherits {touched : List Location} (frame : Frame touched before after)
    (wellFormed : before.WellFormed) (wellFormed' : after.WellFormed) (plain : path.IsPlain)
    (apart : ∀ place ∈ touched, Apart place (before.place path)) : Inherits before path after path :=
  (frame.carries apart).inherits wellFormed wellFormed' frame.sameStart plain

theorem Grown.inherits (grown : Grown (before.place path).dropLast before after)
    (wellFormed : before.WellFormed) (wellFormed' : after.WellFormed) (plain : path.IsPlain) :
    Inherits before path after path :=
  grown.carries.inherits wellFormed wellFormed' grown.sameStart plain

/-- A path that is not taken over by a change exists afterwards if and only if it did before. -/
theorem Frame.pathExists_eq {touched : List Location} (frame : Frame touched before after)
    (wellFormed : before.WellFormed) (wellFormed' : after.WellFormed) (plain : path.IsPlain)
    (apart : ∀ place ∈ touched, Apart place (before.place path)) :
    after.pathExists path = before.pathExists path := by
  have carries := frame.carries apart
  rw [Bool.eq_iff_iff, pathExists_iff, pathExists_iff]
  refine exists_congr fun node => ?_
  rw [wellFormed'.status_eq_ok_iff plain, wellFormed.status_eq_ok_iff plain,
    place_congr frame.sameStart, carries.node]

/-! ## Single changes -/

theorem Grown.frame {place : Location} (grown : Grown place.dropLast before after) :
    Frame [place] before after where
  sameStart := grown.sameStart
  otherwise location _ := (grown.otherwise location).imp_right
    fun ⟨vacant, directory, leads⟩ => ⟨vacant, directory, place, List.mem_cons_self,
      leads.trans (List.dropLast_prefix place)⟩

theorem set_frame (tree : FileTree) (location : Location) (node : Node) :
    Frame [location] tree (tree.set location node) where
  sameStart := rfl
  otherwise other outside := by
    refine Or.inl (node?_set_of_ne tree node ?_)
    rintro rfl
    exact outside other List.mem_cons_self List.prefix_rfl

section Move

variable {source target : Location}

theorem node?_move_of_apart (apart : Apart source target) {other : Location} (below : other ≠ []) :
    (tree.move source target).node? other =
      if target <+: other then tree.node? (source ++ other.drop target.length)
      else if source <+: other then none
      else tree.node? other := by
  rw [node?_move tree (Bool.eq_false_iff.2 (mt isWithin_iff.1 apart.2))
    (Bool.eq_false_iff.2 (mt isWithin_iff.1 apart.1)) below]
  simp only [isWithin_iff]

theorem move_frame (apart : Apart source target) :
    Frame [source, target] tree (tree.move source target) where
  sameStart := rfl
  otherwise other outside := by
    left
    by_cases root : other = []
    · rw [root, node?_root, node?_root]
    · rw [node?_move_of_apart apart root, if_neg (outside target (by simp)),
        if_neg (outside source (by simp))]

theorem move_carries (apart : Apart source target) :
    Carries tree source (tree.move source target) target := by
  intro rest
  have below : target ++ rest ≠ [] := by
    intro empty
    rw [List.append_eq_nil_iff] at empty
    exact apart.2 (empty.1 ▸ List.nil_prefix)
  rw [node?_move_of_apart apart below, if_pos (List.prefix_append target rest), List.drop_left]

end Move

end ResourceScaffold.FileTree

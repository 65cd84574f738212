import ResourceScaffold.FileTree.Access
import ResourceScaffold.Proofs.Path.Names

/-!
Contract: where a path without steps up leads in a file tree.

Owns:
- the place of a path, read off its names alone;
- trees in which everything lies in a directory;
- when following a path succeeds, and what existence and content of a path then depend on.

Does not own: changes of a tree.
-/

namespace ResourceScaffold.FileTree

open ResourceScaffold.Path (named isIdle endsIdle)

/-! ## Places -/

def within (location : Location) (segments : List (List Char)) : Location :=
  location ++ (named segments).map String.ofList

/-- Where a path leads if it never steps up. -/
def place (tree : FileTree) (path : Path) : Location :=
  within (tree.startOf path) path.segments

@[simp] theorem within_nil (location : Location) : within location [] = location := by
  simp [within]

theorem within_append (location : Location) (front back : List (List Char)) :
    within location (front ++ back) = within (within location front) back := by
  simp [within]

theorem within_cons_of_isIdle {segment : List Char} (idle : isIdle segment = true)
    (location : Location) (rest : List (List Char)) :
    within location (segment :: rest) = within location rest := by
  rw [within, Path.named_cons_of_isIdle idle, within]

theorem within_cons_of_busy {segment : List Char} (busy : isIdle segment = false)
    (location : Location) (rest : List (List Char)) :
    within location (segment :: rest) = within (location ++ [String.ofList segment]) rest := by
  rw [within, Path.named_cons_of_busy busy, within, List.map_cons, List.append_assoc,
    List.singleton_append]

/-- A location that leads to another one is that one, or leads to the directory above it. -/
theorem eq_or_leads_dropLast {outer inner : Location} (leads : outer <+: inner) :
    outer = inner ∨ outer <+: inner.dropLast := by
  rcases List.eq_nil_or_concat inner with rfl | ⟨front, last, rfl⟩
  · exact Or.inl (List.prefix_nil.1 leads)
  · rw [List.concat_eq_append] at leads ⊢
    rw [List.dropLast_concat]
    exact List.prefix_concat_iff.1 leads

/-! ## Following -/

theorem bind_eq_ok_iff {Error First Second : Type} {first : Except Error First}
    {next : First → Except Error Second} {second : Second} :
    (first >>= next) = .ok second ↔ ∃ middle, first = .ok middle ∧ next middle = .ok second := by
  cases first with
  | ok middle =>
      constructor
      · exact fun ends => ⟨middle, rfl, ends⟩
      · rintro ⟨_, same, ends⟩
        cases same
        exact ends
  | error fault =>
      constructor
      · nofun
      · rintro ⟨_, same, _⟩
        cases same

/-- Every segment is looked for in a directory. -/
def Visits (tree : FileTree) (location : Location) (segments : List (List Char)) : Prop :=
  ∀ front segment back, segments = front ++ segment :: back →
    tree.node? (within location front) = some .directory

def NamesFit (segments : List (List Char)) : Prop :=
  ∀ segment ∈ named segments, (String.ofList segment).utf8ByteSize ≤ nameLimit

theorem namesFit_cons_of_isIdle {segment : List Char} (idle : isIdle segment = true)
    (rest : List (List Char)) : NamesFit (segment :: rest) ↔ NamesFit rest := by
  rw [NamesFit, Path.named_cons_of_isIdle idle, NamesFit]

theorem namesFit_cons_of_busy {segment : List Char} (busy : isIdle segment = false)
    (rest : List (List Char)) :
    NamesFit (segment :: rest) ↔
      (String.ofList segment).utf8ByteSize ≤ nameLimit ∧ NamesFit rest := by
  rw [NamesFit, Path.named_cons_of_busy busy, List.forall_mem_cons, NamesFit]

theorem visits_cons_iff {tree : FileTree} {location : Location} {segment : List Char}
    {rest : List (List Char)} :
    tree.Visits location (segment :: rest) ↔
      tree.node? location = some .directory ∧ tree.Visits (within location [segment]) rest := by
  constructor
  · intro visits
    refine ⟨by simpa using visits [] segment rest rfl, fun front next back split => ?_⟩
    rw [← within_append]
    exact visits ([segment] ++ front) next back (by simp [split])
  · rintro ⟨here, later⟩ front next back split
    cases front with
    | nil => simpa using here
    | cons first others =>
        rw [List.cons_append, List.cons.injEq] at split
        rw [← List.singleton_append, within_append, ← split.1]
        exact later others next back split.2

theorem isIdle_iff {segment : List Char} :
    isIdle segment = true ↔ String.ofList segment = "" ∨ String.ofList segment = "." := by
  have spelled (word : String) : String.ofList segment = word ↔ segment = word.toList := by
    rw [← String.toList_inj, String.toList_ofList]
  rw [spelled, spelled, isIdle]
  simp

theorem stepsUp_iff {segment : List Char} :
    String.ofList segment = ".." ↔ segment = ['.', '.'] := by
  rw [← String.toList_inj, String.toList_ofList]
  exact Iff.rfl

/-- Segments without a step up lead to the place that their names describe, if they can be followed
at all. -/
theorem follow_eq_ok_iff {tree : FileTree} {location result : Location}
    {segments : List (List Char)} (plain : ['.', '.'] ∉ segments) :
    tree.follow location (segments.map String.ofList) = .ok result ↔
      result = within location segments ∧ NamesFit segments ∧ tree.Visits location segments := by
  induction segments generalizing location with
  | nil =>
      rw [List.map_nil, follow, within_nil, Except.ok.injEq]
      constructor
      · rintro rfl
        exact ⟨rfl, by simp [NamesFit], by simp [Visits]⟩
      · rintro ⟨rfl, -⟩
        rfl
  | cons segment rest inductionHypothesis =>
      rw [List.mem_cons, not_or] at plain
      have notUp : ¬ String.ofList segment = ".." := fun up => plain.1 (stepsUp_iff.1 up).symm
      rw [List.map_cons, follow, visits_cons_iff]
      cases tree.node? location with
      | none => simp
      | some node =>
          cases node with
          | file content => simp
          | directory =>
              dsimp only
              by_cases idle : isIdle segment = true
              · rw [if_pos (isIdle_iff.1 idle), inductionHypothesis plain.2,
                  within_cons_of_isIdle idle, within_cons_of_isIdle idle, within_nil,
                  namesFit_cons_of_isIdle idle]
                simp
              · have busy : isIdle segment = false := by simpa using idle
                rw [if_neg (mt isIdle_iff.2 idle), if_neg notUp, within_cons_of_busy busy,
                  within_cons_of_busy busy, within_nil, namesFit_cons_of_busy busy]
                by_cases long : nameLimit < (String.ofList segment).utf8ByteSize
                · rw [if_pos long]
                  simp [Nat.not_le.2 long]
                · rw [if_neg long, inductionHypothesis plain.2]
                  simp [Nat.le_of_not_lt long]

/-! ## Well-formed trees -/

/-- Everything lies in a directory. -/
def WellFormed (tree : FileTree) : Prop :=
  ∀ location name, tree.node? (location ++ [name]) ≠ none → tree.node? location = some .directory

theorem ne_nil_of_noDirectory {tree : FileTree} {location : Location}
    (noDirectory : tree.node? location ≠ some .directory) : location ≠ [] := by
  rintro rfl
  exact noDirectory (node?_root tree)

theorem WellFormed.directory_of_below {tree : FileTree} (wellFormed : tree.WellFormed)
    {location rest : Location} (below : rest ≠ [])
    (occupied : tree.node? (location ++ rest) ≠ none) :
    tree.node? location = some .directory := by
  induction rest using List.reverseRecOn with
  | nil => exact absurd rfl below
  | append_singleton front last inductionHypothesis =>
      rw [← List.append_assoc] at occupied
      have parent := wellFormed _ last occupied
      by_cases empty : front = []
      · simpa [empty] using parent
      · exact inductionHypothesis empty (by simp [parent])

theorem WellFormed.directory_of_leads {tree : FileTree} (wellFormed : tree.WellFormed)
    {location inner : Location} (leads : location <+: inner)
    (directory : tree.node? inner = some .directory) : tree.node? location = some .directory := by
  obtain ⟨rest, rfl⟩ := leads
  by_cases empty : rest = []
  · simpa [empty] using directory
  · exact wellFormed.directory_of_below empty (by simp [directory])

/-- Nothing lies below a place that is no directory. -/
theorem WellFormed.vacant_below {tree : FileTree} (wellFormed : tree.WellFormed)
    {location : Location} (noDirectory : tree.node? location ≠ some .directory) {rest : Location}
    (below : rest ≠ []) : tree.node? (location ++ rest) = none := by
  by_contra occupied
  exact noDirectory (wellFormed.directory_of_below below occupied)

/-- It is enough to look at what the tree lists. -/
theorem wellFormed_iff {tree : FileTree} :
    tree.WellFormed ↔ ∀ entry ∈ tree.nodes, tree.node? entry.1.dropLast = some .directory := by
  constructor
  · rintro wellFormed ⟨location, node⟩ member
    rcases List.eq_nil_or_concat location with rfl | ⟨front, name, rfl⟩
    · rfl
    · rw [List.concat_eq_append] at member ⊢
      rw [List.dropLast_concat]
      refine wellFormed front name fun vacant => ?_
      rw [node?, if_neg (by simp), List.lookup_eq_none_iff] at vacant
      simpa using vacant _ member
  · intro listed location name occupied
    rw [node?, if_neg (by simp), ne_eq, List.lookup_eq_none_iff] at occupied
    push Not at occupied
    obtain ⟨⟨entry, node⟩, member, same⟩ := occupied
    obtain rfl : location ++ [name] = entry := by simpa using same
    simpa using listed _ member

instance (tree : FileTree) : Decidable tree.WellFormed :=
  decidable_of_iff _ wellFormed_iff.symm

/-! ## What a path refers to -/

/-- In a tree where everything lies in a directory, a place that is taken can be reached, unless a
file is meant to be a directory. -/
theorem WellFormed.visits_iff {tree : FileTree} (wellFormed : tree.WellFormed)
    {location : Location} {segments : List (List Char)} {node : Node}
    (found : tree.node? (within location segments) = some node) :
    tree.Visits location segments ↔ (endsIdle segments = true → node = .directory) := by
  constructor
  · intro visits idle
    rcases List.eq_nil_or_concat segments with rfl | ⟨front, last, rfl⟩
    · cases idle
    · rw [List.concat_eq_append] at visits found idle
      have lastIdle : isIdle last = true := by simpa [endsIdle] using idle
      have here := visits front last [] rfl
      rw [within_append, within_cons_of_isIdle lastIdle, within_nil, here] at found
      exact (Option.some.inj found).symm
  · intro ends front segment back split
    rw [split, within_append, within] at found
    by_cases unnamed : named (segment :: back) = []
    · have idle : endsIdle segments = true := by
        rw [endsIdle, split, List.getLast?_append_of_ne_nil _ (by simp),
          List.getLast?_eq_some_getLast (by simp), Option.any_some]
        by_contra busy
        have member : (segment :: back).getLast (by simp) ∈ named (segment :: back) :=
          List.mem_filter.2 ⟨List.getLast_mem _, by simpa using busy⟩
        rw [unnamed] at member
        exact List.not_mem_nil member
      rw [unnamed, List.map_nil, List.append_nil] at found
      rw [found, ends idle]
    · have below : (named (segment :: back)).map String.ofList ≠ [] := by
        simpa using unnamed
      refine wellFormed.directory_of_below below ?_
      rw [found]
      exact Option.some_ne_none node

variable {tree : FileTree} {path : Path}

theorem pathSegments_eq (path : Path) : pathSegments path = path.segments.map String.ofList :=
  rfl

theorem locate_eq_ok_iff (plain : path.IsPlain) {location : Location} :
    tree.locate path = .ok location ↔
      checkPath path = .ok () ∧ location = tree.place path ∧ NamesFit path.segments ∧
        tree.Visits (tree.startOf path) path.segments := by
  rw [locate, bind_eq_ok_iff]
  constructor
  · rintro ⟨done, checked, followed⟩
    exact ⟨checked, (follow_eq_ok_iff plain).1 followed⟩
  · rintro ⟨checked, leads⟩
    exact ⟨(), checked, (follow_eq_ok_iff plain).2 leads⟩

theorem status_eq_ok_iff_locate {node : Node} :
    tree.status path = .ok node ↔
      ∃ location, tree.locate path = .ok location ∧ tree.node? location = some node := by
  rw [status, bind_eq_ok_iff]
  refine exists_congr fun location => and_congr_right fun _ => ?_
  cases tree.node? location <;> simp

/-- What a path refers to depends on the tree only through the node at its place. -/
theorem WellFormed.status_eq_ok_iff (wellFormed : tree.WellFormed) (plain : path.IsPlain)
    {node : Node} :
    tree.status path = .ok node ↔
      checkPath path = .ok () ∧ NamesFit path.segments ∧
        (endsIdle path.segments = true → node = .directory) ∧
        tree.node? (tree.place path) = some node := by
  rw [status_eq_ok_iff_locate]
  constructor
  · rintro ⟨location, located, found⟩
    obtain ⟨checked, rfl, fit, visits⟩ := (locate_eq_ok_iff plain).1 located
    exact ⟨checked, fit, (wellFormed.visits_iff found).1 visits, found⟩
  · rintro ⟨checked, fit, ends, found⟩
    exact ⟨_, (locate_eq_ok_iff plain).2 ⟨checked, rfl, fit, (wellFormed.visits_iff found).2 ends⟩,
      found⟩

theorem pathExists_iff : tree.pathExists path = true ↔ ∃ node, tree.status path = .ok node := by
  rw [pathExists]
  cases tree.status path <;> simp

theorem readBytes_eq_ok_iff {content : ByteArray} :
    tree.readBytes path = .ok content ↔ tree.status path = .ok (.file content) := by
  rw [readBytes, bind_eq_ok_iff]
  constructor
  · rintro ⟨node, found, reads⟩
    cases node with
    | directory => cases reads
    | file content' =>
        cases reads
        exact found
  · exact fun found => ⟨_, found, rfl⟩

end ResourceScaffold.FileTree

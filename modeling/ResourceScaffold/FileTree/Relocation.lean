import ResourceScaffold.FileTree.Basic

/-!
Contract: what stands where after a part of a file tree was erased or moved.

Owns:
- locations within other locations;
- looking up a location after an erasure and after a move.

Does not own: the checks that a real operation makes before it moves anything.
-/

namespace ResourceScaffold.FileTree

/-! ## Locations within locations -/

/-- A location lies within another one exactly when it continues it. -/
theorem isWithin_iff {outer inner : Location} :
    isWithin outer inner = true ↔ outer <+: inner := by
  simp [isWithin]

/-- Two locations of which neither lies within the other have nothing within them in common. -/
theorem not_within_of_apart {first second : Location} (apart : isWithin first second = false)
    (otherwise : isWithin second first = false) (rest : Location) :
    isWithin first (second ++ rest) = false := by
  rw [Bool.eq_false_iff, ne_eq, isWithin_iff] at *
  intro within
  rcases Nat.le_total first.length second.length with shorter | longer
  · exact apart (List.prefix_of_prefix_length_le within (List.prefix_append _ _) shorter)
  · exact otherwise (List.prefix_of_prefix_length_le (List.prefix_append _ _) within longer)

/-! ## Erasing -/

theorem node?_erase (tree : FileTree) (location : Location) {other : Location}
    (below : other ≠ []) :
    (tree.erase location).node? other =
      if isWithin location other then none else tree.node? other := by
  simp only [node?, List.isEmpty_iff, below, if_false, erase]
  induction tree.nodes with
  | nil => simp
  | cons entry rest inductionHypothesis =>
      obtain ⟨first, found⟩ := entry
      by_cases same : other = first
      · subst same
        by_cases within : isWithin location other
        · simpa [within] using inductionHypothesis
        · simp [within]
      · have unequal : (other == first) = false := by simpa using same
        by_cases within : isWithin location first <;>
          simp [List.lookup_cons, within, unequal, inductionHypothesis]

/-! ## Moving -/

/-- What a location has to be in order to stand at another one after a move that does not destroy
it. -/
theorem relocated_eq_iff {source target location other : Location}
    (survives : isWithin target location = false) :
    relocated source target location = other ↔
      if isWithin target other then location = source ++ other.drop target.length
      else isWithin source other = false ∧ location = other := by
  by_cases moved : isWithin source location
  · obtain ⟨rest, rfl⟩ := isWithin_iff.1 moved
    simp only [relocated, moved, if_true, List.drop_left]
    by_cases within : isWithin target other
    · obtain ⟨tail, rfl⟩ := isWithin_iff.1 within
      simp [within]
    · have elsewhere : target ++ rest ≠ other := by
        rintro rfl
        exact within (isWithin_iff.2 (List.prefix_append _ _))
      simp only [within, if_false, elsewhere, false_iff, Bool.false_eq_true]
      rintro ⟨outside, rfl⟩
      simp [moved] at outside
  · simp only [relocated, moved, if_false, Bool.false_eq_true]
    by_cases within : isWithin target other
    · have elsewhere : location ≠ other := by
        rintro rfl
        simp [within] at survives
      simp only [within, if_true, elsewhere, false_iff]
      rintro rfl
      exact moved (isWithin_iff.2 (List.prefix_append _ _))
    · simp only [within, if_false, Bool.false_eq_true]
      constructor
      · rintro rfl
        exact ⟨by simpa using moved, rfl⟩
      · exact And.right

/-- What `relocated_eq_iff` says, as the look-up in the moved tree asks for it. -/
theorem beq_relocated (source other : Location) {target location : Location}
    (survives : isWithin target location = false) :
    (other == relocated source target location) =
      if isWithin target other then source ++ other.drop target.length == location
      else !isWithin source other && other == location := by
  rw [Bool.eq_iff_iff, beq_iff_eq, eq_comm, relocated_eq_iff survives]
  split
  · rw [beq_iff_eq, eq_comm]
  · rw [Bool.and_eq_true, Bool.not_eq_true', beq_iff_eq, eq_comm (a := other)]

/-- An entry that the move destroys was found neither through the target nor outside of it. -/
theorem beq_of_destroyed (other : Location) {source target location : Location}
    (apart : isWithin target source = false) (otherwise : isWithin source target = false)
    (destroyed : isWithin target location = true) :
    (if isWithin target other then source ++ other.drop target.length == location
      else other == location) = false := by
  split
  · rw [beq_eq_false_iff_ne]
    rintro rfl
    simp [not_within_of_apart apart otherwise] at destroyed
  · rename_i outside
    rw [beq_eq_false_iff_ne]
    rintro rfl
    exact outside destroyed

/-- After a move, the target holds what the source held, the source holds nothing, and the rest is
as it was. -/
theorem node?_move (tree : FileTree) {source target other : Location}
    (apart : isWithin target source = false) (otherwise : isWithin source target = false)
    (below : other ≠ []) :
    (tree.move source target).node? other =
      if isWithin target other then tree.node? (source ++ other.drop target.length)
      else if isWithin source other then none
      else tree.node? other := by
  have sourceBelow : source ≠ [] := by
    rintro rfl
    simp [isWithin] at otherwise
  simp only [node?, List.isEmpty_iff, below, if_false, move, erase, List.append_eq_nil_iff,
    sourceBelow, false_and]
  induction tree.nodes with
  | nil => simp
  | cons entry rest inductionHypothesis =>
      obtain ⟨first, found⟩ := entry
      by_cases destroyed : isWithin target first
      · have missed := beq_of_destroyed other apart otherwise destroyed
        by_cases within : isWithin target other
        · simp only [within, if_true] at missed
          simpa [destroyed, within, List.lookup_cons, missed] using inductionHypothesis
        · simp only [within, if_false, Bool.false_eq_true] at missed
          simpa [destroyed, within, List.lookup_cons, missed] using inductionHypothesis
      · have arrives := beq_relocated source other (by simpa using destroyed)
        simp only [destroyed, List.filter_cons, Bool.not_false, if_true, List.map_cons,
          List.lookup_cons, inductionHypothesis, arrives]
        by_cases within : isWithin target other
        · simp only [within, if_true]
        · by_cases moved : isWithin source other <;> simp [within, moved]

end ResourceScaffold.FileTree

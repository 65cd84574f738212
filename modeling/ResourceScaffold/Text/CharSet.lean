/-!
Contract: sets of characters that are unions of code point ranges.

Owns:
- the representation of a character property as inclusive ranges;
- membership.

Does not own: the tables of particular properties.
-/

namespace ResourceScaffold.Text

/-- A set of characters, given by inclusive ranges of code points. -/
structure CharSet where
  ranges : List (Nat × Nat)

def CharSet.contains (set : CharSet) (character : Char) : Bool :=
  set.ranges.any fun range => range.1 ≤ character.toNat && character.toNat ≤ range.2

theorem CharSet.contains_iff (set : CharSet) (character : Char) :
    set.contains character = true ↔
      ∃ range ∈ set.ranges, range.1 ≤ character.toNat ∧ character.toNat ≤ range.2 := by
  simp [CharSet.contains, List.any_eq_true]

end ResourceScaffold.Text

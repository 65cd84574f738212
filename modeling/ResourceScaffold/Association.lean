/-!
Contract: finite maps as lists of pairs, in the order in which keys were first set.

Owns:
- setting and removing a key;
- what a look-up finds afterwards.

Does not own: maps whose keys are kept sorted.
-/

namespace ResourceScaffold.Association

variable {Key Item : Type} [BEq Key]

/-- The pairs in which a key has an item. A key that is there keeps its place. -/
def set (key : Key) (item : Item) : List (Key × Item) → List (Key × Item)
  | [] => [(key, item)]
  | entry :: rest => if entry.1 == key then (key, item) :: rest else entry :: set key item rest

def erase (key : Key) (entries : List (Key × Item)) : List (Key × Item) :=
  entries.filter fun entry => entry.1 != key

/-! ## What a look-up finds -/

variable [LawfulBEq Key]

@[simp] theorem lookup_set_self (key : Key) (item : Item) (entries : List (Key × Item)) :
    (set key item entries).lookup key = some item := by
  induction entries with
  | nil => simp [set]
  | cons entry rest inductionHypothesis =>
      obtain ⟨first, found⟩ := entry
      by_cases same : first = key
      · simp [set, same]
      · have other : (key == first) = false := by simpa using fun equal => same equal.symm
        simp [set, same, List.lookup_cons, other, inductionHypothesis]

theorem lookup_set_of_ne {key other : Key} (item : Item) (entries : List (Key × Item))
    (different : other ≠ key) :
    (set key item entries).lookup other = entries.lookup other := by
  have unequal : (other == key) = false := by simpa using different
  induction entries with
  | nil => simp [set, List.lookup_cons, unequal]
  | cons entry rest inductionHypothesis =>
      obtain ⟨first, found⟩ := entry
      by_cases same : first = key
      · subst same
        simp [set, List.lookup_cons, unequal]
      · simp [set, same, List.lookup_cons, inductionHypothesis]

@[simp] theorem lookup_erase_self (key : Key) (entries : List (Key × Item)) :
    (erase key entries).lookup key = none := by
  induction entries with
  | nil => rfl
  | cons entry rest inductionHypothesis =>
      obtain ⟨first, found⟩ := entry
      simp only [erase] at inductionHypothesis
      by_cases same : first = key
      · simp [erase, same, inductionHypothesis]
      · have other : (key == first) = false := by simpa using fun equal => same equal.symm
        simp [erase, same, List.lookup_cons, other, inductionHypothesis]

end ResourceScaffold.Association

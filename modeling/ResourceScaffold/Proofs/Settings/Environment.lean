import ResourceScaffold.Proofs.Settings.Fields
import ResourceScaffold.Settings.Environment

/-!
Contract: what environment variables give at the key of a setting.

Owns:
- that no key is given twice in the value of a variable;
- that at a key the last variable that gives something there decides;
- that a variable with a key of its own gives the value of its text there.

Does not own: the order of the sources.
-/

namespace ResourceScaffold.Environment

open Datum

variable {environment : List (String × String)} {setting : String × String}
  {below : List (String × Datum)} {datum : Datum} {key parts : List String}

/-! ## Values -/

theorem wordValue_distinct (word : List Char) : (wordValue word).Distinct := by
  unfold wordValue
  dsimp only
  split
  · trivial
  · split
    · trivial
    · split
      · split_ifs
        · trivial
        · split <;> trivial
      · trivial

/-- What is read within a number of steps keeps keys apart: values, the rest of a list, and the rest
of a table. -/
structure ReadsDistinct (steps : Nat) : Prop where
  value : ∀ {text datum rest}, readValue steps text = some (datum, rest) → datum.Distinct
  items : ∀ {items text datum rest}, (∀ item ∈ items, item.Distinct) →
    readItems steps items text = some (datum, rest) → datum.Distinct
  table : ∀ {entries text datum rest}, DistinctEntries entries →
    readEntries steps entries text = some (datum, rest) → datum.Distinct

namespace ReadsDistinct

variable {steps : Nat} {text rest : List Char} {items : List Datum}

theorem nextValue (reads : ReadsDistinct steps)
    (found : readValue (steps + 1) text = some (datum, rest)) : datum.Distinct := by
  unfold readValue at found
  obtain ⟨⟨value, after⟩, read, same⟩ := Option.map_eq_some_iff.1 found
  cases same
  split at read
  · cases read
    trivial
  · cases read
    trivial
  · exact reads.table distinctEntries_nil read
  · exact reads.items (fun item member => absurd member List.not_mem_nil) read
  · obtain ⟨_, -, same⟩ := Option.map_eq_some_iff.1 read
    cases same
    trivial
  · cases read
    trivial
  · cases read
  · cases read
    exact wordValue_distinct _

theorem nextItems (reads : ReadsDistinct steps) (distinct : ∀ item ∈ items, item.Distinct)
    (found : readItems (steps + 1) items text = some (datum, rest)) : datum.Distinct := by
  have reversed {items : List Datum} (distinct : ∀ item ∈ items, item.Distinct) :
      (Datum.list .environment items.reverse).Distinct :=
    distinctItems_iff.2 fun item member => distinct item (List.mem_reverse.1 member)
  unfold readItems at found
  split at found
  · cases found
    exact reversed distinct
  · split at found
    · rename_i read
      exact reads.items (List.forall_mem_cons.2 ⟨reads.value read, distinct⟩) found
    · rename_i read
      cases found
      exact reversed (List.forall_mem_cons.2 ⟨reads.value read, distinct⟩)
    · cases found

theorem nextTable (reads : ReadsDistinct steps) (distinct : DistinctEntries below)
    (found : readEntries (steps + 1) below text = some (datum, rest)) : datum.Distinct := by
  unfold readEntries at found
  split at found
  · cases found
    exact distinct
  · split at found
    · cases found
    · split at found
      · split at found
        · rename_i read
          exact reads.table (distinct.set (reads.value read) _) found
        · rename_i read
          cases found
          exact distinct.set (reads.value read) _
        · cases found
      · cases found

end ReadsDistinct

theorem readsDistinct (steps : Nat) : ReadsDistinct steps := by
  induction steps with
  | zero =>
      refine ⟨fun found => ?_, fun _ found => ?_, fun _ found => ?_⟩
      · rw [readValue] at found
        cases found
      · rw [readItems] at found
        cases found
      · rw [readEntries] at found
        cases found
  | succ steps reads => exact ⟨reads.nextValue, reads.nextItems, reads.nextTable⟩

theorem valueOf_distinct (text : String) : (valueOf text).Distinct := by
  unfold valueOf
  split
  · rename_i read
    exact (readsDistinct _).value read
  · trivial

/-! ## Variables -/

theorem nested_distinct (distinct : datum.Distinct) (parts : List String) :
    DistinctEntries (nested datum parts) := by
  induction parts with
  | nil => trivial
  | cons part tail inductionHypothesis =>
      cases tail with
      | nil => exact ⟨⟨List.not_mem_nil, distinct⟩, trivial⟩
      | cons next rest => exact ⟨⟨List.not_mem_nil, inductionHypothesis⟩, trivial⟩

theorem entriesOf_distinct (setting : String × String) : DistinctEntries (entriesOf setting) := by
  unfold entriesOf
  split
  · exact nested_distinct (valueOf_distinct setting.2) _
  · trivial

/-- A variable that spells the name of no section gives every section as a table. -/
theorem entriesOf_sectioned
    (names : ∀ title ∈ ["aggregator", "layout", "templates", "verify"],
      keyOf? setting.1 ≠ some [title]) : Sectioned (entriesOf setting) := by
  unfold entriesOf
  split
  · rename_i parts spelled
    intro title member datum found
    match parts with
    | [] => cases found
    | [part] =>
        obtain ⟨same, -⟩ := List.mem_singleton.1 (Association.mem_of_lookup found)
        exact absurd spelled (names _ member)
    | part :: next :: rest =>
        cases List.mem_singleton.1 (Association.mem_of_lookup found)
        exact ⟨_, _, rfl⟩
  · exact sectioned_nil

/-- A variable with a key of its own has the value of its text there. -/
theorem at?_nested_self (datum : Datum) (given : key ≠ []) :
    at? key (nested datum key) = some datum := by
  induction key with
  | nil => exact absurd rfl given
  | cons part tail inductionHypothesis =>
      cases tail with
      | nil => rw [nested, at?, List.lookup_cons_self]
      | cons next rest =>
          rw [nested, at?, List.lookup_cons_self]
          · exact inductionHypothesis (List.cons_ne_nil next rest)
          · exact fun same => List.cons_ne_nil next rest same

/-- A variable gives nothing at a key if neither this nor its own key begins with the other. -/
theorem at?_nested_of_apart (datum : Datum) (shorter : ¬parts <+: key) (longer : ¬key <+: parts) :
    at? key (nested datum parts) = none := by
  induction key generalizing parts with
  | nil => exact absurd List.nil_prefix longer
  | cons part tail inductionHypothesis =>
      cases parts with
      | nil => exact absurd List.nil_prefix shorter
      | cons first others =>
          by_cases same : first = part
          · subst same
            rw [List.cons_prefix_cons, eq_self, true_and] at shorter longer
            cases tail with
            | nil => exact absurd List.nil_prefix longer
            | cons next rest =>
                cases others with
                | nil => exact absurd List.nil_prefix shorter
                | cons next' rest' =>
                    rw [at?, nested, List.lookup_cons_self]
                    · exact inductionHypothesis shorter longer
                    · exact fun empty => List.cons_ne_nil next' rest' empty
          · have unequal : (part == first) = false := by simpa using fun equal => same equal.symm
            obtain ⟨inner, alone⟩ : ∃ inner, nested datum (first :: others) = [(first, inner)] := by
              cases others <;> exact ⟨_, rfl⟩
            have absent : (nested datum (first :: others)).lookup part = none := by
              rw [alone, List.lookup_cons, unequal, List.lookup_nil]
            cases tail <;> rw [at?, absent]

/-- What the environment gives at a key: what the last variable does that gives anything there. -/
def given? (environment : List (String × String)) (key : List String) : Option Datum :=
  environment.reverse.findSome? fun setting => at? key (entriesOf setting)

theorem given?_cons (setting : String × String) (environment : List (String × String))
    (key : List String) :
    given? (setting :: environment) key =
      (given? environment key).or (at? key (entriesOf setting)) := by
  rw [given?, List.reverse_cons, List.findSome?_append, List.findSome?_singleton, given?]

/-- Where a variable has a key of its own, and no other one has a key that begins with it or that it
begins with, the environment gives the value of its text. -/
theorem given?_of_own (member : setting ∈ environment) (spells : keyOf? setting.1 = some key)
    (nonempty : key ≠ [])
    (others : ∀ other ∈ environment, other ≠ setting → ∀ parts, keyOf? other.1 = some parts →
      ¬parts <+: key ∧ ¬key <+: parts) :
    given? environment key = some (valueOf setting.2) := by
  have own : at? key (entriesOf setting) = some (valueOf setting.2) := by
    rw [entriesOf, spells]
    exact at?_nested_self _ nonempty
  have nothing (other : String × String) (isOther : other ∈ environment)
      (different : other ≠ setting) : at? key (entriesOf other) = none := by
    unfold entriesOf
    split
    · rename_i parts spelled
      obtain ⟨shorter, longer⟩ := others other isOther different parts spelled
      exact at?_nested_of_apart _ shorter longer
    · exact at?_nil key
  cases found : given? environment key with
  | none =>
      have missing := List.findSome?_eq_none_iff.1 found setting (List.mem_reverse.2 member)
      rw [own] at missing
      cases missing
  | some datum =>
      obtain ⟨other, isOther, gives⟩ := List.exists_of_findSome?_eq_some found
      by_cases same : other = setting
      · rw [← gives, same, own]
      · rw [nothing other (List.mem_reverse.1 isOther) same] at gives
        cases gives

variable {Result : Type} {read : Datum → Option Result}

/-- Variables that are laid over entries decide where they give something. -/
theorem map_at?_foldl (rejects : RejectsTables read) (opens : Opens key below)
    (each : ∀ setting ∈ environment, Opens key (entriesOf setting)) :
    (at? key (environment.foldl (fun below setting => layerEntries below (entriesOf setting))
      below)).map read = ((given? environment key).or (at? key below)).map read := by
  induction environment generalizing below with
  | nil => rfl
  | cons setting rest inductionHypothesis =>
      obtain ⟨here, later⟩ := List.forall_mem_cons.1 each
      have distinct := entriesOf_distinct setting
      rw [List.foldl_cons, inductionHypothesis (opens.layer distinct here) later, given?_cons,
        Option.or_assoc, Option.map_or, Option.map_or,
        map_at?_layerEntries rejects distinct opens here]

theorem map_at?_settingsOf (rejects : RejectsTables read)
    (each : ∀ setting ∈ environment, Opens key (entriesOf setting)) :
    (at? key (settingsOf environment)).map read = (given? environment key).map read := by
  rw [settingsOf, map_at?_foldl rejects (opens_nil key) each, at?_nil, Option.or_none]

theorem settingsOf_distinct (environment : List (String × String)) :
    DistinctEntries (settingsOf environment) :=
  List.foldlRecOn environment _ distinctEntries_nil fun below distinct setting _ =>
    DistinctEntries.layer below _ distinct (entriesOf_distinct setting)

theorem settingsOf_sectioned (each : ∀ setting ∈ environment, Sectioned (entriesOf setting)) :
    Sectioned (settingsOf environment) :=
  List.foldlRecOn environment _ sectioned_nil fun _ sectioned setting member =>
    sectioned.layer (entriesOf_distinct setting) (each setting member)

end ResourceScaffold.Environment

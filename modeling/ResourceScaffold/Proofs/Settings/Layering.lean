import Mathlib.Data.List.Nodup
import ResourceScaffold.Settings.Datum

/-!
Contract: what is found at a key after one source of settings was laid over another.

Owns:
- tables without a key that is given twice, and that setting and removing keys leaves them so;
- looking up a key of several parts through tables;
- that laying over gives what the upper source has at a key, and else what the lower one has.

Does not own: which sources there are, and the types of settings.
-/

namespace ResourceScaffold

/-! ## Keys that are given once -/

namespace Association

variable {Key Item : Type} [BEq Key]

theorem mem_set {key : Key} {item : Item} {entries : List (Key × Item)} {entry : Key × Item}
    (member : entry ∈ set key item entries) : entry = (key, item) ∨ entry ∈ entries := by
  induction entries with
  | nil => exact Or.inl (List.mem_singleton.1 member)
  | cons first rest inductionHypothesis =>
      rw [set] at member
      split_ifs at member
      · exact (List.mem_cons.1 member).imp_right (List.mem_cons_of_mem _)
      · rcases List.mem_cons.1 member with rfl | later
        · exact Or.inr List.mem_cons_self
        · exact (inductionHypothesis later).imp_right (List.mem_cons_of_mem _)

variable [LawfulBEq Key]

theorem mem_keys_set {key other : Key} {item : Item} {entries : List (Key × Item)} :
    other ∈ (set key item entries).map Prod.fst ↔ other = key ∨ other ∈ entries.map Prod.fst := by
  induction entries with
  | nil => simp [set]
  | cons entry rest inductionHypothesis =>
      rw [set]
      split_ifs with same
      · have equal : entry.1 = key := by simpa using same
        simp [equal]
      · rw [List.map_cons, List.mem_cons, inductionHypothesis, List.map_cons, List.mem_cons]
        exact or_left_comm

theorem nodup_keys_set {entries : List (Key × Item)} (nodup : (entries.map Prod.fst).Nodup)
    (key : Key) (item : Item) : ((set key item entries).map Prod.fst).Nodup := by
  induction entries with
  | nil => simp [set]
  | cons entry rest inductionHypothesis =>
      rw [List.map_cons, List.nodup_cons] at nodup
      rw [set]
      split_ifs with same
      · have equal : entry.1 = key := by simpa using same
        rw [List.map_cons, List.nodup_cons]
        exact ⟨equal ▸ nodup.1, nodup.2⟩
      · rw [List.map_cons, List.nodup_cons, mem_keys_set]
        refine ⟨?_, inductionHypothesis nodup.2⟩
        rintro (equal | later)
        · exact same (by simpa using equal)
        · exact nodup.1 later

theorem mem_of_lookup {key : Key} {item : Item} {entries : List (Key × Item)}
    (found : entries.lookup key = some item) : (key, item) ∈ entries := by
  induction entries with
  | nil => cases found
  | cons entry rest inductionHypothesis =>
      obtain ⟨first, here⟩ := entry
      by_cases same : key = first
      · subst same
        rw [List.lookup_cons_self, Option.some.injEq] at found
        exact found ▸ List.mem_cons_self
      · have unequal : (key == first) = false := by simpa using same
        rw [List.lookup_cons, unequal] at found
        exact List.mem_cons_of_mem _ (inductionHypothesis found)

theorem lookup_eq_none_of_notMem {key : Key} {entries : List (Key × Item)}
    (absent : key ∉ entries.map Prod.fst) : entries.lookup key = none := by
  cases found : entries.lookup key with
  | none => rfl
  | some item => exact absurd (List.mem_map_of_mem (f := Prod.fst) (mem_of_lookup found)) absent

end Association

namespace Datum

mutual

/-- No key is given twice, in no table of a part. -/
def Distinct : Datum → Prop
  | .table _ entries => DistinctEntries entries
  | .list _ items => DistinctItems items
  | _ => True

/-- No key is given twice, neither among entries nor in a part of them. -/
def DistinctEntries : List (String × Datum) → Prop
  | [] => True
  | (key, datum) :: rest => (key ∉ rest.map Prod.fst ∧ datum.Distinct) ∧ DistinctEntries rest

def DistinctItems : List Datum → Prop
  | [] => True
  | item :: rest => item.Distinct ∧ DistinctItems rest

end

variable {entries below upper : List (String × Datum)} {items : List Datum} {key : String}
  {datum : Datum}

theorem distinctEntries_nil : DistinctEntries [] :=
  trivial

theorem distinctEntries_iff :
    DistinctEntries entries ↔
      (entries.map Prod.fst).Nodup ∧ ∀ entry ∈ entries, entry.2.Distinct := by
  induction entries with
  | nil => simp [DistinctEntries]
  | cons entry rest inductionHypothesis =>
      obtain ⟨key, datum⟩ := entry
      rw [DistinctEntries, inductionHypothesis, List.map_cons, List.nodup_cons,
        List.forall_mem_cons]
      exact and_and_and_comm

theorem distinctItems_iff : DistinctItems items ↔ ∀ item ∈ items, item.Distinct := by
  induction items with
  | nil => simp [DistinctItems]
  | cons item rest inductionHypothesis =>
      rw [DistinctItems, inductionHypothesis, List.forall_mem_cons]

theorem DistinctEntries.lookup (distinct : DistinctEntries entries)
    (found : entries.lookup key = some datum) : datum.Distinct :=
  (distinctEntries_iff.1 distinct).2 _ (Association.mem_of_lookup found)

theorem DistinctEntries.set (distinct : DistinctEntries entries) (inner : datum.Distinct)
    (key : String) : DistinctEntries (Association.set key datum entries) := by
  obtain ⟨nodup, parts⟩ := distinctEntries_iff.1 distinct
  refine distinctEntries_iff.2 ⟨Association.nodup_keys_set nodup key datum, fun entry member => ?_⟩
  rcases Association.mem_set member with rfl | old
  · exact inner
  · exact parts entry old

theorem DistinctEntries.erase (distinct : DistinctEntries entries) (key : String) :
    DistinctEntries (Association.erase key entries) := by
  obtain ⟨nodup, parts⟩ := distinctEntries_iff.1 distinct
  refine distinctEntries_iff.2 ⟨?_, fun entry member => parts entry (List.mem_of_mem_filter member)⟩
  exact nodup.sublist (List.filter_sublist.map Prod.fst)

/-! ## Layers -/

/-- A key has what the upper entries give it, laid over what it has below. -/
theorem lookup_layerEntries (nodup : (upper.map Prod.fst).Nodup) (key : String) :
    (layerEntries below upper).lookup key =
      match upper.lookup key with
      | none => below.lookup key
      | some datum =>
          some (match below.lookup key with
            | none => datum
            | some under => layer under datum) := by
  induction upper generalizing below with
  | nil => rw [layerEntries, List.lookup_nil]
  | cons entry rest inductionHypothesis =>
      obtain ⟨first, datum⟩ := entry
      rw [List.map_cons, List.nodup_cons] at nodup
      rw [layerEntries, inductionHypothesis nodup.2]
      by_cases same : key = first
      · subst same
        rw [Association.lookup_eq_none_of_notMem nodup.1, List.lookup_cons_self]
        simp only [Association.lookup_set_self, Option.some.injEq]
        cases below.lookup key <;> rfl
      · have unequal : (key == first) = false := by simpa using same
        rw [List.lookup_cons, unequal, Association.lookup_set_of_ne _ _ same]

mutual

theorem Distinct.layer (lower : Datum) (upper : Datum) (distinct : lower.Distinct)
    (distinct' : upper.Distinct) : (lower.layer upper).Distinct := by
  cases upper with
  | table source entries =>
      cases lower with
      | table source' below =>
          exact DistinctEntries.layer below entries distinct distinct'
      | _ => exact distinct'
  | _ => exact distinct'

theorem DistinctEntries.layer (below upper : List (String × Datum))
    (distinct : DistinctEntries below) (distinct' : DistinctEntries upper) :
    DistinctEntries (layerEntries below upper) := by
  cases upper with
  | nil => exact distinct
  | cons entry rest =>
      obtain ⟨key, datum⟩ := entry
      obtain ⟨⟨-, inner⟩, others⟩ := distinct'
      rw [layerEntries]
      refine DistinctEntries.layer _ rest (distinct.set ?_ key) others
      cases found : below.lookup key with
      | none => exact inner
      | some under => exact Distinct.layer under datum (distinct.lookup found) inner

end

/-! ## Keys of several parts -/

/-- What stands at a key, each part of which but the last one leads into a table. -/
def at? : List String → List (String × Datum) → Option Datum
  | [], _ => none
  | [part], entries => entries.lookup part
  | part :: next :: rest, entries =>
      match entries.lookup part with
      | some (.table _ inner) => at? (next :: rest) inner
      | _ => none

theorem at?_nil (path : List String) : at? path [] = none := by
  cases path with
  | nil => rfl
  | cons part tail => cases tail <;> rfl

/-- Whatever stands on the way to a key is a table. -/
def Opens : List String → List (String × Datum) → Prop
  | [], _ => True
  | [_], _ => True
  | part :: next :: rest, entries =>
      ∀ datum, entries.lookup part = some datum →
        ∃ source inner, datum = .table source inner ∧ Opens (next :: rest) inner

theorem opens_nil (path : List String) : Opens path [] := by
  cases path with
  | nil => trivial
  | cons part tail =>
      cases tail with
      | nil => trivial
      | cons next rest =>
          intro datum found
          cases found

/-- A reader of a setting, which has no use for tables. -/
def RejectsTables {Result : Type} (read : Datum → Option Result) : Prop :=
  ∀ source entries, read (.table source entries) = none

variable {Result : Type} {read : Datum → Option Result}

theorem RejectsTables.layer (rejects : RejectsTables read) (lower upper : Datum) :
    read (lower.layer upper) = read upper := by
  cases upper with
  | table source entries =>
      cases lower with
      | table source' below => rw [Datum.layer, rejects, rejects]
      | _ => rfl
  | _ => rfl

/-- After laying one source over another, a key reads as what the upper source has there, and else
as what the lower one has. -/
theorem map_at?_layerEntries (rejects : RejectsTables read) {path : List String}
    (distinct : DistinctEntries upper) (opens : Opens path below) (opens' : Opens path upper) :
    (at? path (layerEntries below upper)).map read =
      ((at? path upper).or (at? path below)).map read := by
  induction path generalizing below upper with
  | nil => rfl
  | cons part tail inductionHypothesis =>
      have found : (layerEntries below upper).lookup part = _ :=
        lookup_layerEntries (distinctEntries_iff.1 distinct).1 part
      cases tail with
      | nil =>
          rw [at?, at?, at?, found]
          cases upper.lookup part with
          | none => rfl
          | some datum =>
              cases below.lookup part with
              | none => rfl
              | some under =>
                  rw [Option.some_or, Option.map_some, Option.map_some, rejects.layer]
      | cons next rest =>
          rw [at?, at?, at?, found]
          cases above : upper.lookup part with
          | none => rfl
          | some datum =>
              obtain ⟨source, inner, rfl, opensInner⟩ := opens' datum above
              cases under : below.lookup part with
              | none => simp only [Option.or_none]
              | some lower =>
                  obtain ⟨source', inner', rfl, opensInner'⟩ := opens lower under
                  exact inductionHypothesis (distinct.lookup above) opensInner' opensInner

/-- Two sources with tables on the way to a key have tables there when laid over each other. -/
theorem Opens.layer {path : List String} (distinct : DistinctEntries upper)
    (opens : Opens path below) (opens' : Opens path upper) :
    Opens path (layerEntries below upper) := by
  induction path generalizing below upper with
  | nil => trivial
  | cons part tail inductionHypothesis =>
      cases tail with
      | nil => trivial
      | cons next rest =>
          intro datum found
          rw [lookup_layerEntries (distinctEntries_iff.1 distinct).1] at found
          cases above : upper.lookup part with
          | none =>
              rw [above] at found
              exact opens datum found
          | some higher =>
              obtain ⟨source, inner, rfl, opensInner⟩ := opens' higher above
              cases under : below.lookup part with
              | none =>
                  rw [above, under] at found
                  cases found
                  exact ⟨source, inner, rfl, opensInner⟩
              | some lower =>
                  obtain ⟨source', inner', rfl, opensInner'⟩ := opens lower under
                  rw [above, under] at found
                  cases found
                  exact ⟨source, layerEntries inner' inner, rfl,
                    inductionHypothesis (distinct.lookup above) opensInner' opensInner⟩

end Datum

end ResourceScaffold

import Mathlib.Data.Option.Basic
import ResourceScaffold.Proofs.Settings.Layering
import ResourceScaffold.Toml.Document

/-!
Contract: that no key is given twice in a TOML document.

Owns:
- tables under construction, and that every change to them keeps keys apart;
- values and lines that are read;
- the entries of a document, in all of their parts.

Does not own: documents that are refused.
-/

namespace ResourceScaffold.Toml

open Datum

variable {source : SettingsSource} {entries below result : Entries} {item : Item} {key : String}
  {path : List String}

/-! ## Tables under construction -/

/-- Entries under construction as the untyped settings that they will be. -/
def dataOf (source : SettingsSource) (entries : Entries) : List (String × Datum) :=
  entries.map fun entry => (entry.1, entry.2.finished.toDatum source)

theorem entriesToData_finishedEntries (source : SettingsSource) (entries : Entries) :
    entriesToData source (finishedEntries entries) = dataOf source entries := by
  induction entries with
  | nil => rw [finishedEntries, entriesToData, dataOf, List.map_nil]
  | cons entry rest inductionHypothesis =>
      rw [finishedEntries, entriesToData, inductionHypothesis, dataOf, dataOf, List.map_cons]

theorem lookup_dataOf (source : SettingsSource) (entries : Entries) (key : String) :
    (dataOf source entries).lookup key =
      (entries.lookup key).map fun item => item.finished.toDatum source := by
  induction entries with
  | nil => rfl
  | cons entry rest inductionHypothesis =>
      obtain ⟨first, item⟩ := entry
      rw [dataOf, List.map_cons, List.lookup_cons, List.lookup_cons]
      cases key == first
      · exact inductionHypothesis
      · rfl

theorem dataOf_set (source : SettingsSource) (key : String) (item : Item) (entries : Entries) :
    dataOf source (Association.set key item entries) =
      Association.set key (item.finished.toDatum source) (dataOf source entries) := by
  induction entries with
  | nil => rfl
  | cons entry rest inductionHypothesis =>
      rw [Association.set, dataOf, dataOf, List.map_cons, Association.set]
      split_ifs
      · rfl
      · rw [List.map_cons]
        exact congrArg _ inductionHypothesis

theorem dataOf_erase (source : SettingsSource) (key : String) (entries : Entries) :
    dataOf source (Association.erase key entries) =
      Association.erase key (dataOf source entries) := by
  rw [dataOf, dataOf, Association.erase, Association.erase, List.filter_map]
  rfl

/-- No key is given twice in a table under construction, nor in any part of it. -/
def DistinctKeys (source : SettingsSource) (entries : Entries) : Prop :=
  DistinctEntries (dataOf source entries)

theorem distinctKeys_nil (source : SettingsSource) : DistinctKeys source [] :=
  trivial

theorem table_distinct_iff {origin : TableOrigin} :
    ((Item.table origin entries).finished.toDatum source).Distinct ↔
      DistinctKeys source entries := by
  rw [Item.finished, Value.toDatum, Distinct, entriesToData_finishedEntries, DistinctKeys]

theorem tables_distinct_iff {elements : List Entries} :
    ((Item.tables elements).finished.toDatum source).Distinct ↔
      ∀ element ∈ elements, DistinctKeys source element := by
  rw [Item.finished, Value.toDatum, Distinct]
  induction elements with
  | nil => simp [finishedElements, itemsToData, DistinctItems]
  | cons element rest inductionHypothesis =>
      rw [finishedElements, itemsToData, DistinctItems, inductionHypothesis, List.forall_mem_cons,
        Value.toDatum, Distinct, entriesToData_finishedEntries, DistinctKeys]

namespace DistinctKeys

theorem lookup (distinct : DistinctKeys source entries) (found : entries.lookup key = some item) :
    (item.finished.toDatum source).Distinct := by
  have looked : (dataOf source entries).lookup key = some (item.finished.toDatum source) := by
    rw [lookup_dataOf, found, Option.map_some]
  exact DistinctEntries.lookup distinct looked

theorem set (distinct : DistinctKeys source entries)
    (inner : (item.finished.toDatum source).Distinct) (key : String) :
    DistinctKeys source (Association.set key item entries) := by
  rw [DistinctKeys, dataOf_set]
  exact DistinctEntries.set distinct inner key

theorem erase (distinct : DistinctKeys source entries) (key : String) :
    DistinctKeys source (Association.erase key entries) := by
  rw [DistinctKeys, dataOf_erase]
  exact DistinctEntries.erase distinct key

/-- What keeps keys apart in one table keeps them apart when it is done to a table that a path leads
to. -/
theorem changeAt {isDotted : Bool} {change : TableOrigin → Entries → Option Entries}
    (preserves : ∀ {origin below result}, DistinctKeys source below →
      change origin below = some result → DistinctKeys source result)
    {origin : TableOrigin} (distinct : DistinctKeys source entries)
    (changed : changeAt isDotted change path origin entries = some result) :
    DistinctKeys source result := by
  induction path generalizing origin entries result with
  | nil => exact preserves distinct changed
  | cons key rest inductionHypothesis =>
      rw [Toml.changeAt] at changed
      split at changed
      · obtain ⟨inner, ran, rfl⟩ := Option.map_eq_some_iff.1 changed
        exact distinct.set
          (table_distinct_iff.2 (inductionHypothesis (distinctKeys_nil source) ran)) key
      · cases changed
      · rename_i origin' below found
        split_ifs at changed
        obtain ⟨inner, ran, rfl⟩ := Option.map_eq_some_iff.1 changed
        exact distinct.set (table_distinct_iff.2
          (inductionHypothesis (table_distinct_iff.1 (distinct.lookup found)) ran)) key
      · rename_i elements found
        have parts := tables_distinct_iff.1 (distinct.lookup found)
        split at changed
        · cases changed
        · rename_i last isLast
          obtain ⟨inner, ran, rfl⟩ := Option.map_eq_some_iff.1 changed
          refine distinct.set (tables_distinct_iff.2 fun element member => ?_) key
          rcases List.mem_append.1 member with front | isInner
          · exact parts element (List.dropLast_subset _ front)
          · rw [List.mem_singleton.1 isInner]
            exact inductionHypothesis (parts last (List.mem_of_getLast? isLast)) ran

theorem assign {value : Value} (distinct : DistinctKeys source entries)
    (inner : (value.toDatum source).Distinct)
    (assigned : assign path key value entries = some result) : DistinctKeys source result := by
  refine changeAt (fun {origin below result} distinct changed => ?_) distinct assigned
  split_ifs at changed
  cases changed
  have stays : ((Item.value value).finished.toDatum source).Distinct := inner
  exact distinct.set stays key

/-- The table that a path leads to keeps keys apart. -/
theorem locate {table : Entries} (distinct : DistinctKeys source entries)
    (found : openTable.locate path entries = some table) : DistinctKeys source table := by
  induction path generalizing entries with
  | nil =>
      cases found
      exact distinct
  | cons part rest inductionHypothesis =>
      rw [openTable.locate] at found
      split at found
      · rename_i here
        exact inductionHypothesis (table_distinct_iff.1 (distinct.lookup here)) found
      · rename_i elements here
        obtain ⟨last, isLast, inner⟩ := Option.bind_eq_some_iff.1 found
        have parts := tables_distinct_iff.1 (distinct.lookup here)
        exact inductionHypothesis (parts last (List.mem_of_getLast? isLast)) inner
      · cases found

theorem openTable {table : Entries} (distinct : DistinctKeys source entries)
    (opened : openTable path entries = some (table, result)) :
    DistinctKeys source table ∧ DistinctKeys source result := by
  rw [Toml.openTable] at opened
  split at opened
  · cases opened
  · dsimp only at opened
    split at opened
    · obtain ⟨prepared, ran, same⟩ := Option.map_eq_some_iff.1 opened
      cases same
      refine ⟨distinctKeys_nil source, changeAt (fun distinct changed => ?_) distinct ran⟩
      cases changed
      exact distinct
    · rename_i key _ _ below found
      obtain ⟨prepared, ran, same⟩ := Option.map_eq_some_iff.1 opened
      cases same
      obtain ⟨inner, there, here⟩ := Option.bind_eq_some_iff.1 found
      refine ⟨table_distinct_iff.1 ((distinct.locate there).lookup here),
        changeAt (fun distinct changed => ?_) distinct ran⟩
      cases changed
      exact distinct.erase _
    · cases opened

theorem closeTable {table : Entries} (distinct : DistinctKeys source entries)
    (inner : DistinctKeys source table) (closed : closeTable path table entries = some result) :
    DistinctKeys source result := by
  rw [Toml.closeTable] at closed
  split at closed
  · cases closed
  · refine changeAt (fun distinct changed => ?_) distinct closed
    split_ifs at changed
    cases changed
    exact distinct.set (table_distinct_iff.2 inner) _

theorem openElement (distinct : DistinctKeys source entries)
    (opened : openElement path entries = some result) : DistinctKeys source result := by
  rw [Toml.openElement] at opened
  split at opened
  · cases opened
  · refine changeAt (fun distinct changed => ?_) distinct opened
    split at changed
    · cases changed
      exact distinct
    · cases changed
      exact distinct
    · cases changed

theorem closeElement {table : Entries} (distinct : DistinctKeys source entries)
    (inner : DistinctKeys source table) (closed : closeElement path table entries = some result) :
    DistinctKeys source result := by
  rw [Toml.closeElement] at closed
  split at closed
  · cases closed
  · refine changeAt (fun distinct changed => ?_) distinct closed
    split at changed
    · cases changed
      refine distinct.set (tables_distinct_iff.2 fun element member => ?_) _
      exact List.mem_singleton.1 member ▸ inner
    · rename_i elements found
      cases changed
      refine distinct.set (tables_distinct_iff.2 fun element member => ?_) _
      rcases List.mem_append.1 member with old | isNew
      · exact tables_distinct_iff.1 (distinct.lookup found) element old
      · exact List.mem_singleton.1 isNew ▸ inner
    · cases changed

end DistinctKeys

/-! ## Values -/

/-- A value that is no list and no table has no keys. -/
theorem readScalar_distinct {text rest : List Char} {value : Value}
    (found : readScalar text = some (value, rest)) : (value.toDatum source).Distinct := by
  unfold readScalar at found
  split at found
  · obtain ⟨_, -, same⟩ := Option.map_eq_some_iff.1 found
    cases same
    trivial
  · obtain ⟨_, -, same⟩ := Option.map_eq_some_iff.1 found
    cases same
    trivial
  · cases found
    trivial
  · cases found
    trivial
  · rcases (Option.orElse_eq_some _ _ _).1 found with moment | ⟨-, others⟩
    · unfold readMoment at moment
      split at moment
      · cases moment
        trivial
      · obtain ⟨_, -, same⟩ := Option.map_eq_some_iff.1 moment
        cases same
        trivial
    · rcases (Option.orElse_eq_some _ _ _).1 others with float | ⟨-, integer⟩
      · obtain ⟨_, -, same⟩ := Option.map_eq_some_iff.1 float
        cases same
        trivial
      · obtain ⟨_, -, same⟩ := Option.map_eq_some_iff.1 integer
        cases same
        trivial

theorem list_distinct_iff {items : List Value} :
    ((Value.list items).toDatum source).Distinct ↔
      ∀ item ∈ items, (item.toDatum source).Distinct := by
  rw [Value.toDatum, Distinct]
  induction items with
  | nil => simp [itemsToData, DistinctItems]
  | cons item rest inductionHypothesis =>
      rw [itemsToData, DistinctItems, inductionHypothesis, List.forall_mem_cons]

/-- What is read within a number of steps keeps keys apart: values, the rest of a list, and the rest
of a table on one line. -/
structure ReadsDistinct (source : SettingsSource) (steps : Nat) : Prop where
  value : ∀ {depth text value rest}, readValue depth steps text = some (value, rest) →
    (value.toDatum source).Distinct
  items : ∀ {depth items text value rest}, (∀ item ∈ items, (item.toDatum source).Distinct) →
    readItems depth steps items text = some (value, rest) → (value.toDatum source).Distinct
  pairs : ∀ {depth entries text value rest}, DistinctKeys source entries →
    readPairs depth steps entries text = some (value, rest) → (value.toDatum source).Distinct

namespace ReadsDistinct

variable {steps depth : Nat} {text rest : List Char} {value : Value} {items : List Value}

theorem nextValue (reads : ReadsDistinct source steps)
    (found : readValue depth (steps + 1) text = some (value, rest)) :
    (value.toDatum source).Distinct := by
  unfold readValue at found
  split at found
  · split_ifs at found
    exact reads.items (fun item member => absurd member List.not_mem_nil) found
  · split_ifs at found
    split at found
    · cases found
      trivial
    · exact reads.pairs (distinctKeys_nil source) found
  · exact readScalar_distinct found

theorem nextItems (reads : ReadsDistinct source steps)
    (distinct : ∀ item ∈ items, (item.toDatum source).Distinct)
    (found : readItems depth (steps + 1) items text = some (value, rest)) :
    (value.toDatum source).Distinct := by
  have reversed {items : List Value} (distinct : ∀ item ∈ items, (item.toDatum source).Distinct) :
      ((Value.list items.reverse).toDatum source).Distinct :=
    list_distinct_iff.2 fun item member => distinct item (List.mem_reverse.1 member)
  unfold readItems at found
  split at found
  · cases found
    exact reversed distinct
  · split at found
    · cases found
    · rename_i item after isItem
      have longer : ∀ other ∈ item :: items, (other.toDatum source).Distinct :=
        List.forall_mem_cons.2 ⟨reads.value isItem, distinct⟩
      split at found
      · exact reads.items longer found
      · cases found
        exact reversed longer
      · cases found

theorem nextPairs (reads : ReadsDistinct source steps) (distinct : DistinctKeys source entries)
    (found : readPairs depth (steps + 1) entries text = some (value, rest)) :
    (value.toDatum source).Distinct := by
  unfold readPairs at found
  split at found
  · cases found
  · split at found
    · split at found
      · cases found
      · rename_i isValue
        split at found
        · cases found
        · rename_i assigned
          have next := distinct.assign (reads.value isValue) assigned
          split at found
          · exact reads.pairs next found
          · cases found
            rw [Value.toDatum, Distinct, entriesToData_finishedEntries]
            exact next
          · cases found
    · cases found

end ReadsDistinct

theorem readsDistinct (source : SettingsSource) (steps : Nat) : ReadsDistinct source steps := by
  induction steps with
  | zero =>
      refine ⟨fun found => ?_, fun _ found => ?_, fun _ found => ?_⟩
      · rw [readValue] at found
        cases found
      · rw [readItems] at found
        cases found
      · rw [readPairs] at found
        cases found
  | succ steps reads => exact ⟨reads.nextValue, reads.nextItems, reads.nextPairs⟩

/-! ## Documents -/

/-- No key is given twice in a document under construction. -/
structure Draft.Distinct (source : SettingsSource) (draft : Draft) : Prop where
  complete : DistinctKeys source draft.complete
  current : DistinctKeys source draft.current

namespace Draft.Distinct

variable {draft next : Draft}

theorem closed (distinct : draft.Distinct source) (closed : draft.closed = some result) :
    DistinctKeys source result := by
  unfold Draft.closed at closed
  split at closed
  · cases closed
    exact distinct.current
  · exact distinct.complete.closeTable distinct.current closed
  · exact distinct.complete.closeElement distinct.current closed

theorem startTable (distinct : draft.Distinct source)
    (started : draft.startTable path = some next) : next.Distinct source := by
  obtain ⟨complete, isClosed, others⟩ := Option.bind_eq_some_iff.1 started
  obtain ⟨⟨current, prepared⟩, opened, same⟩ := Option.bind_eq_some_iff.1 others
  cases same
  obtain ⟨inner, outer⟩ := (distinct.closed isClosed).openTable opened
  exact ⟨outer, inner⟩

theorem startElement (distinct : draft.Distinct source)
    (started : draft.startElement path = some next) : next.Distinct source := by
  obtain ⟨complete, isClosed, others⟩ := Option.bind_eq_some_iff.1 started
  obtain ⟨prepared, opened, same⟩ := Option.bind_eq_some_iff.1 others
  cases same
  exact ⟨(distinct.closed isClosed).openElement opened, distinctKeys_nil source⟩

theorem readLine {text rest : List Char} (distinct : draft.Distinct source)
    (read : readLine draft text = some (next, rest)) : next.Distinct source := by
  unfold Toml.readLine at read
  split at read
  · obtain ⟨⟨⟨path, key⟩, after⟩, -, read⟩ := Option.bind_eq_some_iff.1 read
    obtain ⟨closed, -, read⟩ := Option.bind_eq_some_iff.1 read
    obtain ⟨started, isStarted, same⟩ := Option.bind_eq_some_iff.1 read
    cases same
    exact distinct.startElement isStarted
  · obtain ⟨⟨⟨path, key⟩, after⟩, -, read⟩ := Option.bind_eq_some_iff.1 read
    obtain ⟨closed, -, read⟩ := Option.bind_eq_some_iff.1 read
    obtain ⟨started, isStarted, same⟩ := Option.bind_eq_some_iff.1 read
    cases same
    exact distinct.startTable isStarted
  · obtain ⟨⟨⟨path, key⟩, after⟩, -, read⟩ := Option.bind_eq_some_iff.1 read
    obtain ⟨start, -, read⟩ := Option.bind_eq_some_iff.1 read
    obtain ⟨⟨value, afterValue⟩, isValue, read⟩ := Option.bind_eq_some_iff.1 read
    obtain ⟨current, assigned, same⟩ := Option.bind_eq_some_iff.1 read
    cases same
    exact ⟨distinct.complete,
      distinct.current.assign ((readsDistinct source _).value isValue) assigned⟩

theorem readLinesInto {steps : Nat} {text : List Char} (distinct : draft.Distinct source)
    (read : readLinesInto steps draft text = some next) : next.Distinct source := by
  induction steps generalizing draft text with
  | zero => cases read
  | succ steps inductionHypothesis =>
      unfold Toml.readLinesInto at read
      split at read
      · cases read
        exact distinct
      · split at read
        · exact inductionHypothesis distinct read
        · split at read
          · cases read
          · rename_i line
            split at read
            · cases read
            · exact inductionHypothesis (distinct.readLine line) read

end Draft.Distinct

/-- No key is given twice in a document, in no table of it. -/
theorem ofText?_distinct {text : String} {found : List (String × Value)}
    (read : ofText? text = some found) (source : SettingsSource) :
    DistinctEntries (entriesToData source found) := by
  obtain ⟨draft, lines, read⟩ := Option.bind_eq_some_iff.1 read
  obtain ⟨entries, isClosed, same⟩ := Option.bind_eq_some_iff.1 read
  cases same
  have start : Draft.Distinct source ⟨[], .root, []⟩ :=
    ⟨distinctKeys_nil source, distinctKeys_nil source⟩
  rw [entriesToData_finishedEntries]
  exact (start.readLinesInto lines).closed isClosed

end ResourceScaffold.Toml

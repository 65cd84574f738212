import ResourceScaffold.Association
import ResourceScaffold.Toml.Value

/-!
Contract: tables of a TOML document under construction.

Owns:
- which tables may still be extended;
- setting a key, opening a table and opening an element of a list of tables.

Does not own: the written form of a document.
-/

namespace ResourceScaffold.Toml

/-- How a table came to be: it was written itself, it was needed for a table below it, or it was
needed for a key with dots. -/
inductive TableOrigin where
  | written
  | implied
  | dotted
deriving DecidableEq, Repr

/-- A part of a document under construction. Values cannot be extended. -/
inductive Item where
  | value (value : Value)
  | table (origin : TableOrigin) (entries : List (String × Item))
  | tables (elements : List (List (String × Item)))

/-- The entries of a table. -/
abbrev Entries := List (String × Item)

mutual

def Item.finished : Item → Value
  | .value value => value
  | .table _ entries => .table (finishedEntries entries)
  | .tables elements => .list (finishedElements elements)

def finishedEntries : List (String × Item) → List (String × Value)
  | [] => []
  | (key, item) :: rest => (key, item.finished) :: finishedEntries rest

def finishedElements : List (List (String × Item)) → List Value
  | [] => []
  | element :: rest => .table (finishedEntries element) :: finishedElements rest

end

/-- Changes the table that a path leads to. Tables on the way that do not exist are created; a path
leads into the last element of a list of tables, and never into a value. A dotted path does not lead
into tables that were written themselves. -/
def changeAt (isDotted : Bool) (change : TableOrigin → Entries → Option Entries) :
    List String → TableOrigin → Entries → Option Entries
  | [], origin, entries => change origin entries
  | key :: rest, _, entries =>
      match entries.lookup key with
      | none =>
          let origin : TableOrigin := if isDotted then .dotted else .implied
          (changeAt isDotted change rest origin []).map fun inner =>
            Association.set key (.table origin inner) entries
      | some (.value _) => none
      | some (.table origin below) =>
          if isDotted ∧ origin = .written then none
          else
            (changeAt isDotted change rest origin below).map fun inner =>
              Association.set key (.table origin inner) entries
      | some (.tables elements) =>
          match elements.getLast? with
          | none => none
          | some last =>
              (changeAt isDotted change rest .written last).map fun inner =>
                Association.set key (.tables (elements.dropLast ++ [inner])) entries

/-- Sets a key in the table that the parts before it lead to. The key must be new, and a table that
is reached by dots must have come to be by dots. -/
def assign (path : List String) (key : String) (value : Value) (entries : Entries) :
    Option Entries :=
  changeAt true
    (fun origin below =>
      if decide (origin = .dotted) != !path.isEmpty then none
      else if (below.lookup key).isSome then none
      else some (Association.set key (.value value) below))
    path .written entries

/-- Takes the table out that a header opens: a new one, or one that only tables below it implied. -/
def openTable (path : List String) (root : Entries) : Option (Entries × Entries) :=
  match path.getLast? with
  | none => none
  | some key =>
      let found := locate path.dropLast root
      match found.bind fun entries => entries.lookup key with
      | none => (ensured path.dropLast root).map fun prepared => ([], prepared)
      | some (.table .implied below) =>
          (changeAt false (fun _ entries => some (Association.erase key entries)) path.dropLast
            .written root).map fun prepared => (below, prepared)
      | some _ => none
where
  /-- The entries of the table that a path leads to, if it exists. -/
  locate : List String → Entries → Option Entries
    | [], entries => some entries
    | part :: rest, entries =>
        match entries.lookup part with
        | some (.table _ below) => locate rest below
        | some (.tables elements) => elements.getLast?.bind (locate rest)
        | _ => none
  /-- The document with the tables on a path. -/
  ensured (parents : List String) (entries : Entries) : Option Entries :=
    changeAt false (fun _ below => some below) parents .written entries

def closeTable (path : List String) (table : Entries) (root : Entries) : Option Entries :=
  match path.getLast? with
  | none => none
  | some key =>
      changeAt false
        (fun _ entries =>
          if (entries.lookup key).isSome then none
          else some (Association.set key (.table .written table) entries))
        path.dropLast .written root

def openElement (path : List String) (root : Entries) : Option Entries :=
  match path.getLast? with
  | none => none
  | some key =>
      changeAt false
        (fun _ entries =>
          match entries.lookup key with
          | none => some entries
          | some (.tables _) => some entries
          | some _ => none)
        path.dropLast .written root

def closeElement (path : List String) (table : Entries) (root : Entries) : Option Entries :=
  match path.getLast? with
  | none => none
  | some key =>
      changeAt false
        (fun _ entries =>
          match entries.lookup key with
          | none => some (Association.set key (.tables [table]) entries)
          | some (.tables elements) =>
              some (Association.set key (.tables (elements ++ [table])) entries)
          | some _ => none)
        path.dropLast .written root

end ResourceScaffold.Toml

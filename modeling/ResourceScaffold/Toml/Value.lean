import ResourceScaffold.Number.Binary64
import ResourceScaffold.Settings.Datum

/-!
Contract: the values of a TOML document.

Owns:
- values without their written form;
- values as untyped settings.

Does not own: reading a document.
-/

namespace ResourceScaffold.Toml

/-- A value of a document. Of a date or a time only that it is one is kept. -/
inductive Value where
  | boolean (value : Bool)
  | integer (value : Int)
  | float (value : Binary64)
  | text (value : String)
  | moment
  | list (items : List Value)
  | table (entries : List (String × Value))

mutual

/-- A value as untyped settings from a source. A date or a time counts as a table without
settings. -/
def Value.toDatum (source : SettingsSource) : Value → Datum
  | .boolean value => .boolean source value
  | .integer value => .whole source true value
  | .float value => .real source value
  | .text value => .text source value
  | .moment => .table source []
  | .list items => .list source (itemsToData source items)
  | .table entries => .table source (entriesToData source entries)

def itemsToData (source : SettingsSource) : List Value → List Datum
  | [] => []
  | item :: rest => item.toDatum source :: itemsToData source rest

def entriesToData (source : SettingsSource) : List (String × Value) → List (String × Datum)
  | [] => []
  | (key, value) :: rest => (key, value.toDatum source) :: entriesToData source rest

end

end ResourceScaffold.Toml

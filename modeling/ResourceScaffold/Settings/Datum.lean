import ResourceScaffold.Association
import ResourceScaffold.Number.Decimal
import ResourceScaffold.Path
import ResourceScaffold.Text.Quoted

/-!
Contract: settings before their types are checked.

Owns:
- untyped data with the source that each part came from;
- laying one source over another.

Does not own: the formats of the sources.
-/

namespace ResourceScaffold

/-- Where a part of the settings came from. -/
inductive SettingsSource where
  | text
  | file (path : Path)
  | environment
deriving DecidableEq, Repr

/-- An untyped part of the settings. A whole number remembers whether it was read as a signed
one. -/
inductive Datum where
  | boolean (source : SettingsSource) (value : Bool)
  | whole (source : SettingsSource) (signed : Bool) (value : Int)
  | real (source : SettingsSource) (value : Binary64)
  | character (source : SettingsSource) (value : Char)
  | text (source : SettingsSource) (value : String)
  | list (source : SettingsSource) (items : List Datum)
  | table (source : SettingsSource) (entries : List (String × Datum))

namespace Datum

def source : Datum → SettingsSource
  | boolean source _ => source
  | whole source _ _ => source
  | real source _ => source
  | character source _ => source
  | text source _ => source
  | list source _ => source
  | table source _ => source

def quotedCharacter (character : Char) : List Char :=
  let inside :=
    if character = '\'' then ['\\', '\'']
    else if character = '"' then ['"']
    else Text.quotedChar character
  '\'' :: inside ++ ['\'']

def description : Datum → String
  | boolean _ value => "bool " ++ (if value then "true" else "false")
  | whole _ signed value =>
      (if signed then "signed" else "unsigned") ++ " int `" ++ toString value ++ "`"
  | real _ value => "float `" ++ String.ofList (DecimalLayout.plain.render value) ++ "`"
  | character _ value => "char " ++ String.ofList (quotedCharacter value)
  | text _ value => "string " ++ String.ofList (Text.quoted value.toList)
  | list _ _ => "sequence"
  | table _ _ => "map"

/-! ## Layers -/

mutual

/-- Lays `upper` over `lower`: tables are united key by key, and anything else is replaced. -/
def layer (lower : Datum) : Datum → Datum
  | .table source entries =>
      match lower with
      | .table _ below => .table source (layerEntries below entries)
      | _ => .table source entries
  | other => other

def layerEntries (below : List (String × Datum)) :
    List (String × Datum) → List (String × Datum)
  | [] => below
  | (key, datum) :: rest =>
      let merged :=
        match below.lookup key with
        | some under => layer under datum
        | none => datum
      layerEntries (Association.set key merged below) rest

end

end Datum

end ResourceScaffold

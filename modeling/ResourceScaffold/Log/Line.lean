import ResourceScaffold.Log.Filter
import ResourceScaffold.Text.Quoted

/-!
Contract: events as the lines of a log.

Owns:
- the form of a line: time, level, message and fields.

Does not own: which events are shown.
-/

namespace ResourceScaffold.Log

/-- The word for a level, as wide as the widest of them. -/
def levelWord : EventLevel → String
  | .info => " INFO"
  | .warning => " WARN"
  | .error => "ERROR"

def fieldText (field : EventField) : String :=
  field.name ++ "=" ++
    if field.isQuoted then String.ofList (Text.quoted field.value.toList) else field.value

def lineOf (time : String) (event : Event) : String :=
  " ".intercalate ((time ++ " " ++ levelWord event.level) :: event.message ::
    event.fields.map fieldText)

def linesOf (filter : Filter) (time : String) (events : List Event) : List String :=
  (events.filter filter.shows).map (lineOf time)

end ResourceScaffold.Log

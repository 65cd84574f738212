/-!
Contract: moments of time in the calendar.

Owns:
- the date of a day and the time of day;
- the two ways in which the program writes a moment.

Does not own: reading a clock, and time zones.
-/

namespace ResourceScaffold

/-- A moment, as the milliseconds since the beginning of 1970. -/
structure Moment where
  milliseconds : Nat
deriving DecidableEq, Repr

/-- A date. -/
structure Date where
  year : Nat
  month : Nat
  day : Nat
deriving DecidableEq, Repr

/-- The date of a day that is counted from the beginning of 1970. Years are taken to begin in March,
so that a leap day is the last day of its year. -/
def Date.ofDay (days : Nat) : Date :=
  let shifted := days + 719468
  let era := shifted / 146097
  let dayOfEra := shifted % 146097
  let yearOfEra := (dayOfEra - dayOfEra / 1460 + dayOfEra / 36524 - dayOfEra / 146096) / 365
  let dayOfYear := dayOfEra - (365 * yearOfEra + yearOfEra / 4 - yearOfEra / 100)
  let marchMonth := (5 * dayOfYear + 2) / 153
  let month := if marchMonth < 10 then marchMonth + 3 else marchMonth - 9
  ⟨yearOfEra + era * 400 + (if month ≤ 2 then 1 else 0), month,
    dayOfYear - (153 * marchMonth + 2) / 5 + 1⟩

def padded (width number : Nat) : String :=
  let digits := toString number
  String.ofList (List.replicate (width - digits.length) '0') ++ digits

namespace Moment

def date (moment : Moment) : Date :=
  .ofDay (moment.milliseconds / 86400000)

/-- The hour, minute, second and millisecond of a moment. -/
def timeOfDay (moment : Moment) : Nat × Nat × Nat × Nat :=
  let rest := moment.milliseconds % 86400000
  (rest / 3600000, rest / 60000 % 60, rest / 1000 % 60, rest % 1000)

/-- A moment in seventeen digits. -/
def stamp (moment : Moment) : String :=
  let date := moment.date
  let (hour, minute, second, millisecond) := moment.timeOfDay
  padded 4 date.year ++ padded 2 date.month ++ padded 2 date.day ++ padded 2 hour ++
    padded 2 minute ++ padded 2 second ++ padded 3 millisecond

def logText (moment : Moment) : String :=
  let date := moment.date
  let (hour, minute, second, millisecond) := moment.timeOfDay
  padded 4 date.year ++ "-" ++ padded 2 date.month ++ "-" ++ padded 2 date.day ++ "T" ++
    padded 2 hour ++ ":" ++ padded 2 minute ++ ":" ++ padded 2 second ++ "." ++
    padded 3 millisecond ++ "000Z"

end Moment

end ResourceScaffold

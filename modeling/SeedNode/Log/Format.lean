import SeedNode.Json.Printer
import SeedNode.Log.Record

/-!
# Lines of a log

A record becomes text in one of three ways: for a person at a terminal, with the time and perhaps
colours; for the system log, which adds its own time; or as structured output.
-/

namespace SeedNode

/-- How records are turned into text. -/
inductive LineFormat where
  | standard (colored : Bool)
  | system
  | json
  deriving Repr, DecidableEq

namespace LineFormat

/-- The colours of levels, as terminal codes. -/
def colors : List (Level × String) :=
  [(10, "\x1b[36m"), (20, "\x1b[32m"), (30, "\x1b[33m"), (40, "\x1b[31m"), (50, "\x1b[35m")]

/-- The name of a level, in its colour if one is asked for. -/
def shownLevel (colored : Bool) (level : Level) : String :=
  if colored then (colors.lookup level).getD "" ++ level.name ++ "\x1b[0m" else level.name

/-- The text of a cause below a line. It starts a new line unless one has been started. -/
def withCause (line : String) (cause : Cause) : String :=
  match cause.text? with
  | none => line
  | some text => if line.endsWith "\n" then line ++ text else line ++ "\n" ++ text

/-- The greatest time that the system counts to, in seconds. -/
def maxTime : Int := 9223372036854775807

/-- The greatest year that the system writes, and the greatest number of years from the year 1900
that it counts to. -/
def maxYear : Int := 2147483647

/-- The time of a record as date and time of day. The year has as many digits as it needs. -/
def stamp (seconds : Int) : Except Failure String :=
  let (year, month, day) := Calendar.civil (seconds / 86400)
  let date := s!"{year}-{Calendar.padded 2 month}-{Calendar.padded 2 day}"
  if maxTime < seconds ∨ seconds < -maxTime - 1 then .error (.fault .timeRange)
  else if maxYear < year - 1900 ∨ year - 1900 < -maxYear - 1 then
    .error (.os (.ofErrno .tooLarge []))
  else if maxYear < year then .error (.fault .yearRange)
  else .ok (date ++ " " ++ (Calendar.clockAt seconds).clockText)

/-- What structured output says about a record, by name: the last two only if there are any. -/
def members (time level source message : String) (exception : Option String)
    (extra : Option Value) : Table :=
  [("timestamp", .str time), ("level", .str level), ("logger", .str source),
   ("message", .str message)]
    ++ (exception.map fun text => ("exception", Value.str text)).toList
    ++ (extra.map fun v => ("extra", v)).toList

def toTable (now : Int) (r : Record) : Table :=
  members (Calendar.ofEpoch now).text r.level.name r.source r.message r.cause.text? r.extra

/-- The text of a record at a time. Structured output can fail, and so can a time that is too far
away. -/
def write (now : Int) (r : Record) : LineFormat → Except Failure String
  | standard colored => do
    let head := (← stamp (r.created.getD now)) ++ " - " ++ r.source ++ " - "
    return withCause (head ++ shownLevel colored r.level ++ " - " ++ r.message) r.cause
  | system => .ok (withCause (r.level.name ++ ": " ++ r.message) r.cause)
  | json => Json.write (.table (toTable now r))

end LineFormat

end SeedNode

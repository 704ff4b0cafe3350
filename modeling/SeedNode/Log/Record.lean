import SeedNode.Log.Level

/-!
# Log records

A record has a level, the name of the part of the daemon that made it, and a message. It may carry
the cause of a failure and a value for structured output. `LogM` is what pure code runs in that
makes records: it may fail, and keeps the records made before that.
-/

namespace SeedNode

/-- What a record says about a failure. -/
inductive Cause where
  /-- It does not speak of any. -/
  | unstated
  /-- It asked for the current failure, and there was none. -/
  | absent
  | failure (f : Failure)

/-- The class of a failure, with the place of the daemon's own classes. -/
def Failure.qualifiedClass (f : Failure) : String :=
  if f.isReport then "bootstrapd.core.exceptions." ++ f.className else f.className

/-- The text of a cause, if it is stated. -/
def Cause.text? : Cause → Option String
  | unstated => none
  | absent => some "NoneType: None"
  | failure f =>
    some (if f.message = "" then f.qualifiedClass else f.qualifiedClass ++ ": " ++ f.message)

/-- A log record. -/
structure Record where
  level : Level
  /-- The name of the part of the daemon that made it. -/
  source : String
  message : String
  /-- When it was made, in seconds after the start of 1970, if not just now. -/
  created : Option Int := none
  cause : Cause := .unstated
  extra : Option Value := none

/-- Code that makes log records and may fail. -/
abbrev LogM := ExceptT Failure (StateM (List Record))

namespace LogM

def note (level : Level) (source message : String) : LogM Unit :=
  modify fun records => records ++ [{ level, source, message }]

/-- A conversion to text that may fail, among code that makes records. -/
def ofTooLong {α : Type} : Except TooLong α → LogM α
  | .ok a => pure a
  | .error e => throw (.fault (.tooLong e))

end LogM

end SeedNode

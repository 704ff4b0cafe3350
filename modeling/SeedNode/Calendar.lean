/-!
# Dates and times

The proleptic calendar of the years 1 to 9999, times of day to the microsecond, and offsets from
universal time in minutes, with their extended text form. Seconds can be counted into years beyond
these, before and after.
-/

namespace SeedNode.Calendar

/-- A calendar date. -/
structure Date where
  year : Nat
  month : Nat
  day : Nat
  deriving Repr, DecidableEq

/-- A time of day. -/
structure Time where
  hour : Nat
  minute : Nat
  second : Nat
  microsecond : Nat
  deriving Repr, DecidableEq

/-- A date and a time of day, with the offset from universal time in minutes if one is known. -/
structure DateTime where
  date : Date
  time : Time
  offset : Option Int
  deriving Repr, DecidableEq

def isLeap (year : Nat) : Bool :=
  year % 4 == 0 && (year % 100 != 0 || year % 400 == 0)

def daysIn (year month : Nat) : Nat :=
  if month = 2 then (if isLeap year then 29 else 28)
  else if month = 4 ∨ month = 6 ∨ month = 9 ∨ month = 11 then 30
  else 31

def Date.valid (d : Date) : Bool :=
  1 ≤ d.year && d.year ≤ 9999 && 1 ≤ d.month && d.month ≤ 12
    && 1 ≤ d.day && d.day ≤ daysIn d.year d.month

/-- A number with zeros in front up to a width. -/
def padded (width n : Nat) : String :=
  let digits := toString n
  String.ofList (List.replicate (width - digits.length) '0') ++ digits

/-- A date as year, month and day. -/
def Date.text (d : Date) : String :=
  padded 4 d.year ++ "-" ++ padded 2 d.month ++ "-" ++ padded 2 d.day

def Time.clockText (t : Time) : String :=
  padded 2 t.hour ++ ":" ++ padded 2 t.minute ++ ":" ++ padded 2 t.second

/-- A time, with microseconds if there are any. -/
def Time.text (t : Time) : String :=
  t.clockText ++ (if t.microsecond = 0 then "" else "." ++ padded 6 t.microsecond)

/-- An offset as signed hours and minutes; none at all if it is unknown. -/
def offsetText : Option Int → String
  | none => ""
  | some m =>
    (if m < 0 then "-" else "+") ++ padded 2 (m.natAbs / 60) ++ ":" ++ padded 2 (m.natAbs % 60)

/-- A date and time, joined by the letter between them. -/
def DateTime.text (t : DateTime) : String :=
  t.date.text ++ "T" ++ t.time.text ++ offsetText t.offset

/-- The number of days from the first day of March of the year 0 to the first day of 1970. -/
def daysTo1970 : Int := 719468

/-- The year, month and day that lie a number of days after the first day of 1970, or before it, in
any year at all. Years are counted from March, so that a leap day is the last day of its year, and
in eras of four hundred years, which are all alike. -/
def civil (days : Int) : Int × Nat × Nat :=
  let shifted := days + daysTo1970
  let era := shifted / 146097
  let day := (shifted % 146097).toNat
  let year := (day - day / 1460 + day / 36524 - day / 146096) / 365
  let rest := day - (365 * year + year / 4 - year / 100)
  let month := (5 * rest + 2) / 153
  let next : Nat := if month < 10 then 0 else 1
  (era * 400 + year + next, month + 3 - 12 * next, rest - (153 * month + 2) / 5 + 1)

/-- The time of day a number of seconds after the start of 1970, or before it. -/
def clockAt (seconds : Int) : Time :=
  let rest := (seconds % 86400).toNat
  ⟨rest / 3600, rest / 60 % 60, rest % 60, 0⟩

/-- The universal date and time a number of seconds after the start of 1970. -/
def ofEpoch (seconds : Int) : DateTime :=
  let (year, month, day) := civil (seconds / 86400)
  ⟨⟨year.toNat, month, day⟩, clockAt seconds, some 0⟩

end SeedNode.Calendar

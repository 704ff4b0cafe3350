import SeedNode.Toml.Problem
import SeedNode.Value

/-!
# Numbers, dates and times of a settings document

Each reader takes the longest form that fits and leaves the rest, or gives none if no form fits.
-/

namespace SeedNode.Toml

/-! ## Dates and times -/

/-- Two digits with a number between two bounds. -/
def twoDigits? (low high : Nat) : List Char → Option (Nat × List Char)
  | a :: b :: rest =>
    let n := Reading.valueOf [a, b]
    if a.isDigit && b.isDigit && low ≤ n && n ≤ high then some (n, rest) else none
  | _ => none

/-- A given character, then two digits with a number between two bounds. -/
def after? (mark : Char) (low high : Nat) : List Char → Option (Nat × List Char)
  | c :: rest => if c = mark then twoDigits? low high rest else none
  | [] => none

/-- A fraction of a second in microseconds; digits after the sixth are dropped. -/
def fraction (ahead : List Char) : Nat × List Char :=
  match ahead with
  | '.' :: rest =>
    let digits := rest.takeWhile Char.isDigit
    if digits = [] then (0, ahead)
    else
      let kept := digits.take 6
      (Reading.valueOf kept * Nat.pow 10 (6 - kept.length), rest.dropWhile Char.isDigit)
  | _ => (0, ahead)

def time? (ahead : List Char) : Option (Calendar.Time × List Char) := do
  let (hour, ahead) ← twoDigits? 0 23 ahead
  let (minute, ahead) ← after? ':' 0 59 ahead
  let (second, ahead) ← after? ':' 0 59 ahead
  let (micros, ahead) := fraction ahead
  return (⟨hour, minute, second, micros⟩, ahead)

/-- The digits of a date, which need not be on the calendar. -/
def date? (ahead : List Char) : Option (Calendar.Date × List Char) := do
  let (century, ahead) ← twoDigits? 0 99 ahead
  let (year, ahead) ← twoDigits? 0 99 ahead
  let (month, ahead) ← after? '-' 1 12 ahead
  let (day, ahead) ← after? '-' 1 31 ahead
  return (⟨century * 100 + year, month, day⟩, ahead)

/-- An offset from universal time, in minutes, or nothing. -/
def offset (ahead : List Char) : Option Int × List Char :=
  match ahead with
  | c :: rest =>
    if c = 'Z' ∨ c = 'z' then (some 0, rest)
    else if c = '+' ∨ c = '-' then
      match twoDigits? 0 23 rest with
      | none => (none, ahead)
      | some (hours, more) =>
        match after? ':' 0 59 more with
        | none => (none, ahead)
        | some (minutes, after) =>
          let total : Int := hours * 60 + minutes
          (some (if c = '-' then -total else total), after)
    else (none, ahead)
  | [] => (none, [])

/-- A date, with the time and offset that may follow it. -/
def moment? (ahead : List Char) :
    Option (Calendar.Date × Option (Calendar.Time × Option Int) × List Char) := do
  let (date, after) ← date? ahead
  let timed := match after with
    | c :: rest => if c = 'T' ∨ c = 't' ∨ c = ' ' then time? rest else none
    | [] => none
  match timed with
  | none => return (date, none, after)
  | some (time, rest) =>
    let (zone, rest) := offset rest
    return (date, some (time, zone), rest)

/-! ## Numbers -/

/-- The digits of the longest run ahead in which single underscores may stand between digits, and
what follows it. `after` says that a digit has just been read. -/
def digitRun (isDigit : Char → Bool) (after : Bool) : List Char → List Char × List Char
  | [] => ([], [])
  | '_' :: d :: rest =>
    if after && isDigit d then
      let (digits, rest) := digitRun isDigit true rest
      (d :: digits, rest)
    else ([], '_' :: d :: rest)
  | c :: rest =>
    if isDigit c then
      let (digits, rest) := digitRun isDigit true rest
      (c :: digits, rest)
    else ([], c :: rest)

def inBase (base : Nat) (digits : List Char) : Nat :=
  digits.foldl (fun n c => n * base + (Hex.digit? c).getD 0) 0

def based? : List Char → Option (Nat × List Char)
  | '0' :: letter :: rest =>
    let base :=
      if letter = 'x' then 16 else if letter = 'o' then 8 else if letter = 'b' then 2 else 0
    let (digits, after) := digitRun (fun c => match Hex.digit? c with
      | some d => decide (d < base)
      | none => false) false rest
    if digits = [] then none else some (inBase base digits, after)
  | _ => none

/-- The digits before the point of a decimal number: a single zero, or a run that does not start
with zero. -/
def wholePart? : List Char → Option (List Char × List Char)
  | '0' :: rest => some (['0'], rest)
  | c :: rest => if c.isDigit then some (digitRun Char.isDigit false (c :: rest)) else none
  | [] => none

/-- The digits after a point, if a point with digits is ahead. -/
def fractionPart (ahead : List Char) : Option (List Char) × List Char :=
  match ahead with
  | '.' :: rest =>
    let (digits, after) := digitRun Char.isDigit false rest
    if digits = [] then (none, ahead) else (some digits, after)
  | _ => (none, ahead)

/-- An exponent, if one is ahead. -/
def exponentPart (ahead : List Char) : Option Int × List Char :=
  match ahead with
  | e :: rest =>
    if e = 'e' ∨ e = 'E' then
      let (negative, rest) := Reading.sign rest
      let (digits, after) := digitRun Char.isDigit false rest
      let n : Int := Reading.valueOf digits
      if digits = [] then (none, ahead) else (some (if negative then -n else n), after)
    else (none, ahead)
  | [] => (none, [])

/-- A number: an integer in some base, or a decimal that is binary if it has a fraction or an
exponent. Decimal integers are limited in length. -/
def number? (ahead : List Char) : Option (Except Stop (Value × List Char)) :=
  match based? ahead with
  | some (n, after) => some (.ok (.int n, after))
  | none => do
    let (negative, rest) := Reading.sign ahead
    let (whole, rest) ← wholePart? rest
    let (fraction, rest) := fractionPart rest
    let (exponent, rest) := exponentPart rest
    if fraction.isSome || exponent.isSome then
      let digits := fraction.getD []
      let x := Decimal.toFloat ⟨Reading.valueOf (whole ++ digits), exponent.getD 0 - digits.length⟩
      some (.ok (.float (if negative then -x else x), rest))
    else if maxDigits < whole.length then some (.error (.tooLong whole.length))
    else
      let n : Int := Reading.valueOf whole
      some (.ok (.int (if negative then -n else n), rest))

/-- A word for infinity or for no number, with an optional sign. -/
def word? (ahead : List Char) : Option (Value × List Char) :=
  let (negative, rest) := Reading.sign ahead
  let magnitude : Option Float := match rest.take 3 with
    | ['i', 'n', 'f'] => some (1.0 / 0.0)
    | ['n', 'a', 'n'] => some (0.0 / 0.0)
    | _ => none
  magnitude.map fun x => (.float (if negative then -x else x), rest.drop 3)

/-- A date, a time or a number. -/
def scalar (ahead : List Char) : Except Stop (Taken Value) :=
  match moment? ahead with
  | some (date, timed, after) =>
    if date.valid = false then stop .invalidDate ahead
    else match timed with
      | none => .ok (.date date, after)
      | some (time, zone) => .ok (.dateTime ⟨date, time, zone⟩, after)
  | none =>
    match time? ahead with
    | some (time, after) => .ok (.time time, after)
    | none =>
      match number? ahead with
      | some outcome => outcome
      | none =>
        match word? ahead with
        | some found => .ok found
        | none => stop .invalidValue ahead

end SeedNode.Toml

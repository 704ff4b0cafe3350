import SeedNode.Numeric.Reading

/-!
# Reading integers

An integer may come with blanks around it, a plus sign, zeros in front, a fraction of zeros, and
underscores between its digits. `cleaned?` drops all of these in turn and leaves an optional minus
sign and digits, or a text that is no integer at all.
-/

namespace SeedNode.IntegerText

/-- What follows zeros, of which the last character was `last`. Underscores among the zeros do not
count, and a minus sign may follow them. The last zero stays before a point and where nothing
follows. -/
def afterZeros (last : Char) : List Char → Option (List Char)
  | [] => some [last]
  | c :: rest =>
    if c = '0' ∨ c = '_' then afterZeros c rest
    else if c = '.' then some (last :: c :: rest)
    else if c.isDigit ∨ c = '-' then some (c :: rest)
    else none

/-- A text that starts with a digit, without the zeros in front. -/
def unpadded? : List Char → Option (List Char)
  | [] => none
  | c :: rest =>
    if c = '0' then afterZeros c rest
    else if c.isDigit then some (c :: rest)
    else none

/-- A text without its fraction, which has to be of zeros. -/
def withoutFraction? (text : List Char) : Option (List Char) :=
  match text.dropWhile (· != '.') with
  | [] => some text
  | _ :: zeros =>
    if zeros ≠ [] ∧ zeros.all (· == '0') then some (text.takeWhile (· != '.')) else none

/-- A text without all that an integer may come with. Underscores that do not each stand between
two other characters stay. -/
def cleaned? (text : List Char) : Option (List Char) := do
  let (negative, body) := Reading.sign (Blank.trim Blank.isBlank text)
  let number ← unpadded? body
  let whole ← withoutFraction? (if negative then '-' :: number else number)
  return (Reading.ungroup whole).getD whole

/-- An optional minus sign, the digits after it, and what is left. -/
def split (text : List Char) : Bool × List Char × List Char :=
  let (negative, rest) := match text with
    | '-' :: rest => (true, rest)
    | _ => (false, text)
  (negative, rest.takeWhile Char.isDigit, rest.dropWhile Char.isDigit)

end SeedNode.IntegerText

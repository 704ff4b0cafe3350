import SeedNode.Numeric.Shortest
import SeedNode.Text.Blank

/-!
# Reading decimals

Decimal text as a binary number, rounded once. A text is an optional sign, then digits with an
optional fraction and an optional exponent, or a word for infinity or for no number. Blanks may
surround it or single underscores group it, but not both.
-/

namespace SeedNode

namespace Decimal

/-- The number of decimal digits of a natural number; zero has one. -/
def digitCount (n : Nat) : Nat :=
  (Nat.toDigits 10 n).length

/-- The nearest binary number. Decimals far outside the range of the format become infinity or
zero without being scaled. -/
def toFloat (d : Decimal) : Float :=
  let top := (digitCount d.digits : Int) + d.exponent
  if d.digits = 0 then 0.0
  else if 400 < top then 1.0 / 0.0
  else if top < -400 then 0.0
  else Float.ofScientific d.digits (d.exponent < 0) d.exponent.natAbs

end Decimal

namespace Reading

/-- The value of digits, the first the most significant. -/
def valueOf (digits : List Char) : Nat :=
  digits.foldl (fun n c => n * 10 + (c.toNat - 48)) 0

/-- Drops single underscores inside a text; none if an underscore stands at either end or beside
another. -/
def ungroup : List Char → Option (List Char)
  | [] => some []
  | '_' :: _ => none
  | [c] => some [c]
  | c :: '_' :: rest => if rest = [] then none else (ungroup rest).map (c :: ·)
  | c :: rest => (ungroup rest).map (c :: ·)

/-- An optional sign: whether it is a minus, and what follows. -/
def sign : List Char → Bool × List Char
  | '-' :: rest => (true, rest)
  | '+' :: rest => (false, rest)
  | rest => (false, rest)

/-- An exponent part, or nothing: its value. -/
def exponent? : List Char → Option Int
  | [] => some 0
  | e :: rest =>
    if e = 'e' ∨ e = 'E' then
      let (negative, digits) := sign rest
      if digits ≠ [] ∧ digits.all Char.isDigit then
        some (if negative then -(valueOf digits : Int) else valueOf digits)
      else none
    else none

/-- Digits with an optional fraction and exponent, without a sign. -/
def unsigned? (text : List Char) : Option Decimal :=
  let whole := text.takeWhile Char.isDigit
  let rest := text.dropWhile Char.isDigit
  let (fraction, tail) := match rest with
    | '.' :: more => (more.takeWhile Char.isDigit, more.dropWhile Char.isDigit)
    | _ => ([], rest)
  if whole = [] ∧ fraction = [] then none
  else (exponent? tail).map fun e => ⟨valueOf (whole ++ fraction), e - fraction.length⟩

def plain? (text : List Char) : Option Float :=
  let (negative, body) := sign text
  let word := String.ofList (body.map Char.toLower)
  let magnitude : Option Float :=
    if word = "inf" ∨ word = "infinity" then some (1.0 / 0.0)
    else if word = "nan" then some (0.0 / 0.0)
    else (unsigned? body).map Decimal.toFloat
  magnitude.map fun x => if negative then -x else x

/-- The number that a text stands for, between blanks or grouped. -/
def float? (text : List Char) : Option Float :=
  plain? (Blank.trim Blank.isBlank text) <|> (ungroup text).bind plain?

end Reading

end SeedNode

/-!
# Shortest decimals

A finite binary number stands for the interval of reals that round to it. Among the decimals in
that interval the one with the fewest digits identifies the number, and of several the nearest.
The search tries one digit, then two, and so on: on each grid only the two neighbours of the value
can be nearest, so testing those two is enough. All arithmetic is exact, on natural numbers.
-/

namespace SeedNode

/-- A power of two; one where the exponent is negative. -/
def twoTo (k : Int) : Nat :=
  Nat.pow 2 k.toNat

/-- A power of ten; one where the exponent is negative. -/
def tenTo (k : Int) : Nat :=
  Nat.pow 10 k.toNat

/-- A finite non-negative binary number, `mantissa * 2 ^ exponent`. -/
structure Binary where
  mantissa : Nat
  exponent : Int
  /-- The number below is half as far away as the number above. -/
  narrowBelow : Bool
  deriving Repr, DecidableEq

/-- A decimal, `digits * 10 ^ exponent`. -/
structure Decimal where
  /-- The digits, as a number. -/
  digits : Nat
  exponent : Int
  deriving Repr, DecidableEq

namespace Binary

/-- The magnitude that the bits of a finite number stand for. -/
def ofBits (bits : UInt64) : Binary :=
  let biased := (bits >>> 52 &&& 0x7FF).toNat
  let fraction := (bits &&& 0xFFFFFFFFFFFFF).toNat
  if biased = 0 then ⟨fraction, -1074, false⟩
  else ⟨twoTo 52 + fraction, (biased : Int) - 1075, fraction == 0 && biased > 1⟩

def isIntegral (x : Binary) : Bool :=
  0 ≤ x.exponent || x.mantissa % twoTo (-x.exponent) == 0

def floor (x : Binary) : Nat :=
  x.mantissa * twoTo x.exponent / twoTo (-x.exponent)

/-- Compares `a * 10 ^ i` with `n * 2 ^ j`. -/
def compareScaled (a : Nat) (i : Int) (n : Nat) (j : Int) : Ordering :=
  compare (a * tenTo i * twoTo (-j)) (n * twoTo j * tenTo (-i))

/-- Whether a decimal lies among the reals that round to the number. The ends of the interval,
halfway to the neighbours, belong to it when the mantissa is even. -/
def admits (x : Binary) (d : Decimal) : Bool :=
  let low := if x.narrowBelow then 4 * x.mantissa - 1 else 4 * x.mantissa - 2
  let high := 4 * x.mantissa + 2
  let closed := x.mantissa % 2 == 0
  let below := compareScaled d.digits d.exponent low (x.exponent - 2)
  let above := compareScaled d.digits d.exponent high (x.exponent - 2)
  (below == .gt || closed && below == .eq) && (above == .lt || closed && above == .eq)

/-- The least `k` with the number below `10 ^ k`, for a positive number: an estimate from the
binary length, corrected by exact comparison. -/
def scale (x : Binary) : Int :=
  let bits := (x.mantissa.log2 : Int) + x.exponent
  let start := bits * 30103 / 100000 - 1
  let below (k : Int) : Bool := compareScaled 1 k x.mantissa x.exponent == .gt
  ([start, start + 1, start + 2].find? below).getD (start + 3)

/-- The greatest multiple of `10 ^ e` that is at most the number, in units of `10 ^ e`. -/
def onGrid (x : Binary) (e : Int) : Nat :=
  x.mantissa * twoTo x.exponent * tenTo (-e) / (twoTo (-x.exponent) * tenTo e)

/-- The nearer of two neighbouring grid points, `d` and `d + 1`; a tie goes to the even one. -/
def nearer (x : Binary) (d : Nat) (e : Int) : Nat :=
  match compareScaled (2 * d + 1) e (2 * x.mantissa) x.exponent with
  | .gt => d
  | .lt => d + 1
  | .eq => if d % 2 = 0 then d else d + 1

/-- The grid point of `10 ^ e` that stands for the number, if one does. -/
def hit? (x : Binary) (e : Int) : Option Decimal :=
  let d := x.onGrid e
  match x.admits ⟨d, e⟩, x.admits ⟨d + 1, e⟩ with
  | true, true => some ⟨x.nearer d e, e⟩
  | true, false => some ⟨d, e⟩
  | false, true => some ⟨d + 1, e⟩
  | false, false => none

def exact (x : Binary) : Decimal :=
  ⟨x.mantissa * twoTo x.exponent * Nat.pow 5 (-x.exponent).toNat, -(-x.exponent).toNat⟩

end Binary

/-- Moves trailing zeros of the digits into the exponent. `fuel` bounds the number of zeros. -/
def Decimal.strip : Nat → Decimal → Decimal
  | 0, d => d
  | fuel + 1, d =>
    if d.digits ≠ 0 ∧ d.digits % 10 = 0 then strip fuel ⟨d.digits / 10, d.exponent + 1⟩ else d

/-- The decimal with the fewest digits that identifies the number. -/
def Binary.shortest (x : Binary) : Decimal :=
  if x.mantissa = 0 then ⟨0, 0⟩
  else
    let k := x.scale
    let found := (List.range 17).findSome? fun n => x.hit? (k - (n + 1 : Nat))
    Decimal.strip 20 (found.getD x.exact)

/-! ## Writing -/

/-- How a number is written once its digits are known. -/
structure Notation where
  /-- The least decimal exponent that is written positionally. -/
  positionalFrom : Int
  /-- The least decimal exponent that is no longer written positionally. -/
  positionalBelow : Int
  /-- The least number of digits of a written exponent. -/
  exponentWidth : Nat
  /-- The texts of the values that are no numbers. -/
  infinity : String
  notANumber : String

/-- The positional form of a decimal whose digits are `digits`. -/
def Decimal.positional (digits : List Char) (exponent : Int) : List Char :=
  let point := (digits.length : Int) + exponent
  if 0 ≤ exponent then digits ++ List.replicate exponent.toNat '0' ++ ['.', '0']
  else if 0 < point then digits.take point.toNat ++ '.' :: digits.drop point.toNat
  else '0' :: '.' :: List.replicate (-point).toNat '0' ++ digits

/-- The form with one digit before the point and an exponent. -/
def Decimal.scientific (digits : List Char) (leading : Int) (width : Nat) : List Char :=
  let fraction := digits.drop 1
  let power := Nat.toDigits 10 leading.natAbs
  digits.take 1 ++ (if fraction.isEmpty then [] else '.' :: fraction)
    ++ 'e' :: (if leading < 0 then '-' else '+')
    :: List.replicate (width - power.length) '0' ++ power

/-- A decimal in a notation: positional where the exponent of its leading digit allows it. -/
def Decimal.chars (d : Decimal) (style : Notation) : List Char :=
  let digits := Nat.toDigits 10 d.digits
  let leading := (digits.length : Int) + d.exponent - 1
  if d.digits = 0 then ['0', '.', '0']
  else if style.positionalFrom ≤ leading ∧ leading < style.positionalBelow then
    Decimal.positional digits d.exponent
  else Decimal.scientific digits leading style.exponentWidth

/-- A number in a notation, with its sign, by its shortest decimal. -/
def Notation.write (style : Notation) (x : Float) : String :=
  let sign := if x.toBits >>> 63 == 1 then "-" else ""
  if x.isNaN then style.notANumber
  else if x.isInf then sign ++ style.infinity
  else sign ++ String.ofList ((Binary.ofBits x.toBits).shortest.chars style)

end SeedNode

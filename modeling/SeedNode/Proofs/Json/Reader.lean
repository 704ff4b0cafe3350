import SeedNode.Json.Printer

/-!
# Structured output, read back

A reader for lines of structured output, to say what they tell whoever takes them in. It is strict:
no comma behind the last item, no zero in front of other digits, no control character inside
quotation marks, and nothing behind the value but blanks. A character that was written in two halves
is put together again, and a half without the other is refused. Objects keep their entries in order.
-/

namespace SeedNode.Json.Reader

/-- A character that may stand between the parts of a value. -/
def isBlank (c : Char) : Bool :=
  c == ' ' || c == '\t' || c == '\n' || c == '\r'

def skip (cs : List Char) : List Char :=
  cs.dropWhile isBlank

/-! ## Texts -/

/-- The number that hexadecimal digits stand for. -/
def hexNumber? (digits : List Char) : Option Nat :=
  digits.foldlM (fun n c => (Hex.digit? c).map (n * 16 + ·)) 0

/-- The character that a letter behind a backslash stands for. -/
def shorthand? (c : Char) : Option Char :=
  [('"', '"'), ('\\', '\\'), ('/', '/'), ('b', '\x08'), ('f', '\x0c'), ('n', '\n'), ('r', '\r'),
   ('t', '\t')].lookup c

/-- The numbers of the characters up to the closing quotation mark, or of their halves, and what
follows the mark. -/
def numbers? : List Char → Option (List Nat × List Char)
  | [] => none
  | c :: rest =>
    if c = '"' then some ([], rest)
    else if c = '\\' then
      match rest with
      | 'u' :: a :: b :: c :: d :: rest => do
        let n ← hexNumber? [a, b, c, d]
        let (ns, rest) ← numbers? rest
        return (n :: ns, rest)
      | c :: rest => do
        let meant ← shorthand? c
        let (ns, rest) ← numbers? rest
        return (meant.toNat :: ns, rest)
      | [] => none
    else if c < ' ' then none
    else do
      let (ns, rest) ← numbers? rest
      return (c.toNat :: ns, rest)

/-- The characters of given numbers. A first half and a second half make one character. -/
def chars? : List Nat → Option (List Char)
  | [] => some []
  | n :: rest =>
    if 0xD800 ≤ n ∧ n < 0xDC00 then
      match rest with
      | m :: rest =>
        if 0xDC00 ≤ m ∧ m < 0xE000 then
          (chars? rest).map (Char.ofNat (0x10000 + (n - 0xD800) * 0x400 + (m - 0xDC00)) :: ·)
        else none
      | [] => none
    else if 0xDC00 ≤ n ∧ n < 0xE000 then none
    else (chars? rest).map (Char.ofNat n :: ·)

/-- The text up to the closing quotation mark, and what follows the mark. -/
def text? (cs : List Char) : Option (String × List Char) := do
  let (ns, rest) ← numbers? cs
  let chars ← chars? ns
  return (String.ofList chars, rest)

/-! ## Numbers -/

/-- A character that numbers are made of. -/
def isNumeral (c : Char) : Bool :=
  c.isDigit || c == '-' || c == '+' || c == '.' || c == 'e' || c == 'E'

/-- The digits of a fraction, if there is one, and what follows them. -/
def fraction? : List Char → Option (List Char × List Char)
  | '.' :: rest =>
    let digits := rest.takeWhile Char.isDigit
    if digits = [] then none else some (digits, rest.dropWhile Char.isDigit)
  | rest => some ([], rest)

/-- An unsigned number, negated if asked for: an integer of no more digits than are ever read, or a
binary number if there is a fraction or an exponent. -/
def unsigned? (negative : Bool) (text : List Char) : Option Value :=
  let whole := text.takeWhile Char.isDigit
  let tail := text.dropWhile Char.isDigit
  if whole = [] ∨ whole.head? = some '0' ∧ whole.length ≠ 1 then none
  else if tail = [] then
    let n : Int := Reading.valueOf whole
    if maxDigits < whole.length then none else some (.int (if negative then -n else n))
  else do
    let (fraction, tail) ← fraction? tail
    let e ← Reading.exponent? tail
    let x := Decimal.toFloat ⟨Reading.valueOf (whole ++ fraction), e - fraction.length⟩
    return .float (if negative then -x else x)

def number? : List Char → Option Value
  | '-' :: rest => unsigned? true rest
  | text => unsigned? false text

/-! ## Values -/

/-- One element or several with commas between them, up to a closing character, and what follows
it. -/
def sequence? {α : Type} (element? : List Char → Option (α × List Char)) (closing : Char) :
    Nat → List Char → Option (List α × List Char)
  | 0, _ => none
  | bound + 1, cs => do
    let (a, rest) ← element? cs
    match skip rest with
    | [] => none
    | c :: rest =>
      if c = closing then some ([a], rest)
      else if c = ',' then do
        let (as, rest) ← sequence? element? closing bound (skip rest)
        return (a :: as, rest)
      else none

/-- What stands between brackets or braces, and what follows the closing one. -/
def group? {α : Type} (element? : List Char → Option (α × List Char)) (closing : Char)
    (cs : List Char) : Option (List α × List Char) :=
  match skip cs with
  | [] => none
  | c :: rest =>
    if c = closing then some ([], rest)
    else sequence? element? closing (c :: rest).length (c :: rest)

/-- A name with its value, and what follows it. -/
def member? (value? : List Char → Option (Value × List Char)) :
    List Char → Option ((String × Value) × List Char)
  | '"' :: rest => do
    let (name, rest) ← text? rest
    match skip rest with
    | ':' :: rest => do
      let (v, rest) ← value? (skip rest)
      return ((name, v), rest)
    | _ => none
  | _ => none

/-- The value at the front of a text, and what follows it. The number bounds how deep values lie
inside one another; each begins behind the first character of the one around it, so the length of
the text is enough. -/
def value? : Nat → List Char → Option (Value × List Char)
  | 0, _ => none
  | depth + 1, cs =>
    match cs with
    | '"' :: rest => do
      let (s, rest) ← text? rest
      return (.str s, rest)
    | '[' :: rest => do
      let (items, rest) ← group? (value? depth) ']' rest
      return (.list items, rest)
    | '\x7b' :: rest => do
      let (entries, rest) ← group? (member? (value? depth)) '\x7d' rest
      return (.table entries, rest)
    | 'n' :: 'u' :: 'l' :: 'l' :: rest => some (.null, rest)
    | 't' :: 'r' :: 'u' :: 'e' :: rest => some (.bool true, rest)
    | 'f' :: 'a' :: 'l' :: 's' :: 'e' :: rest => some (.bool false, rest)
    | cs => do
      let v ← number? (cs.takeWhile isNumeral)
      return (v, cs.dropWhile isNumeral)

/-- The value that a text is, with nothing but blanks around it. -/
def read (text : String) : Option Value := do
  let (v, rest) ← value? text.length (skip text.toList)
  if skip rest = [] then some v else none

end SeedNode.Json.Reader

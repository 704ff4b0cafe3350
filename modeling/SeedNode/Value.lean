import SeedNode.Numeric.Reading
import SeedNode.Text.Quoted
import SeedNode.Calendar

/-!
# Values

What a settings table holds: booleans, unbounded integers, binary numbers, texts, dates and times,
lists, and tables that keep their entries in order. This module gives the type, its equality by
meaning, and its two texts: the plain one and the quoted one that stands inside messages. Either
text fails only when an integer is too long to be written in decimal.
-/

namespace SeedNode

/-- A settings value. -/
inductive Value where
  | null
  | bool (b : Bool)
  | int (n : Int)
  | float (x : Float)
  | str (s : String)
  | list (items : List Value)
  | table (entries : List (String × Value))
  | dateTime (t : Calendar.DateTime)
  | date (d : Calendar.Date)
  | time (t : Calendar.Time)

instance : Inhabited Value := ⟨.null⟩

/-- A settings table: names with their values, in order of arrival. -/
abbrev Table := List (String × Value)

/-! ## Decimal text of integers -/

/-- Why an integer has no decimal text, or a decimal text no integer: it is over the limit on
digits. When a text is read, the number of its digits is known. -/
structure TooLong where
  digits : Option Nat
  deriving Repr, DecidableEq

/-- The greatest number of digits of an integer written or read in decimal. -/
def maxDigits : Nat := 4300

def TooLong.message (e : TooLong) : String :=
  let count := match e.digits with
    | some n => s!": value has {n} digits"
    | none => ""
  "Exceeds the limit (4300 digits) for integer string conversion" ++ count
    ++ "; use sys.set_int_max_str_digits() to increase the limit"

def decimalText (n : Int) : Except TooLong String :=
  if n.natAbs < Nat.pow 10 maxDigits then .ok (toString n) else .error ⟨none⟩

/-! ## Texts -/

namespace Value

/-- Numbers inside messages: the shortest digits that identify them, positional for exponents from
minus four to fifteen, and then with an exponent of at least two digits. -/
def numberStyle : Notation where
  positionalFrom := -4
  positionalBelow := 16
  exponentWidth := 2
  infinity := "inf"
  notANumber := "nan"

def kind : Value → String
  | null => "NoneType"
  | bool _ => "bool"
  | int _ => "int"
  | float _ => "float"
  | str _ => "str"
  | list _ => "list"
  | table _ => "dict"
  | dateTime _ => "datetime"
  | date _ => "date"
  | time _ => "time"

mutual

/-- The text of a value inside a message, with quotes around strings. -/
def quoted : Value → Except TooLong String
  | null => .ok "None"
  | bool b => .ok (if b then "True" else "False")
  | int n => decimalText n
  | float x => .ok (numberStyle.write x)
  | str s => .ok (Quoted.quote s)
  | list items => do
    let parts ← quotedItems items
    return "[" ++ ", ".intercalate parts ++ "]"
  | table entries => do
    let parts ← quotedEntries entries
    return "\x7b" ++ ", ".intercalate parts ++ "\x7d"
  | dateTime t => .ok t.text
  | date d => .ok d.text
  | time t => .ok t.text

def quotedItems : List Value → Except TooLong (List String)
  | [] => .ok []
  | v :: rest => do
    let first ← quoted v
    return first :: (← quotedItems rest)

def quotedEntries : List (String × Value) → Except TooLong (List String)
  | [] => .ok []
  | (name, v) :: rest => do
    let first ← quoted v
    return (Quoted.quote name ++ ": " ++ first) :: (← quotedEntries rest)

end

/-- The text of a value by itself: a string stands for itself. -/
def text : Value → Except TooLong String
  | str s => .ok s
  | v => v.quoted

/-! ## Equality by meaning -/

/-- The integer that a value counts as: truth values count as one and zero, and a binary number
counts when it is integral. -/
def integer? : Value → Option Int
  | bool b => some (if b then 1 else 0)
  | int n => some n
  | float x =>
    let magnitude := Binary.ofBits x.toBits
    if x.isFinite && magnitude.isIntegral then
      some (if x.toBits >>> 63 == 1 then -(magnitude.floor : Int) else magnitude.floor)
    else none
  | _ => none

/-- Whether two values that hold no other values are equal: numbers by their size, whatever their
kind, and all else within its kind. -/
def sameLeaf : Value → Value → Bool
  | null, null => true
  | str s, str t => s == t
  | dateTime s, dateTime t => s == t
  | date s, date t => s == t
  | time s, time t => s == t
  | float x, float y => x == y
  | v, w =>
    match v.integer?, w.integer? with
    | some m, some n => m == n
    | _, _ => false

mutual

/-- Whether two values are equal by meaning; tables regardless of order. -/
def same : Value → Value → Bool
  | list xs, list ys => sameItems xs ys
  | table xs, table ys => xs.length == ys.length && sameEntries xs ys
  | v, w => sameLeaf v w

def sameItems : List Value → List Value → Bool
  | [], [] => true
  | v :: vs, w :: ws => same v w && sameItems vs ws
  | _, _ => false

/-- Whether every entry of the first table has its equal in the second. -/
def sameEntries : List (String × Value) → List (String × Value) → Bool
  | [], _ => true
  | (name, v) :: rest, ys =>
    (match ys.lookup name with
      | some w => same v w
      | none => false) && sameEntries rest ys

end

/-- Whether a value counts as true: empty and zero values do not. -/
def truthy : Value → Bool
  | null => false
  | bool b => b
  | int n => n != 0
  | float x => x != 0.0
  | str s => s != ""
  | list items => !items.isEmpty
  | table entries => !entries.isEmpty
  | _ => true

end Value

end SeedNode

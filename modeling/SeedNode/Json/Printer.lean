import SeedNode.Failure

/-!
# Structured output

A value as one line of printable characters. Text is escaped so that neither a quotation mark nor
a line break of its own can end it, and every character outside the printable range is written by
its number, in two halves where one is too small to hold it.
-/

namespace SeedNode.Json

def unit (n : Nat) : List Char :=
  '\\' :: 'u' :: Hex.padded 4 n

def escape (c : Char) : List Char :=
  if c = '"' then ['\\', '"']
  else if c = '\\' then ['\\', '\\']
  else if c = '\n' then ['\\', 'n']
  else if c = '\r' then ['\\', 'r']
  else if c = '\t' then ['\\', 't']
  else if c = '\x08' then ['\\', 'b']
  else if c = '\x0c' then ['\\', 'f']
  else if ' ' ≤ c ∧ c ≤ '~' then [c]
  else if c.toNat < 0x10000 then unit c.toNat
  else
    let above := c.toNat - 0x10000
    unit (0xD800 + above / 0x400) ++ unit (0xDC00 + above % 0x400)

def quoted (text : String) : String :=
  String.ofList ('"' :: text.toList.flatMap escape ++ ['"'])

/-- Numbers in structured output: written as in messages, but for the words of those that are no
numbers. -/
def numberStyle : Notation :=
  { Value.numberStyle with infinity := "Infinity", notANumber := "NaN" }

mutual

/-- A value in structured output. Dates and times have no such form, nor have integers with too
many digits. -/
def write : Value → Except Failure String
  | .null => .ok "null"
  | .bool b => .ok (if b then "true" else "false")
  | .int n => liftTooLong (decimalText n)
  | .float x => .ok (numberStyle.write x)
  | .str s => .ok (quoted s)
  | .list items => do
    let parts ← writeItems items
    return "[" ++ ", ".intercalate parts ++ "]"
  | .table entries => do
    let parts ← writeEntries entries
    return "\x7b" ++ ", ".intercalate parts ++ "\x7d"
  | v => .error (.fault (.notSerializable v.kind))

def writeItems : List Value → Except Failure (List String)
  | [] => .ok []
  | v :: rest => do
    let first ← write v
    return first :: (← writeItems rest)

def writeEntries : List (String × Value) → Except Failure (List String)
  | [] => .ok []
  | (name, v) :: rest => do
    let first ← write v
    return (quoted name ++ ": " ++ first) :: (← writeEntries rest)

end

end SeedNode.Json

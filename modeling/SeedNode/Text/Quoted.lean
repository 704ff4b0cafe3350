import SeedNode.Text.Hex
import SeedNode.Text.Hidden

/-!
# Quoted text

A text inside a message stands between quotes. Single quotes are used unless the text holds a
single quote and no double one. A backslash, the quote in use and every character that does not
print are written as escapes.
-/

namespace SeedNode.Quoted

def quoteFor (text : List Char) : Char :=
  if text.contains '\'' && !text.contains '"' then '"' else '\''

def escape (quote c : Char) : List Char :=
  if c = '\\' ∨ c = quote then ['\\', c]
  else if c = '\n' then ['\\', 'n']
  else if c = '\r' then ['\\', 'r']
  else if c = '\t' then ['\\', 't']
  else if Hidden.isHidden c = false then [c]
  else if c.toNat < 0x100 then '\\' :: 'x' :: Hex.padded 2 c.toNat
  else if c.toNat < 0x10000 then '\\' :: 'u' :: Hex.padded 4 c.toNat
  else '\\' :: 'U' :: Hex.padded 8 c.toNat

def chars (text : List Char) : List Char :=
  let quote := quoteFor text
  quote :: text.flatMap (escape quote) ++ [quote]

def quote (text : String) : String :=
  String.ofList (chars text.toList)

/-- The quoted forms of several texts as a parenthesised group; a single one keeps its comma. -/
def group : List String → String
  | [one] => "(" ++ quote one ++ ",)"
  | parts => "(" ++ ", ".intercalate (parts.map quote) ++ ")"

end SeedNode.Quoted

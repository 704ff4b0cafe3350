import SeedNode.Text.Ranges

/-!
# Blanks

The characters that separate words. Four control characters that once separated records count for
some readers and not for others, so there are two sets.
-/

namespace SeedNode.Blank

def ranges : Ranges :=
  [(0x09, 0x0D), (0x20, 0x20), (0x85, 0x85), (0xA0, 0xA0), (0x1680, 0x1680), (0x2000, 0x200A),
   (0x2028, 0x2029), (0x202F, 0x202F), (0x205F, 0x205F), (0x3000, 0x3000)]

def isBlank (c : Char) : Bool :=
  ranges.contains c

/-- Whether a character is a blank or one of the four separators of records. -/
def isSeparator (c : Char) : Bool :=
  isBlank c || (0x1C ≤ c.toNat && c.toNat ≤ 0x1F)

/-- A text without the characters of a kind at its end. -/
def trimEnd (isOne : Char → Bool) (text : List Char) : List Char :=
  (text.reverse.dropWhile isOne).reverse

/-- A text without the characters of a kind at either end. -/
def trim (isOne : Char → Bool) (text : List Char) : List Char :=
  trimEnd isOne (text.dropWhile isOne)

end SeedNode.Blank

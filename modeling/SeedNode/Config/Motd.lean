import SeedNode.Text.Utf8

/-!
# The message of the day

What the engine tells every peer. On the wire it is UTF-8 ended by a null byte, of at most 256
bytes with that byte, so a message is cut before its first null character and after the last whole
character that fits.
-/

namespace SeedNode.Motd

/-- The room for a message on the wire, with the null byte that ends it. -/
def maxLength : Nat := 256

/-- The part of a message that is sent: what stands before its first null character, as far as its
bytes fit. A character that the cut goes through is left out. -/
def clamp (text : String) : String :=
  let plain := text.toList.takeWhile (· != '\x00')
  let bytes := Utf8.encodeChars plain
  String.ofList <|
    if bytes.length < maxLength then plain else Utf8.decodeSkipping (bytes.take (maxLength - 1))

/-- A message as it is sent. -/
def wire (text : String) : Bytes :=
  Utf8.encode (clamp text) ++ [0]

end SeedNode.Motd

/-!
# Hexadecimal text

Bytes written as two hexadecimal digits each, and read back. Reading takes either letter case and
nothing else: no prefix, no separator, no odd digit.
-/

namespace SeedNode

/-- Raw bytes, in order. -/
abbrev Bytes := List UInt8

namespace Hex

/-- The digit of a value below sixteen, in lower case. -/
def digit (n : Nat) : Char :=
  if n < 10 then Char.ofNat (48 + n) else Char.ofNat (87 + n)

def digit? (c : Char) : Option Nat :=
  if '0' ≤ c ∧ c ≤ '9' then some (c.toNat - 48)
  else if 'a' ≤ c ∧ c ≤ 'f' then some (c.toNat - 87)
  else if 'A' ≤ c ∧ c ≤ 'F' then some (c.toNat - 55)
  else none

def isDigit (c : Char) : Bool :=
  (digit? c).isSome

/-- Bytes as lower-case digits, the high half of each byte first. -/
def chars : Bytes → List Char
  | [] => []
  | b :: rest => digit (b.toNat / 16) :: digit (b.toNat % 16) :: chars rest

def encode (bytes : Bytes) : String :=
  String.ofList (chars bytes)

/-- The upper-case form of a digit; other characters stay. -/
def upperDigit (c : Char) : Char :=
  if 'a' ≤ c ∧ c ≤ 'f' then Char.ofNat (c.toNat - 32) else c

def encodeUpper (bytes : Bytes) : String :=
  String.ofList ((chars bytes).map upperDigit)

def bytes? : List Char → Option Bytes
  | [] => some []
  | [_] => none
  | high :: low :: rest =>
    match digit? high, digit? low, bytes? rest with
    | some h, some l, some tail => some (UInt8.ofNat (h * 16 + l) :: tail)
    | _, _, _ => none

/-- The bytes of a hexadecimal text, or none if it is no such text. -/
def decode? (text : String) : Option Bytes :=
  bytes? text.toList

/-- A number in lower-case hexadecimal, padded with zeros to at least `width` digits. -/
def padded (width n : Nat) : List Char :=
  let digits := Nat.toDigits 16 n
  List.replicate (width - digits.length) '0' ++ digits

end Hex

end SeedNode

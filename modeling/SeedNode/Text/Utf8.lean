import SeedNode.Text.Hex

/-!
# UTF-8

Characters as one to four bytes. Decoding either succeeds or names the first ill-formed stretch:
where it starts, how far it reaches and what is wrong with it. The stretch is the longest prefix
of a well-formed sequence that stands there, or a single byte that can start none, so replacing
each stretch by one substitute character gives the recommended lossy reading.
-/

namespace SeedNode.Utf8

/-- What makes a stretch of bytes ill-formed. -/
inductive Reason where
  | startByte
  | continuation
  | truncated
  deriving Repr, DecidableEq

/-- The first ill-formed stretch of a byte sequence. -/
structure Malformed where
  /-- The offset of its first byte. -/
  start : Nat
  width : Nat
  /-- Its first byte. -/
  lead : UInt8
  reason : Reason
  deriving Repr, DecidableEq

def Reason.message : Reason → String
  | .startByte => "invalid start byte"
  | .continuation => "invalid continuation byte"
  | .truncated => "unexpected end of data"

/-- The wording of a failed decoding: one bad byte is shown, several are given by their range. -/
def Malformed.message (m : Malformed) : String :=
  let bytes :=
    if m.width = 1 then
      let shown := String.ofList (Hex.padded 2 m.lead.toNat)
      s!"byte 0x{shown} in position {m.start}"
    else s!"bytes in position {m.start}-{m.start + m.width - 1}"
  s!"'utf-8' codec can't decode {bytes}: {m.reason.message}"

/-! ## Encoding -/

def encodeChar (c : Char) : Bytes :=
  let n := c.toNat
  if n < 0x80 then [UInt8.ofNat n]
  else if n < 0x800 then [UInt8.ofNat (0xC0 + n / 64), UInt8.ofNat (0x80 + n % 64)]
  else if n < 0x10000 then
    [UInt8.ofNat (0xE0 + n / 4096), UInt8.ofNat (0x80 + n / 64 % 64), UInt8.ofNat (0x80 + n % 64)]
  else
    [UInt8.ofNat (0xF0 + n / 262144), UInt8.ofNat (0x80 + n / 4096 % 64),
      UInt8.ofNat (0x80 + n / 64 % 64), UInt8.ofNat (0x80 + n % 64)]

def encodeChars : List Char → Bytes
  | [] => []
  | c :: rest => encodeChar c ++ encodeChars rest

def encode (text : String) : Bytes :=
  encodeChars text.toList

def width (c : Char) : Nat :=
  (encodeChar c).length

def size (text : String) : Nat :=
  (encode text).length

/-! ## Decoding -/

/-- What stands at the front of a byte sequence after its first byte `b`: a character that takes
`extra` further bytes, or an ill-formed stretch of `extra` further bytes. -/
inductive Front where
  | char (c : Char) (extra : Nat)
  | bad (reason : Reason) (extra : Nat)
  deriving Repr, DecidableEq

/-- Whether a byte lies between two bounds, both included. -/
def within (low high : Nat) (b : UInt8) : Bool :=
  low ≤ b.toNat && b.toNat ≤ high

/-- Reads the continuation bytes of a character. `value` is what the bytes so far contribute,
`extra` how many of them followed the first; `bounds` limits each byte still owed. -/
def continuing (value extra : Nat) : List (Nat × Nat) → Bytes → Front
  | [], _ => .char (Char.ofNat value) extra
  | _ :: _, [] => .bad .truncated extra
  | (low, high) :: bounds, b :: rest =>
    if within low high b then
      continuing (value * 64 + (b.toNat - 0x80)) (extra + 1) bounds rest
    else .bad .continuation extra

/-- What stands at the front of `b :: rest`. The bounds on the second byte rule out overlong
forms, surrogates and values past the last code point. -/
def front (b : UInt8) (rest : Bytes) : Front :=
  let n := b.toNat
  let tail := (0x80, 0xBF)
  if n < 0x80 then .char (Char.ofNat n) 0
  else if n < 0xC2 then .bad .startByte 0
  else if n < 0xE0 then continuing (n - 0xC0) 0 [tail] rest
  else if n = 0xE0 then continuing (n - 0xE0) 0 [(0xA0, 0xBF), tail] rest
  else if n = 0xED then continuing (n - 0xE0) 0 [(0x80, 0x9F), tail] rest
  else if n < 0xF0 then continuing (n - 0xE0) 0 [tail, tail] rest
  else if n = 0xF0 then continuing (n - 0xF0) 0 [(0x90, 0xBF), tail, tail] rest
  else if n < 0xF4 then continuing (n - 0xF0) 0 [tail, tail, tail] rest
  else if n = 0xF4 then continuing (n - 0xF0) 0 [(0x80, 0x8F), tail, tail] rest
  else .bad .startByte 0

/-- Decodes bytes that stand at offset `start`. -/
def decodeFrom (start : Nat) : Bytes → Except Malformed (List Char)
  | [] => .ok []
  | b :: rest =>
    match front b rest with
    | .char c extra => (decodeFrom (start + 1 + extra) (rest.drop extra)).map (c :: ·)
    | .bad reason extra => .error ⟨start, 1 + extra, b, reason⟩
termination_by bytes => bytes.length
decreasing_by simp only [List.length_cons, List.length_drop]; omega

/-- Decodes bytes to characters, or names the first ill-formed stretch. -/
def decode (bytes : Bytes) : Except Malformed (List Char) :=
  decodeFrom 0 bytes

/-- Decodes bytes, with `substitute` in the place of each ill-formed stretch. -/
def decodeReplacing (substitute : List Char) : Bytes → List Char
  | [] => []
  | b :: rest =>
    match front b rest with
    | .char c extra => c :: decodeReplacing substitute (rest.drop extra)
    | .bad _ extra => substitute ++ decodeReplacing substitute (rest.drop extra)
termination_by bytes => bytes.length
decreasing_by all_goals (simp only [List.length_cons, List.length_drop]; omega)

/-- Decodes bytes, with one replacement character for each ill-formed stretch. -/
def decodeLossy (bytes : Bytes) : List Char :=
  decodeReplacing ['\uFFFD'] bytes

/-- Decodes bytes and passes over the ill-formed stretches. -/
def decodeSkipping (bytes : Bytes) : List Char :=
  decodeReplacing [] bytes

end SeedNode.Utf8

import SeedNode.Config.Port

/-!
# Entries of the seed list

A seed is a node to contact at first, known by its public key, its port and its address. An entry
of the settings file is checked in a fixed order, and the first rule that it breaks is the reason
for which it is skipped.
-/

namespace SeedNode.Seeds

/-- A seed that passed all checks. -/
structure Entry where
  publicKey : String
  port : Int
  address : String
  deriving Repr, DecidableEq

def Entry.publicKeyBytes (e : Entry) : Bytes :=
  (Hex.decode? e.publicKey).getD []

/-- Why an entry is skipped. -/
inductive Reason where
  | notTable
  /-- A setting is not there, or of another kind. -/
  | missing (name : String)
  /-- The public key is not made of two hexadecimal digits for each byte. -/
  | badKey (text : String)
  | badPort (n : Int)
  /-- The engine does not know the address. -/
  | unresolved (address : String)
  deriving Repr, DecidableEq

def Reason.message : Reason → Except TooLong String
  | notTable => .ok "entry is not a table"
  | missing name => .ok s!"Couldn't find '{name}' setting"
  | badKey text => .ok s!"Invalid 'public_key': {text}"
  | badPort n => do return s!"Invalid 'port': {← decimalText n}, should be in {Port.range}"
  | unresolved address => .ok s!"Invalid 'address': {address}"

def stringOf (node : Table) (name : String) : Except Reason String :=
  match node.lookup name with
  | some (.str s) => .ok s
  | _ => .error (.missing name)

def intOf (node : Table) (name : String) : Except Reason Int :=
  match node.lookup name with
  | some (.int n) => .ok n
  | _ => .error (.missing name)

/-- Whether a text writes a public key of a given size: two digits for each byte and no more. -/
def isKey (size : Int) (text : String) : Bool :=
  (text.length : Int) == size * 2 && text.toList.all Hex.isDigit

/-- The seed that a value describes, or the first rule that it breaks. -/
def examine (node : Value) (keySize : Int) : Except Reason Entry := do
  match node with
  | .table settings =>
    let publicKey ← stringOf settings "public_key"
    let port ← intOf settings "port"
    let address ← stringOf settings "address"
    if isKey keySize publicKey = false then throw (.badKey publicKey)
    if Port.isValid port = false then throw (.badPort port)
    return ⟨publicKey, port, address⟩
  | _ => throw .notTable

/-- The outcome of a check: a seed, or the text of the reason against it. -/
inductive Verdict where
  | accepted (e : Entry)
  | skipped (reason : String)
  deriving Repr, DecidableEq

/-- Checks a value. Fails where the reason against it has no text. -/
def validate (node : Value) (keySize : Int) : Except Failure Verdict :=
  match examine node keySize with
  | .ok e => .ok (.accepted e)
  | .error reason => do return .skipped (← liftTooLong reason.message)

end SeedNode.Seeds

import SeedNode.Failure

/-!
# Keypairs

The identity of a node: a public key that its peers know it by and a secret key that goes with it.
The stored form is the public key followed by the secret key, with nothing around them, so the
sizes say where to cut it.
-/

namespace SeedNode

/-- A public key and its secret key. -/
structure Keypair where
  publicKey : Bytes
  secretKey : Bytes
  deriving Repr, DecidableEq

/-- How long keys are. A negative size counts from the end of the material, as the cut between the
keys allows. -/
structure KeySizes where
  publicKey : Int
  secretKey : Int
  deriving Repr, DecidableEq

namespace KeySizes

def standard : KeySizes := ⟨32, 32⟩

/-- The bytes that a process can have at most: its addresses take 47 bits. -/
def addressable : Nat := 0x8000_0000_0000

def total (sizes : KeySizes) : Int :=
  sizes.publicKey + sizes.secretKey

/-- Where material of a given length is cut: that many bytes from the front, or from the end where
the size of the public key is negative, and never outside the material. -/
def cut (sizes : KeySizes) (length : Nat) : Nat :=
  if 0 ≤ sizes.publicKey then min sizes.publicKey.toNat length
  else length - sizes.publicKey.natAbs

end KeySizes

namespace Keypair

/-- The public key as peers write it in their settings. -/
def publicHex (k : Keypair) : String :=
  Hex.encodeUpper k.publicKey

/-- The text of a keypair in messages. The secret key is left out. -/
def shown (k : Keypair) : String :=
  s!"Keypair(public_key={k.publicHex})"

def toBytes (k : Keypair) : Bytes :=
  k.publicKey ++ k.secretKey

def ofBytes (data : Bytes) (sizes : KeySizes) : Except Fault Keypair :=
  if (data.length : Int) ≠ sizes.total then .error (.keyMaterial sizes.total data.length)
  else
    let middle := sizes.cut data.length
    .ok ⟨data.take middle, data.drop middle⟩

/-- Whether the keys are as long as the sizes ask. A process has no keys that it cannot address, so
sizes beyond that fit none. -/
def fits (k : Keypair) (sizes : KeySizes) : Bool :=
  (k.publicKey.length : Int) == sizes.publicKey && (k.secretKey.length : Int) == sizes.secretKey
    && sizes.total < KeySizes.addressable

end Keypair

end SeedNode

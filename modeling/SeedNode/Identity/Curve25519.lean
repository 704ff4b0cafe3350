import SeedNode.Identity.Keypair

/-!
# Curve25519

The public key of a secret key is the base point of the curve `y² = x³ + 486662 x² + x` multiplied
by a number made from the secret key, over the integers modulo `2 ^ 255 - 19`. Only first
coordinates are needed; each stands as a fraction `x / z`, and the ladder keeps the coordinates of
two neighbouring multiples, doubling one and adding both at every bit.
-/

namespace SeedNode.Curve25519

def modulus : Nat := Nat.pow 2 255 - 19

def sub (a b : Nat) : Nat :=
  (a + (modulus - b % modulus)) % modulus

/-- A power of a residue, by squaring. `fuel` bounds the binary length of the exponent. -/
def power : Nat → Nat → Nat → Nat
  | 0, _, _ => 1
  | fuel + 1, base, e =>
    if e = 0 then 1
    else
      let half := power fuel (base * base % modulus) (e / 2)
      if e % 2 = 1 then half * base % modulus else half

/-- The inverse of a residue; zero for zero. -/
def inverse (a : Nat) : Nat :=
  power 256 a (modulus - 2)

/-- A first coordinate as a fraction. -/
structure Point where
  x : Nat
  z : Nat
  deriving Repr, DecidableEq

/-- The double of `p` and the sum of `p` and `q`, whose difference has the first coordinate
`base`. -/
def step (base : Nat) (p q : Point) : Point × Point :=
  let a := (p.x + p.z) % modulus
  let b := sub p.x p.z
  let aa := a * a % modulus
  let bb := b * b % modulus
  let e := sub aa bb
  let da := sub q.x q.z * a % modulus
  let cb := (q.x + q.z) % modulus * b % modulus
  let sum := (da + cb) % modulus
  let difference := sub da cb
  (⟨aa * bb % modulus, e * ((aa + 121665 * e) % modulus) % modulus⟩,
    ⟨sum * sum % modulus, base * (difference * difference % modulus) % modulus⟩)

/-- The multiples `k` and `k + 1` of a point, `k` being the number whose bits are given, the lowest
of them first. -/
def ladder (base : Nat) : List Bool → Point × Point
  | [] => (⟨1, 0⟩, ⟨base, 1⟩)
  | bit :: higher =>
    let (p, q) := ladder base higher
    if bit then
      let (doubled, sum) := step base q p
      (sum, doubled)
    else step base p q

/-- A number from its bytes, the lowest first. -/
def ofLittleEndian : Bytes → Nat
  | [] => 0
  | b :: rest => b.toNat + 256 * ofLittleEndian rest

/-- The lowest `count` bytes of a number, the lowest first. -/
def toLittleEndian : Nat → Nat → Bytes
  | 0, _ => []
  | count + 1, n => UInt8.ofNat (n % 256) :: toLittleEndian count (n / 256)

/-- The number that a secret key multiplies by: a multiple of eight, with its top bit set. -/
def scalar (secret : Bytes) : Nat :=
  let n := ofLittleEndian secret % Nat.pow 2 254
  n - n % 8 + Nat.pow 2 254

def publicKey (secret : Bytes) : Bytes :=
  let k := scalar secret
  let (p, _) := ladder 9 ((List.range 255).map k.testBit)
  toLittleEndian 32 (p.x * inverse p.z % modulus)

/-- The keypair of a secret key, which is kept as it is. -/
def keypair (secret : Bytes) : Keypair :=
  ⟨publicKey secret, secret⟩

end SeedNode.Curve25519

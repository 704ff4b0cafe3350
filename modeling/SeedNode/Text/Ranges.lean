/-!
# Sets of characters

A set of characters is kept as the ranges of its code points. The ranges ascend, so a search can
stop at the first one that begins beyond the character.
-/

namespace SeedNode

/-- A set of characters, as closed ranges of code points that ascend and do not meet. -/
abbrev Ranges := List (Nat × Nat)

namespace Ranges

def holds : Ranges → Nat → Bool
  | [], _ => false
  | (first, last) :: rest, n => if n < first then false else n ≤ last || holds rest n

def contains (r : Ranges) (c : Char) : Bool :=
  r.holds c.toNat

end Ranges

end SeedNode

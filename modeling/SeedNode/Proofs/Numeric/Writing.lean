import SeedNode.Value

/-!
# Integers that can be written

An integer has a decimal text up to a limit on its digits. Binary numbers are far below it: where
one is integral, the integer that it counts as can always be written.
-/

namespace SeedNode

/-! ## Integers -/

/-- The integer has a decimal text. -/
def Writable (n : Int) : Prop :=
  n.natAbs < Nat.pow 10 maxDigits

theorem decimalText_of_writable {n : Int} (h : Writable n) : decimalText n = .ok (toString n) :=
  if_pos h

theorem decimalText_of_not_writable {n : Int} (h : ¬Writable n) :
    decimalText n = .error ⟨none⟩ :=
  if_neg h

theorem writable_of_natAbs_lt {n : Int} {digits : Nat} (hdigits : digits ≤ maxDigits)
    (h : n.natAbs < Nat.pow 10 digits) : Writable n := by
  rw [Nat.pow_eq] at h
  rw [Writable, Nat.pow_eq]
  exact Nat.lt_of_lt_of_le h (Nat.pow_le_pow_right (by decide) hdigits)

theorem pow_ten_lt_pow_sixteen {k : Nat} (hk : k ≠ 0) :
    Nat.pow 10 (43 * k) < Nat.pow 16 (36 * k) := by
  have hbase : Nat.pow 10 43 < Nat.pow 16 36 := by decide
  rw [Nat.pow_eq, Nat.pow_eq] at hbase
  rw [Nat.pow_eq, Nat.pow_eq, Nat.pow_mul, Nat.pow_mul]
  exact Nat.pow_lt_pow_left hbase hk

/-- In base sixteen, 3600 digits are enough for an integer that cannot be written. -/
theorem not_writable_of_digits {k : Nat} (hk : 100 ≤ k) :
    ¬Writable (Nat.pow 16 (36 * k) - 1) := by
  have hless := pow_ten_lt_pow_sixteen (show k ≠ 0 by omega)
  have hlimit : Nat.pow 10 maxDigits ≤ Nat.pow 10 (43 * k) := by
    rw [Nat.pow_eq, Nat.pow_eq]
    exact Nat.pow_le_pow_right (by decide) (by rw [maxDigits]; omega)
  rw [Writable]
  omega

/-! ## Binary numbers -/

namespace Binary

theorem mul_lt_pow {a b : Nat} (i j : Nat) (ha : a < Nat.pow 2 i) (hb : b ≤ Nat.pow 2 j) :
    a * b < Nat.pow 2 (i + j) := by
  rw [Nat.pow_eq] at ha hb
  rw [Nat.pow_eq, Nat.pow_add]
  exact Nat.mul_lt_mul_of_lt_of_le ha hb (Nat.two_pow_pos j)

theorem twoTo_le {k : Int} (limit : Nat) (h : k ≤ limit) : twoTo k ≤ Nat.pow 2 limit :=
  Nat.pow_le_pow_right (by decide) (by omega)

theorem mantissa_ofBits (bits : UInt64) : (ofBits bits).mantissa < Nat.pow 2 53 := by
  have hfraction : (bits &&& 0xFFFFFFFFFFFFF).toNat ≤ 0xFFFFFFFFFFFFF := by
    rw [UInt64.toNat_and]
    exact Nat.and_le_right
  rw [ofBits]
  split
  · exact Nat.lt_of_le_of_lt hfraction (by decide)
  · exact Nat.lt_of_le_of_lt (Nat.add_le_add_left hfraction (twoTo 52)) (by decide)

theorem exponent_ofBits (bits : UInt64) : (ofBits bits).exponent ≤ 972 := by
  have hbiased : (bits >>> 52 &&& 0x7FF).toNat ≤ 0x7FF := by
    rw [UInt64.toNat_and]
    exact Nat.and_le_right
  rw [ofBits]
  split
  · simp
  · dsimp only
    omega

/-- All binary numbers lie below a power of two. -/
theorem floor_ofBits (bits : UInt64) : (ofBits bits).floor < Nat.pow 2 (53 + 972) := by
  have hscale := twoTo_le 972 (exponent_ofBits bits)
  have hproduct := mul_lt_pow 53 972 (mantissa_ofBits bits) hscale
  rw [floor]
  exact Nat.lt_of_le_of_lt (Nat.div_le_self _ _) hproduct

end Binary

theorem writable_of_float {x : Float} {n : Int} (h : (Value.float x).integer? = some n) :
    Writable n := by
  have hsize : n.natAbs = (Binary.ofBits x.toBits).floor := by
    rw [Value.integer?] at h
    split at h
    · split at h <;> simp [← Option.some.inj h]
    · cases h
  have hten : ∀ {k : Nat}, n.natAbs < Nat.pow 2 k → n.natAbs < Nat.pow 10 k := fun {k} h =>
    Nat.lt_of_lt_of_le h (Nat.pow_le_pow_left (by decide) k)
  have hfloor := Binary.floor_ofBits x.toBits
  rw [← hsize] at hfloor
  exact writable_of_natAbs_lt (by decide) (hten hfloor)

end SeedNode

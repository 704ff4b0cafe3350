import Mathlib.Algebra.Order.Field.Power
import Mathlib.Algebra.Order.Field.Rat
import Mathlib.Data.Rat.Cast.Order
import SeedNode.Proofs.Numeric.Writing

/-!
# Binary numbers that are integers

A binary number of the settings counts as an integer where it stands for one. That is decided on its
bits, by a mantissa and an exponent. The number it stands for is a rational number, read off the
format in which the library models binary numbers (`rational?`), and the two agree: a binary number
counts as an integer just where it stands for that integer (`integer?_float`). The infinities and
what is no number stand for nothing, and both zeros stand for zero.
-/

namespace SeedNode

open Float.Model (UnpackedFloat)

/-! ## Magnitudes -/

namespace Binary

/-- The number that a magnitude stands for. -/
def toRat (b : Binary) : ℚ :=
  b.mantissa * 2 ^ b.exponent

theorem twoTo_pos (k : Int) : 0 < twoTo k :=
  Nat.two_pow_pos k.toNat

theorem two_zpow (k : Int) : (2 : ℚ) ^ k = twoTo k / twoTo (-k) := by
  rcases Int.le_total 0 k with hk | hk
  · obtain ⟨m, rfl⟩ := Int.eq_ofNat_of_zero_le hk
    simp [twoTo]
  · obtain ⟨m, rfl⟩ : ∃ m : Nat, k = -m := ⟨k.natAbs, by omega⟩
    simp [twoTo]

/-- A magnitude is a natural number just if it is integral, and then it is its floor. -/
theorem toRat_eq_natCast {b : Binary} {k : Nat} :
    b.toRat = k ↔ b.isIntegral = true ∧ b.floor = k := by
  have hcross : b.toRat = k ↔ b.mantissa * twoTo b.exponent = k * twoTo (-b.exponent) := by
    have hpos : (twoTo (-b.exponent) : ℚ) ≠ 0 := Nat.cast_ne_zero.mpr (twoTo_pos _).ne'
    rw [toRat, two_zpow, ← mul_div_assoc, div_eq_iff hpos]
    exact_mod_cast Iff.rfl
  have hintegral : b.isIntegral = true ↔ twoTo (-b.exponent) ∣ b.mantissa * twoTo b.exponent := by
    rw [isIntegral, Bool.or_eq_true, decide_eq_true_eq, beq_iff_eq, ← Nat.dvd_iff_mod_eq_zero]
    rcases Int.le_total 0 b.exponent with hk | hk
    · have hone : twoTo (-b.exponent) = 1 := by simp [twoTo, hk]
      simp [hk, hone]
    · have hone : twoTo b.exponent = 1 := by simp [twoTo, hk]
      rcases eq_or_lt_of_le hk with hzero | hneg
      · simp [hzero, twoTo]
      · simp [hone, Int.not_le.mpr hneg]
  rw [hcross, hintegral, floor]
  constructor
  · intro h
    exact ⟨⟨k, by rw [h, Nat.mul_comm]⟩, by rw [h, Nat.mul_div_cancel _ (twoTo_pos _)]⟩
  · rintro ⟨hdvd, rfl⟩
    exact (Nat.div_mul_cancel hdvd).symm

theorem toRat_nonneg (b : Binary) : 0 ≤ b.toRat := by
  have hpower : (0 : ℚ) ≤ 2 ^ b.exponent := zpow_nonneg (by decide) _
  exact mul_nonneg (Nat.cast_nonneg _) hpower

theorem toRat_eq_intCast {b : Binary} {n : Int} :
    b.toRat = n ↔ b.isIntegral = true ∧ (b.floor : Int) = n := by
  constructor
  · intro h
    have hn : 0 ≤ n := by exact_mod_cast h ▸ b.toRat_nonneg
    obtain ⟨k, rfl⟩ := Int.eq_ofNat_of_zero_le hn
    obtain ⟨hintegral, hfloor⟩ := toRat_eq_natCast.mp (h.trans (Int.cast_natCast k))
    exact ⟨hintegral, congrArg Nat.cast hfloor⟩
  · rintro ⟨hintegral, rfl⟩
    rw [Int.cast_natCast]
    exact toRat_eq_natCast.mpr ⟨hintegral, rfl⟩

end Binary

/-! ## Bits -/

/-- The number that a binary number stands for. The infinities, and what is no number, stand for
none. -/
def rational? (x : Float) : Option ℚ :=
  match x.toModel.unpack with
  | .zero _ => some 0
  | .finite sign mantissa exponent _ => some (sign.apply mantissa * 2 ^ exponent)
  | .infinity _ | .notANumber => none

theorem exponent_toNat (bits : UInt64) :
    (@UnpackedFloat.unpackExponent .binary64 bits.toBitVec).toNat
      = (bits >>> 52 &&& 0x7FF).toNat := by
  simpa [UnpackedFloat.unpackExponent] using (Nat.and_two_pow_sub_one_eq_mod _ 11).symm

theorem mantissa_toNat (bits : UInt64) :
    (@UnpackedFloat.unpackMantissa .binary64 bits.toBitVec).toNat
      = (bits &&& 0xFFFFFFFFFFFFF).toNat := by
  simpa [UnpackedFloat.unpackMantissa] using (Nat.and_two_pow_sub_one_eq_mod _ 52).symm

theorem sign_eq (bits : UInt64) :
    UnpackedFloat.Sign.ofBitVec (@UnpackedFloat.unpackSign .binary64 bits.toBitVec)
      = if (bits >>> 63 == 1) = true then .negative else .positive := by
  have hbits : bits.toNat < 2 ^ 64 := bits.toNat_lt
  have hread : @UnpackedFloat.unpackSign .binary64 bits.toBitVec
      = bits.toBitVec.extractLsb 63 63 := rfl
  have hsign : (@UnpackedFloat.unpackSign .binary64 bits.toBitVec).toNat
      = bits.toNat / 2 ^ 63 % 2 := by
    simp [hread, Nat.shiftRight_eq_div_pow]
  have hshift : (bits >>> 63).toNat = bits.toNat / 2 ^ 63 := by
    simp [Nat.shiftRight_eq_div_pow]
  have htop : @UnpackedFloat.unpackSign .binary64 bits.toBitVec = 0#1 ↔ ¬bits >>> 63 = 1 := by
    rw [BitVec.toNat_eq, ← UInt64.toNat_inj, hsign, hshift, BitVec.toNat_ofNat, UInt64.toNat_one]
    omega
  simp only [UnpackedFloat.Sign.ofBitVec, htop, beq_iff_eq, ite_not]

theorem eq_finite {u : UnpackedFloat} {sign : UnpackedFloat.Sign} {m m' : Nat} {e e' : Int}
    {h : 0 < m} (hu : u = .finite sign m e h) (hm : m = m') (he : e = e') :
    ∃ h', u = .finite sign m' e' h' := by
  subst hm he
  exact ⟨h, hu⟩

/-- Unpacked bits have a value just where they are no infinity and no mark that there is no number,
and then they agree with the magnitude. -/
theorem unpack_cases (bits : UInt64) :
    (UnpackedFloat.unpack .binary64 bits.toBitVec).isFinite = false
      ∨ (∃ sign, UnpackedFloat.unpack .binary64 bits.toBitVec = .zero sign)
        ∧ (Binary.ofBits bits).mantissa = 0
      ∨ ∃ h, UnpackedFloat.unpack .binary64 bits.toBitVec
        = .finite (if (bits >>> 63 == 1) = true then .negative else .positive)
          (Binary.ofBits bits).mantissa (Binary.ofBits bits).exponent h := by
  have hexponent := exponent_toNat bits
  have hmantissa := mantissa_toNat bits
  rw [Binary.ofBits, ← hexponent, ← hmantissa, ← sign_eq]
  have hzero : @UnpackedFloat.unpackExponent .binary64 bits.toBitVec = 0#11
      ↔ (@UnpackedFloat.unpackExponent .binary64 bits.toBitVec).toNat = 0 := by
    rw [BitVec.toNat_eq]
    rfl
  by_cases hinfinite : @UnpackedFloat.unpackExponent .binary64 bits.toBitVec = -1#11
  · have hunpack : UnpackedFloat.unpack .binary64 bits.toBitVec = _ := if_pos hinfinite
    rw [hunpack]
    exact .inl (by split <;> rfl)
  by_cases hsub : @UnpackedFloat.unpackExponent .binary64 bits.toBitVec = 0#11
  · have hunpack : UnpackedFloat.unpack .binary64 bits.toBitVec = _ :=
      (if_neg hinfinite).trans (if_pos hsub)
    rw [if_pos (hzero.mp hsub)]
    by_cases hnone : @UnpackedFloat.unpackMantissa .binary64 bits.toBitVec = 0#52
    · exact .inr (.inl ⟨⟨_, hunpack.trans (dif_pos hnone)⟩, by rw [hnone]; rfl⟩)
    · refine .inr (.inr (eq_finite (hunpack.trans (dif_neg hnone)) rfl ?_))
      rw [hzero.mp hsub]
      rfl
  · have hunpack : UnpackedFloat.unpack .binary64 bits.toBitVec = _ :=
      (if_neg hinfinite).trans (if_neg hsub)
    have hbias : (Float.Model.Format.binary64.exponentBias : Int) + (52 : Nat) = 1075 := by decide
    rw [if_neg fun h => hsub (hzero.mpr h)]
    refine .inr (.inr (eq_finite hunpack ?_ (by rw [hbias])))
    rw [BitVec.toNat_append, ← Nat.shiftLeft_add_eq_or_of_lt (BitVec.isLt _)]
    rfl

/-- What a binary number stands for is its magnitude with its sign, where it is finite. -/
theorem rational?_eq (x : Float) : rational? x = if x.isFinite = true then
    some (if (x.toBits >>> 63 == 1) = true then -(Binary.ofBits x.toBits).toRat
      else (Binary.ofBits x.toBits).toRat) else none := by
  have hunpack : x.toModel.unpack = UnpackedFloat.unpack .binary64 x.toBits.toBitVec := rfl
  have hfinite : x.isFinite = x.toModel.unpack.isFinite := rfl
  rw [rational?, hfinite, hunpack]
  rcases unpack_cases x.toBits with hnone | ⟨⟨sign, hzero⟩, hmantissa⟩ | ⟨h, hsome⟩
  · rw [hnone]
    cases hcase : UnpackedFloat.unpack .binary64 x.toBits.toBitVec with
    | infinity _ => rfl
    | notANumber => rfl
    | zero _ | finite _ _ _ _ =>
        rw [hcase] at hnone
        cases hnone
  · have hpresent : (UnpackedFloat.unpack .binary64 x.toBits.toBitVec).isFinite = true := by
      rw [hzero]
      rfl
    rw [if_pos hpresent, hzero, Binary.toRat, hmantissa]
    dsimp only
    simp
  · have hpresent : (UnpackedFloat.unpack .binary64 x.toBits.toBitVec).isFinite = true := by
      rw [hsome]
      rfl
    rw [if_pos hpresent, hsome, Binary.toRat]
    dsimp only
    split <;> simp [UnpackedFloat.Sign.apply]

/-- A binary number counts as an integer just where it stands for it. -/
theorem integer?_float {x : Float} {n : Int} :
    (Value.float x).integer? = some n ↔ rational? x = some (n : ℚ) := by
  rw [Value.integer?, rational?_eq]
  cases x.isFinite with
  | false => simp
  | true =>
      by_cases hsign : (x.toBits >>> 63 == 1) = true
      · have hneg : -(Binary.ofBits x.toBits).toRat = n
            ↔ (Binary.ofBits x.toBits).toRat = (-n : Int) := by
          rw [neg_eq_iff_eq_neg, Int.cast_neg]
        have hfloor : -((Binary.ofBits x.toBits).floor : Int) = n
            ↔ ((Binary.ofBits x.toBits).floor : Int) = -n := neg_eq_iff_eq_neg
        simp only [hsign, if_true, Bool.true_and, Option.some.injEq, hneg, Binary.toRat_eq_intCast,
          Option.ite_none_right_eq_some, hfloor]
      · simp only [hsign, if_true, Bool.true_and, Option.some.injEq, Binary.toRat_eq_intCast,
          Option.ite_none_right_eq_some, Bool.false_eq_true, if_false]

end SeedNode

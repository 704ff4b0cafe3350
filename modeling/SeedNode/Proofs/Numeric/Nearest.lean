import SeedNode.Numeric.Reading
import SeedNode.Proofs.Numeric.Integral
import SeedNode.Proofs.Numeric.Rounding

/-!
# Natural numbers and their thousandths

A natural number is read as the nearest binary number, and from a limit on that is infinity
(`isInf_toFloat`). Below the limit a thousandth of it is a finite positive number, off by no more
than the two roundings on the way to it can make up (`approximates_thousandth`).

A number that was rounded to full length is packed into bits and unpacked again by what is done with
it next. That changes nothing as long as its exponent fits; otherwise infinity comes back.
-/

namespace SeedNode.Rounding

open Float.Model (Format UnpackedFloat totalExponent)
open Float.Model.UnpackedFloat

variable {m n k : Nat} {e e' : Int} {x : Float}

/-! ## Packing -/

theorem toNat_implicit_append (hlow : 2 ^ 52 ≤ m) (hhigh : m < 2 ^ 53) :
    (1#1 ++ BitVec.ofNat 52 m).toNat = m := by
  rw [BitVec.toNat_append, ← Nat.shiftLeft_add_eq_or_of_lt (BitVec.isLt _)]
  simp only [BitVec.toNat_ofNat]
  omega

theorem unpack_pack_of_le (sign : Sign) (hpos : 0 < m) (hnormal : 2 ^ 52 ≤ m ∧ m < 2 ^ 53)
    (hlow : -1074 ≤ e) (hhigh : e ≤ 971) :
    (Float.Model.pack (.finite sign m e hpos)).unpack = .finite sign m e hpos := by
  have hlog : m.log2 + 1 = 53 := by rw [log2_eq hnormal.1 hnormal.2]
  have hroom : (e + 1023 + 52).toNat + 1 < 2 ^ 11 := by omega
  have hpacked : pack .binary64 (.finite sign m e hpos) = packComponents .binary64 sign
      (BitVec.ofNat 11 (e + 1023 + 52).toNat) (BitVec.ofNat 52 m) :=
    (if_neg (Nat.not_le.mpr hroom)).trans (if_pos hlog)
  have hinfinite : BitVec.ofNat 11 (e + 1023 + 52).toNat ≠ -1#11 := by
    simp only [ne_eq, BitVec.toNat_eq, BitVec.toNat_ofNat, BitVec.toNat_neg]
    omega
  have hsub : BitVec.ofNat 11 (e + 1023 + 52).toNat ≠ 0#11 := by
    simp only [ne_eq, BitVec.toNat_eq, BitVec.toNat_ofNat]
    omega
  have hbiased : ((BitVec.ofNat 11 (e + 1023 + 52).toNat).toNat : Int) = e + 1075 := by
    rw [BitVec.toNat_ofNat]
    omega
  have hbias : (Format.binary64.exponentBias : Int) + (52 : Nat) = 1075 := by decide
  change unpack .binary64 (pack .binary64 (.finite sign m e hpos)) = _
  rw [hpacked, unpack]
  simp only [unpackMantissa_packComponents, unpackExponent_packComponents,
    unpackSign_packComponents, Sign.ofBitVec_toBitVec]
  rw [if_neg hinfinite, if_neg hsub]
  congr 1
  · exact toNat_implicit_append hnormal.1 hnormal.2
  · rw [hbiased, hbias]
    omega

theorem unpack_pack_of_gt (sign : Sign) (hpos : 0 < m) (hhigh : 971 < e) :
    (Float.Model.pack (.finite sign m e hpos)).unpack = .infinity sign := by
  have hroom : 2 ^ 11 ≤ (e + 1023 + 52).toNat + 1 := by omega
  have hpacked : pack .binary64 (.finite sign m e hpos) = packedInfinity .binary64 sign :=
    if_pos hroom
  change unpack .binary64 (pack .binary64 (.finite sign m e hpos)) = _
  rw [hpacked]
  cases sign <;> rfl

/-- The bits of a number are packed from a positive mantissa and an exponent. -/
def Packed (x : Float) (m : Nat) (e : Int) : Prop :=
  ∃ hpos, x.toModel = Float.Model.pack (.finite .positive m e hpos)

/-- The bits of a number are unpacked to a positive mantissa and an exponent. -/
def Unpacked (x : Float) (m : Nat) (e : Int) : Prop :=
  ∃ hpos, x.toModel.unpack = .finite .positive m e hpos

theorem Packed.unpacked (h : Packed x m e) (hnormal : 2 ^ 52 ≤ m ∧ m < 2 ^ 53) (hlow : -1074 ≤ e)
    (hhigh : e ≤ 971) : Unpacked x m e := by
  obtain ⟨hpos, hx⟩ := h
  exact ⟨hpos, hx ▸ unpack_pack_of_le .positive hpos hnormal hlow hhigh⟩

theorem Packed.infinite (h : Packed x m e) (hhigh : 971 < e) :
    x.toModel.unpack = .infinity .positive := by
  obtain ⟨hpos, hx⟩ := h
  exact hx ▸ unpack_pack_of_gt .positive hpos hhigh

theorem Unpacked.isFinite (h : Unpacked x m e) : x.isFinite = true := by
  obtain ⟨hpos, hx⟩ := h
  change x.toModel.unpack.isFinite = true
  rw [hx]
  rfl

theorem Unpacked.isInf (h : Unpacked x m e) : x.isInf = false := by
  obtain ⟨hpos, hx⟩ := h
  change x.toModel.unpack.isInf = false
  rw [hx]
  rfl

theorem Unpacked.pos (h : Unpacked x m e) : 0.0 < x := by
  obtain ⟨hpos, hx⟩ := h
  have hzero : (0.0 : Float).toModel.unpack = .zero .positive := rfl
  have hlt : UnpackedFloat.lt (0.0 : Float).toModel.unpack x.toModel.unpack = true := by
    rw [hzero, hx]
    rfl
  exact decide_eq_true hlt

theorem Unpacked.rational? (h : Unpacked x m e) : rational? x = some (m * (2 : ℚ) ^ e) := by
  obtain ⟨hpos, hx⟩ := h
  rw [SeedNode.rational?, hx]
  rfl

/-! ## Natural numbers -/

theorem log2_shiftLeft (hn : n ≠ 0) (k : Nat) : (n <<< k).log2 = n.log2 + k := by
  obtain ⟨hlow, hhigh⟩ := (Nat.log2_eq_iff hn).mp rfl
  rw [Nat.shiftLeft_eq]
  refine log2_eq ?_ ?_
  · rw [pow_add]
    exact Nat.mul_le_mul_right _ hlow
  · rw [Nat.add_right_comm, pow_add]
    exact Nat.mul_lt_mul_of_pos_right hhigh (Nat.two_pow_pos k)

theorem shiftLeft_normal (hn : 0 < n) (hk : n.log2 + k = 52) :
    2 ^ 52 ≤ n <<< k ∧ n <<< k < 2 ^ 53 := by
  have hscaled : n <<< k ≠ 0 := by
    rw [Nat.shiftLeft_eq]
    exact (Nat.mul_pos hn (Nat.two_pow_pos _)).ne'
  exact (Nat.log2_eq_iff hscaled).mp ((log2_shiftLeft hn.ne' k).trans hk)

theorem shiftLeft_scaled (n k : Nat) : ((n <<< k : Nat) : ℚ) * 2 ^ (-k : Int) = n := by
  rw [Nat.shiftLeft_eq, zpow_neg, zpow_natCast]
  push_cast
  field_simp

/-- A mantissa of full length is left as it is. -/
theorem roundWithAccuracy_normal (sign : Sign) (hnormal : 2 ^ 52 ≤ m ∧ m < 2 ^ 53)
    (he : -1074 ≤ e) :
    ∃ hpos, roundWithAccuracy .binary64 sign m e .exact = .finite sign m e hpos := by
  rw [roundWithAccuracy, shifted_normal hnormal.1 hnormal.2 he]
  simp only [rounded_exact, shifted_normal hnormal.1 hnormal.2 he]
  exact ⟨by omega, dif_neg (by omega)⟩

/-- What is packed from a rounding has the bits of the rounded number. -/
theorem packed_of_rounded {s : Nat} {q : ℚ} {accuracy : Accuracy}
    (hread : x.toModel = Float.Model.pack (roundWithAccuracy .binary64 .positive m e accuracy))
    (hq : Stands (ExtendedMantissa.ofMantissaAndAccuracy m accuracy) q) (hlog : m.log2 = 52 + s)
    (he : -1074 ≤ e + s) : ∃ m' e', Packed x m' e' ∧ RoundsTo (q * 2 ^ e) (e + s) m' e' := by
  obtain ⟨m', e', hpos, hround, hrounds⟩ := roundWithAccuracy_rounds .positive hq hlog he
  exact ⟨m', e', ⟨hpos, hread.trans (congrArg _ hround)⟩, hrounds⟩

/-- A natural number of no more than full length is scaled to full length, with nothing lost. -/
theorem unpacked_ofNat (hn : 0 < n) (hk : n.log2 + k = 52) :
    Unpacked n.toUInt64.toFloat (n <<< k) (-k) := by
  have hsmall : n < 2 ^ 53 := (Nat.log2_lt hn.ne').mp (by omega)
  have hnat : n.toUInt64.toNat = n := by
    rw [Nat.toUInt64, UInt64.toNat_ofNat']
    omega
  have hread : n.toUInt64.toFloat.toModel
      = Float.Model.pack (UnpackedFloat.round .binary64 .positive n 0) := by
    change Float.Model.pack
      (UnpackedFloat.normalize .binary64 (n.toUInt64.toNat : Int) 0 .positive) = _
    rw [hnat, UnpackedFloat.normalize, Int.compare_eq_gt.mpr (by omega)]
    rfl
  have htarget : Format.binary64.targetExponent (totalExponent n 0) = -k := by
    simp only [Format.targetExponent, totalExponent, Format.mantissaBits, Format.minExponent]
    norm_num
    omega
  have hnormal := shiftLeft_normal hn hk
  obtain ⟨hpos, hround⟩ := roundWithAccuracy_normal .positive (e := -k) hnormal (by omega)
  refine ⟨hpos, ?_⟩
  rw [hread, UnpackedFloat.round, htarget, decreaseExponent]
  simp only [zero_sub, neg_neg, Int.toNat_natCast]
  rw [hround]
  exact unpack_pack_of_le .positive hpos hnormal (by omega) (by omega)

/-- A short natural number is scaled to full length, and then multiplied by one. -/
theorem ofScientific_rounds_short (hn : 0 < n) (hshort : n < 2 ^ 53) :
    ∃ m e, Packed (Float.ofScientific n false 0) m e ∧ RoundsTo n (n.log2 - 52) m e := by
  obtain ⟨k, hk⟩ : ∃ k, n.log2 + k = 52 :=
    ⟨52 - n.log2, by have := (Nat.log2_lt hn.ne').mpr hshort; omega⟩
  obtain ⟨hpos, hx⟩ := unpacked_ofNat hn hk
  have hone : Float.exactlyRepresentablePowersOfTen[0].toModel.unpack
      = .finite .positive (2 ^ 52) (-52) (by decide) := rfl
  have hread : (Float.ofScientific n false 0).toModel = Float.Model.pack
      (roundWithAccuracy .binary64 .positive (n <<< k * 2 ^ 52) (-k + -52) .exact) := by
    have hmul : (Float.ofScientific n false 0).toModel
        = Float.Model.pack (mul .binary64 n.toUInt64.toFloat.toModel.unpack
            Float.exactlyRepresentablePowersOfTen[0].toModel.unpack) := by
      rw [Float.ofScientific, dif_pos ⟨hshort, by decide⟩]
      rfl
    rw [hmul, hx, hone]
    rfl
  have hlog : (n <<< k * 2 ^ 52).log2 = 52 + 52 := by
    have hnormal := shiftLeft_normal hn hk
    rw [← Nat.shiftLeft_eq, log2_shiftLeft (by omega), log2_eq hnormal.1 hnormal.2]
  have hvalue : ((n <<< k * 2 ^ 52 : Nat) : ℚ) * 2 ^ (-k + -52 : Int) = n := by
    rw [zpow_add₀ (by norm_num), Nat.cast_mul, mul_mul_mul_comm, shiftLeft_scaled]
    norm_num
  have hexponent : (-k + -52 + (52 : Nat) : Int) = n.log2 - 52 := by omega
  exact hvalue ▸ hexponent ▸ packed_of_rounded hread (.exact _) hlog (by omega)

/-- A long natural number is rounded from what it is with room for all its digits. -/
theorem ofScientific_rounds_long (hn : 0 < n) (hlong : 2 ^ 53 ≤ n) :
    ∃ m e, Packed (Float.ofScientific n false 0) m e ∧ RoundsTo n (n.log2 - 52) m e := by
  have hread : (Float.ofScientific n false 0).toModel = Float.Model.pack
      (roundWithAccuracy .binary64 .positive (n <<< 53) (-53) .exact) := by
    have hscaled : (Float.ofScientific n false 0).toModel = Float.Model.pack
        (roundWithAccuracy .binary64 .positive (n <<< 53 * 10 ^ 0) (-53 + 0) .exact) := by
      have hrange : ¬(0 : Int) < -((2 ^ 11 : Int) + n.log2) := by omega
      rw [Float.ofScientific, dif_neg (by omega)]
      change Float.Model.pack (ofScientific .binary64 n 0) = _
      rw [ofScientific, dif_neg hn.ne', if_neg (by decide), if_neg hrange, if_pos (by decide)]
      rfl
    rw [hscaled, pow_zero, mul_one, add_zero]
  have hlog : (n <<< 53).log2 = 52 + (n.log2 + 1) := by
    rw [log2_shiftLeft hn.ne']
    omega
  have hvalue : ((n <<< 53 : Nat) : ℚ) * 2 ^ (-53 : Int) = n := shiftLeft_scaled n 53
  have hexponent : (-53 + (n.log2 + 1 : Nat) : Int) = n.log2 - 52 := by omega
  exact hvalue ▸ hexponent ▸ packed_of_rounded hread (.exact _) hlog (by omega)

/-- A natural number is rounded once, to the nearest. -/
theorem ofScientific_rounds (hn : 0 < n) :
    ∃ m e, Packed (Float.ofScientific n false 0) m e ∧ RoundsTo n (n.log2 - 52) m e :=
  (Nat.lt_or_ge n (2 ^ 53)).elim (ofScientific_rounds_short hn) (ofScientific_rounds_long hn)

/-! ## Quotients -/

/-- A quotient with the comparison of its remainder to half the divisor stands for the fraction. -/
theorem stands_fraction (n : Nat) {d : Nat} (hd : 0 < d) :
    Stands (ExtendedMantissa.ofMantissaAndAccuracy (n / d) (accuracyOfFraction (n % d) d))
      ((n : ℚ) / d) := by
  have hd' : (0 : ℚ) < d := Nat.cast_pos.mpr hd
  have hsplit : (n : ℚ) / d = (n / d : Nat) + (n % d : Nat) / d := by
    rw [eq_comm, ← mul_left_inj' hd'.ne', add_mul, div_mul_cancel₀ _ hd'.ne',
      div_mul_cancel₀ _ hd'.ne']
    exact_mod_cast Nat.div_add_mod' n d
  have hrest : n % d < d := Nat.mod_lt n hd
  rw [hsplit]
  generalize n / d = q
  generalize n % d = r at hrest
  have hbelow : (r : ℚ) / d < 1 := (div_lt_one₀ hd').mpr (Nat.cast_lt.mpr hrest)
  rw [accuracyOfFraction]
  by_cases hr : r = 0
  · rw [if_pos hr, hr]
    simpa [ExtendedMantissa.ofMantissaAndAccuracy] using Stands.exact q
  · have hpositive : (0 : ℚ) < r / d := div_pos (Nat.cast_pos.mpr (Nat.pos_of_ne_zero hr)) hd'
    rw [if_neg hr]
    rcases lt_trichotomy (2 * r) d with hlt | heq | hgt
    · have hhalf : (r : ℚ) / d < 1 / 2 := by
        rw [div_lt_div_iff₀ hd' (by norm_num)]
        exact_mod_cast (by omega : r * 2 < 1 * d)
      rw [Nat.compare_eq_lt.mpr hlt]
      exact .below (by linarith) (by linarith)
    · have hhalf : (r : ℚ) / d = 1 / 2 := by
        rw [div_eq_div_iff hd'.ne' (by norm_num)]
        exact_mod_cast (by omega : r * 2 = 1 * d)
      rw [Nat.compare_eq_eq.mpr heq, hhalf]
      exact .middle q
    · have hhalf : 1 / 2 < (r : ℚ) / d := by
        rw [div_lt_div_iff₀ (by norm_num) hd']
        exact_mod_cast (by omega : 1 * d < r * 2)
      rw [Nat.compare_eq_gt.mpr hgt]
      exact .above (by linarith) (by linarith)

theorem divCore_thousand (hnormal : 2 ^ 52 ≤ m ∧ m < 2 ^ 53) (he : -1064 ≤ e) :
    divCore .binary64 m e (1000 * 2 ^ 43) (-43)
      = (m <<< 53 / (1000 * 2 ^ 43), e - 10,
        accuracyOfFraction (m <<< 53 % (1000 * 2 ^ 43)) (1000 * 2 ^ 43)) := by
  have hlog : (1000 * 2 ^ 43).log2 = 52 := log2_eq (by decide) (by decide)
  have htarget : min (e - -43) (Format.binary64.targetExponent
      (totalExponent m e - totalExponent (1000 * 2 ^ 43) (-43))) = e - 10 := by
    simp only [Format.targetExponent, totalExponent, hlog, log2_eq hnormal.1 hnormal.2,
      Format.mantissaBits, Format.minExponent]
    norm_num
    omega
  have hshift : (e - -43 - (e - 10)).toNat = 53 := by omega
  simp only [divCore, htarget, hshift]

theorem thousandth_value : ((m <<< 53 : Nat) : ℚ) / (1000 * 2 ^ 43 : Nat) * 2 ^ (e - 10)
    = m * 2 ^ e / 1000 := by
  rw [Nat.shiftLeft_eq, zpow_sub₀ (by norm_num)]
  push_cast
  ring

/-- A thousandth of a mantissa of full length keeps that length or has one bit more. -/
theorem thousandth_log2 (hnormal : 2 ^ 52 ≤ m ∧ m < 2 ^ 53) :
    ∃ s, s < 2 ∧ (m <<< 53 / (1000 * 2 ^ 43)).log2 = 52 + s := by
  rw [Nat.shiftLeft_eq]
  rcases Nat.lt_or_ge (m * 2 ^ 53 / (1000 * 2 ^ 43)) (2 ^ 53) with hlt | hge
  · exact ⟨0, by decide, log2_eq (by omega) hlt⟩
  · exact ⟨1, by decide, log2_eq hge (by omega)⟩

theorem thousandth_rounds (hx : Unpacked x m e) (hnormal : 2 ^ 52 ≤ m ∧ m < 2 ^ 53)
    (he : -1064 ≤ e) :
    ∃ (m' : Nat) (e' : Int) (s : Nat), Packed (x / 1000.0) m' e' ∧ s < 2
      ∧ RoundsTo (m * 2 ^ e / 1000) (e - 10 + s) m' e' := by
  obtain ⟨hpos, hx⟩ := hx
  have hthousand : (1000.0 : Float).toModel.unpack
      = .finite .positive (1000 * 2 ^ 43) (-43) (by decide) := rfl
  have hread : (x / 1000.0).toModel = Float.Model.pack (roundWithAccuracy .binary64 .positive
      (m <<< 53 / (1000 * 2 ^ 43)) (e - 10)
      (accuracyOfFraction (m <<< 53 % (1000 * 2 ^ 43)) (1000 * 2 ^ 43))) := by
    change Float.Model.pack (div .binary64 x.toModel.unpack (1000.0 : Float).toModel.unpack) = _
    rw [hx, hthousand, div, divCore_thousand hnormal he]
    rfl
  obtain ⟨s, hs, hlog⟩ := thousandth_log2 hnormal
  obtain ⟨m', e', hpacked, hrounds⟩ :=
    packed_of_rounded hread (stands_fraction (m <<< 53) (by decide)) hlog (by omega)
  exact ⟨m', e', s, hpacked, hs, thousandth_value ▸ hrounds⟩

/-! ## Range -/

/-- The least natural number that is nearer to the power of two beyond all finite numbers than to
any of these, or as near. -/
def limit : Nat :=
  (2 ^ 54 - 1) * 2 ^ 970

theorem log2_limit : limit.log2 = 1023 := by
  decide +kernel

theorem digitCount_limit : Decimal.digitCount limit = 309 := by
  decide +kernel

theorem limit_eq : (limit : ℚ) = (2 ^ 53 - 1 / 2) * 2 ^ (971 : Int) := by
  have hpower : (2 : ℚ) ^ (971 : Int) = 2 ^ 970 * 2 := zpow_add_one₀ (by norm_num) 970
  rw [limit, hpower, Nat.cast_mul, Nat.cast_pow]
  generalize ((2 : Nat) : ℚ) ^ 970 = a
  push_cast
  ring

theorem lt_of_log2_lt {a b : Nat} (h : a.log2 < b.log2) : a < b := by
  have hb : b ≠ 0 := by
    rintro rfl
    simp at h
  calc a < 2 ^ (a.log2 + 1) := Nat.lt_log2_self
    _ ≤ 2 ^ b.log2 := Nat.pow_le_pow_right (by decide) h
    _ ≤ b := Nat.log2_self_le hb

theorem lt_of_digitCount_lt {a b : Nat} (h : Decimal.digitCount a < Decimal.digitCount b) :
    a < b := by
  have hcount : 0 < Decimal.digitCount a := Nat.length_toDigits_pos
  have ha := (Nat.length_toDigits_le_iff (by decide) hcount).mp (Nat.le_refl _)
  exact Nat.not_le.mp fun hle => Nat.not_le.mpr h
    ((Nat.length_toDigits_le_iff (by decide) hcount).mpr (Nat.lt_of_le_of_lt hle ha))

theorem RoundsTo.exponent_bounds {v : ℚ} (h : RoundsTo v e m e') : e ≤ e' ∧ e' ≤ e + 1 := by
  rw [h.exponent]
  split <;> omega

theorem RoundsTo.exponent_le_iff (h : RoundsTo n (n.log2 - 52) m e) : e ≤ 971 ↔ n < limit := by
  have hbounds := h.exponent_bounds
  have htop := log2_limit
  rcases lt_trichotomy n.log2 limit.log2 with hlt | heq | hgt
  · exact iff_of_true (by omega) (lt_of_log2_lt hlt)
  · -- in the binade of the limit, the limit is where the next binade is reached
    have hcarries : (2 ^ 53 - 1 / 2) * (2 : ℚ) ^ ((1023 : Nat) - 52 : Int) ≤ n ↔ limit ≤ n := by
      rw [← Nat.cast_le (α := ℚ), limit_eq]
      rfl
    have hexponent := h.exponent
    simp only [heq, htop, hcarries] at hexponent
    rw [hexponent]
    split <;> omega
  · exact iff_of_false (by omega) (Nat.not_lt.mpr (lt_of_log2_lt hgt).le)

theorem RoundsTo.close {v : ℚ} (h : RoundsTo v e m e') : |m * (2 : ℚ) ^ e' - v| ≤ v / 2 ^ 53 := by
  have hscale : (2 : ℚ) ^ e / 2 ≤ v / 2 ^ 53 := by
    have hbinade := h.binade
    norm_num at hbinade ⊢
    linarith
  exact h.error.trans hscale

/-- Only natural numbers beyond the limit are so long that they are not read digit by digit. -/
theorem toFloat_cases (hn : 0 < n) :
    Decimal.toFloat ⟨n, 0⟩ = Float.ofScientific n false 0
      ∨ limit ≤ n ∧ Decimal.toFloat ⟨n, 0⟩ = 1.0 / 0.0 := by
  simp only [Decimal.toFloat, if_neg hn.ne']
  by_cases hlong : 400 < (Decimal.digitCount n : Int) + 0
  · have hlimit : limit < n := lt_of_digitCount_lt (by rw [digitCount_limit]; omega)
    exact .inr ⟨hlimit.le, if_pos hlong⟩
  · rw [if_neg hlong, if_neg (by omega)]
    exact .inl rfl

/-- A natural number is read as infinity just from the limit on. -/
theorem isInf_toFloat (hn : 0 < n) : (Decimal.toFloat ⟨n, 0⟩).isInf = true ↔ limit ≤ n := by
  obtain hread | ⟨hlimit, hread⟩ := toFloat_cases hn
  · obtain ⟨m, e, hpacked, hrounds⟩ := ofScientific_rounds hn
    have hlow := hrounds.exponent_bounds.1
    rw [hread, ← not_lt, ← hrounds.exponent_le_iff]
    rcases lt_or_ge 971 e with hhigh | hhigh
    · refine iff_of_true ?_ (Int.not_le.mpr hhigh)
      change (Float.ofScientific n false 0).toModel.unpack.isInf = true
      rw [hpacked.infinite hhigh]
      rfl
    · have hunpacked := hpacked.unpacked hrounds.normal (by omega) hhigh
      exact iff_of_false (by simp [hunpacked.isInf]) (not_not_intro hhigh)
  · rw [hread]
    exact iff_of_true (by decide +kernel) hlimit

/-- A binary number is finite and positive, and a rational number up to what two roundings may take
from it or add to it. -/
structure Approximates (x : Float) (v : ℚ) : Prop where
  finite : x.isFinite = true
  positive : 0.0 < x
  near : ∃ q, rational? x = some q ∧ |q - v| ≤ v / 2 ^ 51

/-- Below the limit, a thousandth of a natural number is rounded twice. -/
theorem approximates_thousandth (hn : 0 < n) (hlimit : n < limit) :
    Approximates (Decimal.toFloat ⟨n, 0⟩ / 1000.0) (n / 1000) := by
  obtain ⟨m, e, hpacked, hrounds⟩ := ofScientific_rounds hn
  have hhigh := hrounds.exponent_le_iff.mpr hlimit
  have hlow := hrounds.exponent_bounds.1
  obtain ⟨m', e', s, hpacked', hs, hrounds'⟩ := thousandth_rounds
    (hpacked.unpacked hrounds.normal (by omega) hhigh) hrounds.normal (by omega)
  have hbounds := hrounds'.exponent_bounds
  have hunpacked := hpacked'.unpacked hrounds'.normal (by omega) (by omega)
  obtain hread | ⟨hlarge, -⟩ := toFloat_cases hn
  case inr => exact absurd hlarge (Nat.not_le.mpr hlimit)
  rw [hread]
  refine ⟨hunpacked.isFinite, hunpacked.pos, _, hunpacked.rational?, ?_⟩
  have hfirst := abs_le.mp hrounds.close
  have hsecond := abs_le.mp hrounds'.close
  rw [abs_le]
  constructor <;> linarith

end SeedNode.Rounding

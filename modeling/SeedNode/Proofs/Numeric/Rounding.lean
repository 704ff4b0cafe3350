import Mathlib

/-!
# Rounding

The library models binary numbers by natural mantissas and integer exponents, and rounds in steps: a
mantissa is shifted right, with two bits that tell of what was dropped, then moved to the nearest
mantissa, and where that has become too long it is shifted once more. Here the steps are read as
arithmetic of rational numbers. A mantissa with its two bits stands for the numbers they leave
possible (`Stands`), shifting halves these (`Stands.shift`), and what comes out at the end is a
mantissa of full length, within half a unit of the number that went in (`roundWithAccuracy_rounds`).
-/

namespace SeedNode.Rounding

open Float.Model (Format totalExponent)
open Float.Model.UnpackedFloat

/-! ## Residual bits -/

/-- A mantissa and its two bits stand for a number: the mantissa itself, or a number below, in or
above the middle between the mantissa and the next one. -/
inductive Stands : ExtendedMantissa → ℚ → Prop
  | exact (m : Nat) : Stands ⟨m, false, false⟩ m
  | below {m : Nat} {x : ℚ} (low : m < x) (high : x < m + 1 / 2) : Stands ⟨m, false, true⟩ x
  | middle (m : Nat) : Stands ⟨m, true, false⟩ (m + 1 / 2)
  | above {m : Nat} {x : ℚ} (low : m + 1 / 2 < x) (high : x < m + 1) : Stands ⟨m, true, true⟩ x

variable {em : ExtendedMantissa} {x : ℚ}

theorem Stands.floor (h : Stands em x) : (em.mantissa : ℚ) ≤ x ∧ x < em.mantissa + 1 := by
  cases h with
  | exact m | middle m => constructor <;> dsimp only <;> linarith
  | below low high | above low high => constructor <;> dsimp only <;> linarith

theorem shiftRightOne_even (k : Nat) (r s : Bool) :
    (⟨2 * k, r, s⟩ : ExtendedMantissa).shiftRightOne = ⟨k, false, r || s⟩ := by
  simp [ExtendedMantissa.shiftRightOne]

theorem shiftRightOne_odd (k : Nat) (r s : Bool) :
    (⟨2 * k + 1, r, s⟩ : ExtendedMantissa).shiftRightOne = ⟨k, true, r || s⟩ := by
  have hhalf : (2 * k + 1) / 2 = k := by omega
  simp [ExtendedMantissa.shiftRightOne, hhalf]

theorem Stands.half (h : Stands em x) : Stands em.shiftRightOne (x / 2) := by
  obtain ⟨m, r, s⟩ := em
  obtain ⟨k, rfl | rfl⟩ := m.even_or_odd'
  · rw [shiftRightOne_even]
    cases h with
    | exact =>
        have hhalf : ((2 * k : Nat) : ℚ) / 2 = k := by push_cast; ring
        exact hhalf ▸ .exact k
    | middle => exact .below (by push_cast; linarith) (by push_cast; linarith)
    | below low high | above low high =>
        push_cast at low high
        exact .below (by linarith) (by linarith)
  · rw [shiftRightOne_odd]
    cases h with
    | exact =>
        have hhalf : ((2 * k + 1 : Nat) : ℚ) / 2 = k + 1 / 2 := by push_cast; ring
        exact hhalf ▸ .middle k
    | middle => exact .above (by push_cast; linarith) (by push_cast; linarith)
    | below low high | above low high =>
        push_cast at low high
        exact .above (by linarith) (by linarith)

theorem Stands.shift (h : Stands em x) (n : Nat) : Stands (em >>> n) (x / 2 ^ n) := by
  change Stands (n.repeat ExtendedMantissa.shiftRightOne em) _
  induction n with
  | zero => simpa [Nat.repeat] using h
  | succ n ih => simpa [Nat.repeat, pow_succ, div_mul_eq_div_div] using ih.half

/-! ## Rounding to nearest -/

theorem rounded_exact (m : Nat) : (⟨m, false, false⟩ : ExtendedMantissa).roundedMantissa = m := rfl

theorem rounded_below (m : Nat) : (⟨m, false, true⟩ : ExtendedMantissa).roundedMantissa = m := rfl

theorem rounded_middle (m : Nat) :
    (⟨m, true, false⟩ : ExtendedMantissa).roundedMantissa = m + m % 2 := rfl

theorem rounded_above (m : Nat) :
    (⟨m, true, true⟩ : ExtendedMantissa).roundedMantissa = m + 1 := rfl

theorem Stands.error (h : Stands em x) : |(em.roundedMantissa : ℚ) - x| ≤ 1 / 2 := by
  rw [abs_le]
  cases h with
  | exact m => simp [rounded_exact]
  | below low high =>
      rw [rounded_below]
      constructor <;> linarith
  | middle m =>
      have hparity : ((m % 2 : Nat) : ℚ) ≤ 1 := by exact_mod_cast (by omega : m % 2 ≤ 1)
      have hnonneg : (0 : ℚ) ≤ ((m % 2 : Nat) : ℚ) := Nat.cast_nonneg _
      rw [rounded_middle, Nat.cast_add]
      constructor <;> linarith
  | above low high =>
      rw [rounded_above]
      push_cast
      constructor <;> linarith

/-- Numbers are rounded to an even mantissa or more just from the middle below it on. -/
theorem Stands.even_le_iff (h : Stands em x) {k : Nat} (hk : k % 2 = 0) :
    k ≤ em.roundedMantissa ↔ (k : ℚ) - 1 / 2 ≤ x := by
  have herror := abs_le.mp h.error
  refine ⟨fun hle => ?_, fun hx => Nat.not_lt.mp fun hlt => ?_⟩
  · have hle' : (k : ℚ) ≤ em.roundedMantissa := Nat.cast_le.mpr hle
    linarith
  · -- only the middle itself is left, and there the odd mantissa gives way to the even one
    have hlt' : (em.roundedMantissa : ℚ) + 1 ≤ k := by exact_mod_cast hlt
    cases h with
    | exact m => rw [rounded_exact] at hlt'; linarith
    | below low high => rw [rounded_below] at hlt'; linarith
    | middle m =>
        rw [rounded_middle] at hlt
        have hnext : (k : ℚ) ≤ (m + 1 : Nat) := by push_cast; linarith
        have hnext' : k ≤ m + 1 := Nat.cast_le.mp hnext
        omega
    | above low high =>
        rw [rounded_above] at hlt'
        push_cast at hlt'
        linarith

/-! ## Rounding to the format -/

/-- A number `v` of the binade with exponent `e` is rounded to the mantissa `m` with exponent
`e'`. -/
structure RoundsTo (v : ℚ) (e : Int) (m : Nat) (e' : Int) : Prop where
  normal : 2 ^ 52 ≤ m ∧ m < 2 ^ 53
  binade : 2 ^ 52 * (2 : ℚ) ^ e ≤ v
  error : |m * (2 : ℚ) ^ e' - v| ≤ 2 ^ e / 2
  /-- The next binade is reached from the middle below it on. -/
  exponent : e' = if (2 ^ 53 - 1 / 2) * (2 : ℚ) ^ e ≤ v then e + 1 else e

variable {m : Nat} {e : Int} {accuracy : Accuracy}

/-- A mantissa of full length keeps that length when it is rounded, or becomes the power of two
above it: it grows by one at most. -/
theorem Stands.normal (h : Stands em x) (hlow : 2 ^ 52 ≤ x) (hhigh : x < 2 ^ 53) :
    2 ^ 52 ≤ em.roundedMantissa ∧ em.roundedMantissa ≤ 2 ^ 53 := by
  have hunder := (h.even_le_iff (k := 2 ^ 52) (by decide)).mpr (by push_cast; linarith)
  have hover : (em.roundedMantissa : ℚ) < (2 ^ 53 + 1 : Nat) := by
    push_cast
    linarith [(abs_le.mp h.error).2]
  exact ⟨hunder, Nat.lt_succ_iff.mp (Nat.cast_lt.mp hover)⟩

theorem Stands.scaled_error (h : Stands em x) (e : Int) :
    |em.roundedMantissa * (2 : ℚ) ^ e - x * 2 ^ e| ≤ 2 ^ e / 2 := by
  have hscale : (0 : ℚ) < 2 ^ e := zpow_pos two_pos e
  rw [← sub_mul, abs_mul, abs_of_pos hscale]
  linarith [mul_le_mul_of_nonneg_right h.error hscale.le]

theorem Stands.carries_iff (h : Stands em x) (e : Int) :
    2 ^ 53 ≤ em.roundedMantissa ↔ (2 ^ 53 - 1 / 2) * (2 : ℚ) ^ e ≤ x * 2 ^ e := by
  rw [h.even_le_iff (by decide), mul_le_mul_iff_left₀ (zpow_pos two_pos e)]
  push_cast
  rfl

theorem Stands.rounds_kept (h : Stands em x) (hlow : 2 ^ 52 ≤ x) (hhigh : x < 2 ^ 53)
    (hkept : em.roundedMantissa < 2 ^ 53) (e : Int) :
    RoundsTo (x * 2 ^ e) e em.roundedMantissa e where
  normal := ⟨(h.normal hlow hhigh).1, hkept⟩
  binade := mul_le_mul_of_nonneg_right hlow (zpow_pos two_pos e).le
  error := h.scaled_error e
  exponent := (if_neg fun hup => Nat.not_le.mpr hkept ((h.carries_iff e).mpr hup)).symm

theorem Stands.rounds_carried (h : Stands em x) (hlow : 2 ^ 52 ≤ x)
    (hcarried : em.roundedMantissa = 2 ^ 53) (e : Int) :
    RoundsTo (x * 2 ^ e) e (2 ^ 52) (e + 1) where
  normal := by decide
  binade := mul_le_mul_of_nonneg_right hlow (zpow_pos two_pos e).le
  error := by
    have hsame : ((2 ^ 52 : Nat) : ℚ) * 2 ^ (e + 1) = em.roundedMantissa * 2 ^ e := by
      rw [zpow_add_one₀ (by norm_num), hcarried]
      push_cast
      ring
    exact hsame ▸ h.scaled_error e
  exponent := (if_pos ((h.carries_iff e).mp hcarried.ge)).symm

theorem shifted_target (accuracy : Accuracy) {s : Nat} (hlog : m.log2 = 52 + s)
    (he : -1074 ≤ e + s) :
    shiftToTargetExponent .binary64 m e accuracy
      = (ExtendedMantissa.ofMantissaAndAccuracy m accuracy >>> s, e + s) := by
  have htarget : Format.binary64.targetExponent (totalExponent m e) = e + s := by
    simp only [Format.targetExponent, totalExponent, hlog, Format.mantissaBits, Format.minExponent]
    norm_num
    omega
  have hshift : (e + s - e).toNat = s := by omega
  simp only [shiftToTargetExponent, htarget, shiftToExponent, hshift]

theorem log2_eq {m s : Nat} (hlow : 2 ^ s ≤ m) (hhigh : m < 2 ^ (s + 1)) : m.log2 = s :=
  (Nat.log2_eq_iff (by have := Nat.two_pow_pos s; omega)).mpr ⟨hlow, hhigh⟩

theorem mantissa_ofMantissaAndAccuracy (m : Nat) (accuracy : Accuracy) :
    (ExtendedMantissa.ofMantissaAndAccuracy m accuracy).mantissa = m := by
  rcases accuracy with _ | _ | _ | _ <;> rfl

/-- Shifting a mantissa to full length scales what it stands for to the numbers of that length. -/
theorem Stands.scaled (hx : Stands (ExtendedMantissa.ofMantissaAndAccuracy m accuracy) x) {s : Nat}
    (hm : m ≠ 0) (hlog : m.log2 = 52 + s) : 2 ^ 52 ≤ x / 2 ^ s ∧ x / 2 ^ s < 2 ^ 53 := by
  obtain ⟨hlow, hhigh⟩ := (Nat.log2_eq_iff hm).mp hlog
  have hfloor := hx.floor
  rw [mantissa_ofMantissaAndAccuracy] at hfloor
  have hlow' : (2 : ℚ) ^ (52 + s) ≤ m := by exact_mod_cast hlow
  have hhigh' : (m : ℚ) + 1 ≤ 2 ^ (52 + s + 1) := by exact_mod_cast hhigh
  have hpos : (0 : ℚ) < 2 ^ s := by positivity
  rw [le_div_iff₀ hpos, div_lt_iff₀ hpos]
  rw [pow_add] at hlow'
  rw [pow_succ, pow_add] at hhigh'
  constructor <;> linarith

theorem shifted_normal {r : Nat} (hlow : 2 ^ 52 ≤ r) (hhigh : r < 2 ^ 53) (he : -1074 ≤ e) :
    shiftToTargetExponent .binary64 r e .exact = (⟨r, false, false⟩, e) := by
  have hlog : r.log2 = 52 + 0 := log2_eq hlow hhigh
  rw [shifted_target .exact hlog (by omega), Nat.cast_zero, add_zero]
  rfl

theorem shifted_carried (he : -1074 ≤ e) :
    shiftToTargetExponent .binary64 (2 ^ 53) e .exact = (⟨2 ^ 52, false, false⟩, e + 1) := by
  have hlog : (2 ^ 53).log2 = 52 + 1 := Nat.log2_two_pow
  rw [shifted_target .exact hlog (by omega)]
  rfl

/-- Where the exponent has room to grow to, a mantissa that is long enough is rounded to full
length. -/
theorem roundWithAccuracy_rounds (sign : Sign) {s : Nat}
    (hx : Stands (ExtendedMantissa.ofMantissaAndAccuracy m accuracy) x)
    (hlog : m.log2 = 52 + s) (he : -1074 ≤ e + s) :
    ∃ m' e' hpos, roundWithAccuracy .binary64 sign m e accuracy = .finite sign m' e' hpos
      ∧ RoundsTo (x * 2 ^ e) (e + s) m' e' := by
  have hm : m ≠ 0 := by
    rintro rfl
    simp at hlog
    omega
  obtain ⟨hlow, hhigh⟩ := hx.scaled hm hlog
  have hy := hx.shift s
  have hnormal := hy.normal hlow hhigh
  have hvalue : x * 2 ^ e = x / 2 ^ s * 2 ^ (e + s) := by
    rw [zpow_add₀ (by norm_num), zpow_natCast]
    field_simp
  rw [roundWithAccuracy, shifted_target accuracy hlog he, hvalue]
  rcases Nat.lt_or_ge (ExtendedMantissa.ofMantissaAndAccuracy m accuracy >>> s).roundedMantissa
    (2 ^ 53) with hkept | hcarried
  · simp only [shifted_normal hnormal.1 hkept he]
    exact ⟨_, e + s, by omega, dif_neg (by omega), hy.rounds_kept hlow hhigh hkept _⟩
  · have hround := Nat.le_antisymm hnormal.2 hcarried
    simp only [hround, shifted_carried he]
    exact ⟨2 ^ 52, e + s + 1, by decide, rfl, hy.rounds_carried hlow hround _⟩

end SeedNode.Rounding

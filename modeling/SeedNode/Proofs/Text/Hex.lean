import SeedNode.Text.Hex

/-!
# Hexadecimal text, written and read

The letter case of a digit does not count when it is read, and is the only thing that does not: a
text is read as certain bytes just if its upper-case form is what these bytes are written as
(`decode?_eq_some`). That holds, too, for a reader that lets blanks stand between the bytes, as long
as the text has none (`spaced?_of_isDigit`).
-/

namespace SeedNode.Hex

variable {c : Char} {n : Nat} {cs : List Char} {bytes : Bytes} {text : String}

/-! ## Digits -/

theorem toNat_lt_of_digit? (h : digit? c = some n) : c.toNat < 128 := by
  have hsmall : ∀ {d : Char}, d.toNat < 128 → c ≤ d → c.toNat < 128 := fun hd hle =>
    Nat.lt_of_le_of_lt (UInt32.le_iff_toNat_le.mp (Char.le_def.mp hle)) hd
  rw [digit?] at h
  split at h
  case isTrue hc => exact hsmall (by decide) hc.2
  split at h
  case isTrue hc => exact hsmall (by decide) hc.2
  split at h
  case isTrue hc => exact hsmall (by decide) hc.2
  cases h

theorem digit?_toUpper (c : Char) : digit? c.toUpper = digit? c := by
  by_cases hsmall : c.toNat < 128
  · have hall : ∀ m < 128, digit? (Char.ofNat m).toUpper = digit? (Char.ofNat m) := by decide
    simpa using hall c.toNat hsmall
  · have hkept : c.toUpper = c := by
      refine dif_neg ?_
      rintro ⟨-, hle⟩
      exact hsmall (Nat.lt_of_le_of_lt (UInt32.le_iff_toNat_le.mp hle) (by decide))
    rw [hkept]

/-- A digit is known by its value, up to its letter case. -/
theorem toUpper_of_digit? (h : digit? c = some n) :
    n < 16 ∧ c.toUpper = upperDigit (digit n) := by
  have hall : ∀ m < 128, (digit? (Char.ofNat m)).all
      (fun n => n < 16 ∧ (Char.ofNat m).toUpper = upperDigit (digit n)) = true := by decide
  have hc := hall c.toNat (toNat_lt_of_digit? h)
  rw [Char.ofNat_toNat, h] at hc
  simpa using hc

theorem digit?_upperDigit (h : n < 16) : digit? (upperDigit (digit n)) = some n := by
  revert n
  decide

theorem digit?_eq_some : digit? c = some n ↔ n < 16 ∧ c.toUpper = upperDigit (digit n) := by
  refine ⟨toUpper_of_digit?, fun ⟨hn, hc⟩ => ?_⟩
  rw [← digit?_toUpper, hc, digit?_upperDigit hn]

/-! ## Bytes -/

theorem halves (b : UInt8) : b.toNat / 16 < 16 ∧ b.toNat % 16 < 16
    ∧ UInt8.ofNat (b.toNat / 16 * 16 + b.toNat % 16) = b := by
  have hsize : b.toNat < 256 := b.toNat_lt_size
  refine ⟨by omega, by omega, ?_⟩
  rw [Nat.div_add_mod', UInt8.ofNat_toNat]

theorem halves_ofNat {high low : Nat} (hhigh : high < 16) (hlow : low < 16) :
    (UInt8.ofNat (high * 16 + low)).toNat / 16 = high
      ∧ (UInt8.ofNat (high * 16 + low)).toNat % 16 = low := by
  have hbyte : (UInt8.ofNat (high * 16 + low)).toNat = high * 16 + low :=
    UInt8.toNat_ofNat_of_lt' (by rw [UInt8.size]; omega)
  omega

theorem length_chars (bytes : Bytes) : (chars bytes).length = 2 * bytes.length := by
  induction bytes with
  | nil => rfl
  | cons b rest ih =>
      rw [chars, List.length_cons, List.length_cons, ih, List.length_cons]
      omega

theorem bytes?_of_upper (h : cs.map Char.toUpper = (chars bytes).map upperDigit) :
    bytes? cs = some bytes := by
  induction bytes generalizing cs with
  | nil =>
      obtain rfl := List.map_eq_nil_iff.mp h
      rfl
  | cons b rest ih =>
      obtain ⟨high, tail, rfl, hhigh, h⟩ := List.map_eq_cons_iff.mp h
      obtain ⟨low, tail, rfl, hlow, h⟩ := List.map_eq_cons_iff.mp h
      obtain ⟨hdiv, hmod, hbyte⟩ := halves b
      rw [bytes?, digit?_eq_some.mpr ⟨hdiv, hhigh⟩, digit?_eq_some.mpr ⟨hmod, hlow⟩, ih h]
      simp only [hbyte]

theorem upper_of_bytes? (h : bytes? cs = some bytes) :
    cs.map Char.toUpper = (chars bytes).map upperDigit := by
  fun_induction bytes? cs generalizing bytes with
  | case1 =>
      obtain rfl := Option.some.inj h
      rfl
  | case2 => cases h
  | case3 high low rest hi lo tail htail hlow hhigh ih =>
      obtain rfl := Option.some.inj h
      obtain ⟨hhigh, hupper⟩ := toUpper_of_digit? hhigh
      obtain ⟨hlow, hlower⟩ := toUpper_of_digit? hlow
      obtain ⟨hdiv, hmod⟩ := halves_ofNat hhigh hlow
      rw [List.map_cons, List.map_cons, hupper, hlower, ih htail, chars, hdiv, hmod]
      rfl
  | case4 => cases h

theorem all_isDigit_of_bytes? (h : bytes? cs = some bytes) : cs.all isDigit = true := by
  fun_induction bytes? cs generalizing bytes with
  | case1 => rfl
  | case2 => cases h
  | case3 high low rest hi lo tail htail hlow hhigh ih =>
      simp only [List.all_cons, isDigit, hhigh, hlow, ih htail, Option.isSome_some, Bool.and_self]
  | case4 => cases h

theorem length_of_bytes? (h : bytes? cs = some bytes) : cs.length = 2 * bytes.length := by
  have hlength := congrArg List.length (upper_of_bytes? h)
  rwa [List.length_map, List.length_map, length_chars] at hlength

/-! ## Texts -/

/-- A text is read as certain bytes just if they are written as its upper-case form. -/
theorem decode?_eq_some : decode? text = some bytes ↔ text.toUpper = encodeUpper bytes := by
  have hupper : text.toUpper = encodeUpper bytes
      ↔ text.toList.map Char.toUpper = (chars bytes).map upperDigit := by
    rw [← String.toList_inj, encodeUpper, String.toList_ofList, String.toUpper, String.toList_map]
  rw [hupper, decode?]
  exact ⟨upper_of_bytes?, bytes?_of_upper⟩

/-! ## Blanks between bytes -/

def isSpace (c : Char) : Bool :=
  c == ' ' || 9 ≤ c.toNat && c.toNat ≤ 13

/-- The bytes of a text in which blanks may stand before and behind each byte. -/
def spaced? : List Char → Option Bytes
  | [] => some []
  | [c] => if isSpace c then some [] else none
  | high :: low :: rest =>
    if isSpace high then spaced? (low :: rest)
    else match digit? high, digit? low, spaced? rest with
      | some h, some l, some tail => some (UInt8.ofNat (h * 16 + l) :: tail)
      | _, _, _ => none

theorem isSpace_of_isDigit (h : isDigit c = true) : isSpace c = false := by
  have hall : ∀ m < 128, isDigit (Char.ofNat m) = true → isSpace (Char.ofNat m) = false := by
    decide
  obtain ⟨n, hn⟩ := Option.isSome_iff_exists.mp h
  have hc := hall c.toNat (toNat_lt_of_digit? hn)
  rw [Char.ofNat_toNat] at hc
  exact hc h

/-- Where there are digits only, it does not matter that there could be blanks. -/
theorem spaced?_of_isDigit : ∀ cs : List Char, cs.all isDigit = true → spaced? cs = bytes? cs
  | [], _ => rfl
  | [c], h => by
      rw [List.all_cons, Bool.and_eq_true] at h
      rw [spaced?, isSpace_of_isDigit h.1]
      rfl
  | high :: low :: rest, h => by
      simp only [List.all_cons, Bool.and_eq_true] at h
      rw [spaced?, isSpace_of_isDigit h.1, spaced?_of_isDigit rest h.2.2, bytes?]
      rfl

end SeedNode.Hex

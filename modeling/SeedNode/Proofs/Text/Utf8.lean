import Mathlib.Data.List.Forall2
import Mathlib.Tactic.IntervalCases
import SeedNode.Text.Utf8

/-!
# UTF-8, written and cut and read again

A character is written as a first byte, which says how many bytes it owes and between which bounds
each of them lies, and the bytes owed (`Written`). Reading them gives the character back, and where
the bytes break off too early, what is there is one ill-formed stretch. So bytes that were written
are read as the same characters, and bytes that were cut are read as the characters that the cut
has left whole.
-/

namespace SeedNode.Utf8

variable {c : Char} {cs : List Char} {lead : UInt8} {tail : Bytes} {n : Nat}

/-! ## Bytes that are owed -/

/-- Each byte lies between its bounds. -/
def Owed (bounds : List (Nat × Nat)) (tail : Bytes) : Prop :=
  List.Forall₂ (fun bound b => within bound.1 bound.2 b = true) bounds tail

/-- The value that continuation bytes add to. -/
def gathered (value : Nat) (tail : Bytes) : Nat :=
  tail.foldl (fun value b => value * 64 + (b.toNat - 0x80)) value

theorem continuing_of_owed {bounds : List (Nat × Nat)} (h : Owed bounds tail) (value extra : Nat)
    (rest : Bytes) : continuing value extra bounds (tail ++ rest)
      = .char (Char.ofNat (gathered value tail)) (extra + tail.length) := by
  induction h generalizing value extra with
  | nil => rfl
  | @cons bound b bounds tail hb _ ih =>
      rw [List.cons_append, continuing, if_pos hb, ih, List.length_cons, gathered, gathered,
        List.foldl_cons]
      congr 1
      omega

theorem continuing_of_cut {bounds : List (Nat × Nat)} (h : Owed bounds tail) (value extra : Nat)
    (hn : n < tail.length) :
    continuing value extra bounds (tail.take n) = .bad .truncated (extra + n) := by
  induction h generalizing value extra n with
  | nil => cases hn
  | @cons bound b bounds tail hb _ ih =>
      cases n with
      | zero => rfl
      | succ n =>
          rw [List.take_succ_cons, continuing, if_pos hb, ih _ _ (Nat.lt_of_succ_lt_succ hn)]
          congr 1
          omega

/-! ## Characters -/

/-- The character is written as `lead` and the bytes that `lead` says it owes. -/
structure Written (c : Char) (lead : UInt8) (tail : Bytes) (value : Nat)
    (bounds : List (Nat × Nat)) : Prop where
  bytes : encodeChar c = lead :: tail
  owed : Owed bounds tail
  front : ∀ rest, front lead rest = continuing value 0 bounds rest
  gathers : gathered value tail = c.toNat

theorem toNat_byte (h : n < 256) : (UInt8.ofNat n).toNat = n :=
  UInt8.toNat_ofNat_of_lt h

theorem within_byte {low high : Nat} (hlow : low ≤ n) (hhigh : n ≤ high) (h : n < 256) :
    within low high (UInt8.ofNat n) = true := by
  rw [within, toNat_byte h]
  simp [hlow, hhigh]

/-- A continuation byte adds its six bits. -/
theorem gathered_byte (value : Nat) {bits : Nat} (hbits : bits < 64) (tail : Bytes) :
    gathered value (UInt8.ofNat (0x80 + bits) :: tail) = gathered (value * 64 + bits) tail := by
  rw [gathered, List.foldl_cons, toNat_byte (by omega), Nat.add_sub_cancel_left, gathered]

theorem written_one (h : c.toNat < 0x80) : Written c (UInt8.ofNat c.toNat) [] c.toNat [] where
  bytes := if_pos h
  owed := .nil
  front rest := by
    simp only [front, toNat_byte (n := c.toNat) (by omega)]
    rw [if_pos h]
    rfl
  gathers := rfl

theorem written_two (hlow : 0x80 ≤ c.toNat) (hhigh : c.toNat < 0x800) :
    Written c (UInt8.ofNat (0xC0 + c.toNat / 64)) [UInt8.ofNat (0x80 + c.toNat % 64)]
      (c.toNat / 64) [(0x80, 0xBF)] where
  bytes := by
    simp only [encodeChar]
    rw [if_neg (by omega), if_pos hhigh]
  owed := .cons (within_byte (by omega) (by omega) (by omega)) .nil
  front rest := by
    simp only [front, toNat_byte (n := 0xC0 + c.toNat / 64) (by omega)]
    rw [if_neg (by omega), if_neg (by omega), if_pos (by omega), Nat.add_sub_cancel_left]
  gathers := by
    rw [gathered_byte _ (by omega)]
    exact Nat.div_add_mod' _ _

/-- The bounds of the second of three bytes keep out overlong forms and surrogates. -/
def secondOfThree (value : Nat) : Nat × Nat :=
  if value = 0 then (0xA0, 0xBF) else if value = 13 then (0x80, 0x9F) else (0x80, 0xBF)

theorem front_three {value : Nat} (h : value < 16) (rest : Bytes) :
    front (UInt8.ofNat (0xE0 + value)) rest
      = continuing value 0 [secondOfThree value, (0x80, 0xBF)] rest := by
  interval_cases value <;> rfl

/-- The bounds of the second of four bytes keep out overlong forms and what is no code point. -/
def secondOfFour (value : Nat) : Nat × Nat :=
  if value = 0 then (0x90, 0xBF) else if value = 4 then (0x80, 0x8F) else (0x80, 0xBF)

theorem front_four {value : Nat} (h : value < 5) (rest : Bytes) :
    front (UInt8.ofNat (0xF0 + value)) rest
      = continuing value 0 [secondOfFour value, (0x80, 0xBF), (0x80, 0xBF)] rest := by
  interval_cases value <;> rfl

theorem written_three (hlow : 0x800 ≤ c.toNat) (hhigh : c.toNat < 0x10000) :
    Written c (UInt8.ofNat (0xE0 + c.toNat / 4096))
      [UInt8.ofNat (0x80 + c.toNat / 64 % 64), UInt8.ofNat (0x80 + c.toNat % 64)]
      (c.toNat / 4096) [secondOfThree (c.toNat / 4096), (0x80, 0xBF)] where
  bytes := by
    simp only [encodeChar]
    rw [if_neg (by omega), if_neg (by omega), if_pos hhigh]
  owed := by
    have hvalid : c.toNat < 0xD800 ∨ 0xDFFF < c.toNat ∧ c.toNat < 0x110000 := c.valid
    refine .cons ?_ (.cons (within_byte (by omega) (by omega) (by omega)) .nil)
    rw [secondOfThree]
    split
    · exact within_byte (by omega) (by omega) (by omega)
    split
    · exact within_byte (by omega) (by omega) (by omega)
    · exact within_byte (by omega) (by omega) (by omega)
  front := front_three (by omega)
  gathers := by
    rw [gathered_byte _ (by omega), gathered_byte _ (by omega), gathered, List.foldl_nil]
    omega

theorem written_four (hlow : 0x10000 ≤ c.toNat) :
    Written c (UInt8.ofNat (0xF0 + c.toNat / 262144))
      [UInt8.ofNat (0x80 + c.toNat / 4096 % 64), UInt8.ofNat (0x80 + c.toNat / 64 % 64),
        UInt8.ofNat (0x80 + c.toNat % 64)]
      (c.toNat / 262144) [secondOfFour (c.toNat / 262144), (0x80, 0xBF), (0x80, 0xBF)] := by
  have hvalid : c.toNat < 0xD800 ∨ 0xDFFF < c.toNat ∧ c.toNat < 0x110000 := c.valid
  refine ⟨?bytes, ?owed, front_four (by omega), ?gathers⟩
  case bytes =>
    simp only [encodeChar]
    rw [if_neg (by omega), if_neg (by omega), if_neg (by omega)]
  case owed =>
    refine .cons ?_ (.cons (within_byte (by omega) (by omega) (by omega))
      (.cons (within_byte (by omega) (by omega) (by omega)) .nil))
    rw [secondOfFour]
    split
    · exact within_byte (by omega) (by omega) (by omega)
    split
    · exact within_byte (by omega) (by omega) (by omega)
    · exact within_byte (by omega) (by omega) (by omega)
  case gathers =>
    rw [gathered_byte _ (by omega), gathered_byte _ (by omega), gathered_byte _ (by omega),
      gathered, List.foldl_nil]
    omega

theorem written (c : Char) : ∃ lead tail value bounds, Written c lead tail value bounds := by
  by_cases hone : c.toNat < 0x80
  · exact ⟨_, _, _, _, written_one hone⟩
  by_cases htwo : c.toNat < 0x800
  · exact ⟨_, _, _, _, written_two (by omega) htwo⟩
  by_cases hthree : c.toNat < 0x10000
  · exact ⟨_, _, _, _, written_three (by omega) hthree⟩
  · exact ⟨_, _, _, _, written_four (by omega)⟩

theorem width_le (c : Char) : width c ≤ 4 := by
  rw [width, encodeChar]
  split_ifs <;> simp only [List.length_cons, List.length_nil] <;> omega

theorem eq_byte_iff {b : UInt8} (h : n < 256) : b = UInt8.ofNat n ↔ n = b.toNat := by
  rw [← UInt8.toNat_inj, toNat_byte h]
  exact eq_comm

/-- A byte below 128 is written for the character of its number only. -/
theorem mem_encodeChar {b : UInt8} (hb : b.toNat < 0x80) :
    b ∈ encodeChar c ↔ c.toNat = b.toNat := by
  have hvalid : c.toNat < 0xD800 ∨ 0xDFFF < c.toNat ∧ c.toNat < 0x110000 := c.valid
  rw [encodeChar]
  split
  · rw [List.mem_singleton, eq_byte_iff (by omega)]
  split
  · simp only [List.mem_cons, List.not_mem_nil, or_false]
    rw [eq_byte_iff (by omega), eq_byte_iff (by omega)]
    omega
  split
  · simp only [List.mem_cons, List.not_mem_nil, or_false]
    rw [eq_byte_iff (by omega), eq_byte_iff (by omega), eq_byte_iff (by omega)]
    omega
  · simp only [List.mem_cons, List.not_mem_nil, or_false]
    rw [eq_byte_iff (by omega), eq_byte_iff (by omega), eq_byte_iff (by omega),
      eq_byte_iff (by omega)]
    omega

theorem mem_encodeChars {b : UInt8} (hb : b.toNat < 0x80) :
    b ∈ encodeChars cs ↔ ∃ c ∈ cs, c.toNat = b.toNat := by
  induction cs with
  | nil => simp [encodeChars]
  | cons c rest ih =>
      rw [encodeChars, List.mem_append, mem_encodeChar hb, ih, List.exists_mem_cons_iff]

/-- Only the null character is written with a null byte. -/
theorem zero_mem_encodeChars : 0 ∈ encodeChars cs ↔ '\x00' ∈ cs := by
  rw [mem_encodeChars (by decide)]
  constructor
  · rintro ⟨c, hc, hnull⟩
    have hc₀ : c = '\x00' := Char.toNat_inj.mp hnull
    rwa [hc₀] at hc
  · exact fun h => ⟨_, h, rfl⟩

/-! ## What stands at the front -/

section Front

variable {value : Nat} {bounds : List (Nat × Nat)}

theorem Written.width_eq (h : Written c lead tail value bounds) : width c = 1 + tail.length := by
  rw [width, h.bytes, List.length_cons, Nat.add_comm]

/-- A character that was written stands at the front of whatever follows it. -/
theorem Written.front_append (h : Written c lead tail value bounds) (rest : Bytes) :
    Utf8.front lead (tail ++ rest) = .char c tail.length := by
  rw [h.front, continuing_of_owed h.owed, h.gathers, Char.ofNat_toNat, Nat.zero_add]

/-- Where its last bytes are missing, all that is left of it is one ill-formed stretch. -/
theorem Written.front_take (h : Written c lead tail value bounds) (hn : n < tail.length) :
    Utf8.front lead (tail.take n) = .bad .truncated n := by
  rw [h.front, continuing_of_cut h.owed _ _ hn, Nat.zero_add]

end Front

/-! ## Reading what was written -/

theorem decodeFrom_encodeChars (start : Nat) (cs : List Char) :
    decodeFrom start (encodeChars cs) = .ok cs := by
  induction cs generalizing start with
  | nil => rw [encodeChars, decodeFrom]
  | cons c rest ih =>
      obtain ⟨lead, tail, value, bounds, hc⟩ := written c
      rw [encodeChars, hc.bytes, List.cons_append, decodeFrom, hc.front_append]
      simp only [List.drop_left, ih]
      rfl

theorem decode_encode (text : String) : decode (encode text) = .ok text.toList :=
  decodeFrom_encodeChars 0 text.toList

theorem decodeReplacing_cons (substitute : List Char) (c : Char) (rest : Bytes) :
    decodeReplacing substitute (encodeChar c ++ rest) = c :: decodeReplacing substitute rest := by
  obtain ⟨lead, tail, value, bounds, hc⟩ := written c
  rw [hc.bytes, List.cons_append, decodeReplacing, hc.front_append]
  simp only [List.drop_left]

theorem decodeReplacing_encodeChars (substitute : List Char) (cs : List Char) :
    decodeReplacing substitute (encodeChars cs) = cs := by
  induction cs with
  | nil => rw [encodeChars, decodeReplacing]
  | cons c rest ih => rw [encodeChars, decodeReplacing_cons, ih]

/-! ## Reading what was cut -/

/-- The longest run of whole characters at the front that takes at most `room` bytes. -/
def fit : Nat → List Char → List Char
  | _, [] => []
  | room, c :: rest => if width c ≤ room then c :: fit (room - width c) rest else []

/-- The bytes that are left of a character without its last ones are passed over. -/
theorem decodeSkipping_take_encodeChar (h : n < width c) :
    decodeSkipping ((encodeChar c).take n) = [] := by
  obtain ⟨lead, tail, value, bounds, hc⟩ := written c
  rw [hc.width_eq] at h
  rw [hc.bytes, decodeSkipping]
  cases n with
  | zero => rw [List.take_zero, decodeReplacing]
  | succ n =>
      have hdrop : (tail.take n).drop n = [] := by rw [List.drop_take, Nat.sub_self, List.take_zero]
      rw [List.take_succ_cons, decodeReplacing, hc.front_take (by omega)]
      simp only [hdrop]
      rw [decodeReplacing, List.nil_append]

theorem decodeSkipping_take (room : Nat) (cs : List Char) :
    decodeSkipping ((encodeChars cs).take room) = fit room cs := by
  induction cs generalizing room with
  | nil => rw [encodeChars, List.take_nil, decodeSkipping, decodeReplacing, fit]
  | cons c rest ih =>
      rw [encodeChars, fit]
      split
      · rename_i hfits
        rw [List.take_append, List.take_of_length_le hfits, decodeSkipping, decodeReplacing_cons]
        exact congrArg (c :: ·) (ih _)
      · rename_i hfits
        rw [List.take_append_of_le_length (Nat.le_of_not_le hfits)]
        exact decodeSkipping_take_encodeChar (Nat.lt_of_not_le hfits)

/-! ## The longest run that fits -/

section Fit

variable {room : Nat} {front : List Char}

theorem length_encodeChars_cons (c : Char) (cs : List Char) :
    (encodeChars (c :: cs)).length = width c + (encodeChars cs).length := by
  rw [encodeChars, List.length_append, width]

theorem fit_isPrefix (room : Nat) (cs : List Char) : fit room cs <+: cs := by
  induction cs generalizing room with
  | nil => exact List.prefix_rfl
  | cons c rest ih =>
      rw [fit]
      split
      · exact List.prefix_cons_inj c |>.mpr (ih _)
      · exact List.nil_prefix

theorem length_fit_le (room : Nat) (cs : List Char) :
    (encodeChars (fit room cs)).length ≤ room := by
  induction cs generalizing room with
  | nil => exact Nat.zero_le _
  | cons c rest ih =>
      rw [fit]
      split
      · have hrest := ih (room - width c)
        rw [length_encodeChars_cons]
        omega
      · exact Nat.zero_le _

theorem fit_of_length_le (h : (encodeChars cs).length ≤ room) : fit room cs = cs := by
  induction cs generalizing room with
  | nil => rfl
  | cons c rest ih =>
      rw [length_encodeChars_cons] at h
      have hrest : (encodeChars rest).length ≤ room - width c := by omega
      rw [fit, if_pos (by omega), ih hrest]

/-- Every run at the front that fits is contained in it. -/
theorem prefix_fit (hfront : front <+: cs) (hsize : (encodeChars front).length ≤ room) :
    front <+: fit room cs := by
  induction cs generalizing room front with
  | nil => exact hfront
  | cons c rest ih =>
      cases front with
      | nil => exact List.nil_prefix
      | cons d front =>
          obtain ⟨rfl, hrest⟩ := List.cons_prefix_cons.mp hfront
          rw [length_encodeChars_cons] at hsize
          rw [fit, if_pos (by omega), List.cons_prefix_cons]
          exact ⟨rfl, ih hrest (by omega)⟩

/-- What does not fit any more is one character, so less than the bytes of one are lost. -/
theorem lt_length_fit (h : fit room cs ≠ cs) : room < (encodeChars (fit room cs)).length + 4 := by
  induction cs generalizing room with
  | nil => exact absurd rfl h
  | cons c rest ih =>
      rw [fit] at h ⊢
      split
      · rename_i hfits
        rw [if_pos hfits] at h
        have hrest := ih fun heq => h (congrArg (c :: ·) heq)
        rw [length_encodeChars_cons]
        omega
      · have hwidth := width_le c
        omega

end Fit

end SeedNode.Utf8

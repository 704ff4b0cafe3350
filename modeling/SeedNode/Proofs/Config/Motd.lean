import Mathlib.Data.List.TakeWhile
import SeedNode.Config.Motd
import SeedNode.Proofs.Text.Utf8

/-!
# Messages that are sent as they are

A message is cut so that it fits, and one that fits is not cut: it holds no null character and
leaves room for the null byte that ends it. The cut goes through bytes, and what it leaves of a
character is dropped in reading them again, so what is kept is the longest run of whole characters
that fits (`toList_clamp`). What is sent is the text of a message that fits and the null byte, and
no other null byte (`framed_wire`).
-/

namespace SeedNode.Motd

variable {text : String}

/-- What stands before the first null character. -/
def plain (text : String) : List Char :=
  text.toList.takeWhile (· != '\x00')

theorem null_not_mem_plain (text : String) : '\x00' ∉ plain text := by
  intro hmem
  simpa using List.mem_takeWhile_imp hmem

@[simp] theorem toList_clamp (text : String) :
    (clamp text).toList = Utf8.fit (maxLength - 1) (plain text) := by
  rw [clamp, String.toList_ofList]
  split
  · rename_i hfits
    exact (Utf8.fit_of_length_le (Nat.le_pred_of_lt hfits)).symm
  · exact Utf8.decodeSkipping_take _ _

/-! ## Messages that fit -/

/-- The message holds no null character, and there is room for it and the null byte that ends it. -/
structure Fits (text : String) : Prop where
  plain : '\x00' ∉ text.toList
  size : Utf8.size text < maxLength

theorem Fits.plain_eq (h : Fits text) : Motd.plain text = text.toList := by
  rw [Motd.plain, List.takeWhile_eq_self_iff]
  intro c hc
  rw [bne_iff_ne]
  rintro rfl
  exact h.plain hc

theorem clamp_of_fits (h : Fits text) : clamp text = text := by
  have hsize : (Utf8.encodeChars text.toList).length ≤ maxLength - 1 := Nat.le_pred_of_lt h.size
  rw [← String.toList_inj, toList_clamp, h.plain_eq, Utf8.fit_of_length_le hsize]

theorem fits_clamp (text : String) : Fits (clamp text) where
  plain := by
    rw [toList_clamp]
    exact fun hmem => null_not_mem_plain text ((Utf8.fit_isPrefix _ _).subset hmem)
  size := by
    rw [Utf8.size, Utf8.encode, toList_clamp]
    exact Nat.lt_of_le_of_lt (Utf8.length_fit_le _ _) (by decide)

theorem clamp_clamp (text : String) : clamp (clamp text) = clamp text :=
  clamp_of_fits (fits_clamp text)

/-! ## On the wire -/

/-- Text in UTF-8 with a null byte at its end, which is the only one, as far as there is room. -/
def Framed (bytes : Bytes) : Prop :=
  ∃ body chars, bytes = body ++ [0] ∧ Utf8.decode body = .ok chars ∧ 0 ∉ body
    ∧ bytes.length ≤ maxLength

theorem Fits.framed (h : Fits text) : Framed (Utf8.encode text ++ [0]) := by
  refine ⟨Utf8.encode text, text.toList, rfl, Utf8.decode_encode text, ?_, ?_⟩
  · exact fun hmem => h.plain (Utf8.zero_mem_encodeChars.mp hmem)
  · rw [List.length_append, List.length_singleton]
    exact h.size

theorem framed_wire (text : String) : Framed (wire text) :=
  (fits_clamp text).framed

/-- A message that fits is sent as it is. -/
theorem wire_of_fits (h : Fits text) : wire text = Utf8.encode text ++ [0] := by
  rw [wire, clamp_of_fits h]

/-! ## What is kept -/

/-- Of what stands before the first null character, a run of whole characters is kept that fits,
and no run that fits is longer. Where the run ends early, fewer bytes are lost than the longest
character takes. A message that fits is kept as it is. -/
theorem clamp_longest (text : String) :
    (clamp text).toList <+: plain text
      ∧ Utf8.size (clamp text) ≤ 255
      ∧ (∀ front, front <+: plain text → (Utf8.encodeChars front).length ≤ 255 →
        front <+: (clamp text).toList)
      ∧ ((clamp text).toList ≠ plain text → 255 - Utf8.size (clamp text) ≤ 3)
      ∧ '\x00' ∉ (clamp text).toList
      ∧ ('\x00' ∉ text.toList → Utf8.size text ≤ 255 → clamp text = text)
      ∧ clamp (clamp text) = clamp text := by
  have hfits := fits_clamp text
  refine ⟨?isPrefix, Nat.le_of_lt_succ hfits.size, ?longest, ?lost, hfits.plain, ?kept,
    clamp_clamp text⟩
  case isPrefix =>
    rw [toList_clamp]
    exact Utf8.fit_isPrefix _ _
  case longest =>
    intro front hfront hsize
    rw [toList_clamp]
    exact Utf8.prefix_fit hfront hsize
  case lost =>
    intro hcut
    rw [toList_clamp] at hcut
    have hroom := Utf8.lt_length_fit hcut
    rw [Utf8.size, Utf8.encode, toList_clamp]
    rw [maxLength] at hroom ⊢
    omega
  case kept =>
    exact fun hplain hsize => clamp_of_fits ⟨hplain, Nat.lt_succ_of_le hsize⟩

/-- The 255th byte is the first of three that make a character, which leaves room for one. -/
theorem clamp_longest_split :
    let front := List.replicate 127 'é'
    let text := String.ofList (front ++ ['€', '\x00', 'x'])
    front <+: plain text ∧ (Utf8.encodeChars front).length ≤ 255
      ∧ front <+: (clamp text).toList
      ∧ (clamp text).toList ≠ plain text
      ∧ 255 - Utf8.size (clamp text) ≤ 3
      ∧ '\x00' ∉ "hi".toList ∧ Utf8.size "hi" ≤ 255 ∧ clamp "hi" = "hi" := by
  intro front text
  have hplain : plain text = front ++ ['€'] := by
    rw [plain, String.toList_ofList]
    decide +kernel
  have hfront : front <+: plain text := hplain ▸ List.prefix_append _ _
  have hsize : (Utf8.encodeChars front).length ≤ 255 := by decide +kernel
  obtain ⟨-, hroom, hlongest, hlost, -⟩ := clamp_longest text
  have hcut : (clamp text).toList ≠ plain text := by
    intro heq
    rw [Utf8.size, Utf8.encode, heq, hplain] at hroom
    revert hroom
    decide +kernel
  obtain ⟨-, -, -, -, -, hkept, -⟩ := clamp_longest "hi"
  exact ⟨hfront, hsize, hlongest front hfront hsize, hcut, hlost hcut, by decide, by decide,
    hkept (by decide) (by decide)⟩

end SeedNode.Motd

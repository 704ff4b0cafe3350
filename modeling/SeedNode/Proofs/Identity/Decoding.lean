import SeedNode.Proofs.Identity.Establishing

/-!
# Decoding key files

The stored form of a keypair has nothing around it, so its length is all there is to check. Material
is a keypair just if it is as long as both keys together, and the two parts it is cut into make it
up again, wherever the sizes put the cut. Of a key file no more is taken than that and one byte
beyond, which shows a file that is too long whatever else is in it. What is reported then is the
number of bytes that were seen, with a mark if there may be more (`wrongSize`).
-/

namespace SeedNode.KeyFile

open Identity

variable {t : Tree} {path : Path} {loc : Location} {mode : Nat} {content data : Bytes}
  {sizes : KeySizes} {k : Keypair}

/-! ## Key material -/

/-- Material of the right length, and no other, is a keypair. Either size may be negative. -/
theorem ofBytes_returns_iff :
    (∃ k, Keypair.ofBytes data sizes = .ok k) ↔ (data.length : Int) = sizes.total := by
  constructor
  · rintro ⟨k, h⟩
    exact (toBytes_of_ofBytes h).2
  · exact fun h => ⟨_, ofBytes_of_length h⟩

/-- A negative size of the public key leaves that many bytes to the other one. -/
example : Keypair.ofBytes [1, 2, 3] ⟨-1, 4⟩ = .ok ⟨[1, 2], [3]⟩ := rfl

/-- Material for keys of sizes that count from its beginning is cut behind the public key. -/
theorem ofBytes_natural {p s : Nat} (h : data.length = p + s) :
    Keypair.ofBytes data ⟨p, s⟩ = .ok ⟨data.take p, data.drop p⟩ := by
  have hcut : (⟨p, s⟩ : KeySizes).cut data.length = p := by
    rw [KeySizes.cut, if_pos (Int.natCast_nonneg p), Int.toNat_natCast]
    omega
  rw [ofBytes_of_length (by rw [h, KeySizes.total, Int.natCast_add]), hcut]

/-! ## Files -/

/-- The report of a key file that is not as long as was expected. -/
def wrongSize (path : Path) (expected length : Nat) : Failure :=
  let seen := min length (expected + 1)
  let more := if expected < length then "+" else ""
  failed s!"Keys file has the wrong size: expected {expected} bytes, got {seen}{more}" path

theorem read_of_resolve (hnull : path.hasNull = false)
    (h : t.resolve path .target = .ok (.found loc (.file mode content))) :
    t.read path = .ok content := by
  rw [Tree.read, Tree.resolveNamed, hnull, h]
  rfl

theorem total_natural (p s : Nat) : (⟨p, s⟩ : KeySizes).total = ((p + s : Nat) : Int) :=
  (Int.natCast_add p s).symm

/-- What a file is read as, by its length, where a buffer can be had. -/
theorem decoded_natural {room : Nat} {p s : Nat} (hgranted : Granted room (p + s + 1 : Nat))
    (path : Path) (content : Bytes) :
    decoded room path ⟨p, s⟩ content
      = if content.length = p + s then .ok ⟨content.take p, content.drop p⟩
        else .error (wrongSize path (p + s) content.length) := by
  rw [decoded, total_natural, ← Int.natCast_succ,
    readAtMost_of_granted (Int.natCast_nonneg _) hgranted, Int.toNat_natCast]
  dsimp only
  rw [List.length_take, Nat.min_comm]
  by_cases hlength : content.length = p + s
  · have hall : content.take (p + s + 1) = content := List.take_of_length_le (by omega)
    rw [if_neg (by omega), if_pos hlength, hall, ofBytes_natural hlength]
    rfl
  · rw [if_pos (by omega), if_neg hlength]
    -- one byte beyond the expected ones is there to be taken just if the file is too long
    have hmore : ((p + s : Nat) : Int) < (min content.length (p + s + 1) : Nat)
        ↔ p + s < content.length := by omega
    simp only [hmore]
    rfl

/-- Why a buffer of so many bytes cannot be had. -/
def refusedBuffer (count : Nat) : Fault :=
  if indexLimit ≤ count then .indexRange
  else if indexLimit ≤ count + bufferOverhead then .bufferRange
  else .noMemory

theorem decoded_of_not_granted {room : Nat} {p s : Nat}
    (hrefused : ¬Granted room (p + s + 1 : Nat)) (path : Path) (content : Bytes) :
    decoded room path ⟨p, s⟩ content = .error (.fault (refusedBuffer (p + s + 1))) := by
  rw [Granted, bufferOverhead, indexLimit] at hrefused
  have hread : readAtMost room ((p + s + 1 : Nat) : Int) content
      = .error (.fault (refusedBuffer (p + s + 1))) := by
    rw [readAtMost, refusedBuffer, bufferOverhead, indexLimit, if_neg (by omega)]
    by_cases hindex : (0x8000_0000_0000_0000 : Int) ≤ (p + s + 1 : Nat)
    · rw [if_pos (.inr hindex), if_pos hindex]
    · rw [if_neg (by omega), if_neg (by omega), if_neg hindex]
      split
      · rfl
      · rw [if_pos (by omega)]
  rw [decoded, total_natural, ← Int.natCast_succ, hread]

/-! ## The law -/

/-- What becomes of a file of a given content that is loaded by the sizes `p` and `s`. -/
structure Decoding (path : Path) (p s : Nat) (content : Bytes)
    (outcome : Except Failure Keypair) : Prop where
  /-- It is a keypair just if it is as long as both keys together, -/
  returns : (∃ k, outcome = .ok k) ↔ content.length = p + s
  /-- of which it is the stored form, cut behind the public key, -/
  parts : ∀ k, outcome = .ok k →
    k.publicKey = content.take p ∧ k.secretKey = content.drop p ∧ k.toBytes = content
  /-- and if it is not, its length is reported as far as it was seen. -/
  refuses : content.length ≠ p + s → outcome = .error (wrongSize path (p + s) content.length)

theorem decoded_decoding {room p s : Nat} (hgranted : Granted room (p + s + 1 : Nat)) (path : Path)
    (content : Bytes) : Decoding path p s content (decoded room path ⟨p, s⟩ content) := by
  rw [decoded_natural hgranted]
  by_cases hlength : content.length = p + s
  · rw [if_pos hlength]
    refine ⟨iff_of_true ⟨_, rfl⟩ hlength, fun k hk => ?_, fun h => absurd hlength h⟩
    obtain rfl := Except.ok.inj hk
    exact ⟨rfl, rfl, List.take_append_drop p content⟩
  · rw [if_neg hlength]
    refine ⟨iff_of_false ?_ hlength, ?_, fun _ => rfl⟩
    · rintro ⟨k, hk⟩
      cases hk
    · intro k hk
      cases hk

/-- Loading changes no file, whatever the path leads to. A file that it leads to is decoded, where a
buffer can be had for what is to be read, just if it is as long as sizes that count from its
beginning say, into its two parts, and otherwise its length is reported, up to one byte too many.
Where no buffer can be had, that is what comes out, whatever the file holds; and none can be had of
more bytes than there is room for, or than can be addressed. The stored form of every keypair
decodes to it by its own sizes. By any sizes, negative ones too, material decodes just if it is as
long as they say, and to a keypair of which it is the stored form. -/
theorem load_decodes :
    (∀ (room : Nat) (t : Tree) (path : Path) (sizes : KeySizes),
      ((loadWithin room path sizes).run t).2 = t)
      ∧ (∀ (room : Nat) (t : Tree) (path : Path) (loc : Location) (mode : Nat) (content : Bytes)
          (p s : Nat), path.hasNull = false →
          t.resolve path .target = .ok (.found loc (.file mode content)) →
        let outcome := ((loadWithin room path ⟨p, s⟩).run t).1
        (p + s + 1 ≤ room ∧ p + s + 1 + bufferOverhead < indexLimit →
            Decoding path p s content outcome)
          ∧ (¬(p + s + 1 ≤ room ∧ p + s + 1 + bufferOverhead < indexLimit) →
            outcome = .error (.fault (refusedBuffer (p + s + 1)))))
      ∧ (∀ k : Keypair,
        Keypair.ofBytes k.toBytes ⟨k.publicKey.length, k.secretKey.length⟩ = .ok k)
      ∧ ∀ (data : Bytes) (sizes : KeySizes),
        ((∃ k, Keypair.ofBytes data sizes = .ok k) ↔ (data.length : Int) = sizes.total)
          ∧ ∀ k, Keypair.ofBytes data sizes = .ok k → k.toBytes = data := by
  refine ⟨fun room t path sizes => congrArg Prod.snd (run_loadWithin room path sizes t), ?_,
    fun k => ofBytes_toBytes rfl rfl,
    fun data sizes => ⟨ofBytes_returns_iff, fun k h => (toBytes_of_ofBytes h).1⟩⟩
  intro room t path loc mode content p s hnull hfile
  have houtcome : ((loadWithin room path ⟨p, s⟩).run t).1 = decoded room path ⟨p, s⟩ content := by
    rw [run_loadWithin, read_of_resolve hnull hfile]
  dsimp only
  rw [houtcome]
  have hgranted : Granted room (p + s + 1 : Nat)
      ↔ p + s + 1 ≤ room ∧ (p : Int) + s + 1 + bufferOverhead < indexLimit := by
    rw [Granted]
    omega
  rw [← hgranted]
  exact ⟨fun h => decoded_decoding h path content, fun h => decoded_of_not_granted h path content⟩

theorem load_decodes_one_byte_more :
    let t : Tree := ⟨[], [(["keys"], .file 0o600 [7, 8, 9])]⟩
    let path : Path := ⟨"", ["keys"]⟩
    path.hasNull = false
      ∧ t.resolve path .target = .ok (.found ["keys"] (.file 0o600 [7, 8, 9]))
      ∧ ((load path ⟨1, 1⟩).run t).1 = .error (failed
        "Keys file has the wrong size: expected 2 bytes, got 3+" path)
      ∧ ∃ k, ((load path ⟨0, 3⟩).run t).1 = .ok k ∧ k.publicKey = [] ∧ k.toBytes = [7, 8, 9] := by
  intro t path
  have hnull : path.hasNull = false := by decide
  have hnamed : t.NamedAt path (t.home ++ ["keys"]) := t.namedAt_home (by decide)
  have hfile : t.resolve path .target = .ok (.found ["keys"] (.file 0o600 [7, 8, 9])) := by
    rw [hnamed.resolve (.inr (by simp [t, Tree.find?]))]
    rfl
  have hlaw := fun p s =>
    load_decodes.2.1 KeySizes.addressable t path ["keys"] 0o600 [7, 8, 9] p s hnull hfile
  have htwo := (hlaw 1 1).1 (by decide)
  have hthree := (hlaw 0 3).1 (by decide)
  obtain ⟨k, hk⟩ := hthree.returns.mpr rfl
  obtain ⟨hpublic, -, hbytes⟩ := hthree.parts k hk
  exact ⟨hnull, hfile, htwo.refuses (by decide), k, hk, hpublic, hbytes⟩

/-- Sizes that no file has are not told by its length: the number of bytes to be read is no index,
which is reported in the place of the file. -/
theorem load_past_index_range :
    let t : Tree := ⟨[], [(["keys"], .file 0o600 [7, 8, 9])]⟩
    let path : Path := ⟨"", ["keys"]⟩
    t.read path = .ok [7, 8, 9]
      ∧ (∀ room : Nat, ((loadWithin room path ⟨0x8000_0000_0000_0000, 0⟩).run t).1 = .error (.fault .indexRange))
      ∧ Failure.fault .indexRange ≠ wrongSize path 0x8000_0000_0000_0000 3 := by
  intro t path
  have hnamed : t.NamedAt path (t.home ++ ["keys"]) := t.namedAt_home (by decide)
  have hfile : t.resolve path .target = .ok (.found ["keys"] (.file 0o600 [7, 8, 9])) := by
    rw [hnamed.resolve (.inr (by simp [t, Tree.find?]))]
    rfl
  have hread := read_of_resolve (by decide) hfile
  refine ⟨hread, fun room => ?_, fun h => by cases h⟩
  rw [run_loadWithin, hread]
  rfl

end SeedNode.KeyFile

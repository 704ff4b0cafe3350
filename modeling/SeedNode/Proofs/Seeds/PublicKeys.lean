import SeedNode.Identity.Keypair
import SeedNode.Proofs.Seeds.Contacting
import SeedNode.Proofs.Text.Hex

/-!
# Public keys among the seeds

What a node shows as its public key is what its peers write into their settings. Whatever letter
case they write it in, the entry is accepted and gives back the key. The other way around, an entry
that is accepted has a key of the right size, and its text is that key up to letter case, so two
entries have the same key just if their texts differ in letter case at most.
-/

namespace SeedNode.Seeds

variable {node node' : Value} {size size' : Int} {e e' : Entry} {bytes : Bytes} {text : String}

/-- A text has the form of a key just if some bytes, as many as the size says, are written as its
upper-case form. -/
theorem isKey_iff : isKey size text = true ↔
    ∃ bytes : Bytes, text.toUpper = Hex.encodeUpper bytes ∧ (bytes.length : Int) = size := by
  rw [isKey, Bool.and_eq_true, beq_iff_eq]
  constructor
  · rintro ⟨hlength, hdigits⟩
    obtain ⟨bytes, hbytes⟩ := Option.isSome_iff_exists.mp
      (bytes?_isSome text.toList hdigits (by rw [String.length_toList]; omega))
    refine ⟨bytes, Hex.decode?_eq_some.mp hbytes, ?_⟩
    have hdouble := Hex.length_of_bytes? hbytes
    rw [String.length_toList] at hdouble
    omega
  · rintro ⟨bytes, hupper, rfl⟩
    have hbytes : Hex.bytes? text.toList = some bytes := Hex.decode?_eq_some.mpr hupper
    have hdouble := Hex.length_of_bytes? hbytes
    rw [String.length_toList] at hdouble
    exact ⟨by omega, Hex.all_isDigit_of_bytes? hbytes⟩

theorem publicKeyBytes_eq (h : e.publicKey.toUpper = Hex.encodeUpper bytes) :
    e.publicKeyBytes = bytes := by
  rw [Entry.publicKeyBytes, Hex.decode?_eq_some.mpr h]
  rfl

/-! ## From a key to an entry -/

/-- A table with the public key of a node, in any letter case, passes the check and gives the key
back. -/
theorem accepted_of_shown {k : Keypair} {settings : Table} {key address : String} {port : Int}
    (hshown : key.toUpper = k.publicHex) (hkey : settings.lookup "public_key" = some (.str key))
    (hport : settings.lookup "port" = some (.int port)) (hrange : 1 ≤ port ∧ port ≤ 65535)
    (haddress : settings.lookup "address" = some (.str address)) :
    validate (.table settings) k.publicKey.length = .ok (.accepted ⟨key, port, address⟩)
      ∧ (Entry.mk key port address).publicKeyBytes = k.publicKey := by
  have hform : isKey k.publicKey.length key = true := isKey_iff.mpr ⟨k.publicKey, hshown, rfl⟩
  have hvalid : Port.isValid port = true := by
    rw [Port.isValid, Bool.and_eq_true, decide_eq_true_eq, decide_eq_true_eq]
    exact hrange
  refine ⟨validate_eq_accepted.mpr (examine_eq_ok.mpr ?_), publicKeyBytes_eq hshown⟩
  exact ⟨settings, rfl, hkey, hport, haddress, hform, hvalid⟩

/-! ## From an entry to a key -/

/-- The key of an entry: it is read from the text, also by a reader that passes over blanks, has
the right size, and is written as the upper-case form of the text. -/
structure HoldsKey (e : Entry) (size : Int) : Prop where
  read : Hex.decode? e.publicKey = some e.publicKeyBytes
  readSpaced : Hex.spaced? e.publicKey.toList = some e.publicKeyBytes
  size : (e.publicKeyBytes.length : Int) = size
  written : Hex.encodeUpper e.publicKeyBytes = e.publicKey.toUpper

theorem holdsKey_of_accepted (h : validate node size = .ok (.accepted e)) : HoldsKey e size := by
  obtain ⟨settings, -, -, -, -, hkey, -⟩ := examine_eq_ok.mp (validate_eq_accepted.mp h)
  obtain ⟨bytes, hupper, hsize⟩ := isKey_iff.mp hkey
  have hread : Hex.bytes? e.publicKey.toList = some bytes := Hex.decode?_eq_some.mpr hupper
  obtain rfl := publicKeyBytes_eq hupper
  refine ⟨hread, ?_, hsize, hupper.symm⟩
  rw [Hex.spaced?_of_isDigit _ (Hex.all_isDigit_of_bytes? hread), hread]

theorem HoldsKey.publicKeyBytes_inj (h : HoldsKey e size) (h' : HoldsKey e' size') :
    e.publicKeyBytes = e'.publicKeyBytes ↔ e.publicKey.toUpper = e'.publicKey.toUpper := by
  constructor
  · intro hbytes
    rw [← h.written, ← h'.written, hbytes]
  · intro hupper
    exact publicKeyBytes_eq (hupper.trans h'.written.symm)

/-- What a node shows as its public key is accepted as that key in any letter case, and accepted
entries have the keys that their texts show. -/
theorem shown_keys_accepted :
    (∀ (k : Keypair) (settings : Table) (key address : String) (port : Int),
      key.toUpper = k.publicHex → settings.lookup "public_key" = some (.str key) →
      settings.lookup "port" = some (.int port) → 1 ≤ port ∧ port ≤ 65535 →
      settings.lookup "address" = some (.str address) →
      validate (.table settings) k.publicKey.length = .ok (.accepted ⟨key, port, address⟩)
        ∧ (Entry.mk key port address).publicKeyBytes = k.publicKey)
    ∧ (∀ node size e, validate node size = .ok (.accepted e) → HoldsKey e size)
    ∧ ∀ node size e node' size' e', validate node size = .ok (.accepted e) →
      validate node' size' = .ok (.accepted e') →
      (e.publicKeyBytes = e'.publicKeyBytes ↔ e.publicKey.toUpper = e'.publicKey.toUpper) := by
  refine ⟨fun k settings key address port => accepted_of_shown, fun node size e =>
    holdsKey_of_accepted, fun node size e node' size' e' h h' => ?_⟩
  exact (holdsKey_of_accepted h).publicKeyBytes_inj (holdsKey_of_accepted h')

theorem shown_keys_accepted_mixed :
    let k : Keypair := ⟨[0xAB, 0x0C], [7]⟩
    let node (key : String) : Table :=
      [("address", .str "::1"), ("port", .int 65535), ("public_key", .str key)]
    k.publicHex = "AB0C"
      ∧ validate (.table (node "aB0c")) 2 = .ok (.accepted ⟨"aB0c", 65535, "::1"⟩)
      ∧ (Entry.mk "aB0c" 65535 "::1").publicKeyBytes = k.publicKey
      ∧ HoldsKey ⟨"ab0c", 65535, "::1"⟩ 2
      ∧ (Entry.mk "aB0c" 65535 "::1").publicKeyBytes
        = (Entry.mk "ab0c" 65535 "::1").publicKeyBytes := by
  intro k node
  have hmixed : "aB0c".toUpper = k.publicHex := Hex.decode?_eq_some.mp (by decide)
  have hlower : "ab0c".toUpper = k.publicHex := Hex.decode?_eq_some.mp (by decide)
  obtain ⟨hshown, hholds, hinj⟩ := shown_keys_accepted
  obtain ⟨haccepted, hbytes⟩ :=
    hshown k (node "aB0c") "aB0c" "::1" 65535 hmixed rfl rfl (by decide) rfl
  obtain ⟨haccepted', -⟩ :=
    hshown k (node "ab0c") "ab0c" "::1" 65535 hlower rfl rfl (by decide) rfl
  exact ⟨by decide, haccepted, hbytes, hholds _ _ _ haccepted',
    (hinj _ _ _ _ _ _ haccepted haccepted').mpr (hmixed.trans hlower.symm)⟩

end SeedNode.Seeds

import SeedNode.Identity.Establish
import SeedNode.Proofs.Identity.Saving

/-!
# What establishing the identity does

The key file's existence decides: it is loaded and nothing is changed, or a keypair is generated,
checked and saved. Each way is one equation on `run`, and `establish_eq_ok` says how a run came to
return.
-/

namespace SeedNode.Identity

variable {τ : Type} {path : Path} {sizes : KeySizes} {faults : KeyFile.Faults}
  {generate : Answer τ Keypair} {s s' : Session τ} {k : Keypair}

/-! ## Loading -/

/-- What a key file of a given content is read as. -/
def decoded (room : Nat) (path : Path) (sizes : KeySizes) (content : Bytes) :
    Except Failure Keypair :=
  match KeyFile.readAtMost room (sizes.total + 1) content with
  | .error e => .error e
  | .ok data =>
    let more := if sizes.total < data.length then "+" else ""
    if (data.length : Int) ≠ sizes.total then
      .error (KeyFile.failed s!"Keys file has the wrong size: expected {sizes.total} bytes, got {data.length}{more}" path)
    else (Keypair.ofBytes data sizes).mapError .fault

@[simp] theorem run_loadWithin (room : Nat) (path : Path) (sizes : KeySizes) (t : Tree) :
    (KeyFile.loadWithin room path sizes).run t
      = (match t.read path with
        | .error e => .error (if e.isOs then
            KeyFile.failed s!"Couldn't read keys file: {e.message}" path else e)
        | .ok content => decoded room path sizes content, t) := by
  cases hread : t.read path with
  | error e => cases hos : e.isOs <;> simp [KeyFile.loadWithin, hread, hos]
  | ok content =>
      cases hdata : KeyFile.readAtMost room (sizes.total + 1) content with
      | error e => simp [KeyFile.loadWithin, decoded, hread, hdata]
      | ok data =>
          by_cases hlength : (data.length : Int) = sizes.total <;>
            simp [KeyFile.loadWithin, decoded, hread, hdata, hlength]

theorem load_keeps (path : Path) (sizes : KeySizes) : Keeps Eq (KeyFile.load path sizes) := by
  intro t
  rw [KeyFile.load, run_loadWithin]

theorem fits_iff : k.fits sizes = true ↔
    ((k.publicKey.length : Int) = sizes.publicKey
      ∧ (k.secretKey.length : Int) = sizes.secretKey) ∧ sizes.total < KeySizes.addressable := by
  simp [Keypair.fits]

theorem length_toBytes (hpublic : (k.publicKey.length : Int) = sizes.publicKey)
    (hsecret : (k.secretKey.length : Int) = sizes.secretKey) :
    (k.toBytes.length : Int) = sizes.total := by
  rw [Keypair.toBytes, List.length_append, KeySizes.total]
  omega

/-- The stored form is cut where the keys meet. -/
theorem ofBytes_toBytes (hpublic : (k.publicKey.length : Int) = sizes.publicKey)
    (hsecret : (k.secretKey.length : Int) = sizes.secretKey) :
    Keypair.ofBytes k.toBytes sizes = .ok k := by
  have hcut : sizes.cut k.toBytes.length = k.publicKey.length := by
    rw [KeySizes.cut, if_pos (by omega), Keypair.toBytes, List.length_append]
    omega
  rw [Keypair.ofBytes, if_neg (by simp [length_toBytes hpublic hsecret]), hcut, Keypair.toBytes]
  simp only [List.take_left, List.drop_left]

/-- A buffer of so many bytes can be had. -/
def Granted (room : Nat) (count : Int) : Prop :=
  count ≤ room ∧ count + KeyFile.bufferOverhead < KeyFile.indexLimit

theorem granted_of_addressable {total : Int} (h : total < KeySizes.addressable) :
    Granted KeySizes.addressable (total + 1) := by
  rw [KeySizes.addressable] at h ⊢
  rw [Granted, KeyFile.bufferOverhead, KeyFile.indexLimit]
  omega

theorem readAtMost_of_granted {room : Nat} {count : Int} (hcount : 0 ≤ count)
    (h : Granted room count) (content : Bytes) :
    KeyFile.readAtMost room count content = .ok (content.take count.toNat) := by
  rw [Granted, KeyFile.bufferOverhead, KeyFile.indexLimit] at h
  rw [KeyFile.readAtMost, KeyFile.bufferOverhead, KeyFile.indexLimit, if_neg (by omega),
    if_neg (by omega), if_neg (by omega), if_neg (by omega), if_neg (by omega)]

theorem readAtMost_of_not_granted {room : Nat} {count : Int}
    (h : ¬(-1 ≤ count ∧ Granted room count)) (content : Bytes) :
    ∃ fault, KeyFile.readAtMost room count content = .error (.fault fault) := by
  rw [Granted, KeyFile.bufferOverhead, KeyFile.indexLimit] at h
  rw [KeyFile.readAtMost, KeyFile.bufferOverhead, KeyFile.indexLimit, if_neg (by omega)]
  repeat' split
  case isFalse => omega
  all_goals exact ⟨_, rfl⟩

theorem readAtMost_returns {room : Nat} {count : Int} (hcount : -1 ≤ count)
    (h : Granted room count) (content : Bytes) :
    ∃ data, KeyFile.readAtMost room count content = .ok data := by
  by_cases hall : count = -1
  · exact ⟨content, if_pos hall⟩
  · exact ⟨_, readAtMost_of_granted (by omega) h content⟩

/-- What can be read is the content, as far as it was asked for. -/
theorem readAtMost_eq_ok {room : Nat} {count : Int} {content data : Bytes}
    (h : KeyFile.readAtMost room count content = .ok data) :
    data = content ∨ data = content.take count.toNat := by
  by_cases hall : count = -1
  · rw [KeyFile.readAtMost, if_pos hall] at h
    exact .inl (Except.ok.inj h).symm
  by_cases hgranted : -1 ≤ count ∧ Granted room count
  · rw [readAtMost_of_granted (by omega) hgranted.2] at h
    exact .inr (Except.ok.inj h).symm
  · obtain ⟨fault, hrefused⟩ := readAtMost_of_not_granted hgranted content
    cases hrefused.symm.trans h

/-- A key file that holds the stored form of a keypair of the right sizes is read as it. -/
theorem run_load_of_stored {t : Tree} {loc : Location} {mode : Nat} (hloc : t.NamedAt path loc)
    (hnull : path.hasNull = false) (hfile : t.find? loc = some (.file mode k.toBytes))
    (hfits : k.fits sizes = true) : (KeyFile.load path sizes).run t = (.ok k, t) := by
  obtain ⟨⟨hpublic, hsecret⟩, haddressable⟩ := fits_iff.mp hfits
  have hlength := length_toBytes hpublic hsecret
  have hread : t.read path = .ok k.toBytes := by
    rw [Tree.read, hloc.resolveNamed hnull (.inr (by simp [hfile])), Tree.spotAt, hfile]
    rfl
  have hall : KeyFile.readAtMost KeySizes.addressable (sizes.total + 1) k.toBytes
      = .ok k.toBytes := by
    rw [readAtMost_of_granted (by omega) (granted_of_addressable haddressable),
      List.take_of_length_le (by omega)]
  rw [KeyFile.load, run_loadWithin, hread]
  simp [decoded, hall, hlength, ofBytes_toBytes hpublic hsecret]

theorem ofBytes_of_length {data : Bytes} (h : (data.length : Int) = sizes.total) :
    Keypair.ofBytes data sizes
      = .ok ⟨data.take (sizes.cut data.length), data.drop (sizes.cut data.length)⟩ := by
  rw [Keypair.ofBytes, if_neg (not_not_intro h)]

/-- The keys are the two parts of what they were read from. -/
theorem toBytes_of_ofBytes {data : Bytes} (h : Keypair.ofBytes data sizes = .ok k) :
    k.toBytes = data ∧ (data.length : Int) = sizes.total := by
  rw [Keypair.ofBytes] at h
  split at h
  · cases h
  · rename_i hlength
    rw [← Except.ok.inj h]
    exact ⟨List.take_append_drop _ _, Decidable.not_not.mp hlength⟩

/-- One byte more than is expected shows whether there is more. -/
theorem readAtMost_eq {room : Nat} {content data : Bytes} {total : Int}
    (h : KeyFile.readAtMost room (total + 1) content = .ok data)
    (hlength : (data.length : Int) = total) : content = data := by
  rcases readAtMost_eq_ok h with rfl | rfl
  · rfl
  · rw [List.length_take] at hlength
    rw [List.take_of_length_le (by omega)]

theorem toBytes_of_decoded {room : Nat} {content : Bytes}
    (h : decoded room path sizes content = .ok k) : k.toBytes = content := by
  rw [decoded] at h
  split at h
  · cases h
  · rename_i data hdata
    dsimp only at h
    split at h
    · cases h
    · cases hkeys : Keypair.ofBytes data sizes with
      | error fault =>
          rw [hkeys] at h
          cases h
      | ok k' =>
          rw [hkeys] at h
          obtain rfl := Except.ok.inj h
          obtain ⟨hbytes, htotal⟩ := toBytes_of_ofBytes hkeys
          rw [hbytes, readAtMost_eq hdata htotal]

/-- What was read as a keypair is its stored form. -/
theorem read_of_load {t t' : Tree} (h : (KeyFile.load path sizes).run t = (.ok k, t')) :
    t.read path = .ok k.toBytes := by
  rw [KeyFile.load, run_loadWithin] at h
  have hdecoded := (Prod.mk.inj h).1
  cases hread : t.read path with
  | error e =>
      rw [hread] at hdecoded
      cases hdecoded
  | ok content =>
      rw [hread] at hdecoded
      rw [toBytes_of_decoded hdecoded]

/-! ## The two ways -/

/-- The record of a keypair that was read. -/
def loadedRecord (path : Path) : Record :=
  { level := Level.info, source, message := s!"Loaded keys from {path}" }

/-- The record of a keypair that was generated. -/
def savedRecord (path : Path) : Record :=
  { level := Level.info, source, message := s!"Generated new keys and saved them to {path}" }

theorem run_establish_of_exists (h : s.files.pathExists path = .ok true) :
    (establish faults path sizes generate).run s
      = match ((KeyFile.load path sizes).run s.files).1 with
        | .ok k => (.ok k, s.addRecord (loadedRecord path))
        | .error e => (.error e, s) := by
  have hkept := load_keeps path sizes s.files
  rcases hload : (KeyFile.load path sizes).run s.files with ⟨e | k, t⟩ <;>
    obtain rfl : s.files = t := by simpa [hload] using hkept
  · simp [establish, h, hload]
  · simp [establish, h, hload, loadedRecord]

theorem run_establish_of_missing (h : s.files.pathExists path = .ok false) :
    (establish faults path sizes generate).run s
      = match generate (s.calls ++ [.generateKeypair]) with
        | .error e => (.error e, s.addCall .generateKeypair)
        | .ok k =>
          if k.fits sizes = false then
            (.error (KeyFile.failed "Generated keypair doesn't match the expected key sizes" path),
              s.addCall .generateKeypair)
          else match (KeyFile.save faults k path).run s.files with
            | (.ok _, t) =>
              (.ok k, { s.addCall .generateKeypair with files := t }.addRecord (savedRecord path))
            | (.error e, t) => (.error e, { s.addCall .generateKeypair with files := t }) := by
  cases hgen : generate (s.calls ++ [.generateKeypair]) with
  | error e => simp [establish, h, hgen]
  | ok k =>
      by_cases hfits : k.fits sizes = false
      · simp [establish, h, hgen, hfits]
      · rcases hsave : (KeyFile.save faults k path).run s.files with ⟨e | _, t⟩ <;>
          simp [establish, h, hgen, hfits, hsave, savedRecord]

theorem run_establish_of_refused {e : Failure} (h : s.files.pathExists path = .error e) :
    (establish faults path sizes generate).run s = (.error e, s) := by
  simp [establish, h]

theorem establish_eq_ok (h : (establish faults path sizes generate).run s = (.ok k, s')) :
    (s.files.pathExists path = .ok true ∧ (KeyFile.load path sizes).run s.files = (.ok k, s.files)
        ∧ s' = s.addRecord (loadedRecord path))
      ∨ (s.files.pathExists path = .ok false ∧ generate (s.calls ++ [.generateKeypair]) = .ok k
        ∧ k.fits sizes = true ∧ ∃ t, (KeyFile.save faults k path).run s.files = (.ok (), t)
          ∧ s' = { s.addCall .generateKeypair with files := t }.addRecord (savedRecord path)) := by
  cases hexists : s.files.pathExists path with
  | error e =>
      rw [run_establish_of_refused hexists] at h
      cases h
  | ok found =>
      cases found with
      | true =>
          rw [run_establish_of_exists hexists] at h
          have hkeeps := load_keeps path sizes s.files
          rcases hload : (KeyFile.load path sizes).run s.files with ⟨e | k', t⟩
          · rw [hload] at h
            cases h
          · rw [hload] at h hkeeps
            obtain ⟨hk, rfl⟩ := Prod.mk.inj h
            obtain rfl := Except.ok.inj hk
            exact .inl ⟨rfl, by rw [hkeeps], rfl⟩
      | false =>
          rw [run_establish_of_missing hexists] at h
          refine .inr ⟨rfl, ?_⟩
          cases hgen : generate (s.calls ++ [.generateKeypair]) with
          | error e =>
              rw [hgen] at h
              cases h
          | ok k' =>
              simp only [hgen] at h
              split at h
              · cases h
              · rename_i hfits
                rcases hsave : (KeyFile.save faults k' path).run s.files with ⟨e | _, t⟩
                · rw [hsave] at h
                  cases h
                · rw [hsave] at h
                  obtain ⟨hk, rfl⟩ := Prod.mk.inj h
                  obtain rfl := Except.ok.inj hk
                  exact ⟨rfl, by simpa using hfits, t, hsave, rfl⟩

theorem establish_of_saved (h : s.files.pathExists path = .ok false)
    (hgen : generate (s.calls ++ [.generateKeypair]) = .ok k) (hfits : k.fits sizes = true)
    {t : Tree} (hsave : (KeyFile.save faults k path).run s.files = (.ok (), t)) :
    (establish faults path sizes generate).run s
      = (.ok k, { s.addCall .generateKeypair with files := t }.addRecord (savedRecord path)) := by
  rw [run_establish_of_missing h]
  simp only [hgen, if_neg (Bool.not_eq_false _ ▸ hfits), hsave]

/-- Where the key file is missing and cannot be saved, the generator is called for nothing. -/
theorem establish_of_unsavable (h : s.files.pathExists path = .ok false)
    (hsave : ∀ k t, (KeyFile.save faults k path).run s.files ≠ (.ok (), t)) :
    ∃ e s', (establish faults path sizes generate).run s = (.error e, s')
      ∧ s'.calls = s.calls ++ [.generateKeypair] := by
  rw [run_establish_of_missing h]
  cases hgen : generate (s.calls ++ [.generateKeypair]) with
  | error e => exact ⟨e, _, rfl, rfl⟩
  | ok k =>
      by_cases hfits : k.fits sizes = false
      · simp only [if_pos hfits]
        exact ⟨_, _, rfl, rfl⟩
      · simp only [if_neg hfits]
        rcases hres : (KeyFile.save faults k path).run s.files with ⟨e | _, t⟩
        · exact ⟨e, _, rfl, rfl⟩
        · exact absurd hres (hsave k t)

end SeedNode.Identity

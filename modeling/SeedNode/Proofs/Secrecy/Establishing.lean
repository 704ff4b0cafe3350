import SeedNode.Proofs.Identity.Establishing
import SeedNode.Proofs.Secrecy.Outside

/-!
# Establishing an identity without showing its secret

Key files that share their public part, or generators that give the same public key, make
establishing the identity look the same: the same records, the same calls, the same failure, or
keypairs with the same text. What is left in the files differs in secret keys alone. Neither faults
of the system nor links in the way make a difference here.
-/

namespace SeedNode

variable {τ : Type} {t t' : Tree} {path : Path} {sizes : KeySizes} {faults : KeyFile.Faults}
  {k k' : Keypair} {C : Bytes → Bytes → Prop}

/-! ## Contents -/

/-- The same length and the same public key at the front. -/
structure KeySizes.SharePublic (sizes : KeySizes) (content content' : Bytes) : Prop where
  length : content'.length = content.length
  front : content'.take (sizes.cut content.length) = content.take (sizes.cut content.length)

theorem KeySizes.SharePublic.refl (sizes : KeySizes) (content : Bytes) :
    sizes.SharePublic content content :=
  ⟨rfl, rfl⟩

theorem Tree.Alike.sameLength (h : t.Alike sizes.SharePublic t') : t.Alike SameLength t' :=
  h.mono fun _ _ hshare => hshare.length

theorem KeySizes.cut_le_of_fits (h : k.fits sizes = true) (length : Nat) :
    sizes.cut length ≤ k.publicKey.length := by
  obtain ⟨⟨hpublic, -⟩, -⟩ := Identity.fits_iff.mp h
  rw [KeySizes.cut, if_pos (by omega)]
  omega

/-- The stored forms of alike keypairs share their public part, however much of them is stored. -/
theorem Keypair.Alike.sharePublic (h : k.Alike k') (hfits : k.fits sizes = true) (n : Nat) :
    sizes.SharePublic (k.toBytes.take n) (k'.toBytes.take n) := by
  refine ⟨by rw [List.length_take, List.length_take, h.length_toBytes], ?_⟩
  have hcut := KeySizes.cut_le_of_fits hfits (k.toBytes.take n).length
  generalize sizes.cut (k.toBytes.take n).length = m at hcut ⊢
  have hfront : ∀ {k : Keypair}, m ≤ k.publicKey.length →
      (k.toBytes.take n).take m = k.publicKey.take (min m n) := by
    intro k hm
    rw [List.take_take, Keypair.toBytes, List.take_append_of_le_length (by omega)]
  rw [hfront hcut, hfront (h.publicKey ▸ hcut), h.publicKey]

/-! ## Loading -/

theorem readAtMost_sharePublic {content content' : Bytes} (room : Nat)
    (h : sizes.SharePublic content content') :
    Agree (fun data data' => data'.length = data.length
        ∧ ((data.length : Int) = sizes.total → sizes.SharePublic data data'))
      (KeyFile.readAtMost room (sizes.total + 1) content)
      (KeyFile.readAtMost room (sizes.total + 1) content') := by
  rw [KeyFile.readAtMost, KeyFile.readAtMost]
  split
  · exact .ok ⟨h.length, fun _ => h⟩
  -- which buffer is asked for, and whether it is granted, is the same for both
  split
  · exact .error _
  split
  · exact .error _
  split
  · exact .error _
  split
  · exact .error _
  · refine .ok ⟨by rw [List.length_take, List.length_take, h.length], fun htotal => ?_⟩
    rw [List.length_take] at htotal
    have hwhole := h.length
    rw [List.take_of_length_le (by omega), List.take_of_length_le (by omega)]
    exact h

/-- Key files that share their public part are loaded alike. -/
theorem load_matches (path : Path) (sizes : KeySizes) :
    Matches (Tree.Alike sizes.SharePublic) Keypair.Alike (KeyFile.load path sizes)
      (KeyFile.load path sizes) := by
  rw [KeyFile.load, KeyFile.loadWithin]
  refine Matches.bind (S := sizes.SharePublic) ?_ fun content content' hcontent => ?_
  · refine .tryCatch (.fileAsk fun t t' ht => ht.read path) fun e => ?_
    split <;> exact .throw _
  refine Matches.bind (.fileAsk fun _ _ _ => readAtMost_sharePublic _ hcontent)
    fun data data' hdata => ?_
  rw [hdata.1]
  split
  · exact .bind (S := fun _ _ => False) (.throw _) (by simp)
  · rename_i hlength
    have hshare := hdata.2 (Decidable.not_not.mp hlength)
    refine .fileAsk fun _ _ _ => ?_
    rw [Keypair.ofBytes, Keypair.ofBytes, hdata.1, if_neg hlength, if_neg hlength]
    refine .ok ⟨hshare.front, ?_⟩
    rw [List.length_drop, List.length_drop, hdata.1]

/-! ## Saving -/

section Saving

/-- What is stored of the data. -/
def stored (faults : KeyFile.Faults) (data : Bytes) : Bytes :=
  match faults.stored with
  | none => data
  | some n => data.take n

theorem stored_eq_take (faults : KeyFile.Faults) (data : Bytes) :
    ∃ n, ∀ data' : Bytes, data'.length = data.length → stored faults data' = data'.take n := by
  cases h : faults.stored with
  | none =>
      refine ⟨data.length, fun data' hlength => ?_⟩
      rw [stored, h, ← hlength, List.take_length]
  | some n => exact ⟨n, fun data' _ => by rw [stored, h]⟩

theorem permit_matches (refusal : Option OsError) :
    Matches (Tree.Alike C) Eq (KeyFile.permit refusal) (KeyFile.permit refusal) := by
  cases refusal with
  | none => exact .pure rfl
  | some e => exact .throw _

variable {data data' : Bytes}

theorem write_matches (hnew : C [] []) (hlength : data'.length = data.length)
    (hstored : C (stored faults data) (stored faults data')) (temp : Path) :
    Matches (Tree.Alike C) Eq (KeyFile.write faults temp data)
      (KeyFile.write faults temp data') := by
  have hopen := Matches.fileAsk fun (t t' : Tree) (ht : t.Alike C t') =>
    ht.openForWriting hnew temp KeyFile.mode
  have hlengths : (stored faults data').length = (stored faults data).length := by
    obtain ⟨n, hn⟩ := stored_eq_take faults data
    rw [hn data' hlength, hn data rfl, List.length_take, List.length_take, hlength]
  refine (permit_matches _).bind fun _ _ _ => hopen.bind ?_
  rintro ⟨_, opened⟩ ⟨loc, opened'⟩ ⟨rfl, hopened⟩
  have hfilled := hopened.setContent loc hstored
  refine Matches.bind (S := Eq) (fun _ _ _ => ⟨.ok rfl, hfilled⟩) fun _ _ _ => ?_
  exact (permit_matches _).bind fun _ _ _ => .pure hlengths.symm

theorem discard_matches (temp : Path) :
    Matches (Tree.Alike C) Eq (KeyFile.discard temp) (KeyFile.discard temp) := by
  refine .tryCatch (.fileChange fun t t' ht => ht.remove temp) fun e => ?_
  split
  · split
    · exact .pure rfl
    · exact .throw _
  · exact .throw _

theorem replace_matches (hnew : C [] []) (hlength : data'.length = data.length)
    (hstored : C (stored faults data) (stored faults data')) (temp path : Path) :
    Matches (Tree.Alike C) Eq (KeyFile.replace faults temp path data)
      (KeyFile.replace faults temp path data') := by
  refine (write_matches hnew hlength hstored temp).bind ?_
  rintro written _ rfl
  have hmove : Matches (Tree.Alike C) Eq
      (KeyFile.permit faults.replacing >>= fun _ => FileM.change fun t => t.rename temp path)
      (KeyFile.permit faults.replacing >>= fun _ => FileM.change fun t => t.rename temp path) :=
    (permit_matches _).bind fun _ _ _ => .fileChange fun t t' ht => ht.rename temp path
  rw [hlength]
  split
  · exact .bind (S := Eq) (.throw _) fun _ _ _ => hmove
  · exact hmove

/-- Saving alike keypairs ends in the same way, and leaves files with what was stored of each. -/
theorem save_matches (hnew : C [] []) (h : k.Alike k')
    (hstored : C (stored faults k.toBytes) (stored faults k'.toBytes)) (path : Path) :
    Matches (Tree.Alike C) Eq (KeyFile.save faults k path) (KeyFile.save faults k' path) := by
  refine .bind (S := Eq) (.fileAsk fun _ _ _ => .of_eq rfl) ?_
  rintro temp _ rfl
  refine .tryCatch (replace_matches hnew h.length_toBytes hstored temp path) fun e => ?_
  split
  · exact (discard_matches temp).bind fun _ _ _ => .throw _
  split
  · exact (discard_matches temp).bind fun _ _ _ => .throw _
  · exact .throw _

/-- A keypair that was saved is stored as a whole. -/
theorem stored_of_saved {t t' : Tree} (h : (KeyFile.save faults k path).run t = (.ok (), t')) :
    stored faults k.toBytes = k.toBytes := by
  obtain ⟨temp, -, hreplace⟩ := KeyFile.replace_of_saved h
  rw [KeyFile.replace] at hreplace
  obtain ⟨written, t₁, hwrite, hrest⟩ := run_bind_eq_ok.mp hreplace
  have hwritten : written = (stored faults k.toBytes).length := by
    simp only [KeyFile.write, run_bind_eq_ok] at hwrite
    obtain ⟨_, _, -, _, _, -, _, _, -, _, _, -, hreturned⟩ := hwrite
    exact (Except.ok.inj (Prod.mk.inj hreturned).1).symm
  have hwhole : (stored faults k.toBytes).length = k.toBytes.length := by
    rw [← hwritten]
    refine Decidable.byContradiction fun hshort => ?_
    rw [if_pos hshort] at hrest
    cases hrest
  obtain ⟨n, hn⟩ := stored_eq_take faults k.toBytes
  rw [hn _ rfl] at hwhole ⊢
  rw [List.length_take] at hwhole
  exact List.take_of_length_le (by omega)

end Saving

/-! ## Establishing -/

/-- Establishing the identity shows nothing of the secret key: it makes the same records and calls,
and comes to the same failure or to alike keypairs. -/
theorem establish_matches {generate generate' : Answer τ Keypair}
    (h : Answers Keypair.Alike generate generate') (faults : KeyFile.Faults) (path : Path)
    (sizes : KeySizes) :
    Matches (Session.Alike (Tree.Alike sizes.SharePublic)) Keypair.Alike
      (Identity.establish faults path sizes generate)
      (Identity.establish faults path sizes generate') := by
  refine .bind (.onFiles (.fileAsk fun t t' ht => .of_eq (ht.pathExists path).symm)) ?_
  rintro found _ rfl
  split
  · refine .bind (.onFiles (load_matches path sizes)) fun k k' hk => ?_
    exact (Matches.note _ _ _).bind fun _ _ _ => .pure hk
  refine .bind (.ask rfl h) fun k k' hk => ?_
  rw [hk.fits sizes]
  have hsave : k.fits sizes = true →
      Matches (Session.Alike (Tree.Alike sizes.SharePublic)) Keypair.Alike
        (do
          SessionM.onFiles (KeyFile.save faults k path)
          SessionM.note Level.info Identity.source
            s!"Generated new keys and saved them to {path}"
          return k : SessionM τ Keypair)
        (do
          SessionM.onFiles (KeyFile.save faults k' path)
          SessionM.note Level.info Identity.source
            s!"Generated new keys and saved them to {path}"
          return k') := by
    intro hfits
    obtain ⟨n, hn⟩ := stored_eq_take faults k.toBytes
    have hstored := hk.sharePublic hfits n
    rw [← hn _ rfl, ← hn _ hk.length_toBytes] at hstored
    refine .bind (.onFiles (save_matches (.refl _ _) hk hstored path)) fun _ _ _ => ?_
    exact (Matches.note _ _ _).bind fun _ _ _ => .pure hk
  cases hfits : k.fits sizes with
  | false => exact .bind (S := fun _ _ => False) (.throw _) (by simp)
  | true => exact hsave hfits

/-! ## What other files read as -/

/-- A link stands at the sibling of a key file, or in the place of the key file itself. -/
def KeyFile.Linked (path : Path) (t : Tree) : Prop :=
  ∃ target, siblingAt? t path = some (.link target) ∨ t.entryAt? path = some (.link target)

/-- Where no link stands anywhere, none is in the way. -/
theorem KeyFile.not_linked (h : ∀ loc target, t.find? loc ≠ some (.link target)) :
    ¬KeyFile.Linked path t := by
  have hentry : ∀ p target, t.entryAt? p ≠ some (.link target) := by
    intro p target hlink
    rw [Tree.entryAt?] at hlink
    split at hlink
    · rename_i loc e hnamed
      obtain rfl := Option.some.inj hlink
      exact h loc target (Tree.find?_of_resolve (by simp) (Tree.resolve_of_resolveNamed hnamed).2)
    · cases hlink
  rintro ⟨target, hlink | hlink⟩
  · cases hsibling : KeyFile.sibling path with
    | error e => simp [KeyFile.siblingAt?, hsibling] at hlink
    | ok temp => exact hentry temp target (KeyFile.siblingAt?_of_ok hsibling t ▸ hlink)
  · exact hentry path target hlink

/-- Where neither the key file nor its sibling is a link, saving a missing key file changes no
other file. -/
theorem read_of_saved {other : Path} {content content' : Bytes}
    (hmissing : t.pathExists path = .ok false) (hlinked : ¬KeyFile.Linked path t)
    (hsave : (KeyFile.save faults k path).run t = (.ok (), t'))
    (hread : t.read other = .ok content) (hread' : t'.read other = .ok content') :
    content' = content := by
  simp only [KeyFile.Linked, not_exists, not_or] at hlinked
  obtain ⟨temp, sib, loc, h, hr⟩ := KeyFile.save_eq_ok (fun target => (hlinked target).1) hsave
  obtain ⟨mode, hfile⟩ := hr.stored
  have hnull : path.hasNull = false := (KeyFile.sibling_hasNull h).symm.trans hr.noNull
  have hlink : ∀ target, t.find? loc ≠ some (.link target) := by
    simpa only [hr.target.entryAt? hnull] using fun target => (hlinked target).2
  have hfree : t.find? loc = none := by
    have hres : t.resolve path .target = .ok (t.spotAt loc) := hr.target.resolve (.inr hlink)
    cases hfind : t.find? loc with
    | none => rfl
    | some e => simp [Tree.pathExists, hnull, hres, Tree.spotAt_of_find hfind] at hmissing
  have hways : Tree.KeepsWays t t' := hr.agrees.keepsWays fun l hl => by
    rcases List.mem_cons.mp hl with rfl | hl
    · exact hr.plain
    · rw [List.mem_singleton.mp hl]
      exact Tree.plain_of_free hfree
  obtain ⟨l, m, hnamed⟩ := Tree.read_eq_ok hread
  obtain ⟨hother, hres⟩ := Tree.resolve_of_resolveNamed hnamed
  have hfind := Tree.find?_of_resolve (by simp) hres
  have hplain := Tree.plain_of_file hfind
  have hkept : t'.find? l = none ∨ t'.find? l = some (.file m content) := by
    by_cases hsib : l = sib
    · exact .inl (hsib ▸ hr.gone)
    · have hloc : l ≠ loc := by
        rintro rfl
        rw [hfree] at hfind
        cases hfind
      exact .inr ((hr.agrees.find? l (by simp [hsib, hloc])).trans hfind)
  have hlink' : ∀ target, t'.find? l ≠ some (.link target) := by
    intro target hlink'
    rcases hkept with h | h <;> rw [h] at hlink' <;> cases hlink'
  rw [← Tree.spotAt_of_find hfind] at hres
  have hres' : t'.resolve other .target = .ok (t'.spotAt l) :=
    Tree.resolve_of_keepsWays (by simp) (by simp) (by simp) hways hplain hlink' hres
  rw [Tree.read, Tree.resolveNamed, hother, hres'] at hread'
  rcases hkept with hgone | hkept
  · rw [Tree.spotAt_of_free hgone] at hread'
    cases hread'
  · rw [Tree.spotAt_of_find hkept] at hread'
    exact (Except.ok.inj hread').symm

/-- A link at the sibling is followed: the keypair is put into the file that it leads to. -/
theorem saved_through_link {temp : Path} {opened : Tree} {sib loc place : Location}
    {target : String} {mode : Nat} {old : Bytes} (h : KeyFile.sibling path = .ok temp)
    (hsib : t.NamedAt temp sib) (hlink : t.find? sib = some (.link target))
    (hopen : t.openForWriting temp KeyFile.mode = .ok (loc, opened))
    (hfile : t.find? loc = some (.file mode old)) (hplace : t.NamedAt path place)
    (hfree : t.find? place = none) :
    ∃ t', (KeyFile.save .none k path).run t = (.ok (), t') ∧ t'.home = t.home
      ∧ t'.find? loc = some (.file mode k.toBytes) := by
  obtain ⟨hnames, -, hname⟩ := KeyFile.sibling_names h
  obtain ⟨own, hown, -, hways, hsource⟩ := KeyFile.refilled_of_opened hnames
    (hname ▸ KeyFile.siblingName_ne_empty _) hopen k.toBytes
  obtain rfl := hown.unique hsib
  obtain ⟨hoff, hfilled⟩ := KeyFile.setContent_opened hopen k.toBytes
  rw [hlink] at hsource
  rw [hfile] at hfilled
  have hplaceLoc : place ≠ loc := by
    rintro rfl
    simp [hfree] at hfile
  have hownLoc : loc ≠ own := by
    rintro rfl
    simp [hlink] at hfile
  have hownPlace : own ≠ place := by
    rintro rfl
    simp [hfree] at hlink
  have hstill : (opened.setContent loc k.toBytes).find? place = none :=
    (hoff.find? place (by simpa using hplaceLoc)).trans hfree
  have hrename := Tree.rename_of_entry (hown.mono hways) hsource (by simp [KeyFile.refilled])
    (hplace.mono hways) (by simp [hstill])
  rw [if_neg hownPlace] at hrename
  refine ⟨_, KeyFile.save_of_opened h hopen hrename, hoff.home, ?_⟩
  rw [Tree.find?_insert_of_ne _ _ hplaceLoc.symm, Tree.find?_erase_of_ne _ hownLoc, hfilled]
  rfl

/-! ## Two runs -/

/-- Trees that differ in a secret key at most: in what stands behind the public key in the file that
the path of the key file leads to. -/
structure Tree.DifferInSecret (path : Path) (sizes : KeySizes) (t t' : Tree) : Prop where
  home : t'.home = t.home
  find? : ∀ l, t'.find? l = t.find? l ∨ ∃ mode content content',
    t.resolveNamed path .target = .ok (.found l (.file mode content))
      ∧ t'.find? l = some (.file mode content') ∧ sizes.SharePublic content content'

namespace Tree.DifferInSecret

theorem refl (path : Path) (sizes : KeySizes) (t : Tree) : t.DifferInSecret path sizes t :=
  ⟨rfl, fun _ => .inl rfl⟩

theorem alike (h : t.DifferInSecret path sizes t') : t.Alike sizes.SharePublic t' := by
  refine ⟨h.home, fun l => ?_⟩
  rcases h.find? l with heq | ⟨mode, content, content', hnamed, hfind', hshare⟩
  · rw [heq]
    exact (Tree.Alike.refl (KeySizes.SharePublic.refl sizes) t).find? l
  · rw [Tree.find?_of_resolve (by simp) (Tree.resolve_of_resolveNamed hnamed).2, hfind']
    exact .some (.file mode hshare)

/-- Where there is no key file, nothing differs. -/
theorem alike_of_missing (h : t.DifferInSecret path sizes t')
    (hmissing : t.pathExists path = .ok false) (hC : ∀ c, C c c) : t.Alike C t' := by
  refine ⟨h.home, fun l => ?_⟩
  rcases h.find? l with heq | ⟨mode, content, content', hnamed, -⟩
  · rw [heq]
    exact (Tree.Alike.refl hC t).find? l
  · obtain ⟨hnull, hres⟩ := Tree.resolve_of_resolveNamed hnamed
    simp [Tree.pathExists, hnull, hres] at hmissing

end Tree.DifferInSecret

/-- Storing a keypair spilt it into the file under another path, for want of a key file and over a
link. -/
structure Spills (path other : Path) (k : Keypair) (t t' : Tree) : Prop where
  missing : t.pathExists path = .ok false
  linked : KeyFile.Linked path t
  spilt : t'.read other = .ok k.toBytes

theorem linked_of_alike (h : t.Alike C t') (path : Path) :
    KeyFile.Linked path t' ↔ KeyFile.Linked path t := by
  refine exists_congr fun target => or_congr ?_ (h.entryAt?_link path target)
  cases hsibling : KeyFile.sibling path with
  | error e => simp [KeyFile.siblingAt?, hsibling]
  | ok temp =>
      rw [KeyFile.siblingAt?_of_ok hsibling, KeyFile.siblingAt?_of_ok hsibling]
      exact h.entryAt?_link temp target

/-- Another file that read the same in both runs still does when the identity is established, unless
the keypairs were spilt into it. -/
theorem reads_of_established {other : Path} {content : Bytes}
    {generate generate' : Answer τ Keypair} {s s' s₁ s₁' : Session τ}
    (hfiles : s.files.DifferInSecret path sizes s'.files)
    (hread : s.files.read other = .ok content) (hread' : s'.files.read other = .ok content)
    (hkeys : k.Alike k')
    (h : (Identity.establish faults path sizes generate).run s = (.ok k, s₁))
    (h' : (Identity.establish faults path sizes generate').run s' = (.ok k', s₁')) :
    s₁'.files.read other = s₁.files.read other
      ∨ Spills path other k s.files s₁.files ∧ Spills path other k' s'.files s₁'.files := by
  have hexists := hfiles.alike.pathExists path
  have hlinked := linked_of_alike hfiles.alike path
  rcases Identity.establish_eq_ok h with ⟨hthere, -, rfl⟩ | ⟨hmissing, -, -, t, hsave, rfl⟩
    <;> rcases Identity.establish_eq_ok h' with
      ⟨hthere', -, rfl⟩ | ⟨hmissing', -, -, t', hsave', rfl⟩
  · exact .inl (hread'.trans hread.symm)
  · rw [hexists, hthere] at hmissing'
    cases hmissing'
  · rw [hexists, hmissing] at hthere'
    cases hthere'
  -- Both saved, from the same files: what differs then is the keypair that was stored.
  have hsaves : Matches (Tree.Alike fun c c' => c' = c ∨ c = k.toBytes ∧ c' = k'.toBytes) Eq
      (KeyFile.save faults k path) (KeyFile.save faults k' path) :=
    save_matches (.inl rfl) hkeys (.inr ⟨stored_of_saved hsave, stored_of_saved hsave'⟩) path
  have hafter := (hsaves _ _ (hfiles.alike_of_missing hmissing fun c => .inl rfl)).2
  rw [hsave, hsave'] at hafter
  have hreads := hafter.read other
  change t'.read other = t.read other ∨ _
  cases hr : t.read other with
  | error e =>
      rw [hr] at hreads
      exact .inl hreads.of_error
  | ok c =>
      rw [hr] at hreads
      obtain ⟨c', hr', rfl | ⟨rfl, rfl⟩⟩ := hreads.of_ok
      · exact .inl hr'
      by_cases hlink : KeyFile.Linked path s.files
      · exact .inr ⟨⟨hmissing, hlink, hr⟩, ⟨hmissing', hlinked.mpr hlink, hr'⟩⟩
      · have hown := read_of_saved hmissing hlink hsave hread hr
        have hown' := read_of_saved hmissing' (mt hlinked.mp hlink) hsave' hread' hr'
        exact .inl (by rw [hr', hown', hown])

end SeedNode

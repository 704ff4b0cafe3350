import SeedNode.Proofs.Identity.Saving

/-!
# Who may read a saved key file

A key file is saved by moving its temporary sibling into its place, and it is what the sibling was.
The mode that saving asks for counts only where the sibling is made: a file that stands there
already keeps its own, and a link there is followed to write the keys but moved itself. So a saved
key file is its owner's alone just where the sibling was free, or was a file of its owner's alone
(`save_private_iff`).
-/

namespace SeedNode.KeyFile

variable {t t' : Tree} {path : Path} {faults : Faults} {keypair : Keypair}

/-- A mode that grants nothing to anybody but the owner. -/
def OwnerOnly (mode : Nat) : Prop :=
  mode &&& 0o077 = 0

instance : DecidablePred OwnerOnly := fun mode =>
  inferInstanceAs (Decidable (mode &&& 0o077 = 0))

theorem ownerOnly_newMode : OwnerOnly (Tree.newMode mode) := by decide

/-! ## The saved file -/

/-- What stood at the sibling of a path, filled with the keys, stands at the path once they are
saved. What stood at the path is of no account. -/
theorem refilled_of_saved (hsave : (save faults keypair path).run t = (.ok (), t')) :
    ∃ loc, t.place? path = some loc
      ∧ t'.find? loc = some (refilled keypair.toBytes (siblingAt? t path)) := by
  obtain ⟨temp, h, hrep⟩ := replace_of_saved hsave
  obtain ⟨hnames, -, hname⟩ := sibling_names h
  rcases replace_steps faults temp path keypair.toBytes t with
    ⟨e, hrep', -⟩ | ⟨written, opened, hopen, ⟨e, kept, hrep', -⟩ | ⟨t₁, hren, hrep'⟩⟩
  · rw [hrep] at hrep'
    cases hrep'
  · rw [hrep] at hrep'
    cases hrep'
  rw [hrep] at hrep'
  obtain rfl := (Prod.mk.inj hrep').2
  obtain ⟨hnull, -⟩ := Tree.openForWriting_opens hopen
  obtain ⟨own, hown, -, hways, hfind⟩ :=
    refilled_of_opened hnames (hname ▸ siblingName_ne_empty _) hopen keypair.toBytes
  obtain ⟨old, loc, e, hold, hloc, hmoved, -, htree⟩ :=
    Tree.rename_eq_ok hnames (sibling_eq_ok h).1 hren
  obtain rfl := hold.unique (hown.mono hways)
  obtain rfl := Option.some.inj (hfind.symm.trans hmoved)
  have hpath := named_beside h hways hown hloc
  rw [if_neg (namedAt_ne_sibling h hpath hown).symm] at htree
  refine ⟨loc, hpath.place? ((sibling_hasNull h).symm.trans hnull), ?_⟩
  rw [htree, Tree.find?_insert_self _ _ hpath.ne_nil, siblingAt?_of_ok h, hown.entryAt? hnull]

/-- A saved key file is a file of its owner's alone just where the sibling was free, or was a file
of its owner's alone. -/
theorem save_private_iff (hsave : (save faults keypair path).run t = (.ok (), t')) :
    ∃ loc, t.place? path = some loc
      ∧ t'.find? loc = some (refilled keypair.toBytes (siblingAt? t path))
      ∧ ((∃ m, t'.find? loc = some (.file m keypair.toBytes) ∧ OwnerOnly m) ↔
        siblingAt? t path = none
          ∨ ∃ m content, siblingAt? t path = some (.file m content) ∧ OwnerOnly m) := by
  obtain ⟨loc, hplace, hfind⟩ := refilled_of_saved hsave
  refine ⟨loc, hplace, hfind, ?_⟩
  rw [hfind]
  cases siblingAt? t path with
  | none => simp [refilled, ownerOnly_newMode]
  | some e => cases e <;> simp [refilled]

theorem save_private_in_empty_directory :
    let path : Path := ⟨"", ["keys"]⟩
    ∃ t', (save Faults.none ⟨[1], [2]⟩ path).run Tree.empty = (.ok (), t')
      ∧ ∃ loc m, t'.find? loc = some (.file m [1, 2]) ∧ OwnerOnly m := by
  intro path
  have hsib : sibling path = .ok ⟨"", [".keys.tmp"]⟩ := rfl
  have hsource : Tree.empty.NamedAt ⟨"", [".keys.tmp"]⟩ ["tmp", ".", ".keys.tmp"] :=
    ⟨by decide, _, ["tmp", "."], ⟨by decide, by simp, .here _ _⟩, rfl⟩
  have htarget : Tree.empty.NamedAt path ["tmp", ".", "keys"] :=
    ⟨by decide, _, ["tmp", "."], ⟨by decide, by simp [path], .here _ _⟩, rfl⟩
  have hfree : Tree.empty.find? ["tmp", ".", ".keys.tmp"] = none := by decide
  obtain ⟨t', hsave⟩ := save_of_unhindered ⟨[1], [2]⟩ hsib (by decide) hsource
    (Tree.plain_of_free hfree) htarget (by decide)
  obtain ⟨loc, -, -, hprivate⟩ := save_private_iff hsave
  obtain ⟨m, hfile, hmode⟩ := hprivate.mpr (.inl (by
    rw [siblingAt?_of_ok hsib, hsource.entryAt? (by decide), hfree]))
  exact ⟨t', hsave, loc, m, hfile, hmode⟩

/-- A temporary file that was left behind with the mode of an ordinary file becomes the key file,
which everybody may read. -/
theorem save_exposes_through_stale_file :
    let t : Tree := ⟨[], [([".keys.tmp"], .file 0o644 [7])]⟩
    let path : Path := ⟨"", ["keys"]⟩
    ∃ t', (save Faults.none ⟨[1], [2]⟩ path).run t = (.ok (), t')
      ∧ t.place? path = some ["keys"]
      ∧ t'.find? ["keys"] = some (.file 0o644 [1, 2]) ∧ ¬OwnerOnly 0o644 := by
  intro t path
  have hsib : sibling path = .ok ⟨"", [".keys.tmp"]⟩ := rfl
  have hsource : t.NamedAt ⟨"", [".keys.tmp"]⟩ [".keys.tmp"] :=
    ⟨by decide, _, [], ⟨by decide, by simp, .here _ _⟩, rfl⟩
  have htarget : t.NamedAt path ["keys"] :=
    ⟨by decide, _, [], ⟨by decide, by simp [path], .here _ _⟩, rfl⟩
  have hstale : t.find? [".keys.tmp"] = some (.file 0o644 [7]) := by decide
  obtain ⟨t', hsave⟩ := save_of_unhindered ⟨[1], [2]⟩ hsib (by decide) hsource
    (Tree.plain_of_file hstale) htarget (by decide)
  have hplace := htarget.place? (by decide)
  obtain ⟨loc, hloc, hfind⟩ := refilled_of_saved hsave
  obtain rfl := Option.some.inj (hplace.symm.trans hloc)
  rw [siblingAt?_of_ok hsib, hsource.entryAt? (by decide), hstale] at hfind
  exact ⟨t', hsave, hplace, hfind, by decide⟩

end SeedNode.KeyFile

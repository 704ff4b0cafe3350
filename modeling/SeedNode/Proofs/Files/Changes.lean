import SeedNode.Proofs.Files.Walk

/-!
# What changes do to a tree

A change of the files touches few locations. `AgreesOff locs` says that two trees are the same but
for the locations listed; where only files stood there, every way through the first tree is one
through the second. Each operation has one lemma that says all of what it did when it succeeded.
-/

namespace SeedNode.Tree

variable {t t' t'' : Tree} {loc : Location} {locs : List Location}

/-! ## Agreement -/

/-- The two trees differ at most at the given locations. -/
structure AgreesOff (locs : List Location) (t t' : Tree) : Prop where
  home : t'.home = t.home
  find? : ∀ l, l ∉ locs → t'.find? l = t.find? l

theorem AgreesOff.refl (locs : List Location) (t : Tree) : AgreesOff locs t t :=
  ⟨rfl, fun _ _ => rfl⟩

theorem AgreesOff.trans (h : AgreesOff locs t t') (h' : AgreesOff locs t' t'') :
    AgreesOff locs t t'' :=
  ⟨h'.home.trans h.home, fun l hl => (h'.find? l hl).trans (h.find? l hl)⟩

theorem AgreesOff.symm (h : AgreesOff locs t t') : AgreesOff locs t' t :=
  ⟨h.home.symm, fun l hl => (h.find? l hl).symm⟩

theorem AgreesOff.mono {more : List Location} (h : AgreesOff locs t t') (hsub : locs ⊆ more) :
    AgreesOff more t t' :=
  ⟨h.home, fun l hl => h.find? l fun hm => hl (hsub hm)⟩

theorem agreesOff_insert (t : Tree) (loc : Location) (e : Entry) :
    AgreesOff [loc] t (t.insert loc e) :=
  ⟨rfl, fun _ hl => find?_insert_of_ne t e (List.ne_of_not_mem_cons hl)⟩

theorem agreesOff_erase (t : Tree) (loc : Location) : AgreesOff [loc] t (t.erase loc) :=
  ⟨rfl, fun _ hl => find?_erase_of_ne t (List.ne_of_not_mem_cons hl)⟩

/-- No directory and no link stands at a location: the location is free or holds a file. -/
def Plain (t : Tree) (loc : Location) : Prop :=
  ∀ e, t.find? loc = some e → ∃ mode content, e = .file mode content

theorem plain_of_free (h : t.find? loc = none) : t.Plain loc := fun e he => by
  rw [h] at he
  cases he

theorem plain_of_file {mode : Nat} {content : Bytes}
    (h : t.find? loc = some (.file mode content)) : t.Plain loc := fun e he => by
  rw [h] at he
  exact ⟨mode, content, (Option.some.inj he).symm⟩

theorem Plain.not_link (h : t.Plain loc) (target : String) :
    t.find? loc ≠ some (.link target) := by
  intro hfind
  obtain ⟨mode, content, hfile⟩ := h _ hfind
  cases hfile

theorem AgreesOff.keepsWays (h : AgreesOff locs t t') (hp : ∀ l ∈ locs, t.Plain l) :
    KeepsWays t t' := by
  have keeps : ∀ l e, t.find? l = some e → (∀ mode content, e ≠ .file mode content) →
      t'.find? l = some e := by
    intro l e hfind hfile
    rw [h.find? l fun hl => ?_, hfind]
    obtain ⟨mode, content, rfl⟩ := hp l hl e hfind
    exact hfile mode content rfl
  exact ⟨h.home, fun l hl => keeps l _ hl (by simp), fun l _ hl => keeps l _ hl (by simp)⟩

/-- Where a way ends at a file, or at a free name, it still ends when other ways are there too: at
what stands in that place then. -/
theorem walk_of_keepsWays {making purpose : Purpose} (hmaking : making ≠ .entry)
    (hpurpose : purpose ≠ .entry) (hslash : purpose = .creation → making = .creation)
    (hways : KeepsWays t t') (hplain : t.Plain loc)
    (hlink : ∀ target, t'.find? loc ≠ some (.link target)) {links : Nat} {here : Location}
    {names : List String} (h : t.walk making links here names = .ok (t.spotAt loc)) :
    t'.walk purpose links here names = .ok (t'.spotAt loc) := by
  fun_induction Tree.walk t making links here names with
  | case1 links here =>
      -- a directory is not what stands at the place
      have hspot : t.spotAt loc = .found here .directory := (Except.ok.inj h).symm
      cases hfind : t.find? loc with
      | none =>
          rw [spotAt_of_free hfind] at hspot
          cases hspot
      | some e =>
          obtain ⟨mode, content, rfl⟩ := hplain e hfind
          rw [spotAt_of_find hfind] at hspot
          cases hspot
  | case2 links here name rest hname ih =>
      rw [Tree.walk, if_pos hname]
      exact ih h
  | case3 links here rest hname ih =>
      rw [Tree.walk, if_neg hname, if_pos rfl]
      exact ih h
  | case6 links here name hname hup hsize next hfind
  | case9 links here name hname hup hsize next mode content hfind =>
      have hn : Ordinary name :=
        ⟨(not_or.mp hname).1, (not_or.mp hname).2, hup, Nat.not_lt.mp hsize⟩
      have hspot : t.spotAt next = t.spotAt loc := by
        rw [← Except.ok.inj h]
        first | exact spotAt_of_free hfind | exact spotAt_of_find hfind
      obtain rfl : next = loc := spotAt_inj hspot
      exact walk_ordinary hn links here (.inr hlink)
  | case8 links here name rest hname hup hend hsize next hfind ih =>
      have hfind' : t'.find? (here ++ [name]) = some .directory := hways.directory _ hfind
      rw [Tree.walk, if_neg hname, if_neg hup, if_neg fun hc => hend ⟨hslash hc.1, hc.2⟩,
        if_neg hsize]
      simp only [hfind']
      exact ih h
  | case13 here name rest hname hup hend hsize next target hfind hfollow left start ih =>
      have hfind' : t'.find? (here ++ [name]) = some (.link target) := hways.link _ _ hfind
      rw [Tree.walk, if_neg hname, if_neg hup, if_neg fun hc => hend ⟨hslash hc.1, hc.2⟩,
        if_neg hsize]
      simp only [hfind', hpurpose, and_false, if_false]
      exact ih h
  | case11 links here name rest _ _ _ _ next target hfind hentry => exact absurd hentry.2 hmaking
  | _ => cases h

theorem resolve_of_keepsWays {making purpose : Purpose} (hmaking : making ≠ .entry)
    (hpurpose : purpose ≠ .entry) (hslash : purpose = .creation → making = .creation)
    (hways : KeepsWays t t') (hplain : t.Plain loc)
    (hlink : ∀ target, t'.find? loc ≠ some (.link target)) {p : Path}
    (h : t.resolve p making = .ok (t.spotAt loc)) :
    t'.resolve p purpose = .ok (t'.spotAt loc) := by
  rw [Tree.resolve] at h ⊢
  split at h
  · cases h
  · rename_i hshort
    rw [if_neg hshort, start, hways.home]
    exact walk_of_keepsWays hmaking hpurpose hslash hways hplain hlink h

/-- A change away from the place of a path leaves the path where it leads. -/
theorem Above.resolve_of_agrees {p : Path} {left : Nat} {there : Location}
    (ha : t.Above p left there) (hoff : AgreesOff locs t t') (hp : ∀ l ∈ locs, t.Plain l)
    (hne : there ++ [p.name] ∉ locs) : t'.resolve p .entry = t.resolve p .entry := by
  rw [ha.resolve (by simp), (ha.mono (hoff.keepsWays hp)).resolve (by simp)]
  by_cases hn : Ordinary p.name
  · rw [walk_ordinary hn left there (.inl rfl), walk_ordinary hn left there (.inl rfl), spotAt,
      spotAt, hoff.find? _ hne]
  · exact (walk_not_ordinary t' t hn .entry left there).1

/-! ## Opening -/

/-- A file is opened where the path leads: at a free name, where it is made, or where it is. -/
theorem openForWriting_resolves {p : Path} {mode : Nat}
    (h : t.openForWriting p mode = .ok (loc, t')) :
    p.hasNull = false ∧ loc ≠ [] ∧ t.resolve p .creation = .ok (t.spotAt loc)
      ∧ (t.find? loc = none ∧ t' = t.insert loc (.file (newMode mode) [])
        ∨ (∃ m content, t.find? loc = some (.file m content)) ∧ t' = t) := by
  rw [openForWriting] at h
  cases hr : t.resolveNamed p .creation with
  | error e =>
      rw [hr] at h
      cases h
  | ok spot =>
      obtain ⟨hnull, hres⟩ := resolve_of_resolveNamed hr
      have hwalk := hres
      rw [Tree.resolve] at hwalk
      split at hwalk
      · cases hwalk
      rw [hr] at h
      obtain ⟨l, rfl⟩ | ⟨l, hl, rfl⟩ := walk_spot hwalk
      · cases h
      cases hfind : t.find? l with
      | none =>
          rw [spotAt_of_free hfind] at h
          obtain ⟨rfl, rfl⟩ := Prod.mk.inj (Except.ok.inj h)
          exact ⟨hnull, hl, hres, .inl ⟨hfind, rfl⟩⟩
      | some e =>
          rw [spotAt_of_find hfind] at h
          cases e with
          | file m content =>
              obtain ⟨rfl, rfl⟩ := Prod.mk.inj (Except.ok.inj h)
              exact ⟨hnull, hl, hres, .inr ⟨⟨m, content, hfind⟩, rfl⟩⟩
          | directory => cases h
          | link target => cases h

/-- Opening makes the file, if there is none, and changes nothing else. -/
theorem openForWriting_opens {p : Path} {mode : Nat}
    (h : t.openForWriting p mode = .ok (loc, t')) :
    p.hasNull = false ∧ loc ≠ [] ∧ t.Plain loc ∧ AgreesOff [loc] t t'
      ∧ t'.find? loc = some ((t.find? loc).getD (.file (newMode mode) [])) := by
  obtain ⟨hnull, hne, -, ⟨hfree, rfl⟩ | ⟨⟨m, content, hfile⟩, rfl⟩⟩ := openForWriting_resolves h
  · exact ⟨hnull, hne, plain_of_free hfree, agreesOff_insert t loc _,
      by rw [find?_insert_self t _ hne, hfree, Option.getD_none]⟩
  · exact ⟨hnull, hne, plain_of_file hfile, .refl _ _, by rw [hfile, Option.getD_some]⟩

/-- The file is opened at the place of the path's own entry, unless a link stands there. -/
theorem openForWriting_named {p : Path} {mode : Nat} (hp : p.names ≠ []) (hname : p.name ≠ "")
    (h : t.openForWriting p mode = .ok (loc, t')) :
    ∃ own, t.NamedAt p own ∧ (loc = own ∨ ∃ target, t.find? own = some (.link target)) := by
  obtain ⟨-, -, hres, -⟩ := openForWriting_resolves h
  obtain ⟨-, -, hplain, -⟩ := openForWriting_opens h
  have hdir : ∀ l, t.spotAt loc ≠ .found l .directory := by
    intro l hspot
    cases hfind : t.find? loc with
    | none => simp [spotAt_of_free hfind] at hspot
    | some e =>
        obtain ⟨m, content, rfl⟩ := hplain e hfind
        simp [spotAt_of_find hfind] at hspot
  obtain ⟨own, hown⟩ :=
    namedAt_of_resolve (ordinary_of_resolve hp (fun _ => hname) hres hdir) hres
  by_cases hlink : ∃ target, t.find? own = some (.link target)
  · exact ⟨own, hown, .inr hlink⟩
  · have hspot : t.spotAt own = t.spotAt loc :=
      Except.ok.inj ((hown.resolve (.inr fun target ht => hlink ⟨target, ht⟩)).symm.trans hres)
    exact ⟨own, hown, .inl (spotAt_inj hspot).symm⟩

/-- A path to an entry that is no link is opened at its own place. -/
theorem openForWriting_eq_ok {p : Path} {mode : Nat} (hp : p.names ≠ []) (hname : p.name ≠ "")
    (hl : ∀ target, t.entryAt? p ≠ some (.link target))
    (h : t.openForWriting p mode = .ok (loc, t')) :
    p.hasNull = false ∧ t.NamedAt p loc ∧ t.Plain loc := by
  obtain ⟨hnull, -, hplain, -⟩ := openForWriting_opens h
  obtain ⟨own, hown, rfl | ⟨target, hlink⟩⟩ := openForWriting_named hp hname h
  · exact ⟨hnull, hown, hplain⟩
  · exact absurd ((hown.entryAt? hnull).trans hlink) (hl target)

theorem openForWriting_of_plain {p : Path} (mode : Nat) (hp : t.NamedAt p loc)
    (hnull : p.hasNull = false) (hplain : t.Plain loc) :
    ∃ t', t.openForWriting p mode = .ok (loc, t') := by
  rw [openForWriting, hp.resolveNamed hnull (.inr hplain.not_link), spotAt]
  cases hfind : t.find? loc with
  | none => exact ⟨_, rfl⟩
  | some e =>
      obtain ⟨m, content, rfl⟩ := hplain e hfind
      exact ⟨t, rfl⟩

/-! ## Removing -/

theorem remove_eq_ok {p : Path} (hp : p.names ≠ []) (h : t.remove p = .ok t') :
    ∃ loc, p.hasNull = false ∧ t.NamedAt p loc ∧ t.find? loc ≠ none
      ∧ t.find? loc ≠ some .directory ∧ t' = t.erase loc := by
  rw [remove] at h
  cases hr : t.resolveNamed p .entry with
  | error e =>
      rw [hr] at h
      cases h
  | ok spot =>
      obtain ⟨hnull, hres⟩ := resolve_of_resolveNamed hr
      rw [hr] at h
      have hdir : ∀ l, spot ≠ .found l .directory := by
        rintro l rfl
        cases h
      obtain ⟨place, hplace, rfl⟩ :=
        entry_of_resolve (ordinary_of_resolve hp (by simp) hres hdir) hres
      refine ⟨place, hnull, hplace, ?_⟩
      cases hfind : t.find? place with
      | none =>
          simp only [spotAt, hfind] at h
          cases h
      | some e =>
          simp only [spotAt, hfind] at h
          cases e with
          | directory => cases h
          | file m content => exact ⟨by simp, by simp, (Except.ok.inj h).symm⟩
          | link target => exact ⟨by simp, by simp, (Except.ok.inj h).symm⟩

theorem remove_of_file {p : Path} (hp : t.NamedAt p loc) (hnull : p.hasNull = false)
    {mode : Nat} {content : Bytes} (hf : t.find? loc = some (.file mode content)) :
    t.remove p = .ok (t.erase loc) := by
  rw [remove, hp.resolveNamed hnull (.inl rfl), spotAt, hf]
  rfl

/-! ## Renaming -/

theorem isOs_of_rename {source target : Path} {e : Failure}
    (h : t.rename source target = .error e) : e.isOs = true := by
  rw [rename] at h
  split at h
  · cases h
    rfl
  cases hs : t.resolve source .entry with
  | error e' =>
      simp only [hs] at h
      cases h
      rfl
  | ok here =>
      cases ht : t.resolve target .entry with
      | error e' =>
          simp only [hs, ht] at h
          cases h
          rfl
      | ok there =>
          simp only [hs, ht] at h
          split at h <;> try split at h
          all_goals cases h
          all_goals rfl

/-- What was at the place of the source is moved to the place of the target, where no directory
stood. -/
theorem rename_eq_ok {source target : Path} (hs : source.names ≠ [])
    (ht : target.names ≠ []) (h : t.rename source target = .ok t') :
    ∃ old new e, t.NamedAt source old ∧ t.NamedAt target new ∧ t.find? old = some e
      ∧ t.find? new ≠ some .directory
      ∧ t' = if old = new then t else (t.erase old).insert new e := by
  rw [rename] at h
  split at h
  · cases h
  cases hrs : t.resolve source .entry with
  | error e => simp [hrs] at h
  | ok here =>
      cases hrt : t.resolve target .entry with
      | error e => simp [hrs, hrt] at h
      | ok there =>
          simp only [hrs, hrt] at h
          have hfrom : ∀ l, here ≠ .found l .directory := by
            rintro l rfl
            split at h <;> simp_all
          have hto : ∀ l, there ≠ .found l .directory := by
            rintro l rfl
            split at h <;> simp_all
          obtain ⟨old, hold, rfl⟩ :=
            entry_of_resolve (ordinary_of_resolve hs (by simp) hrs hfrom) hrs
          obtain ⟨new, hnew, rfl⟩ :=
            entry_of_resolve (ordinary_of_resolve ht (by simp) hrt hto) hrt
          have hnewdir : t.find? new ≠ some .directory := fun hd => hto new (by simp [spotAt, hd])
          cases hfo : t.find? old with
          | none => simp [spotAt, hfo] at h
          | some e =>
              refine ⟨old, new, e, hold, hnew, hfo, hnewdir, ?_⟩
              have hmoved : (if old = new then .ok t else .ok ((t.erase old).insert new e))
                  = (.ok t' : Except Failure Tree) := by
                cases hfn : t.find? new with
                | none => cases e <;> simp [spotAt, hfo, hfn] at h <;> exact h
                | some e' =>
                    cases e <;> cases e' <;> simp [spotAt, hfo, hfn] at h hnewdir <;> exact h
              rw [← apply_ite Except.ok] at hmoved
              exact (Except.ok.inj hmoved).symm

/-- What stands at the place of the source, if it is no directory, can be moved to any place where
none stands. -/
theorem rename_of_entry {source target : Path} {old new : Location} {e : Entry}
    (hs : t.NamedAt source old) (hfind : t.find? old = some e) (he : e ≠ .directory)
    (ht : t.NamedAt target new) (hdir : t.find? new ≠ some .directory) :
    t.rename source target = .ok (if old = new then t else (t.erase old).insert new e) := by
  rw [rename, if_neg ht.ordinary.2.2.1, hs.resolve (.inl rfl), ht.resolve (.inl rfl),
    spotAt_of_find hfind, apply_ite Except.ok]
  cases hnew : t.find? new with
  | none =>
      rw [spotAt_of_free hnew]
      cases e with
      | directory => exact absurd rfl he
      | _ => rfl
  | some e' =>
      rw [spotAt_of_find hnew]
      cases e' with
      | directory => exact absurd hnew hdir
      | _ =>
          cases e with
          | directory => exact absurd rfl he
          | _ => rfl

end SeedNode.Tree

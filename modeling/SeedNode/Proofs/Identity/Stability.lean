import SeedNode.Proofs.Identity.Establishing

/-!
# The identity stays

Once `establish` has returned a keypair, every later visit to the key file finds that keypair,
generates nothing and changes no file (`establish_stable`). What carries this over visits of any
number is `Established`: the file exists and loads as the keypair. Loading keeps it because loading
changes nothing; saving brings it about because the replaced entry is what the path leads to.

There is one kind of path for which it does not come about, and it takes all the links that one
path may follow. A path that leads through the link it ends in, with no link left over for that
end, seems to lead nowhere. The keypair is then saved in the place of the link, and the path, which
led through the link, leads nowhere indeed (`establish_unstable_through_links`).
-/

namespace SeedNode.Identity

variable {τ : Type} {path : Path} {sizes : KeySizes} {faults : KeyFile.Faults}
  {generate : Answer τ Keypair} {s s' : Session τ} {k : Keypair} {t : Tree}

/-! ## Visits -/

/-- A later use of the key file: by any process that establishes its identity, whatever it would
generate, or by loading alone. -/
inductive Visit (τ : Type) where
  | establish (process : Session τ) (faults : KeyFile.Faults) (generate : Answer τ Keypair)
  | load

/-- The calls that were made before a visit. -/
def Visit.calls : Visit τ → List (Call τ)
  | establish process _ _ => process.calls
  | load => []

/-- What a visit returns, the calls made until then, and the files it leaves. -/
def Visit.run (path : Path) (sizes : KeySizes) (t : Tree) :
    Visit τ → (Except Failure Keypair × List (Call τ)) × Tree
  | establish process faults generate =>
    let (result, s) := (Identity.establish faults path sizes generate).run
      { process with files := t }
    ((result, s.calls), s.files)
  | load =>
    let (result, t') := (KeyFile.load path sizes).run t
    ((result, []), t')

/-- One visit after another, with nothing else touching the files. -/
def visitAll (path : Path) (sizes : KeySizes) (t : Tree) :
    List (Visit τ) → List (Except Failure Keypair × List (Call τ)) × Tree
  | [] => ([], t)
  | visit :: rest =>
    let (outcome, t') := visit.run path sizes t
    let (outcomes, t'') := visitAll path sizes t' rest
    (outcome :: outcomes, t'')

/-! ## Established files -/

/-- The key file exists and loads as the keypair. -/
structure Established (path : Path) (sizes : KeySizes) (k : Keypair) (t : Tree) : Prop where
  found : t.pathExists path = .ok true
  loads : (KeyFile.load path sizes).run t = (.ok k, t)

theorem Established.visit (h : Established path sizes k t) (visit : Visit τ) :
    visit.run path sizes t = ((.ok k, visit.calls), t) := by
  cases visit with
  | establish process faults generate =>
      have hrun : (Identity.establish faults path sizes generate).run { process with files := t }
          = _ := run_establish_of_exists h.found
      rw [h.loads] at hrun
      rw [Visit.run, hrun]
      rfl
  | load => rw [Visit.run, h.loads, Visit.calls]

theorem Established.visitAll (h : Established path sizes k t) (visits : List (Visit τ)) :
    visitAll path sizes t visits = (visits.map fun visit => (.ok k, visit.calls), t) := by
  induction visits with
  | nil => rfl
  | cons visit rest ih => simp only [Identity.visitAll, h.visit visit, ih, List.map_cons]

/-- A keypair that took the place of the key file is found there, unless the path led through what
was replaced. -/
theorem established_of_replaced {temp : Path} {sib loc : Location} {t' : Tree}
    (h : KeyFile.sibling path = .ok temp)
    (hr : KeyFile.Replaced path temp k.toBytes sib loc t t') (hends : t.EndsOnce path)
    (hfits : k.fits sizes = true) : Established path sizes k t' := by
  have hnull : path.hasNull = false := (KeyFile.sibling_hasNull h).symm.trans hr.noNull
  have hnamed := hr.named h hends
  obtain ⟨mode, hfile⟩ := hr.stored
  have hresolve : t'.resolve path .target = .ok (t'.spotAt loc) :=
    hnamed.resolve (.inr (by simp [hfile]))
  refine ⟨?_, run_load_of_stored hnamed hnull hfile hfits⟩
  rw [Tree.pathExists, hnull, hresolve, Tree.spotAt, hfile]
  rfl

theorem established_of_establish
    (hl : ∀ target, KeyFile.siblingAt? s.files path ≠ some (.link target))
    (hends : s.files.resolve path .target = .error .linkLoop → s.files.EndsOnce path)
    (h : (establish faults path sizes generate).run s = (.ok k, s')) :
    Established path sizes k s'.files := by
  rcases establish_eq_ok h with
    ⟨hfound, hload, rfl⟩ | ⟨hmissing, -, hfits, t, hsave, rfl⟩
  · exact ⟨hfound, hload⟩
  · obtain ⟨temp, sib, loc, hsibling, hr⟩ := KeyFile.save_eq_ok hl hsave
    have hendsOnce : s.files.EndsOnce path := by
      by_cases hloop : s.files.resolve path .target = .error .linkLoop
      · exact hends hloop
      · exact Tree.endsOnce_of_missing hr.target.ordinary hmissing hloop
    exact established_of_replaced hsibling hr hendsOnce hfits

/-- What became of the key file when an identity was established, and which calls that took: it was
loaded and holds the keypair, or a keypair was generated and saved there. -/
inductive Kept (path : Path) (k : Keypair) (t t' : Tree) : List (Call τ) → Prop
  | loaded (same : t' = t) (holds : t'.read path = .ok k.toBytes) : Kept path k t t' []
  | saved
      (stored : (∀ target, KeyFile.siblingAt? t path ≠ some (.link target)) →
        KeyFile.Stored path k.toBytes t t')
      (holds : (∀ target, KeyFile.siblingAt? t path ≠ some (.link target)) →
        (t.resolve path .target = .error .linkLoop → t.EndsOnce path) →
          t'.read path = .ok k.toBytes) :
      Kept path k t t' [.generateKeypair]

theorem kept_of_establish (h : (establish faults path sizes generate).run s = (.ok k, s')) :
    ∃ generated, s'.calls = s.calls ++ generated
      ∧ Kept path k s.files s'.files generated := by
  have hsettled := established_of_establish (h := h)
  rcases establish_eq_ok h with ⟨-, hload, rfl⟩ | ⟨-, -, -, t, hsave, rfl⟩
  · exact ⟨[], (List.append_nil _).symm, .loaded rfl (read_of_load hload)⟩
  · refine ⟨[.generateKeypair], rfl, .saved (fun hl => ?_) fun hl hends => ?_⟩
    · obtain ⟨temp, sib, loc, hsibling, hr⟩ := KeyFile.save_eq_ok hl hsave
      exact KeyFile.stored_of_replaced hsibling hr
    · exact read_of_load (hsettled hl hends).loads

/-- Where no link stands at the sibling of the key file, and the path does not both lead through
the entry it ends in and run out of links, a keypair that was once established is what every later
visit returns, none of which generates one or changes a file. -/
theorem establish_stable
    (hl : ∀ target, KeyFile.siblingAt? s.files path ≠ some (.link target))
    (hends : s.files.resolve path .target = .error .linkLoop → s.files.EndsOnce path)
    (h : (establish faults path sizes generate).run s = (.ok k, s')) (visits : List (Visit τ)) :
    visitAll path sizes s'.files visits
      = (visits.map fun visit => (.ok k, visit.calls), s'.files) :=
  (established_of_establish hl hends h).visitAll visits

theorem establish_stable_beside_stale_file :
    let path : Path := ⟨"", ["keys"]⟩
    let s : Session Unit := .start ⟨[], [([".keys.tmp"], .file 0o644 [7])]⟩ [] ⟨true, [], 0⟩
    let k : Keypair := ⟨[1], [2, 3]⟩
    let visits : List (Visit Unit) := [.load, .establish s .none fun _ => .ok ⟨[4], [5, 6]⟩]
    (∀ target, KeyFile.siblingAt? s.files path ≠ some (.link target))
      ∧ (s.files.resolve path .target = .error .linkLoop → s.files.EndsOnce path)
      ∧ ∃ s', (establish .none path ⟨1, 2⟩ fun _ => .ok k).run s = (.ok k, s')
        ∧ visitAll path ⟨1, 2⟩ s'.files visits = ([(.ok k, []), (.ok k, [])], s'.files) := by
  intro path s k visits
  have hsib : KeyFile.sibling path = .ok ⟨"", [".keys.tmp"]⟩ := rfl
  have hsource : s.files.NamedAt ⟨"", [".keys.tmp"]⟩ [".keys.tmp"] :=
    ⟨by decide, 40, [], ⟨by decide, by simp, .here _ _⟩, rfl⟩
  have htarget : s.files.NamedAt path ["keys"] :=
    ⟨by decide, 40, [], ⟨by decide, by simp, .here _ _⟩, rfl⟩
  have hfile : s.files.find? [".keys.tmp"] = some (.file 0o644 [7]) := rfl
  have hfree : s.files.find? ["keys"] = none := rfl
  have hresolve : s.files.resolve path .target = .ok (.free ["keys"]) := by
    rw [htarget.resolve (.inr (by simp [hfree])), Tree.spotAt, hfree]
  have hl : ∀ target, KeyFile.siblingAt? s.files path ≠ some (.link target) := by
    intro target
    rw [KeyFile.siblingAt?_of_ok hsib, hsource.entryAt? (by decide), hfile]
    simp
  have hends : s.files.resolve path .target = .error .linkLoop → s.files.EndsOnce path := by
    rw [hresolve]
    simp
  have hmissing : s.files.pathExists path = .ok false := by
    rw [Tree.pathExists, if_neg (by decide), hresolve]
  obtain ⟨t, hsave⟩ := KeyFile.save_of_unhindered k hsib (by decide) hsource
    (Tree.plain_of_file hfile) htarget (by simp [hfree])
  have hrun : (establish .none path ⟨1, 2⟩ fun _ => .ok k).run s = _ :=
    establish_of_saved hmissing rfl rfl hsave
  exact ⟨hl, hends, _, hrun, establish_stable hl hends hrun visits⟩

/-! ## Out of links -/

/-- The key file is a link that winds through twenty links back to its own directory. -/
def winding : Tree :=
  ⟨[], [(["a"], .link "."), (["key"], .link "a/a/a/a/a/a/a/a/a/a/a/a/a/a/a/a/a/a/a/a")]⟩

theorem winding_a : winding.find? ["a"] = some (.link ".") := rfl

theorem winding_key :
    winding.find? ["key"] = some (.link "a/a/a/a/a/a/a/a/a/a/a/a/a/a/a/a/a/a/a/a") := rfl

theorem targetNames_dot : Tree.targetNames "." = ["."] := by decide

theorem targetNames_key : Tree.targetNames "a/a/a/a/a/a/a/a/a/a/a/a/a/a/a/a/a/a/a/a"
    = List.replicate 20 "a" := by decide

theorem winding_leads (n left : Nat) :
    winding.Leads (left + n) [] (List.replicate n "a") left [] := by
  induction n with
  | zero => exact .here left []
  | succ n ih =>
      refine .follow (by decide) (by decide) (by decide) winding_a ?_
      rw [ite_self, targetNames_dot]
      exact .stay (.inr rfl) ih

theorem winding_loop {n m : Nat} (h : n < m) :
    winding.walk .target n [] (List.replicate m "a") = .error .linkLoop := by
  induction n generalizing m with
  | zero =>
      obtain ⟨m, rfl⟩ := Nat.exists_eq_add_one.mpr h
      rw [List.replicate_succ, Tree.walk_target_link (by decide) winding_a]
  | succ n ih =>
      obtain ⟨m, rfl⟩ := Nat.exists_eq_add_one.mpr (Nat.zero_lt_of_lt h)
      rw [List.replicate_succ, Tree.walk_target_link (by decide) winding_a]
      simp only [ite_self, targetNames_dot, List.cons_append, List.nil_append]
      rw [Tree.walk, if_pos (.inr rfl)]
      exact ih (by omega)

/-- Both the path `key/key` and its sibling lie in the directory that the links wind back to. -/
theorem winding_above {name : String} (h : Utf8.size (Path.text ⟨"", ["key", name]⟩) < 4096) :
    winding.Above ⟨"", ["key", name]⟩ 19 [] := by
  refine ⟨h, by simp, ?_⟩
  refine .follow (by decide) (by decide) (by decide) winding_key ?_
  rw [targetNames_key]
  split <;> exact winding_leads 20 19

theorem winding_missing : winding.pathExists ⟨"", ["key", "key"]⟩ = .ok false := by
  have hresolve : winding.resolve ⟨"", ["key", "key"]⟩ .target = .error .linkLoop := by
    rw [(winding_above (by decide)).resolve (by simp),
      show Path.name ⟨"", ["key", "key"]⟩ = "key" from rfl,
      Tree.walk_target_link (by decide) winding_key]
    simp only [ite_self, targetNames_key, List.append_nil]
    exact winding_loop (by omega)
  rw [Tree.pathExists, hresolve]
  rfl

/-- Where a file stands under the first name of a path, nothing lies below it. -/
theorem not_leads_of_file {name : String} (hname : Tree.Ordinary name) {here : Location}
    {mode : Nat} {content : Bytes} (hfile : t.find? (here ++ [name]) = some (.file mode content))
    {links : Nat} {rest : List String} {left : Nat} {there : Location} :
    ¬t.Leads links here (name :: rest) left there := by
  obtain ⟨hempty, hdot, hup, -⟩ := hname
  intro h
  cases h with
  | stay h => exact h.elim hempty hdot
  | up => exact hup rfl
  | down _ _ _ hfind => simp [hfile] at hfind
  | follow _ _ _ hfind => simp [hfile] at hfind

section DeadEnd

variable {name : String} {mode left : Nat} {content : Bytes} {there : Location}

theorem not_above_of_file (hhome : t.home = [])
    (hfile : t.find? ["key"] = some (.file mode content)) :
    ¬t.Above ⟨"", ["key", name]⟩ left there := by
  intro habove
  have hleads := habove.leads
  rw [Tree.start, if_pos rfl, hhome] at hleads
  exact not_leads_of_file (by decide) hfile hleads

theorem missing_of_file (hhome : t.home = [])
    (hfile : t.find? ["key"] = some (.file mode content)) :
    t.pathExists ⟨"", ["key", "key"]⟩ = .ok false := by
  have hresolve : t.resolve ⟨"", ["key", "key"]⟩ .target = .error .notDirectory := by
    rw [Tree.resolve, if_neg (by decide), Tree.start, if_pos rfl, hhome, Tree.walk,
      if_neg (by decide), if_neg (by decide), if_neg (by simp), if_neg (by decide)]
    simp [hfile]
  rw [Tree.pathExists, if_neg (by decide), hresolve]

theorem unsavable_of_file (hhome : t.home = [])
    (hfile : t.find? ["key"] = some (.file mode content)) (k : Keypair) (t' : Tree) :
    (KeyFile.save faults k ⟨"", ["key", "key"]⟩).run t ≠ (.ok (), t') := by
  intro hsave
  have hsib : KeyFile.sibling ⟨"", ["key", "key"]⟩ = .ok ⟨"", ["key", ".key.tmp"]⟩ := rfl
  have hl : ∀ target,
      KeyFile.siblingAt? t ⟨"", ["key", "key"]⟩ ≠ some (.link target) := by
    intro target hlink
    rw [KeyFile.siblingAt?_of_ok hsib] at hlink
    obtain ⟨l, -, hnamed, -⟩ := Tree.namedAt_of_entryAt? (by decide) hlink
    obtain ⟨left, there, habove, -⟩ := hnamed.above
    exact not_above_of_file hhome hfile habove
  obtain ⟨temp, sib, loc, -, hr⟩ := KeyFile.save_eq_ok hl hsave
  obtain ⟨left, there, habove, -⟩ := hr.target.above
  exact not_above_of_file hhome hfile habove

end DeadEnd

/-- The keypair is saved in the place of the link that the path led through, and a second process
generates another one, which it cannot save. -/
theorem establish_unstable_through_links :
    let path : Path := ⟨"", ["key", "key"]⟩
    let s : Session Unit := .start winding [] ⟨true, [], 0⟩
    let k : Keypair := ⟨[1], [2]⟩
    (∀ target, KeyFile.siblingAt? s.files path ≠ some (.link target))
      ∧ ∃ s', (establish .none path ⟨1, 1⟩ fun _ => .ok k).run s = (.ok k, s')
        ∧ ∀ generate, ∃ e s'', (establish .none path ⟨1, 1⟩ generate).run s' = (.error e, s'')
          ∧ s''.calls = s'.calls ++ [.generateKeypair] := by
  intro path s k
  have hsib : KeyFile.sibling path = .ok ⟨"", ["key", ".key.tmp"]⟩ := rfl
  have hsource : winding.NamedAt ⟨"", ["key", ".key.tmp"]⟩ [".key.tmp"] :=
    ⟨by decide, 19, [], winding_above (by decide), rfl⟩
  have htarget : winding.NamedAt path ["key"] :=
    ⟨by decide, 19, [], winding_above (by decide), rfl⟩
  have hl : ∀ target, KeyFile.siblingAt? winding path ≠ some (.link target) := by
    intro target
    rw [KeyFile.siblingAt?_of_ok hsib, hsource.entryAt? (by decide)]
    simp [show winding.find? [".key.tmp"] = none from rfl]
  obtain ⟨t, hsave⟩ := KeyFile.save_of_unhindered k hsib (by decide) hsource
    (Tree.plain_of_free rfl) htarget (by simp [winding_key])
  have hfirst : (establish .none path ⟨1, 1⟩ fun _ => .ok k).run s = _ :=
    establish_of_saved winding_missing rfl rfl hsave
  refine ⟨hl, _, hfirst, fun generate => ?_⟩
  -- The keypair is in the place of the link that led on, so the path leads nowhere now.
  obtain ⟨temp, sib, loc, hsib', hr⟩ := KeyFile.save_eq_ok hl hsave
  obtain rfl := Except.ok.inj (hsib.symm.trans hsib')
  obtain rfl := hr.target.unique htarget
  obtain ⟨mode, hfile⟩ := hr.stored
  have hhome : t.home = [] := hr.agrees.home
  exact establish_of_unsavable (missing_of_file hhome hfile) (unsavable_of_file hhome hfile)

end SeedNode.Identity

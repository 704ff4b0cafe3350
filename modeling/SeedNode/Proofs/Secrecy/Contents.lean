import SeedNode.Proofs.Files.Walk
import SeedNode.Proofs.Secrecy.Agreement

/-!
# Trees that differ in what files hold

Two trees are alike by a relation on contents if they have the same directories and links, and
files of the same modes in the same places whose contents are related. No path tells them apart
until a file is read: every path leads to the same place in both, is refused for the same reason,
and every change to both leaves them alike.
-/

namespace SeedNode

variable {C : Bytes → Bytes → Prop}

def SameLength (content content' : Bytes) : Prop :=
  content'.length = content.length

/-- The same kind of entry; what files hold is related by `C`. -/
inductive Entry.Alike (C : Bytes → Bytes → Prop) : Entry → Entry → Prop
  | file (mode : Nat) {content content' : Bytes} (h : C content content') :
      Alike C (.file mode content) (.file mode content')
  | directory : Alike C .directory .directory
  | link (target : String) : Alike C (.link target) (.link target)

theorem Entry.Alike.refl (hC : ∀ c, C c c) : ∀ e : Entry, Entry.Alike C e e
  | .file mode content => .file mode (hC content)
  | .directory => .directory
  | .link target => .link target

namespace Tree

variable {t t' : Tree} {loc : Location}

/-- Nothing but what files hold tells the trees apart, and that is related by `C`. -/
structure Alike (C : Bytes → Bytes → Prop) (t t' : Tree) : Prop where
  home : t'.home = t.home
  find? : ∀ l, Option.Rel (Entry.Alike C) (t.find? l) (t'.find? l)

/-- Where the same place is reached, what stands there is alike. -/
inductive Spot.Alike (C : Bytes → Bytes → Prop) : Spot → Spot → Prop
  | found (loc : Location) {e e' : Entry} (h : Entry.Alike C e e') :
      Alike C (.found loc e) (.found loc e')
  | free (loc : Location) : Alike C (.free loc) (.free loc)

namespace Alike

theorem refl (hC : ∀ c, C c c) (t : Tree) : t.Alike C t := by
  refine ⟨rfl, fun l => ?_⟩
  cases t.find? l with
  | none => exact .none
  | some e => exact .some (Entry.Alike.refl hC e)

theorem mono {C' : Bytes → Bytes → Prop} (hC : ∀ c c', C c c' → C' c c') (h : t.Alike C t') :
    t.Alike C' t' := by
  refine ⟨h.home, fun l => ?_⟩
  have hl := h.find? l
  generalize t.find? l = o at hl ⊢
  generalize t'.find? l = o' at hl ⊢
  cases hl with
  | none => exact .none
  | some he =>
      refine .some ?_
      cases he with
      | file mode hcontent => exact .file mode (hC _ _ hcontent)
      | directory => exact .directory
      | link target => exact .link target

/-! ## Entries -/

theorem none (h : t.Alike C t') (hfind : t.find? loc = none) : t'.find? loc = none := by
  have hloc := h.find? loc
  rw [hfind] at hloc
  generalize t'.find? loc = o at hloc ⊢
  cases hloc
  rfl

theorem some (h : t.Alike C t') {e : Entry} (hfind : t.find? loc = some e) :
    ∃ e', t'.find? loc = some e' ∧ Entry.Alike C e e' := by
  have hloc := h.find? loc
  rw [hfind] at hloc
  generalize t'.find? loc = o at hloc ⊢
  cases hloc with
  | some he => exact ⟨_, rfl, he⟩

theorem directory (h : t.Alike C t') (hfind : t.find? loc = .some .directory) :
    t'.find? loc = .some .directory := by
  obtain ⟨e', hfind', he⟩ := h.some hfind
  cases he
  exact hfind'

theorem link (h : t.Alike C t') {target : String} (hfind : t.find? loc = .some (.link target)) :
    t'.find? loc = .some (.link target) := by
  obtain ⟨e', hfind', he⟩ := h.some hfind
  cases he
  exact hfind'

theorem file (h : t.Alike C t') {mode : Nat} {content : Bytes}
    (hfind : t.find? loc = .some (.file mode content)) :
    ∃ content', t'.find? loc = .some (.file mode content') ∧ C content content' := by
  obtain ⟨e', hfind', he⟩ := h.some hfind
  cases he with
  | file _ hcontent => exact ⟨_, hfind', hcontent⟩

/-! ## Following a path -/

theorem walk (h : t.Alike C t') (purpose : Purpose) (links : Nat) (here : Location)
    (names : List String) :
    Agree (Spot.Alike C) (t.walk purpose links here names)
      (t'.walk purpose links here names) := by
  fun_induction Tree.walk t purpose links here names with
  | case1 links here =>
      rw [Tree.walk]
      exact .ok (.found here .directory)
  | case2 links here name rest hname ih =>
      rw [Tree.walk, if_pos hname]
      exact ih
  | case3 links here rest hname ih =>
      rw [Tree.walk, if_neg hname, if_pos rfl]
      exact ih
  | case4 links here name rest hname hup hend =>
      rw [Tree.walk, if_neg hname, if_neg hup, if_pos hend]
      exact .error _
  | case5 links here name rest hname hup hend hsize =>
      rw [Tree.walk, if_neg hname, if_neg hup, if_neg hend, if_pos hsize]
      exact .error _
  | case6 links here name hname hup hsize next hfind =>
      have hfind' : t'.find? (here ++ [name]) = .none := h.none hfind
      rw [Tree.walk, if_neg hname, if_neg hup, if_neg (by simp), if_neg hsize]
      simp only [hfind', if_true]
      exact .ok (.free next)
  | case7 links here name rest hname hup hend hsize next hfind hrest =>
      have hfind' : t'.find? (here ++ [name]) = .none := h.none hfind
      rw [Tree.walk, if_neg hname, if_neg hup, if_neg hend, if_neg hsize]
      simp only [hfind', if_neg hrest]
      exact .error _
  | case8 links here name rest hname hup hend hsize next hfind ih =>
      have hfind' : t'.find? (here ++ [name]) = .some .directory := h.directory hfind
      rw [Tree.walk, if_neg hname, if_neg hup, if_neg hend, if_neg hsize]
      simp only [hfind']
      exact ih
  | case9 links here name hname hup hsize next mode content hfind =>
      obtain ⟨content', hfind', hcontent⟩ := h.file hfind
      simp only [next] at hfind'
      rw [Tree.walk, if_neg hname, if_neg hup, if_neg (by simp), if_neg hsize]
      simp only [hfind', if_true]
      exact .ok (.found next (.file mode hcontent))
  | case10 links here name rest hname hup hend hsize next mode content hfind hrest =>
      obtain ⟨content', hfind', -⟩ := h.file hfind
      simp only [next] at hfind'
      rw [Tree.walk, if_neg hname, if_neg hup, if_neg hend, if_neg hsize]
      simp only [hfind', if_neg hrest]
      exact .error _
  | case11 links here name rest hname hup hend hsize next target hfind hown =>
      have hfind' : t'.find? (here ++ [name]) = .some (.link target) := h.link hfind
      rw [Tree.walk, if_neg hname, if_neg hup, if_neg hend, if_neg hsize]
      simp only [hfind', if_pos hown]
      exact .ok (.found next (.link target))
  | case12 here name rest hname hup hend hsize next target hfind hfollow =>
      have hfind' : t'.find? (here ++ [name]) = .some (.link target) := h.link hfind
      rw [Tree.walk, if_neg hname, if_neg hup, if_neg hend, if_neg hsize]
      simp only [hfind', if_neg hfollow]
      exact .error _
  | case13 here name rest hname hup hend hsize next target hfind hfollow left start ih =>
      have hfind' : t'.find? (here ++ [name]) = .some (.link target) := h.link hfind
      rw [Tree.walk, if_neg hname, if_neg hup, if_neg hend, if_neg hsize]
      simp only [hfind', if_neg hfollow]
      exact ih

theorem resolve (h : t.Alike C t') (p : Path) (purpose : Purpose) :
    Agree (Spot.Alike C) (t.resolve p purpose) (t'.resolve p purpose) := by
  have hstart : t'.start p = t.start p := by rw [Tree.start, Tree.start, h.home]
  rw [Tree.resolve, Tree.resolve, hstart]
  split
  · exact .error _
  · exact h.walk purpose maxLinks _ _

theorem resolveNamed (h : t.Alike C t') (p : Path) (purpose : Purpose) :
    Agree (Spot.Alike C) (t.resolveNamed p purpose) (t'.resolveNamed p purpose) := by
  have hres := h.resolve p purpose
  rw [Tree.resolveNamed, Tree.resolveNamed]
  split
  · exact .error _
  · generalize t.resolve p purpose = r at hres ⊢
    generalize t'.resolve p purpose = r' at hres ⊢
    cases hres with
    | ok hspot => exact .ok hspot
    | error e => exact .error _

/-! ## Questions -/

theorem pathExists (h : t.Alike C t') (p : Path) : t'.pathExists p = t.pathExists p := by
  have hres := h.resolve p .target
  rw [Tree.pathExists, Tree.pathExists]
  generalize t.resolve p .target = r at hres ⊢
  generalize t'.resolve p .target = r' at hres ⊢
  cases hres with
  | ok hspot => cases hspot <;> rfl
  | error e => rfl

theorem isFile (h : t.Alike C t') (p : Path) : t'.isFile p = t.isFile p := by
  have hres := h.resolve p .target
  rw [Tree.isFile, Tree.isFile]
  generalize t.resolve p .target = r at hres ⊢
  generalize t'.resolve p .target = r' at hres ⊢
  cases hres with
  | error e => rfl
  | ok hspot =>
      cases hspot with
      | free l => rfl
      | found l he => cases he <;> rfl

theorem read (h : t.Alike C t') (p : Path) : Agree C (t.read p) (t'.read p) := by
  rw [Tree.read, Tree.read]
  refine (h.resolveNamed p .target).bind fun spot spot' hspot => ?_
  cases hspot with
  | free l => exact .error _
  | found l he =>
      cases he with
      | file mode hcontent => exact .ok hcontent
      | _ => exact .error _

theorem entryAt?_link (h : t.Alike C t') (p : Path) (target : String) :
    t'.entryAt? p = .some (.link target) ↔ t.entryAt? p = .some (.link target) := by
  have hnamed := h.resolveNamed p .entry
  rw [Tree.entryAt?, Tree.entryAt?]
  generalize t.resolveNamed p .entry = r at hnamed ⊢
  generalize t'.resolveNamed p .entry = r' at hnamed ⊢
  cases hnamed with
  | error e => exact Iff.rfl
  | ok hspot =>
      cases hspot with
      | free l => exact Iff.rfl
      | found l he => cases he <;> simp

/-! ## Changes -/

theorem insert (h : t.Alike C t') (loc : Location) {e e' : Entry} (he : Entry.Alike C e e') :
    (t.insert loc e).Alike C (t'.insert loc e') := by
  refine ⟨h.home, fun l => ?_⟩
  by_cases hl : l = loc
  · subst hl
    by_cases hroot : l = []
    · subst hroot
      exact .some .directory
    · rw [find?_insert_self t e hroot, find?_insert_self t' e' hroot]
      exact .some he
  · rw [find?_insert_of_ne t e hl, find?_insert_of_ne t' e' hl]
    exact h.find? l

theorem erase (h : t.Alike C t') (loc : Location) : (t.erase loc).Alike C (t'.erase loc) := by
  refine ⟨h.home, fun l => ?_⟩
  by_cases hl : l = loc
  · subst hl
    by_cases hroot : l = []
    · subst hroot
      exact .some .directory
    · rw [find?_erase_self t hroot, find?_erase_self t' hroot]
      exact .none
  · rw [find?_erase_of_ne t hl, find?_erase_of_ne t' hl]
    exact h.find? l

theorem setContent (h : t.Alike C t') (loc : Location) {content content' : Bytes}
    (hC : C content content') :
    (t.setContent loc content).Alike C (t'.setContent loc content') := by
  rw [Tree.setContent, Tree.setContent]
  cases hfind : t.find? loc with
  | none => rwa [h.none hfind]
  | some e =>
      cases e with
      | file mode old =>
          obtain ⟨old', hfind', -⟩ := h.file hfind
          rw [hfind']
          exact h.insert loc (.file mode hC)
      | directory => rwa [h.directory hfind]
      | link target => rwa [h.link hfind]

theorem openForWriting (h : t.Alike C t') (hnew : C [] []) (p : Path) (mode : Nat) :
    Agree (fun opened opened' => opened'.1 = opened.1 ∧ opened.2.Alike C opened'.2)
      (t.openForWriting p mode) (t'.openForWriting p mode) := by
  rw [Tree.openForWriting, Tree.openForWriting]
  refine (h.resolveNamed p .creation).bind fun spot spot' hspot => ?_
  cases hspot with
  | free l => exact .ok ⟨rfl, h.insert l (.file _ hnew)⟩
  | found l he =>
      cases he with
      | file mode hcontent => exact .ok ⟨rfl, h⟩
      | _ => exact .error _

theorem remove (h : t.Alike C t') (p : Path) : Agree (Tree.Alike C) (t.remove p) (t'.remove p) := by
  rw [Tree.remove, Tree.remove]
  refine (h.resolveNamed p .entry).bind fun spot spot' hspot => ?_
  cases hspot with
  | free l => exact .error _
  | found l he =>
      cases he with
      | directory => exact .error _
      | _ => exact .ok (h.erase l)

theorem rename (h : t.Alike C t') (source target : Path) :
    Agree (Tree.Alike C) (t.rename source target) (t'.rename source target) := by
  have hs := h.resolve source .entry
  have ht := h.resolve target .entry
  rw [Tree.rename, Tree.rename]
  split
  · exact .error _
  generalize t.resolve source .entry = r at hs ⊢
  generalize t'.resolve source .entry = r' at hs ⊢
  generalize t.resolve target .entry = q at ht ⊢
  generalize t'.resolve target .entry = q' at ht ⊢
  have hmoved : ∀ (old new : Location) {e e' : Entry}, Entry.Alike C e e' →
      Agree (Tree.Alike C)
        (if old = new then .ok t else .ok ((t.erase old).insert new e) : Except Failure Tree)
        (if old = new then .ok t' else .ok ((t'.erase old).insert new e')) := by
    intro old new e e' he
    split
    · exact .ok h
    · exact .ok ((h.erase old).insert new he)
  cases hs with
  | error e => exact .error _
  | ok hspot =>
      cases ht with
      | error e => cases hspot <;> exact .error _
      | ok hspot' =>
          cases hspot with
          | free l => exact .error _
          | found old he =>
              have hsource := he
              cases he
              case directory => exact .error _
              all_goals
                cases hspot' with
                | free new => exact hmoved old new hsource
                | found new he' =>
                    cases he' with
                    | directory => exact .error _
                    | _ => exact hmoved old new hsource

end Alike

end Tree

end SeedNode

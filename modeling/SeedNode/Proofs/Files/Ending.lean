import SeedNode.Proofs.Files.Changes

/-!
# Paths that lead through their own end

A path may lead through the very entry that it ends in, as `key/../key` does where `key` is a link
to a directory. When that entry is replaced by a file, the path leads nowhere. `EndsOnce` rules
this out. It holds of every path that leads to nothing, save for those that are refused for the
number of links in them (`endsOnce_of_missing`): an entry that the path came through once is a
directory or a link to one, and is found again unless the links run out.
-/

namespace SeedNode.Tree

variable {t t' : Tree} {loc : Location} {p : Path}

/-- The path does not lead through the entry that it ends in: it finds its place without it. -/
def EndsOnce (t : Tree) (p : Path) : Prop :=
  ∀ loc, t.place? p = some loc → (t.erase loc).place? p = some loc

/-! ## Parts of a way -/

theorem Leads.front {links : Nat} {here : Location} {all : List String} {left : Nat}
    {there : Location} (h : t.Leads links here all left there) :
    ∀ names after, all = names ++ after → ∃ mid place, t.Leads links here names mid place := by
  induction h with
  | here links here =>
      intro names after heq
      obtain ⟨rfl, -⟩ := List.append_eq_nil_iff.mp heq.symm
      exact ⟨links, here, .here links here⟩
  | @stay links here name rest left there hname _ ih =>
      intro names after heq
      cases names with
      | nil => exact ⟨links, here, .here links here⟩
      | cons first names =>
          obtain ⟨rfl, rfl⟩ := List.cons.inj heq
          obtain ⟨mid, place, h⟩ := ih names after rfl
          exact ⟨mid, place, .stay hname h⟩
  | @up links here rest left there _ ih =>
      intro names after heq
      cases names with
      | nil => exact ⟨links, here, .here links here⟩
      | cons first names =>
          obtain ⟨rfl, rfl⟩ := List.cons.inj heq
          obtain ⟨mid, place, h⟩ := ih names after rfl
          exact ⟨mid, place, .up h⟩
  | @down links here name rest left there hname hup hsize hfind _ ih =>
      intro names after heq
      cases names with
      | nil => exact ⟨links, here, .here links here⟩
      | cons first names =>
          obtain ⟨rfl, rfl⟩ := List.cons.inj heq
          obtain ⟨mid, place, h⟩ := ih names after rfl
          exact ⟨mid, place, .down hname hup hsize hfind h⟩
  | @follow links here name rest left there target hname hup hsize hfind _ ih =>
      intro names after heq
      cases names with
      | nil => exact ⟨links + 1, here, .here (links + 1) here⟩
      | cons first names =>
          obtain ⟨rfl, rfl⟩ := List.cons.inj heq
          obtain ⟨mid, place, h⟩ := ih (targetNames target ++ names) after (by simp)
          exact ⟨mid, place, .follow hname hup hsize hfind h⟩

/-- A link at the end or on the way is followed if there are links left. -/
theorem walk_target_link {name target : String} (hn : Ordinary name) {here : Location}
    (hfind : t.find? (here ++ [name]) = some (.link target)) (links : Nat) (rest : List String) :
    t.walk .target links here (name :: rest) = match links with
      | 0 => .error .linkLoop
      | left + 1 => t.walk .target left (if target.startsWith "/" then [] else here)
          (targetNames target ++ rest) := by
  obtain ⟨hempty, hdot, hup, hsize⟩ := hn
  rw [Tree.walk, if_neg (not_or.mpr ⟨hempty, hdot⟩), if_neg hup, if_neg (by simp),
    if_neg (Nat.not_lt.mpr hsize)]
  cases links with
  | zero => simp [hfind]
  | succ left => simp [hfind]

/-- Names that lead to a directory lead there again, unless the links run out. -/
theorem Leads.walk_target {links : Nat} {here : Location} {names : List String} {left : Nat}
    {there : Location} (h : t.Leads links here names left there) (fewer : Nat) :
    t.walk .target fewer here names = .ok (.found there .directory)
      ∨ t.walk .target fewer here names = .error .linkLoop := by
  induction h generalizing fewer with
  | here links here => exact .inl (by rw [Tree.walk])
  | stay hname _ ih =>
      rw [Tree.walk, if_pos hname]
      exact ih fewer
  | up _ ih =>
      rw [Tree.walk, if_neg (by decide), if_pos rfl]
      exact ih fewer
  | down hname hup hsize hfind _ ih =>
      rw [Tree.walk, if_neg hname, if_neg hup, if_neg (by simp), if_neg hsize]
      simp only [hfind]
      exact ih fewer
  | follow hname hup hsize hfind _ ih =>
      rw [Tree.walk, if_neg hname, if_neg hup, if_neg (by simp), if_neg hsize]
      simp only [hfind, reduceCtorEq, and_false, if_false]
      cases fewer with
      | zero => exact .inr rfl
      | succ fewer => exact ih fewer

/-- A way through the tree either does without a location, or comes through a directory there, or
follows a link there. -/
theorem Leads.without {links : Nat} {here : Location} {names : List String} {left : Nat}
    {there : Location} (h : t.Leads links here names left there) (loc : Location) :
    (t.erase loc).Leads links here names left there
      ∨ t.find? loc = some .directory
      ∨ ∃ dir name target more rest, loc = dir ++ [name] ∧ t.find? loc = some (.link target)
        ∧ t.Leads more (if target.startsWith "/" then [] else dir) (targetNames target ++ rest)
          left there := by
  induction h with
  | here links here => exact .inl (.here links here)
  | stay hname _ ih => exact ih.imp_left (.stay hname)
  | up _ ih => exact ih.imp_left .up
  | @down links here name rest left there hname hup hsize hfind _ ih =>
      by_cases hloc : here ++ [name] = loc
      · exact .inr (.inl (hloc ▸ hfind))
      · refine ih.imp_left (.down hname hup hsize ?_)
        rw [find?_erase_of_ne t hloc, hfind]
  | @follow links here name rest left there target hname hup hsize hfind hrest ih =>
      by_cases hloc : here ++ [name] = loc
      · exact .inr (.inr ⟨here, name, target, links, rest, hloc.symm, hloc ▸ hfind, hrest⟩)
      · refine ih.imp_left (.follow hname hup hsize ?_)
        rw [find?_erase_of_ne t hloc, hfind]

/-! ## Missing entries -/

/-- A path to nothing finds its place without the entry that it ends in, unless it is refused for
the links in it. -/
theorem endsOnce_of_missing (hp : Ordinary p.name) (hmissing : t.pathExists p = .ok false)
    (hloop : t.resolve p .target ≠ .error .linkLoop) : t.EndsOnce p := by
  intro loc hplace
  obtain ⟨hnull, hnamed⟩ := namedAt_of_place? hp hplace
  have hresolve : ∀ l e, t.resolve p .target ≠ .ok (.found l e) := by
    intro l e hres
    rw [pathExists, hnull, hres] at hmissing
    cases hmissing
  obtain ⟨left, there, habove, rfl⟩ := hnamed.above
  rw [habove.resolve (by simp)] at hresolve hloop
  obtain h | h | ⟨dir, name, target, more, rest, heq, hfind, hway⟩ :=
    habove.leads.without (there ++ [p.name])
  · have herased : (t.erase (there ++ [p.name])).NamedAt p (there ++ [p.name]) :=
      ⟨hp, left, there, ⟨habove.short, habove.named, h⟩, rfl⟩
    exact herased.place? hnull
  · have hfound : t.walk .target left there [p.name] = .ok (t.spotAt (there ++ [p.name])) :=
      walk_ordinary hp left there (.inr (by simp [h]))
    rw [spotAt, h] at hfound
    exact absurd hfound (hresolve _ _)
  · obtain ⟨rfl, hname⟩ := List.append_inj' heq rfl
    rw [walk_target_link hp hfind, List.append_nil] at hresolve hloop
    cases left with
    | zero => exact absurd rfl hloop
    | succ left =>
        obtain ⟨mid, place, hfront⟩ := hway.front (targetNames target) rest rfl
        rcases hfront.walk_target left with hfound | hrefused
        · exact absurd hfound (hresolve _ _)
        · exact absurd hrefused hloop

end SeedNode.Tree

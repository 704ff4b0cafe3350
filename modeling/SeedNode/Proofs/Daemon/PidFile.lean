import SeedNode.Detach
import SeedNode.Proofs.Effects
import SeedNode.Proofs.Files.Changes

/-!
# The file of the process number

The file is opened where its path leads (`Targets`): at a file, or at the free name where one is
made. No way leads through such a place, so the path leads there however the file there changes, and
what can be read under the path is the content at that place. Opening appends nothing to it and a
line appends itself (`Appends`), and neither touches anything else.
-/

namespace SeedNode

namespace Tree

variable {t t' t'' : Tree} {path : Path} {loc loc' : Location} {mode : Nat}

/-! ## Where the file is -/

/-- The path leads to a file at a location, or to the free name where one is to be made. -/
structure Targets (t : Tree) (path : Path) (loc : Location) : Prop where
  spelled : path.hasNull = false
  resolves : t.resolve path .creation = .ok (t.spotAt loc)
  plain : t.Plain loc

theorem Targets.of_opened (h : t.openForWriting path mode = .ok (loc, t')) :
    t.Targets path loc := by
  obtain ⟨hnull, -, hres, -⟩ := openForWriting_resolves h
  exact ⟨hnull, hres, (openForWriting_opens h).2.2.1⟩

theorem Targets.unique (h : t.Targets path loc) (h' : t.Targets path loc') : loc = loc' :=
  spotAt_inj (Except.ok.inj (h.resolves.symm.trans h'.resolves))

/-- The path leads there still when the file there has changed, whatever it is followed for. -/
theorem Targets.resolve_of_agrees (h : t.Targets path loc) (hoff : AgreesOff [loc] t t')
    (hplain : t'.Plain loc) {purpose : Purpose} (hpurpose : purpose ≠ .entry) :
    t'.resolve path purpose = .ok (t'.spotAt loc) := by
  have hways : KeepsWays t t' := hoff.keepsWays fun l hl => by
    rw [List.mem_singleton.mp hl]
    exact h.plain
  exact resolve_of_keepsWays (by simp) hpurpose (fun _ => rfl) hways h.plain hplain.not_link
    h.resolves

theorem Targets.agrees (h : t.Targets path loc) (hoff : AgreesOff [loc] t t')
    (hplain : t'.Plain loc) : t'.Targets path loc :=
  ⟨h.spelled, h.resolve_of_agrees hoff hplain (by simp), hplain⟩

/-! ## What it records -/

/-- What can be read under a path, or nothing. -/
def recorded (path : Path) (t : Tree) : Bytes :=
  match t.read path with
  | .ok content => content
  | .error _ => []

theorem Targets.recorded_eq (h : t.Targets path loc) : recorded path t = t.contentAt loc := by
  have hres : t.resolve path .target = .ok (t.spotAt loc) :=
    h.resolve_of_agrees (.refl _ _) h.plain (by simp)
  rw [recorded, Tree.read, resolveNamed, h.spelled, hres, contentAt]
  cases hfind : t.find? loc with
  | none =>
      rw [spotAt_of_free hfind]
      rfl
  | some e =>
      obtain ⟨mode, content, rfl⟩ := h.plain e hfind
      rw [spotAt_of_find hfind]
      rfl

/-- The file that the path leads to was opened, and made if it was missing, and a line was appended
to it. Nothing else changed. -/
structure Appends (path : Path) (line : Bytes) (t t' : Tree) : Prop where
  content : recorded path t' = recorded path t ++ line
  others : ∃ loc mode, t.Targets path loc ∧ AgreesOff [loc] t t'
    ∧ t'.find? loc = some (.file mode (recorded path t ++ line))

theorem Appends.of_file {line : Bytes} (h : t.Targets path loc) (hoff : AgreesOff [loc] t t')
    (hfind : t'.find? loc = some (.file mode (t.contentAt loc ++ line))) :
    Appends path line t t' := by
  have htargets : t'.Targets path loc := h.agrees hoff (plain_of_file hfind)
  refine ⟨?_, loc, mode, h, hoff, ?_⟩
  · rw [htargets.recorded_eq, h.recorded_eq, contentAt, hfind]
  · rw [h.recorded_eq, hfind]

/-- Opening makes the file if there is none, and leaves its content. -/
theorem appends_of_opened (h : t.openForWriting path mode = .ok (loc, t')) :
    Appends path [] t t' ∧ t.Targets path loc
      ∧ ∃ mode, t'.find? loc = some (.file mode (t.contentAt loc)) := by
  have htargets := Targets.of_opened h
  obtain ⟨-, -, hplain, hoff, hfind⟩ := openForWriting_opens h
  have hfile : ∃ mode, t'.find? loc = some (.file mode (t.contentAt loc)) := by
    rw [hfind, contentAt]
    cases hold : t.find? loc with
    | none => exact ⟨_, rfl⟩
    | some e =>
        obtain ⟨mode, content, rfl⟩ := hplain e hold
        exact ⟨mode, rfl⟩
  obtain ⟨mode, hmade⟩ := hfile
  exact ⟨.of_file htargets hoff (by rw [hmade, List.append_nil]), htargets, mode, hmade⟩

/-- A line that is put after the content of the opened file is appended. -/
theorem appends_of_written (h : t.openForWriting path mode = .ok (loc, t')) (line : Bytes) :
    Appends path line t (t'.setContent loc (t'.contentAt loc ++ line)) := by
  obtain ⟨-, htargets, mode, hfile⟩ := appends_of_opened h
  obtain ⟨-, hne, -, hoff, -⟩ := openForWriting_opens h
  have hcontent : t'.contentAt loc = t.contentAt loc := by rw [contentAt, hfile]
  rw [setContent_of_file t' _ hfile, hcontent]
  exact .of_file htargets (hoff.trans (agreesOff_insert t' loc _)) (find?_insert_self t' _ hne)

end Tree

end SeedNode

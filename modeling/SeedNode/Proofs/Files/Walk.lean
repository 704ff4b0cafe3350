import SeedNode.Files.Tree

/-!
# Where paths lead

A path is followed in two parts: first the names above its end, each of which has to lead to a
directory, then the name at its end, where the purpose decides. `Leads` is the first part as a
relation, so that it can be taken along from one tree to another: it looks only at directories and
links, and holds in every tree that has those too (`Leads.mono`). `NamedAt` puts the parts
together and says at which location a path finds its own entry.
-/

namespace SeedNode

/-! ## The length of texts -/

@[simp] theorem Utf8.encodeChars_append (a b : List Char) :
    encodeChars (a ++ b) = encodeChars a ++ encodeChars b := by
  induction a with
  | nil => rfl
  | cons c rest ih => rw [List.cons_append, encodeChars, encodeChars, ih, List.append_assoc]

@[simp] theorem Utf8.size_append (a b : String) : size (a ++ b) = size a + size b := by
  rw [size, encode, String.toList_append, encodeChars_append, List.length_append]
  rfl

/-! ## The text of a path -/

theorem Path.names_eq {p : Path} (h : p.names ≠ []) :
    p.names = p.names.dropLast ++ [p.name] := by
  rw [Path.name, List.getLast?_eq_some_getLast h, Option.getD_some, List.dropLast_concat_getLast]

/-- The text of a path up to its last name. -/
def Path.textAbove (p : Path) : String :=
  p.root ++ if p.names.dropLast = [] then "" else "/".intercalate p.names.dropLast ++ "/"

theorem Path.text_eq {p : Path} (h : p.names ≠ []) : p.text = p.textAbove ++ p.name := by
  have hroot : ¬(p.root = "" ∧ p.names = []) := fun hr => h hr.2
  rw [Path.text, if_neg hroot, Path.textAbove, Path.names_eq h]
  by_cases hd : p.names.dropLast = []
  · simp [hd]
  · rw [String.intercalate_append_of_ne_nil hd (by simp)]
    simp [hd, String.append_assoc]

theorem Path.ne_empty_of_mem_namesOf {name text : String} (h : name ∈ namesOf text) :
    name ≠ "" := by
  rw [namesOf, List.mem_map] at h
  obtain ⟨piece, hpiece, rfl⟩ := h
  have hnonempty : piece ≠ [] := (of_decide_eq_true (List.mem_filter.mp hpiece).2).1
  simpa using hnonempty

theorem Path.intercalate_ne_empty {names : List String} (hnames : names ≠ [])
    (h : ∀ name ∈ names, name ≠ "") : "/".intercalate names ≠ "" := by
  cases names with
  | nil => exact absurd rfl hnames
  | cons name rest =>
      have hname := h name (List.mem_cons_self ..)
      cases rest with
      | nil => simpa using hname
      | cons next rest =>
          rw [String.intercalate_cons_of_ne_nil (by simp)]
          simp

/-- The path of the empty text is the single dot. -/
theorem Path.text_ofString_ne_empty (text : String) : (ofString text).text ≠ "" := by
  rw [Path.text]
  split
  · decide
  · rename_i hnot
    intro hempty
    obtain ⟨hroot, hnames⟩ := String.append_eq_empty_iff.mp hempty
    have hne : (ofString text).names ≠ [] := fun hnone => hnot ⟨hroot, hnone⟩
    exact intercalate_ne_empty hne (fun _ => ne_empty_of_mem_namesOf) hnames

namespace Tree

variable {t t' : Tree} {loc : Location}

/-! ## Entries -/

theorem lookup_filter_ne {α : Type} (entries : List (Location × α)) {l : Location}
    (h : l ≠ loc) :
    (entries.filter fun entry => entry.1 != loc).lookup l = entries.lookup l := by
  induction entries with
  | nil => rfl
  | cons entry rest ih =>
      obtain ⟨k, e⟩ := entry
      by_cases hk : k = loc
      · subst hk
        have hl : (l == k) = false := beq_eq_false_iff_ne.mpr h
        rw [List.filter_cons_of_neg (by simp), List.lookup_cons, hl, ih]
      · rw [List.filter_cons_of_pos (by simpa using hk), List.lookup_cons, List.lookup_cons, ih]

theorem lookup_filter_self {α : Type} (entries : List (Location × α)) :
    (entries.filter fun entry => entry.1 != loc).lookup loc = none := by
  rw [List.lookup_eq_none_iff]
  intro entry hentry
  have h : entry.1 ≠ loc := by simpa using (List.mem_filter.mp hentry).2
  exact bne_iff_ne.mpr h.symm

@[simp] theorem find?_insert_self (t : Tree) (e : Entry) (h : loc ≠ []) :
    (t.insert loc e).find? loc = some e := by
  simp [find?, insert, h]

@[simp] theorem find?_insert_of_ne (t : Tree) (e : Entry) {l : Location} (h : l ≠ loc) :
    (t.insert loc e).find? l = t.find? l := by
  have hl : (l == loc) = false := beq_eq_false_iff_ne.mpr h
  simp only [find?, insert, List.lookup_cons, hl, lookup_filter_ne t.entries h]

@[simp] theorem find?_erase_self (t : Tree) (h : loc ≠ []) : (t.erase loc).find? loc = none := by
  simp only [find?, erase, if_neg h, lookup_filter_self]

@[simp] theorem find?_erase_of_ne (t : Tree) {l : Location} (h : l ≠ loc) :
    (t.erase loc).find? l = t.find? l := by
  simp only [find?, erase, lookup_filter_ne t.entries h]

theorem setContent_of_file (t : Tree) {mode : Nat} {old : Bytes} (content : Bytes)
    (h : t.find? loc = some (.file mode old)) :
    t.setContent loc content = t.insert loc (.file mode content) := by
  rw [setContent, h]

/-- What stands at a location, as a place that a path may lead to. -/
def spotAt (t : Tree) (loc : Location) : Spot :=
  match t.find? loc with
  | none => .free loc
  | some e => .found loc e

theorem spotAt_of_free (h : t.find? loc = none) : t.spotAt loc = .free loc := by
  rw [spotAt, h]

theorem spotAt_of_find {e : Entry} (h : t.find? loc = some e) : t.spotAt loc = .found loc e := by
  rw [spotAt, h]

theorem spotAt_inj {loc' : Location} (h : t.spotAt loc = t.spotAt loc') : loc = loc' := by
  rw [spotAt, spotAt] at h
  cases ht : t.find? loc <;> cases ht' : t.find? loc' <;> simp_all

/-! ## The names above the end -/

/-- From `here`, the names lead through directories and links to the directory `there`, and `left`
of the links that may be followed are left over. -/
inductive Leads (t : Tree) : Nat → Location → List String → Nat → Location → Prop
  | here (links : Nat) (here : Location) : Leads t links here [] links here
  | stay {links here name rest left there} (hname : name = "" ∨ name = ".")
      (h : Leads t links here rest left there) : Leads t links here (name :: rest) left there
  | up {links here rest left there} (h : Leads t links here.dropLast rest left there) :
      Leads t links here (".." :: rest) left there
  | down {links here name rest left there} (hname : ¬(name = "" ∨ name = "."))
      (hup : name ≠ "..") (hsize : ¬maxName < Utf8.size name)
      (hfind : t.find? (here ++ [name]) = some .directory)
      (h : Leads t links (here ++ [name]) rest left there) :
      Leads t links here (name :: rest) left there
  | follow {links here name rest left there target} (hname : ¬(name = "" ∨ name = "."))
      (hup : name ≠ "..") (hsize : ¬maxName < Utf8.size name)
      (hfind : t.find? (here ++ [name]) = some (.link target))
      (h : Leads t links (if target.startsWith "/" then [] else here) (targetNames target ++ rest)
        left there) :
      Leads t (links + 1) here (name :: rest) left there

/-- The directories and links of the first tree are in the second one too. -/
structure KeepsWays (t t' : Tree) : Prop where
  home : t'.home = t.home
  directory : ∀ l, t.find? l = some .directory → t'.find? l = some .directory
  link : ∀ l target, t.find? l = some (.link target) → t'.find? l = some (.link target)

theorem Leads.mono (hw : KeepsWays t t') {links : Nat} {here : Location} {names : List String}
    {left : Nat} {there : Location} (h : t.Leads links here names left there) :
    t'.Leads links here names left there := by
  induction h with
  | here links here => exact .here links here
  | stay hname _ ih => exact .stay hname ih
  | up _ ih => exact .up ih
  | down hname hup hsize hfind _ ih => exact .down hname hup hsize (hw.directory _ hfind) ih
  | follow hname hup hsize hfind _ ih => exact .follow hname hup hsize (hw.link _ _ hfind) ih

/-- Where the names above the end lead is where the last one is looked up. An empty last name is
left out, since it forbids the making of a file under the name before it. -/
theorem Leads.walk {purpose : Purpose} {last : String} (hlast : purpose = .creation → last ≠ "")
    {links : Nat} {here : Location} {names : List String} {left : Nat} {there : Location}
    (h : t.Leads links here names left there) :
    t.walk purpose links here (names ++ [last]) = t.walk purpose left there [last] := by
  have hslash : ∀ rest : List String, ¬(purpose = .creation ∧ rest ++ [last] = [""]) := by
    rintro rest ⟨hp, hr⟩
    have := hlast hp
    cases rest <;> simp_all
  induction h with
  | here links here => rfl
  | stay hname _ ih => rw [List.cons_append, Tree.walk, if_pos hname, ih]
  | up _ ih => rw [List.cons_append, Tree.walk, if_neg (by decide), if_pos rfl, ih]
  | down hname hup hsize hfind _ ih =>
      rw [List.cons_append, Tree.walk, if_neg hname, if_neg hup, if_neg (hslash _), if_neg hsize]
      simp only [hfind, ih]
  | follow hname hup hsize hfind _ ih =>
      rw [List.cons_append, Tree.walk, if_neg hname, if_neg hup, if_neg (hslash _), if_neg hsize]
      simp only [hfind, List.append_eq_nil_iff, List.cons_ne_nil, and_false, false_and, if_false]
      rw [← ih, List.append_assoc]

/-- A path that leads anywhere has its names above the end lead to a directory. -/
theorem leads_of_walk {purpose : Purpose} {last : String} {spot : Spot} :
    ∀ (links : Nat) (here : Location) (names : List String),
      t.walk purpose links here (names ++ [last]) = .ok spot →
      ∃ left there, t.Leads links here names left there
  | links, here, [], _ => ⟨links, here, .here links here⟩
  | links, here, name :: rest, h => by
      rw [List.cons_append, Tree.walk] at h
      by_cases hname : name = "" ∨ name = "."
      · rw [if_pos hname] at h
        obtain ⟨left, there, hl⟩ := leads_of_walk links here rest h
        exact ⟨left, there, .stay hname hl⟩
      rw [if_neg hname] at h
      by_cases hup : name = ".."
      · rw [if_pos hup] at h
        obtain ⟨left, there, hl⟩ := leads_of_walk links here.dropLast rest h
        exact ⟨left, there, hup ▸ .up hl⟩
      rw [if_neg hup] at h
      split at h
      · cases h
      split at h
      · cases h
      rename_i hsize
      have hrest : rest ++ [last] ≠ [] := by simp
      cases hfind : t.find? (here ++ [name]) with
      | none =>
          simp only [hfind, if_neg hrest] at h
          cases h
      | some e =>
          cases e with
          | directory =>
              simp only [hfind] at h
              obtain ⟨left, there, hl⟩ := leads_of_walk links (here ++ [name]) rest h
              exact ⟨left, there, .down hname hup hsize hfind hl⟩
          | file mode content =>
              simp only [hfind, if_neg hrest] at h
              cases h
          | link target =>
              simp only [hfind, hrest, false_and, if_false] at h
              cases links with
              | zero => cases h
              | succ links =>
                  simp only [← List.append_assoc] at h
                  obtain ⟨left, there, hl⟩ := leads_of_walk links _ (targetNames target ++ rest) h
                  exact ⟨left, there, .follow hname hup hsize hfind hl⟩
termination_by links _ names => (links, names.length)

/-! ## What a walk ends in -/

/-- A walk ends in a directory, or at what stands at some location. -/
theorem walk_spot {purpose : Purpose} {links : Nat} {here : Location} {names : List String}
    {spot : Spot} (h : t.walk purpose links here names = .ok spot) :
    (∃ l, spot = .found l .directory) ∨ ∃ l, l ≠ [] ∧ spot = t.spotAt l := by
  fun_induction Tree.walk t purpose links here names with
  | case1 links here => exact .inl ⟨here, (Except.ok.inj h).symm⟩
  | case2 => exact ‹_ → _› h
  | case3 => exact ‹_ → _› h
  | case8 => exact ‹_ → _› h
  | case13 => exact ‹_ → _› h
  | case6 links here name _ _ _ next hfind =>
      exact .inr ⟨next, by simp [next], by rw [spotAt_of_free hfind, Except.ok.inj h]⟩
  | case9 links here name _ _ _ next mode content hfind =>
      exact .inr ⟨next, by simp [next], by rw [spotAt_of_find hfind, Except.ok.inj h]⟩
  | case11 links here name _ _ _ _ _ next target hfind =>
      exact .inr ⟨next, by simp [next], by rw [spotAt_of_find hfind, Except.ok.inj h]⟩
  | _ => cases h

/-- Where no file is to be made, a walk gives up for want of an entry or a directory, or over what
is too long or too much to follow. -/
theorem walk_error {purpose : Purpose} (hp : purpose ≠ .creation) {links : Nat} {here : Location}
    {names : List String} {e : Errno} (h : t.walk purpose links here names = .error e) :
    e = .noEntry ∨ e = .notDirectory ∨ e = .linkLoop ∨ e = .nameTooLong := by
  fun_induction Tree.walk t purpose links here names <;> simp_all

theorem resolve_error {p : Path} {purpose : Purpose} (hp : purpose ≠ .creation) {e : Errno}
    (h : t.resolve p purpose = .error e) :
    e = .noEntry ∨ e = .notDirectory ∨ e = .linkLoop ∨ e = .nameTooLong := by
  rw [Tree.resolve] at h
  split at h
  · simp [← Except.error.inj h]
  · exact walk_error hp h

/-! ## The end of a path -/

/-- Names that a directory can have an entry under. -/
def Ordinary (name : String) : Prop :=
  name ≠ "" ∧ name ≠ "." ∧ name ≠ ".." ∧ Utf8.size name ≤ maxName

instance : DecidablePred Ordinary := fun name =>
  inferInstanceAs (Decidable (name ≠ "" ∧ name ≠ "." ∧ name ≠ ".." ∧ Utf8.size name ≤ maxName))

/-- What an ordinary name leads to, unless it has to be followed as a link. -/
theorem walk_ordinary {purpose : Purpose} {name : String} (hn : Ordinary name) (links : Nat)
    (here : Location)
    (hl : purpose = .entry ∨ ∀ target, t.find? (here ++ [name]) ≠ some (.link target)) :
    t.walk purpose links here [name] = .ok (t.spotAt (here ++ [name])) := by
  obtain ⟨hempty, hdot, hup, hsize⟩ := hn
  rw [Tree.walk, if_neg (not_or.mpr ⟨hempty, hdot⟩), if_neg hup, if_neg (by simp),
    if_neg (Nat.not_lt.mpr hsize)]
  cases hfind : t.find? (here ++ [name]) with
  | none => simp [spotAt, hfind]
  | some e =>
      cases e with
      | directory => simp [spotAt, hfind, Tree.walk]
      | file mode content => simp [spotAt, hfind]
      | link target =>
          rcases hl with rfl | hl
          · simp [spotAt, hfind]
          · exact absurd hfind (hl target)

theorem walk_link {purpose : Purpose} (hp : purpose ≠ .entry) {name target : String}
    (hn : Ordinary name) {links : Nat} {here : Location}
    (hlink : t.find? (here ++ [name]) = some (.link target)) :
    t.walk purpose (links + 1) here [name]
      = t.walk purpose links (if target.startsWith "/" then [] else here)
        (targetNames target) := by
  obtain ⟨hempty, hdot, hup, hsize⟩ := hn
  rw [Tree.walk, if_neg (not_or.mpr ⟨hempty, hdot⟩), if_neg hup, if_neg (by simp),
    if_neg (Nat.not_lt.mpr hsize)]
  simp only [hlink, hp, and_false, if_false, List.append_nil]

/-- A name that a directory can have no entry under leads to a directory or nowhere, whatever the
tree holds. -/
theorem walk_not_ordinary (t t' : Tree) {name : String} (hn : ¬Ordinary name) (purpose : Purpose)
    (links : Nat) (here : Location) :
    t.walk purpose links here [name] = t'.walk purpose links here [name]
      ∧ ∀ spot, t.walk purpose links here [name] = .ok spot → ∃ l, spot = .found l .directory := by
  by_cases hdot : name = "" ∨ name = "."
  · simp [Tree.walk, hdot]
  by_cases hup : name = ".."
  · simp [Tree.walk, hup]
  have hsize : maxName < Utf8.size name := Nat.not_le.mp fun hsize =>
    hn ⟨(not_or.mp hdot).1, (not_or.mp hdot).2, hup, hsize⟩
  simp [Tree.walk, hdot, hup, hsize]

/-! ## Following a path -/

/-- The names above the end of a path lead to the directory `there`. -/
structure Above (t : Tree) (p : Path) (left : Nat) (there : Location) : Prop where
  short : Utf8.size p.text < maxPath
  named : p.names ≠ []
  leads : t.Leads maxLinks (t.start p) p.names.dropLast left there

theorem Above.resolve {p : Path} {left : Nat} {there : Location} (h : t.Above p left there)
    {purpose : Purpose} (hlast : purpose = .creation → p.name ≠ "") :
    t.resolve p purpose = t.walk purpose left there [p.name] := by
  rw [Tree.resolve, if_neg (Nat.not_le.mpr h.short), Path.names_eq h.named]
  exact h.leads.walk hlast

theorem Above.mono (hw : KeepsWays t t') {p : Path} {left : Nat} {there : Location}
    (h : t.Above p left there) : t'.Above p left there := by
  refine ⟨h.short, h.named, ?_⟩
  have hstart : t'.start p = t.start p := by rw [start, start, hw.home]
  exact hstart ▸ h.leads.mono hw

theorem above_of_resolve {p : Path} {purpose : Purpose} {spot : Spot} (hnamed : p.names ≠ [])
    (h : t.resolve p purpose = .ok spot) : ∃ left there, t.Above p left there := by
  rw [Tree.resolve] at h
  split at h
  · cases h
  · rename_i hshort
    rw [Path.names_eq hnamed] at h
    obtain ⟨left, there, hl⟩ := leads_of_walk _ _ _ h
    exact ⟨left, there, Nat.not_le.mp hshort, hnamed, hl⟩

/-- The place of a path's own entry, be it taken or free. -/
structure NamedAt (t : Tree) (p : Path) (loc : Location) : Prop where
  ordinary : Ordinary p.name
  above : ∃ left there, t.Above p left there ∧ loc = there ++ [p.name]

/-- A single name names what stands under it in the working directory. -/
theorem namedAt_home (t : Tree) {name : String} (hname : Ordinary name) :
    t.NamedAt ⟨"", [name]⟩ (t.home ++ [name]) := by
  have htext : Path.text ⟨"", [name]⟩ = name := by simp [Path.text]
  have hshort : Utf8.size name < maxPath := Nat.lt_of_le_of_lt hname.2.2.2 (by decide)
  exact ⟨hname, maxLinks, t.home, ⟨htext ▸ hshort, by simp, .here _ _⟩, rfl⟩

theorem NamedAt.ne_nil {p : Path} (h : t.NamedAt p loc) : loc ≠ [] := by
  obtain ⟨left, there, -, rfl⟩ := h.above
  simp

theorem NamedAt.mono (hw : KeepsWays t t') {p : Path} (h : t.NamedAt p loc) :
    t'.NamedAt p loc := by
  obtain ⟨left, there, ha, rfl⟩ := h.above
  exact ⟨h.ordinary, left, there, ha.mono hw, rfl⟩

/-- A path leads to its own place, unless a link there has to be followed. -/
theorem NamedAt.resolve {p : Path} (h : t.NamedAt p loc) {purpose : Purpose}
    (hl : purpose = .entry ∨ ∀ target, t.find? loc ≠ some (.link target)) :
    t.resolve p purpose = .ok (t.spotAt loc) := by
  obtain ⟨left, there, ha, rfl⟩ := h.above
  rw [ha.resolve fun _ => h.ordinary.1]
  exact walk_ordinary h.ordinary left there hl

theorem NamedAt.unique {p : Path} {loc' : Location} (h : t.NamedAt p loc)
    (h' : t.NamedAt p loc') : loc = loc' := by
  have hfirst : t.resolve p .entry = .ok (t.spotAt loc) := h.resolve (.inl rfl)
  exact spotAt_inj (Except.ok.inj (hfirst.symm.trans (h'.resolve (.inl rfl))))

theorem namedAt_of_resolve {p : Path} (hp : Ordinary p.name) {purpose : Purpose} {spot : Spot}
    (h : t.resolve p purpose = .ok spot) : ∃ loc, t.NamedAt p loc := by
  have hnamed : p.names ≠ [] := by
    intro hn
    exact hp.1 (by rw [Path.name, hn]; rfl)
  obtain ⟨left, there, ha⟩ := above_of_resolve hnamed h
  exact ⟨there ++ [p.name], hp, left, there, ha, rfl⟩

theorem entry_of_resolve {p : Path} (hp : Ordinary p.name) {spot : Spot}
    (h : t.resolve p .entry = .ok spot) : ∃ loc, t.NamedAt p loc ∧ spot = t.spotAt loc := by
  obtain ⟨loc, hloc⟩ := namedAt_of_resolve hp h
  exact ⟨loc, hloc, Except.ok.inj (h.symm.trans (hloc.resolve (.inl rfl)))⟩

/-- What is no directory can only be found under an ordinary name. -/
theorem ordinary_of_resolve {p : Path} (hnamed : p.names ≠ []) {purpose : Purpose}
    (hlast : purpose = .creation → p.name ≠ "") {spot : Spot} (h : t.resolve p purpose = .ok spot)
    (hdir : ∀ l, spot ≠ .found l .directory) : Ordinary p.name := by
  by_cases hp : Ordinary p.name
  · exact hp
  · obtain ⟨left, there, ha⟩ := above_of_resolve hnamed h
    rw [ha.resolve hlast] at h
    obtain ⟨l, hl⟩ := (walk_not_ordinary t t hp purpose left there).2 spot h
    exact absurd hl (hdir l)

/-! ## What a path names -/

/-- The place of a path's own entry, if the path leads to one: a link at the end is not followed. -/
def place? (t : Tree) (p : Path) : Option Location :=
  match t.resolveNamed p .entry with
  | .ok (.found loc _) | .ok (.free loc) => some loc
  | .error _ => none

/-- What stands at the place of a path's own entry. -/
def entryAt? (t : Tree) (p : Path) : Option Entry :=
  match t.resolveNamed p .entry with
  | .ok (.found _ e) => some e
  | _ => none

theorem entryAt?_of_hasNull (t : Tree) {p : Path} (h : p.hasNull = true) :
    t.entryAt? p = none := by
  simp [entryAt?, resolveNamed, h]

theorem entryAt?_congr {p : Path} (h : t'.resolve p .entry = t.resolve p .entry) :
    t'.entryAt? p = t.entryAt? p := by
  rw [entryAt?, entryAt?, resolveNamed, resolveNamed, h]

theorem NamedAt.resolveNamed {p : Path} (h : t.NamedAt p loc) (hnull : p.hasNull = false)
    {purpose : Purpose}
    (hl : purpose = .entry ∨ ∀ target, t.find? loc ≠ some (.link target)) :
    t.resolveNamed p purpose = .ok (t.spotAt loc) := by
  rw [Tree.resolveNamed, hnull, h.resolve hl]
  rfl

theorem NamedAt.place? {p : Path} (h : t.NamedAt p loc) (hnull : p.hasNull = false) :
    t.place? p = some loc := by
  rw [Tree.place?, h.resolveNamed hnull (.inl rfl), spotAt]
  cases t.find? loc <;> rfl

theorem NamedAt.entryAt? {p : Path} (h : t.NamedAt p loc) (hnull : p.hasNull = false) :
    t.entryAt? p = t.find? loc := by
  rw [Tree.entryAt?, h.resolveNamed hnull (.inl rfl), spotAt]
  cases t.find? loc <;> rfl

/-- A path that can be followed at all holds no null character, and leads where it leads. -/
theorem resolve_of_resolveNamed {p : Path} {purpose : Purpose} {spot : Spot}
    (h : t.resolveNamed p purpose = .ok spot) :
    p.hasNull = false ∧ t.resolve p purpose = .ok spot := by
  rw [Tree.resolveNamed] at h
  split at h
  · cases h
  · rename_i hnull
    refine ⟨Bool.eq_false_iff.mpr hnull, ?_⟩
    split at h
    · rename_i hr
      rw [hr, Except.ok.inj h]
    · cases h

theorem namedAt_of_place? {p : Path} (hp : Ordinary p.name) (h : t.place? p = some loc) :
    p.hasNull = false ∧ t.NamedAt p loc := by
  rw [Tree.place?] at h
  cases hr : t.resolveNamed p .entry with
  | error e =>
      rw [hr] at h
      cases h
  | ok spot =>
      obtain ⟨hnull, hres⟩ := resolve_of_resolveNamed hr
      obtain ⟨place, hplace, -⟩ := entry_of_resolve hp hres
      have hloc := hplace.place? hnull
      rw [Tree.place?, hr] at hloc
      rw [hr] at h
      obtain rfl : place = loc := Option.some.inj (hloc.symm.trans h)
      exact ⟨hnull, hplace⟩

theorem namedAt_of_entryAt? {p : Path} (hp : Ordinary p.name) {e : Entry}
    (h : t.entryAt? p = some e) :
    ∃ loc, p.hasNull = false ∧ t.NamedAt p loc ∧ t.find? loc = some e := by
  cases hr : t.resolveNamed p .entry with
  | error e =>
      rw [Tree.entryAt?, hr] at h
      cases h
  | ok spot =>
      obtain ⟨hnull, hres⟩ := resolve_of_resolveNamed hr
      obtain ⟨place, hplace, -⟩ := entry_of_resolve hp hres
      exact ⟨place, hnull, hplace, (hplace.entryAt? hnull).symm.trans h⟩

/-! ## What can be read -/

/-- What a path leads to, if it is no directory, stands where it leads. -/
theorem find?_of_resolve {p : Path} {purpose : Purpose} {e : Entry} (he : e ≠ .directory)
    (h : t.resolve p purpose = .ok (.found loc e)) : t.find? loc = some e := by
  rw [Tree.resolve] at h
  split at h
  · cases h
  obtain ⟨l, hspot⟩ | ⟨l, -, hspot⟩ := walk_spot h
  · exact absurd (Spot.found.inj hspot).2 he
  · cases hfind : t.find? l with
    | none => simp [spotAt_of_free hfind] at hspot
    | some e' =>
        rw [spotAt_of_find hfind] at hspot
        obtain ⟨rfl, rfl⟩ := Spot.found.inj hspot
        exact hfind

theorem read_eq_ok {p : Path} {content : Bytes} (h : t.read p = .ok content) :
    ∃ loc mode, t.resolveNamed p .target = .ok (.found loc (.file mode content)) := by
  rw [Tree.read] at h
  cases hr : t.resolveNamed p .target with
  | error e =>
      rw [hr] at h
      cases h
  | ok spot =>
      rw [hr] at h
      rcases spot with ⟨loc, _ | _ | _⟩ | loc
      case found.file => exact ⟨loc, _, by rw [← Except.ok.inj h]⟩
      all_goals cases h

theorem read_of_file {p : Path} {mode : Nat} {content : Bytes} (h : t.NamedAt p loc)
    (hnull : p.hasNull = false) (hfile : t.find? loc = some (.file mode content)) :
    t.read p = .ok content := by
  rw [Tree.read, h.resolveNamed hnull (.inr (by simp [hfile])), spotAt_of_find hfile]
  rfl

theorem pathExists_of_free {p : Path} (h : t.NamedAt p loc) (hnull : p.hasNull = false)
    (hfree : t.find? loc = none) : t.pathExists p = .ok false := by
  rw [Tree.pathExists, hnull, h.resolve (.inr (by simp [hfree])), spotAt_of_free hfree]
  rfl

/-! ## Refusals -/

theorem os_of_read {p : Path} (hnull : p.hasNull = false) {e : Failure}
    (h : t.read p = .error e) : ∃ refused, e = .os refused := by
  rw [Tree.read, Tree.resolveNamed, hnull] at h
  cases hr : t.resolve p .target with
  | error refused =>
      rw [hr] at h
      exact ⟨_, (Except.error.inj h).symm⟩
  | ok spot =>
      rw [hr] at h
      rcases spot with ⟨loc, _ | _ | _⟩ | loc
      case found.file => cases h
      all_goals exact ⟨_, (Except.error.inj h).symm⟩

/-- Whether something stands at a path can be told unless the path is too long, or a name in it. -/
theorem pathExists_eq_error {p : Path} (hnull : p.hasNull = false) {e : Failure} :
    t.pathExists p = .error e ↔
      t.resolve p .target = .error .nameTooLong ∧ e = .os (.ofErrno .nameTooLong [p.text]) := by
  rw [pathExists, hnull]
  cases hr : t.resolve p .target with
  | ok spot => cases spot <;> simp
  | error refused =>
      obtain rfl | rfl | rfl | rfl := resolve_error (by simp) hr <;> simp [eq_comm]

end Tree

end SeedNode

import SeedNode.Identity.KeyFile
import SeedNode.Proofs.Effects
import SeedNode.Proofs.Files.Ending

/-!
# Saving a key file is all or nothing

A keypair is written to a temporary sibling, which then takes the place of the key file. Whatever
is refused on the way, the key file is either replaced by a complete one or left as it was, and
nothing is left beside it (`save_atomic`). The one condition is that no link stands at the sibling,
since opening follows it.

The proof goes by what each step leaves. `write_cases` and `replace_steps` say all that the steps
before the cleanup can do, and `replace_cases` what they leave where no link stands at the sibling.
The cleanup needs only that the sibling's place held no directory and no link, so that taking its
file away leaves every other path where it led.
-/

namespace SeedNode.KeyFile

variable {t t' opened : Tree} {path temp : Path}

/-! ## The temporary sibling -/

/-- The name of the temporary sibling of a file. -/
def siblingName (name : String) : String := "." ++ name ++ ".tmp"

/-- What stands at the temporary sibling of a path. -/
def siblingAt? (t : Tree) (path : Path) : Option Entry :=
  match sibling path with
  | .ok temp => t.entryAt? temp
  | .error _ => none

/-- The place of the temporary sibling of a path. -/
def siblingPlace? (t : Tree) (path : Path) : Option Location :=
  match sibling path with
  | .ok temp => t.place? temp
  | .error _ => none

theorem siblingAt?_of_ok (h : sibling path = .ok temp) (t : Tree) :
    siblingAt? t path = t.entryAt? temp := by
  rw [siblingAt?, h]

theorem siblingPlace?_of_ok (h : sibling path = .ok temp) (t : Tree) :
    siblingPlace? t path = t.place? temp := by
  rw [siblingPlace?, h]

theorem sibling_eq_ok (h : sibling path = .ok temp) :
    path.names ≠ [] ∧ temp = ⟨path.root, path.names.dropLast ++ [siblingName path.name]⟩ := by
  rw [sibling, Path.withName] at h
  split at h
  · cases h
  · rename_i hnames
    exact ⟨hnames, (Except.ok.inj h).symm⟩

theorem sibling_names (h : sibling path = .ok temp) :
    temp.names ≠ [] ∧ temp.names.dropLast = path.names.dropLast
      ∧ temp.name = siblingName path.name := by
  obtain ⟨-, rfl⟩ := sibling_eq_ok h
  simp [Path.name]

theorem size_siblingName (name : String) :
    Utf8.size (siblingName name) = Utf8.size name + 5 := by
  rw [siblingName, Utf8.size_append, Utf8.size_append, show Utf8.size "." = 1 from rfl,
    show Utf8.size ".tmp" = 4 from rfl]
  omega

theorem siblingName_ne_self (name : String) : siblingName name ≠ name := by
  intro h
  have := size_siblingName name
  rw [h] at this
  omega

theorem siblingName_ne_empty (name : String) : siblingName name ≠ "" := by
  intro h
  have := size_siblingName name
  rw [h, show Utf8.size "" = 0 from rfl] at this
  omega

theorem sibling_text (h : sibling path = .ok temp) :
    path.text = path.textAbove ++ path.name
      ∧ temp.text = path.textAbove ++ siblingName path.name := by
  obtain ⟨hnames, hdrop, hname⟩ := sibling_names h
  obtain ⟨hpath, htemp⟩ := sibling_eq_ok h
  have habove : temp.textAbove = path.textAbove := by
    rw [Path.textAbove, Path.textAbove, hdrop, htemp]
  exact ⟨Path.text_eq hpath, by rw [Path.text_eq hnames, habove, hname]⟩

theorem sibling_hasNull (h : sibling path = .ok temp) : temp.hasNull = path.hasNull := by
  obtain ⟨hpath, htemp⟩ := sibling_text h
  rw [Path.hasNull, Path.hasNull, hpath, htemp, siblingName]
  simp [String.toList_append]

/-- The sibling lies in the same directory as the path itself. -/
theorem above_of_sibling (h : sibling path = .ok temp) {left : Nat} {there : Location}
    (ha : t.Above temp left there) : t.Above path left there := by
  obtain ⟨hnames, htemp⟩ := sibling_eq_ok h
  obtain ⟨-, hdrop, -⟩ := sibling_names h
  obtain ⟨hpath, htext⟩ := sibling_text h
  have hsize := ha.short
  rw [htext, Utf8.size_append, size_siblingName] at hsize
  refine ⟨?_, hnames, ?_⟩
  · rw [hpath, Utf8.size_append]
    omega
  · have hstart : t.start temp = t.start path := by rw [Tree.start, Tree.start, htemp]
    rw [← hstart, ← hdrop]
    exact ha.leads

theorem place_ne_sibling (h : sibling path = .ok temp) (there there' : Location) :
    there ++ [path.name] ≠ there' ++ [temp.name] := by
  obtain ⟨-, -, hname⟩ := sibling_names h
  intro heq
  have hlast := (List.append_inj' heq rfl).2
  rw [hname] at hlast
  exact siblingName_ne_self path.name (List.cons.inj hlast).1.symm

theorem namedAt_ne_sibling (h : sibling path = .ok temp) {loc sib : Location}
    (hloc : t.NamedAt path loc) (hsib : t.NamedAt temp sib) : loc ≠ sib := by
  obtain ⟨left, there, -, rfl⟩ := hloc.above
  obtain ⟨left', there', -, rfl⟩ := hsib.above
  exact place_ne_sibling h there there'

/-- Where the ways of one tree are kept in another, what a path names there it named before, if its
sibling was named before. -/
theorem named_beside (h : sibling path = .ok temp) (hw : Tree.KeepsWays t t')
    {loc sib : Location} (hsib : t.NamedAt temp sib) (hloc : t'.NamedAt path loc) :
    t.NamedAt path loc := by
  obtain ⟨left, there, habove, -⟩ := hsib.above
  have hpath : t.NamedAt path (there ++ [path.name]) :=
    ⟨hloc.ordinary, left, there, above_of_sibling h habove, rfl⟩
  rwa [hloc.unique (hpath.mono hw)]

/-! ## What the steps leave -/

/-- What a path names after it was opened and data was written there, from what it named before. -/
def refilled (data : Bytes) : Option Entry → Entry
  | none => .file (Tree.newMode mode) data
  | some (.file m _) => .file m data
  | some e => e

/-- Writing to a file that was opened changes that file alone. -/
theorem setContent_opened {loc : Location}
    (hopen : t.openForWriting temp mode = .ok (loc, opened)) (data : Bytes) :
    t.AgreesOff [loc] (opened.setContent loc data)
      ∧ (opened.setContent loc data).find? loc = some (refilled data (t.find? loc)) := by
  obtain ⟨-, hne, hplain, hoff, hfind⟩ := Tree.openForWriting_opens hopen
  have hset : ∃ m, opened.setContent loc data = opened.insert loc (.file m data)
      ∧ refilled data (t.find? loc) = .file m data := by
    cases hold : t.find? loc with
    | none =>
        rw [hold, Option.getD_none] at hfind
        exact ⟨_, Tree.setContent_of_file opened data hfind, rfl⟩
    | some e =>
        obtain ⟨m, old, rfl⟩ := hplain e hold
        rw [hold, Option.getD_some] at hfind
        exact ⟨m, Tree.setContent_of_file opened data hfind, rfl⟩
  obtain ⟨m, hset, hrefilled⟩ := hset
  rw [hset, hrefilled]
  exact ⟨hoff.trans (Tree.agreesOff_insert opened loc _), Tree.find?_insert_self opened _ hne⟩

/-- A path still names its own entry after it was opened and written to: a file with the data, or
the link that was followed. -/
theorem refilled_of_opened {loc : Location} (hnames : temp.names ≠ []) (hname : temp.name ≠ "")
    (hopen : t.openForWriting temp mode = .ok (loc, opened)) (data : Bytes) :
    ∃ own, t.NamedAt temp own ∧ t.find? own ≠ some .directory
      ∧ t.KeepsWays (opened.setContent loc data)
      ∧ (opened.setContent loc data).find? own = some (refilled data (t.find? own)) := by
  obtain ⟨-, -, hplain, -⟩ := Tree.openForWriting_opens hopen
  obtain ⟨hoff, hfind⟩ := setContent_opened hopen data
  have hways : t.KeepsWays (opened.setContent loc data) := by
    refine hoff.keepsWays fun l hl => ?_
    rw [List.mem_singleton.mp hl]
    exact hplain
  obtain ⟨own, hown, rfl | ⟨target, hlink⟩⟩ := Tree.openForWriting_named hnames hname hopen
  · refine ⟨loc, hown, fun hdir => ?_, hways, hfind⟩
    obtain ⟨m, content, hfile⟩ := hplain _ hdir
    cases hfile
  · refine ⟨own, hown, by simp [hlink], hways, ?_⟩
    rw [hways.link own target hlink, hlink]
    rfl

/-- The tree after the temporary file has been opened and data was written to it. -/
structure Filled (temp : Path) (data : Bytes) (sib : Location) (t t' : Tree) : Prop where
  noNull : temp.hasNull = false
  named : t.NamedAt temp sib
  plain : t.Plain sib
  agrees : t.AgreesOff [sib] t'
  filled : ∃ mode, t'.find? sib = some (.file mode data)

theorem Filled.keepsWays {data : Bytes} {sib : Location} (h : Filled temp data sib t t') :
    Tree.KeepsWays t t' := by
  refine h.agrees.keepsWays fun l hl => ?_
  obtain rfl := List.mem_singleton.mp hl
  exact h.plain

theorem filled_of_opened (hnames : temp.names ≠ []) (hname : temp.name ≠ "")
    (hl : ∀ target, t.entryAt? temp ≠ some (.link target)) {sib : Location}
    (hopen : t.openForWriting temp mode = .ok (sib, opened)) (data : Bytes) :
    Filled temp data sib t (opened.setContent sib data) := by
  obtain ⟨hnull, hsib, hplain⟩ := Tree.openForWriting_eq_ok hnames hname hl hopen
  obtain ⟨hoff, hfind⟩ := setContent_opened hopen data
  refine ⟨hnull, hsib, hplain, hoff, ?_⟩
  rw [hfind]
  cases hold : t.find? sib with
  | none => exact ⟨_, rfl⟩
  | some e =>
      obtain ⟨m, old, rfl⟩ := hplain e hold
      exact ⟨m, rfl⟩

theorem openForWriting_error {mode : Nat} {e : Failure}
    (h : t.openForWriting temp mode = .error e) : e.isOs = true ∨ temp.hasNull = true := by
  rw [Tree.openForWriting, Tree.resolveNamed] at h
  split at h
  · exact .inr ‹_›
  · refine .inl ?_
    cases hr : t.resolve temp .creation with
    | error e' =>
        rw [hr] at h
        obtain rfl := Except.error.inj h
        rfl
    | ok spot =>
        rw [hr] at h
        rcases spot with ⟨loc, _ | _ | _⟩ | loc <;> cases h <;> rfl

@[simp] theorem run_permit (refusal : Option OsError) (t : Tree) :
    (permit refusal).run t = (match refusal with
      | none => .ok ()
      | some e => .error (.os e), t) := by
  cases refusal <;> rfl

/-- Writing fails before anything is changed, or opens the temporary file and leaves in it what was
stored of the data. -/
theorem write_cases (faults : Faults) (data : Bytes) :
    (∃ e, (write faults temp data).run t = (.error e, t)
        ∧ (e.isOs = true ∨ temp.hasNull = true))
      ∨ ∃ loc opened kept, t.openForWriting temp mode = .ok (loc, opened) ∧ kept <+: data
        ∧ ((∃ e, (write faults temp data).run t = (.error e, opened.setContent loc kept)
            ∧ e.isOs = true)
          ∨ (write faults temp data).run t = (.ok kept.length, opened.setContent loc kept)) := by
  cases hopening : faults.opening with
  | some e => exact .inl ⟨.os e, by simp [write, hopening], .inl rfl⟩
  | none =>
      cases hopen : t.openForWriting temp mode with
      | error e => exact .inl ⟨e, by simp [write, hopening, hopen], openForWriting_error hopen⟩
      | ok result =>
          obtain ⟨loc, opened⟩ := result
          cases hstored : faults.stored with
          | none =>
              refine .inr ⟨loc, opened, data, rfl, List.prefix_rfl, ?_⟩
              cases hsyncing : faults.syncing with
              | some e =>
                  exact .inl ⟨.os e, by simp [write, hopening, hopen, hstored, hsyncing], rfl⟩
              | none => exact .inr (by simp [write, hopening, hopen, hstored, hsyncing])
          | some n =>
              refine .inr ⟨loc, opened, data.take n, rfl, List.take_prefix n data, ?_⟩
              cases hsyncing : faults.syncing with
              | some e =>
                  exact .inl ⟨.os e, by simp [write, hopening, hopen, hstored, hsyncing], rfl⟩
              | none => exact .inr (by simp [write, hopening, hopen, hstored, hsyncing])

/-- Replacing fails before anything is changed, or opens the temporary file; then it fails with
that left behind, or moves it when it is complete. -/
theorem replace_steps (faults : Faults) (temp path : Path) (data : Bytes) (t : Tree) :
    (∃ e, (replace faults temp path data).run t = (.error e, t)
        ∧ (e.isOs = true ∨ temp.hasNull = true))
      ∨ ∃ loc opened, t.openForWriting temp mode = .ok (loc, opened)
        ∧ ((∃ e kept, (replace faults temp path data).run t
              = (.error e, opened.setContent loc kept)
              ∧ (e.isOs = true ∨ ∃ message, e = failed message path))
          ∨ ∃ t', (opened.setContent loc data).rename temp path = .ok t'
            ∧ (replace faults temp path data).run t = (.ok (), t')) := by
  rw [replace]
  rcases write_cases (t := t) faults data with
    ⟨e, hw, he⟩ | ⟨loc, opened, kept, hopen, hprefix, ⟨e, hw, he⟩ | hw⟩
  · exact .inl ⟨e, by simp [hw], he⟩
  · exact .inr ⟨loc, opened, hopen, .inl ⟨e, kept, by simp [hw], .inl he⟩⟩
  refine .inr ⟨loc, opened, hopen, ?_⟩
  by_cases hshort : kept.length ≠ data.length
  · refine .inl ⟨failed s!"Short write to keys file: {kept.length} of {data.length} bytes" path,
      kept, ?_, .inr ⟨_, rfl⟩⟩
    simp [hw, hshort]
  obtain rfl := hprefix.eq_of_length (Decidable.not_not.mp hshort)
  cases hreplacing : faults.replacing with
  | some e => exact .inl ⟨.os e, kept, by simp [hw], .inl rfl⟩
  | none =>
      cases hren : (opened.setContent loc kept).rename temp path with
      | error e => exact .inl ⟨e, kept, by simp [hw, hren], .inl (Tree.isOs_of_rename hren)⟩
      | ok t' => exact .inr ⟨t', rfl, by simp [hw, hren]⟩

/-- The tree after the temporary file was complete and took the place of the target. -/
structure Replaced (path temp : Path) (data : Bytes) (sib loc : Location) (t t' : Tree) :
    Prop where
  noNull : temp.hasNull = false
  source : t.NamedAt temp sib
  target : t.NamedAt path loc
  notDirectory : t.find? loc ≠ some .directory
  plain : t.Plain sib
  agrees : t.AgreesOff [sib, loc] t'
  gone : t'.find? sib = none
  stored : ∃ mode, t'.find? loc = some (.file mode data)

theorem Replaced.ne {data : Bytes} {sib loc : Location} (h : sibling path = .ok temp)
    (hr : Replaced path temp data sib loc t t') : loc ≠ sib :=
  namedAt_ne_sibling h hr.target hr.source

/-- Where the path does not lead through the entry that it ends in, it still finds it. -/
theorem Replaced.named {data : Bytes} {sib loc : Location} (h : sibling path = .ok temp)
    (hr : Replaced path temp data sib loc t t') (hends : t.EndsOnce path) :
    t'.NamedAt path loc := by
  have hpathNull : path.hasNull = false := (sibling_hasNull h).symm.trans hr.noNull
  obtain ⟨-, hnamed⟩ :=
    Tree.namedAt_of_place? hr.target.ordinary (hends loc (hr.target.place? hpathNull))
  have hoff : (t.erase loc).AgreesOff [sib, loc] t' :=
    ((Tree.agreesOff_erase t loc).symm.mono (by simp)).trans hr.agrees
  refine hnamed.mono (hoff.keepsWays fun l hl => ?_)
  rcases List.mem_cons.mp hl with rfl | hl
  · intro e he
    rw [Tree.find?_erase_of_ne t (hr.ne h).symm] at he
    exact hr.plain e he
  · rw [List.mem_singleton.mp hl]
    exact Tree.plain_of_free (Tree.find?_erase_self t hr.target.ne_nil)

/-- Moving a filled temporary file puts it in the place of the target. -/
theorem replaced_of_renamed {data : Bytes} {sib : Location} {t'' : Tree}
    (h : sibling path = .ok temp) (hfilled : Filled temp data sib t t')
    (hren : t'.rename temp path = .ok t'') :
    ∃ loc, Replaced path temp data sib loc t t'' := by
  have hways := hfilled.keepsWays
  obtain ⟨mode, hfile⟩ := hfilled.filled
  obtain ⟨old, new, e, hold, hnew, hfind, hnotdir, htree⟩ :=
    Tree.rename_eq_ok (sibling_names h).1 (sibling_eq_ok h).1 hren
  obtain rfl := hold.unique (hfilled.named.mono hways)
  obtain rfl : Entry.file mode data = e := Option.some.inj (hfile.symm.trans hfind)
  have htarget := named_beside h hways hfilled.named hnew
  have hne := namedAt_ne_sibling h htarget hfilled.named
  rw [if_neg hne.symm] at htree
  subst htree
  refine ⟨new, hfilled.noNull, hfilled.named, htarget, ?_, hfilled.plain, ?_, ?_,
    mode, Tree.find?_insert_self _ _ htarget.ne_nil⟩
  · rw [← hfilled.agrees.find? _ (by simpa using hne)]
    exact hnotdir
  · exact ((hfilled.agrees.mono (by simp)).trans
      ((Tree.agreesOff_erase t' old).mono (by simp))).trans
        ((Tree.agreesOff_insert _ _ _).mono (by simp))
  · rw [Tree.find?_insert_of_ne _ _ hne.symm]
    exact Tree.find?_erase_self t' hfilled.named.ne_nil

/-- Replacing fails before anything is changed, or leaves a temporary file, or is complete. -/
theorem replace_cases (faults : Faults) (data : Bytes) (h : sibling path = .ok temp)
    (hl : ∀ target, t.entryAt? temp ≠ some (.link target)) :
    (∃ e, (replace faults temp path data).run t = (.error e, t)
        ∧ (e.isOs = true ∨ temp.hasNull = true))
      ∨ (∃ e kept sib t', (replace faults temp path data).run t = (.error e, t')
        ∧ (e.isOs = true ∨ e.isReport = true) ∧ Filled temp kept sib t t')
      ∨ ∃ sib loc t', (replace faults temp path data).run t = (.ok (), t')
        ∧ Replaced path temp data sib loc t t' := by
  obtain ⟨hnames, -, hname⟩ := sibling_names h
  have hfilled : ∀ {sib opened}, t.openForWriting temp mode = .ok (sib, opened) → ∀ kept,
      Filled temp kept sib t (opened.setContent sib kept) := fun hopen kept =>
    filled_of_opened hnames (hname ▸ siblingName_ne_empty _) hl hopen kept
  rcases replace_steps faults temp path data t with
    hrefused | ⟨sib, opened, hopen, ⟨e, kept, hrep, he⟩ | ⟨t', hren, hrep⟩⟩
  · exact .inl hrefused
  · refine .inr (.inl ⟨e, kept, sib, _, hrep, he.imp_right ?_, hfilled hopen kept⟩)
    rintro ⟨message, rfl⟩
    rfl
  · obtain ⟨loc, hreplaced⟩ := replaced_of_renamed h (hfilled hopen data) hren
    exact .inr (.inr ⟨sib, loc, t', hrep, hreplaced⟩)

/-! ## Cleaning up -/

/-- The tree without the temporary file, if that can be taken away. -/
def cleared (temp : Path) (t : Tree) : Tree :=
  match t.remove temp with
  | .ok t' => t'
  | .error _ => t

theorem run_discard (temp : Path) (t : Tree) :
    ∃ r, (discard temp).run t = (r, cleared temp t) := by
  rw [discard, run_tryCatch, run_fileChange, cleared]
  cases t.remove temp with
  | ok t' => exact ⟨_, rfl⟩
  | error e =>
      cases e with
      | os refused =>
          by_cases hcode : refused.errno = some Errno.noEntry.code
          · exact ⟨.ok (), by simp only [if_pos hcode]; rfl⟩
          · exact ⟨.error (.os refused), by simp only [if_neg hcode]; rfl⟩
      | _ => exact ⟨_, rfl⟩

/-- Whatever becomes of the cleanup, giving up after it fails. -/
theorem run_discard_throw (temp : Path) (e : Failure) (t : Tree) :
    ∃ e', (discard temp >>= fun _ => throw e : FileM Unit).run t = (.error e', cleared temp t) := by
  obtain ⟨r | _, hr⟩ := run_discard temp t
  · exact ⟨r, by simp [hr]⟩
  · exact ⟨e, by simp [hr]⟩

theorem save_of_sibling (faults : Faults) (keypair : Keypair) (h : sibling path = .ok temp) :
    (save faults keypair path).run t = match (replace faults temp path keypair.toBytes).run t with
      | (.ok _, t') => (.ok (), t')
      | (.error e, t') =>
        (if e.isOs then discard temp >>= fun _ =>
            throw (failed s!"Couldn't write keys file: {e.message}" path)
          else if e.isReport then discard temp >>= fun _ => throw e
          else throw e : FileM Unit).run t' := by
  simp only [save, run_bind, run_fileAsk, h, run_tryCatch]
  obtain ⟨r | r, t'⟩ := (replace faults temp path keypair.toBytes).run t <;> rfl

/-- A failure on the way is one of saving; where the cleanup is made for it, the temporary file is
gone. -/
theorem save_of_error (faults : Faults) (keypair : Keypair) (h : sibling path = .ok temp)
    {e : Failure} (hr : (replace faults temp path keypair.toBytes).run t = (.error e, t')) :
    ∃ e', (save faults keypair path).run t
      = (.error e', if e.isOs = true ∨ e.isReport = true then cleared temp t' else t') := by
  rw [save_of_sibling faults keypair h, hr]
  by_cases hos : e.isOs = true
  · simp only [hos, true_or, if_true]
    exact run_discard_throw temp _ t'
  · by_cases hreport : e.isReport = true
    · simp only [if_neg hos, hreport, or_true, if_true]
      exact run_discard_throw temp _ t'
    · simp only [hos, hreport, or_self]
      exact ⟨e, rfl⟩

theorem save_of_ok (faults : Faults) (keypair : Keypair) (h : sibling path = .ok temp)
    (hr : (replace faults temp path keypair.toBytes).run t = (.ok (), t')) :
    (save faults keypair path).run t = (.ok (), t') := by
  rw [save_of_sibling faults keypair h, hr]

/-- Saving returns only when the temporary file has replaced the key file. -/
theorem replace_of_saved {faults : Faults} {keypair : Keypair}
    (hsave : (save faults keypair path).run t = (.ok (), t')) :
    ∃ temp, sibling path = .ok temp
      ∧ (replace faults temp path keypair.toBytes).run t = (.ok (), t') := by
  have hsibling : ∃ temp, sibling path = .ok temp := by
    rw [save, run_bind_eq_ok] at hsave
    obtain ⟨temp, t₁, hask, -⟩ := hsave
    rw [run_fileAsk] at hask
    exact ⟨temp, (Prod.mk.inj hask).1⟩
  obtain ⟨temp, h⟩ := hsibling
  rcases hrep : (replace faults temp path keypair.toBytes).run t with ⟨e | _, t₁⟩
  · obtain ⟨e', herror⟩ := save_of_error faults keypair h hrep
    rw [herror] at hsave
    cases hsave
  · rw [save_of_ok faults keypair h hrep] at hsave
    obtain rfl := (Prod.mk.inj hsave).2
    exact ⟨temp, h, hrep⟩

theorem save_eq_ok {faults : Faults} {keypair : Keypair}
    (hl : ∀ target, siblingAt? t path ≠ some (.link target))
    (hsave : (save faults keypair path).run t = (.ok (), t')) :
    ∃ temp sib loc, sibling path = .ok temp
      ∧ Replaced path temp keypair.toBytes sib loc t t' := by
  obtain ⟨temp, h, hrep⟩ := replace_of_saved hsave
  have hlink : ∀ target, t.entryAt? temp ≠ some (.link target) := by
    simpa only [siblingAt?_of_ok h] using hl
  rcases replace_cases faults keypair.toBytes h hlink with
    ⟨e, hrep', -⟩ | ⟨e, kept, sib, t₂, hrep', -, -⟩ | ⟨sib, loc, t₂, hrep', hreplaced⟩
  · rw [hrep] at hrep'
    cases hrep'
  · rw [hrep] at hrep'
    cases hrep'
  · rw [hrep] at hrep'
    obtain rfl := (Prod.mk.inj hrep').2
    exact ⟨temp, sib, loc, h, hreplaced⟩

/-- Where the system refuses nothing, saving is to open the sibling, to fill what was opened, and to
move the sibling. -/
theorem save_of_opened {keypair : Keypair} {loc : Location} (h : sibling path = .ok temp)
    (hopen : t.openForWriting temp mode = .ok (loc, opened))
    (hrename : (opened.setContent loc keypair.toBytes).rename temp path = .ok t') :
    (save Faults.none keypair path).run t = (.ok (), t') := by
  have hwrite : (write Faults.none temp keypair.toBytes).run t
      = (.ok keypair.toBytes.length, opened.setContent loc keypair.toBytes) := by
    simp [write, Faults.none, hopen]
  have hreplacing : Faults.none.replacing = none := rfl
  refine save_of_ok Faults.none keypair h ?_
  simp [replace, hreplacing, hwrite, hrename]

/-- Saving succeeds where the sibling's place is free or holds a file, no directory is in the place
of the path, and the system refuses nothing. -/
theorem save_of_unhindered (keypair : Keypair) (h : sibling path = .ok temp)
    (hnull : temp.hasNull = false) {sib loc : Location} (hsib : t.NamedAt temp sib)
    (hplain : t.Plain sib) (hloc : t.NamedAt path loc) (hdir : t.find? loc ≠ some .directory) :
    ∃ t', (save Faults.none keypair path).run t = (.ok (), t') := by
  have hlink : ∀ target, t.entryAt? temp ≠ some (.link target) := by
    rw [hsib.entryAt? hnull]
    exact hplain.not_link
  obtain ⟨hnames, -, hname⟩ := sibling_names h
  obtain ⟨opened, hopen⟩ := Tree.openForWriting_of_plain mode hsib hnull hplain
  have hfilled := filled_of_opened hnames (hname ▸ siblingName_ne_empty _) hlink hopen
    keypair.toBytes
  obtain ⟨m, hfile⟩ := hfilled.filled
  have hne : loc ∉ [sib] := by simpa using namedAt_ne_sibling h hloc hsib
  rw [← hfilled.agrees.find? loc hne] at hdir
  have hrename := Tree.rename_of_entry (hsib.mono hfilled.keepsWays) hfile (by simp)
    (hloc.mono hfilled.keepsWays) hdir
  exact ⟨_, save_of_opened h hopen hrename⟩

/-! ## All or nothing -/

/-- The entry that the path named is now a file with the data, and the sibling is gone. -/
structure Stored (path : Path) (data : Bytes) (t t' : Tree) : Prop where
  target : ∃ loc mode, t.place? path = some loc ∧ t'.find? loc = some (.file mode data)
  reached : t.EndsOnce path → ∃ mode, t'.entryAt? path = some (.file mode data)
  sibling : siblingAt? t' path = none
  siblingPlace : ∃ sib, siblingPlace? t path = some sib ∧ t'.find? sib = none
  home : t'.home = t.home
  others : ∀ l, some l ≠ t.place? path → some l ≠ siblingPlace? t path → t'.find? l = t.find? l

/-- The entry that the path names is what it was, and no file is left beside it. -/
structure LeftAlone (path : Path) (t t' : Tree) : Prop where
  target : t'.entryAt? path = t.entryAt? path
  sibling : ∀ mode content, siblingAt? t' path ≠ some (.file mode content)
  home : t'.home = t.home
  others : ∀ l, some l ≠ siblingPlace? t path → t'.find? l = t.find? l

theorem leftAlone_of_gone (h : sibling path = .ok temp) {sib : Location}
    (hnull : temp.hasNull = false) (hsib : t.NamedAt temp sib) (hplain : t.Plain sib)
    (hoff : t.AgreesOff [sib] t') (hgone : t'.find? sib = none) : LeftAlone path t t' := by
  have hplains : ∀ l ∈ [sib], t.Plain l := by
    intro l hl
    rw [List.mem_singleton.mp hl]
    exact hplain
  have hways := hoff.keepsWays hplains
  obtain ⟨left, there, habove, hplace⟩ := hsib.above
  refine ⟨?_, ?_, hoff.home, ?_⟩
  · apply Tree.entryAt?_congr
    refine (above_of_sibling h habove).resolve_of_agrees hoff hplains ?_
    rw [hplace, List.mem_singleton]
    exact place_ne_sibling h there there
  · intro mode content
    rw [siblingAt?_of_ok h, (hsib.mono hways).entryAt? hnull, hgone]
    simp
  · intro l hl
    rw [siblingPlace?_of_ok h, hsib.place? hnull] at hl
    exact hoff.find? l (by simpa using hl)

theorem leftAlone_of_filled (h : sibling path = .ok temp) {data : Bytes} {sib : Location}
    (hfilled : Filled temp data sib t t') : LeftAlone path t (cleared temp t') := by
  obtain ⟨mode, hfile⟩ := hfilled.filled
  have hsib := hfilled.named.mono hfilled.keepsWays
  rw [cleared, Tree.remove_of_file hsib hfilled.noNull hfile]
  exact leftAlone_of_gone h hfilled.noNull hfilled.named hfilled.plain
    (hfilled.agrees.trans (Tree.agreesOff_erase t' sib)) (Tree.find?_erase_self t' hsib.ne_nil)

theorem leftAlone_of_refused (h : sibling path = .ok temp)
    (hl : ∀ target, t.entryAt? temp ≠ some (.link target)) :
    LeftAlone path t (cleared temp t) := by
  obtain ⟨hnames, -, hname⟩ := sibling_names h
  cases hrem : t.remove temp with
  | ok t' =>
      obtain ⟨sib, hnull, hsib, hsome, hnotdir, htree⟩ := Tree.remove_eq_ok hnames hrem
      have hplain : t.Plain sib := by
        intro e he
        cases e with
        | file mode content => exact ⟨mode, content, rfl⟩
        | directory => exact absurd he hnotdir
        | link target => exact absurd ((hsib.entryAt? hnull).trans he) (hl target)
      rw [cleared, hrem, htree]
      exact leftAlone_of_gone h hnull hsib hplain (Tree.agreesOff_erase t sib)
        (Tree.find?_erase_self t hsib.ne_nil)
  | error e =>
      rw [cleared, hrem]
      refine ⟨rfl, ?_, rfl, fun _ _ => rfl⟩
      intro mode content hfile
      rw [siblingAt?_of_ok h] at hfile
      have hres : ∃ loc, t.resolveNamed temp .entry = .ok (.found loc (.file mode content)) := by
        simp only [Tree.entryAt?] at hfile
        split at hfile
        · rename_i loc e' hr
          exact ⟨loc, by rw [hr, Option.some.inj hfile]⟩
        · cases hfile
      obtain ⟨loc, hres⟩ := hres
      rw [Tree.remove, hres] at hrem
      cases hrem

theorem stored_of_replaced (h : sibling path = .ok temp) {data : Bytes} {sib loc : Location}
    (hr : Replaced path temp data sib loc t t') : Stored path data t t' := by
  obtain ⟨mode, hfile⟩ := hr.stored
  have hpathNull : path.hasNull = false := (sibling_hasNull h).symm.trans hr.noNull
  have hplace := hr.target.place? hpathNull
  have hsibPlace : siblingPlace? t path = some sib :=
    (siblingPlace?_of_ok h t).trans (hr.source.place? hr.noNull)
  refine ⟨⟨loc, mode, hplace, hfile⟩, ?_, ?_, ⟨sib, hsibPlace, hr.gone⟩, hr.agrees.home, ?_⟩
  · intro hends
    exact ⟨mode, ((hr.named h hends).entryAt? hpathNull).trans hfile⟩
  · rw [siblingAt?_of_ok h]
    cases hentry : t'.entryAt? temp with
    | none => rfl
    | some e =>
        -- Whatever the sibling's path leads to now, it led to before.
        obtain ⟨l, -, hl, hfind⟩ := Tree.namedAt_of_entryAt? hr.source.ordinary hentry
        have hways : Tree.KeepsWays t' t := by
          refine hr.agrees.symm.keepsWays fun l hl => ?_
          rcases List.mem_cons.mp hl with rfl | hl
          · exact Tree.plain_of_free hr.gone
          · rw [List.mem_singleton.mp hl]
            exact Tree.plain_of_file hfile
        rw [(hl.mono hways).unique hr.source, hr.gone] at hfind
        cases hfind
  · intro l hl hlsib
    rw [hplace] at hl
    rw [hsibPlace] at hlsib
    exact hr.agrees.find? l (by simpa using ⟨by simpa using hlsib, by simpa using hl⟩)

/-- Where no link stands at the sibling, saving either stores the keypair in full or leaves the
entry that the path names alone, and changes nothing but that entry and the sibling. The system may
refuse what `Faults` lists, and what the tree makes fail. That it lets go of a file that the saving
process has just written is assumed: a `discard` that were refused would leave that file behind. -/
theorem save_atomic (faults : Faults) (keypair : Keypair) (path : Path) (t : Tree)
    (hl : ∀ target, siblingAt? t path ≠ some (.link target)) :
    match (save faults keypair path).run t with
    | (.ok _, t') => Stored path keypair.toBytes t t'
    | (.error _, t') => LeftAlone path t t' := by
  cases h : sibling path with
  | error e =>
      have hask : (FileM.ask fun _ => sibling path).run t = (.error e, t) := by
        rw [run_fileAsk, h]
      rw [save, run_bind_of_error hask]
      exact ⟨rfl, by simp [siblingAt?, h], rfl, fun _ _ => rfl⟩
  | ok temp =>
      have hlink : ∀ target, t.entryAt? temp ≠ some (.link target) := by
        simpa only [siblingAt?_of_ok h] using hl
      rcases replace_cases faults keypair.toBytes h hlink with
        ⟨e, hrep, he⟩ | ⟨e, kept, sib, t₁, hrep, he, hfilled⟩ | ⟨sib, loc, t₁, hrep, hreplaced⟩
      · obtain ⟨e', hsave⟩ := save_of_error faults keypair h hrep
        rw [hsave]
        by_cases hcaught : e.isOs = true ∨ e.isReport = true
        · rw [if_pos hcaught]
          exact leftAlone_of_refused h hlink
        · have hnull := he.resolve_left fun hos => hcaught (.inl hos)
          rw [if_neg hcaught]
          refine ⟨rfl, ?_, rfl, fun _ _ => rfl⟩
          rw [siblingAt?_of_ok h, Tree.entryAt?_of_hasNull t hnull]
          simp
      · obtain ⟨e', hsave⟩ := save_of_error faults keypair h hrep
        rw [hsave, if_pos he]
        exact leftAlone_of_filled h hfilled
      · rw [save_of_ok faults keypair h hrep]
        exact stored_of_replaced h hreplaced

theorem save_atomic_beside_stale_file :
    let t : Tree := ⟨[], [(["keys"], .link "nowhere"), ([".keys.tmp"], .file 0o644 [7])]⟩
    let path : Path := ⟨"", ["keys"]⟩
    (∀ target, siblingAt? t path ≠ some (.link target))
      ∧ ∃ t', (save Faults.none ⟨[1], [2]⟩ path).run t = (.ok (), t')
        ∧ Stored path [1, 2] t t' := by
  intro t path
  have hsibling : sibling path = .ok ⟨"", [".keys.tmp"]⟩ := rfl
  have hsib : t.NamedAt ⟨"", [".keys.tmp"]⟩ [".keys.tmp"] := t.namedAt_home (by decide)
  have hpath : t.NamedAt path ["keys"] := t.namedAt_home (by decide)
  have hfile : t.find? [".keys.tmp"] = some (.file 0o644 [7]) := by decide
  have hl : ∀ target, siblingAt? t path ≠ some (.link target) := by
    intro target
    rw [siblingAt?_of_ok hsibling, hsib.entryAt? (by decide), hfile]
    simp
  obtain ⟨t', hsave⟩ := save_of_unhindered ⟨[1], [2]⟩ hsibling (by decide) hsib
    (Tree.plain_of_file hfile) hpath (by decide)
  have hatomic := save_atomic Faults.none ⟨[1], [2]⟩ path t hl
  rw [hsave] at hatomic
  exact ⟨hl, t', hsave, hatomic⟩

end SeedNode.KeyFile

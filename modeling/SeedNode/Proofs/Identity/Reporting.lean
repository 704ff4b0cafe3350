import SeedNode.Proofs.Identity.Establishing

/-!
# Which failures of the identity are reported

Whatever goes wrong with the key file should be reported under its path. What the system refuses
while the file is written is; but the cleanup that follows asks the system again, and only forgives
it that the temporary file is missing. Where that cannot be taken away (`Stuck`) every save ends in
a bare refusal, and nowhere else does one (`save_reported_iff`). A directory at the temporary file's
place is one such case, a name that is nearly as long as names may be another one
(`blocked_of_directory`, `blocked_of_long_name`). Establishing the identity adds two ways out: a
path too long to be asked about, and key sizes that ask for a reading of less than nothing, or of
more than there is room for (`failures_reported_iff`).
-/

namespace SeedNode.KeyFile

open Identity

variable {α τ : Type} {t t' opened : Tree} {path temp : Path} {faults : Faults}
  {keypair k : Keypair} {sizes : KeySizes}

/-- If the outcome is a failure, it is a report about the key file at the path. -/
abbrev Reported (path : Path) (r : Except Failure α) : Prop :=
  FailsOnly (fun e => ∃ message, e = failed message path) r

theorem reported_failed (path : Path) (message : String) :
    Reported path (.error (failed message path) : Except Failure α) :=
  failsOnly_error.mpr ⟨message, rfl⟩

theorem not_reported_os (path : Path) (refused : OsError) :
    ¬Reported path (.error (.os refused) : Except Failure α) := by
  simp [failed]

theorem not_reported_fault (path : Path) (fault : Fault) :
    ¬Reported path (.error (.fault fault) : Except Failure α) := by
  simp [failed]

/-! ## What cannot be taken away -/

/-- What a path names cannot be taken away, though it is not simply missing: it is a directory, or
the path cannot be followed to it. -/
def Stuck (t : Tree) (p : Path) : Prop :=
  (∃ loc, t.resolve p .entry = .ok (.found loc .directory))
    ∨ ∃ e, t.resolve p .entry = .error e ∧ e ≠ .noEntry

/-- The temporary sibling of a path cannot be taken away. -/
def Blocked (t : Tree) (path : Path) : Prop :=
  ∃ temp, sibling path = .ok temp ∧ Stuck t temp

theorem blocked_iff (h : sibling path = .ok temp) : Blocked t path ↔ Stuck t temp := by
  constructor
  · rintro ⟨temp', h', hstuck⟩
    rwa [← Except.ok.inj (h'.symm.trans h)]
  · exact fun hstuck => ⟨temp, h, hstuck⟩

theorem stuck_iff_of_namedAt {loc : Location} (h : t.NamedAt temp loc) :
    Stuck t temp ↔ t.find? loc = some .directory := by
  rw [Stuck, h.resolve (.inl rfl)]
  cases hfind : t.find? loc with
  | none => simp [Tree.spotAt_of_free hfind]
  | some e => simp [Tree.spotAt_of_find hfind]

theorem blocked_of_directory (h : sibling path = .ok temp) {loc : Location}
    (hloc : t.NamedAt temp loc) (hdir : t.find? loc = some .directory) : Blocked t path :=
  (blocked_iff h).mpr ((stuck_iff_of_namedAt hloc).mpr hdir)

/-- A name that leaves no room for the five bytes that the sibling adds to it is too long to save
under. -/
theorem blocked_of_long_name {left : Nat} {there : Location} (ha : t.Above path left there)
    (hlong : Tree.maxName < Utf8.size path.name + 5) : Blocked t path := by
  obtain ⟨temp, h⟩ : ∃ temp, sibling path = .ok temp := ⟨_, if_neg ha.named⟩
  obtain ⟨hnames, hdrop, hname⟩ := sibling_names h
  obtain ⟨-, htemp⟩ := sibling_eq_ok h
  refine (blocked_iff h).mpr (.inr ⟨.nameTooLong, ?_, by simp⟩)
  by_cases hpath : Tree.maxPath ≤ Utf8.size temp.text
  · rw [Tree.resolve, if_pos hpath]
  have hsize : Tree.maxName < Utf8.size temp.name := by rwa [hname, size_siblingName]
  have habove : t.Above temp left there := by
    refine ⟨Nat.not_le.mp hpath, hnames, ?_⟩
    rw [hdrop, show t.start temp = t.start path by rw [Tree.start, Tree.start, htemp]]
    exact ha.leads
  have hne : ∀ short, Utf8.size short ≤ Tree.maxName → temp.name ≠ short := by
    rintro short hshort rfl
    omega
  rw [habove.resolve (by simp), Tree.walk,
    if_neg (not_or.mpr ⟨hne "" (by decide), hne "." (by decide)⟩),
    if_neg (hne ".." (by decide)), if_neg (by simp), if_pos hsize]

theorem code_ne_noEntry {e : Errno} (h : e ≠ .noEntry) : e.code ≠ Errno.noEntry.code := by
  cases e <;> first | exact absurd rfl h | decide

theorem remove_of_stuck (hnull : temp.hasNull = false) (h : Stuck t temp) :
    ∃ refused, t.remove temp = .error (.os refused)
      ∧ refused.errno ≠ some Errno.noEntry.code := by
  rw [Tree.remove, Tree.resolveNamed, hnull]
  rcases h with ⟨loc, hres⟩ | ⟨e, hres, hne⟩
  · rw [hres]
    exact ⟨.ofErrno .isDirectory [temp.text], rfl, by simp [OsError.ofErrno, Errno.code]⟩
  · rw [hres]
    exact ⟨.ofErrno e [temp.text], rfl, fun h => code_ne_noEntry hne (Option.some.inj h)⟩

theorem remove_of_not_stuck (hnull : temp.hasNull = false) (h : ¬Stuck t temp) :
    (∃ t', t.remove temp = .ok t')
      ∨ t.remove temp = .error (.os (.ofErrno .noEntry [temp.text])) := by
  rw [Tree.remove, Tree.resolveNamed, hnull]
  cases hres : t.resolve temp .entry with
  | error e =>
      obtain rfl : e = .noEntry :=
        Decidable.byContradiction fun hne => h (.inr ⟨e, hres, hne⟩)
      exact .inr rfl
  | ok spot =>
      cases spot with
      | free loc => exact .inr rfl
      | found loc e =>
          cases e with
          | directory => exact absurd (.inl ⟨loc, hres⟩) h
          | file m content => exact .inl ⟨_, rfl⟩
          | link target => exact .inl ⟨_, rfl⟩

theorem run_discard_of_stuck (hnull : temp.hasNull = false) (h : Stuck t temp) :
    ∃ refused, (discard temp).run t = (.error (.os refused), t) := by
  obtain ⟨refused, hremove, hcode⟩ := remove_of_stuck hnull h
  refine ⟨refused, ?_⟩
  rw [discard, run_tryCatch, run_fileChange, hremove]
  simp only [if_neg hcode]
  rfl

theorem run_discard_of_not_stuck (hnull : temp.hasNull = false) (h : ¬Stuck t temp) :
    (discard temp).run t = (.ok (), cleared temp t) := by
  rw [discard, run_tryCatch, run_fileChange, cleared]
  rcases remove_of_not_stuck hnull h with ⟨t', hremove⟩ | hremove
  · rw [hremove]
  · rw [hremove]
    rfl

/-- Where a file was opened, what the path names can be taken away, before and after. -/
theorem not_stuck_of_opened {loc : Location} (hnames : temp.names ≠ []) (hname : temp.name ≠ "")
    (hopen : t.openForWriting temp mode = .ok (loc, opened)) (data : Bytes) :
    ¬Stuck t temp ∧ ¬Stuck (opened.setContent loc data) temp := by
  obtain ⟨own, hown, hdir, hways, hfind⟩ := refilled_of_opened hnames hname hopen data
  rw [stuck_iff_of_namedAt hown, stuck_iff_of_namedAt (hown.mono hways), hfind]
  refine ⟨hdir, fun hrefilled => ?_⟩
  cases hold : t.find? own with
  | none =>
      rw [hold] at hrefilled
      cases hrefilled
  | some e =>
      rw [hold] at hrefilled hdir
      cases e <;> first | exact hdir rfl | cases hrefilled

/-! ## Saving -/

theorem run_save_of_stuck (hnull : temp.hasNull = false) (h : sibling path = .ok temp) {e : Failure}
    (hrep : (replace faults temp path keypair.toBytes).run t = (.error e, t'))
    (he : e.isOs = true ∨ ∃ message, e = failed message path) (hstuck : Stuck t' temp) :
    ∃ refused, (save faults keypair path).run t = (.error (.os refused), t') := by
  obtain ⟨refused, hdiscard⟩ := run_discard_of_stuck hnull hstuck
  refine ⟨refused, ?_⟩
  rw [save_of_sibling faults keypair h, hrep]
  by_cases hos : e.isOs = true
  · simp only [hos, if_true]
    simp [hdiscard]
  · obtain ⟨message, rfl⟩ := he.resolve_left hos
    have hreport : (failed message path).isReport = true := rfl
    simp [hos, hreport, hdiscard]

theorem run_save_of_not_stuck (hnull : temp.hasNull = false) (h : sibling path = .ok temp)
    {e : Failure} (hrep : (replace faults temp path keypair.toBytes).run t = (.error e, t'))
    (he : e.isOs = true ∨ ∃ message, e = failed message path) (hstuck : ¬Stuck t' temp) :
    ∃ message, (save faults keypair path).run t
      = (.error (failed message path), cleared temp t') := by
  have hdiscard := run_discard_of_not_stuck hnull hstuck
  rw [save_of_sibling faults keypair h, hrep]
  by_cases hos : e.isOs = true
  · simp only [hos, if_true]
    exact ⟨_, run_bind_of_ok hdiscard _⟩
  · obtain ⟨message, rfl⟩ := he.resolve_left hos
    exact ⟨message, run_bind_of_ok hdiscard _⟩

/-- What cannot be taken away could not be opened either, so nothing was changed before the cleanup
fails. -/
theorem save_of_blocked (faults : Faults) (keypair : Keypair) (hnull : path.hasNull = false)
    (hb : Blocked t path) :
    ∃ refused, (save faults keypair path).run t = (.error (.os refused), t) := by
  obtain ⟨temp, h, hstuck⟩ := hb
  obtain ⟨hnames, -, hname⟩ := sibling_names h
  have htempNull : temp.hasNull = false := (sibling_hasNull h).trans hnull
  rcases replace_steps faults temp path keypair.toBytes t with
    ⟨e, hrep, he⟩ | ⟨loc, opened, hopen, -⟩
  · exact run_save_of_stuck htempNull h hrep (.inl (he.resolve_right (by simp [htempNull]))) hstuck
  · exact absurd hstuck (not_stuck_of_opened hnames (hname ▸ siblingName_ne_empty _) hopen []).1

theorem save_of_not_blocked (faults : Faults) (keypair : Keypair) (hnull : path.hasNull = false)
    (hnames : path.names ≠ []) (hb : ¬Blocked t path) :
    Reported path ((save faults keypair path).run t).1 := by
  obtain ⟨temp, h⟩ : ∃ temp, sibling path = .ok temp := ⟨_, if_neg hnames⟩
  obtain ⟨htemp, -, hname⟩ := sibling_names h
  have htempNull : temp.hasNull = false := (sibling_hasNull h).trans hnull
  have hreported : ∀ {e t'}, (replace faults temp path keypair.toBytes).run t = (.error e, t') →
      (e.isOs = true ∨ ∃ message, e = failed message path) → ¬Stuck t' temp →
      Reported path ((save faults keypair path).run t).1 := by
    intro e t' hrep he hstuck
    obtain ⟨message, hsave⟩ := run_save_of_not_stuck htempNull h hrep he hstuck
    rw [hsave]
    exact reported_failed path message
  rcases replace_steps faults temp path keypair.toBytes t with
    ⟨e, hrep, he⟩ | ⟨loc, opened, hopen, ⟨e, kept, hrep, he⟩ | ⟨t', -, hrep⟩⟩
  · rw [blocked_iff h] at hb
    exact hreported hrep (.inl (he.resolve_right (by simp [htempNull]))) hb
  · have hfine := not_stuck_of_opened htemp (hname ▸ siblingName_ne_empty _) hopen kept
    exact hreported hrep he hfine.2
  · rw [save_of_ok faults keypair h hrep]
    exact failsOnly_ok ()

/-- Every failure of saving is reported, unless the temporary sibling cannot be taken away. -/
theorem save_reported_iff (faults : Faults) (keypair : Keypair) (hnull : path.hasNull = false)
    (hnames : path.names ≠ []) (t : Tree) :
    Reported path ((save faults keypair path).run t).1 ↔ ¬Blocked t path := by
  refine ⟨fun hreported hb => ?_, save_of_not_blocked faults keypair hnull hnames⟩
  obtain ⟨refused, hsave⟩ := save_of_blocked faults keypair hnull hb
  rw [hsave] at hreported
  exact not_reported_os path refused hreported

/-! ## Loading -/

/-- By the sizes a file is to be read that is no less than nothing, and no more than can be
addressed. -/
def Readable (sizes : KeySizes) : Prop :=
  -2 ≤ sizes.total ∧ sizes.total < KeySizes.addressable

theorem readable_iff {sizes : KeySizes} :
    Readable sizes ↔
      -1 ≤ sizes.total + 1 ∧ Granted KeySizes.addressable (sizes.total + 1) := by
  refine ⟨fun h => ⟨by have := h.1; omega, granted_of_addressable h.2⟩, fun h => ?_⟩
  obtain ⟨hcount, hroom, -⟩ := h
  exact ⟨by omega, by omega⟩

theorem decoded_reported_iff (path : Path) (sizes : KeySizes) (content : Bytes) :
    Reported path (decoded KeySizes.addressable path sizes content) ↔ Readable sizes := by
  rw [readable_iff, decoded]
  by_cases hgranted : -1 ≤ sizes.total + 1 ∧ Granted KeySizes.addressable (sizes.total + 1)
  · refine iff_of_true ?_ hgranted
    obtain ⟨data, hread⟩ := readAtMost_returns hgranted.1 hgranted.2 content
    simp only [hread]
    by_cases hlength : (data.length : Int) = sizes.total
    · simp [ofBytes_of_length hlength, hlength]
    · rw [if_pos hlength]
      exact reported_failed path _
  · refine iff_of_false ?_ hgranted
    obtain ⟨fault, hrefused⟩ := readAtMost_of_not_granted hgranted content
    rw [hrefused]
    exact not_reported_fault path fault

/-- Every failure of loading is reported, unless there is a file that cannot be read by the
sizes. -/
theorem load_reported_iff (hnull : path.hasNull = false) (sizes : KeySizes) (t : Tree) :
    Reported path ((load path sizes).run t).1 ↔
      ∀ content, t.read path = .ok content → Readable sizes := by
  rw [load, run_loadWithin]
  cases hread : t.read path with
  | error e =>
      obtain ⟨refused, rfl⟩ := Tree.os_of_read hnull hread
      exact iff_of_true (reported_failed path _) fun _ h => by cases h
  | ok content =>
      refine (decoded_reported_iff path sizes content).trans ⟨fun h _ _ => h, fun h => ?_⟩
      exact h content rfl

end SeedNode.KeyFile

namespace SeedNode.Identity

open KeyFile

variable {τ : Type} {path : Path} {k : Keypair} {generate : Answer τ Keypair}

/-! ## Establishing -/

theorem establish_reported_iff (faults : Faults) (sizes : KeySizes) (hnull : path.hasNull = false)
    (hnames : path.names ≠ []) (s : Session τ)
    (hgen : generate (s.calls ++ [.generateKeypair]) = .ok k) :
    Reported path ((establish faults path sizes generate).run s).1 ↔
      s.files.resolve path .target ≠ .error .nameTooLong
        ∧ (s.files.pathExists path = .ok true →
          ∀ content, s.files.read path = .ok content → Readable sizes)
        ∧ (s.files.pathExists path = .ok false → k.fits sizes = true →
          ¬Blocked s.files path) := by
  cases hexists : s.files.pathExists path with
  | error e =>
      obtain ⟨hlong, rfl⟩ := (Tree.pathExists_eq_error hnull).mp hexists
      rw [run_establish_of_refused hexists]
      exact iff_of_false (not_reported_os path _) fun h => h.1 hlong
  | ok found =>
      have hshort : s.files.resolve path .target ≠ .error .nameTooLong := by
        intro hlong
        rw [(Tree.pathExists_eq_error hnull).mpr ⟨hlong, rfl⟩] at hexists
        cases hexists
      cases found with
      | true =>
          have hload := load_reported_iff hnull sizes s.files
          rw [run_establish_of_exists hexists]
          simp only [hshort, ne_eq, not_false_eq_true, true_and, Except.ok.injEq,
            Bool.true_eq_false, false_implies, and_true, forall_const]
          rw [← hload]
          cases ((load path sizes).run s.files).1 <;> simp
      | false =>
          have hsave := save_reported_iff faults k hnull hnames s.files
          rw [run_establish_of_missing hexists, hgen]
          simp only [hshort, ne_eq, not_false_eq_true, true_and, Except.ok.injEq,
            Bool.false_eq_true, false_implies, forall_const]
          by_cases hfits : k.fits sizes = true
          · rw [← hsave]
            simp only [hfits, Bool.true_eq_false, if_false, forall_const]
            rcases (save faults k path).run s.files with ⟨e | _, t⟩ <;> simp
          · rw [if_pos (Bool.eq_false_iff.mpr hfits)]
            exact iff_of_true (reported_failed path _) fun h => absurd h hfits

/-- Every failure of saving a keypair is reported under the path, unless the temporary sibling
cannot be taken away, as under a name that is too long for it. For every failure of establishing
the identity it takes besides that the path can be asked about, and that no file is to be read by
sizes of less than nothing or of more than can be addressed. -/
theorem failures_reported_iff (faults : Faults) (keypair : Keypair) (sizes : KeySizes)
    (hnull : path.hasNull = false) (hname : path.name ≠ "") (t : Tree) (s : Session τ)
    (hgen : generate (s.calls ++ [.generateKeypair]) = .ok k) :
    (Reported path ((save faults keypair path).run t).1 ↔ ¬Blocked t path)
      ∧ (∀ left there, t.Above path left there → Tree.maxName < Utf8.size path.name + 5 →
        Blocked t path)
      ∧ (Reported path ((establish faults path sizes generate).run s).1 ↔
        s.files.resolve path .target ≠ .error .nameTooLong
          ∧ (s.files.pathExists path = .ok true →
            ∀ content, s.files.read path = .ok content → Readable sizes)
          ∧ (s.files.pathExists path = .ok false → k.fits sizes = true →
            ¬Blocked s.files path)) := by
  have hnames : path.names ≠ [] := fun h => hname (by rw [Path.name, h]; rfl)
  exact ⟨save_reported_iff faults keypair hnull hnames t, fun _ _ => blocked_of_long_name,
    establish_reported_iff faults sizes hnull hnames s hgen⟩

theorem failures_reported_after_short_write :
    let path : Path := ⟨"", ["keys"]⟩
    let faults : Faults := { Faults.none with stored := some 1 }
    path.hasNull = false ∧ path.name ≠ ""
      ∧ Reported path ((save faults ⟨[1], [2]⟩ path).run Tree.empty).1 := by
  intro path faults
  have hsib : sibling path = .ok ⟨"", [".keys.tmp"]⟩ := rfl
  have hsource : Tree.empty.NamedAt ⟨"", [".keys.tmp"]⟩ ["tmp", ".", ".keys.tmp"] :=
    ⟨by decide, _, ["tmp", "."], ⟨by decide, by simp, .here _ _⟩, rfl⟩
  have hfree : ¬Blocked Tree.empty path := by
    rw [blocked_iff hsib, stuck_iff_of_namedAt hsource]
    decide
  have hnull : path.hasNull = false := by decide
  have hname : path.name ≠ "" := by decide
  let s : Session Unit := .start Tree.empty [] ⟨true, [], 0⟩
  let generate : Answer Unit Keypair := fun _ => .ok ⟨[1], [2]⟩
  have hgen : generate (s.calls ++ [.generateKeypair]) = .ok ⟨[1], [2]⟩ := rfl
  obtain ⟨hsave, -⟩ := failures_reported_iff faults ⟨[1], [2]⟩ ⟨1, 1⟩ hnull hname Tree.empty s hgen
  exact ⟨hnull, hname, hsave.mpr hfree⟩

/-- A directory at the temporary sibling makes the cleanup fail, and neither saving nor
establishing reports it. -/
theorem directory_at_sibling_unreported :
    let t : Tree := ⟨[], [([".keys.tmp"], .directory)]⟩
    let path : Path := ⟨"", ["keys"]⟩
    let s : Session Unit := .start t [] ⟨true, [], 0⟩
    ¬Reported path ((save .none ⟨[1], [2]⟩ path).run t).1
      ∧ ¬Reported path ((establish .none path ⟨1, 1⟩ fun _ => .ok ⟨[1], [2]⟩).run s).1 := by
  intro t path s
  have hsib : sibling path = .ok ⟨"", [".keys.tmp"]⟩ := rfl
  have hsource : t.NamedAt ⟨"", [".keys.tmp"]⟩ [".keys.tmp"] :=
    ⟨by decide, _, [], ⟨by decide, by simp, .here _ _⟩, rfl⟩
  have htarget : t.NamedAt path ["keys"] :=
    ⟨by decide, _, [], ⟨by decide, by simp [path], .here _ _⟩, rfl⟩
  have hfree : t.find? ["keys"] = none := by decide
  have hnull : path.hasNull = false := by decide
  have hblocked : Blocked t path := blocked_of_directory hsib hsource (by decide)
  have hmissing : s.files.pathExists path = .ok false := by
    rw [show s.files = t from rfl, Tree.pathExists, hnull,
      htarget.resolve (.inr (by simp [hfree])), Tree.spotAt_of_free hfree]
    rfl
  obtain ⟨refused, hsave⟩ := save_of_blocked .none ⟨[1], [2]⟩ hnull hblocked
  refine ⟨?_, ?_⟩
  · rw [hsave]
    exact not_reported_os path refused
  · rw [run_establish_of_missing hmissing]
    simp only [show s.files = t from rfl, hsave]
    exact not_reported_os path refused

end SeedNode.Identity

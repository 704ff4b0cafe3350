import SeedNode.Proofs.Effects
import SeedNode.Proofs.Files.Walk
import SeedNode.Proofs.Toml.Limits
import SeedNode.Seeds.Contact

/-!
# Settings files that cannot be used

A settings file that cannot be read, or that is no settings document, should be reported under its
path. Two kinds of files are not: one whose bytes are no text, and one with a decimal integer over
the limit on digits. Their failures pass through as they are (`failures_carry_path_iff`). `Reading`
lists all that reading a settings file can come to, and everything else here follows from it.
-/

namespace SeedNode.Config

variable {τ : Type} {path : Path} {files : Tree}

/-! ## What a file holds -/

/-- The bytes are a settings document that comes to the table. -/
def IsDocument (content : Bytes) (table : Table) : Prop :=
  ∃ text, Utf8.decode content = .ok text ∧ Toml.parse text = .ok table

/-- The bytes are no text. -/
def IsGarbled (content : Bytes) : Prop :=
  ∃ e, Utf8.decode content = .error e

/-- The bytes are a text, which stops being read at a decimal integer over the limit on digits. -/
def IsOverlong (content : Bytes) : Prop :=
  ∃ text digits, Utf8.decode content = .ok text ∧ Toml.parse text = .error (.tooLong digits)

/-- How reading the settings file at a path ends. -/
inductive Reading (path : Path) (files : Tree) : Except Failure Table → Prop
  | document {content table} (hread : files.read path = .ok content)
      (h : IsDocument content table) : Reading path files (.ok table)
  | unreadable {e} (hread : files.read path = .error (.os e)) :
      Reading path files
        (.error (fileFailed path s!"Couldn't read config file {path}: {e.reason}"))
  | malformed {content text message} (hread : files.read path = .ok content)
      (htext : Utf8.decode content = .ok text)
      (h : Toml.parse text = .error (.malformed message)) :
      Reading path files (.error (fileFailed path s!"{path}: {message}"))
  | garbled {content e} (hread : files.read path = .ok content)
      (h : Utf8.decode content = .error e) : Reading path files (.error (.undecodable e))
  | overlong {content text digits} (hread : files.read path = .ok content)
      (htext : Utf8.decode content = .ok text)
      (h : Toml.parse text = .error (.tooLong digits)) :
      Reading path files (.error (.fault (.tooLong ⟨some digits⟩)))

theorem readTable_reading (hnull : path.hasNull = false) (files : Tree) :
    Reading path files (readTable path files) := by
  rw [readTable]
  cases hread : files.read path with
  | error e =>
      obtain ⟨refused, rfl⟩ := Tree.os_of_read hnull hread
      exact .unreadable hread
  | ok content =>
      dsimp only
      rw [parseFile]
      cases htext : Utf8.decode content with
      | error e => exact .garbled hread htext
      | ok text =>
          dsimp only
          rcases hparse : Toml.parse text with (message | digits) | table
          · exact .malformed hread htext hparse
          · exact .overlong hread htext hparse
          · exact .document hread ⟨text, htext, hparse⟩

/-! ## Reports that carry the path -/

/-- The failure is a report of the configuration, and its details are the path. -/
def NamesPath (path : Path) (e : Failure) : Prop :=
  ∃ r, e = .report r ∧ r.stage = .config ∧ r.details = .table [("path", .str path.text)]

theorem namesPath_fileFailed (h : path.text ≠ "") (message : String) :
    NamesPath path (fileFailed path message) := by
  refine ⟨_, rfl, rfl, ?_⟩
  simp [Report.aboutFile, Value.truthy, h]

theorem not_namesPath_undecodable (m : Utf8.Malformed) : ¬NamesPath path (.undecodable m) := by
  rintro ⟨r, hr, -⟩
  cases hr

theorem not_namesPath_fault (f : Fault) : ¬NamesPath path (.fault f) := by
  rintro ⟨r, hr, -⟩
  cases hr

/-- A failure that does not carry the path is one of decoding, or of a decimal integer over the
limit on digits. -/
theorem Reading.namesPath_or (h : path.text ≠ "") {e : Failure}
    (hr : Reading path files (.error e)) :
    NamesPath path e
      ∨ (∃ content, files.read path = .ok content ∧ IsGarbled content)
        ∧ (∃ m, e = .undecodable m)
      ∨ (∃ content, files.read path = .ok content ∧ IsOverlong content)
        ∧ ∃ digits, maxDigits < digits ∧ e = .fault (.tooLong ⟨some digits⟩) := by
  cases hr with
  | unreadable => exact .inl (namesPath_fileFailed h _)
  | malformed => exact .inl (namesPath_fileFailed h _)
  | garbled hread hgarbled => exact .inr (.inl ⟨⟨_, hread, _, hgarbled⟩, _, rfl⟩)
  | overlong hread htext hlong =>
      exact .inr (.inr ⟨⟨_, hread, _, _, htext, hlong⟩, _, Toml.limit_of_parse hlong, rfl⟩)

theorem readTable_of_read {content : Bytes} (hread : files.read path = .ok content) :
    readTable path files = parseFile path content := by
  rw [readTable, hread]

theorem readTable_of_document {content : Bytes} {table : Table}
    (hread : files.read path = .ok content) (h : IsDocument content table) :
    readTable path files = .ok table := by
  obtain ⟨text, htext, hparse⟩ := h
  rw [readTable_of_read hread, parseFile, htext]
  dsimp only
  rw [hparse]
  rfl

/-- The failure for bytes that are no text does not say which file they are from. -/
theorem readTable_of_garbled {content : Bytes} (hread : files.read path = .ok content)
    (h : IsGarbled content) :
    ∃ e, readTable path files = .error e ∧ ¬NamesPath path e := by
  obtain ⟨m, htext⟩ := h
  refine ⟨.undecodable m, ?_, not_namesPath_undecodable m⟩
  rw [readTable_of_read hread, parseFile, htext]
  rfl

/-- Nor does the failure for an integer over the limit. -/
theorem readTable_of_overlong {content : Bytes} (hread : files.read path = .ok content)
    (h : IsOverlong content) :
    ∃ e, readTable path files = .error e ∧ ¬NamesPath path e := by
  obtain ⟨text, digits, htext, hparse⟩ := h
  refine ⟨.fault (.tooLong ⟨some digits⟩), ?_, not_namesPath_fault _⟩
  rw [readTable_of_read hread, parseFile, htext]
  dsimp only
  rw [hparse]
  rfl

/-! ## Stages that begin with the file -/

theorem run_load_of_error {e : Failure} {s : Session τ} (h : readTable path s.files = .error e) :
    (load path).run s = (.error e, s) := by
  have hask : (SessionM.onFiles (FileM.ask (readTable path))).run s = (.error e, s) := by
    rw [run_onFiles, run_fileAsk, h]
  exact run_bind_of_error hask _

theorem run_contactFile_of_error (engine : Engine τ) (ipv6 : Bool) {e : Failure} {s : Session τ}
    (h : readTable path s.files = .error e) :
    (Seeds.contactFile path engine ipv6).run s = (.error e, s) := by
  have hask : (SessionM.onFiles (FileM.ask (readTable path))).run s = (.error e, s) := by
    rw [run_onFiles, run_fileAsk, h]
  exact run_bind_of_error hask _

/-- A settings file with nothing in it is a table without entries. -/
theorem readTable_of_empty (hread : files.read path = .ok []) : readTable path files = .ok [] := by
  have htext : Utf8.decode [] = .ok [] := by simp [Utf8.decode, Utf8.decodeFrom]
  rw [readTable_of_read hread, parseFile, htext]
  rfl

/-- It leaves every setting as it is by default. -/
theorem resolve_empty :
    ((resolve []).run []).1.toOption.map (·.config) = some DaemonConfig.default := by
  decide +kernel

theorem run_load_of_empty {s : Session τ} (hread : s.files.read path = .ok []) :
    ∃ r s', (load path).run s = (.ok r, s') ∧ r.config = .default ∧ s'.files = s.files := by
  have hask := run_onFiles (FileM.ask (readTable path)) s
  rw [run_fileAsk, readTable_of_empty hread] at hask
  have hquiet : Quiet fun s s' : Session τ => s'.files = s.files :=
    ⟨fun _ => rfl, fun _ _ _ h h' => h'.trans h, fun _ _ => rfl⟩
  have hkept := hquiet.onLog (resolve []) s
  have hdefault := resolve_empty
  rw [load, run_bind_of_ok hask]
  rw [run_onLog] at hkept ⊢
  cases hresolve : ((resolve []).run []).1 with
  | error e =>
      rw [hresolve] at hdefault
      cases hdefault
  | ok r =>
      rw [hresolve] at hdefault
      exact ⟨r, _, rfl, Option.some.inj hdefault, hkept⟩

/-- Reading a settings file yields the table if the file holds one. Every failure carries the path
just where the file holds neither bytes that are no text nor an integer over the limit, and it is
what the stages that begin with the file fail with. -/
theorem failures_carry_path_iff (text : String) (hnull : (Path.ofString text).hasNull = false)
    (engine : Engine τ) (ipv6 : Bool) (s : Session τ) :
    let path := Path.ofString text
    (∀ table, readTable path s.files = .ok table ↔
        ∃ content, s.files.read path = .ok content ∧ IsDocument content table)
      ∧ ((∀ e, readTable path s.files = .error e → NamesPath path e) ↔
        ∀ content, s.files.read path = .ok content → ¬IsGarbled content ∧ ¬IsOverlong content)
      ∧ (∀ e, readTable path s.files = .error e → NamesPath path e
        ∨ (∃ m, e = .undecodable m)
        ∨ ∃ digits, maxDigits < digits ∧ e = .fault (.tooLong ⟨some digits⟩))
      ∧ ∀ e, readTable path s.files = .error e →
        (load path).run s = (.error e, s)
          ∧ (Seeds.contactFile path engine ipv6).run s = (.error e, s) := by
  intro path
  have hreading := readTable_reading hnull s.files
  have hcases : ∀ e, readTable path s.files = .error e → _ := fun e he =>
    Reading.namesPath_or (Path.text_ofString_ne_empty text) (he ▸ hreading)
  refine ⟨fun table => ⟨fun h => ?_, fun ⟨_, hread, h⟩ => readTable_of_document hread h⟩,
    ⟨fun hcarries content hread => ⟨fun h => ?garbled, fun h => ?overlong⟩, fun hfine e he => ?_⟩,
    fun e he => ?_, fun e he =>
    ⟨run_load_of_error he, run_contactFile_of_error engine ipv6 he⟩⟩
  · rw [show readTable (Path.ofString text) s.files = .ok table from h] at hreading
    cases hreading with
    | document hread h => exact ⟨_, hread, h⟩
  case garbled =>
    obtain ⟨e, he, hnot⟩ := readTable_of_garbled hread h
    exact hnot (hcarries e he)
  case overlong =>
    obtain ⟨e, he, hnot⟩ := readTable_of_overlong hread h
    exact hnot (hcarries e he)
  · obtain h | ⟨⟨content, hread, hgarbled⟩, -⟩ | ⟨⟨content, hread, hlong⟩, -⟩ := hcases e he
    · exact h
    · exact absurd hgarbled (hfine content hread).1
    · exact absurd hlong (hfine content hread).2
  · exact (hcases e he).imp_right (.imp And.right And.right)

theorem failures_carry_path_missing_file :
    let path := Path.ofString "seed.conf"
    let files := Tree.empty
    path.hasNull = false
      ∧ ∃ e, readTable path files = .error e ∧ NamesPath path e := by
  intro path files
  let engine : Engine Nat :=
    ⟨1, fun _ => .ok (), fun _ => .ok (), fun _ => .ok true, fun _ => .ok 0, fun _ => .ok (),
      fun _ => .ok (), fun _ => .ok true, fun _ => .ok none⟩
  have hpath : path = ⟨"", ["seed.conf"]⟩ := by decide
  have hnull : path.hasNull = false := by decide
  have hnamed : files.NamedAt path ["tmp", ".", "seed.conf"] :=
    hpath ▸ ⟨by decide, _, ["tmp", "."], ⟨by decide, by decide, .here _ _⟩, rfl⟩
  have hfree : files.find? ["tmp", ".", "seed.conf"] = none := by decide
  have hread : ∀ content, files.read path ≠ .ok content := by
    intro content h
    rw [Tree.read, hnamed.resolveNamed hnull (.inr (by simp [hfree])), Tree.spotAt, hfree] at h
    cases h
  obtain ⟨htable, hcarries, -, -⟩ :=
    failures_carry_path_iff "seed.conf" hnull engine true (.start files [] ⟨true, [], 0⟩)
  refine ⟨hnull, ?_⟩
  cases h : readTable path files with
  | ok table =>
      obtain ⟨content, hcontent, -⟩ := (htable table).mp h
      exact absurd hcontent (hread content)
  | error e =>
      exact ⟨e, rfl, hcarries.mpr (fun content hcontent => absurd hcontent (hread content)) e h⟩

/-- A file of a single byte that begins no character is reported without its path. -/
theorem garbled_file_carries_no_path :
    let path := Path.ofString "seed.conf"
    let files := Tree.empty.insert ["tmp", ".", "seed.conf"] (.file 0o644 [0xFF])
    ∃ e, readTable path files = .error e ∧ e.className = "UnicodeDecodeError"
      ∧ ¬NamesPath path e := by
  intro path files
  have hpath : path = ⟨"", ["seed.conf"]⟩ := by decide
  have hnamed : files.NamedAt path ["tmp", ".", "seed.conf"] :=
    hpath ▸ ⟨by decide, _, ["tmp", "."], ⟨by decide, by decide, .here _ _⟩, rfl⟩
  have hfile : files.find? ["tmp", ".", "seed.conf"] = some (.file 0o644 [0xFF]) := by decide
  have hread : files.read path = .ok [0xFF] := by
    rw [Tree.read, hnamed.resolveNamed (by decide) (.inr (by simp [hfile])), Tree.spotAt, hfile]
    rfl
  have hgarbled : Utf8.decode [0xFF] = .error ⟨0, 1, 0xFF, .startByte⟩ := by
    simp [Utf8.decode, Utf8.decodeFrom, Utf8.front]
  refine ⟨.undecodable ⟨0, 1, 0xFF, .startByte⟩, ?_, rfl, not_namesPath_undecodable _⟩
  rw [readTable_of_read hread, parseFile, hgarbled]
  rfl

end SeedNode.Config

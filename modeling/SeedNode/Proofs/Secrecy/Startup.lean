import SeedNode.Proofs.Secrecy.Stages
import SeedNode.Proofs.Startup.Pipeline
import SeedNode.Proofs.Startup.SettingsFile

/-!
# The secret key does not show

Two runs that differ in the secret key only, be it stored or newly generated, cannot be told apart:
they make the same records and, but for the keypair that an engine is created with, the same calls,
and they come to the same failure or to results with the same texts. For establishing the identity
this holds without exception. A start reads its settings file a second time, for the seeds, and so
has one: where there is no key file yet and a link stands in its place or at its sibling, the
keypair may be stored in the settings file, and what is said of its content may show the key
(`Spilt`).
-/

namespace SeedNode.Service

variable {setup setup' : Setup} {s s' : Session Float}

/-- Nothing tells the two runs apart but the results that they return, which are related by `S`, and
what files hold. -/
def Indistinct {τ α β : Type} (S : α → β → Prop) (r : Except Failure α × Session τ)
    (r' : Except Failure β × Session τ) : Prop :=
  Agree S r.1 r'.1 ∧ r.2.Alike (Tree.Alike SameLength) r'.2

/-- Nothing tells the two starts apart until both have their identity; but then both have stored it
in the settings file. -/
structure Spilt (setup setup' : Setup) (s s' : Session Float) (path : Path) (k k' : Keypair)
    (s₁ s₁' : Session Float) : Prop where
  reached : ∃ settings config factory, Path.ofString config.keysFilePath = path
    ∧ Reaches setup .begun s (.identified settings config factory k) s₁
  reached' : ∃ settings config factory, Path.ofString config.keysFilePath = path
    ∧ Reaches setup' .begun s' (.identified settings config factory k') s₁'
  keys : k.Alike k'
  session : s₁.Alike (Tree.Alike SameLength) s₁'
  spills : Spills path setup.configPath k s.files s₁.files
  spills' : Spills path setup.configPath k' s'.files s₁'.files

theorem files_of_advance {m : Milestone} {stage : StartStage} {rest : List StartStage}
    (hm : m.ahead = stage :: rest) (hstage : stage ≠ .identity) {r : Except Failure Milestone}
    (h : (advance setup m).run s = (r, s')) : s'.files = s.files := by
  have hwork := advance_works setup hm s
  rw [h] at hwork
  exact hwork.files hstage

/-- A start that has its configuration could read its settings file. -/
theorem read_of_begun {m : Milestone} (h : (advance setup .begun).run s = (.ok m, s')) :
    ∃ content, s.files.read setup.configPath = .ok content := by
  rw [advance.eq_1] at h
  obtain ⟨settings, s₁, hsettings, h⟩ := run_bind_eq_ok.mp h
  obtain ⟨resolved, s₂, hload, -⟩ := run_bind_eq_ok.mp h
  obtain ⟨data, s₃, hdata, -⟩ := run_bind_eq_ok.mp hload
  rw [run_settings] at hsettings
  obtain ⟨-, rfl⟩ := Prod.mk.inj hsettings
  rw [run_onFiles, run_fileAsk] at hdata
  have htable := (Prod.mk.inj hdata).1
  cases hread : s.files.read setup.configPath with
  | ok content => exact ⟨content, rfl⟩
  | error e =>
      rw [Config.readTable, hread] at htable
      cases e <;> cases htable

/-- Where the settings file is still the same when both have their identity, nothing shows. -/
theorem goOn_indistinct (hsetup : setup.Alike setup') {m m' : Milestone} (hm : m.Alike m')
    (hs : s.Alike (Tree.Alike SameLength) s')
    (hread : s'.files.read setup.configPath = s.files.read setup.configPath) (n : Nat) :
    Indistinct Milestone.Alike ((goOn setup n m).run s) ((goOn setup' n m').run s') := by
  have hsame : s.Alike (fun t t' => t.Alike SameLength t'
      ∧ t'.read setup.configPath = t.read setup.configPath) s' := hs.withFiles ⟨hs.files, hread⟩
  obtain ⟨hagree, hend⟩ := goOn_matches hsetup (fun _ _ ht => ht.2) n hm s s' hsame
  exact ⟨hagree, hend.mono fun _ _ ht => ht.1⟩

/-- The stage that keeps the identity shows nothing, and nothing shows after it, unless each run has
stored its keypair in the settings file. -/
theorem equipped_conceals (hsetup : setup.Alike setup') (settings : ProcessSettings)
    (config : DaemonConfig) {factory factory' : Factory Float} (hfactory : factory.Alike factory')
    (hs : s.Alike (SameSettings setup.configPath) s')
    (hsecret : s.files.DifferInSecret (Path.ofString config.keysFilePath) factory.sizes s'.files)
    {content : Bytes} (hread : s.files.read setup.configPath = .ok content) :
    Indistinct Milestone.Alike
        ((goOn setup 6 (.equipped settings config factory)).run s)
        ((goOn setup' 6 (.equipped settings config factory')).run s')
      ∨ ∃ k k' s₁ s₁',
        (advance setup (.equipped settings config factory)).run s
            = (.ok (.identified settings config factory k), s₁)
          ∧ (advance setup' (.equipped settings config factory')).run s'
            = (.ok (.identified settings config factory' k'), s₁')
          ∧ k.Alike k' ∧ s₁.Alike (Tree.Alike SameLength) s₁'
          ∧ Spills (Path.ofString config.keysFilePath) setup.configPath k s.files s₁.files
          ∧ Spills (Path.ofString config.keysFilePath) setup.configPath k' s'.files s₁'.files := by
  have hread' := hs.files.settings.trans hread
  rcases (equipped_matches hsetup settings config hfactory).ends (hs.withFiles hsecret.alike) with
    ⟨e, t, t', hrun, hrun', ht⟩ | ⟨m, m', s₁, s₁', hrun, hrun', hm, hs₁⟩
  · refine .inl ?_
    rw [run_goOn_of_error hrun, run_goOn_of_error hrun']
    exact ⟨.error e, ht.mono fun _ _ ht => ht.sameLength⟩
  obtain ⟨k, t, rfl, hestablish, hstored, -⟩ := equipped_eq_ok hrun
  obtain ⟨k', t', rfl, hestablish', hstored', -⟩ := equipped_eq_ok hrun'
  have hlengths : s₁.Alike (Tree.Alike SameLength) s₁' := hs₁.mono fun _ _ ht => ht.sameLength
  rw [hfactory.sizes, hsetup.keyFaults] at hestablish'
  cases hm with
  | identified _ _ _ hkeys =>
      have hreads := reads_of_established hsecret hread hread' hkeys hestablish hestablish'
      rw [← hstored, ← hstored'] at hreads
      rcases hreads with hsame | ⟨hspills, hspills'⟩
      · rw [run_goOn_of_ok hrun, run_goOn_of_ok hrun']
        exact .inl (goOn_indistinct hsetup (.identified _ _ hfactory hkeys) hlengths hsame 5)
      · exact .inr ⟨k, k', s₁, s₁', hrun, hrun', hkeys, hlengths, hspills, hspills'⟩

theorem goOn_conceals (hsetup : setup.Alike setup')
    (hs : s.Alike (SameSettings setup.configPath) s')
    (hfiles : ∀ settings config factory s₁,
      Reaches setup .begun s (.equipped settings config factory) s₁ →
        s.files.DifferInSecret (Path.ofString config.keysFilePath) factory.sizes s'.files) :
    Indistinct Milestone.Alike ((goOn setup 8 .begun).run s) ((goOn setup' 8 .begun).run s')
      ∨ ∃ path k k' s₁ s₁', Spilt setup setup' s s' path k k' s₁ s₁' := by
  rcases (begun_matches hsetup).ends hs with
    ⟨e, t, t', hrun, hrun', ht⟩ | ⟨m, _, s₁, s₁', hrun, hrun', ⟨rfl, settings, config, rfl⟩, hs₁⟩
  · refine .inl ?_
    rw [run_goOn_of_error hrun, run_goOn_of_error hrun']
    exact ⟨.error e, ht.mono fun _ _ ht => ht.alike⟩
  rw [run_goOn_of_ok hrun, run_goOn_of_ok hrun']
  rcases (configured_matches hsetup settings config).ends hs₁ with
    ⟨e, t, t', hrun₁, hrun₁', ht⟩ | ⟨m, m', s₂, s₂', hrun₁, hrun₁', hm, hs₂⟩
  · refine .inl ?_
    rw [run_goOn_of_error hrun₁, run_goOn_of_error hrun₁']
    exact ⟨.error e, ht.mono fun _ _ ht => ht.alike⟩
  rw [run_goOn_of_ok hrun₁, run_goOn_of_ok hrun₁']
  obtain @⟨settings, config, factory, factory', hfactory⟩ := hm
  have hreached : Reaches setup .begun s (.equipped settings config factory) s₂ :=
    .step (by decide) hrun (.step (List.cons_ne_nil _ _) hrun₁ (.here _ _))
  have hreached' : Reaches setup' .begun s' (.equipped settings config factory') s₂' :=
    .step (by decide) hrun' (.step (List.cons_ne_nil _ _) hrun₁' (.here _ _))
  have hbefore : s₂.files = s.files :=
    (files_of_advance rfl (by decide) hrun₁).trans (files_of_advance rfl (by decide) hrun)
  have hbefore' : s₂'.files = s'.files :=
    (files_of_advance rfl (by decide) hrun₁').trans (files_of_advance rfl (by decide) hrun')
  have hsecret := hfiles settings config factory s₂ hreached
  obtain ⟨content, hread⟩ := read_of_begun hrun
  rw [← hbefore] at hread
  rw [← hbefore, ← hbefore'] at hsecret
  refine (equipped_conceals hsetup settings config hfactory hs₂ hsecret hread).imp_right ?_
  rintro ⟨k, k', s₃, s₃', hrun₂, hrun₂', hkeys, hsession, hspills, hspills'⟩
  rw [hbefore] at hspills
  rw [hbefore'] at hspills'
  have hidentified := hreached.snoc (List.cons_ne_nil _ _) hrun₂
  have hidentified' := hreached'.snoc (List.cons_ne_nil _ _) hrun₂'
  exact ⟨_, k, k', s₃, s₃', ⟨_, _, _, rfl, hidentified⟩, ⟨_, _, _, rfl, hidentified'⟩, hkeys,
    hsession, hspills, hspills'⟩

/-- A start is its stages one after another, so it shows what they show. -/
theorem prepare_indistinct
    (h : Indistinct Milestone.Alike ((goOn setup 8 .begun).run s) ((goOn setup' 8 .begun).run s')) :
    Indistinct Scheduler.Alike ((prepare setup).run s) ((prepare setup').run s') := by
  rw [← prepare_eq_goOn, ← prepare_eq_goOn, run_map, run_map] at h
  generalize (prepare setup).run s = r at h ⊢
  generalize (prepare setup').run s' = r' at h ⊢
  obtain ⟨hagree, hend⟩ := h
  rcases r with ⟨e | scheduler, t⟩ <;> rcases r' with ⟨e' | scheduler', t'⟩ <;> cases hagree
  · exact ⟨.error e, hend⟩
  · rename_i hready
    cases hready with
    | ready h => exact ⟨.ok h, hend⟩

/-! ## Starts that succeed until they contact the seeds -/

/-- Over an empty settings file the daemon is configured by default. -/
theorem begun_of_empty {settings : ProcessSettings}
    (hsettings : ProcessSettings.read s.environment s.files = .ok settings)
    (hcache : s.settings.current = none) (hread : s.files.read setup.configPath = .ok [])
    (hpid : s.files.pathExists (Path.ofString DaemonConfig.default.pidFilePath) = .ok false) :
    ∃ s₁, (advance setup .begun).run s = (.ok (.configured settings .default), s₁) := by
  have hget := run_settings s
  rw [SettingsCache.get, hcache, hsettings] at hget
  obtain ⟨s₁, hsettings, hkept⟩ :
      ∃ s₁, SessionM.settings.run s = (.ok settings, s₁) ∧ s₁.files = s.files := ⟨_, hget, rfl⟩
  obtain ⟨r, s₂, hload, hconfig, hkept'⟩ := Config.run_load_of_empty (hkept ▸ hread)
  have hvalid : DaemonConfig.default.validate = .ok () := rfl
  simp only [advance.eq_1, run_bind, hsettings, hload, hconfig, hvalid, run_ofExcept, inform,
    run_note, Detach.warnIfStale, run_onFiles_ask, Session.addRecord_files, hkept', hkept, hpid]
  exact ⟨_, rfl⟩

/-- A start that cannot read its settings file a second time fails with that. -/
theorem prepare_of_unreadable {node : Node} {relay : Option (Relay Float)} {s₁ : Session Float}
    {e : Failure} (h : Reaches setup .begun s (.relayed node relay) s₁)
    (hread : Config.readTable setup.configPath s₁.files = .error e) :
    (prepare setup).run s = (.error e, s₁) := by
  have hfails : (advance setup (.relayed node relay)).run s₁ = (.error e, s₁) := by
    rw [advance.eq_7]
    exact run_bind_of_error (Config.run_contactFile_of_error node.engine node.ipv6 hread) _
  have hgoOn := h.fails (List.cons_ne_nil _ _) hfails
  exact run_of_map_eq_error ((congrArg (·.run s) (prepare_eq_goOn setup)).trans hgoOn)

/-- An engine that grants whatever it is asked for. -/
def willing : Engine Float :=
  ⟨1, fun _ => .ok (), fun _ => .ok (), fun _ => .ok true, fun _ => .ok 1, fun _ => .ok (),
    fun _ => .ok (), fun _ => .ok true, fun _ => .ok (some ⟨fun _ => .ok ()⟩)⟩

/-- A start that generates the given secret key. -/
def secretly (secret : Bytes) : Setup where
  configPath := ⟨"", ["conf"]⟩
  registry := ⟨[], fun _ => .error (.fault .embeddedNull)⟩
  factory := some ⟨⟨1, secret.length⟩, fun _ => .ok ⟨[0x23], secret⟩, fun _ => .ok willing⟩
  clock := fun _ => 0

theorem willing_alike : willing.Alike willing where
  publicKeySize := rfl
  iterate _ _ _ := .ok rfl
  poll _ _ _ := .ok rfl
  bootstrap _ _ _ := .ok rfl
  connectionCount _ _ _ := .ok rfl
  initLanDiscovery _ _ _ := .ok rfl
  sendLanDiscovery _ _ _ := .ok rfl
  setMotd _ _ _ := .ok rfl
  createRelay _ _ _ := .ok (.some ⟨fun _ _ _ => .ok rfl⟩)

theorem secretly_alike {secret secret' : Bytes} (h : secret'.length = secret.length) :
    (secretly secret).Alike (secretly secret') where
  configPath := rfl
  registry := ⟨rfl, fun _ => .error _⟩
  factory := .some ⟨by rw [h], fun _ _ _ => .ok ⟨rfl, h⟩, fun _ _ _ => .ok willing_alike⟩
  clock _ _ _ := rfl
  keyFaults := rfl

/-- With a willing engine all succeeds between the identity and the seeds. -/
theorem reaches_relayed (secret : Bytes) (settings : ProcessSettings) {factory : Factory Float}
    (keypair : Keypair) (s : Session Float) (h : (secretly secret).factory = some factory) :
    ∃ node relay s', Reaches (secretly secret) (.identified settings .default factory keypair) s
      (.relayed node relay) s' ∧ s'.files = s.files
      ∧ ∃ motd, s'.calls = s.calls ++ [.create keypair 33445 true, .setMotd versionNumber motd,
        .createRelay [443, 3389, 33445] true] := by
  obtain rfl := Option.some.inj h
  have hahead : ∀ n, n < 8 → StartStage.all.drop n ≠ [] := by decide
  exact ⟨_, _, _, .step (hahead 3 (by decide)) rfl (.step (hahead 4 (by decide)) rfl
    (.step (hahead 5 (by decide)) rfl (.here _ _))), rfl, _,
    (List.append_assoc _ _ _).trans (List.append_assoc _ _ _)⟩

/-- A settings file without settings, and a link to it where the keypair is stored first. -/
def linked : Tree :=
  ⟨[], [(["conf"], .file 0o644 []), ([".dht-bootstrapd.keys.tmp"], .link "conf")]⟩

theorem linked_settings : ∃ settings, ProcessSettings.read [] linked = .ok settings := by
  have hnamed : linked.NamedAt ⟨"", [".env"]⟩ [".env"] := linked.namedAt_home (by decide)
  have hnone : linked.isFile ProcessSettings.filePath = false := by
    rw [Tree.isFile, show ProcessSettings.filePath = ⟨"", [".env"]⟩ by decide,
      hnamed.resolve (.inr fun _ hlink => by cases hlink)]
    rfl
  rw [ProcessSettings.read, ProcessSettings.fileBindings, hnone]
  exact ⟨_, rfl⟩

/-- The keypair ends up in the settings file. -/
theorem linked_saved (k : Keypair) :
    ∃ t, (KeyFile.save .none k ⟨"", ["dht-bootstrapd.keys"]⟩).run linked = (.ok (), t)
      ∧ t.read ⟨"", ["conf"]⟩ = .ok k.toBytes := by
  have htemp : linked.NamedAt ⟨"", [".dht-bootstrapd.keys.tmp"]⟩ [".dht-bootstrapd.keys.tmp"] :=
    linked.namedAt_home (by decide)
  have hfollowed : linked.resolve ⟨"", [".dht-bootstrapd.keys.tmp"]⟩ .creation
      = .ok (.found ["conf"] (.file 0o644 [])) := by
    have hstart : linked.start ⟨"", [".dht-bootstrapd.keys.tmp"]⟩ = [] := rfl
    have htarget : Tree.targetNames "conf" = ["conf"] := by decide
    have hlink : linked.walk .creation 40 [] [".dht-bootstrapd.keys.tmp"] = _ :=
      Tree.walk_link (by simp) (by decide) rfl
    rw [Tree.resolve, if_neg (by decide), hstart, Tree.maxLinks, hlink, htarget, ite_self,
      Tree.walk_ordinary (by decide) 39 [] (.inr fun _ hlink => by cases hlink)]
    rfl
  have hopen : linked.openForWriting ⟨"", [".dht-bootstrapd.keys.tmp"]⟩ KeyFile.mode
      = .ok (["conf"], linked) := by
    rw [Tree.openForWriting, Tree.resolveNamed, if_neg (by decide), hfollowed]
    rfl
  have hkeys : linked.NamedAt ⟨"", ["dht-bootstrapd.keys"]⟩ ["dht-bootstrapd.keys"] :=
    linked.namedAt_home (by decide)
  obtain ⟨t, hsave, hhome, hstored⟩ := saved_through_link (k := k) rfl htemp rfl hopen rfl hkeys rfl
  have hconf : t.NamedAt ⟨"", ["conf"]⟩ (t.home ++ ["conf"]) := t.namedAt_home (by decide)
  rw [hhome] at hconf
  exact ⟨t, hsave, Tree.read_of_file hconf (by decide) hstored⟩

/-- The start is configured by default, and its identity replaces the settings. -/
theorem reaches_identified (secret : Bytes)
    (hfits : (⟨[0x23], secret⟩ : Keypair).fits ⟨1, secret.length⟩ = true) : ∃ settings factory s',
    (secretly secret).factory = some factory
      ∧ Reaches (secretly secret) .begun (.start linked [] ⟨true, [], 0⟩)
        (.identified settings .default factory ⟨[0x23], secret⟩) s'
      ∧ s'.files.read (secretly secret).configPath = .ok (0x23 :: secret) := by
  let s : Session Float := .start linked [] ⟨true, [], 0⟩
  have hconf : linked.NamedAt ⟨"", ["conf"]⟩ ["conf"] := linked.namedAt_home (by decide)
  have hpid : linked.NamedAt ⟨"", ["dht-bootstrapd.pid"]⟩ ["dht-bootstrapd.pid"] :=
    linked.namedAt_home (by decide)
  have hkeys : linked.NamedAt ⟨"", ["dht-bootstrapd.keys"]⟩ ["dht-bootstrapd.keys"] :=
    linked.namedAt_home (by decide)
  have hread : linked.read ⟨"", ["conf"]⟩ = .ok [] := Tree.read_of_file hconf (by decide) rfl
  have hmissing := Tree.pathExists_of_free hkeys (by decide) rfl
  obtain ⟨settings, hsettings⟩ := linked_settings
  obtain ⟨s₁, hbegun⟩ : ∃ s₁, (advance (secretly secret) .begun).run s = _ :=
    begun_of_empty hsettings rfl hread (Tree.pathExists_of_free hpid (by decide) rfl)
  have hfiles : s₁.files = linked := files_of_advance rfl (by decide) hbegun
  obtain ⟨t, hsave, hspilt⟩ := linked_saved ⟨[0x23], secret⟩
  have hestablish : (Identity.establish .none ⟨"", ["dht-bootstrapd.keys"]⟩ ⟨1, secret.length⟩
      fun _ => .ok ⟨[0x23], secret⟩).run s₁ = _ :=
    Identity.establish_of_saved (hfiles ▸ hmissing) rfl hfits (hfiles ▸ hsave)
  obtain ⟨s₂, hequipped, hstored⟩ : ∃ s₂, (advance (secretly secret) (.equipped settings .default
      ⟨⟨1, secret.length⟩, fun _ => .ok ⟨[0x23], secret⟩, fun _ => .ok willing⟩)).run s₁
        = (.ok (.identified settings .default _ ⟨[0x23], secret⟩), s₂) ∧ s₂.files = t := by
    rw [advance.eq_3]
    exact ⟨_, run_bind_of_ok hestablish _, rfl⟩
  refine ⟨settings, _, s₂, rfl, .step (by decide) hbegun (.step (List.cons_ne_nil _ _) rfl
    (.step (List.cons_ne_nil _ _) hequipped (.here _ _))), ?_⟩
  rw [hstored]
  exact hspilt

/-- The start reads the keypair for settings, and fails with what makes it no text. -/
theorem prepare_linked {secret : Bytes} {malformed : Utf8.Malformed}
    (hfits : (⟨[0x23], secret⟩ : Keypair).fits ⟨1, secret.length⟩ = true)
    (h : Utf8.decode (0x23 :: secret) = .error malformed) :
    ∃ s', (prepare (secretly secret)).run (.start linked [] ⟨true, [], 0⟩)
      = (.error (.undecodable malformed), s') := by
  obtain ⟨settings, factory, s₂, hfactory, hearlier, hspilt⟩ := reaches_identified secret hfits
  obtain ⟨node, relay, s₃, hlater, hkept, -⟩ := reaches_relayed secret settings _ s₂ hfactory
  refine ⟨s₃, prepare_of_unreadable (hearlier.trans hlater) ?_⟩
  rw [Config.readTable_of_read (hkept ▸ hspilt), Config.parseFile, h]
  rfl

/-! ## The two runs -/

/-- Two runs that differ in the secret key only show the same, whether they establish the identity
or start the daemon; save for a start that, for want of a key file and over a link, stores the
keypair in the settings file that it is about to read again. -/
theorem secret_concealed (faults : KeyFile.Faults) :
    (∀ {τ : Type} (path : Path) (sizes : KeySizes) (generate generate' : Answer τ Keypair)
        (s s' : Session τ),
      Answers Keypair.Alike generate generate' →
      s.Alike (Tree.DifferInSecret path sizes) s' →
      Indistinct (fun k k' => k.Alike k' ∧ k'.shown = k.shown)
        ((Identity.establish faults path sizes generate).run s)
        ((Identity.establish faults path sizes generate').run s'))
    ∧ ∀ (setup setup' : Setup) (s s' : Session Float),
      setup.Alike setup' →
      s.Alike (SameSettings setup.configPath) s' →
      (∀ settings config factory s₁,
        Reaches setup .begun s (.equipped settings config factory) s₁ →
          s.files.DifferInSecret (Path.ofString config.keysFilePath) factory.sizes s'.files) →
      Indistinct Scheduler.Alike ((prepare setup).run s) ((prepare setup').run s')
        ∨ ∃ path k k' s₁ s₁', Spilt setup setup' s s' path k k' s₁ s₁' := by
  refine ⟨fun path sizes generate generate' s s' hgenerate hs => ?_,
    fun setup setup' s s' hsetup hs hfiles => ?_⟩
  · obtain ⟨hagree, hend⟩ := establish_matches hgenerate faults path sizes s s'
      (hs.mono fun _ _ ht => ht.alike)
    exact ⟨hagree.mono fun _ _ hkeys => ⟨hkeys, hkeys.shown⟩, hend.mono fun _ _ ht => ht.sameLength⟩
  · exact (goOn_conceals hsetup hs hfiles).imp_left prepare_indistinct

/-- Where no link stands, as here, no start spills its keypair. -/
theorem secret_concealed_without_links :
    let path : Path := ⟨"", ["keys"]⟩
    let s (secret : UInt8) : Session Unit :=
      .start ⟨[], [(["keys"], .file 0o600 [0x23, secret])]⟩ [] ⟨true, [], 0⟩
    let fresh : Session Float := .start ⟨[], [(["conf"], .file 0o644 [])]⟩ [] ⟨true, [], 0⟩
    Indistinct (fun k k' => k.Alike k' ∧ k'.shown = k.shown)
        ((Identity.establish .none path ⟨1, 1⟩ fun _ => .ok ⟨[0x23], [1]⟩).run (s 1))
        ((Identity.establish .none path ⟨1, 1⟩ fun _ => .ok ⟨[0x23], [2]⟩).run (s 2))
      ∧ Indistinct Scheduler.Alike ((prepare (secretly [1])).run fresh)
        ((prepare (secretly [2])).run fresh) := by
  intro path s fresh
  constructor
  · have hnamed : (s 1).files.NamedAt path ["keys"] := (s 1).files.namedAt_home (by decide)
    refine (secret_concealed .none).1 path ⟨1, 1⟩ _ _ (s 1) (s 2) (fun _ _ _ => .ok ⟨rfl, rfl⟩)
      ⟨⟨rfl, fun l => ?_⟩, rfl, rfl, rfl, rfl, rfl, rfl⟩
    by_cases hl : l = ["keys"]
    · subst hl
      refine .inr ⟨0o600, [0x23, 1], [0x23, 2], ?_, rfl, rfl, rfl⟩
      exact hnamed.resolveNamed (by decide) (.inr fun _ hlink => by cases hlink)
    · have hother : (l == ["keys"]) = false := beq_eq_false_iff_ne.mpr hl
      exact .inl (by simp [s, Session.start, Tree.find?, List.lookup_cons, hother])
  · rcases (secret_concealed .none).2 (secretly [1]) (secretly [2]) fresh fresh (secretly_alike rfl)
      ⟨⟨Tree.Alike.refl (C := SameLength) (fun _ => rfl) fresh.files, rfl, rfl⟩, rfl, rfl, rfl, rfl,
        rfl, rfl⟩
      (fun _ _ _ _ _ => Tree.DifferInSecret.refl _ _ _) with h | ⟨path, k, k', s₁, s₁', h⟩
    · exact h
    · refine absurd h.spills.linked (KeyFile.not_linked fun loc target => ?_)
      rw [Tree.find?]
      split
      · simp
      · simp only [fresh, Session.start, List.lookup_cons]
        split <;> simp

/-- Through a link the keypair is stored in the settings file, and the start quotes the secret key
in what it fails with. -/
theorem secret_shows_through_link :
    let s : Session Float := .start linked [] ⟨true, [], 0⟩
    (secretly [0xFE]).Alike (secretly [0xFF])
      ∧ ((prepare (secretly [0xFE])).run s).1 = .error (.undecodable ⟨1, 1, 0xFE, .startByte⟩)
      ∧ ((prepare (secretly [0xFF])).run s).1 = .error (.undecodable ⟨1, 1, 0xFF, .startByte⟩)
      ∧ ¬Indistinct Scheduler.Alike ((prepare (secretly [0xFE])).run s)
        ((prepare (secretly [0xFF])).run s) := by
  intro s
  have hlow : Utf8.decode [0x23, 0xFE] = .error ⟨1, 1, 0xFE, .startByte⟩ := by
    simp [Utf8.decode, Utf8.decodeFrom, Utf8.front, Except.map]
  have hhigh : Utf8.decode [0x23, 0xFF] = .error ⟨1, 1, 0xFF, .startByte⟩ := by
    simp [Utf8.decode, Utf8.decodeFrom, Utf8.front, Except.map]
  obtain ⟨s₁, hrun⟩ := prepare_linked (by decide) hlow
  obtain ⟨s₂, hrun'⟩ := prepare_linked (by decide) hhigh
  refine ⟨secretly_alike rfl, congrArg Prod.fst hrun, congrArg Prod.fst hrun', fun h => ?_⟩
  have hsame := h.1
  rw [hrun, hrun'] at hsame
  cases hsame

end SeedNode.Service

import SeedNode.Proofs.Daemon.Running
import SeedNode.Proofs.Environment.Intervals
import SeedNode.Proofs.Secrecy.Startup

/-!
# The cadence of the service loop

A start reads its settings first and computes the time between turns last, when the identity is in
its file, the engine is running and the seeds were contacted. The settings are passed on from stage
to stage as they were read (`Reaches.given`), so whether the last step succeeds is decided by the
number of milliseconds in them. Below the limit of binary numbers the scheduler gets a finite
positive time. From the limit on the settings are accepted all the same, and the start fails at its
end, with a fault that no stage reports (`cadence_usable_below_limit`).
-/

namespace SeedNode

namespace Service

variable {setup : Setup} {m m' : Milestone} {s s₁ s' : Session Float} {node : Node}
  {relay : Option (Relay Float)}

/-! ## Settings of a start -/

/-- The settings that a start has come to have a property, or whatever it will be given for them
has. -/
def Milestone.Given (P : ProcessSettings → Prop) (s : Session Float) : Milestone → Prop
  | begun => ∀ settings s', SessionM.settings.run s = (.ok settings, s') → P settings
  | configured settings _ | equipped settings _ _ | identified settings _ _ _ => P settings
  | connected node | announced node | relayed node _ | seeded node _ => P node.settings
  | ready _ => True

theorem begun_given_of_run {settings : ProcessSettings}
    (h : (SessionM.settings.run s).1 = .ok settings) : Milestone.begun.Given (· = settings) s := by
  intro settings' s' hrun
  exact Except.ok.inj ((congrArg Prod.fst hrun).symm.trans h)

/-- A process that keeps no settings yet reads them. -/
theorem settings_of_uncached {settings : ProcessSettings} (hcache : s.settings.current = none)
    (hread : ProcessSettings.read s.environment s.files = .ok settings) :
    (SessionM.settings.run s).1 = .ok settings := by
  rw [run_settings, SettingsCache.get, hcache, hread]
  rfl

theorem begun_given {P : ProcessSettings → Prop} (hs : Milestone.begun.Given P s)
    (h : (advance setup .begun).run s = (.ok m, s')) :
    ∃ settings config, m = .configured settings config ∧ P settings := by
  rw [advance.eq_1] at h
  simp only [run_bind_eq_ok] at h
  obtain ⟨settings, s₁, hsettings, resolved, s₂, -, -, s₃, -, -, s₄, -, -, s₅, -, hpure⟩ := h
  exact ⟨settings, resolved.config, (Except.ok.inj (Prod.mk.inj hpure).1).symm,
    hs settings s₁ hsettings⟩

/-- The stages after the first one pass the settings on. -/
theorem advance_given {P : ProcessSettings → Prop} (hm : m.ahead ≠ []) (hs : m.Given P s)
    (h : (advance setup m).run s = (.ok m', s')) : m'.Given P s' := by
  cases m with
  | ready scheduler => exact absurd rfl hm
  | begun =>
      obtain ⟨settings, config, rfl, hgiven⟩ := begun_given hs h
      exact hgiven
  | configured settings config =>
      obtain ⟨factory, rfl⟩ := configured_eq_ok h
      exact hs
  | equipped settings config factory =>
      obtain ⟨keypair, t, rfl, -⟩ := equipped_eq_ok h
      exact hs
  | identified settings config factory keypair =>
      obtain ⟨engine, ipv6, creates, rfl, -⟩ := identified_eq_ok h
      exact hs
  | connected node =>
      obtain ⟨rfl, -⟩ := connected_eq_ok h
      exact hs
  | announced node =>
      obtain ⟨relay, rfl, -⟩ := announced_eq_ok h
      exact hs
  | relayed node relay =>
      obtain rfl := relayed_eq_ok h
      exact hs
  | seeded node relay =>
      obtain ⟨scheduler, rfl, -⟩ := seeded_eq_ok h
      trivial

theorem Reaches.given {P : ProcessSettings → Prop} (h : Reaches setup m s m' s')
    (hs : m.Given P s) : m'.Given P s' := by
  induction h with
  | here m s => exact hs
  | step hm hrun _ ih => exact ih (advance_given hm hs hrun)

/-! ## The last step -/

/-- What is still to come after some stages is what comes of all of them. -/
theorem Reaches.run_goOn (h : Reaches setup m s m' s') :
    (goOn setup m.ahead.length m).run s = (goOn setup m'.ahead.length m').run s' := by
  induction h with
  | here m s => rfl
  | step hm hrun _ ih =>
      obtain ⟨stage, rest, hahead⟩ := List.exists_cons_of_ne_nil hm
      rw [advance_ahead hahead hrun] at ih
      rw [hahead, List.length_cons, run_goOn_of_ok hrun, ih]

/-- A start that has contacted the seeds returns a scheduler just if the time between turns can be
computed, and does nothing else. -/
theorem prepare_of_seeded (h : Reaches setup .begun s (.seeded node relay) s₁) :
    (prepare setup).run s = (node.settings.tickSeconds.map fun tick =>
      ⟨node.engine, node.config, relay, tick, node.settings.lanSeconds, setup.clock⟩, s₁) := by
  have hsound : relay.isSome = node.config.enableTcpRelay := h.sound trivial
  have hlast : (goOn setup 1 (.seeded node relay)).run s₁
      = (advance setup (.seeded node relay)).run s₁ := by
    simp only [goOn, bind_pure]
  have hgo := (congrArg (·.run s) (prepare_eq_goOn setup)).trans (h.run_goOn.trans hlast)
  rw [run_seeded hsound] at hgo
  cases htick : node.settings.tickSeconds with
  | error e =>
      rw [htick] at hgo
      exact run_of_map_eq_error hgo
  | ok tick =>
      rw [htick] at hgo
      obtain ⟨scheduler, hrun, hready⟩ := run_map_eq_ok.mp hgo
      rw [hrun, Milestone.ready.inj hready]
      rfl

/-! ## A start that comes to its last step -/

/-- A settings file without settings, and no key file. -/
def unkeyed : Tree :=
  ⟨[], [(["conf"], .file 0o644 [])]⟩

theorem unkeyed_without_environment : unkeyed.isFile ProcessSettings.filePath = false := by
  have hnamed : unkeyed.NamedAt ⟨"", [".env"]⟩ [".env"] := unkeyed.namedAt_home (by decide)
  rw [Tree.isFile, show ProcessSettings.filePath = ⟨"", [".env"]⟩ by decide,
    hnamed.resolve (.inr fun _ hlink => by cases hlink)]
  rfl

/-- The keypair is stored, and the settings file stays empty. -/
theorem unkeyed_saved (k : Keypair) :
    ∃ t, (KeyFile.save .none k ⟨"", ["dht-bootstrapd.keys"]⟩).run unkeyed = (.ok (), t)
      ∧ t.read ⟨"", ["dht-bootstrapd.keys"]⟩ = .ok k.toBytes ∧ t.read ⟨"", ["conf"]⟩ = .ok [] := by
  have hsibling : KeyFile.sibling ⟨"", ["dht-bootstrapd.keys"]⟩
      = .ok ⟨"", [".dht-bootstrapd.keys.tmp"]⟩ := rfl
  have htemp : unkeyed.NamedAt ⟨"", [".dht-bootstrapd.keys.tmp"]⟩ [".dht-bootstrapd.keys.tmp"] :=
    unkeyed.namedAt_home (by decide)
  have hkeys : unkeyed.NamedAt ⟨"", ["dht-bootstrapd.keys"]⟩ ["dht-bootstrapd.keys"] :=
    unkeyed.namedAt_home (by decide)
  have hlink : ∀ target, KeyFile.siblingAt? unkeyed ⟨"", ["dht-bootstrapd.keys"]⟩
      ≠ some (.link target) := by
    intro target
    rw [KeyFile.siblingAt?_of_ok hsibling, htemp.entryAt? (by decide)]
    exact fun h => by cases h
  obtain ⟨t, hsave⟩ := KeyFile.save_of_unhindered k hsibling (by decide) htemp
    (Tree.plain_of_free rfl) hkeys (by decide)
  obtain ⟨temp, sib, loc, hsibling', hreplaced⟩ := KeyFile.save_eq_ok hlink hsave
  obtain rfl := Except.ok.inj (hsibling'.symm.trans hsibling)
  obtain rfl := hreplaced.source.unique htemp
  obtain rfl := hreplaced.target.unique hkeys
  obtain ⟨mode, hstored⟩ := hreplaced.stored
  have hhome : t.home = [] := hreplaced.agrees.home
  have hconf : t.find? ["conf"] = some (.file 0o644 []) :=
    hreplaced.agrees.find? ["conf"] (by decide)
  have hnamed : ∀ name, Tree.Ordinary name → t.NamedAt ⟨"", [name]⟩ [name] := by
    intro name hname
    have hnamed := t.namedAt_home hname
    rwa [hhome] at hnamed
  exact ⟨t, hsave, Tree.read_of_file (hnamed _ (by decide)) (by decide) hstored,
    Tree.read_of_file (hnamed _ (by decide)) (by decide) hconf⟩

theorem run_contactFile_of_empty (engine : Engine Float) (ipv6 : Bool) {path : Path}
    (hread : s.files.read path = .ok []) :
    ∃ report s', (Seeds.contactFile path engine ipv6).run s = (.ok report, s')
      ∧ s'.files = s.files ∧ s'.calls = s.calls := by
  simp only [Seeds.contactFile, run_bind, run_onFiles_ask, Config.readTable_of_empty hread]
  exact ⟨_, _, rfl, rfl, rfl⟩

/-- With a keypair of one byte each, an empty settings file and a willing engine, all succeeds up to
the last step. -/
theorem reaches_seeded {environment : Variables} {settings : ProcessSettings}
    (h : ProcessSettings.read environment unkeyed = .ok settings) :
    ∃ node relay s', Reaches (secretly [7]) .begun (.start unkeyed environment ⟨true, [], 0⟩)
        (.seeded node relay) s'
      ∧ node.settings = settings
      ∧ .create ⟨[0x23], [7]⟩ 33445 true ∈ s'.calls
      ∧ s'.files.read ⟨"", ["dht-bootstrapd.keys"]⟩ = .ok [0x23, 7] := by
  let s : Session Float := .start unkeyed environment ⟨true, [], 0⟩
  have hconf : unkeyed.NamedAt ⟨"", ["conf"]⟩ ["conf"] := unkeyed.namedAt_home (by decide)
  have hpid : unkeyed.NamedAt ⟨"", ["dht-bootstrapd.pid"]⟩ ["dht-bootstrapd.pid"] :=
    unkeyed.namedAt_home (by decide)
  have hkeys : unkeyed.NamedAt ⟨"", ["dht-bootstrapd.keys"]⟩ ["dht-bootstrapd.keys"] :=
    unkeyed.namedAt_home (by decide)
  have hread : unkeyed.read ⟨"", ["conf"]⟩ = .ok [] := Tree.read_of_file hconf (by decide) rfl
  have hmissing := Tree.pathExists_of_free hkeys (by decide) rfl
  obtain ⟨s₁, hbegun⟩ : ∃ s₁, (advance (secretly [7]) .begun).run s = _ :=
    begun_of_empty h rfl hread (Tree.pathExists_of_free hpid (by decide) rfl)
  have hfiles : s₁.files = unkeyed := files_of_advance rfl (by decide) hbegun
  obtain ⟨t, hsave, hstored, hkept⟩ := unkeyed_saved ⟨[0x23], [7]⟩
  have hestablish : (Identity.establish .none ⟨"", ["dht-bootstrapd.keys"]⟩ ⟨1, 1⟩
      fun _ => .ok ⟨[0x23], [7]⟩).run s₁ = _ :=
    Identity.establish_of_saved (hfiles ▸ hmissing) rfl (by decide) (hfiles ▸ hsave)
  obtain ⟨s₂, hequipped, hfiles₂⟩ : ∃ s₂, (advance (secretly [7]) (.equipped settings .default
      ⟨⟨1, 1⟩, fun _ => .ok ⟨[0x23], [7]⟩, fun _ => .ok willing⟩)).run s₁
        = (.ok (.identified settings .default _ ⟨[0x23], [7]⟩), s₂) ∧ s₂.files = t := by
    rw [advance.eq_3]
    exact ⟨_, run_bind_of_ok hestablish _, rfl⟩
  obtain ⟨node, relay, s₃, hlater, hfiles₃, motd, hcalls⟩ :=
    reaches_relayed [7] settings ⟨[0x23], [7]⟩ s₂ rfl
  have hsettings : node.settings = settings := hlater.given (P := (· = settings)) rfl
  obtain ⟨report, s₄, hcontact, hfiles₄, hcalls₄⟩ :=
    run_contactFile_of_empty node.engine node.ipv6 (hfiles₃ ▸ hfiles₂ ▸ hkept)
  obtain ⟨s₅, hrelayed, hfiles₅, hcalls₅⟩ : ∃ s₅,
      (advance (secretly [7]) (.relayed node relay)).run s₃ = (.ok (.seeded node relay), s₅)
        ∧ s₅.files = s₄.files ∧ s₅.calls = s₄.calls := by
    rw [advance.eq_7]
    exact ⟨_, run_bind_of_ok hcontact _, rfl, rfl⟩
  have hearlier : Reaches (secretly [7]) .begun s (.identified settings .default _ _) s₂ :=
    .step (by decide) hbegun (.step (List.cons_ne_nil _ _) rfl
      (.step (List.cons_ne_nil _ _) hequipped (.here _ _)))
  refine ⟨node, relay, s₅, (hearlier.trans hlater).snoc (List.cons_ne_nil _ _) hrelayed, hsettings,
    ?_, ?_⟩
  · rw [hcalls₅, hcalls₄, hcalls]
    simp
  · rw [hfiles₅, hfiles₄, hfiles₃, hfiles₂]
    exact hstored

/-! ## The law -/

/-- The time between turns can be used just below the limit of binary numbers. Settings that are
accepted have at least one millisecond. Below the limit the time in seconds can be computed and is
finite and positive, and a start that has come to the point where it hands the times to the
scheduler returns it. From the limit on the settings are accepted all the same, the time cannot be
computed, and such a start fails there, with the identity stored and the network running and with a
fault that is logged by nobody. -/
theorem cadence_usable_below_limit {environment : Variables} {files : Tree} {settings : ProcessSettings}
    (hread : ProcessSettings.read environment files = .ok settings) :
    1 ≤ settings.tickMilliseconds
    ∧ (settings.tickMilliseconds < Rounding.limit → ∃ x, settings.tickSeconds = .ok x
      ∧ Rounding.Approximates x (settings.tickMilliseconds / 1000)
      ∧ ∀ setup s node relay s₁, (SessionM.settings.run s).1 = .ok settings →
        Reaches setup .begun s (.seeded node relay) s₁ →
        (prepare setup).run s
          = (.ok ⟨node.engine, node.config, relay, x, settings.lanSeconds, setup.clock⟩, s₁))
    ∧ (Rounding.limit ≤ settings.tickMilliseconds →
      settings.tickSeconds = .error (.fault .overflow)
      ∧ ∀ setup s node relay s₁, (SessionM.settings.run s).1 = .ok settings →
        Reaches setup .begun s (.seeded node relay) s₁ →
        (prepare setup).run s = (.error (.fault .overflow), s₁)
        ∧ ∀ departure backend,
          (launch setup departure backend).run s = (.error (.fault .overflow), s₁)) := by
  have haccepted : settings.Accepted := ⟨environment, files, hread⟩
  have hgiven : ∀ {setup s node relay s₁}, (SessionM.settings.run s).1 = .ok settings →
      Reaches setup .begun s (.seeded node relay) s₁ → node.settings = settings :=
    fun hs hreaches => hreaches.given (begun_given_of_run hs)
  refine ⟨haccepted.one_le, fun hlimit => ?below, fun hlimit => ?beyond⟩
  case below =>
    obtain ⟨x, htick, happroximates⟩ := haccepted.tickSeconds_of_lt hlimit
    refine ⟨x, htick, happroximates, fun setup s node relay s₁ hs hreaches => ?_⟩
    rw [prepare_of_seeded hreaches, hgiven hs hreaches, htick]
    rfl
  case beyond =>
    have htick := haccepted.tickSeconds_of_le hlimit
    refine ⟨htick, fun setup s node relay s₁ hs hreaches => ?_⟩
    have hprepare : (prepare setup).run s = (.error (.fault .overflow), s₁) := by
      rw [prepare_of_seeded hreaches, hgiven hs hreaches, htick]
      rfl
    refine ⟨hprepare, fun departure backend => ?_⟩
    obtain ⟨e, s₂, hfails, hlaunch⟩ | ⟨scheduler, s₂, hreturns, -⟩ :=
      launch_cases setup departure backend s
    · obtain ⟨he, rfl⟩ := Prod.mk.inj (hprepare.symm.trans hfails)
      obtain rfl := Except.error.inj he
      exact hlaunch
    · cases hprepare.symm.trans hreturns

/-- One and a half seconds between turns. -/
theorem cadence_usable_below_limit_usual :
    let environment : Variables := [("BOOTSTRAPD_TICK_INTERVAL_MS", "1500")]
    let s : Session Float := .start unkeyed environment ⟨true, [], 0⟩
    (∃ settings x, ProcessSettings.read environment unkeyed = .ok settings
      ∧ settings.tickMilliseconds = 1500 ∧ settings.tickSeconds = .ok x
      ∧ Rounding.Approximates x (1500 / 1000))
    ∧ ∃ scheduler s', (prepare (secretly [7])).run s = (.ok scheduler, s')
      ∧ Rounding.Approximates scheduler.tickInterval (1500 / 1000) := by
  intro environment s
  obtain ⟨settings, hread, hmilliseconds⟩ : ∃ settings,
      ProcessSettings.read environment unkeyed = .ok settings ∧ settings.tickMilliseconds = 1500 :=
    ⟨_, ProcessSettings.read_digits (n := 1500) unkeyed_without_environment (by decide) (by decide),
      rfl⟩
  have hsmall : settings.tickMilliseconds < Rounding.limit := by
    rw [hmilliseconds]
    decide +kernel
  obtain ⟨-, husable, -⟩ := cadence_usable_below_limit hread
  obtain ⟨x, htick, happroximates, hstarts⟩ := husable hsmall
  rw [hmilliseconds] at happroximates
  refine ⟨⟨settings, x, hread, hmilliseconds, htick, happroximates⟩, ?_⟩
  obtain ⟨node, relay, s₁, hreaches, -⟩ := reaches_seeded hread
  exact ⟨_, s₁, hstarts _ _ _ _ _ (settings_of_uncached rfl hread) hreaches, happroximates⟩

/-- A number of milliseconds that has 310 digits is accepted, and the start fails with it after the
keypair was stored and the engine created. -/
theorem long_interval_breaks_start :
    let environment : Variables := [("BOOTSTRAPD_TICK_INTERVAL_MS", toString (10 ^ 309 : Nat))]
    (∃ settings, ProcessSettings.read environment unkeyed = .ok settings
      ∧ settings.tickMilliseconds = (10 ^ 309 : Nat)
      ∧ settings.tickSeconds = .error (.fault .overflow))
    ∧ ∃ s', (prepare (secretly [7])).run (.start unkeyed environment ⟨true, [], 0⟩)
        = (.error (.fault .overflow), s')
      ∧ .create ⟨[0x23], [7]⟩ 33445 true ∈ s'.calls
      ∧ s'.files.read ⟨"", ["dht-bootstrapd.keys"]⟩ = .ok [0x23, 7] := by
  intro environment
  have hlength : (Nat.toDigits 10 (10 ^ 309)).length ≤ maxDigits := by decide +kernel
  have hread : ProcessSettings.read environment unkeyed = _ :=
    ProcessSettings.read_digits unkeyed_without_environment (by decide +kernel) hlength
  have hlimit : Rounding.limit ≤ 10 ^ 309 := by decide +kernel
  have htick := ProcessSettings.Accepted.tickSeconds_of_le ⟨_, _, hread⟩ (Int.ofNat_le.mpr hlimit)
  obtain ⟨node, relay, s₁, hreaches, hsettings, hcreated, hstored⟩ := reaches_seeded hread
  refine ⟨⟨_, hread, rfl, htick⟩, s₁, ?_, hcreated, hstored⟩
  rw [prepare_of_seeded hreaches, hsettings, htick]
  rfl

end Service

end SeedNode

import SeedNode.Proofs.Config.Resolving
import SeedNode.Proofs.Identity.Stability
import SeedNode.Proofs.Seeds.Contacting
import SeedNode.Proofs.Startup.Networking
import SeedNode.Service

/-!
# The stages of a start

`prepare` goes through eight stages. `advance` is one of them: it takes a milestone to the next,
and `prepare` is eight of these steps (`prepare_eq_goOn`). What a stage may do to a session,
whether it succeeds or not, is `Work`: it makes no calls but its own, and only the identity stage
touches files (`advance_works`). Any other relation that sees no more than that is kept as well
(`Permits`, `advance_keeps`). What a stage returns, and which calls it made when it did, has a lemma
for each.
-/

namespace SeedNode.Service

/-! ## Milestones -/

/-- What a start has come to when the engine is there. -/
structure Node where
  settings : ProcessSettings
  config : DaemonConfig
  keypair : Keypair
  engine : Engine Float
  ipv6 : Bool

/-- How far a start has come, with what the stages ahead need. -/
inductive Milestone where
  | begun
  | configured (settings : ProcessSettings) (config : DaemonConfig)
  | equipped (settings : ProcessSettings) (config : DaemonConfig) (factory : Factory Float)
  | identified (settings : ProcessSettings) (config : DaemonConfig) (factory : Factory Float)
      (keypair : Keypair)
  | connected (node : Node)
  | announced (node : Node)
  | relayed (node : Node) (relay : Option (Relay Float))
  | seeded (node : Node) (relay : Option (Relay Float))
  | ready (scheduler : Scheduler Float)

/-- Goes through the next stage. -/
def advance (setup : Setup) : Milestone → SessionM Float Milestone
  | .begun => do
    let settings ← SessionM.settings
    let resolved ← Config.load setup.configPath
    SessionM.ofExcept resolved.config.validate
    inform "General config read successfully"
    let _ ← Detach.warnIfStale resolved.config.pidFilePath
    return .configured settings resolved.config
  | .configured settings config => do
    let factory ← match setup.factory with
      | some factory => pure factory
      | none => SessionM.onLog (Plugin.loadFactory setup.registry settings.networkEngine)
    return .equipped settings config factory
  | .equipped settings config factory => do
    let keypair ← Identity.establish setup.keyFaults (Path.ofString config.keysFilePath)
      factory.sizes factory.generateKeypair
    inform "Keys are managed successfully."
    return .identified settings config factory keypair
  | .identified settings config factory keypair => do
    let (engine, ipv6) ← Startup.startNetworking factory keypair config.port config.enableIpv6
      config.enableIpv4Fallback
    return .connected ⟨settings, config, keypair, engine, ipv6⟩
  | .connected node => do
    announce node.engine node.config
    return .announced node
  | .announced node => do
    let relay ← if node.config.enableTcpRelay then
        some <$> Startup.startRelay node.engine node.config.tcpRelayPorts node.ipv6
      else pure none
    return .relayed node relay
  | .relayed node relay => do
    let _ ← Seeds.contactFile setup.configPath node.engine node.ipv6
    inform s!"Public Key: {node.keypair.publicHex}"
    return .seeded node relay
  | .seeded node relay => do
    let tickInterval ← SessionM.ofExcept node.settings.tickSeconds
    Milestone.ready <$> SessionM.ofExcept (Scheduler.make node.engine node.config relay tickInterval
      node.settings.lanSeconds setup.clock)
  | .ready scheduler => return .ready scheduler

/-- Goes through so many stages. -/
def goOn (setup : Setup) : Nat → Milestone → SessionM Float Milestone
  | 0, m => return m
  | n + 1, m => do goOn setup n (← advance setup m)

theorem run_goOn_of_ok {setup : Setup} {m m' : Milestone} {s s' : Session Float}
    (h : (advance setup m).run s = (.ok m', s')) (n : Nat) :
    (goOn setup (n + 1) m).run s = (goOn setup n m').run s' := by
  simp [goOn, h]

theorem run_goOn_of_error {setup : Setup} {m : Milestone} {s s' : Session Float} {e : Failure}
    (h : (advance setup m).run s = (.error e, s')) (n : Nat) :
    (goOn setup (n + 1) m).run s = (.error e, s') := by
  simp [goOn, h]

theorem prepare_eq_goOn (setup : Setup) :
    Milestone.ready <$> prepare setup = goOn setup 8 .begun := by
  simp only [prepare, goOn, advance.eq_1, map_bind, bind_assoc, pure_bind, bind_pure]
  refine bind_congr fun settings => bind_congr fun resolved => bind_congr fun _ =>
    bind_congr fun _ => bind_congr fun _ => ?_
  rw [advance.eq_2]
  cases setup.factory
  all_goals simp only [map_bind, bind_assoc, pure_bind]
  case' none => refine bind_congr fun factory => ?_
  all_goals
    simp only [advance.eq_3, advance.eq_4, bind_assoc, pure_bind]
    refine bind_congr fun keypair => bind_congr fun _ => bind_congr fun started => ?_
    simp only [advance.eq_5, bind_assoc, pure_bind, advance.eq_6]
    refine bind_congr fun _ => ?_
    cases resolved.config.enableTcpRelay
  all_goals
    simp only [Bool.false_eq_true, ↓reduceIte, map_bind, bind_assoc, pure_bind, advance.eq_7]
  all_goals rfl

/-! ## Stages -/

/-- The stages of a start. What reports are named for is another matter (`SeedNode.Stage`). -/
inductive StartStage where
  | configuration
  | plugin
  | identity
  | network
  | announcement
  | relay
  | seeds
  | scheduler
  deriving Repr, DecidableEq

namespace StartStage

/-- All stages, in the order of the start. -/
def all : List StartStage :=
  [configuration, plugin, identity, network, announcement, relay, seeds, scheduler]

/-- The calls that a stage may make. -/
def Makes : StartStage → Call Float → Prop
  | identity, c => c = .generateKeypair
  | network, c => ∃ keypair port ipv6, c = .create keypair port ipv6
  | announcement, c => ∃ version motd, c = .setMotd version motd
  | relay, c => ∃ ports ipv6, c = .createRelay ports ipv6
  | seeds, c => ∃ address ipv6 port key, c = .bootstrap address ipv6 port key
  | _, _ => False

end StartStage

/-- The stages that are still ahead at a milestone. -/
def Milestone.ahead : Milestone → List StartStage
  | begun => StartStage.all
  | configured _ _ => StartStage.all.drop 1
  | equipped _ _ _ => StartStage.all.drop 2
  | identified _ _ _ _ => StartStage.all.drop 3
  | connected _ => StartStage.all.drop 4
  | announced _ => StartStage.all.drop 5
  | relayed _ _ => StartStage.all.drop 6
  | seeded _ _ => StartStage.all.drop 7
  | ready _ => []

/-- What a stage may do to a session: make calls of its own, and touch the files if it is the one
that keeps the identity. -/
structure Work (stage : StartStage) (s s' : Session Float) : Prop where
  calls : ∃ made, s'.calls = s.calls ++ made ∧ ∀ c ∈ made, stage.Makes c
  files : stage ≠ .identity → s'.files = s.files

theorem work_quiet (stage : StartStage) : Quiet (Work stage) where
  refl s := ⟨⟨[], by simp, by simp⟩, fun _ => rfl⟩
  trans s t u h h' := by
    obtain ⟨made, hmade, hown⟩ := h.calls
    obtain ⟨made', hmade', hown'⟩ := h'.calls
    refine ⟨⟨made ++ made', by rw [hmade', hmade, List.append_assoc], ?_⟩, ?_⟩
    · intro c hc
      exact (List.mem_append.mp hc).elim (hown c) (hown' c)
    · exact fun hstage => (h'.files hstage).trans (h.files hstage)
  addRecord s r := ⟨⟨[], (List.append_nil _).symm, by simp⟩, fun _ => rfl⟩

/-- A relation between sessions that holds across everything that a stage may do. -/
structure Permits (stage : StartStage) (R : Session Float → Session Float → Prop) : Prop
    extends Quiet R where
  settings : ∀ s cache, R s { s with settings := cache }
  addCall : ∀ s c, stage.Makes c → R s (s.addCall c)
  files : stage = .identity → ∀ s t, R s { s with files := t }

theorem work_permits (stage : StartStage) : Permits stage (Work stage) where
  toQuiet := work_quiet stage
  settings s cache := ⟨⟨[], (List.append_nil _).symm, by simp⟩, fun _ => rfl⟩
  addCall s c h := ⟨⟨[c], rfl, by simpa using h⟩, fun _ => rfl⟩
  files h s t := ⟨⟨[], (List.append_nil _).symm, by simp⟩, fun hne => absurd h hne⟩

/-! ## What each stage does -/

section Permitted

variable {R : Session Float → Session Float → Prop}

theorem Permits.onFiles {α : Type} (h : Permits .identity R) (x : FileM α) :
    Keeps R (SessionM.onFiles x) := by
  intro s
  rw [run_onFiles]
  exact h.files rfl s _

theorem begun_keeps (h : Permits .configuration R) (setup : Setup) :
    Keeps R (advance setup .begun) := by
  have hsettings : Keeps R SessionM.settings := by
    intro s
    rw [run_settings]
    exact h.settings s _
  rw [advance.eq_1]
  refine .bind h.trans hsettings fun settings => ?_
  refine .bind h.trans (.bind h.trans (h.askFiles _) fun data => h.onLog _) fun resolved => ?_
  refine .bind h.trans (h.ofExcept _) fun _ => ?_
  refine .bind h.trans (h.note _ _ _) fun _ => ?_
  refine .bind h.trans ?_ fun _ => .pure h.refl _
  refine .bind h.trans (h.askFiles _) fun there => ?_
  split
  · exact .bind h.trans (h.note _ _ _) fun _ => .pure h.refl _
  · exact .pure h.refl _

theorem configured_keeps (h : Permits .plugin R) (setup : Setup) (settings : ProcessSettings)
    (config : DaemonConfig) : Keeps R (advance setup (.configured settings config)) := by
  rw [advance.eq_2]
  split
  · exact .bind h.trans (.pure h.refl _) fun _ => .pure h.refl _
  · exact .bind h.trans (h.onLog _) fun _ => .pure h.refl _

theorem equipped_keeps (h : Permits .identity R) (setup : Setup) (settings : ProcessSettings)
    (config : DaemonConfig) (factory : Factory Float) :
    Keeps R (advance setup (.equipped settings config factory)) := by
  rw [advance.eq_3]
  refine .bind h.trans ?_ fun keypair =>
    .bind h.trans (h.note _ _ _) fun _ => .pure h.refl _
  refine .bind h.trans (h.askFiles _) fun there => ?_
  split
  · refine .bind h.trans (h.onFiles _) fun keypair => ?_
    exact .bind h.trans (h.note _ _ _) fun _ => .pure h.refl _
  · have hcall : ∀ s, R s (s.addCall .generateKeypair) := fun s => h.addCall s _ rfl
    refine .bind h.trans (Quiet.ask hcall _) fun keypair => ?_
    have hstore : Keeps R (do
        SessionM.onFiles
          (KeyFile.save setup.keyFaults keypair (Path.ofString config.keysFilePath))
        SessionM.note Level.info Identity.source
          s!"Generated new keys and saved them to {Path.ofString config.keysFilePath}"
        return keypair) :=
      .bind h.trans (h.onFiles _) fun _ =>
        .bind h.trans (h.note _ _ _) fun _ => .pure h.refl _
    split
    · exact .bind h.trans (.throw h.refl _) fun _ => hstore
    · exact hstore

theorem identified_keeps (h : Permits .network R) (setup : Setup) (settings : ProcessSettings)
    (config : DaemonConfig) (factory : Factory Float) (keypair : Keypair) :
    Keeps R (advance setup (.identified settings config factory keypair)) := by
  refine .bind h.trans (Startup.startNetworking_keeps h.toQuiet ?_ _ _ _) fun started =>
    .pure h.refl _
  exact fun ipv6 s => h.addCall s _ ⟨_, _, _, rfl⟩

theorem connected_keeps (h : Permits .announcement R) (setup : Setup) (node : Node) :
    Keeps R (advance setup (.connected node)) := by
  have hcall : ∀ motd s, R s (Startup.handedOver versionNumber motd s) :=
    fun motd s => h.addCall s _ ⟨_, _, rfl⟩
  rw [advance.eq_5, announce]
  refine .bind h.trans ?_ fun _ => .pure h.refl _
  split
  case isFalse => exact .pure h.refl _
  case isTrue =>
    split
    case h_2 => exact .throw h.refl _
    case h_1 =>
      intro s
      rw [Startup.run_installMotd]
      split
      · exact hcall _ s
      · exact hcall _ s
      · exact h.trans _ _ _ (hcall _ s) (h.addRecord _ _)

theorem announced_keeps (h : Permits .relay R) (setup : Setup) (node : Node) :
    Keeps R (advance setup (.announced node)) := by
  rw [advance.eq_6]
  split
  · refine .bind h.trans (.map (Startup.startRelay_keeps h.toQuiet ?_ _)) fun _ => .pure h.refl _
    exact fun s => h.addCall s _ ⟨_, _, rfl⟩
  · exact .bind h.trans (.pure h.refl _) fun _ => .pure h.refl _

theorem relayed_keeps (h : Permits .seeds R) (setup : Setup) (node : Node)
    (relay : Option (Relay Float)) : Keeps R (advance setup (.relayed node relay)) := by
  rw [advance.eq_7]
  refine .bind h.trans (Seeds.contactFile_keeps h.toQuiet ?_ _ _) fun _ =>
    .bind h.trans (h.note _ _ _) fun _ => .pure h.refl _
  exact fun address port key s => h.addCall s _ ⟨_, _, _, _, rfl⟩

theorem seeded_keeps (h : Permits .scheduler R) (setup : Setup) (node : Node)
    (relay : Option (Relay Float)) : Keeps R (advance setup (.seeded node relay)) := by
  rw [advance.eq_8]
  exact .bind h.trans (h.ofExcept _) fun _ => .map (h.ofExcept _)

/-- A stage does nothing but what it may do, whether it succeeds or not. -/
theorem advance_keeps (setup : Setup) {m : Milestone} {stage : StartStage} {rest : List StartStage}
    (hm : m.ahead = stage :: rest) (h : Permits stage R) : Keeps R (advance setup m) := by
  cases m with
  | ready scheduler => cases hm
  | begun =>
      obtain rfl := (List.cons.inj hm).1
      exact begun_keeps h setup
  | configured settings config =>
      obtain rfl := (List.cons.inj hm).1
      exact configured_keeps h setup settings config
  | equipped settings config factory =>
      obtain rfl := (List.cons.inj hm).1
      exact equipped_keeps h setup settings config factory
  | identified settings config factory keypair =>
      obtain rfl := (List.cons.inj hm).1
      exact identified_keeps h setup settings config factory keypair
  | connected node =>
      obtain rfl := (List.cons.inj hm).1
      exact connected_keeps h setup node
  | announced node =>
      obtain rfl := (List.cons.inj hm).1
      exact announced_keeps h setup node
  | relayed node relay =>
      obtain rfl := (List.cons.inj hm).1
      exact relayed_keeps h setup node relay
  | seeded node relay =>
      obtain rfl := (List.cons.inj hm).1
      exact seeded_keeps h setup node relay

theorem goOn_keeps (h : ∀ stage, Permits stage R) (setup : Setup) :
    ∀ (n : Nat) (m : Milestone), Keeps R (goOn setup n m)
  | 0, m => .pure (h .configuration).refl m
  | n + 1, m => by
      refine .bind (h .configuration).trans ?_ fun m' => goOn_keeps h setup n m'
      cases hahead : m.ahead with
      | cons stage rest => exact advance_keeps setup hahead (h stage)
      | nil =>
          cases m with
          | ready scheduler => exact .pure (h .configuration).refl _
          | _ => cases hahead

/-- A start does nothing but what its stages may do, whether it succeeds or not. -/
theorem prepare_keeps (h : ∀ stage, Permits stage R) (setup : Setup) : Keeps R (prepare setup) := by
  intro s
  have hkeeps := goOn_keeps h setup 8 .begun s
  rw [← prepare_eq_goOn, run_map] at hkeeps
  rcases hrun : (prepare setup).run s with ⟨e | scheduler, s'⟩ <;> rw [hrun] at hkeeps <;>
    exact hkeeps

end Permitted

/-- Every stage does its own work and no other, whether it succeeds or not. -/
theorem advance_works (setup : Setup) {m : Milestone} {stage : StartStage} {rest : List StartStage}
    (h : m.ahead = stage :: rest) : Keeps (Work stage) (advance setup m) :=
  advance_keeps setup h (work_permits stage)

/-! ## What each stage returns -/

section Returned

variable {setup : Setup} {m : Milestone} {s s' : Session Float} {settings : ProcessSettings}
  {config : DaemonConfig} {factory : Factory Float} {keypair : Keypair} {node : Node}
  {relay : Option (Relay Float)}

theorem begun_eq_ok (h : (advance setup .begun).run s = (.ok m, s')) :
    ∃ settings config, m = .configured settings config ∧ Config.Announces config := by
  rw [advance.eq_1] at h
  simp only [run_bind_eq_ok] at h
  obtain ⟨settings, s₁, -, resolved, s₂, hload, -, s₃, -, -, s₄, -, -, s₅, -, hpure⟩ := h
  exact ⟨settings, resolved.config, (Except.ok.inj (Prod.mk.inj hpure).1).symm,
    Config.load_announces _ _ _ _ hload⟩

theorem configured_eq_ok (h : (advance setup (.configured settings config)).run s = (.ok m, s')) :
    ∃ factory, m = .equipped settings config factory := by
  rw [advance.eq_2] at h
  split at h
  · exact ⟨_, (Except.ok.inj (Prod.mk.inj h).1).symm⟩
  · obtain ⟨factory, s₁, -, hpure⟩ := run_bind_eq_ok.mp h
    exact ⟨factory, (Except.ok.inj (Prod.mk.inj hpure).1).symm⟩

theorem equipped_eq_ok
    (h : (advance setup (.equipped settings config factory)).run s = (.ok m, s')) :
    ∃ keypair t, m = .identified settings config factory keypair
      ∧ (Identity.establish setup.keyFaults (Path.ofString config.keysFilePath) factory.sizes
        factory.generateKeypair).run s = (.ok keypair, t)
      ∧ s'.files = t.files ∧ s'.calls = t.calls := by
  rw [advance.eq_3] at h
  obtain ⟨keypair, t, hestablish, hrest⟩ := run_bind_eq_ok.mp h
  obtain ⟨hm, rfl⟩ := Prod.mk.inj hrest
  exact ⟨keypair, t, (Except.ok.inj hm).symm, hestablish, rfl, rfl⟩

theorem identified_eq_ok
    (h : (advance setup (.identified settings config factory keypair)).run s = (.ok m, s')) :
    ∃ engine ipv6 creates, m = .connected ⟨settings, config, keypair, engine, ipv6⟩
      ∧ s'.calls = s.calls ++ creates ∧ creates ≠ []
      ∧ ∀ c ∈ creates, ∃ ipv6, c = .create keypair config.port ipv6 := by
  rw [advance.eq_4] at h
  obtain ⟨⟨engine, ipv6⟩, t, hstart, hpure⟩ := run_bind_eq_ok.mp h
  obtain ⟨hm, rfl⟩ := Prod.mk.inj hpure
  refine ⟨engine, ipv6, ?_⟩
  rw [Startup.run_startNetworking] at hstart
  split at hstart
  · obtain ⟨-, rfl⟩ := Prod.mk.inj hstart
    exact ⟨[.create keypair config.port config.enableIpv6], (Except.ok.inj hm).symm, rfl, by simp,
      by simp⟩
  split at hstart
  · cases hstart
  split at hstart
  · cases hstart
  split at hstart
  · obtain ⟨-, rfl⟩ := Prod.mk.inj hstart
    exact ⟨[.create keypair config.port config.enableIpv6, .create keypair config.port false],
      (Except.ok.inj hm).symm, List.append_assoc _ _ _, by simp, by simp⟩
  · cases hstart

theorem connected_eq_ok (h : (advance setup (.connected node)).run s = (.ok m, s')) :
    m = .announced node
      ∧ s'.calls = s.calls ++ (node.config.motdBytes.map (.setMotd versionNumber)).toList := by
  rw [advance.eq_5, announce] at h
  obtain ⟨_, t, hannounce, hpure⟩ := run_bind_eq_ok.mp h
  obtain ⟨hm, rfl⟩ := Prod.mk.inj hpure
  refine ⟨(Except.ok.inj hm).symm, ?_⟩
  split at hannounce
  case isFalse hdisabled =>
    obtain ⟨-, rfl⟩ := Prod.mk.inj hannounce
    rw [DaemonConfig.motdBytes, if_neg hdisabled]
    simp
  case isTrue =>
    split at hannounce
    case h_2 => cases hannounce
    case h_1 motd hmotd =>
      rw [Startup.run_installMotd] at hannounce
      split at hannounce
      · cases hannounce
      · cases hannounce
      · obtain ⟨-, rfl⟩ := Prod.mk.inj hannounce
        rw [hmotd]
        rfl

theorem announced_eq_ok (h : (advance setup (.announced node)).run s = (.ok m, s')) :
    ∃ relay, m = .relayed node relay ∧ relay.isSome = node.config.enableTcpRelay
      ∧ s'.calls = s.calls ++ if node.config.enableTcpRelay
        then [.createRelay node.config.tcpRelayPorts node.ipv6] else [] := by
  rw [advance.eq_6] at h
  split at h
  · rename_i hrelay
    obtain ⟨relay, t, hstart, hpure⟩ := run_bind_eq_ok.mp h
    obtain ⟨hm, rfl⟩ := Prod.mk.inj hpure
    rw [run_map, Startup.run_startRelay] at hstart
    refine ⟨relay, (Except.ok.inj hm).symm, ?_⟩
    rw [if_pos hrelay, hrelay]
    split at hstart
    · rename_i heq
      split at heq
      · cases heq
      · cases heq
      · obtain ⟨-, rfl⟩ := Prod.mk.inj heq
        obtain ⟨hsome, rfl⟩ := Prod.mk.inj hstart
        exact ⟨by rw [← Except.ok.inj hsome]; rfl, rfl⟩
    · cases hstart
  · rename_i hrelay
    obtain ⟨hm, rfl⟩ := Prod.mk.inj h
    exact ⟨none, (Except.ok.inj hm).symm, by simp [hrelay], by simp [hrelay]⟩

theorem relayed_eq_ok (h : (advance setup (.relayed node relay)).run s = (.ok m, s')) :
    m = .seeded node relay := by
  rw [advance.eq_7] at h
  obtain ⟨_, t, -, hrest⟩ := run_bind_eq_ok.mp h
  exact (Except.ok.inj (Prod.mk.inj hrest).1).symm

theorem run_seeded (hrelay : relay.isSome = node.config.enableTcpRelay) :
    (advance setup (.seeded node relay)).run s = match node.settings.tickSeconds with
      | .ok tick => (.ok (.ready ⟨node.engine, node.config, relay, tick,
          node.settings.lanSeconds, setup.clock⟩), s)
      | .error e => (.error e, s) := by
  rw [advance.eq_8, run_bind, run_ofExcept]
  cases node.settings.tickSeconds with
  | error e => rfl
  | ok tick =>
      have hmake : Scheduler.make node.engine node.config relay tick node.settings.lanSeconds
          setup.clock = .ok ⟨node.engine, node.config, relay, tick, node.settings.lanSeconds,
            setup.clock⟩ := by
        rw [Scheduler.make, if_neg]
        cases relay <;> simp_all
      simp only [hmake, run_map, run_ofExcept]

theorem seeded_eq_ok (h : (advance setup (.seeded node relay)).run s = (.ok m, s')) :
    ∃ scheduler, m = .ready scheduler ∧ scheduler.config = node.config
      ∧ scheduler.relay = relay := by
  rw [advance.eq_8] at h
  obtain ⟨tick, t, -, hmake⟩ := run_bind_eq_ok.mp h
  rw [run_map, run_ofExcept, Scheduler.make] at hmake
  split at hmake
  · rename_i heq
    split at heq
    · cases heq
    · rw [← Except.ok.inj (Prod.mk.inj hmake).1, ← Except.ok.inj (Prod.mk.inj heq).1]
      exact ⟨_, rfl, rfl, rfl⟩
  · cases hmake

/-- A stage that returns leaves the rest of the stages ahead. -/
theorem advance_ahead {stage : StartStage} {rest : List StartStage} {m' : Milestone}
    (hm : m.ahead = stage :: rest) (h : (advance setup m).run s = (.ok m', s')) :
    m'.ahead = rest := by
  have htail : m.ahead.tail = rest := by rw [hm, List.tail_cons]
  rw [← htail]
  cases m with
  | ready scheduler => cases hm
  | begun =>
      obtain ⟨settings, config, rfl, -⟩ := begun_eq_ok h
      rfl
  | configured settings config =>
      obtain ⟨factory, rfl⟩ := configured_eq_ok h
      rfl
  | equipped settings config factory =>
      obtain ⟨keypair, t, rfl, -⟩ := equipped_eq_ok h
      rfl
  | identified settings config factory keypair =>
      obtain ⟨engine, ipv6, creates, rfl, -⟩ := identified_eq_ok h
      rfl
  | connected node =>
      obtain ⟨rfl, -⟩ := connected_eq_ok h
      rfl
  | announced node =>
      obtain ⟨relay, rfl, -⟩ := announced_eq_ok h
      rfl
  | relayed node relay =>
      obtain rfl := relayed_eq_ok h
      rfl
  | seeded node relay =>
      obtain ⟨scheduler, rfl, -⟩ := seeded_eq_ok h
      rfl

end Returned

end SeedNode.Service

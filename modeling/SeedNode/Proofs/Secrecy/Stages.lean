import SeedNode.Proofs.Secrecy.Establishing
import SeedNode.Proofs.Startup.Stages

/-!
# The stages of two starts

Two starts whose setups differ only in what they come to know of a secret key go through each stage
alike. The stage that keeps the identity is the only one that touches the key, and the stages on
either side of it read nothing from the files but the settings: where these are the same, the stages
make the same records and calls, and fail in the same way or come to alike milestones.
-/

namespace SeedNode

variable {τ : Type} {Q : Tree → Tree → Prop} {engine engine' : Engine τ}
  {keypair keypair' : Keypair}

/-! ## Starting the network -/

namespace Startup

variable {factory factory' : Factory τ}

theorem tried_alike (hkeys : keypair.Alike keypair') (port : Int) (ipv6 : Bool)
    {s s' : Session τ} (hs : s.Alike Q s') :
    (tried keypair port ipv6 s).Alike Q (tried keypair' port ipv6 s') :=
  hs.addCall (by rw [Call.masked, Call.masked, hkeys.masked])

theorem startNetworking_matches (hfactory : factory.Alike factory') (hkeys : keypair.Alike keypair')
    (port : Int) (ipv6 fallback : Bool) :
    Matches (Session.Alike Q) (fun started started' =>
        started.1.Alike started'.1 ∧ started'.2 = started.2)
      (startNetworking factory keypair port ipv6 fallback)
      (startNetworking factory' keypair' port ipv6 fallback) := by
  intro s s' hs
  have hfirst := tried_alike hkeys port ipv6 hs
  have hcreated := hfactory.create _ _ hfirst.calls
  rw [run_startNetworking, run_startNetworking]
  generalize factory.create (tried keypair port ipv6 s).calls = r at hcreated ⊢
  generalize factory'.create (tried keypair' port ipv6 s').calls = r' at hcreated ⊢
  cases hcreated with
  | ok he => exact ⟨.ok ⟨he, rfl⟩, hfirst⟩
  | error first =>
      by_cases hnetwork : isNetworkFailure first = false
      · simp only [if_pos hnetwork]
        exact ⟨.error _, hfirst⟩
      by_cases hfallback : (ipv6 && fallback) = false
      · simp only [if_neg hnetwork, if_pos hfallback]
        exact ⟨.error _, hfirst⟩
      have hsecond : (triedAgain keypair port ipv6 first s).Alike Q
          (triedAgain keypair' port ipv6 first s') :=
        tried_alike hkeys port false (hfirst.addRecord _)
      have hcreated := hfactory.create _ _ hsecond.calls
      simp only [if_neg hnetwork, if_neg hfallback]
      generalize factory.create (triedAgain keypair port ipv6 first s).calls = q at hcreated ⊢
      generalize factory'.create (triedAgain keypair' port ipv6 first s').calls = q' at hcreated ⊢
      cases hcreated with
      | ok he => exact ⟨.ok ⟨he, rfl⟩, hsecond⟩
      | error second => exact ⟨.error _, hsecond⟩

theorem installMotd_matches (h : engine.Alike engine') (version : Int) (motd : Bytes) :
    Matches (Session.Alike Q) Eq (installMotd engine version motd)
      (installMotd engine' version motd) := by
  refine (Matches.ask rfl h.setMotd).bind ?_
  rintro accepted _ rfl
  split
  · exact .note _ _ _
  · exact .throw _

theorem startRelay_matches (h : engine.Alike engine') (ports : List Int) (ipv6 : Bool) :
    Matches (Session.Alike Q) Relay.Alike (startRelay engine ports ipv6)
      (startRelay engine' ports ipv6) := by
  refine Matches.bind (S := Option.Rel Relay.Alike) ?_ fun relay relay' hrelay => ?_
  · refine .tryCatch (.ask rfl h.createRelay) fun e => ?_
    split
    · exact .throw _
    · exact .throw _
  · cases hrelay with
    | none => exact .throw _
    | some hrelay => exact (Matches.note _ _ _).bind fun _ _ _ => .pure hrelay

end Startup

/-! ## Reading the settings file -/

theorem readTable_agree {path : Path} {t t' : Tree} (h : t'.read path = t.read path) :
    Agree Eq (Config.readTable path t) (Config.readTable path t') := by
  refine .of_eq ?_
  rw [Config.readTable, Config.readTable, h]

theorem load_settings_matches {path : Path} (hread : ∀ t t', Q t t' → t'.read path = t.read path) :
    Matches (@Session.Alike τ Q) Eq (Config.load path) (Config.load path) := by
  refine (Matches.onFiles (.fileAsk fun t t' ht => readTable_agree (hread t t' ht))).bind ?_
  rintro data _ rfl
  exact .onLog (.same _)

/-! ## Contacting the seeds -/

namespace Seeds

theorem contact_matches (h : engine.Alike engine') (ipv6 : Bool) (index : Nat) (node : Value) :
    Matches (Session.Alike Q) Eq (contact engine ipv6 index node)
      (contact engine' ipv6 index node) := by
  rw [contact, contact, h.publicKeySize]
  refine (Matches.ofExcept (.of_eq rfl)).bind ?_
  rintro verdict _ rfl
  cases verdict with
  | skipped reason => exact .pure rfl
  | accepted e =>
      refine (Matches.ask rfl h.bootstrap).bind ?_
      rintro known _ rfl
      split
      · exact (Matches.note _ _ _).bind fun _ _ _ => .pure rfl
      · exact .pure rfl

theorem contactFrom_matches (h : engine.Alike engine') (ipv6 : Bool) (fuel : Nat) (walk : Walk) :
    MatchesIn (Session.Alike Q) Eq (contactFrom engine ipv6 fuel walk)
      (contactFrom engine' ipv6 fuel walk) := by
  have hadvance : ∀ walk, MatchesIn (Session.Alike Q) Eq (advance walk : SeedM τ _)
      (advance walk) := by
    intro walk
    refine .bind (S := Eq) (fun _ _ _ hs => ⟨.of_eq rfl, rfl, hs⟩) ?_
    rintro data _ rfl
    refine (MatchesIn.within (.onLog (.same _))).bind ?_
    rintro stepped _ rfl
    exact .bind (S := Eq) (fun _ _ _ hs => ⟨.of_eq rfl, rfl, hs⟩) fun _ _ _ => .pure rfl
  induction fuel generalizing walk with
  | zero => exact .pure rfl
  | succ fuel ih =>
      refine (hadvance walk).bind ?_
      rintro ⟨_ | ⟨index, node⟩, walk'⟩ _ rfl
      · exact .pure rfl
      have hrest : ∀ result, MatchesIn (Session.Alike Q) Eq
          (do return result :: (← contactFrom engine ipv6 fuel walk'))
          (do return result :: (← contactFrom engine' ipv6 fuel walk')) :=
        fun result => (ih walk').bind fun _ _ hresults => .pure (by rw [hresults])
      refine (MatchesIn.within (contact_matches h ipv6 index node)).bind ?_
      rintro result _ rfl
      split
      · exact (MatchesIn.within (.note _ _ _)).bind fun _ _ _ => hrest result
      · exact hrest result

theorem contactFile_matches (h : engine.Alike engine') (ipv6 : Bool) {path : Path}
    (hread : ∀ t t', Q t t' → t'.read path = t.read path) :
    Matches (Session.Alike Q) Eq (contactFile path engine ipv6)
      (contactFile path engine' ipv6) := by
  refine (Matches.onFiles (.fileAsk fun t t' ht => readTable_agree (hread t t' ht))).bind ?_
  rintro data _ rfl
  have hall : MatchesIn (Session.Alike Q) Eq (contactAll engine ipv6)
      (contactAll engine' ipv6) := by
    refine .bind (S := Eq) (fun _ _ _ hs => ⟨.of_eq rfl, rfl, hs⟩) ?_
    rintro data _ rfl
    exact (contactFrom_matches h ipv6 _ _).bind fun _ _ hresults => .pure (by rw [hresults])
  refine Matches.bind (S := Eq) (fun s s' hs => ?_) ?_
  · obtain ⟨hagree, -, hsession⟩ := hall data s s' hs
    exact ⟨hagree, hsession⟩
  · rintro report _ rfl
    exact (Matches.note _ _ _).bind fun _ _ _ => .pure rfl

end Seeds

/-! ## Setups and milestones -/

/-- Schedulers that drive alike engines in the same way. -/
structure Scheduler.Alike (scheduler scheduler' : Scheduler τ) : Prop where
  engine : scheduler.engine.Alike scheduler'.engine
  config : scheduler'.config = scheduler.config
  relay : Option.Rel Relay.Alike scheduler.relay scheduler'.relay
  tickInterval : scheduler'.tickInterval = scheduler.tickInterval
  lanInterval : scheduler'.lanInterval = scheduler.lanInterval
  clock : scheduler.clock.Alike scheduler'.clock

theorem Scheduler.make_agree (hengine : engine.Alike engine') {relay relay' : Option (Relay τ)}
    (hrelay : Option.Rel Relay.Alike relay relay') {clock clock' : Clock τ}
    (hclock : clock.Alike clock') (config : DaemonConfig) (tickInterval lanInterval : τ) :
    Agree Scheduler.Alike (Scheduler.make engine config relay tickInterval lanInterval clock)
      (Scheduler.make engine' config relay' tickInterval lanInterval clock') := by
  have hsome : relay'.isNone = relay.isNone := by cases hrelay <;> rfl
  rw [Scheduler.make, Scheduler.make, hsome]
  split
  · exact .error _
  · exact .ok ⟨hengine, rfl, hrelay, rfl, rfl, hclock⟩

namespace Service

/-- The same settings file, and an outside that does not know the secret key. -/
structure Setup.Alike (setup setup' : Setup) : Prop where
  configPath : setup'.configPath = setup.configPath
  registry : setup.registry.Alike setup'.registry
  factory : Option.Rel Factory.Alike setup.factory setup'.factory
  clock : setup.clock.Alike setup'.clock
  keyFaults : setup'.keyFaults = setup.keyFaults

structure Node.Alike (node node' : Node) : Prop where
  settings : node'.settings = node.settings
  config : node'.config = node.config
  keypair : node.keypair.Alike node'.keypair
  engine : node.engine.Alike node'.engine
  ipv6 : node'.ipv6 = node.ipv6

/-- Milestones at which the engine is about to be known, with alike factories. -/
inductive Milestone.Equipped : Milestone → Milestone → Prop
  | alike (settings : ProcessSettings) (config : DaemonConfig) {factory factory' : Factory Float}
      (hfactory : factory.Alike factory') :
      Equipped (.equipped settings config factory) (.equipped settings config factory')

/-- Milestones with the identity behind them, at which all is the same but what may depend on the
secret key. -/
inductive Milestone.Alike : Milestone → Milestone → Prop
  | identified (settings : ProcessSettings) (config : DaemonConfig)
      {factory factory' : Factory Float} {keypair keypair' : Keypair}
      (hfactory : factory.Alike factory') (hkeys : keypair.Alike keypair') :
      Alike (.identified settings config factory keypair)
        (.identified settings config factory' keypair')
  | connected {node node' : Node} (hnode : node.Alike node') :
      Alike (.connected node) (.connected node')
  | announced {node node' : Node} (hnode : node.Alike node') :
      Alike (.announced node) (.announced node')
  | relayed {node node' : Node} {relay relay' : Option (Relay Float)} (hnode : node.Alike node')
      (hrelay : Option.Rel Relay.Alike relay relay') :
      Alike (.relayed node relay) (.relayed node' relay')
  | seeded {node node' : Node} {relay relay' : Option (Relay Float)} (hnode : node.Alike node')
      (hrelay : Option.Rel Relay.Alike relay relay') :
      Alike (.seeded node relay) (.seeded node' relay')
  | ready {scheduler scheduler' : Scheduler Float} (h : scheduler.Alike scheduler') :
      Alike (.ready scheduler) (.ready scheduler')

/-! ## The stages -/

/-- Files of the same lengths in the same places; the settings file and the environment file are the
same. -/
structure SameSettings (path : Path) (t t' : Tree) : Prop where
  alike : t.Alike SameLength t'
  settings : t'.read path = t.read path
  environment : t'.read ProcessSettings.filePath = t.read ProcessSettings.filePath

theorem SameSettings.read {path : Path} {t t' : Tree} (h : SameSettings path t t')
    (environment : Variables) :
    ProcessSettings.read environment t' = ProcessSettings.read environment t := by
  rw [ProcessSettings.read, ProcessSettings.read, ProcessSettings.fileBindings,
    ProcessSettings.fileBindings, h.alike.isFile, h.environment]

variable {setup setup' : Setup}

theorem begun_matches (hsetup : setup.Alike setup') :
    Matches (Session.Alike (SameSettings setup.configPath))
      (fun m m' => m' = m ∧ ∃ settings config, m = .configured settings config)
      (advance setup .begun) (advance setup' .begun) := by
  rw [advance.eq_1, advance.eq_1, hsetup.configPath]
  refine (Matches.settings fun _ _ ht => ht.read).bind ?_
  rintro settings _ rfl
  refine (load_settings_matches fun _ _ ht => ht.settings).bind ?_
  rintro resolved _ rfl
  refine (Matches.ofExcept (.of_eq rfl)).bind fun _ _ _ => ?_
  refine (Matches.note _ _ _).bind fun _ _ _ => ?_
  refine Matches.bind (S := Eq) ?_ fun _ _ _ => .pure ⟨rfl, _, _, rfl⟩
  refine (Matches.onFiles (.fileAsk fun _ _ ht => .of_eq (ht.alike.pathExists _).symm)).bind ?_
  rintro present _ rfl
  split
  · exact (Matches.note _ _ _).bind fun _ _ _ => .pure rfl
  · exact .pure rfl

theorem configured_matches (hsetup : setup.Alike setup') (settings : ProcessSettings)
    (config : DaemonConfig) :
    Matches (Session.Alike Q) Milestone.Equipped (advance setup (.configured settings config))
      (advance setup' (.configured settings config)) := by
  have hload := hsetup.registry.loadFactory settings.networkEngine
  have hfactory := hsetup.factory
  rw [advance.eq_2, advance.eq_2]
  generalize setup.factory = given at hfactory ⊢
  generalize setup'.factory = given' at hfactory ⊢
  cases hfactory with
  | none => exact (Matches.onLog hload).bind fun _ _ hf => .pure (.alike _ _ hf)
  | some hf => exact .pure (.alike _ _ hf)

theorem equipped_matches (hsetup : setup.Alike setup') (settings : ProcessSettings)
    (config : DaemonConfig) {factory factory' : Factory Float} (hfactory : factory.Alike factory') :
    Matches (Session.Alike (Tree.Alike factory.sizes.SharePublic)) Milestone.Alike
      (advance setup (.equipped settings config factory))
      (advance setup' (.equipped settings config factory')) := by
  have hestablish := establish_matches hfactory.generateKeypair setup.keyFaults
    (Path.ofString config.keysFilePath) factory.sizes
  rw [advance.eq_3, advance.eq_3, hfactory.sizes, hsetup.keyFaults]
  refine hestablish.bind fun k k' hkeys => ?_
  exact (Matches.note _ _ _).bind fun _ _ _ => .pure (.identified _ _ hfactory hkeys)

theorem announce_matches {engine engine' : Engine Float} (h : engine.Alike engine')
    (config : DaemonConfig) :
    Matches (Session.Alike Q) Eq (announce engine config) (announce engine' config) := by
  rw [announce, announce]
  split
  · split
    · exact Startup.installMotd_matches h _ _
    · exact .throw _
  · exact .pure rfl

/-- The stages after the one that keeps the identity read the settings file and nothing else. -/
theorem advance_matches (hsetup : setup.Alike setup')
    (hread : ∀ t t', Q t t' → t'.read setup.configPath = t.read setup.configPath)
    {m m' : Milestone} (h : m.Alike m') :
    Matches (Session.Alike Q) Milestone.Alike (advance setup m) (advance setup' m') := by
  cases h with
  | identified settings config hfactory hkeys =>
      rw [advance.eq_4, advance.eq_4]
      refine (Startup.startNetworking_matches hfactory hkeys _ _ _).bind ?_
      rintro ⟨engine, ipv6⟩ ⟨engine', _⟩ ⟨hengine, rfl⟩
      exact .pure (.connected ⟨rfl, rfl, hkeys, hengine, rfl⟩)
  | connected hnode =>
      rw [advance.eq_5, advance.eq_5, hnode.config]
      exact (announce_matches hnode.engine _).bind fun _ _ _ => .pure (.announced hnode)
  | announced hnode =>
      rw [advance.eq_6, advance.eq_6, hnode.config, hnode.ipv6]
      split
      · refine Matches.bind (S := Option.Rel Relay.Alike) ?_ fun _ _ hrelay =>
          .pure (.relayed hnode hrelay)
        exact (Startup.startRelay_matches hnode.engine _ _).map fun _ _ hrelay => .some hrelay
      · exact .pure (.relayed hnode .none)
  | @relayed node node' _ _ hnode hrelay =>
      have hhex : node'.keypair.publicHex = node.keypair.publicHex :=
        congrArg Hex.encodeUpper hnode.keypair.publicKey
      rw [advance.eq_7, advance.eq_7, hsetup.configPath, hnode.ipv6, hhex]
      refine (Seeds.contactFile_matches hnode.engine _ hread).bind fun _ _ _ => ?_
      exact (Matches.note _ _ _).bind fun _ _ _ => .pure (.seeded hnode hrelay)
  | seeded hnode hrelay =>
      rw [advance.eq_8, advance.eq_8, hnode.settings, hnode.config]
      refine (Matches.ofExcept (.of_eq rfl)).bind ?_
      rintro tick _ rfl
      exact (Matches.ofExcept (Scheduler.make_agree hnode.engine hrelay hsetup.clock _ _ _)).map
        fun _ _ h => .ready h
  | ready h => exact .pure (.ready h)

theorem goOn_matches (hsetup : setup.Alike setup')
    (hread : ∀ t t', Q t t' → t'.read setup.configPath = t.read setup.configPath) (n : Nat)
    {m m' : Milestone} (h : m.Alike m') :
    Matches (Session.Alike Q) Milestone.Alike (goOn setup n m) (goOn setup' n m') := by
  induction n generalizing m m' with
  | zero => exact .pure h
  | succ n ih => exact (advance_matches hsetup hread h).bind fun _ _ h => ih h

end Service

end SeedNode

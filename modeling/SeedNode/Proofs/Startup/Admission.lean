import SeedNode.Proofs.Config.Admissible
import SeedNode.Proofs.Startup.Announcing
import SeedNode.Proofs.Startup.Fallback

/-!
# What a start asks for was admitted

The first stage of a start goes on only with a configuration that it has found usable, and every
later stage passes that configuration on as it is (`advance_usable`). So the engine is only ever
asked for a port in range, and the relay only for ports in range, and for some, whether or not the
start returns (`goOn_admits`). Which configurations are usable can be told from the settings
(`settings_admitted`).
-/

namespace SeedNode.Service

variable {setup : Setup} {m : Milestone} {c : DaemonConfig}

/-- The ports in the call are in range, and there are some. -/
def Admitted : Call Float → Prop
  | .create _ port _ => 1 ≤ port ∧ port ≤ 65535
  | .createRelay ports _ => ports ≠ [] ∧ ∀ port ∈ ports, 1 ≤ port ∧ port ≤ 65535
  | _ => True

/-- What the stages after the first can rely on. -/
structure Usable (c : DaemonConfig) : Prop where
  port : 1 ≤ c.port ∧ c.port ≤ 65535
  relay : c.enableTcpRelay = true → c.tcpRelayPorts ≠ []
  relayPorts : ∀ port ∈ c.tcpRelayPorts, 1 ≤ port ∧ port ≤ 65535

/-- A configuration that resolving gives and the check lets through. -/
theorem Usable.of_settled (hsettled : Config.Settled c) (hvalid : c.validate = .ok ()) :
    Usable c := by
  have hport : 1 ≤ c.port ∧ c.port ≤ 65535 := by
    by_contra hrange
    cases (Config.validate_of_port_out_of_range hsettled.port hrange).symm.trans hvalid
  refine ⟨hport, ?_, ?_⟩
  · intro hrelay hnone
    rw [Config.validate_of_port hport, if_pos ⟨hrelay, hnone⟩] at hvalid
    cases hvalid
  · intro port hmem
    exact Port.isValid_iff.mp (hsettled.relayPorts port hmem)

/-- The configuration that a start has come to is usable. -/
def Milestone.Usable (m : Milestone) : Prop :=
  ∀ config ∈ m.config?, Service.Usable config

theorem advance_usable (husable : m.Usable) : Returns Milestone.Usable (advance setup m) := by
  refine advance_passes_on ?_ husable
  intro s m' s' hrun config hconfig
  obtain ⟨hsettled, hvalid⟩ := begun_checked setup s m' s' hrun config hconfig
  exact .of_settled hsettled hvalid

/-- With a usable configuration a stage asks for nothing that is not admitted, whatever comes out
of it. -/
theorem advance_admits (husable : m.Usable) :
    Keeps (AddsCalls Admitted) (advance setup m) := by
  have quiet := addsCalls_quiet Admitted
  cases m with
  | ready scheduler => exact .pure quiet.refl _
  | begun => exact begun_keeps (addsCalls_permits fun c hc => hc.elim) setup
  | configured settings config =>
      exact configured_keeps (addsCalls_permits fun c hc => hc.elim) setup settings config
  | equipped settings config factory =>
      refine equipped_keeps (addsCalls_permits fun c hc => ?_) setup settings config factory
      obtain rfl : c = .generateKeypair := hc
      trivial
  | identified settings config factory keypair =>
      rw [advance.eq_4]
      refine .bind quiet.trans (Startup.startNetworking_keeps quiet ?_ _ _ _) fun started =>
        .pure quiet.refl _
      exact fun ipv6 => addsCalls_addCall (husable config rfl).port
  | connected node =>
      refine connected_keeps (addsCalls_permits fun c hc => ?_) setup node
      obtain ⟨version, motd, rfl⟩ := hc
      trivial
  | announced node =>
      have hconfig := husable node.config rfl
      rw [advance.eq_6]
      split
      case isTrue hrelay =>
        refine .bind quiet.trans (.map (Startup.startRelay_keeps quiet ?_ _)) fun _ =>
          .pure quiet.refl _
        exact addsCalls_addCall ⟨hconfig.relay hrelay, hconfig.relayPorts⟩
      case isFalse => exact .bind quiet.trans (.pure quiet.refl _) fun _ => .pure quiet.refl _
  | relayed node relay =>
      refine relayed_keeps (addsCalls_permits fun c hc => ?_) setup node relay
      obtain ⟨address, ipv6, port, key, rfl⟩ := hc
      trivial
  | seeded node relay => exact seeded_keeps (addsCalls_permits fun c hc => hc.elim) setup node relay

theorem goOn_admits (setup : Setup) : ∀ (n : Nat) (m : Milestone), m.Usable →
    Keeps (AddsCalls Admitted) (goOn setup n m)
  | 0, m, _ => .pure (addsCalls_quiet Admitted).refl m
  | n + 1, _, husable =>
      .bind_returns (addsCalls_quiet Admitted).trans (advance_admits husable)
        (advance_usable husable) fun m' hm' => goOn_admits setup n m' hm'

/-- A start asks for nothing that is not admitted, whether or not it returns. -/
theorem prepare_admits (setup : Setup) : Keeps (AddsCalls Admitted) (prepare setup) := by
  have hbegun : Milestone.begun.Usable := fun config hconfig => by cases hconfig
  intro s
  have hkeeps := goOn_admits setup 8 .begun hbegun s
  rw [← prepare_eq_goOn, run_map] at hkeeps
  rcases hrun : (prepare setup).run s with ⟨e | scheduler, s'⟩ <;> rw [hrun] at hkeeps <;>
    exact hkeeps

/-- A configuration that was resolved can be used just where the settings have a usable port and a
relay that is off or has ports, and otherwise is reported, the port first. So a start, whatever
comes out of it, asks for no engine and no relay but with ports in range, and for no relay without
any. -/
theorem settings_admitted :
    (∀ data r records, (Config.resolve data).run [] = (.ok r, records) →
      (r.config.validate = .ok () ↔ Config.UsablePort data ∧ Config.UsableRelay data)
        ∧ (Config.UsablePort data → ¬Config.UsableRelay data →
          r.config.validate = .error (DaemonConfig.failed "No TCP relay ports read"))
        ∧ ∀ n, data.lookup "port" = some (.int n) → ¬(1 ≤ n ∧ n ≤ 65535) →
          r.config.validate
            = .error (DaemonConfig.failed s!"Invalid 'port': {n}, should be in [1, 65535]"))
    ∧ ∀ setup s, ∃ made, ((prepare setup).run s).2.calls = s.calls ++ made
      ∧ ∀ c ∈ made, Admitted c := by
  refine ⟨fun data r records hrun => ?_, prepare_admits⟩
  obtain ⟨-, hnone, hout⟩ := Config.validate_resolved hrun
  exact ⟨Config.validate_eq_ok_iff hrun, hnone, hout⟩

/-- Of two things that are wrong the port is reported, and a port of the wrong kind is not wrong;
and a start asks for the engine and the relay before it fails. -/
theorem settings_admitted_port_first :
    let both : Table := [("port", .int 0), ("tcp_relay_ports", .str "443")]
    let closed : Table := [("port", .bool true), ("enable_tcp_relay", .int 0),
      ("tcp_relay_ports", .list [.int 70000, .bool true])]
    let s : Session Float := .start linked [] ⟨true, [], 0⟩
    let calls := ((prepare (secretly [0xFE])).run s).2.calls
    (∃ r records, (Config.resolve both).run [] = (.ok r, records)
      ∧ r.config.validate
        = .error (DaemonConfig.failed "Invalid 'port': 0, should be in [1, 65535]"))
      ∧ (∃ r records, (Config.resolve closed).run [] = (.ok r, records)
        ∧ r.config.validate = .error (DaemonConfig.failed "No TCP relay ports read"))
      ∧ .create ⟨[0x23], [0xFE]⟩ 33445 true ∈ calls
      ∧ .createRelay [443, 3389, 33445] true ∈ calls ∧ ∀ c ∈ calls, Admitted c := by
  intro both closed s calls
  obtain ⟨hresolved, hstarted⟩ := settings_admitted
  have hsmall : ∀ {n : Int}, n.natAbs < Nat.pow 10 5 → Writable n :=
    writable_of_natAbs_lt (by decide)
  refine ⟨?both, ?closed, ?started⟩
  case both =>
    have hshort : ¬Config.HasLongPort both := by
      rintro (⟨n, hfound, hlong⟩ | ⟨-, values, hfound, -⟩)
      · obtain rfl := Value.int.inj (Option.some.inj hfound)
        exact hlong (hsmall (by decide))
      · cases hfound
    obtain ⟨r, records, hrun⟩ := Config.resolve_of_not_hasLongPort hshort
    obtain ⟨-, -, hout⟩ := hresolved _ _ _ hrun
    exact ⟨r, records, hrun, hout 0 rfl (by decide)⟩
  case closed =>
    have hvalues : ∀ n, Value.int n ∈ [Value.int 70000, .bool true] → n = 70000 := by simp
    have hshort : ¬Config.HasLongPort closed := by
      rintro (⟨n, hfound, -⟩ | ⟨-, values, hfound, n, hmem, hlong⟩)
      · cases hfound
      · obtain rfl := Value.list.inj (Option.some.inj hfound)
        obtain rfl := hvalues n hmem
        exact hlong (hsmall (by decide))
    obtain ⟨r, records, hrun⟩ := Config.resolve_of_not_hasLongPort hshort
    obtain ⟨-, hnone, -⟩ := hresolved _ _ _ hrun
    refine ⟨r, records, hrun, hnone (fun n hfound => by cases hfound) ?_⟩
    rintro (hoff | hmissing | ⟨values, hfound, v, hv, n, hstands, hrange⟩)
    · cases hoff
    · cases hmissing
    · obtain rfl := Value.list.inj (Option.some.inj hfound)
      cases hstands with
      | int n =>
          obtain rfl := hvalues n hv
          exact absurd hrange (by decide)
      | float hx => simp at hv
  case started =>
    obtain ⟨settings, factory, s₁, hfactory, hearlier, hspilt⟩ :=
      reaches_identified [0xFE] (by decide)
    obtain ⟨node, relay, s₂, hlater, hkept, motd, hcalls⟩ :=
      reaches_relayed [0xFE] settings ⟨[0x23], [0xFE]⟩ s₁ hfactory
    have hdecode : Utf8.decode [0x23, 0xFE] = .error ⟨1, 1, 0xFE, .startByte⟩ := by
      simp [Utf8.decode, Utf8.decodeFrom, Utf8.front, Except.map]
    have hread : Config.readTable (secretly [0xFE]).configPath s₂.files
        = .error (.undecodable ⟨1, 1, 0xFE, .startByte⟩) := by
      rw [Config.readTable_of_read (hkept ▸ hspilt), Config.parseFile, hdecode]
      rfl
    have hsame : calls = s₂.calls :=
      congrArg (fun result => result.2.calls) (prepare_of_unreadable (hearlier.trans hlater) hread)
    obtain ⟨made, hmade, hadmitted⟩ := hstarted (secretly [0xFE]) s
    have hall : calls = made := hmade
    refine ⟨?_, ?_, by rwa [hall]⟩
    · rw [hsame, hcalls]
      simp
    · rw [hsame, hcalls]
      simp

end SeedNode.Service

import SeedNode.Proofs.Config.LongIntegers
import SeedNode.Proofs.Config.Motd

/-!
# Configurations that settle

Resolving a settings table takes only what it would take again: ports in their range, a message that
fits, and nothing for what is turned off (`Settled`). So a configuration that was resolved, written
down as settings and resolved once more, comes out the same, and every option that counts in it is
found among the settings. A settled configuration is one that resolving leaves as it is
(`run_resolve_settings`), and whatever resolving gives is settled (`settled_of_run`).
-/

namespace SeedNode

/-- A configuration written down as settings. A message of the day that there is none of is left
out. -/
def DaemonConfig.settings (c : DaemonConfig) : Table :=
  [("port", .int c.port), ("pid_file_path", .str c.pidFilePath),
   ("keys_file_path", .str c.keysFilePath), ("enable_ipv6", .bool c.enableIpv6),
   ("enable_ipv4_fallback", .bool c.enableIpv4Fallback),
   ("enable_lan_discovery", .bool c.enableLanDiscovery),
   ("enable_tcp_relay", .bool c.enableTcpRelay),
   ("tcp_relay_ports", .list (c.tcpRelayPorts.map .int)), ("enable_motd", .bool c.enableMotd)]
  ++ (c.motd.map fun m => ("motd", Value.str m)).toList

namespace Config

variable {data : Table} {r : Resolved} {records : List Record} {c : DaemonConfig}
  {ports : List Int}

/-! ## Ports -/

theorem isValid_of_check {n port : Int} {field : String}
    (h : Port.check (.int n) field = .ok port) : Port.isValid port = true := by
  by_cases hvalid : Port.isValid n = true
  · rw [Port.check_of_isValid hvalid] at h
    exact Except.ok.inj h ▸ hvalid
  · by_cases hn : Writable n
    · obtain ⟨report, hcheck, -⟩ := Port.check_of_writable hvalid hn field
      rw [hcheck] at h
      cases h
    · rw [Port.check_of_not_writable hn] at h
      cases h

theorem isValid_of_portOf_int {n port : Int} (h : portOf (.int n) = .ok (.ok port)) :
    Port.isValid port = true := by
  simp only [portOf] at h
  split at h
  case h_1 hcheck =>
    obtain rfl := Except.ok.inj (Except.ok.inj h)
    exact isValid_of_check hcheck
  case h_2 => cases h
  case h_3 => cases h

/-- Whatever is taken for a port is one. -/
theorem isValid_of_portOf {v : Value} {port : Int} (h : portOf v = .ok (.ok port)) :
    Port.isValid port = true := by
  cases v with
  | int n => exact isValid_of_portOf_int h
  | float x =>
      cases hx : (Value.float x).integer? with
      | none =>
          simp only [portOf, hx] at h
          cases h
      | some n =>
          simp only [portOf, hx] at h
          exact isValid_of_portOf_int h
  | _ => cases h

theorem collectPorts_valid : ∀ (values : List Value) (i : Nat),
    Returns (fun ports => ∀ port ∈ ports, Port.isValid port = true) (collectPorts i values)
  | [], _ => .pure (by simp)
  | v :: rest, i => by
      have hrest := collectPorts_valid rest (i + 1)
      rw [collectPorts]
      split
      case h_1 => exact .throw _
      case h_2 port hport =>
        refine .bind hrest fun ports hports => .pure ?_
        exact List.forall_mem_cons.mpr ⟨isValid_of_portOf hport, hports⟩
      case h_3 => exact .bind (.any _) fun _ _ => hrest

theorem portOf_of_isValid {port : Int} (h : Port.isValid port = true) :
    portOf (.int port) = .ok (.ok port) := by
  simp only [portOf, Port.check_of_isValid h]

/-- Ports are collected as they are, and nothing is told of them. -/
theorem run_collectPorts_of_valid (h : ∀ port ∈ ports, Port.isValid port = true) (i : Nat)
    (records : List Record) :
    (collectPorts i (ports.map .int)).run records = (.ok ports, records) := by
  induction ports generalizing i with
  | nil => rfl
  | cons port rest ih =>
      rw [List.forall_mem_cons] at h
      rw [List.map_cons, collectPorts, portOf_of_isValid h.1]
      exact run_bind_of_ok (ih h.2 (i + 1)) _

theorem relayPorts_valid (data : Table) :
    Returns (fun ports => ∀ port ∈ ports, Port.isValid port = true) (relayPorts data) := by
  rw [relayPorts]
  split
  case h_1 =>
    exact .bind (.any _) fun _ _ => .bind (.any _) fun _ _ => .bind (.any _) fun _ _ =>
      collectPorts_valid _ 0
  case h_2 => exact .bind (.any _) fun _ _ => .pure (by simp)
  case h_3 => exact collectPorts_valid _ 0
  case h_4 => exact .bind (.any _) fun _ _ => .pure (by simp)

/-- A list of ports is read as it is, also an empty one, which is complained about. -/
theorem run_relayPorts_of_valid
    (hfound : data.lookup "tcp_relay_ports" = some (.list (ports.map .int)))
    (h : ∀ port ∈ ports, Port.isValid port = true) (records : List Record) :
    ((relayPorts data).run records).1 = .ok ports := by
  rw [relayPorts, hfound]
  cases ports with
  | nil => rfl
  | cons port rest => exact congrArg Prod.fst (run_collectPorts_of_valid h 0 records)

/-! ## Settled configurations -/

/-- Resolving would take the configuration as it is. -/
structure Settled (c : DaemonConfig) : Prop where
  port : Writable c.port
  relayPorts : ∀ port ∈ c.tcpRelayPorts, Port.isValid port = true
  relayOff : c.enableTcpRelay = false → c.tcpRelayPorts = []
  announces : Announces c
  motd : ∀ m ∈ c.motd, Motd.Fits m

theorem settled_of_run (h : (resolve data).run [] = (.ok r, records)) : Settled r.config := by
  have hport := writable_of_resolved h
  have hannounces := resolve_announces data [] r records h
  obtain ⟨ports, summary, hresolving⟩ := resolving_of_run h
  have hrelay := hresolving.relay
  refine ⟨hport, ?_, fun hoff => (hresolving.relay_off hoff).1, hannounces, ?_⟩
  · rw [hresolving.config]
    cases ports with
    | none => simp [assembled]
    | some ports => exact relayPorts_valid data [] ports.1 ports.2 hrelay.2
  · rw [hresolving.config, assembled]
    intro m hm
    obtain ⟨found, -, rfl⟩ := Option.map_eq_some_iff.mp hm
    exact Motd.fits_clamp found.value

theorem load_settled {τ : Type} (path : Path) :
    Returns (fun r => Settled r.config) (load path : SessionM τ Resolved) := by
  refine .bind (.any _) fun data _ s r t hrun => ?_
  rw [run_onLog] at hrun
  exact settled_of_run (Prod.ext (Prod.mk.inj hrun).1 rfl)

/-! ## Settings of a settled configuration -/

theorem Scalar.chosen_of_lookup {α : Type} (o : Scalar α) {wrap : α → Value} {a : α}
    (hwrap : ∀ v a, o.kind.read v = some a ↔ v = wrap a)
    (hfound : data.lookup o.name = some (wrap a)) : o.chosen data = ⟨a, .configured⟩ := by
  rw [chosen, hfound, Option.bind_some, (hwrap _ a).mpr rfl]

theorem lookup_settings_motd (c : DaemonConfig) :
    c.settings.lookup "motd" = c.motd.map Value.str := by
  rw [DaemonConfig.settings]
  cases c.motd <;> rfl

theorem announced_settings (h : Announces c) :
    announced c.settings = c.motd.map fun m => ⟨m, .configured⟩ := by
  have htells : Scalar.enableMotd.chosen c.settings = ⟨c.enableMotd, .configured⟩ :=
    Scalar.enableMotd.chosen_of_lookup boolean_read rfl
  rw [announced, htells, ← h]
  cases hmotd : c.motd with
  | none => rfl
  | some m =>
      have hfound : c.settings.lookup "motd" = some (.str m) := by
        rw [lookup_settings_motd, hmotd]
        rfl
      rw [Scalar.motd.chosen_of_lookup string_read hfound]
      rfl

/-- Nothing among the settings is too long to be written. -/
theorem Settled.not_hasLongPort (h : Settled c) : ¬HasLongPort c.settings := by
  rintro (⟨n, hfound, hn⟩ | ⟨-, values, hfound, n, hmem, hn⟩)
  · obtain rfl := Value.int.inj (Option.some.inj hfound)
    exact hn h.port
  · obtain rfl := Value.list.inj (Option.some.inj hfound)
    obtain ⟨port, hport, hint⟩ := List.mem_map.mp hmem
    obtain rfl := Value.int.inj hint
    exact hn (Port.writable_of_isValid (h.relayPorts port hport))

/-- The ports that were read from the settings are those of the configuration, also where none were
read as the relay is off. -/
theorem Settled.relay_eq (h : Settled c) {ports : Option (List Int × List Record)}
    (hread : RelayRead c.settings ports) : (ports.map Prod.fst).getD [] = c.tcpRelayPorts := by
  have hrelay : Scalar.enableTcpRelay.chosen c.settings = ⟨c.enableTcpRelay, .configured⟩ :=
    Scalar.enableTcpRelay.chosen_of_lookup boolean_read rfl
  cases ports with
  | none =>
      rw [RelayRead, hrelay] at hread
      exact (h.relayOff hread).symm
  | some ports =>
      have hrun : ((Config.relayPorts c.settings).run []).1 = .ok c.tcpRelayPorts :=
        run_relayPorts_of_valid rfl h.relayPorts []
      rw [hread.2] at hrun
      exact Except.ok.inj hrun

theorem Settled.assembled_eq (h : Settled c) {ports : Option (List Int × List Record)}
    (hread : RelayRead c.settings ports) : assembled c.settings (ports.map Prod.fst) = c := by
  have hmotd : (announced c.settings).map (fun m => Motd.clamp m.value) = c.motd := by
    rw [announced_settings h.announces]
    cases hmotd : c.motd with
    | none => rfl
    | some m => exact congrArg some (Motd.clamp_of_fits (h.motd m hmotd))
  rw [assembled, h.relay_eq hread, hmotd]
  rfl

/-- Every option that was looked up is found among the settings. -/
theorem Settled.configured (h : Settled c) (ports : Option (List Record)) :
    ∀ l ∈ looked c.settings ports, l.source = .configured := by
  intro l hl
  simp only [looked, announced_settings h.announces, List.mem_append, List.mem_cons,
    List.not_mem_nil, or_false, Option.mem_toList, Option.map_eq_some_iff] at hl
  rcases hl with (((rfl | rfl | rfl | rfl | rfl | rfl | rfl) | ⟨told, -, rfl⟩) | rfl)
    | ⟨found, ⟨m, -, rfl⟩, rfl⟩
  all_goals rfl

/-- Resolving leaves a settled configuration as it is, and finds every option that counts in it. -/
theorem Settled.run_resolve (h : Settled c) : ∃ r records,
    (resolve c.settings).run [] = (.ok r, records) ∧ r.config = c
      ∧ r.sources = (optionNames c.enableTcpRelay c.enableMotd).map fun name =>
        (name, .configured) := by
  obtain ⟨r, records, hrun⟩ := resolve_of_not_hasLongPort h.not_hasLongPort
  obtain ⟨ports, summary, hresolving⟩ := resolving_of_run hrun
  have hconfig : r.config = c := by rw [hresolving.config, h.assembled_eq hresolving.relay]
  refine ⟨r, _, hrun, hconfig, ?_⟩
  rw [← hconfig, ← hresolving.names, hresolving.sources, List.map_map, List.map_map]
  refine List.map_congr_left fun l hl => ?_
  rw [Function.comp_apply, Function.comp_apply, h.configured _ l hl]

/-- A configuration that was resolved, written down as settings and resolved again, comes out the
same; the same options are looked up, and all of them are found. -/
theorem resolve_settles (h : (resolve data).run [] = (.ok r, records)) : ∃ r' records',
    (resolve r.config.settings).run [] = (.ok r', records') ∧ r'.config = r.config
      ∧ r'.sources = r.sources.map fun entry => (entry.1, .configured) := by
  obtain ⟨r', records', hrun, hconfig, hsources⟩ := (settled_of_run h).run_resolve
  obtain ⟨ports, summary, hresolving⟩ := resolving_of_run h
  refine ⟨r', records', hrun, hconfig, ?_⟩
  rw [hsources, ← hresolving.names, List.map_map]
  rfl

/-- A port of the wrong kind, ports that are none or come twice, and a message that is cut in the
middle of a character. -/
theorem resolve_settles_clipped :
    let data : Table := [("port", .bool true),
      ("tcp_relay_ports", .list [.int 443, .str "x", .int 70000, .int 443]),
      ("motd", .str (String.ofList (List.replicate 64 '😀')))]
    ∃ r records, (resolve data).run [] = (.ok r, records)
      ∧ r.config.port = 33445 ∧ r.config.tcpRelayPorts = [443, 443]
      ∧ r.config.motd = some (String.ofList (List.replicate 63 '😀'))
      ∧ ∃ r' records', (resolve r.config.settings).run [] = (.ok r', records')
        ∧ r'.config = r.config
        ∧ r'.sources = r.sources.map fun entry => (entry.1, .configured) := by
  intro data
  have hvalues : ((resolve data).run []).1.toOption.map
      (fun r => (r.config.port, r.config.tcpRelayPorts)) = some (33445, [443, 443]) := by
    decide +kernel
  have hclamp : Motd.clamp (String.ofList (List.replicate 64 '😀'))
      = String.ofList (List.replicate 63 '😀') := by
    rw [Motd.clamp, String.toList_ofList]
    exact congrArg String.ofList (by decide +kernel)
  rcases hrun : (resolve data).run [] with ⟨e | r, records⟩
  · rw [hrun] at hvalues
    cases hvalues
  · rw [hrun] at hvalues
    obtain ⟨hport, hports⟩ := Prod.mk.inj (Option.some.inj hvalues)
    obtain ⟨ports, summary, hresolving⟩ := resolving_of_run hrun
    have hmotd : r.config.motd = some (Motd.clamp (String.ofList (List.replicate 64 '😀'))) := by
      rw [hresolving.config]
      rfl
    exact ⟨r, records, rfl, hport, hports, hmotd.trans (congrArg some hclamp),
      resolve_settles hrun⟩

end Config

end SeedNode

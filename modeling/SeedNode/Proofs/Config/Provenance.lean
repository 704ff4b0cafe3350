import SeedNode.Proofs.Config.Resolving
import SeedNode.Proofs.Config.Summary

/-!
# Where a configuration comes from

A configuration that was resolved holds, for each option that counts in it, the value in the
settings table if there is one of the right kind, and the default otherwise. Its sources, the
warnings about defaults and the summary all say the same about that. The proof takes a run apart
into what it looked up, option by option, and the summary after that (`Resolving`).
-/

namespace SeedNode.Config

/-! ## The options -/

namespace Scalar

theorem text_default_port : OptionKind.integer.text DaemonConfig.default.port = .ok "33445" := by
  have hdigits : 10 ^ 5 ≤ 10 ^ maxDigits := Nat.pow_le_pow_right (by decide) (by decide)
  have hsmall : DaemonConfig.default.port.natAbs < 10 ^ maxDigits :=
    Nat.lt_of_lt_of_le (by decide) hdigits
  dsimp only [OptionKind.integer]
  rw [decimalText, Nat.pow_eq, if_pos hsmall]
  rfl

def port : Scalar Int :=
  ⟨.integer, "port", DaemonConfig.default.port, "33445", text_default_port, by decide, by decide⟩

def pidFilePath : Scalar String :=
  ⟨.string, "pid_file_path", DaemonConfig.default.pidFilePath, "dht-bootstrapd.pid", rfl,
    by decide, by decide⟩

def keysFilePath : Scalar String :=
  ⟨.string, "keys_file_path", DaemonConfig.default.keysFilePath, "dht-bootstrapd.keys", rfl,
    by decide, by decide⟩

/-- An option that is on or off, and on where the settings do not say. -/
def flag (name : String) (hname : '\'' ∉ name.toList) : Scalar Bool :=
  ⟨.boolean, name, true, "true", rfl, hname, by decide⟩

def enableIpv6 : Scalar Bool := flag "enable_ipv6" (by decide)

def enableIpv4Fallback : Scalar Bool := flag "enable_ipv4_fallback" (by decide)

def enableLanDiscovery : Scalar Bool := flag "enable_lan_discovery" (by decide)

def enableTcpRelay : Scalar Bool := flag "enable_tcp_relay" (by decide)

def enableMotd : Scalar Bool := flag "enable_motd" (by decide)

def motd : Scalar String :=
  ⟨.string, "motd", "dht-bootstrapd", "dht-bootstrapd", rfl, by decide, by decide⟩

theorem of_run_lookup {α : Type} (o : Scalar α) {data : Table} {records records' : List Record}
    {c : Chosen α} (h : (lookup o.kind data o.name o.default).run records = (.ok c, records')) :
    c = o.chosen data ∧ records' = records ++ o.notices data := by
  rw [o.run_lookup] at h
  obtain ⟨hc, hrecords⟩ := Prod.mk.inj h
  exact ⟨(Except.ok.inj hc).symm, hrecords.symm⟩

end Scalar

/-! ## Runs taken apart -/

/-- The message of the day, which is looked up where it is enabled. -/
def announced (data : Table) : Option (Chosen String) :=
  if (Scalar.enableMotd.chosen data).value then some (Scalar.motd.chosen data) else none

/-- The options that were looked up, in their order, with what was told of the ports of the relay
where these were. -/
def looked (data : Table) (ports : Option (List Record)) : List Lookup :=
  [Scalar.port.looked data, Scalar.pidFilePath.looked data, Scalar.keysFilePath.looked data,
    Scalar.enableIpv6.looked data, Scalar.enableIpv4Fallback.looked data,
    Scalar.enableLanDiscovery.looked data, Scalar.enableTcpRelay.looked data]
  ++ (ports.map (Lookup.mk "tcp_relay_ports" (relaySource data))).toList
  ++ [Scalar.enableMotd.looked data]
  ++ ((announced data).map fun c => Lookup.mk "motd" c.source (Scalar.motd.notices data)).toList

/-- The configuration that the options come to. -/
def assembled (data : Table) (ports : Option (List Int)) : DaemonConfig where
  port := (Scalar.port.chosen data).value
  pidFilePath := (Scalar.pidFilePath.chosen data).value
  keysFilePath := (Scalar.keysFilePath.chosen data).value
  enableIpv6 := (Scalar.enableIpv6.chosen data).value
  enableIpv4Fallback := (Scalar.enableIpv4Fallback.chosen data).value
  enableLanDiscovery := (Scalar.enableLanDiscovery.chosen data).value
  enableTcpRelay := (Scalar.enableTcpRelay.chosen data).value
  tcpRelayPorts := ports.getD []
  enableMotd := (Scalar.enableMotd.chosen data).value
  motd := (announced data).map fun m => Motd.clamp m.value

/-- The ports of the relay were read just where it is enabled. -/
def RelayRead (data : Table) : Option (List Int × List Record) → Prop
  | none => (Scalar.enableTcpRelay.chosen data).value = false
  | some (ports, told) => (Scalar.enableTcpRelay.chosen data).value = true
      ∧ (relayPorts data).run [] = (.ok ports, told)

/-- A run that resolved a settings table: first the options were looked up, then a summary was
made. -/
structure Resolving (data : Table) (r : Resolved) (records : List Record)
    (ports : Option (List Int × List Record)) (summary : List Record) : Prop where
  relay : RelayRead data ports
  config : r.config = assembled data (ports.map Prod.fst)
  sources : r.sources = (looked data (ports.map Prod.snd)).map fun l => (l.name, l.source)
  truthful : ∀ l ∈ looked data (ports.map Prod.snd), l.Truthful
  records : records = (looked data (ports.map Prod.snd)).flatMap Lookup.notices ++ summary
  summary : Summary r.sources (shown r.config) summary

/-- Code was run only where it is enabled, and returned. -/
def RanWhere {α : Type} (enabled : Bool) (x : LogM α) (s : List Record) :
    Option α → List Record → Prop
  | none, t => enabled = false ∧ t = s
  | some a, t => enabled = true ∧ x.run s = (.ok a, t)

theorem run_gated_eq_ok {α β : Type} {enabled : Bool} {x : LogM α} {f : Option α → LogM β}
    {s s' : List Record} {b : β}
    (h : (if enabled = true then some <$> x >>= f else pure none >>= f).run s = (.ok b, s')) :
    ∃ o t, RanWhere enabled x s o t ∧ (f o).run t = (.ok b, s') := by
  cases enabled with
  | false => exact ⟨none, s, ⟨rfl, rfl⟩, h⟩
  | true =>
      obtain ⟨o, t, hmapped, hrest⟩ := run_bind_eq_ok.mp h
      obtain ⟨a, hx, rfl⟩ := run_map_eq_ok.mp hmapped
      exact ⟨some a, t, ⟨rfl, hx⟩, hrest⟩

theorem ports_of_run {data : Table} {o : Option (List Int)} {s t : List Record}
    (h : RanWhere (Scalar.enableTcpRelay.chosen data).value (relayPorts data) s o t) :
    ∃ ports, o = ports.map Prod.fst ∧ t = s ++ (ports.map Prod.snd).getD []
      ∧ RelayRead data ports
      ∧ ∀ told ∈ ports.map Prod.snd,
        Lookup.Truthful ⟨"tcp_relay_ports", relaySource data, told⟩ := by
  cases o with
  | none =>
      obtain ⟨hrelay, rfl⟩ := h
      exact ⟨none, rfl, (List.append_nil _).symm, hrelay, by simp⟩
  | some ports =>
      obtain ⟨hrelay, hrun⟩ := h
      obtain ⟨result, told, hports, htruthful⟩ := relayPorts_truthful data
      obtain ⟨rfl, rfl⟩ := Prod.mk.inj ((hports s).symm.trans hrun)
      exact ⟨some (ports, told), rfl, rfl, ⟨hrelay, hports []⟩, by simpa using htruthful⟩

theorem motd_of_run {data : Table} {o : Option (Chosen String)} {s t : List Record}
    (h : RanWhere (Scalar.enableMotd.chosen data).value
      (lookup .string data "motd" (DaemonConfig.default.motd.getD "")) s o t) :
    o = announced data
      ∧ t = s ++ ((announced data).map fun _ => Scalar.motd.notices data).getD [] := by
  cases o with
  | none =>
      obtain ⟨hmotd, rfl⟩ := h
      simp [announced, hmotd]
  | some c =>
      obtain ⟨hmotd, hrun⟩ := h
      obtain ⟨rfl, rfl⟩ := Scalar.motd.of_run_lookup hrun
      simp [announced, hmotd]

theorem chosen_of_announced {data : Table} {c : Chosen String} (h : announced data = some c) :
    Scalar.motd.chosen data = c := by
  rw [announced] at h
  split at h
  · exact Option.some.inj h
  · cases h

theorem looked_truthful (data : Table) {ports : Option (List Record)}
    (h : ∀ told ∈ ports, Lookup.Truthful ⟨"tcp_relay_ports", relaySource data, told⟩) :
    ∀ l ∈ looked data ports, l.Truthful := by
  intro l hl
  simp only [looked, List.mem_append, List.mem_cons, List.not_mem_nil, or_false,
    Option.mem_toList, Option.map_eq_some_iff] at hl
  rcases hl with (((rfl | rfl | rfl | rfl | rfl | rfl | rfl) | ⟨told, htold, rfl⟩) | rfl)
    | ⟨c, hc, rfl⟩
  case inl.inl.inr => exact h told htold
  case inr =>
    obtain rfl := chosen_of_announced hc
    exact Scalar.motd.looked_truthful data
  all_goals exact Scalar.looked_truthful _ data

theorem resolving_of_run {data : Table} {r : Resolved} {records : List Record}
    (h : (resolve data).run [] = (.ok r, records)) :
    ∃ ports summary, Resolving data r records ports summary := by
  rw [resolve] at h
  obtain ⟨port, s₁, hport, h⟩ := run_bind_eq_ok.mp h
  obtain ⟨rfl, rfl⟩ := Scalar.port.of_run_lookup hport
  obtain ⟨pid, s₂, hpid, h⟩ := run_bind_eq_ok.mp h
  obtain ⟨rfl, rfl⟩ := Scalar.pidFilePath.of_run_lookup hpid
  obtain ⟨keys, s₃, hkeys, h⟩ := run_bind_eq_ok.mp h
  obtain ⟨rfl, rfl⟩ := Scalar.keysFilePath.of_run_lookup hkeys
  obtain ⟨ipv6, s₄, hipv6, h⟩ := run_bind_eq_ok.mp h
  obtain ⟨rfl, rfl⟩ := Scalar.enableIpv6.of_run_lookup hipv6
  obtain ⟨fallback, s₅, hfallback, h⟩ := run_bind_eq_ok.mp h
  obtain ⟨rfl, rfl⟩ := Scalar.enableIpv4Fallback.of_run_lookup hfallback
  obtain ⟨lan, s₆, hlan, h⟩ := run_bind_eq_ok.mp h
  obtain ⟨rfl, rfl⟩ := Scalar.enableLanDiscovery.of_run_lookup hlan
  obtain ⟨relay, s₇, hrelay, h⟩ := run_bind_eq_ok.mp h
  obtain ⟨rfl, rfl⟩ := Scalar.enableTcpRelay.of_run_lookup hrelay
  obtain ⟨ports, s₈, hports, h⟩ := run_gated_eq_ok h
  obtain ⟨ports, rfl, rfl, hread, htruthful⟩ := ports_of_run hports
  obtain ⟨tells, s₉, htells, h⟩ := run_bind_eq_ok.mp h
  obtain ⟨rfl, rfl⟩ := Scalar.enableMotd.of_run_lookup htells
  obtain ⟨motd, s₁₀, hmotd, h⟩ := run_gated_eq_ok h
  obtain ⟨rfl, rfl⟩ := motd_of_run hmotd
  obtain ⟨_, s₁₁, hsummary, hpure⟩ := run_bind_eq_ok.mp h
  obtain ⟨hr, rfl⟩ := Prod.mk.inj hpure
  obtain rfl := Except.ok.inj hr
  obtain ⟨told, rfl, hshown⟩ := logSummary_shows _ _ _ hsummary
  refine ⟨ports, told, hread, rfl, ?_, looked_truthful data htruthful, ?_, hshown⟩
  · rw [looked]
    cases ports <;> cases announced data <;> rfl
  · rw [looked]
    cases ports <;> cases announced data <;> simp [Scalar.looked]

/-! ## Sources -/

/-- The names of the options that are looked up, in their order. -/
def optionNames (relay motd : Bool) : List String :=
  ["port", "pid_file_path", "keys_file_path", "enable_ipv6", "enable_ipv4_fallback",
    "enable_lan_discovery", "enable_tcp_relay"]
  ++ (if relay then ["tcp_relay_ports"] else [])
  ++ ["enable_motd"]
  ++ if motd then ["motd"] else []

theorem optionNames_nodup (relay motd : Bool) : (optionNames relay motd).Nodup := by
  cases relay <;> cases motd <;> decide

theorem lookup_of_mem {sources : Sources} {name : String} {origin : OptionSource}
    (hnodup : (sources.map Prod.fst).Nodup) (h : (name, origin) ∈ sources) :
    sources.lookup name = some origin := by
  obtain ⟨before, after, rfl⟩ := List.append_of_mem h
  rw [List.lookup_eq_some_iff]
  refine ⟨before, after, rfl, fun p hp => bne_iff_ne.mpr ?_⟩
  rintro rfl
  rw [List.map_append, List.nodup_append] at hnodup
  exact hnodup.2.2 _ (List.mem_map_of_mem hp) _ (List.mem_map_of_mem (List.mem_cons_self ..)) rfl

theorem mem_of_lookup {sources : Sources} {name : String} {origin : OptionSource}
    (h : sources.lookup name = some origin) : (name, origin) ∈ sources := by
  obtain ⟨before, after, rfl, -⟩ := List.lookup_eq_some_iff.mp h
  simp

section Resolving

variable {data : Table} {r : Resolved} {records summary : List Record}
  {ports : Option (List Int × List Record)}

theorem announced_isSome (data : Table) :
    (announced data).isSome = (Scalar.enableMotd.chosen data).value := by
  rw [announced]
  cases (Scalar.enableMotd.chosen data).value <;> rfl

theorem Resolving.relays (h : Resolving data r records ports summary) :
    r.config.enableTcpRelay = ports.isSome := by
  have hrelay := h.relay
  rw [h.config]
  cases ports with
  | none => exact hrelay
  | some ports => exact hrelay.1

theorem Resolving.announces (h : Resolving data r records ports summary) :
    r.config.enableMotd = (announced data).isSome := by
  rw [h.config, announced_isSome, assembled]

theorem Resolving.names (h : Resolving data r records ports summary) :
    r.sources.map Prod.fst = optionNames r.config.enableTcpRelay r.config.enableMotd := by
  rw [h.relays, h.announces, h.sources, looked, optionNames]
  cases ports <;> cases announced data <;> rfl

theorem Resolving.lookup_eq (h : Resolving data r records ports summary) {l : Lookup}
    (hl : l ∈ looked data (ports.map Prod.snd)) : r.sources.lookup l.name = some l.source := by
  refine lookup_of_mem (h.names ▸ optionNames_nodup _ _) ?_
  rw [h.sources]
  exact List.mem_map_of_mem hl

/-- A default is told of just where the source is the default. -/
theorem Resolving.defaults (h : Resolving data r records ports summary) (name : String) :
    r.sources.lookup name = some .default
      ↔ ∃ record ∈ records, tellsDefault name record = true := by
  constructor
  · intro hlookup
    have hmem := mem_of_lookup hlookup
    rw [h.sources, List.mem_map] at hmem
    obtain ⟨l, hl, hsource⟩ := hmem
    obtain ⟨rfl, hdefault⟩ := Prod.mk.inj hsource
    obtain ⟨record, hrecord, htells⟩ := ((h.truthful l hl).defaults l.name).mpr ⟨rfl, hdefault⟩
    refine ⟨record, ?_, htells⟩
    rw [h.records]
    exact List.mem_append_left _ (List.mem_flatMap.mpr ⟨l, hl, hrecord⟩)
  · rintro ⟨record, hrecord, htells⟩
    rw [h.records] at hrecord
    rcases List.mem_append.mp hrecord with hrecord | hrecord
    · obtain ⟨l, hl, hrecord⟩ := List.mem_flatMap.mp hrecord
      obtain ⟨rfl, hdefault⟩ := ((h.truthful l hl).defaults name).mp ⟨record, hrecord, htells⟩
      rw [h.lookup_eq hl, hdefault]
    · rw [tellsDefault_of_ne (h.summary.quiet record hrecord)] at htells
      cases htells

/-- All lines of the log are those of the summary. -/
theorem Resolving.filter_isLine (h : Resolving data r records ports summary) :
    records.filter isLine = summary.filter isLine := by
  have hnone : ((looked data (ports.map Prod.snd)).flatMap Lookup.notices).filter isLine = [] := by
    rw [List.filter_eq_nil_iff]
    intro record hrecord hline
    obtain ⟨l, hl, hrecord⟩ := List.mem_flatMap.mp hrecord
    rw [(h.truthful l hl).values record hrecord] at hline
    cases hline
  rw [h.records, List.filter_append, hnone, List.nil_append]

/-- Every option of one value that is looked up counts in the configuration. -/
theorem mem_map_shown {c : DaemonConfig} (hannounces : Announces c) {name : String}
    (hname : name ∈ optionNames c.enableTcpRelay c.enableMotd) (hrelay : name ≠ "tcp_relay_ports") :
    name ∈ (shown c).map Prod.fst := by
  rw [map_shown, hannounces, Bool.and_self]
  revert hname
  cases c.enableTcpRelay <;> cases c.enableMotd <;> simp [optionNames] <;> tauto

theorem Resolving.shows (h : Resolving data r records ports summary)
    (hannounces : Announces r.config) {name : String} {origin : OptionSource}
    (hlookup : r.sources.lookup name = some origin) (hrelay : name ≠ "tcp_relay_ports") :
    ∃ text, (name, .ok text) ∈ shown r.config
      ∧ records.filter (tellsValue name) = [line name text origin] := by
  have hname : name ∈ optionNames r.config.enableTcpRelay r.config.enableMotd := by
    rw [← h.names]
    exact List.mem_map_of_mem (mem_of_lookup hlookup)
  obtain ⟨⟨name, text⟩, hmem, rfl⟩ := List.mem_map.mp (mem_map_shown hannounces hname hrelay)
  obtain ⟨text, rfl, hfilter⟩ := filter_eq_singleton_of_lines h.summary.lines
    (fun l hl => (shown_plain r.config).2 _ (List.mem_map_of_mem hl)) (shown_plain r.config).1 hmem
  refine ⟨text, hmem, ?_⟩
  have horigin : r.sources.of name = origin := by rw [Sources.of, hlookup]; rfl
  rw [← horigin, ← hfilter, ← h.filter_isLine, List.filter_filter]
  refine List.filter_congr fun record _ => ?_
  cases htells : tellsValue name record with
  | false => rfl
  | true => rw [isLine_of_tellsValue htells]; rfl

end Resolving

/-! ## Other keys -/

theorem lookup_congr {data data' : Table} {name : String} (h : data'.lookup name = data.lookup name)
    {α : Type} (kind : OptionKind α) (default : α) :
    lookup kind data' name default = lookup kind data name default := by
  rw [lookup, lookup, h]

theorem relayPorts_congr {data data' : Table}
    (h : data'.lookup "tcp_relay_ports" = data.lookup "tcp_relay_ports") :
    relayPorts data' = relayPorts data := by
  rw [relayPorts, relayPorts, h]

theorem relaySource_congr {data data' : Table}
    (h : data'.lookup "tcp_relay_ports" = data.lookup "tcp_relay_ports") :
    relaySource data' = relaySource data := by
  rw [relaySource, relaySource, h]

/-- Nothing else in a settings table matters. -/
theorem resolve_congr {data data' : Table}
    (h : ∀ name ∈ optionNames true true, data'.lookup name = data.lookup name) :
    resolve data' = resolve data := by
  have hports := h "tcp_relay_ports" (by decide)
  simp only [resolve, relayPorts_congr hports, relaySource_congr hports,
    lookup_congr (h "port" (by decide)), lookup_congr (h "pid_file_path" (by decide)),
    lookup_congr (h "keys_file_path" (by decide)), lookup_congr (h "enable_ipv6" (by decide)),
    lookup_congr (h "enable_ipv4_fallback" (by decide)),
    lookup_congr (h "enable_lan_discovery" (by decide)),
    lookup_congr (h "enable_tcp_relay" (by decide)), lookup_congr (h "enable_motd" (by decide)),
    lookup_congr (h "motd" (by decide))]

/-! ## Faithfulness -/

/-- A field is what the settings give for an option if they hold a value of its kind, which is then
its source; otherwise it is the default, and so is its source. -/
def Provenance {α β : Type} (wrap : α → Value) (given : α → β) (data : Table) (sources : Sources)
    (name : String) (default field : β) : Prop :=
  (∀ a, data.lookup name = some (wrap a) →
      field = given a ∧ sources.lookup name = some .configured)
    ∧ ((∀ a, data.lookup name ≠ some (wrap a)) →
      field = default ∧ sources.lookup name = some .default)

theorem Scalar.provenance {α β : Type} (o : Scalar α) {wrap : α → Value} {given : α → β}
    {data : Table} {sources : Sources} (hwrap : ∀ v a, o.kind.read v = some a ↔ v = wrap a)
    (hsource : sources.lookup o.name = some (o.chosen data).source) :
    Provenance wrap given data sources o.name (given o.default) (given (o.chosen data).value) := by
  rw [chosen] at hsource ⊢
  constructor
  · intro a hfound
    have hread : (data.lookup o.name).bind o.kind.read = some a := by
      rw [hfound]
      exact (hwrap _ _).mpr rfl
    rw [hread] at hsource ⊢
    exact ⟨rfl, hsource⟩
  · intro hother
    have hread : (data.lookup o.name).bind o.kind.read = none := by
      rw [Option.bind_eq_none_iff]
      intro v hfound
      rw [Option.eq_none_iff_forall_ne_some]
      intro a ha
      exact hother a (hfound.trans (congrArg some ((hwrap v a).mp ha)))
    rw [hread] at hsource ⊢
    exact ⟨rfl, hsource⟩

theorem integer_read (v : Value) (n : Int) : OptionKind.integer.read v = some n ↔ v = .int n := by
  cases v <;> simp [OptionKind.integer]

theorem boolean_read (v : Value) (b : Bool) : OptionKind.boolean.read v = some b ↔ v = .bool b := by
  cases v <;> simp [OptionKind.boolean]

theorem string_read (v : Value) (s : String) : OptionKind.string.read v = some s ↔ v = .str s := by
  cases v <;> simp [OptionKind.string]

/-- What a resolved configuration, its sources and the records that were made say of a settings
table. -/
structure Faithful (data : Table) (r : Resolved) (records : List Record) : Prop where
  port : Provenance .int id data r.sources "port" DaemonConfig.default.port r.config.port
  pidFilePath : Provenance .str id data r.sources "pid_file_path"
    DaemonConfig.default.pidFilePath r.config.pidFilePath
  keysFilePath : Provenance .str id data r.sources "keys_file_path"
    DaemonConfig.default.keysFilePath r.config.keysFilePath
  enableIpv6 : Provenance .bool id data r.sources "enable_ipv6"
    DaemonConfig.default.enableIpv6 r.config.enableIpv6
  enableIpv4Fallback : Provenance .bool id data r.sources "enable_ipv4_fallback"
    DaemonConfig.default.enableIpv4Fallback r.config.enableIpv4Fallback
  enableLanDiscovery : Provenance .bool id data r.sources "enable_lan_discovery"
    DaemonConfig.default.enableLanDiscovery r.config.enableLanDiscovery
  enableTcpRelay : Provenance .bool id data r.sources "enable_tcp_relay"
    DaemonConfig.default.enableTcpRelay r.config.enableTcpRelay
  enableMotd : Provenance .bool id data r.sources "enable_motd"
    DaemonConfig.default.enableMotd r.config.enableMotd
  motd : r.config.enableMotd = true → Provenance .str (fun m => some (Motd.clamp m)) data r.sources
    "motd" DaemonConfig.default.motd r.config.motd
  motdOff : r.config.enableMotd = false → r.config.motd = none
    ∧ r.sources.lookup "motd" = none
  relay : r.config.enableTcpRelay = true →
    (∃ told, (relayPorts data).run [] = (.ok r.config.tcpRelayPorts, told))
      ∧ r.sources.lookup "tcp_relay_ports" = some
        (if (data.lookup "tcp_relay_ports").isSome then .configured else .default)
  relayOff : r.config.enableTcpRelay = false → r.config.tcpRelayPorts = []
    ∧ r.sources.lookup "tcp_relay_ports" = none
  names : r.sources.map Prod.fst = optionNames r.config.enableTcpRelay r.config.enableMotd
  /-- A default is told of just where the source is the default. -/
  defaults : ∀ name, r.sources.lookup name = some .default ↔
    ∃ record ∈ records, tellsDefault name record = true
  /-- Each option of one value that was looked up has one line in the log, with its value and its
  source. -/
  summary : ∀ name origin, r.sources.lookup name = some origin → name ≠ "tcp_relay_ports" →
    ∃ text, (name, .ok text) ∈ shown r.config
      ∧ records.filter (tellsValue name) = [line name text origin]
  /-- Nothing else in the table matters. -/
  others : ∀ data' : Table, (∀ name ∈ optionNames true true, data'.lookup name = data.lookup name) →
    resolve data' = resolve data

section Faithful

variable {data : Table} {r : Resolved} {records summary : List Record}
  {ports : Option (List Int × List Record)}

theorem Resolving.lookup_eq_none (h : Resolving data r records ports summary) {name : String}
    (hname : name ∉ optionNames r.config.enableTcpRelay r.config.enableMotd) :
    r.sources.lookup name = none := by
  rw [Option.eq_none_iff_forall_ne_some]
  intro origin hlookup
  rw [← h.names] at hname
  exact hname (List.mem_map_of_mem (mem_of_lookup hlookup))

theorem Resolving.motd (h : Resolving data r records ports summary)
    (henabled : r.config.enableMotd = true) :
    Provenance .str (fun m => some (Motd.clamp m)) data r.sources "motd"
      DaemonConfig.default.motd r.config.motd := by
  obtain ⟨c, hc⟩ := Option.isSome_iff_exists.mp (h.announces.symm.trans henabled)
  have hmem : ⟨"motd", c.source, Scalar.motd.notices data⟩ ∈ looked data (ports.map Prod.snd) := by
    simp [looked, hc]
  have hsource := h.lookup_eq hmem
  obtain rfl := chosen_of_announced hc
  have hdefault : DaemonConfig.default.motd = some (Motd.clamp Scalar.motd.default) := by decide
  have hvalue : r.config.motd = some (Motd.clamp (Scalar.motd.chosen data).value) := by
    rw [h.config, assembled, hc]
    rfl
  rw [hvalue, hdefault]
  exact Scalar.motd.provenance string_read hsource

theorem Resolving.relay_on (h : Resolving data r records ports summary)
    (henabled : r.config.enableTcpRelay = true) :
    (∃ told, (relayPorts data).run [] = (.ok r.config.tcpRelayPorts, told))
      ∧ r.sources.lookup "tcp_relay_ports" = some (relaySource data) := by
  obtain ⟨⟨read, told⟩, rfl⟩ := Option.isSome_iff_exists.mp (h.relays.symm.trans henabled)
  have hmem : ⟨"tcp_relay_ports", relaySource data, told⟩ ∈ looked data (some told) := by
    simp [looked]
  refine ⟨⟨told, ?_⟩, h.lookup_eq hmem⟩
  rw [h.config]
  exact h.relay.2

theorem Resolving.relay_off (h : Resolving data r records ports summary)
    (hdisabled : r.config.enableTcpRelay = false) :
    r.config.tcpRelayPorts = [] ∧ r.sources.lookup "tcp_relay_ports" = none := by
  have hnone : ports.isSome = false := h.relays.symm.trans hdisabled
  obtain rfl : ports = none := by simpa using hnone
  constructor
  · rw [h.config]
    rfl
  · refine h.lookup_eq_none ?_
    rw [hdisabled]
    cases r.config.enableMotd <;> decide

theorem Resolving.motd_off (h : Resolving data r records ports summary)
    (hannounces : Announces r.config) (hdisabled : r.config.enableMotd = false) :
    r.config.motd = none ∧ r.sources.lookup "motd" = none := by
  constructor
  · rw [Announces, hdisabled] at hannounces
    simpa using hannounces
  · refine h.lookup_eq_none ?_
    rw [hdisabled]
    cases r.config.enableTcpRelay <;> decide

theorem Resolving.scalar {α : Type} (h : Resolving data r records ports summary) (o : Scalar α)
    {wrap : α → Value} (hwrap : ∀ v a, o.kind.read v = some a ↔ v = wrap a) {field : α}
    (hfield : field = (o.chosen data).value)
    (ho : o.looked data ∈ looked data (ports.map Prod.snd)) :
    Provenance wrap id data r.sources o.name o.default field := by
  rw [hfield]
  exact o.provenance hwrap (h.lookup_eq ho)

end Faithful

/-- A configuration that was resolved holds what the settings give for each option, or else its
default, and its sources, the warnings and the summary tell which. -/
theorem resolve_faithful {data : Table} {r : Resolved} {records : List Record}
    (h : (resolve data).run [] = (.ok r, records)) : Faithful data r records := by
  have hannounces : Announces r.config := resolve_announces data [] r records h
  obtain ⟨ports, summary, h⟩ := resolving_of_run h
  have hconfig := h.config
  exact {
    port := h.scalar .port integer_read (by rw [hconfig]; rfl) (by simp [looked])
    pidFilePath := h.scalar .pidFilePath string_read (by rw [hconfig]; rfl) (by simp [looked])
    keysFilePath := h.scalar .keysFilePath string_read (by rw [hconfig]; rfl) (by simp [looked])
    enableIpv6 := h.scalar .enableIpv6 boolean_read (by rw [hconfig]; rfl) (by simp [looked])
    enableIpv4Fallback :=
      h.scalar .enableIpv4Fallback boolean_read (by rw [hconfig]; rfl) (by simp [looked])
    enableLanDiscovery :=
      h.scalar .enableLanDiscovery boolean_read (by rw [hconfig]; rfl) (by simp [looked])
    enableTcpRelay :=
      h.scalar .enableTcpRelay boolean_read (by rw [hconfig]; rfl) (by simp [looked])
    enableMotd := h.scalar .enableMotd boolean_read (by rw [hconfig]; rfl) (by simp [looked])
    motd := h.motd
    motdOff := h.motd_off hannounces
    relay := h.relay_on
    relayOff := h.relay_off
    names := h.names
    defaults := h.defaults
    summary := fun name origin => h.shows hannounces
    others := fun data' => resolve_congr }

theorem resolve_faithful_mixed :
    let data : Table := [("port", .bool true), ("enable_motd", .bool true), ("motd", .str "hi"),
      ("enable_tcp_relay", .bool false), ("bootstrap_nodes", .list [])]
    ∃ r records, (resolve data).run [] = (.ok r, records) ∧ Faithful data r records
      ∧ r.config.port = 33445 ∧ r.sources.lookup "port" = some .default
      ∧ r.config.motd = some "hi" ∧ r.sources.lookup "motd" = some .configured
      ∧ r.config.tcpRelayPorts = [] := by
  intro data
  have hreturns : ((resolve data).run []).1.isOk = true := by decide +kernel
  rcases hrun : (resolve data).run [] with ⟨e | r, records⟩
  · rw [hrun] at hreturns
    cases hreturns
  have hfaithful := resolve_faithful hrun
  have hport := hfaithful.port.2 fun n hfound => by cases hfound
  have hmotd := (hfaithful.motd (hfaithful.enableMotd.1 true rfl).1).1 "hi" rfl
  have hrelay := hfaithful.relayOff (hfaithful.enableTcpRelay.1 false rfl).1
  have hclamp : Motd.clamp "hi" = "hi" := by decide
  exact ⟨r, records, rfl, hfaithful, hport.1, hport.2, hmotd.1.trans (congrArg some hclamp),
    hmotd.2, hrelay.1⟩

end SeedNode.Config

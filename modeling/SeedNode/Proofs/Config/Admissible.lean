import SeedNode.Proofs.Config.RelayPorts

/-!
# Settings that can be used

A configuration that was resolved can be used where its port is in range and, if the relay is
enabled, there are ports for it. Both can be told from the settings, and not just from whether they
are well formed: a port of the wrong kind is replaced, one out of range is kept and refused; only a
truth value turns the relay off; and ports of the relay that are none at all are refused just where
they would be read (`validate_resolved`).
-/

namespace SeedNode.Config

variable {data : Table} {r : Resolved} {records told summary : List Record} {ports : List Int}

/-! ## What the settings say -/

/-- The port is missing, of another kind, or in range. -/
def UsablePort (data : Table) : Prop :=
  ∀ n, data.lookup "port" = some (.int n) → 1 ≤ n ∧ n ≤ 65535

/-- Nothing is said of the ports of the relay, or they are a list and some element stands for a port
in range. -/
def OffersPorts (data : Table) : Prop :=
  data.lookup "tcp_relay_ports" = none
    ∨ ∃ values, data.lookup "tcp_relay_ports" = some (.list values)
      ∧ ∃ v ∈ values, ∃ n, StandsFor v n ∧ 1 ≤ n ∧ n ≤ 65535

/-- The relay is turned off, or there are ports for it. -/
def UsableRelay (data : Table) : Prop :=
  data.lookup "enable_tcp_relay" = some (.bool false) ∨ OffersPorts data

/-! ## What is resolved -/

theorem port_in_range_iff (data : Table) :
    (1 ≤ (Scalar.port.chosen data).value ∧ (Scalar.port.chosen data).value ≤ 65535)
      ↔ UsablePort data := by
  rcases Scalar.port.value_cases integer_read data with ⟨n, hfound, hn⟩ | ⟨hnone, hdefault⟩
  · rw [hn]
    constructor
    · intro hrange m hm
      obtain rfl := Value.int.inj (Option.some.inj (hfound.symm.trans hm))
      exact hrange
    · exact fun h => h n hfound
  · rw [hdefault]
    have hrange : 1 ≤ Scalar.port.default ∧ Scalar.port.default ≤ 65535 := by decide
    exact iff_of_true hrange fun n hfound => absurd hfound (hnone n)

theorem filterMap_port?_ne_nil {values : List Value} :
    values.filterMap port? ≠ [] ↔ ∃ v ∈ values, ∃ n, StandsFor v n ∧ 1 ≤ n ∧ n ≤ 65535 := by
  rw [Ne, List.filterMap_eq_nil_iff]
  push Not
  simp only [Option.ne_none_iff_exists', port?_eq_some]

/-- Ports of the relay that were read are some just where the settings offer any. -/
theorem relayPorts_ne_nil (h : (relayPorts data).run [] = (.ok ports, told)) :
    ports ≠ [] ↔ OffersPorts data := by
  have hread := congrArg Prod.fst h
  cases hfound : data.lookup "tcp_relay_ports" with
  | none =>
      rw [run_relayPorts_of_missing hfound] at hread
      obtain rfl := Except.ok.inj hread
      exact iff_of_true (by decide) (.inl hfound)
  | some v =>
      have hoffers : OffersPorts data ↔ ∃ values, v = .list values
          ∧ ∃ v ∈ values, ∃ n, StandsFor v n ∧ 1 ≤ n ∧ n ≤ 65535 := by
        simp [OffersPorts, hfound]
      rw [hoffers]
      by_cases hlist : ∃ first rest, v = .list (first :: rest)
      · obtain ⟨first, rest, rfl⟩ := hlist
        have hbreaks := relayPorts_breaks data []
        rw [hread] at hbreaks
        have hshort : ¬HasLong (first :: rest) :=
          fun hlong => hbreaks.not_of_ok ⟨_, hfound, hlong⟩
        rw [run_relayPorts hfound (List.cons_ne_nil _ _) hshort] at hread
        obtain rfl := Except.ok.inj hread
        rw [filterMap_port?_ne_nil]
        simp
      · push Not at hlist
        rw [run_relayPorts_of_no_elements hfound hlist] at hread
        obtain rfl := Except.ok.inj hread
        refine iff_of_false (not_not_intro rfl) ?_
        rintro ⟨values, rfl, v, hv, -⟩
        obtain ⟨first, rest, rfl⟩ := List.exists_cons_of_ne_nil (List.ne_nil_of_mem hv)
        exact hlist first rest rfl

theorem Resolving.lacks_ports_iff {ports : Option (List Int × List Record)}
    (h : Resolving data r records ports summary) :
    r.config.enableTcpRelay = true ∧ r.config.tcpRelayPorts = [] ↔ ¬UsableRelay data := by
  have henabled : r.config.enableTcpRelay = (Scalar.enableTcpRelay.chosen data).value := by
    rw [h.config]
    rfl
  unfold UsableRelay
  rw [not_or, ← ne_eq, ← relay_enabled, ← henabled]
  refine and_congr_right fun hon => ?_
  obtain ⟨⟨told, hread⟩, -⟩ := h.relay_on hon
  rw [← relayPorts_ne_nil hread, not_not]

/-- Whether a configuration that was resolved can be used, and what is wrong with it if it cannot,
the port being looked at first. -/
theorem validate_resolved (h : (resolve data).run [] = (.ok r, records)) :
    (UsablePort data → UsableRelay data → r.config.validate = .ok ())
      ∧ (UsablePort data → ¬UsableRelay data →
        r.config.validate = .error (DaemonConfig.failed "No TCP relay ports read"))
      ∧ ∀ n, data.lookup "port" = some (.int n) → ¬(1 ≤ n ∧ n ≤ 65535) →
        r.config.validate
          = .error (DaemonConfig.failed s!"Invalid 'port': {n}, should be in [1, 65535]") := by
  have hwritable := writable_of_resolved h
  obtain ⟨ports, summary, hresolving⟩ := resolving_of_run h
  have hport : r.config.port = (Scalar.port.chosen data).value := by
    rw [hresolving.config]
    rfl
  have hlacks := hresolving.lacks_ports_iff
  have hrange := port_in_range_iff data
  rw [← hport] at hrange
  refine ⟨fun husable hrelay => ?_, fun husable hrelay => ?_, fun n hfound hn => ?_⟩
  · rw [validate_of_port (hrange.mpr husable), if_neg fun hnone => hlacks.mp hnone hrelay]
  · rw [validate_of_port (hrange.mpr husable), if_pos (hlacks.mpr hrelay)]
  · have hsame : r.config.port = n := by
      rw [hport, Scalar.port.chosen_of_lookup integer_read hfound]
    rw [← hsame] at hn ⊢
    exact validate_of_port_out_of_range hwritable hn

theorem validate_eq_ok_iff (h : (resolve data).run [] = (.ok r, records)) :
    r.config.validate = .ok () ↔ UsablePort data ∧ UsableRelay data := by
  obtain ⟨husable, hnone, hout⟩ := validate_resolved h
  constructor
  · intro hvalid
    have hport : UsablePort data := by
      intro n hfound
      by_contra hn
      cases (hout n hfound hn).symm.trans hvalid
    refine ⟨hport, ?_⟩
    by_contra hrelay
    cases (hnone hport hrelay).symm.trans hvalid
  · exact fun ⟨hport, hrelay⟩ => husable hport hrelay

end SeedNode.Config

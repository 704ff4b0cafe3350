import SeedNode.Proofs.Config.Provenance
import SeedNode.Proofs.Numeric.Writing
import SeedNode.Proofs.Toml.Limits

/-!
# Configurations with integers too long to be written

A value that cannot be used should be told of and replaced or skipped. The telling writes it out,
and an integer over the limit on digits cannot be written: then the failure is not about the value
but ends the reading of the settings. That happens to just two kinds of values, the port of the
node and integers among the ports of the relay where that is enabled (`resolve_breaks`). Documents
that hold them are read all the same (`resolve_of_long_document`).
-/

namespace SeedNode

/-- Why nothing came of an integer too long to be written. -/
def overlong : Failure :=
  .fault (.tooLong ⟨none⟩)

/-- The outcome is a failure just if `p`, and only over an integer too long to be written. -/
inductive TooLongIff {α : Type} (p : Prop) : Except Failure α → Prop
  | ok (a : α) (h : ¬p) : TooLongIff p (.ok a)
  | error (h : p) : TooLongIff p (.error overlong)

namespace TooLongIff

variable {α : Type} {p q : Prop} {r : Except Failure α}

theorem ok_of_not (h : TooLongIff p r) (hp : ¬p) : ∃ a, r = .ok a := by
  cases h with
  | ok a _ => exact ⟨a, rfl⟩
  | error h => exact absurd h hp

theorem error_of (h : TooLongIff p r) (hp : p) : r = .error overlong := by
  cases h with
  | ok a h => exact absurd hp h
  | error _ => rfl

theorem not_of_ok {a : α} (h : TooLongIff p (.ok a)) : ¬p := by
  cases h
  assumption

theorem congr (h : TooLongIff p r) (hpq : p ↔ q) : TooLongIff q r := by
  rwa [← propext hpq]

end TooLongIff

/-! ## Ports -/

namespace Port

theorem isValid_iff {n : Int} : isValid n = true ↔ 1 ≤ n ∧ n ≤ 65535 := by
  rw [isValid, Bool.and_eq_true, decide_eq_true_eq, decide_eq_true_eq, least, greatest]

theorem writable_of_isValid {n : Int} (h : isValid n = true) : Writable n := by
  have hsmall : n.natAbs < Nat.pow 10 5 := by
    rw [isValid_iff] at h
    have hlimit : Nat.pow 10 5 = 100000 := rfl
    omega
  exact writable_of_natAbs_lt (by decide) hsmall

theorem check_of_isValid {n : Int} (h : isValid n = true) (field : String) :
    check (.int n) field = .ok n := by
  rw [check, if_pos h]
  rfl

theorem check_of_writable {n : Int} (hvalid : ¬isValid n = true) (hn : Writable n)
    (field : String) :
    ∃ r, check (.int n) field = .error (.report r) ∧ r.stage = .value
      ∧ r.message = s!"Invalid '{field}': {n}, should be in [1, 65535]" := by
  rw [check, if_neg hvalid, decimalText_of_writable hn]
  simp only [liftTooLong, Report.aboutValue, Value.text, Value.quoted, decimalText_of_writable hn]
  exact ⟨_, rfl, rfl, String.append_assoc ..⟩

theorem check_of_not_writable {n : Int} (hn : ¬Writable n) (field : String) :
    check (.int n) field = .error overlong := by
  rw [check, if_neg fun h => hn (writable_of_isValid h), decimalText_of_not_writable hn]
  rfl

end Port

namespace Config

variable {α β : Type} {p q : Prop} {data : Table}

/-! ## Code that makes records -/

/-- Whatever records there were before, the code fails just if `p`, and only over an integer too
long to be written. -/
def Breaks (p : Prop) (x : LogM α) : Prop :=
  ∀ records, TooLongIff p (x.run records).1

namespace Breaks

theorem pure (a : α) : Breaks False (Pure.pure a : LogM α) := fun _ => .ok a not_false

theorem note (level : Level) (source message : String) :
    Breaks False (LogM.note level source message) := fun _ => .ok () not_false

theorem bind {x : LogM α} {f : α → LogM β} (hx : Breaks p x) (hf : ∀ a, Breaks q (f a)) :
    Breaks (p ∨ q) (x >>= f) := by
  intro records
  have h := hx records
  rw [run_bind]
  rcases hrun : x.run records with ⟨r, t⟩
  rw [hrun] at h
  cases h with
  | ok a hp => exact (hf a t).congr (or_iff_right hp).symm
  | error hp => exact .error (.inl hp)

theorem congr {x : LogM α} (hx : Breaks p x) (h : p ↔ q) : Breaks q x :=
  fun records => (hx records).congr h

/-- Code that cannot break does not matter before other code. -/
theorem andThen {x : LogM α} {f : α → LogM β} (hx : Breaks False x) (hf : ∀ a, Breaks q (f a)) :
    Breaks q (x >>= f) :=
  (hx.bind hf).congr (by simp)

/-- Looking an option up does not break, and what it comes to is known. -/
theorem lookup (o : Scalar α) {f : Chosen α → LogM β} (hf : Breaks q (f (o.chosen data))) :
    Breaks q (Config.lookup o.kind data o.name o.default >>= f) := by
  intro records
  rw [run_bind_of_ok (o.run_lookup data records)]
  exact hf _

theorem map (g : α → β) {x : LogM α} (hx : Breaks p x) : Breaks p (g <$> x) := by
  intro records
  have h := hx records
  rw [run_map]
  rcases hrun : x.run records with ⟨r, t⟩
  rw [hrun] at h
  cases h with
  | ok a hp => exact .ok (g a) hp
  | error hp => exact .error hp

/-- Code that is run only where it is enabled breaks only there. -/
theorem gated {enabled : Bool} {x : LogM α} {f : Option α → LogM β} (hx : Breaks p x)
    (hf : ∀ o, Breaks q (f o)) :
    Breaks (enabled = true ∧ p ∨ q)
      (if enabled = true then some <$> x >>= f else Pure.pure none >>= f) := by
  cases enabled with
  | false => exact (hf none).congr (by simp)
  | true => exact ((hx.map some).bind hf).congr (by simp)

theorem gatedFound {enabled : Bool} (o : Scalar α) {f : Option (Chosen α) → LogM β}
    (hf : ∀ c, Breaks q (f c)) :
    Breaks q (if enabled = true then some <$> Config.lookup o.kind data o.name o.default >>= f
      else Pure.pure none >>= f) := by
  have hfound : Breaks False (Config.lookup o.kind data o.name o.default) := by
    intro records
    rw [o.run_lookup data records]
    exact .ok _ not_false
  exact (hfound.gated hf).congr (by simp)

end Breaks

/-! ## The ports of the relay -/

/-- An integer too long to be written is among the values. -/
def HasLong (values : List Value) : Prop :=
  ∃ n, .int n ∈ values ∧ ¬Writable n

theorem portOf_int (n : Int) : TooLongIff (¬Writable n) (portOf (.int n)) := by
  by_cases hn : Writable n
  · by_cases hvalid : Port.isValid n = true
    · simp only [portOf, Port.check_of_isValid hvalid]
      exact .ok _ (not_not_intro hn)
    · obtain ⟨r, hcheck, -⟩ := Port.check_of_writable hvalid hn "tcp_relay_ports"
      simp only [portOf, hcheck]
      exact .ok _ (not_not_intro hn)
  · simp only [portOf, Port.check_of_not_writable hn]
    exact .error hn

/-- Only an integer can keep a value of the list from being told of. -/
theorem portOf_tooLongIff (v : Value) :
    TooLongIff (∃ n, v = .int n ∧ ¬Writable n) (portOf v) := by
  cases v with
  | int n => exact (portOf_int n).congr (by simp)
  | float x =>
      have hnot : ¬∃ n, Value.float x = .int n ∧ ¬Writable n := by simp
      cases hx : (Value.float x).integer? with
      | none =>
          simp only [portOf, hx]
          exact .ok _ hnot
      | some n =>
          obtain ⟨r, hr⟩ := (portOf_int n).ok_of_not (not_not_intro (writable_of_float hx))
          simp only [portOf] at hr
          simp only [portOf, hx, hr]
          exact .ok r hnot
  | _ => exact .ok _ (by simp)

theorem hasLong_cons (v : Value) (rest : List Value) :
    HasLong (v :: rest) ↔ (∃ n, v = .int n ∧ ¬Writable n) ∨ HasLong rest := by
  simp only [HasLong, List.mem_cons, or_and_right, exists_or, eq_comm]

theorem collectPorts_breaks : ∀ (values : List Value) (i : Nat),
    Breaks (HasLong values) (collectPorts i values)
  | [], _ => (Breaks.pure []).congr (by simp [HasLong])
  | v :: rest, i => by
      have hv := portOf_tooLongIff v
      rw [collectPorts]
      cases hport : portOf v with
      | error e =>
          rw [hport] at hv
          intro records
          cases hv with
          | error hlong => exact .error ((hasLong_cons v rest).mpr (.inl hlong))
      | ok r =>
          rw [hport] at hv
          have hrest : HasLong rest ↔ HasLong (v :: rest) := by
            rw [hasLong_cons, or_iff_right hv.not_of_ok]
          cases r with
          | ok port =>
              exact ((collectPorts_breaks rest (i + 1)).bind fun ports => .pure _).congr
                (by rw [or_false, hrest])
          | error reason =>
              exact (Breaks.andThen (.note _ _ _) fun _ =>
                collectPorts_breaks rest (i + 1)).congr hrest

theorem informPorts_breaks : ∀ (ports : List Int) (i : Nat), Breaks False (informPorts i ports)
  | [], _ => .pure ()
  | _ :: rest, i => .andThen (.note _ _ _) fun _ => informPorts_breaks rest (i + 1)

/-- An integer too long to be written is among the ports of the relay. -/
def HasLongRelayPort (data : Table) : Prop :=
  ∃ values, data.lookup "tcp_relay_ports" = some (.list values) ∧ HasLong values

theorem not_hasLong_default : ¬HasLong (DaemonConfig.default.tcpRelayPorts.map .int) := by
  rintro ⟨n, hmem, hn⟩
  obtain ⟨port, hport, hint⟩ := List.mem_map.mp hmem
  obtain rfl := Value.int.inj hint
  have hvalid : ∀ port ∈ DaemonConfig.default.tcpRelayPorts, Port.isValid port = true := by decide
  exact hn (Port.writable_of_isValid (hvalid port hport))

theorem relayPorts_breaks (data : Table) : Breaks (HasLongRelayPort data) (relayPorts data) := by
  rw [relayPorts]
  split
  case h_1 hfound =>
    refine .andThen (.note _ _ _) fun _ => .andThen (.note _ _ _) fun _ =>
      .andThen (informPorts_breaks _ 0) fun _ => (collectPorts_breaks _ 0).congr ?_
    exact iff_of_false not_hasLong_default (by simp [HasLongRelayPort, hfound])
  case h_2 hfound =>
    refine .andThen (.note _ _ _) fun _ => (Breaks.pure _).congr ?_
    simp [HasLongRelayPort, hfound, HasLong]
  case h_3 values _ hfound =>
    refine (collectPorts_breaks values 0).congr ?_
    simp [HasLongRelayPort, hfound]
  case h_4 v _ hnot hfound =>
    refine .andThen (.note _ _ _) fun _ => (Breaks.pure _).congr (iff_of_false not_false ?_)
    rintro ⟨values, hvalues, -⟩
    exact hnot values (Option.some.inj (hfound.symm.trans hvalues))

/-! ## The whole configuration -/

theorem summaryLine_of_ok {kind : OptionKind α} {value : α} {text : String}
    (h : kind.text value = .ok text) (sources : Sources) (name : String) :
    Breaks False (summaryLine kind sources name value) := by
  rw [summaryLine, h]
  exact .andThen (.pure text) fun _ => .note _ _ _

theorem summaryLine_integer (sources : Sources) (name : String) (n : Int) :
    Breaks (¬Writable n) (summaryLine .integer sources name n) := by
  have htext : OptionKind.integer.text n = decimalText n := by dsimp only [OptionKind.integer]
  by_cases hn : Writable n
  · rw [decimalText_of_writable hn] at htext
    exact (summaryLine_of_ok htext sources name).congr (iff_of_false not_false (not_not_intro hn))
  · rw [decimalText_of_not_writable hn] at htext
    intro records
    rw [summaryLine, htext]
    exact .error hn

theorem logSummary_breaks (r : Resolved) : Breaks (¬Writable r.config.port) (logSummary r) := by
  have hboolean : ∀ (name : String) (b : Bool),
      Breaks False (summaryLine .boolean r.sources name b) :=
    fun name b => summaryLine_of_ok rfl r.sources name
  have hstring : ∀ name text : String, Breaks False (summaryLine .string r.sources name text) :=
    fun name text => summaryLine_of_ok rfl r.sources name
  have hport := summaryLine_integer r.sources "port" r.config.port
  rw [logSummary]
  refine .andThen (.note _ _ _) fun _ => .andThen (hstring _ _) fun _ =>
    .andThen (hstring _ _) fun _ => (hport.bind fun _ => ?_).congr (Iff.of_eq (or_false _))
  refine .andThen (hboolean _ _) fun _ => .andThen (hboolean _ _) fun _ =>
    .andThen (hboolean _ _) fun _ => .andThen (hboolean _ _) fun _ => ?_
  dsimp only
  split
  case' isTrue => split
  case' isTrue.isTrue => refine .andThen (.note _ _ _) fun _ => ?_
  case' isTrue.isFalse =>
    refine .andThen (.note _ _ _) fun _ => .andThen (informPorts_breaks _ 0) fun _ => ?_
  -- The message of the day comes last, however the ports of the relay are shown.
  all_goals
    refine .andThen (hboolean _ _) fun _ => ?_
    split
    case h_1 motd _ =>
      split
      · exact hstring "motd" motd
      · exact .pure ()
    case h_2 => exact .pure ()

/-- An integer too long to be written is the port of the node, or among the ports of the relay that
is not turned off. -/
def HasLongPort (data : Table) : Prop :=
  (∃ n, data.lookup "port" = some (.int n) ∧ ¬Writable n)
    ∨ data.lookup "enable_tcp_relay" ≠ some (.bool false) ∧ HasLongRelayPort data

/-- The value of an option is the one in the settings table, or the default if there is none of the
right kind. -/
theorem Scalar.value_cases (o : Scalar α) {wrap : α → Value}
    (hwrap : ∀ v a, o.kind.read v = some a ↔ v = wrap a) (data : Table) :
    (∃ a, data.lookup o.name = some (wrap a) ∧ (o.chosen data).value = a)
      ∨ (∀ a, data.lookup o.name ≠ some (wrap a)) ∧ (o.chosen data).value = o.default := by
  rw [chosen]
  cases hread : (data.lookup o.name).bind o.kind.read with
  | some a =>
      obtain ⟨v, hfound, hv⟩ := Option.bind_eq_some_iff.mp hread
      exact .inl ⟨a, (hwrap v a).mp hv ▸ hfound, rfl⟩
  | none =>
      refine .inr ⟨fun a hfound => ?_, rfl⟩
      rw [hfound, Option.bind_some, (hwrap _ a).mpr rfl] at hread
      cases hread

theorem not_writable_port (data : Table) : ¬Writable (Scalar.port.chosen data).value ↔
    ∃ n, data.lookup "port" = some (.int n) ∧ ¬Writable n := by
  obtain ⟨n, hfound, hn⟩ | ⟨hnone, hdefault⟩ := Scalar.port.value_cases integer_read data
  · have hfound : data.lookup "port" = some (.int n) := hfound
    simp [hfound, hn]
  · have hvalid : Port.isValid Scalar.port.default = true := by decide
    rw [hdefault]
    exact iff_of_false (not_not_intro (Port.writable_of_isValid hvalid))
      fun ⟨n, hfound, _⟩ => hnone n hfound

theorem relay_enabled (data : Table) : (Scalar.enableTcpRelay.chosen data).value = true ↔
    data.lookup "enable_tcp_relay" ≠ some (.bool false) := by
  obtain ⟨b, hfound, hb⟩ | ⟨hnone, hdefault⟩ := Scalar.enableTcpRelay.value_cases boolean_read data
  · have hfound : data.lookup "enable_tcp_relay" = some (.bool b) := hfound
    simp [hfound, hb]
  · exact iff_of_true hdefault (hnone false)

/-- Resolving a settings table fails only over an integer too long to be written, and only in the
one place or the other. -/
theorem resolve_breaks (data : Table) : Breaks (HasLongPort data) (resolve data) := by
  have hports := relayPorts_breaks data
  have hlong : (Scalar.enableTcpRelay.chosen data).value = true ∧ HasLongRelayPort data
      ∨ ¬Writable (Scalar.port.chosen data).value ↔ HasLongPort data := by
    rw [HasLongPort, not_writable_port, relay_enabled, or_comm]
  refine Breaks.congr ?_ hlong
  rw [resolve]
  refine .lookup Scalar.port <| .lookup Scalar.pidFilePath <| .lookup Scalar.keysFilePath <|
    .lookup Scalar.enableIpv6 <| .lookup Scalar.enableIpv4Fallback <|
    .lookup Scalar.enableLanDiscovery <| .lookup Scalar.enableTcpRelay <|
    .gated hports fun ports => .lookup Scalar.enableMotd <|
    .gatedFound Scalar.motd fun motd => ?_
  exact ((logSummary_breaks _).bind fun _ => .pure _).congr (Iff.of_eq (or_false _))

theorem resolve_of_not_hasLongPort {data : Table} (h : ¬HasLongPort data) :
    ∃ r records, (resolve data).run [] = (.ok r, records) := by
  obtain ⟨r, hr⟩ := (resolve_breaks data []).ok_of_not h
  exact ⟨r, _, Prod.ext hr rfl⟩

/-- A document that sets the port to an integer of enough digits is read, and then breaks the
configuration. -/
theorem resolve_of_long_document {k : Nat} (hk : 100 ≤ k) :
    ∃ data, Toml.parse (Toml.hexadecimalLine (36 * k - 1)) = .ok data
      ∧ ((resolve data).run []).1 = .error overlong := by
  have hdigits : 36 * k - 1 + 1 = 36 * k := by omega
  have hparse := Toml.parse_hexadecimal (36 * k - 1)
  rw [hdigits] at hparse
  exact ⟨_, hparse, (resolve_breaks _ []).error_of (.inl ⟨_, rfl, not_writable_of_digits hk⟩)⟩

/-! ## Checking the configuration -/

theorem validate_of_port_out_of_range {c : DaemonConfig} (hwritable : Writable c.port)
    (h : ¬(1 ≤ c.port ∧ c.port ≤ 65535)) :
    c.validate
      = .error (DaemonConfig.failed s!"Invalid 'port': {c.port}, should be in [1, 65535]") := by
  obtain ⟨r, hcheck, hstage, hmessage⟩ :=
    Port.check_of_writable (fun hvalid => h (Port.isValid_iff.mp hvalid)) hwritable "port"
  rw [DaemonConfig.validate, hcheck]
  simp only [mapError_error, DaemonConfig.refile, if_pos hstage, hmessage]
  rfl

/-- Where the port is in range, all that is asked for are ports of a relay that is enabled. -/
theorem validate_of_port {c : DaemonConfig} (h : 1 ≤ c.port ∧ c.port ≤ 65535) :
    c.validate = if c.enableTcpRelay = true ∧ c.tcpRelayPorts = []
      then .error (DaemonConfig.failed "No TCP relay ports read") else .ok () := by
  rw [DaemonConfig.validate, Port.check_of_isValid (Port.isValid_iff.mpr h)]
  cases c.enableTcpRelay <;> cases c.tcpRelayPorts <;> rfl

/-- A configuration whose port can be written is found usable, or reported. -/
theorem validate_of_writable {c : DaemonConfig} (h : Writable c.port) :
    c.validate = .ok () ∨ ∃ message, c.validate = .error (DaemonConfig.failed message) := by
  by_cases hrange : 1 ≤ c.port ∧ c.port ≤ 65535
  · rw [validate_of_port hrange]
    split
    · exact .inr ⟨_, rfl⟩
    · exact .inl rfl
  · exact .inr ⟨_, validate_of_port_out_of_range h hrange⟩

/-- Nothing that was resolved has a port too long to be written. -/
theorem writable_of_resolved {r : Resolved} {records : List Record}
    (h : (resolve data).run [] = (.ok r, records)) : Writable r.config.port := by
  obtain ⟨ports, summary, hresolving⟩ := resolving_of_run h
  have hbreaks := resolve_breaks data []
  rw [h] at hbreaks
  rw [hresolving.config]
  by_cases hport : Writable (Scalar.port.chosen data).value
  · exact hport
  · exact absurd (.inl ((not_writable_port data).mp hport)) hbreaks.not_of_ok

end Config

end SeedNode

import SeedNode.Proofs.Config.Provenance
import SeedNode.Proofs.Config.RelayPorts
import SeedNode.Proofs.Log.SingleLines

/-!
# Settings in the log

The summary of a configuration shows the paths and the message of the day as they are
(`shownTexts`). All else that is logged on the way is made of names, kinds of values and numbers, so
without a line break in these texts every record is a single line (`resolve_tidy`). A configuration
that is returned has shown them all (`resolve_repeats`).
-/

namespace SeedNode.Config

variable {α β : Type} {data : Table} {message : String}

/-! ## Code that makes records -/

theorem tidy_noted (level : Level) (h : Unbroken message) :
    AddsRecords Record.Tidy (LogM.note level source message) :=
  .note ((Record.tidy_iff rfl).mpr h)

/-- What comes after code need only be known for what the code can return. -/
theorem AddsRecords.bind_returned {P : Record → Prop} {x : LogM α} {f : α → LogM β}
    (hx : AddsRecords P x) (hf : ∀ a, (∃ s t, x.run s = (.ok a, t)) → AddsRecords P (f a)) :
    AddsRecords P (x >>= f) := by
  obtain ⟨result, told, hrun, htold⟩ := hx
  cases result with
  | error e => exact ⟨.error e, told, fun records => run_bind_of_error (hrun records) f, htold⟩
  | ok a =>
      obtain ⟨result, later, hrest, hlater⟩ := hf a ⟨[], _, hrun []⟩
      refine ⟨result, told ++ later, fun records => ?_, fun r hr => ?_⟩
      · rw [run_bind_of_ok (hrun records), hrest, List.append_assoc]
      · exact (List.mem_append.mp hr).elim (htold r) (hlater r)

/-- Code that is run only where it is enabled; what comes after it need only be known for what can
come out of that. -/
theorem AddsRecords.gated {P : Record → Prop} (Q : Option α → Prop) {enabled : Bool} {x : LogM α}
    {f : Option α → LogM β} (hx : AddsRecords P x)
    (hsome : enabled = true → ∀ a, (∃ s t, x.run s = (.ok a, t)) → Q (some a))
    (hnone : enabled = false → Q none) (hf : ∀ o, Q o → AddsRecords P (f o)) :
    AddsRecords P (if enabled = true then some <$> x >>= f else Pure.pure none >>= f) := by
  cases enabled with
  | false => exact hf none (hnone rfl)
  | true =>
      rw [if_pos rfl, bind_map_left]
      exact .bind_returned hx fun a ha => hf _ (hsome rfl a ha)

/-! ## Options -/

/-- No text about the option has a line break. -/
def Scalar.Tidy (o : Scalar α) : Prop :=
  Unbroken o.name ∧ Unbroken o.text ∧ Unbroken o.kind.called

instance (o : Scalar α) : Decidable o.Tidy :=
  inferInstanceAs (Decidable (_ ∧ _))

theorem unbroken_kind (v : Value) : Unbroken v.kind := by
  have hkinds : ∀ kind ∈ ["NoneType", "bool", "int", "float", "str", "list", "dict", "datetime",
      "date", "time"], Unbroken kind := by decide
  refine hkinds _ ?_
  cases v <;> simp [Value.kind]

theorem Scalar.notices_tidy {o : Scalar α} (h : o.Tidy) (data : Table) :
    ∀ r ∈ o.notices data, r.Tidy := by
  obtain ⟨hname, htext, hcalled⟩ := h
  have hmissing : (missing o.name).Tidy :=
    (Record.tidy_iff rfl).mpr (.append (.append (by decide) hname) (by decide))
  have hdefaulted : (defaulted o.name o.text).Tidy :=
    (Record.tidy_iff rfl).mpr (.append (.append (.append (by decide) hname) (by decide)) htext)
  have hmisfit : ∀ v : Value, (misfit o.name o.kind.called v.kind).Tidy := fun v =>
    (Record.tidy_iff rfl).mpr (.append (.append (.append (.append (.append (.append (by decide)
      hname) (by decide)) hcalled) (by decide)) (unbroken_kind v)) (by decide))
  rw [notices]
  split
  · exact List.forall_mem_cons.mpr ⟨hmissing, List.forall_mem_singleton.mpr hdefaulted⟩
  split
  · exact List.forall_mem_nil _
  · exact List.forall_mem_cons.mpr ⟨hmisfit _, List.forall_mem_singleton.mpr hdefaulted⟩

theorem lookup_tidy {o : Scalar α} (h : o.Tidy) (data : Table) :
    AddsRecords Record.Tidy (lookup o.kind data o.name o.default) :=
  ⟨_, _, o.run_lookup data, o.notices_tidy h data⟩

theorem looked_tidy (o : Scalar α) (h : o.Tidy) {f : Chosen α → LogM β}
    (hf : AddsRecords Record.Tidy (f (o.chosen data))) :
    AddsRecords Record.Tidy (lookup o.kind data o.name o.default >>= f) := by
  refine .bind_returned (lookup_tidy h data) ?_
  rintro c ⟨s, t, hrun⟩
  obtain ⟨rfl, -⟩ := o.of_run_lookup hrun
  exact hf

/-! ## Ports of the relay -/

theorem Refused.unbroken {v : Value} {reason : String} (h : Refused v reason) :
    Unbroken reason := by
  cases h with
  | notNumber => decide
  | notIntegral => exact .append (by decide) (unbroken_float _)
  | @outOfRange _ n => exact .append (.append (by decide) (unbroken_int n)) (by decide)

theorem unbroken_of_portOf {v : Value} {reason : String} (h : portOf v = .ok (.error reason)) :
    Unbroken reason := by
  rcases portOf_cases (writable_of_portOf h) with ⟨port, hport, -⟩ | ⟨other, hother, hrefused⟩
  · cases h.symm.trans hport
  · obtain rfl := Except.error.inj (Except.ok.inj (h.symm.trans hother))
    exact hrefused.unbroken

theorem collectPorts_tidy : ∀ (values : List Value) (i : Nat),
    AddsRecords Record.Tidy (collectPorts i values)
  | [], _ => .pure []
  | v :: rest, i => by
      rw [collectPorts]
      split
      · exact .throw _
      · exact .bind (collectPorts_tidy rest (i + 1)) fun ports => .pure _
      · have hreason := unbroken_of_portOf ‹_›
        refine .bind (tidy_noted _ ?_) fun _ => collectPorts_tidy rest (i + 1)
        exact .append (.append (.append (.append (by decide) (unbroken_nat i)) (by decide)) hreason)
          (by decide)

theorem informPorts_tidy : ∀ (ports : List Int) (i : Nat),
    AddsRecords Record.Tidy (informPorts i ports)
  | [], _ => .pure ()
  | port :: rest, i => by
      refine .bind (tidy_noted _ ?_) fun _ => informPorts_tidy rest (i + 1)
      exact .append (.append (.append (by decide) (unbroken_nat i)) (by decide)) (unbroken_int port)

theorem relayPorts_tidy (data : Table) : AddsRecords Record.Tidy (relayPorts data) := by
  rw [relayPorts]
  split
  · exact .bind (tidy_noted _ (by decide)) fun _ => .bind (tidy_noted _ (by decide)) fun _ =>
      .bind (informPorts_tidy _ 0) fun _ => collectPorts_tidy _ 0
  · exact .bind (tidy_noted _ (by decide)) fun _ => .pure _
  · exact collectPorts_tidy _ 0
  · exact .bind (tidy_noted _ (by decide)) fun _ => .pure _

/-! ## The summary -/

/-- The texts of a configuration that its summary shows as they are. -/
def textsOf (c : DaemonConfig) : List String :=
  [c.pidFilePath, c.keysFilePath] ++ if c.enableMotd then c.motd.toList else []

theorem summaryLine_tidy {kind : OptionKind α} {sources : Sources} {name : String} {value : α}
    (hname : Unbroken name) (htext : ∀ text, kind.text value = .ok text → Unbroken text) :
    AddsRecords Record.Tidy (summaryLine kind sources name value) := by
  have hsource : ∀ origin : OptionSource, Unbroken origin.name := by
    intro origin
    cases origin <;> decide
  rw [summaryLine]
  cases hshown : kind.text value with
  | error e => exact .throw _
  | ok text =>
      refine tidy_noted _ ?_
      exact .append (.append (.append (.append (.append (.append (by decide) hname) (by decide))
        (htext text hshown)) (by decide)) (hsource _)) (by decide)

theorem shows_string {sources : Sources} {name text : String} (hname : Unbroken name)
    (h : Unbroken text) : AddsRecords Record.Tidy (summaryLine .string sources name text) :=
  summaryLine_tidy hname fun _ hshown => Except.ok.inj hshown ▸ h

theorem shows_boolean {sources : Sources} {name : String} (hname : Unbroken name) (b : Bool) :
    AddsRecords Record.Tidy (summaryLine .boolean sources name b) := by
  refine summaryLine_tidy hname fun text hshown => ?_
  rw [← Except.ok.inj hshown]
  cases b <;> decide

theorem shows_integer {sources : Sources} {name : String} (hname : Unbroken name) (n : Int) :
    AddsRecords Record.Tidy (summaryLine .integer sources name n) := by
  refine summaryLine_tidy hname fun text hshown => ?_
  simp only [OptionKind.integer] at hshown
  exact unbroken_decimalText hshown

theorem logSummary_tidy {r : Resolved} (h : ∀ text ∈ textsOf r.config, Unbroken text) :
    AddsRecords Record.Tidy (logSummary r) := by
  have hpid : Unbroken r.config.pidFilePath := h _ (by simp [textsOf])
  have hkeys : Unbroken r.config.keysFilePath := h _ (by simp [textsOf])
  rw [logSummary]
  refine .bind (tidy_noted _ (by decide)) fun _ => ?_
  refine .bind (shows_string (by decide) hpid) fun _ => ?_
  refine .bind (shows_string (by decide) hkeys) fun _ => ?_
  refine .bind (shows_integer (by decide) _) fun _ => ?_
  refine .bind (shows_boolean (by decide) _) fun _ => ?_
  refine .bind (shows_boolean (by decide) _) fun _ => ?_
  refine .bind (shows_boolean (by decide) _) fun _ => ?_
  refine .bind (shows_boolean (by decide) _) fun _ => ?_
  dsimp only
  split
  case' isTrue => split
  case' isTrue.isTrue => refine .bind (tidy_noted _ (by decide)) fun _ => ?_
  case' isTrue.isFalse =>
    refine .bind (tidy_noted _ ?_) fun _ => .bind (informPorts_tidy _ 0) fun _ => ?_
    · exact .append (.append (by decide) (unbroken_nat _)) (by decide)
  -- What is left in each case is the message of the day.
  all_goals
    refine .bind (shows_boolean (by decide) _) fun _ => ?_
    split
    · split
      · refine shows_string (by decide) (h _ ?_)
        simp [textsOf, *]
      · exact .pure ()
    · exact .pure ()

/-! ## The whole configuration -/

/-- The texts of a settings table that are shown as they are: the paths, and the message of the day
as far as it is sent, if it is. -/
def shownTexts (data : Table) : List String :=
  textsOf (assembled data none)

theorem textsOf_assembled (data : Table) (ports : Option (List Int)) :
    textsOf (assembled data ports) = shownTexts data := rfl

theorem resolve_tidy (h : ∀ text ∈ shownTexts data, Unbroken text) :
    AddsRecords Record.Tidy (resolve data) := by
  rw [resolve]
  refine looked_tidy .port (by decide) ?_
  refine looked_tidy .pidFilePath (by decide) ?_
  refine looked_tidy .keysFilePath (by decide) ?_
  refine looked_tidy .enableIpv6 (by decide) ?_
  refine looked_tidy .enableIpv4Fallback (by decide) ?_
  refine looked_tidy .enableLanDiscovery (by decide) ?_
  refine looked_tidy .enableTcpRelay (by decide) ?_
  refine .gated (fun _ => True) (relayPorts_tidy data) (fun _ _ _ => trivial) (fun _ => trivial)
    fun ports _ => ?_
  refine looked_tidy .enableMotd (by decide) ?_
  refine .gated (· = announced data) (@lookup_tidy _ .motd (by decide) data) ?_ ?_ ?_
  · rintro henabled c ⟨s, t, hrun⟩
    obtain ⟨rfl, -⟩ := Scalar.motd.of_run_lookup hrun
    rw [announced, if_pos henabled]
  · intro hdisabled
    rw [announced, hdisabled]
    rfl
  · rintro motd rfl
    exact .bind (logSummary_tidy h) fun _ => .pure _

theorem mem_shown {c : DaemonConfig} {text : String} (h : text ∈ textsOf c) :
    ∃ name, (name, .ok text) ∈ shown c := by
  rw [textsOf, List.mem_append, List.mem_pair] at h
  rcases h with (rfl | rfl) | h
  · exact ⟨"pid_file_path", by simp [shown, OptionKind.string]⟩
  · exact ⟨"keys_file_path", by simp [shown, OptionKind.string]⟩
  · refine ⟨"motd", ?_⟩
    split at h
    case isFalse => cases h
    case isTrue henabled =>
      rw [Option.mem_toList] at h
      simp [shown, shownMotd, henabled, h, OptionKind.string]

/-- A configuration that is returned has shown each of the texts on a line of its summary. -/
theorem shown_of_run {r : Resolved} {records : List Record} {text : String}
    (h : (resolve data).run [] = (.ok r, records)) (htext : text ∈ shownTexts data) :
    ∃ name origin, line name text origin ∈ records := by
  obtain ⟨ports, summary, hresolving⟩ := resolving_of_run h
  rw [← textsOf_assembled data (ports.map Prod.fst), ← hresolving.config] at htext
  obtain ⟨name, hshown⟩ := mem_shown htext
  obtain ⟨text, hsame, hfilter⟩ := filter_eq_singleton_of_lines hresolving.summary.lines
    (fun l hl => (shown_plain r.config).2 _ (List.mem_map_of_mem hl)) (shown_plain r.config).1
    hshown
  obtain rfl := Except.ok.inj hsame
  refine ⟨name, r.sources.of name, ?_⟩
  rw [hresolving.records]
  have hmem : line name text (r.sources.of name)
      ∈ (summary.filter isLine).filter (tellsValue name) :=
    hfilter ▸ List.mem_singleton_self _
  exact List.mem_append_right _ (List.mem_of_mem_filter (List.mem_of_mem_filter hmem))

theorem unbroken_of_line {name text : String} {origin : OptionSource}
    (h : (line name text origin).Tidy) : Unbroken text := by
  have hmessage : Unbroken (s!"'{name}': " ++ text ++ s!" ({origin.name})") := by
    have hmessage := (Record.tidy_iff rfl).mp h
    simp only [line, String.append_assoc] at hmessage ⊢
    exact hmessage
  exact (unbroken_append.mp (unbroken_append.mp hmessage).1).2

/-- What comes of a settings table, and all that is logged on the way. -/
theorem resolve_repeats {result : Except Failure Resolved} {records : List Record}
    (h : (resolve data).run [] = (result, records)) :
    Repeats (shownTexts data) records (∃ r, result = .ok r) where
  tidy := by
    intro hunbroken
    obtain ⟨result', told, hrun, htold⟩ := resolve_tidy hunbroken
    obtain ⟨-, rfl⟩ := Prod.mk.inj (h.symm.trans (hrun []))
    exact htold
  broken := by
    rintro ⟨r, rfl⟩ ⟨text, htext, hbroken⟩
    obtain ⟨name, origin, hline⟩ := shown_of_run h htext
    exact ⟨_, hline, fun htidy => hbroken (unbroken_of_line htidy)⟩

end SeedNode.Config

import SeedNode.Proofs.Config.Settling
import SeedNode.Proofs.Numeric.Integral

/-!
# The ports of the relay as a filter

The ports of the relay are the elements of a list that stand for an integer in range, in their order
and as often as they occur. Each other element is refused with one warning, under its index in the
list (`run_collectPorts`). That makes the reading of ports a filter, with the laws of one: lists may
be put together before or after it, their order goes through it, and what has gone through it once
goes through as it is (`relayPorts_filters`). The defaults stand in only where nothing is said of
the ports.
-/

namespace SeedNode.Config

variable {v : Value} {n : Int} {values more : List Value} {ports : List Int} {data : Table}

/-! ## Elements -/

/-- The integer that an element of the list stands for. A truth value stands for none. -/
inductive StandsFor : Value → Int → Prop
  | int (n : Int) : StandsFor (.int n) n
  | float {x : Float} {n : Int} (h : rational? x = some (n : ℚ)) : StandsFor (.float x) n

/-- Why an element is refused. -/
inductive Refused : Value → String → Prop
  | notNumber {v : Value} (hint : ∀ n, v ≠ .int n) (hfloat : ∀ x, v ≠ .float x) :
      Refused v "Not a number"
  | notIntegral {x : Float} (h : ∀ n : Int, rational? x ≠ some (n : ℚ)) :
      Refused (.float x) s!"Not an integer: {Value.numberStyle.write x}"
  | outOfRange {v : Value} {n : Int} (h : StandsFor v n) (hrange : ¬(1 ≤ n ∧ n ≤ 65535)) :
      Refused v s!"Invalid port: {n}, should be in [1, 65535]"

/-- The port that an element is taken for. -/
def port? (v : Value) : Option Int :=
  match portOf v with
  | .ok (.ok port) => some port
  | _ => none

/-- The reason against an element. -/
def refusal? (v : Value) : Option String :=
  match portOf v with
  | .ok (.error reason) => some reason
  | _ => none

/-- An integer that can be written is a port, or refused for its range. -/
theorem portOf_int_cases (h : Writable n) :
    (1 ≤ n ∧ n ≤ 65535) ∧ portOf (.int n) = .ok (.ok n)
      ∨ ¬(1 ≤ n ∧ n ≤ 65535)
        ∧ portOf (.int n) = .ok (.error s!"Invalid port: {n}, should be in [1, 65535]") := by
  by_cases hvalid : Port.isValid n = true
  · exact .inl ⟨Port.isValid_iff.mp hvalid, portOf_of_isValid hvalid⟩
  · obtain ⟨r, hcheck, -⟩ := Port.check_of_writable hvalid h "tcp_relay_ports"
    refine .inr ⟨fun hrange => hvalid (Port.isValid_iff.mpr hrange), ?_⟩
    simp only [portOf, hcheck]
    exact congrArg (Except.ok ∘ Except.error) (String.append_assoc ..)

/-- Only an integer too long to be written is neither taken nor refused. -/
theorem portOf_cases (h : ∀ n, v = .int n → Writable n) :
    (∃ port, portOf v = .ok (.ok port) ∧ StandsFor v port ∧ 1 ≤ port ∧ port ≤ 65535)
      ∨ ∃ reason, portOf v = .ok (.error reason) ∧ Refused v reason := by
  cases v with
  | int n =>
      rcases portOf_int_cases (h n rfl) with ⟨hrange, hport⟩ | ⟨hrange, hport⟩
      · exact .inl ⟨n, hport, .int n, hrange⟩
      · exact .inr ⟨_, hport, .outOfRange (.int n) hrange⟩
  | float x =>
      cases hx : (Value.float x).integer? with
      | none =>
          refine .inr ⟨_, by simp only [portOf, hx], .notIntegral fun n hn => ?_⟩
          rw [integer?_float.mpr hn] at hx
          cases hx
      | some n =>
          have hsame : portOf (.float x) = portOf (.int n) := by simp only [portOf, hx]
          have hstands := StandsFor.float (integer?_float.mp hx)
          rw [hsame]
          rcases portOf_int_cases (writable_of_float hx) with ⟨hrange, hport⟩ | ⟨hrange, hport⟩
          · exact .inl ⟨n, hport, hstands, hrange⟩
          · exact .inr ⟨_, hport, .outOfRange hstands hrange⟩
  | _ => exact .inr ⟨_, rfl, .notNumber (by simp) (by simp)⟩

/-- An element stands for one integer at most. -/
theorem StandsFor.unique {m : Int} (h : StandsFor v n) (h' : StandsFor v m) : n = m := by
  cases h with
  | int n =>
      cases h' with
      | int _ => rfl
  | float hn =>
      cases h' with
      | float hm => exact Int.cast_injective (Option.some.inj (hn.symm.trans hm))

theorem Refused.not_in_range {reason : String} (h : Refused v reason) (hn : StandsFor v n) :
    ¬(1 ≤ n ∧ n ≤ 65535) := by
  cases h with
  | notNumber hint hfloat =>
      cases hn with
      | int n => exact absurd rfl (hint n)
      | float _ => exact absurd rfl (hfloat _)
  | notIntegral hnone =>
      cases hn with
      | float hx => exact absurd hx (hnone n)
  | outOfRange hm hrange =>
      obtain rfl := hn.unique hm
      exact hrange

theorem writable_of_portOf {r : Except String Int} (h : portOf v = .ok r) :
    ∀ n, v = .int n → Writable n := by
  intro n hn
  have hbreaks := portOf_tooLongIff v
  rw [h] at hbreaks
  exact Classical.not_not.mp fun hlong => hbreaks.not_of_ok ⟨n, hn, hlong⟩

/-- What is taken for a port is what stands for an integer in range. -/
theorem port?_eq_some : port? v = some n ↔ StandsFor v n ∧ 1 ≤ n ∧ n ≤ 65535 := by
  constructor
  · intro h
    rw [port?] at h
    split at h
    case h_2 => cases h
    case h_1 port hport =>
      obtain rfl := Option.some.inj h
      rcases portOf_cases (writable_of_portOf hport) with ⟨port', hsame, hstands⟩ | ⟨_, hsame, -⟩
      · obtain rfl := Except.ok.inj (Except.ok.inj (hport.symm.trans hsame))
        exact hstands
      · cases hport.symm.trans hsame
  · rintro ⟨hstands, hrange⟩
    have hwritable : ∀ m, v = .int m → Writable m := by
      rintro m rfl
      obtain rfl := hstands.unique (.int m)
      exact Port.writable_of_isValid (Port.isValid_iff.mpr hrange)
    rcases portOf_cases hwritable with ⟨port, hport, hsame, -⟩ | ⟨reason, -, hrefused⟩
    · rw [port?, hport, hsame.unique hstands]
    · exact absurd hrange (hrefused.not_in_range hstands)

theorem refused_of_refusal? {reason : String} (h : refusal? v = some reason) :
    port? v = none ∧ Refused v reason := by
  rw [refusal?] at h
  split at h
  case h_2 => cases h
  case h_1 hport =>
    obtain rfl := Option.some.inj h
    rcases portOf_cases (writable_of_portOf hport) with ⟨port, hsame, -⟩ | ⟨_, hsame, hrefused⟩
    · cases hport.symm.trans hsame
    · obtain rfl := Except.error.inj (Except.ok.inj (hport.symm.trans hsame))
      exact ⟨by rw [port?, hport], hrefused⟩

/-! ## Lists -/

/-- The warning about a refused element. -/
def portWarning (i : Nat) (reason : String) : Record :=
  warning s!"Port #{i}: {reason}. Skipping."

/-- The warnings about a list whose first element has the index `i`: one for each that is refused,
in order. -/
def portWarnings (i : Nat) (values : List Value) : List Record :=
  (values.zipIdx i).filterMap fun (v, j) => (refusal? v).map (portWarning j)

theorem not_hasLong_cons : ¬HasLong (v :: values)
    ↔ (∀ n, v = .int n → Writable n) ∧ ¬HasLong values := by
  rw [hasLong_cons, not_or]
  refine and_congr_left fun _ => ?_
  rw [not_exists]
  exact forall_congr' fun n => by rw [not_and, Classical.not_not]

/-- An element is either taken or refused. -/
theorem taken_or_refused (h : ∀ n, v = .int n → Writable n) :
    (∃ port, portOf v = .ok (.ok port) ∧ port? v = some port ∧ refusal? v = none)
      ∨ ∃ reason, portOf v = .ok (.error reason) ∧ port? v = none ∧ refusal? v = some reason := by
  rcases portOf_cases h with ⟨port, hport, -⟩ | ⟨reason, hport, -⟩
  · exact .inl ⟨port, hport, by rw [port?, hport], by rw [refusal?, hport]⟩
  · exact .inr ⟨reason, hport, by rw [port?, hport], by rw [refusal?, hport]⟩

theorem portWarnings_cons (i : Nat) (v : Value) (rest : List Value) :
    portWarnings i (v :: rest)
      = ((refusal? v).map (portWarning i)).toList ++ portWarnings (i + 1) rest := by
  rw [portWarnings, portWarnings, List.zipIdx_cons, List.filterMap_cons]
  dsimp only
  cases refusal? v <;> rfl

theorem run_collectPorts (h : ¬HasLong values) (i : Nat) (records : List Record) :
    (collectPorts i values).run records
      = (.ok (values.filterMap port?), records ++ portWarnings i values) := by
  induction values generalizing i records with
  | nil => exact Prod.ext rfl (List.append_nil _).symm
  | cons v rest ih =>
      obtain ⟨hv, hrest⟩ := not_hasLong_cons.mp h
      rw [portWarnings_cons]
      rcases taken_or_refused hv with
        ⟨port, hport, htaken, hnone⟩ | ⟨reason, hport, hnone, hrefused⟩
      · rw [collectPorts, hport, hnone, List.filterMap_cons_some htaken]
        simp [ih hrest]
      · rw [collectPorts, hport, hrefused, List.filterMap_cons_none hnone]
        simp [ih hrest, portWarning]

theorem length_filterMap_add_length_portWarnings (h : ¬HasLong values) (i : Nat) :
    (values.filterMap port?).length + (portWarnings i values).length = values.length := by
  induction values generalizing i with
  | nil => rfl
  | cons v rest ih =>
      obtain ⟨hv, hrest⟩ := not_hasLong_cons.mp h
      have hcount := ih hrest (i + 1)
      rw [portWarnings_cons, List.length_append, List.length_cons]
      rcases taken_or_refused hv with ⟨port, -, htaken, hnone⟩ | ⟨reason, -, hnone, hrefused⟩
      · rw [List.filterMap_cons_some htaken, hnone, List.length_cons]
        simp only [Option.map_none, Option.toList_none, List.length_nil]
        omega
      · rw [List.filterMap_cons_none hnone, hrefused]
        simp only [Option.map_some, Option.toList_some, List.length_singleton]
        omega

/-! ## The setting -/

/-- Wherever the settings have the list, these ports are read. -/
def Reads (values : List Value) (ports : List Int) : Prop :=
  ∀ (data : Table) (records : List Record), data.lookup "tcp_relay_ports" = some (.list values) →
    ((relayPorts data).run records).1 = .ok ports

theorem run_relayPorts (hfound : data.lookup "tcp_relay_ports" = some (.list values))
    (hsome : values ≠ []) (hshort : ¬HasLong values) (records : List Record) :
    (relayPorts data).run records
      = (.ok (values.filterMap port?), records ++ portWarnings 0 values) := by
  rw [relayPorts, hfound]
  cases values with
  | nil => exact absurd rfl hsome
  | cons v rest => exact run_collectPorts hshort 0 records

/-- What is there and is no list with an element yields no ports. -/
theorem run_relayPorts_of_no_elements (hfound : data.lookup "tcp_relay_ports" = some v)
    (hnone : ∀ first rest, v ≠ .list (first :: rest)) (records : List Record) :
    ((relayPorts data).run records).1 = .ok [] := by
  rw [relayPorts, hfound]
  split
  case h_1 heq => cases heq
  case h_2 => rfl
  case h_3 values hsome heq =>
    obtain rfl := Option.some.inj heq
    cases values with
    | nil => exact absurd rfl (hsome)
    | cons first rest => exact absurd rfl (hnone first rest)
  case h_4 => rfl

theorem reads_filterMap (hshort : ¬HasLong values) : Reads values (values.filterMap port?) := by
  intro data records hfound
  cases values with
  | nil => exact run_relayPorts_of_no_elements hfound (by simp) records
  | cons v rest =>
      rw [run_relayPorts hfound (List.cons_ne_nil v rest) hshort]

theorem informPorts_runs (ports : List Int) (i : Nat) (records : List Record) :
    ∃ records', (informPorts i ports).run records = (.ok (), records') := by
  obtain ⟨_, hresult⟩ := (informPorts_breaks ports i records).ok_of_not not_false
  exact ⟨_, Prod.ext hresult rfl⟩

/-- Where nothing is said of the ports, the defaults are read. -/
theorem run_relayPorts_of_missing (hmissing : data.lookup "tcp_relay_ports" = none)
    (records : List Record) :
    ((relayPorts data).run records).1 = .ok DaemonConfig.default.tcpRelayPorts := by
  have hvalid : ∀ port ∈ DaemonConfig.default.tcpRelayPorts, Port.isValid port = true := by decide
  rw [relayPorts, hmissing]
  simp only [run_bind, run_warn]
  obtain ⟨records', hinform⟩ := informPorts_runs DaemonConfig.default.tcpRelayPorts 0
    (records ++ [warning "No 'tcp_relay_ports' setting in the configuration file."]
      ++ [warning "Using default 'tcp_relay_ports':"])
  simp only [hinform, run_collectPorts_of_valid hvalid]

/-! ## Laws of a filter -/

theorem not_hasLong_append {front back : List Value} (h : ¬HasLong (front ++ back)) :
    ¬HasLong front ∧ ¬HasLong back := by
  constructor
  · rintro ⟨n, hn, hlong⟩
    exact h ⟨n, List.mem_append_left back hn, hlong⟩
  · rintro ⟨n, hn, hlong⟩
    exact h ⟨n, List.mem_append_right front hn, hlong⟩

theorem not_hasLong_of_perm (hperm : values.Perm more) (h : ¬HasLong values) : ¬HasLong more := by
  rintro ⟨n, hn, hlong⟩
  exact h ⟨n, hperm.mem_iff.mpr hn, hlong⟩

/-- What has been read is read again as it is. -/
theorem Reads.again (h : Reads values ports) : Reads (ports.map .int) ports := by
  have hvalid : ∀ port ∈ ports, Port.isValid port = true :=
    relayPorts_valid [("tcp_relay_ports", .list values)] [] ports _ (Prod.ext (h _ [] rfl) rfl)
  exact fun data records hfound => run_relayPorts_of_valid hfound hvalid records

/-- From a list without integers that are too long, the ports are the integers in range that its
elements stand for, in order, and each element that stands for none has one warning under its index.
So the ports of two lists put together are their ports put together, those of a list in another
order are the ports in another order, and ports that were read are read again as they are. Where
there is no setting the ports are the defaults, and where it has no element there are none. -/
theorem relayPorts_filters (records : List Record) :
    (∀ (data : Table) (values : List Value),
      data.lookup "tcp_relay_ports" = some (.list values) → values ≠ [] → ¬HasLong values →
      (relayPorts data).run records
          = (.ok (values.filterMap port?), records ++ portWarnings 0 values)
        ∧ (values.filterMap port?).length + (portWarnings 0 values).length = values.length)
      ∧ (∀ v n, port? v = some n ↔ StandsFor v n ∧ 1 ≤ n ∧ n ≤ 65535)
      ∧ (∀ v reason, refusal? v = some reason → port? v = none ∧ Refused v reason)
      ∧ (∀ front back : List Value, ¬HasLong (front ++ back) →
        ∃ first second, Reads front first ∧ Reads back second
          ∧ Reads (front ++ back) (first ++ second))
      ∧ (∀ values more : List Value, values.Perm more → ¬HasLong values →
        ∃ ports others, Reads values ports ∧ Reads more others ∧ ports.Perm others)
      ∧ (∀ (values : List Value) (ports : List Int), Reads values ports →
        Reads (ports.map .int) ports)
      ∧ (∀ data : Table, data.lookup "tcp_relay_ports" = none →
        ((relayPorts data).run records).1 = .ok [443, 3389, 33445])
      ∧ ∀ (data : Table) (v : Value), data.lookup "tcp_relay_ports" = some v →
        (∀ first rest, v ≠ .list (first :: rest)) → ((relayPorts data).run records).1 = .ok [] := by
  refine ⟨fun data values hfound hsome hshort => ?_, fun _ _ => port?_eq_some,
    fun _ _ => refused_of_refusal?, fun front back hshort => ?_,
    fun values more hperm hshort => ?_, fun _ _ => Reads.again,
    fun data hmissing => run_relayPorts_of_missing hmissing records,
    fun data v hfound hnone => run_relayPorts_of_no_elements hfound hnone records⟩
  · exact ⟨run_relayPorts hfound hsome hshort records,
      length_filterMap_add_length_portWarnings hshort 0⟩
  · obtain ⟨hfront, hback⟩ := not_hasLong_append hshort
    refine ⟨_, _, reads_filterMap hfront, reads_filterMap hback, ?_⟩
    rw [← List.filterMap_append]
    exact reads_filterMap hshort
  · exact ⟨_, _, reads_filterMap hshort, reads_filterMap (not_hasLong_of_perm hperm hshort),
      hperm.filterMap port?⟩

/-- Truth values, texts, fractions and integers out of range are refused, each under its index; a
binary number that is an integer is taken, and so is a port that occurs again. -/
theorem relayPorts_filters_mixed :
    let values : List Value := [.bool true, .int 443, .float 80.0, .float 0.5, .int 70000,
      .str "3389", .int 443]
    let data : Table := [("tcp_relay_ports", .list values)]
    data.lookup "tcp_relay_ports" = some (.list values) ∧ values ≠ [] ∧ ¬HasLong values
      ∧ (relayPorts data).run [] = (.ok [443, 80, 443],
        [portWarning 0 "Not a number", portWarning 3 "Not an integer: 0.5",
          portWarning 4 "Invalid port: 70000, should be in [1, 65535]",
          portWarning 5 "Not a number"]) := by
  intro values data
  have hfound : data.lookup "tcp_relay_ports" = some (.list values) := rfl
  have hsome : values ≠ [] := List.cons_ne_nil _ _
  have hsmall : ∀ {n : Int}, n.natAbs < Nat.pow 10 5 → Writable n :=
    writable_of_natAbs_lt (by decide)
  have hshort : ¬HasLong values := by
    rintro ⟨n, hn, hlong⟩
    simp only [values, List.mem_cons, List.not_mem_nil, reduceCtorEq, false_or, or_false,
      Value.int.injEq] at hn
    rcases hn with rfl | rfl | rfl
    · exact hlong (hsmall (by decide))
    · exact hlong (hsmall (by decide))
    · exact hlong (hsmall (by decide))
  obtain ⟨hreads, -⟩ := relayPorts_filters []
  obtain ⟨hrun, -⟩ := hreads data values hfound hsome hshort
  have hports : values.filterMap port? = [443, 80, 443] := by decide +kernel
  have hwarnings : portWarnings 0 values
      = [portWarning 0 "Not a number", portWarning 3 "Not an integer: 0.5",
        portWarning 4 "Invalid port: 70000, should be in [1, 65535]",
        portWarning 5 "Not a number"] := by
    have hrefused : values.map refusal? = [some "Not a number", none, none,
        some "Not an integer: 0.5", some "Invalid port: 70000, should be in [1, 65535]",
        some "Not a number", none] := by
      decide +kernel
    simp only [values, List.map_cons, List.map_nil, List.cons.injEq] at hrefused
    simp only [values, portWarnings_cons, hrefused]
    rfl
  rw [hports, hwarnings] at hrun
  exact ⟨hfound, hsome, hshort, hrun⟩

end SeedNode.Config

import Mathlib.Data.List.Forall2
import SeedNode.Config.Resolve
import SeedNode.Proofs.Effects

/-!
# Looking options up

Looking an option up has a value, a source and records that tell of it, and the three agree: the
records say that the default is used just where the source is the default. This holds of every
option with a single value (`Scalar`), and of the ports of the relay. None of these records can be
taken for one about another option, as no name holds a quotation mark.
-/

namespace SeedNode.Config

/-! ## Messages -/

/-- The record tells that the default of the option is used. -/
def tellsDefault (name : String) (r : Record) : Bool :=
  r.level == Level.warning && s!"Using default '{name}':".toList.isPrefixOf r.message.toList

/-- The record is a line of the summary about some option. -/
def isLine (r : Record) : Bool :=
  r.level == Level.info && "'".toList.isPrefixOf r.message.toList

/-- The record is the line of the summary about the option. -/
def tellsValue (name : String) (r : Record) : Bool :=
  r.level == Level.info && s!"'{name}': ".toList.isPrefixOf r.message.toList

def warning (message : String) : Record :=
  { level := Level.warning, source, message }

def missing (name : String) : Record :=
  warning s!"No '{name}' setting in configuration file."

def misfit (name called kind : String) : Record :=
  warning s!"'{name}' setting should be {called}, got {kind}."

def defaulted (name text : String) : Record :=
  warning s!"Using default '{name}': {text}"

@[simp] theorem run_warn (message : String) (records : List Record) :
    (warn message).run records = (.ok (), records ++ [warning message]) := rfl

theorem tellsDefault_missing (name other : String) :
    tellsDefault name (missing other) = false := by
  simp [tellsDefault, missing, warning, toString, List.isPrefixOf]

theorem tellsDefault_misfit (name other called kind : String) :
    tellsDefault name (misfit other called kind) = false := by
  simp [tellsDefault, misfit, warning, toString, List.isPrefixOf]

theorem isLine_of_warning {r : Record} (h : r.level = Level.warning) : isLine r = false := by
  rw [isLine, h]
  rfl

theorem tellsDefault_of_ne {name : String} {r : Record} (h : r.level ≠ Level.warning) :
    tellsDefault name r = false := by
  rw [tellsDefault, beq_eq_false_iff_ne.mpr h, Bool.false_and]

/-- Two texts that are cut at a mark agree, unless the one is cut at a later mark of the other. -/
theorem append_mark_cases {α : Type} {mark : α} {xs ys xs' ys' : List α} (hxs : mark ∉ xs)
    (h : xs' ++ mark :: ys' = xs ++ mark :: ys) : xs' = xs ∨ mark ∈ xs' ∧ mark ∈ ys := by
  rcases List.append_eq_append_iff.mp h with ⟨as, hbefore, hafter⟩ | ⟨as, hbefore, hafter⟩
  · cases as with
    | nil => exact .inl (by simpa using hbefore.symm)
    | cons a as =>
        obtain rfl := (List.cons.inj hafter).1
        exact absurd (by simp [hbefore]) hxs
  · cases as with
    | nil => exact .inl (by simpa using hbefore)
    | cons a as =>
        obtain ⟨rfl, hrest⟩ := List.cons.inj hafter
        exact .inr ⟨by simp [hbefore], by simp [hrest]⟩

theorem tellsDefault_iff {name other : String} {rest : List Char} {r : Record}
    (hlevel : r.level = Level.warning)
    (hmessage : r.message.toList
      = "Using default '".toList ++ (other.toList ++ '\'' :: ':' :: rest))
    (hother : '\'' ∉ other.toList) (hrest : '\'' ∉ rest) :
    tellsDefault name r = true ↔ name = other := by
  have hlead : s!"Using default '{name}':".toList
      = "Using default '".toList ++ (name.toList ++ ['\'', ':']) := by
    simp [toString]
  rw [tellsDefault, hlevel, hmessage, hlead, beq_self_eq_true, Bool.true_and,
    List.isPrefixOf_iff_prefix, List.prefix_append_right_inj]
  constructor
  · rintro ⟨more, hmore⟩
    have hsplit : name.toList ++ '\'' :: (':' :: more) = other.toList ++ '\'' :: (':' :: rest) := by
      simpa using hmore
    rcases append_mark_cases hother hsplit with hname | ⟨-, hmark⟩
    · exact String.toList_inj.mp hname
    · exact absurd hmark (by simp [hrest])
  · rintro rfl
    exact ⟨rest, by simp⟩

theorem tellsDefault_defaulted {name other text : String} (hother : '\'' ∉ other.toList)
    (htext : '\'' ∉ text.toList) :
    tellsDefault name (defaulted other text) = true ↔ name = other := by
  have hmessage : (defaulted other text).message.toList
      = "Using default '".toList ++ (other.toList ++ '\'' :: ':' :: (' ' :: text.toList)) := by
    simp [defaulted, warning, toString]
  exact tellsDefault_iff rfl hmessage hother (by simp [htext])

/-! ## Options of one value -/

/-- An option of one value: how it is looked up, and the text of its default. No quotation mark
stands in either text. -/
structure Scalar (α : Type) where
  kind : OptionKind α
  name : String
  default : α
  text : String
  text_eq : kind.text default = .ok text
  name_plain : '\'' ∉ name.toList
  text_plain : '\'' ∉ text.toList

namespace Scalar

variable {α : Type}

/-- The value of an option in a settings table, with its source. -/
def chosen (o : Scalar α) (data : Table) : Chosen α :=
  match (data.lookup o.name).bind o.kind.read with
  | some value => ⟨value, .configured⟩
  | none => ⟨o.default, .default⟩

/-- What is told of an option when it is looked up. -/
def notices (o : Scalar α) (data : Table) : List Record :=
  match data.lookup o.name with
  | none => [missing o.name, defaulted o.name o.text]
  | some v => match o.kind.read v with
    | some _ => []
    | none => [misfit o.name o.kind.called v.kind, defaulted o.name o.text]

@[simp] theorem run_useDefault (o : Scalar α) (records : List Record) :
    (useDefault o.kind o.name o.default).run records
      = (.ok ⟨o.default, .default⟩, records ++ [defaulted o.name o.text]) := by
  rw [useDefault, o.text_eq]
  rfl

@[simp] theorem run_lookup (o : Scalar α) (data : Table) (records : List Record) :
    (lookup o.kind data o.name o.default).run records
      = (.ok (o.chosen data), records ++ o.notices data) := by
  rw [lookup, chosen, notices]
  cases hfound : data.lookup o.name with
  | none => simp [missing]
  | some v => cases hread : o.kind.read v <;> simp [hread, misfit]

end Scalar

/-! ## What a lookup comes to -/

/-- An option that was looked up: where its value came from, and what was told of it. -/
structure Lookup where
  name : String
  source : OptionSource
  notices : List Record

/-- What was told agrees with the source, and no line of the summary is among it. -/
structure Lookup.Truthful (l : Lookup) : Prop where
  defaults : ∀ name,
    (∃ r ∈ l.notices, tellsDefault name r = true) ↔ name = l.name ∧ l.source = .default
  values : ∀ r ∈ l.notices, isLine r = false

def Scalar.looked {α : Type} (o : Scalar α) (data : Table) : Lookup :=
  ⟨o.name, (o.chosen data).source, o.notices data⟩

/-- A record is told of beside the use of a default. -/
theorem tells_pair {name other text : String} {first : Record}
    (hfirst : ∀ name, tellsDefault name first = false) (hother : '\'' ∉ other.toList)
    (htext : '\'' ∉ text.toList) :
    (∃ r ∈ [first, defaulted other text], tellsDefault name r = true) ↔ name = other := by
  simp [hfirst, tellsDefault_defaulted hother htext]

theorem Scalar.looked_truthful {α : Type} (o : Scalar α) (data : Table) :
    (o.looked data).Truthful where
  defaults := by
    intro name
    have hpair : ∀ {first : Record}, (∀ name, tellsDefault name first = false) →
        ((∃ r ∈ [first, defaulted o.name o.text], tellsDefault name r = true) ↔ name = o.name) :=
      fun hfirst => tells_pair hfirst o.name_plain o.text_plain
    simp only [looked, chosen, notices]
    cases hfound : data.lookup o.name with
    | none => simpa using hpair fun name => tellsDefault_missing name o.name
    | some v =>
        cases hread : o.kind.read v with
        | some value => simp [hread]
        | none => simpa [hread] using hpair fun name => tellsDefault_misfit name o.name _ _
  values := by
    intro r hr
    refine isLine_of_warning ?_
    simp only [looked, notices] at hr
    cases hfound : data.lookup o.name with
    | none =>
        simp only [hfound, List.mem_cons, List.not_mem_nil, or_false] at hr
        rcases hr with rfl | rfl <;> rfl
    | some v =>
        cases hread : o.kind.read v with
        | some value => simp [hfound, hread] at hr
        | none =>
            simp only [hfound, hread, List.mem_cons, List.not_mem_nil, or_false] at hr
            rcases hr with rfl | rfl <;> rfl

/-! ## The ports of the relay -/

/-- The record is neither about the use of a default nor a line of the summary. -/
def Aside (r : Record) : Prop :=
  (∀ name, tellsDefault name r = false) ∧ isLine r = false

/-- The record is no warning and no line of the summary. -/
def Passing (r : Record) : Prop :=
  r.level ≠ Level.warning ∧ isLine r = false

theorem Passing.aside {r : Record} (h : Passing r) : Aside r :=
  ⟨fun _ => tellsDefault_of_ne h.1, h.2⟩

/-- Whatever comes out of the code, it adds records of one kind, whichever were there before. -/
def AddsRecords {α : Type} (P : Record → Prop) (x : LogM α) : Prop :=
  ∃ result told, (∀ records, x.run records = (result, records ++ told)) ∧ ∀ r ∈ told, P r

namespace AddsRecords

variable {α β : Type} {P : Record → Prop}

theorem pure (a : α) : AddsRecords P (Pure.pure a : LogM α) :=
  ⟨.ok a, [], fun records => by rw [List.append_nil]; rfl, by simp⟩

theorem throw (e : Failure) : AddsRecords P (MonadExcept.throw e : LogM α) :=
  ⟨.error e, [], fun records => by rw [List.append_nil]; rfl, by simp⟩

theorem note {level : Level} {source message : String} (h : P { level, source, message }) :
    AddsRecords P (LogM.note level source message) :=
  ⟨.ok (), [_], fun _ => rfl, by simpa using h⟩

theorem mono {Q : Record → Prop} {x : LogM α} (hx : AddsRecords P x) (h : ∀ r, P r → Q r) :
    AddsRecords Q x := by
  obtain ⟨result, told, hrun, htold⟩ := hx
  exact ⟨result, told, hrun, fun r hr => h r (htold r hr)⟩

theorem bind {x : LogM α} {f : α → LogM β} (hx : AddsRecords P x) (hf : ∀ a, AddsRecords P (f a)) :
    AddsRecords P (x >>= f) := by
  obtain ⟨result, told, hrun, htold⟩ := hx
  cases result with
  | error e => exact ⟨.error e, told, fun records => run_bind_of_error (hrun records) f, htold⟩
  | ok a =>
      obtain ⟨result', told', hrun', htold'⟩ := hf a
      refine ⟨result', told ++ told', fun records => ?_, fun r hr => ?_⟩
      · rw [run_bind_of_ok (hrun records), hrun', List.append_assoc]
      · exact (List.mem_append.mp hr).elim (htold r) (htold' r)

end AddsRecords

theorem aside_port_warning (i : Nat) (reason : String) :
    Aside (warning s!"Port #{i}: {reason}. Skipping.") := by
  refine ⟨fun name => ?_, isLine_of_warning rfl⟩
  simp [tellsDefault, warning, toString, List.isPrefixOf]

theorem passing_info {message : String} (h : "'".toList.isPrefixOf message.toList = false) :
    Passing { level := Level.info, source, message } := by
  refine ⟨show Level.info ≠ Level.warning by decide, ?_⟩
  rw [isLine, h, Bool.and_false]

theorem passing_error (message : String) : Passing { level := Level.error, source, message } :=
  ⟨show Level.error ≠ Level.warning by decide, rfl⟩

theorem collectPorts_adds : ∀ (values : List Value) (i : Nat),
    AddsRecords Aside (collectPorts i values)
  | [], _ => .pure []
  | v :: rest, i => by
      rw [collectPorts]
      split
      · exact .throw _
      · exact .bind (collectPorts_adds rest (i + 1)) fun ports => .pure _
      · exact .bind (.note (aside_port_warning i _)) fun _ => collectPorts_adds rest (i + 1)

theorem informPorts_adds : ∀ (ports : List Int) (i : Nat), AddsRecords Passing (informPorts i ports)
  | [], _ => .pure ()
  | port :: rest, i => by
      have hnote : Passing { level := Level.info, source, message := s!"Port #{i}: {port}" } :=
        passing_info (by simp [toString, List.isPrefixOf])
      exact .bind (.note hnote) fun _ => informPorts_adds rest (i + 1)

theorem Lookup.Truthful.of_aside {l : Lookup} (hsource : l.source = .configured)
    (htold : ∀ r ∈ l.notices, Aside r) : l.Truthful where
  defaults := by
    intro name
    rw [hsource]
    refine ⟨fun ⟨r, hr, htells⟩ => ?_, fun ⟨_, hdefault⟩ => ?_⟩
    · rw [(htold r hr).1 name] at htells
      cases htells
    · cases hdefault
  values r hr := (htold r hr).2

theorem relayPorts_adds {data : Table} {v : Value}
    (hfound : data.lookup "tcp_relay_ports" = some v) : AddsRecords Aside (relayPorts data) := by
  rw [relayPorts, hfound]
  split
  · cases ‹some v = none›
  · exact .bind (.note (passing_error _).aside) fun _ => .pure _
  · exact collectPorts_adds _ 0
  · exact .bind (.note (passing_error _).aside) fun _ => .pure _

/-- What is told first when the ports of the relay are missing. -/
def portsDefaulted : List Record :=
  [warning "No 'tcp_relay_ports' setting in the configuration file.",
    warning "Using default 'tcp_relay_ports':"]

theorem tells_portsDefaulted (name : String) :
    (∃ r ∈ portsDefaulted, tellsDefault name r = true) ↔ name = "tcp_relay_ports" := by
  have hfirst : tellsDefault name
      (warning "No 'tcp_relay_ports' setting in the configuration file.") = false := by
    simp [tellsDefault, warning, toString, List.isPrefixOf]
  have hsecond : tellsDefault name (warning "Using default 'tcp_relay_ports':") = true
      ↔ name = "tcp_relay_ports" := by
    have hmessage : (warning "Using default 'tcp_relay_ports':").message.toList
        = "Using default '".toList ++ ("tcp_relay_ports".toList ++ '\'' :: ':' :: []) := rfl
    exact tellsDefault_iff rfl hmessage (by decide) (by simp)
  simp [portsDefaulted, hfirst, hsecond]

/-- The ports of the relay are looked up truthfully, too. -/
theorem relayPorts_truthful (data : Table) : ∃ result told,
    (∀ records, (relayPorts data).run records = (result, records ++ told))
      ∧ Lookup.Truthful ⟨"tcp_relay_ports", relaySource data, told⟩ := by
  cases hfound : data.lookup "tcp_relay_ports" with
  | some v =>
      obtain ⟨result, told, hrun, htold⟩ := relayPorts_adds hfound
      exact ⟨result, told, hrun, .of_aside (by simp [relaySource, hfound]) htold⟩
  | none =>
      let ports := DaemonConfig.default.tcpRelayPorts
      obtain ⟨result, told, hrun, htold⟩ := AddsRecords.bind
        ((informPorts_adds ports 0).mono fun _ => Passing.aside)
        fun _ => collectPorts_adds (ports.map .int) 0
      refine ⟨result, portsDefaulted ++ told, fun records => ?_, fun name => ?_, fun r hr => ?_⟩
      · rw [relayPorts, hfound, ← List.append_assoc, ← hrun, portsDefaulted,
          ← List.singleton_append, ← List.append_assoc]
        rfl
      · constructor
        · rintro ⟨r, hr, htells⟩
          rcases List.mem_append.mp hr with hr | hr
          · exact ⟨(tells_portsDefaulted name).mp ⟨r, hr, htells⟩, by simp [relaySource, hfound]⟩
          · rw [(htold r hr).1 name] at htells
            cases htells
        · rintro ⟨hname, -⟩
          obtain ⟨r, hr, htells⟩ := (tells_portsDefaulted name).mpr hname
          exact ⟨r, List.mem_append_left _ hr, htells⟩
      · rcases List.mem_append.mp hr with hr | hr
        · refine isLine_of_warning ?_
          simp only [portsDefaulted, List.mem_cons, List.not_mem_nil, or_false] at hr
          rcases hr with rfl | rfl <;> rfl
        · exact (htold r hr).2

end SeedNode.Config

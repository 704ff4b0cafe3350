import SeedNode.Proofs.Config.LongIntegers
import SeedNode.Proofs.Seeds.Contacting

/-!
# Seeds with ports too long to be written

An entry of the seed list that cannot be used should be skipped with a warning. The warning about a
bad port writes it out, so an entry that is right but for a port over the limit on digits is not
skipped: it ends the walk. No other entry does, whatever it holds (`contactAll_tooLongIff`). With
what holds of the configuration, these are all the ways in which a value of the settings can end
more than its own use (`only_long_ports_break`).
-/

namespace SeedNode.Seeds

variable {τ : Type} {engine : Engine τ} {s s₁ : Session τ} {data data₁ : Table} {p : Prop}

/-! ## Entries -/

/-- Everything about the entry is as it should be, but for a port too long to be written. -/
def HasLongPort (size : Int) (node : Value) : Prop :=
  ∃ settings key n address, node = .table settings
    ∧ settings.lookup "public_key" = some (.str key) ∧ isKey size key = true
    ∧ settings.lookup "port" = some (.int n) ∧ ¬Writable n
    ∧ settings.lookup "address" = some (.str address)

theorem stringOf_eq_error {settings : Table} {name : String} {reason : Reason}
    (h : stringOf settings name = .error reason) : reason = .missing name := by
  rw [stringOf] at h
  split at h
  · cases h
  · exact (Except.error.inj h).symm

theorem intOf_eq_error {settings : Table} {name : String} {reason : Reason}
    (h : intOf settings name = .error reason) : reason = .missing name := by
  rw [intOf] at h
  split at h
  · cases h
  · exact (Except.error.inj h).symm

/-- What is skipped for its port: a table with all three settings and a key of the right form. -/
theorem examine_eq_badPort {node : Value} {size n : Int} :
    examine node size = .error (.badPort n) ↔ ∃ settings key address, node = .table settings
      ∧ settings.lookup "public_key" = some (.str key)
      ∧ settings.lookup "port" = some (.int n)
      ∧ settings.lookup "address" = some (.str address)
      ∧ isKey size key = true ∧ Port.isValid n = false := by
  constructor
  · intro h
    cases node with
    | table settings =>
        rw [examine] at h
        cases hkey : stringOf settings "public_key" with
        | error reason =>
            rw [hkey, stringOf_eq_error hkey] at h
            cases h
        | ok key =>
        cases hport : intOf settings "port" with
        | error reason =>
            rw [hkey, hport, intOf_eq_error hport] at h
            cases h
        | ok port =>
        cases haddress : stringOf settings "address" with
        | error reason =>
            rw [hkey, hport, haddress, stringOf_eq_error haddress] at h
            cases h
        | ok address =>
        rw [hkey, hport, haddress] at h
        simp only [Bind.bind, Except.bind] at h
        split at h
        · cases h
        split at h
        · rename_i hform hrange
          obtain rfl := Reason.badPort.inj (Except.error.inj h)
          exact ⟨settings, key, address, rfl, stringOf_eq_ok.mp hkey, intOf_eq_ok.mp hport,
            stringOf_eq_ok.mp haddress, by simpa using hform, hrange⟩
        · cases h
    | _ => cases h
  · rintro ⟨settings, key, address, rfl, hkey, hport, haddress, hform, hrange⟩
    rw [examine, stringOf_eq_ok.mpr hkey, intOf_eq_ok.mpr hport, stringOf_eq_ok.mpr haddress]
    simp only [Bind.bind, Except.bind]
    rw [if_neg (by simp [hform]), if_pos hrange]
    rfl

theorem hasLongPort_iff {node : Value} {size : Int} :
    HasLongPort size node ↔ ∃ n, examine node size = .error (.badPort n) ∧ ¬Writable n := by
  constructor
  · rintro ⟨settings, key, n, address, rfl, hkey, hform, hport, hn, haddress⟩
    have hrange : Port.isValid n = false :=
      Bool.eq_false_iff.mpr fun h => hn (Port.writable_of_isValid h)
    exact ⟨n, examine_eq_badPort.mpr
      ⟨settings, key, address, rfl, hkey, hport, haddress, hform, hrange⟩, hn⟩
  · rintro ⟨n, hexamine, hn⟩
    obtain ⟨settings, key, address, rfl, hkey, hport, haddress, hform, -⟩ :=
      examine_eq_badPort.mp hexamine
    exact ⟨settings, key, n, address, rfl, hkey, hform, hport, hn, haddress⟩

/-- Checking an entry fails just where its port is all that is wrong, and is too long. -/
theorem validate_tooLongIff (node : Value) (size : Int) :
    TooLongIff (HasLongPort size node) (validate node size) := by
  refine TooLongIff.congr ?_ hasLongPort_iff.symm
  rw [validate]
  cases hexamine : examine node size with
  | ok e => exact .ok _ (by simp)
  | error reason =>
      cases reason with
      | badPort n =>
          by_cases hn : Writable n
          · simp only [Reason.message, decimalText_of_writable hn]
            exact .ok _ (by simp [hn])
          · simp only [Reason.message, decimalText_of_not_writable hn]
            exact .error ⟨n, rfl, hn⟩
      | _ => exact .ok _ (by simp)

/-! ## The walk -/

theorem runIn_returning {α β : Type} {x : SeedM τ α}
    (hx : TooLongIff p (runIn x data s).1.1) (g : α → β) :
    TooLongIff p (runIn (do return g (← x)) data s).1.1 := by
  rw [runIn_bind]
  rcases hrun : runIn x data s with ⟨⟨r, data₁⟩, t⟩
  rw [hrun] at hx
  cases hx with
  | ok a h => exact .ok _ h
  | error h => exact .error h

/-- Where there is no list of entries the walk is over at once. -/
theorem runIn_advance_none (h : ∀ nodes, data.lookup listName ≠ some (.list nodes))
    (s : Session τ) : ∃ s', runIn (advance .fresh) data s = ((.ok (none, .ended), data), s') := by
  have hnext : ∃ records, (Walk.next data .fresh).run [] = (.ok ⟨none, .ended, data⟩, records) := by
    rw [Walk.next]
    split
    · exact ⟨_, rfl⟩
    · exact ⟨_, rfl⟩
    · exact absurd ‹_› (h _)
    · exact ⟨_, rfl⟩
  obtain ⟨records, hnext⟩ := hnext
  exact ⟨_, by rw [runIn_advance, hnext]⟩

section Walk

variable (hengine : ∀ calls, ∃ known, engine.bootstrap calls = .ok known) (ipv6 : Bool)

include hengine

theorem contact_tooLongIff (index : Nat) (node : Value) (s : Session τ) :
    TooLongIff (HasLongPort engine.publicKeySize node)
      ((contact engine ipv6 index node).run s).1 := by
  have hvalidate := validate_tooLongIff node engine.publicKeySize
  rw [run_contact]
  cases hverdict : validate node engine.publicKeySize with
  | error e =>
      rw [hverdict] at hvalidate
      cases hvalidate with
      | error h => exact .error h
  | ok verdict =>
      rw [hverdict] at hvalidate
      have hfine := hvalidate.not_of_ok
      cases verdict with
      | skipped reason => exact .ok _ hfine
      | accepted e =>
          obtain ⟨known, hknown⟩ :=
            hengine (s.calls ++ [.bootstrap e.address ipv6 e.port e.publicKeyBytes])
          simp only [hknown]
          cases known with
          | true => exact .ok _ hfine
          | false => exact .ok _ hfine

/-- An entry that was taken ends the walk, or the walk goes on as it would without the entry. -/
theorem contactFrom_step {fuel index : Nat} {walk walk' : Walk} {node : Value}
    (htaken : runIn (advance walk) data s = ((.ok (some (index, node), walk'), data₁), s₁))
    (hrest : ∀ t, TooLongIff p (runIn (contactFrom engine ipv6 fuel walk') data₁ t).1.1) :
    TooLongIff (HasLongPort engine.publicKeySize node ∨ p)
      (runIn (contactFrom engine ipv6 (fuel + 1) walk) data s).1.1 := by
  have hcontact := contact_tooLongIff hengine ipv6 index node s₁
  rw [runIn_contactFrom_taken htaken]
  rcases hrun : (contact engine ipv6 index node).run s₁ with ⟨r, t⟩
  rw [hrun] at hcontact
  cases hcontact with
  | error h => exact .error (.inl h)
  | ok result h =>
      exact (runIn_returning (hrest (warned result t)) (result :: ·)).congr (or_iff_right h).symm

theorem contactFrom_tooLongIff : ∀ (pending : List Value) {fuel index : Nat} {data : Table}
      (s : Session τ), pending.length < fuel →
      data.lookup listName = some (.list pending.reverse) →
      TooLongIff (∃ node ∈ pending, HasLongPort engine.publicKeySize node)
        (runIn (contactFrom engine ipv6 fuel (.under index)) data s).1.1
  | [], fuel + 1, index, data, s, _, hdata => by
      rw [contactFrom, runIn_bind_of_ok (runIn_advance_under index s hdata)]
      exact .ok _ (by simp)
  | node :: rest, fuel + 1, index, data, s, hfuel, hdata => by
      have hstep := contactFrom_step hengine ipv6 (runIn_advance_under index s hdata)
        fun t => contactFrom_tooLongIff rest t (Nat.lt_of_succ_lt_succ hfuel)
          (lookup_withList rest.reverse hdata)
      exact hstep.congr (by simp)

theorem contactFrom_fresh (data : Table) (s : Session τ) :
    TooLongIff (∃ node ∈ listIn data, HasLongPort engine.publicKeySize node)
      (runIn (contactFrom engine ipv6 ((listIn data).length + 1) .fresh) data s).1.1 := by
  by_cases hlist : ∃ nodes, data.lookup listName = some (.list nodes)
  · obtain ⟨nodes, hdata⟩ := hlist
    rw [listIn_of_lookup hdata]
    cases nodes with
    | nil =>
        rw [contactFrom, runIn_bind_of_ok (runIn_advance_fresh s hdata)]
        exact .ok _ (by simp)
    | cons node rest =>
        have hstep := contactFrom_step hengine ipv6 (runIn_advance_fresh s hdata)
          fun t => contactFrom_tooLongIff hengine ipv6 rest t (Nat.lt_succ_self _)
            (lookup_withList rest.reverse hdata)
        exact hstep.congr (by simp)
  · have hnone : ∀ nodes, data.lookup listName ≠ some (.list nodes) := not_exists.mp hlist
    have hempty : listIn data = [] := by
      rw [listIn]
      split
      · exact absurd ‹_› (hnone _)
      · rfl
    obtain ⟨s', hadvance⟩ := runIn_advance_none hnone s
    rw [hempty, contactFrom, runIn_bind_of_ok hadvance]
    exact .ok _ (by simp)

/-- Contacting the seeds fails just where there is an entry whose port is all that is wrong, and is
too long to be written. -/
theorem contactAll_tooLongIff (data : Table) (s : Session τ) :
    TooLongIff (∃ node ∈ listIn data, HasLongPort engine.publicKeySize node)
      (runIn (contactAll engine ipv6) data s).1.1 := by
  rw [contactAll, runIn_bind_of_ok (runIn_get data s)]
  exact runIn_returning (contactFrom_fresh hengine ipv6 data s) SeedReport.mk

/-- No value of a settings table breaks the configuration, its check or the walk over the seeds,
except for ports too long to be written, and these do. -/
theorem only_long_ports_break (data : Table) (s : Session τ) :
    TooLongIff (Config.HasLongPort data) ((Config.resolve data).run []).1
      ∧ (∀ r records, (Config.resolve data).run [] = (.ok r, records) →
        r.config.validate = .ok ()
          ∨ ∃ message, r.config.validate = .error (DaemonConfig.failed message))
      ∧ TooLongIff (∃ node ∈ listIn data, HasLongPort engine.publicKeySize node)
        (runIn (contactAll engine ipv6) data s).1.1 :=
  ⟨Config.resolve_breaks data [],
    fun _ _ h => Config.validate_of_writable (Config.writable_of_resolved h),
    contactAll_tooLongIff hengine ipv6 data s⟩

end Walk

/-- Every one of the ports is out of range, but can be written. -/
theorem only_long_ports_break_out_of_range :
    let engine : Engine Nat :=
      ⟨1, fun _ => .ok (), fun _ => .ok (), fun _ => .ok true, fun _ => .ok 0, fun _ => .ok (),
        fun _ => .ok (), fun _ => .ok true, fun _ => .ok none⟩
    let node : Value :=
      .table [("public_key", .str "0a"), ("port", .int 70000), ("address", .str "node.example")]
    let data : Table :=
      [("port", .int 70000), ("tcp_relay_ports", .list [.int 70000]), (listName, .list [node])]
    let s : Session Nat := .start ⟨[], []⟩ [] ⟨true, [], 0⟩
    (∀ calls, ∃ known, engine.bootstrap calls = .ok known)
      ∧ (∃ r records, (Config.resolve data).run [] = (.ok r, records)
        ∧ ∃ message, r.config.validate = .error (DaemonConfig.failed message))
      ∧ ∃ report, (runIn (contactAll engine true) data s).1.1 = .ok report := by
  intro engine node data s
  have hengine : ∀ calls, ∃ known, engine.bootstrap calls = .ok known := fun _ => ⟨true, rfl⟩
  have hport : Writable 70000 := writable_of_natAbs_lt (by decide : 5 ≤ maxDigits) (by decide)
  have hshort : ¬Config.HasLongPort data := by
    rintro (⟨n, hn, hlong⟩ | ⟨-, values, hvalues, n, hn, hlong⟩)
    · obtain rfl := Value.int.inj (Option.some.inj hn)
      exact hlong hport
    · obtain rfl := Value.list.inj (Option.some.inj hvalues)
      obtain rfl := Value.int.inj (List.mem_singleton.mp hn)
      exact hlong hport
  obtain ⟨hresolve, hvalidate, hcontact⟩ := only_long_ports_break hengine true data s
  have hnode : ¬∃ node ∈ listIn data, HasLongPort engine.publicKeySize node := by
    rintro ⟨_, hmem, settings, key, n, address, rfl, -, -, hn, hlong, -⟩
    obtain rfl := Value.table.inj (List.mem_singleton.mp hmem)
    obtain rfl := Value.int.inj (Option.some.inj hn)
    exact hlong hport
  rcases hrun : (Config.resolve data).run [] with ⟨outcome, records⟩
  rw [hrun] at hresolve
  obtain ⟨r, rfl⟩ := hresolve.ok_of_not hshort
  have hbad : r.config.port = 70000 := by
    obtain ⟨ports, summary, hresolving⟩ := Config.resolving_of_run hrun
    rw [hresolving.config]
    rfl
  refine ⟨hengine, ⟨r, records, rfl, ?_⟩, hcontact.ok_of_not hnode⟩
  obtain ⟨report, hcheck, -⟩ := Port.check_of_writable (by decide) hport "port"
  refine (hvalidate r records hrun).resolve_left fun hok => ?_
  rw [DaemonConfig.validate, hbad, hcheck] at hok
  cases hok

/-- A document that sets the port to 3600 digits in base sixteen is read, and breaks the
configuration. -/
theorem long_port_breaks_resolving :
    ∃ data, Toml.parse (Toml.hexadecimalLine (36 * 100 - 1)) = .ok data
      ∧ ((Config.resolve data).run []).1 = .error overlong :=
  Config.resolve_of_long_document (Nat.le_refl 100)

end SeedNode.Seeds

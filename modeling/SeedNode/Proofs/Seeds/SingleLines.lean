import SeedNode.Proofs.Config.SingleLines
import SeedNode.Proofs.Seeds.LongIntegers
import SeedNode.Proofs.Text.Hex

/-!
# Seeds in the log

An entry of the seed list leaves one record, and that shows one text of the entry as it is: its
address if it passes the check, and its public key if that is what is wrong with it (`said`). So a
record is a single line just if this text has no line break (`Speaks`), and all records are if no
entry has such a text.
-/

namespace SeedNode.Seeds

variable {τ : Type} {engine : Engine τ} {ipv6 : Bool} {size : Int} {node : Value} {index : Nat}
  {text : String} {r : Record} {s s' : Session τ} {data data' : Table}

/-! ## Texts that are shown -/

/-- The text of an entry that a reason against it shows as it is. -/
def Reason.said : Reason → Option String
  | badKey text => some text
  | unresolved address => some address
  | _ => none

/-- The text of an entry that its record shows as it is. -/
def said (size : Int) (node : Value) : Option String :=
  match examine node size with
  | .ok e => some e.address
  | .error reason => reason.said

/-- The record is a single line just if the entry shows no text with a line break. -/
def Speaks (size : Int) (node : Value) (r : Record) : Prop :=
  r.Tidy ↔ ∀ text ∈ said size node, Unbroken text

theorem missing_of_examine {name : String} (h : examine node size = .error (.missing name)) :
    name ∈ ["public_key", "port", "address"] := by
  cases node with
  | table settings =>
      rw [examine] at h
      cases hkey : stringOf settings "public_key" with
      | error reason =>
          rw [hkey, stringOf_eq_error hkey] at h
          obtain rfl := Reason.missing.inj (Except.error.inj h)
          decide
      | ok key =>
      cases hport : intOf settings "port" with
      | error reason =>
          rw [hkey, hport, intOf_eq_error hport] at h
          obtain rfl := Reason.missing.inj (Except.error.inj h)
          decide
      | ok port =>
      cases haddress : stringOf settings "address" with
      | error reason =>
          rw [hkey, hport, haddress, stringOf_eq_error haddress] at h
          obtain rfl := Reason.missing.inj (Except.error.inj h)
          decide
      | ok address =>
      rw [hkey, hport, haddress] at h
      simp only [Bind.bind, Except.bind] at h
      split at h
      · cases h
      split at h <;> cases h
  | _ => cases h

/-- Beside the text that it shows, a reason has no line break. -/
theorem unbroken_reason_iff {reason : Reason} (h : examine node size = .error reason)
    (hmessage : reason.message = .ok text) :
    Unbroken text ↔ ∀ shown ∈ said size node, Unbroken shown := by
  rw [said, h]
  dsimp only
  cases reason with
  | notTable =>
      obtain rfl := Except.ok.inj hmessage
      exact iff_of_true (by decide) (by simp [Reason.said])
  | missing name =>
      obtain rfl := Except.ok.inj hmessage
      have hnames : ∀ name ∈ ["public_key", "port", "address"], Unbroken name := by decide
      have hname := hnames name (missing_of_examine h)
      exact iff_of_true (.append (.append (by decide) hname) (by decide)) (by simp [Reason.said])
  | badKey key =>
      obtain rfl := Except.ok.inj hmessage
      exact (unbroken_behind (by decide)).trans (by simp [Reason.said, toString])
  | badPort n =>
      rw [Reason.message] at hmessage
      cases hdigits : decimalText n with
      | error e =>
          rw [hdigits] at hmessage
          cases hmessage
      | ok digits =>
          rw [hdigits] at hmessage
          obtain rfl := Except.ok.inj hmessage
          have htext : Unbroken digits := unbroken_decimalText hdigits
          refine iff_of_true ?_ (by simp [Reason.said])
          exact .append (.append (.append (by decide) htext) (by decide)) (by decide)
  | unresolved address =>
      obtain rfl := Except.ok.inj hmessage
      exact (unbroken_behind (by decide)).trans (by simp [Reason.said, toString])

/-! ## Records of entries -/

theorem skipRecord_tidy_iff (index : Nat) (reason : String) :
    (skipRecord index reason).Tidy ↔ Unbroken reason := by
  refine (Record.tidy_iff rfl).trans (unbroken_around ?_ (by decide))
  exact .append (.append (by decide) (unbroken_nat index)) (by decide)

theorem unbroken_of_isKey {key : String} (h : isKey size key = true) : Unbroken key := by
  have hall : ∀ m < 128, Hex.isDigit (Char.ofNat m) = true → Char.ofNat m ∉ lineBreaks := by decide
  rw [isKey, Bool.and_eq_true, List.all_eq_true] at h
  intro c hc
  obtain ⟨n, hn⟩ := Option.isSome_iff_exists.mp (h.2 c hc)
  have hsmall := hall c.toNat (Hex.toNat_lt_of_digit? hn)
  rw [Char.ofNat_toNat] at hsmall
  exact hsmall (h.2 c hc)

theorem addedRecord_tidy_iff (index : Nat) {e : Entry} (hkey : Unbroken e.publicKey) :
    (addedRecord index e).Tidy ↔ Unbroken e.address := by
  refine (Record.tidy_iff rfl).trans ?_
  have hmessage : (addedRecord index e).message
      = s!"Successfully added bootstrap node #{index}: " ++ e.address
        ++ s!":{e.port} {e.publicKey}" := by
    simp only [addedRecord, String.append_assoc]
    rfl
  rw [hmessage]
  refine unbroken_around ?_ ?_
  · exact .append (.append (by decide) (unbroken_nat index)) (by decide)
  · exact .append (.append (.append (by decide) (unbroken_int e.port)) (by decide)) hkey

theorem validate_eq_skipped (h : validate node size = .ok (.skipped text)) :
    ∃ reason, examine node size = .error reason ∧ reason.message = .ok text := by
  rw [validate] at h
  cases hexamine : examine node size with
  | ok e =>
      rw [hexamine] at h
      cases h
  | error reason =>
      rw [hexamine] at h
      cases hmessage : reason.message with
      | error e =>
          simp only [hmessage] at h
          cases h
      | ok shown =>
          simp only [hmessage] at h
          obtain rfl := Verdict.skipped.inj (Except.ok.inj h)
          exact ⟨reason, rfl, hmessage⟩

/-- Handling an entry leaves the record that speaks of it, unless it fails, which leaves none. -/
theorem contact_speaks (engine : Engine τ) (ipv6 : Bool) (index : Nat) (node : Value)
    (s : Session τ) :
    match (contact engine ipv6 index node).run s with
    | (.error _, t) => t.log = s.log
    | (.ok result, t) => ∃ r, (warned result t).log = s.log ++ [r]
      ∧ Speaks engine.publicKeySize node r := by
  rw [run_contact]
  cases hvalid : validate node engine.publicKeySize with
  | error e => rfl
  | ok verdict =>
  cases verdict with
  | skipped text =>
      obtain ⟨reason, hexamine, hmessage⟩ := validate_eq_skipped hvalid
      exact ⟨skipRecord index text, rfl,
        (skipRecord_tidy_iff index text).trans (unbroken_reason_iff hexamine hmessage)⟩
  | accepted e =>
      have hexamine := validate_eq_accepted.mp hvalid
      obtain ⟨-, -, -, -, -, hkey, -⟩ := examine_eq_ok.mp hexamine
      have hsaid : said engine.publicKeySize node = some e.address := by rw [said, hexamine]
      have haddress : Unbroken e.address
          ↔ ∀ text ∈ said engine.publicKeySize node, Unbroken text := by simp [hsaid]
      dsimp only
      rcases engine.bootstrap _ with e' | _ | _
      · rfl
      · refine ⟨skipRecord index _, rfl, (skipRecord_tidy_iff index _).trans ?_⟩
        exact (unbroken_behind (by decide)).trans haddress
      · exact ⟨addedRecord index e, rfl,
          (addedRecord_tidy_iff index (unbroken_of_isKey hkey)).trans haddress⟩

/-! ## The whole list -/

/-- Each entry at the beginning of a list has a record that speaks of it. -/
def Spoken (size : Int) (nodes : List Value) (records : List Record) (whole : Prop) : Prop :=
  ∃ done, done <+: nodes ∧ List.Forall₂ (Speaks size) done records ∧ (whole → done = nodes)

/-- Code that goes over a list adds the records that speak of its entries, of all of them if it
returns. -/
def Tells {α : Type} (size : Int) (nodes : List Value) (x : SeedM τ α) (data : Table)
    (s : Session τ) : Prop :=
  ∃ told, (runIn x data s).2.log = s.log ++ told
    ∧ Spoken size nodes told (∃ a, (runIn x data s).1.1 = .ok a)

theorem Tells.map {α β : Type} {nodes : List Value} {x : SeedM τ α} (g : α → β)
    (h : Tells size nodes x data s) : Tells size nodes (do return g (← x)) data s := by
  obtain ⟨told, hlog, done, hprefix, hspoken, hwhole⟩ := h
  rw [Tells, runIn_bind]
  rcases hx : runIn x data s with ⟨⟨e | a, data₁⟩, t⟩
  · rw [hx] at hlog
    refine ⟨told, hlog, done, hprefix, hspoken, ?_⟩
    rintro ⟨b, hb⟩
    cases hb
  · rw [hx] at hlog hwhole
    exact ⟨told, hlog, done, hprefix, hspoken, fun _ => hwhole ⟨a, rfl⟩⟩

/-- One round of the loop, if the later ones tell of the entries that are left. -/
theorem contactFrom_round {fuel : Nat} {walk walk' : Walk} {rest : List Value} {data₁ : Table}
    (htaken : runIn (advance walk) data s = ((.ok (some (index, node), walk'), data₁), s))
    (hrest : ∀ t, Tells engine.publicKeySize rest (contactFrom engine ipv6 fuel walk') data₁ t) :
    Tells engine.publicKeySize (node :: rest) (contactFrom engine ipv6 (fuel + 1) walk) data s := by
  have hcontact := contact_speaks engine ipv6 index node s
  rw [Tells, runIn_contactFrom_taken htaken]
  rcases hrun : (contact engine ipv6 index node).run s with ⟨e | result, t⟩
  · rw [hrun] at hcontact
    refine ⟨[], hcontact.trans (List.append_nil _).symm, [], List.nil_prefix, .nil, ?_⟩
    rintro ⟨results, hresults⟩
    cases hresults
  · rw [hrun] at hcontact
    obtain ⟨r, hlog, hspeaks⟩ := hcontact
    obtain ⟨told, hlater, done, hprefix, hspoken, hwhole⟩ :=
      (hrest (warned result t)).map (result :: ·)
    refine ⟨r :: told, ?_, node :: done, List.cons_prefix_cons.mpr ⟨rfl, hprefix⟩,
      .cons hspeaks hspoken, fun hreturned => congrArg (node :: ·) (hwhole hreturned)⟩
    rw [← List.singleton_append, ← List.append_assoc, ← hlog]
    exact hlater

/-- On its way, the walk tells of the entries that are left, which the list holds turned around. -/
theorem contactFrom_tells : ∀ (pending : List Value) {fuel index : Nat} {data : Table}
    (s : Session τ), pending.length < fuel →
    data.lookup listName = some (.list pending.reverse) →
    Tells engine.publicKeySize pending (contactFrom engine ipv6 fuel (.under index)) data s
  | [], fuel + 1, index, data, s, _, hdata => by
      have hrun : runIn (contactFrom engine ipv6 (fuel + 1) (.under index)) data s
          = ((.ok [], data), s) := by
        rw [contactFrom, runIn_bind_of_ok (runIn_advance_under index s hdata)]
        rfl
      rw [Tells, hrun]
      exact ⟨[], (List.append_nil _).symm, [], List.nil_prefix, .nil, fun _ => rfl⟩
  | node :: rest, fuel + 1, index, data, s, hfuel, hdata =>
      contactFrom_round (runIn_advance_under index s hdata) fun t =>
        contactFrom_tells rest t (Nat.lt_of_succ_lt_succ hfuel) (lookup_withList rest.reverse hdata)

/-- Where there is nothing to walk over, one record says so. -/
theorem next_idle (hdata : listIn data = []) :
    ∃ r, r.Tidy ∧ (Walk.next data .fresh).run [] = (.ok ⟨none, .ended, data⟩, [r]) := by
  have hconstant : ∀ message, Unbroken message →
      Record.Tidy { level := Level.warning, source, message } :=
    fun _ h => (Record.tidy_iff rfl).mpr h
  rw [Walk.next]
  split
  · exact ⟨_, hconstant _ (by decide), rfl⟩
  · exact ⟨_, hconstant _ (by decide), rfl⟩
  · rename_i hlist
    rw [listIn_of_lookup hlist] at hdata
    cases hdata
  · exact ⟨_, hconstant _ (by decide), rfl⟩

theorem contactAll_idle (engine : Engine τ) (ipv6 : Bool) (hdata : listIn data = [])
    (s : Session τ) : ∃ r, r.Tidy
      ∧ runIn (contactAll engine ipv6) data s = ((.ok ⟨[]⟩, data), s.addRecord r) := by
  obtain ⟨r, htidy, hnext⟩ := next_idle hdata
  refine ⟨r, htidy, ?_⟩
  have hadvance : runIn (advance .fresh) data s = ((.ok (none, .ended), data), s.addRecord r) := by
    rw [runIn_advance, hnext]
    rfl
  rw [contactAll, runIn_bind_of_ok (runIn_get data s), hdata, List.length_nil, contactFrom,
    runIn_bind, runIn_bind_of_ok hadvance]
  rfl

/-- Going over a list with entries tells of them. -/
theorem contactAll_tells (engine : Engine τ) (ipv6 : Bool) {rest : List Value}
    (hdata : data.lookup listName = some (.list (node :: rest))) (s : Session τ) :
    Tells engine.publicKeySize (node :: rest) (contactAll engine ipv6) data s := by
  have hwalk : Tells engine.publicKeySize (node :: rest)
      (contactFrom engine ipv6 ((node :: rest).length + 1) .fresh) data s :=
    contactFrom_round (runIn_advance_fresh s hdata) fun t =>
      contactFrom_tells rest t (by simp) (lookup_withList rest.reverse hdata)
  have hrun : runIn (contactAll engine ipv6) data s
      = runIn (do return ⟨← contactFrom engine ipv6 ((node :: rest).length + 1) .fresh⟩) data s := by
    rw [contactAll, runIn_bind_of_ok (runIn_get data s), listIn_of_lookup hdata]
  have hreport := hwalk.map SeedReport.mk
  rw [Tells] at hreport ⊢
  rw [hrun]
  exact hreport

/-! ## Single lines -/

/-- The texts of the entries of a list that are shown as they are. -/
def saidTexts (size : Int) (data : Table) : List String :=
  (listIn data).filterMap (said size)

theorem tidy_iff_of_spoken {done : List Value} {told : List Record}
    (h : List.Forall₂ (Speaks size) done told) :
    (∀ r ∈ told, r.Tidy) ↔ ∀ node ∈ done, ∀ text ∈ said size node, Unbroken text := by
  induction h with
  | nil => simp
  | cons hfirst hrest ih =>
      rw [List.forall_mem_cons, List.forall_mem_cons, ih]
      exact and_congr_left' hfirst

theorem Spoken.repeats {nodes : List Value} {told : List Record} {whole : Prop}
    (h : Spoken size nodes told whole) : Repeats (nodes.filterMap (said size)) told whole := by
  obtain ⟨done, hprefix, hspoken, hwhole⟩ := h
  have htidy := tidy_iff_of_spoken hspoken
  constructor
  · intro hunbroken
    refine htidy.mpr fun node hnode text htext => hunbroken text ?_
    exact List.mem_filterMap.mpr ⟨node, hprefix.subset hnode, htext⟩
  · rintro hreturned ⟨text, htext, hbroken⟩
    obtain ⟨node, hnode, hsaid⟩ := List.mem_filterMap.mp htext
    rw [hwhole hreturned] at htidy
    by_contra hnone
    refine hbroken (htidy.mp (fun r hr => ?_) node hnode text hsaid)
    by_contra huntidy
    exact hnone ⟨r, hr, huntidy⟩

/-- What comes of the list of seeds, and all that is logged on the way. -/
theorem contactAll_repeats (engine : Engine τ) (ipv6 : Bool) {result : Except Failure SeedReport}
    (h : runIn (contactAll engine ipv6) data s = ((result, data'), s')) :
    ∃ told, s'.log = s.log ++ told
      ∧ Repeats (saidTexts engine.publicKeySize data) told (∃ report, result = .ok report) := by
  cases hlist : listIn data with
  | nil =>
      obtain ⟨r, htidy, hrun⟩ := contactAll_idle engine ipv6 hlist s
      obtain ⟨-, rfl⟩ := Prod.mk.inj (hrun.symm.trans h)
      have hnone : saidTexts engine.publicKeySize data = [] := by rw [saidTexts, hlist]; rfl
      refine ⟨[r], rfl, fun _ => List.forall_mem_singleton.mpr htidy, ?_⟩
      rintro - ⟨text, htext, -⟩
      rw [hnone] at htext
      cases htext
  | cons node rest =>
      have hdata : data.lookup listName = some (.list (node :: rest)) := by
        rw [listIn] at hlist
        split at hlist
        · rw [‹data.lookup listName = _›, hlist]
        · cases hlist
      obtain ⟨told, hlog, hspoken⟩ := contactAll_tells engine ipv6 hdata s
      rw [h] at hlog hspoken
      refine ⟨told, hlog, ?_⟩
      rw [saidTexts, hlist]
      exact hspoken.repeats

/-- What a settings table and its seeds make the log say is on single lines just if the texts that
are shown as they are have no line break: the two paths and the message of the day; and of each
entry the address, or the public key if that is wrong. -/
theorem operator_lines_single_iff (engine : Engine τ) (ipv6 : Bool) (data : Table)
    (s : Session τ) :
    (∀ result records, (Config.resolve data).run [] = (result, records) →
      Repeats (Config.shownTexts data) records (∃ r, result = .ok r))
    ∧ ∀ result data' s', runIn (contactAll engine ipv6) data s = ((result, data'), s') →
      ∃ told, s'.log = s.log ++ told
        ∧ Repeats (saidTexts engine.publicKeySize data) told (∃ report, result = .ok report) :=
  ⟨fun _ _ => Config.resolve_repeats, fun _ _ _ => contactAll_repeats engine ipv6⟩

theorem operator_lines_single_iff_split_address :
    let engine : Engine Nat :=
      ⟨1, fun _ => .ok (), fun _ => .ok (), fun _ => .ok true, fun _ => .ok 0, fun _ => .ok (),
        fun _ => .ok (), fun _ => .ok true, fun _ => .ok none⟩
    let seed : Value :=
      .table [("public_key", .str "0a"), ("port", .int 33445), ("address", .str "a\nb")]
    let data : Table := [("motd", .str "hello"), (listName, .list [seed])]
    let s : Session Nat := .start ⟨[], []⟩ [] ⟨true, [], 0⟩
    (∀ r ∈ ((Config.resolve data).run []).2, r.Tidy)
      ∧ ∃ report data' s', runIn (contactAll engine true) data s = ((.ok report, data'), s')
        ∧ ∃ r ∈ s'.log, ¬r.Tidy := by
  intro engine seed data s
  obtain ⟨hsettings, hseeds⟩ := operator_lines_single_iff engine true data s
  refine ⟨(hsettings _ _ (Prod.eta _).symm).tidy (by decide), ?_⟩
  obtain ⟨report, data', s', hrun⟩ : ∃ report data' s',
      runIn (contactAll engine true) data s = ((.ok report, data'), s') := ⟨_, _, _, rfl⟩
  obtain ⟨told, hlog, hrepeats⟩ := hseeds _ _ _ hrun
  obtain ⟨r, hr, huntidy⟩ := hrepeats.broken ⟨report, rfl⟩ ⟨"a\nb", by decide, by decide⟩
  refine ⟨report, data', s', hrun, r, ?_, huntidy⟩
  rw [hlog]
  exact List.mem_append_right _ hr

/-- The message of the day can end its line and write the next one. -/
theorem forged_line : ∃ r ∈ ((Config.resolve [("motd", .str "a\nERROR: forged")]).run []).2,
    ¬r.Tidy ∧ LineFormat.system.write 0 r = .ok "INFO: 'motd': a\nERROR: forged (configured)" := by
  have hshown : ∃ r ∈ ((Config.resolve [("motd", .str "a\nERROR: forged")]).run []).2,
      (LineFormat.system.write 0 r).toOption
        = some "INFO: 'motd': a\nERROR: forged (configured)" := by decide +kernel
  obtain ⟨r, hr, hline⟩ := hshown
  cases hwrite : LineFormat.system.write 0 r with
  | error e =>
      rw [hwrite] at hline
      cases hline
  | ok line =>
      rw [hwrite] at hline
      obtain rfl := Option.some.inj hline
      refine ⟨r, hr, fun htidy => ?_, hwrite⟩
      obtain ⟨line, hsame, hunbroken⟩ := htidy 0
      obtain rfl := Except.ok.inj (hwrite.symm.trans hsame)
      exact absurd hunbroken (by decide)

end SeedNode.Seeds

import SeedNode.Proofs.Effects
import SeedNode.Seeds.Contact

/-!
# Contacting every seed once and in order

The walk turns the list around and pops the entries off its end, while results, calls and records
are made one entry at a time. `Walked` says what this comes to: the entries are handled first to
last, the first under the index that is due, and each leaves its result. The loop makes it true
(`contactFrom_walked`), the list being always the rest of the entries turned around; what holds of
the results, the calls and the records as a whole follows from it by induction.
-/

namespace SeedNode.Seeds

variable {τ : Type} {engine : Engine τ} {ipv6 : Bool} {s s₁ s' : Session τ} {data data' : Table}

/-! ## Entries -/

theorem bytes?_isSome : ∀ digits : List Char, digits.all Hex.isDigit = true →
    digits.length % 2 = 0 → (Hex.bytes? digits).isSome = true
  | [], _, _ => rfl
  | [_], _, h => by simp at h
  | high :: low :: rest, hall, heven => by
      simp only [List.all_cons, Bool.and_eq_true, Hex.isDigit] at hall
      obtain ⟨hhigh, hlow, hrest⟩ := hall
      obtain ⟨h, hh⟩ := Option.isSome_iff_exists.mp hhigh
      obtain ⟨l, hl⟩ := Option.isSome_iff_exists.mp hlow
      obtain ⟨tail, ht⟩ := Option.isSome_iff_exists.mp
        (bytes?_isSome rest hrest (by simp only [List.length_cons] at heven; omega))
      rw [Hex.bytes?, hh, hl, ht]
      rfl

theorem stringOf_eq_ok {settings : Table} {name text : String} :
    stringOf settings name = .ok text ↔ settings.lookup name = some (.str text) := by
  rw [stringOf]
  split <;> simp_all

theorem intOf_eq_ok {settings : Table} {name : String} {n : Int} :
    intOf settings name = .ok n ↔ settings.lookup name = some (.int n) := by
  rw [intOf]
  split <;> simp_all

/-- What passes the check: a table with all three settings, a key of the right form and a port. -/
theorem examine_eq_ok {node : Value} {size : Int} {e : Entry} :
    examine node size = .ok e ↔ ∃ settings, node = .table settings
      ∧ settings.lookup "public_key" = some (.str e.publicKey)
      ∧ settings.lookup "port" = some (.int e.port)
      ∧ settings.lookup "address" = some (.str e.address)
      ∧ isKey size e.publicKey = true ∧ Port.isValid e.port = true := by
  cases node with
  | table settings =>
      simp only [examine, except_bind_eq_ok, stringOf_eq_ok, intOf_eq_ok]
      constructor
      · rintro ⟨key, hkey, port, hport, address, haddress, h⟩
        split at h
        · cases h
        split at h
        · cases h
        rename_i hform hrange
        obtain rfl := Except.ok.inj h
        exact ⟨settings, rfl, hkey, hport, haddress, by simpa using hform, by simpa using hrange⟩
      · rintro ⟨settings', heq, hkey, hport, haddress, hform, hrange⟩
        obtain rfl := Value.table.inj heq
        refine ⟨_, hkey, _, hport, _, haddress, ?_⟩
        rw [if_neg (by simp [hform]), if_neg (by simp [hrange])]
        rfl
  | _ => simp [examine]

theorem validate_eq_accepted {node : Value} {size : Int} {e : Entry} :
    validate node size = .ok (.accepted e) ↔ examine node size = .ok e := by
  rw [validate]
  cases examine node size with
  | ok e' => simp
  | error reason =>
      cases hmessage : reason.message <;>
        simp [hmessage, liftTooLong, Bind.bind, Except.bind, pure, Except.pure]

/-- The key of an entry that passed is made of whole bytes. -/
theorem decode_of_accepted {node : Value} {size : Int} {e : Entry}
    (h : validate node size = .ok (.accepted e)) :
    Hex.decode? e.publicKey = some e.publicKeyBytes := by
  obtain ⟨settings, -, -, -, -, hkey, -⟩ := examine_eq_ok.mp (validate_eq_accepted.mp h)
  rw [isKey, Bool.and_eq_true, beq_iff_eq] at hkey
  obtain ⟨hlength, hdigits⟩ := hkey
  obtain ⟨bytes, hbytes⟩ := Option.isSome_iff_exists.mp
    (bytes?_isSome e.publicKey.toList hdigits (by rw [String.length_toList]; omega))
  rw [Entry.publicKeyBytes, Hex.decode?, hbytes]
  rfl

/-- The call by which an entry is contacted, if it passes the check. -/
def callOf? (engine : Engine τ) (ipv6 : Bool) (node : Value) : Option (Call τ) :=
  match validate node engine.publicKeySize with
  | .ok (.accepted e) => some (.bootstrap e.address ipv6 e.port e.publicKeyBytes)
  | _ => none

/-- The warning about a skipped entry. -/
def skipRecord (index : Nat) (reason : String) : Record :=
  { level := Level.warning, source,
    message := s!"Bootstrap node #{index}: {reason}. Skipping the node." }

/-- The record of an entry that was added. -/
def addedRecord (index : Nat) (e : Entry) : Record :=
  { level := Level.info, source,
    message := s!"Successfully added bootstrap node #{index}: {e.address}:{e.port} {e.publicKey}" }

/-! ## One entry -/

/-- The warning about the result of an entry, if it was skipped. -/
def EntryResult.warning? (r : EntryResult) : Option Record :=
  r.skipped.map (skipRecord r.index)

/-- What handling an entry comes to. -/
structure Handled (engine : Engine τ) (ipv6 : Bool) (index : Nat) (node : Value)
    (result : EntryResult) (s s' : Session τ) : Prop where
  index : result.index = index
  calls : s'.calls = s.calls ++ (callOf? engine ipv6 node).toList
  added : result.skipped = none ↔ ∃ call, callOf? engine ipv6 node = some call
    ∧ engine.bootstrap (s.calls ++ [call]) = .ok true
  log : ∃ r, s'.log = s.log ++ [r]
    ∧ (result.warning? = some r ∨ result.warning? = none ∧ r.level = Level.info)

/-- A session after the warning about a result, if there is one. -/
def warned (result : EntryResult) (s : Session τ) : Session τ :=
  match result.warning? with
  | some r => s.addRecord r
  | none => s

/-- Contacting an entry, by the outcome of the check and the answer of the engine. -/
theorem run_contact (engine : Engine τ) (ipv6 : Bool) (index : Nat) (node : Value)
    (s : Session τ) :
    (contact engine ipv6 index node).run s = match validate node engine.publicKeySize with
      | .error e => (.error e, s)
      | .ok (.skipped reason) => (.ok ⟨index, some reason⟩, s)
      | .ok (.accepted e) =>
        let call := .bootstrap e.address ipv6 e.port e.publicKeyBytes
        match engine.bootstrap (s.calls ++ [call]) with
        | .error e => (.error e, s.addCall call)
        | .ok false => (.ok ⟨index, some s!"Invalid 'address': {e.address}"⟩, s.addCall call)
        | .ok true => (.ok ⟨index, none⟩, (s.addCall call).addRecord (addedRecord index e)) := by
  rcases hvalid : validate node engine.publicKeySize with e | e | reason
  · simp [contact, hvalid]
  · rcases hanswer : engine.bootstrap
      (s.calls ++ [.bootstrap e.address ipv6 e.port e.publicKeyBytes]) with e | _ | _ <;>
      simp [contact, hvalid, hanswer, addedRecord]
  · simp [contact, hvalid]

theorem contact_handled {index : Nat} {node : Value} {result : EntryResult}
    (h : (contact engine ipv6 index node).run s = (.ok result, s')) :
    Handled engine ipv6 index node result s (warned result s') := by
  rw [run_contact] at h
  cases hvalid : validate node engine.publicKeySize with
  | error e =>
      rw [hvalid] at h
      cases h
  | ok verdict =>
  cases verdict with
  | skipped reason =>
      rw [hvalid] at h
      obtain ⟨hresult, rfl⟩ := Prod.mk.inj h
      obtain rfl := Except.ok.inj hresult
      have hcall : callOf? engine ipv6 node = none := by rw [callOf?, hvalid]
      refine ⟨rfl, ?_, ?_, skipRecord index reason, rfl, .inl rfl⟩
      · rw [hcall]
        exact (List.append_nil _).symm
      · simp [hcall]
  | accepted e =>
      have hcall : callOf? engine ipv6 node
          = some (.bootstrap e.address ipv6 e.port e.publicKeyBytes) := by rw [callOf?, hvalid]
      simp only [hvalid] at h
      split at h
      case h_1 => cases h
      case h_2 hanswer =>
        obtain ⟨hresult, rfl⟩ := Prod.mk.inj h
        obtain rfl := Except.ok.inj hresult
        refine ⟨rfl, ?_, ?_, skipRecord index _, rfl, .inl rfl⟩
        · rw [hcall]
          rfl
        · simp [hcall, hanswer]
      case h_3 hanswer =>
        obtain ⟨hresult, rfl⟩ := Prod.mk.inj h
        obtain rfl := Except.ok.inj hresult
        refine ⟨rfl, ?_, ?_, addedRecord index e, rfl, .inr ⟨rfl, rfl⟩⟩
        · rw [hcall]
          rfl
        · simp [hcall, hanswer]

/-! ## The walk -/

theorem lookup_withList {data : Table} {nodes : List Value} (more : List Value)
    (h : data.lookup listName = some (.list nodes)) :
    (withList more data).lookup listName = some (.list more) := by
  induction data with
  | nil => cases h
  | cons entry rest ih =>
      obtain ⟨name, v⟩ := entry
      by_cases hname : name = listName
      · simp [withList, hname]
      · have hne : (listName == name) = false := beq_eq_false_iff_ne.mpr (Ne.symm hname)
        rw [List.lookup_cons, hne] at h
        rw [withList, List.map_cons, if_neg hname, List.lookup_cons, hne]
        exact ih h

theorem listIn_of_lookup {nodes : List Value} (h : data.lookup listName = some (.list nodes)) :
    listIn data = nodes := by
  rw [listIn, h]

theorem takeLast_reverse (index : Nat) (node : Value) (nodes : List Value) (data : Table) :
    takeLast index (node :: nodes).reverse data
      = ⟨some (index, node), .under (index + 1), withList nodes.reverse data⟩ := by
  rw [takeLast, List.getLast?_reverse, List.head?_cons]
  simp [List.reverse_cons]

theorem runIn_advance (walk : Walk) (data : Table) (s : Session τ) :
    runIn (advance walk) data s = match (walk.next data).run [] with
      | (.ok stepped, records) =>
        ((.ok (stepped.taken, stepped.walk), stepped.data), records.foldl Session.addRecord s)
      | (.error e, records) => ((.error e, data), records.foldl Session.addRecord s) := by
  rcases hnext : (walk.next data).run [] with ⟨e | stepped, records⟩ <;> simp [advance, hnext]

/-- On its way, the list is the rest of the entries turned around. -/
theorem runIn_advance_under {pending : List Value} (index : Nat) (s : Session τ)
    (h : data.lookup listName = some (.list pending.reverse)) :
    runIn (advance (.under index)) data s = match pending with
      | [] => ((.ok (none, .ended), data), s)
      | node :: rest =>
        ((.ok (some (index, node), .under (index + 1)), withList rest.reverse data), s) := by
  have hnext : (Walk.next data (.under index)).run []
      = (.ok (takeLast index (listIn data) data), []) := rfl
  rw [runIn_advance, hnext, listIn_of_lookup h]
  cases pending with
  | nil => rfl
  | cons node rest =>
      rw [takeLast_reverse]
      rfl

/-- The record of an empty list. -/
def emptyRecord : Record :=
  { level := Level.warning, source,
    message := "No bootstrap nodes found. Skipping bootstrapping." }

theorem runIn_advance_fresh {nodes : List Value} (s : Session τ)
    (h : data.lookup listName = some (.list nodes)) :
    runIn (advance .fresh) data s = match nodes with
      | [] => ((.ok (none, .ended), data), s.addRecord emptyRecord)
      | node :: rest =>
        ((.ok (some (0, node), .under 1), withList rest.reverse data), s) := by
  cases nodes with
  | nil =>
      have hnext : (Walk.next data .fresh).run [] = (.ok ⟨none, .ended, data⟩, [emptyRecord]) := by
        rw [Walk.next, h]
        rfl
      rw [runIn_advance, hnext]
      rfl
  | cons node rest =>
      have hnext : (Walk.next data .fresh).run []
          = (.ok (takeLast 0 (node :: rest).reverse data), []) := by
        rw [Walk.next, h]
        rfl
      rw [runIn_advance, hnext, takeLast_reverse]
      rfl

/-! ## All entries -/

/-- The entries are handled one after another, the first under the given index. -/
inductive Walked (engine : Engine τ) (ipv6 : Bool) :
    Nat → List Value → List EntryResult → Session τ → Session τ → Prop
  | done (index : Nat) (s : Session τ) : Walked engine ipv6 index [] [] s s
  | step {index node nodes result results s s₁ s'}
      (h : Handled engine ipv6 index node result s s₁)
      (rest : Walked engine ipv6 (index + 1) nodes results s₁ s') :
      Walked engine ipv6 index (node :: nodes) (result :: results) s s'

/-- One round of the loop contacts the entry that was taken. Where this fails, so does the loop. -/
theorem runIn_contactFrom_taken {fuel index : Nat} {walk walk' : Walk} {node : Value}
    {data₁ : Table}
    (htaken : runIn (advance walk) data s = ((.ok (some (index, node), walk'), data₁), s₁)) :
    runIn (contactFrom engine ipv6 (fuel + 1) walk) data s
      = match (contact engine ipv6 index node).run s₁ with
        | (.error e, t) => ((.error e, data₁), t)
        | (.ok result, t) =>
          runIn (do return result :: (← contactFrom engine ipv6 fuel walk')) data₁
            (warned result t) := by
  rcases hrun : (contact engine ipv6 index node).run s₁ with ⟨e | result, t⟩
  · simp [contactFrom, htaken, hrun]
  · obtain ⟨i, skipped⟩ := result
    obtain rfl : i = index := (contact_handled hrun).index
    cases skipped <;> simp [contactFrom, htaken, hrun, warned, EntryResult.warning?, skipRecord]

/-- A round of a loop that returns has handled its entry. -/
theorem contactFrom_taken {fuel index : Nat} {walk walk' : Walk} {node : Value} {data₁ : Table}
    {results : List EntryResult}
    (htaken : runIn (advance walk) data s = ((.ok (some (index, node), walk'), data₁), s₁))
    (h : runIn (contactFrom engine ipv6 (fuel + 1) walk) data s = ((.ok results, data'), s')) :
    ∃ result rest t, Handled engine ipv6 index node result s₁ t ∧ results = result :: rest
      ∧ runIn (contactFrom engine ipv6 fuel walk') data₁ t = ((.ok rest, data'), s') := by
  rw [runIn_contactFrom_taken htaken] at h
  rcases hrun : (contact engine ipv6 index node).run s₁ with ⟨e | result, t⟩
  · rw [hrun] at h
    cases h
  · rw [hrun] at h
    obtain ⟨rest, data₂, t₂, hloop, hpure⟩ := runIn_bind_eq_ok.mp h
    obtain ⟨hstate, rfl⟩ := Prod.mk.inj hpure
    obtain ⟨hresults, rfl⟩ := Prod.mk.inj hstate
    exact ⟨result, rest, _, contact_handled hrun, (Except.ok.inj hresults).symm, hloop⟩

theorem contactFrom_walked : ∀ (pending : List Value) {fuel index : Nat} {data : Table}
    {s : Session τ} {results : List EntryResult}, pending.length < fuel →
    data.lookup listName = some (.list pending.reverse) →
    runIn (contactFrom engine ipv6 fuel (.under index)) data s = ((.ok results, data'), s') →
    Walked engine ipv6 index pending results s s'
      ∧ data'.lookup listName = some (.list [])
  | [], fuel + 1, index, data, s, results, _, hdata, h => by
      simp only [contactFrom, runIn_bind, runIn_advance_under index s hdata, runIn_pure] at h
      obtain ⟨hstate, rfl⟩ := Prod.mk.inj h
      obtain ⟨hresults, rfl⟩ := Prod.mk.inj hstate
      obtain rfl := Except.ok.inj hresults
      exact ⟨.done index s, hdata⟩
  | node :: rest, fuel + 1, index, data, s, results, hfuel, hdata, h => by
      obtain ⟨result, results, t, hhandled, rfl, hloop⟩ :=
        contactFrom_taken (runIn_advance_under index s hdata) h
      obtain ⟨hwalked, hempty⟩ := contactFrom_walked rest (Nat.lt_of_succ_lt_succ hfuel)
        (lookup_withList rest.reverse hdata) hloop
      exact ⟨.step hhandled hwalked, hempty⟩

/-- A run over a list of entries that returns has handled each of them and left none. The empty
list gets a warning of its own. -/
theorem contactAll_walked {nodes : List Value} {report : SeedReport}
    (hdata : data.lookup listName = some (.list nodes))
    (h : runIn (contactAll engine ipv6) data s = ((.ok report, data'), s')) :
    Walked engine ipv6 0 nodes report.results
        (if nodes = [] then s.addRecord emptyRecord else s) s'
      ∧ data'.lookup listName = some (.list []) := by
  rw [contactAll, runIn_bind_of_ok (runIn_get data s), listIn_of_lookup hdata,
    runIn_bind_eq_ok] at h
  obtain ⟨results, data₁, s₁, hloop, hpure⟩ := h
  obtain ⟨hstate, rfl⟩ := Prod.mk.inj hpure
  obtain ⟨hreport, rfl⟩ := Prod.mk.inj hstate
  obtain rfl := Except.ok.inj hreport
  cases nodes with
  | nil =>
      rw [contactFrom, runIn_bind_of_ok (runIn_advance_fresh s hdata)] at hloop
      obtain ⟨hstate, rfl⟩ := Prod.mk.inj hloop
      obtain ⟨hresults, rfl⟩ := Prod.mk.inj hstate
      obtain rfl := Except.ok.inj hresults
      exact ⟨.done 0 _, hdata⟩
  | cons node rest =>
      obtain ⟨result, results, t, hhandled, rfl, hrest⟩ :=
        contactFrom_taken (runIn_advance_fresh s hdata) hloop
      obtain ⟨hwalked, hempty⟩ := contactFrom_walked rest (by simp)
        (lookup_withList rest.reverse hdata) hrest
      exact ⟨.step hhandled hwalked, hempty⟩

/-! ## What contacting keeps -/

section Keeps

variable {R : Session τ → Session τ → Prop}

theorem contact_keeps (hr : Quiet R)
    (hcall : ∀ address port key s, R s (s.addCall (.bootstrap address ipv6 port key)))
    (engine : Engine τ) (index : Nat) (node : Value) :
    Keeps R (contact engine ipv6 index node) := by
  refine .bind hr.trans (hr.ofExcept _) fun verdict => ?_
  cases verdict with
  | skipped reason => exact .pure hr.refl _
  | accepted e =>
      refine .bind hr.trans (Quiet.ask (hcall _ _ _) _) fun answer => ?_
      split
      · exact .bind hr.trans (hr.note _ _ _) fun _ => .pure hr.refl _
      · exact .pure hr.refl _

theorem contactFrom_keeps (hr : Quiet R)
    (hcall : ∀ address port key s, R s (s.addCall (.bootstrap address ipv6 port key)))
    (engine : Engine τ) (fuel : Nat) (walk : Walk) :
    KeepsIn R (contactFrom engine ipv6 fuel walk) := by
  have leaves : ∀ {α : Type} (v : α), KeepsIn R (pure v : SeedM τ α) := fun _ _ s => hr.refl s
  have hadvance : ∀ walk, KeepsIn R (advance walk : SeedM τ _) := by
    intro walk
    refine .bind hr.trans (fun _ s => hr.refl s) fun data => ?_
    refine .bind hr.trans (.within (hr.onLog _)) fun stepped => ?_
    exact .bind hr.trans (fun _ s => hr.refl s) fun _ => leaves _
  induction fuel generalizing walk with
  | zero => exact leaves _
  | succ fuel ih =>
      refine .bind hr.trans (hadvance walk) fun taken => ?_
      obtain ⟨_ | ⟨index, node⟩, walk'⟩ := taken
      · exact leaves _
      · have hcontact := contact_keeps hr hcall engine index node
        refine .bind hr.trans (.within hcontact) fun result => ?_
        split
        · exact .bind hr.trans (.within (hr.note _ _ _)) fun _ =>
            .bind hr.trans (ih walk') fun _ => leaves _
        · exact .bind hr.trans (ih walk') fun _ => leaves _

theorem contactAll_keeps (hr : Quiet R)
    (hcall : ∀ address port key s, R s (s.addCall (.bootstrap address ipv6 port key)))
    (engine : Engine τ) : KeepsIn R (contactAll engine ipv6) := by
  refine .bind hr.trans (fun _ s => hr.refl s) fun data => ?_
  exact .bind hr.trans (contactFrom_keeps hr hcall engine _ _) fun _ _ s => hr.refl s

/-- Whether or not it fails, contacting the seeds in a file makes records and contacts nodes, and
does nothing else. -/
theorem contactFile_keeps (hr : Quiet R)
    (hcall : ∀ address port key s, R s (s.addCall (.bootstrap address ipv6 port key)))
    (path : Path) (engine : Engine τ) : Keeps R (contactFile path engine ipv6) := by
  refine .bind hr.trans (hr.askFiles _) fun data => ?_
  refine .bind hr.trans (fun s => contactAll_keeps hr hcall engine data s) fun report => ?_
  exact .bind hr.trans (hr.note _ _ _) fun _ => .pure hr.refl _

end Keeps

/-! ## What all entries come to -/

section Walked

variable {index : Nat} {nodes : List Value} {results : List EntryResult}

theorem Walked.indices (h : Walked engine ipv6 index nodes results s s') :
    results.map (·.index) = List.range' index nodes.length := by
  induction h with
  | done index s => rfl
  | step h _ ih => rw [List.map_cons, h.index, ih, List.length_cons, List.range'_succ]

theorem Walked.length (h : Walked engine ipv6 index nodes results s s') :
    results.length = nodes.length := by
  rw [← List.length_map, h.indices, List.length_range']

theorem Walked.calls (h : Walked engine ipv6 index nodes results s s') :
    s'.calls = s.calls ++ nodes.filterMap (callOf? engine ipv6) := by
  induction h with
  | done index s => simp
  | @step index node nodes result results s s₁ s' h _ ih =>
      rw [ih, h.calls, List.append_assoc]
      cases hcall : callOf? engine ipv6 node <;> simp [hcall]

/-- The engine answers for an entry by the calls that the entries before it led to. -/
theorem Walked.added (h : Walked engine ipv6 index nodes results s s') :
    ∀ (i : Nat) (node : Value), nodes[i]? = some node → ∃ result, results[i]? = some result
      ∧ (result.skipped = none ↔ ∃ call, callOf? engine ipv6 node = some call
        ∧ engine.bootstrap (s.calls ++ (nodes.take i).filterMap (callOf? engine ipv6) ++ [call])
          = .ok true) := by
  induction h with
  | done index s =>
      intro i node hnode
      cases hnode
  | @step index first nodes result results s s₁ s' h _ ih =>
      intro i node hnode
      cases i with
      | zero =>
          obtain rfl := Option.some.inj hnode
          exact ⟨result, rfl, by simpa using h.added⟩
      | succ i =>
          obtain ⟨later, hlater, hadded⟩ := ih i node hnode
          refine ⟨later, hlater, hadded.trans ?_⟩
          have hcalls : s₁.calls ++ (nodes.take i).filterMap (callOf? engine ipv6)
              = s.calls ++ ((first :: nodes).take (i + 1)).filterMap (callOf? engine ipv6) := by
            rw [h.calls, List.append_assoc, List.take_succ_cons]
            cases hcall : callOf? engine ipv6 first <;> simp [hcall]
          rw [hcalls]

/-- Whether a record is a warning about an entry. -/
def isEntryWarning (r : Record) : Bool :=
  r.level == Level.warning && "Bootstrap node #".toList.isPrefixOf r.message.toList

theorem isEntryWarning_skipRecord (index : Nat) (reason : String) :
    isEntryWarning (skipRecord index reason) = true := by
  have hmessage : (skipRecord index reason).message
      = "Bootstrap node #" ++ (toString index ++ ": " ++ reason ++ ". Skipping the node.") := by
    simp only [skipRecord, String.append_assoc]
    rfl
  rw [isEntryWarning, hmessage, String.toList_append,
    List.isPrefixOf_iff_prefix.mpr (List.prefix_append _ _)]
  rfl

theorem Handled.warnings {node : Value} {result : EntryResult}
    (h : Handled engine ipv6 index node result s s') : ∃ r, s'.log = s.log ++ [r]
      ∧ [r].filter isEntryWarning = result.warning?.toList := by
  obtain ⟨r, hlog, hr | ⟨hnone, hlevel⟩⟩ := h.log
  · refine ⟨r, hlog, ?_⟩
    have hwarns : isEntryWarning r = true := by
      obtain ⟨reason, -, rfl⟩ := Option.map_eq_some_iff.mp hr
      exact isEntryWarning_skipRecord result.index reason
    rw [hr, List.filter_cons_of_pos hwarns]
    rfl
  · refine ⟨r, hlog, ?_⟩
    have hwarns : ¬isEntryWarning r = true := by
      intro hwarns
      rw [isEntryWarning, hlevel, Bool.and_eq_true] at hwarns
      exact absurd hwarns.1 (by decide)
    rw [hnone, List.filter_cons_of_neg hwarns]
    rfl

theorem Walked.warnings (h : Walked engine ipv6 index nodes results s s') :
    ∃ records, s'.log = s.log ++ records
      ∧ records.filter isEntryWarning = results.filterMap EntryResult.warning? := by
  induction h with
  | done index s => exact ⟨[], by simp, rfl⟩
  | @step index node nodes result results s s₁ s' h _ ih =>
      obtain ⟨r, hlog, hfirst⟩ := h.warnings
      obtain ⟨records, hrest, hrecords⟩ := ih
      refine ⟨r :: records, by rw [hrest, hlog, List.append_assoc, List.singleton_append], ?_⟩
      rw [← List.singleton_append, List.filter_append, hfirst, hrecords]
      cases hwarn : result.warning? <;> simp [hwarn]

end Walked

theorem SeedReport.added_add_skipped (r : SeedReport) :
    r.added + r.skipped = r.results.length := by
  rw [added, skipped, List.length_eq_countP_add_countP (p := fun r => r.skipped.isNone)]
  congr 1
  apply List.countP_congr
  intro result _
  cases result.skipped <;> simp

theorem callOf?_eq_some {node : Value} {call : Call τ} :
    callOf? engine ipv6 node = some call ↔ ∃ e key,
      validate node engine.publicKeySize = .ok (.accepted e)
        ∧ Hex.decode? e.publicKey = some key ∧ call = .bootstrap e.address ipv6 e.port key := by
  constructor
  · intro h
    rw [callOf?] at h
    split at h
    · rename_i e hvalid
      exact ⟨e, _, hvalid, decode_of_accepted hvalid, (Option.some.inj h).symm⟩
    · cases h
  · rintro ⟨e, key, hvalid, hkey, rfl⟩
    obtain rfl := Option.some.inj ((decode_of_accepted hvalid).symm.trans hkey)
    rw [callOf?, hvalid]

/-- A run over a list of entries loses, doubles and reorders nothing. Every entry has its result,
in the order of the list and under its index. The engine was called for each entry that passes the
check and for no other, and an entry counts as added if the engine then answered that it is. Every
entry skipped has one warning with its index. The list is used up. -/
theorem contactAll_complete {nodes : List Value} {report : SeedReport}
    (hdata : data.lookup listName = some (.list nodes))
    (h : runIn (contactAll engine ipv6) data s = ((.ok report, data'), s')) :
    report.results.map (·.index) = List.range nodes.length
      ∧ s'.calls = s.calls ++ nodes.filterMap (callOf? engine ipv6)
      ∧ (∀ node call, callOf? engine ipv6 node = some call ↔ ∃ e key,
        validate node engine.publicKeySize = .ok (.accepted e)
          ∧ Hex.decode? e.publicKey = some key ∧ call = .bootstrap e.address ipv6 e.port key)
      ∧ (∀ (i : Nat) (node : Value), nodes[i]? = some node →
        ∃ result, report.results[i]? = some result
          ∧ (result.skipped = none ↔ ∃ call, callOf? engine ipv6 node = some call
            ∧ engine.bootstrap
              (s.calls ++ (nodes.take i).filterMap (callOf? engine ipv6) ++ [call]) = .ok true))
      ∧ report.added + report.skipped = nodes.length
      ∧ (∃ records, s'.log = s.log ++ records
        ∧ records.filter isEntryWarning = report.results.filterMap EntryResult.warning?)
      ∧ data'.lookup listName = some (.list []) := by
  obtain ⟨hwalked, hempty⟩ := contactAll_walked hdata h
  have hcalls : (if nodes = [] then s.addRecord emptyRecord else s).calls = s.calls := by
    split <;> rfl
  refine ⟨?_, ?_, fun node call => callOf?_eq_some, ?_, ?_, ?_, hempty⟩
  · rw [hwalked.indices, List.range_eq_range']
  · rw [hwalked.calls, hcalls]
  · rw [← hcalls]
    exact hwalked.added
  · rw [report.added_add_skipped, hwalked.length]
  · obtain ⟨records, hlog, hrecords⟩ := hwalked.warnings
    by_cases hnodes : nodes = []
    · rw [if_pos hnodes] at hlog
      refine ⟨emptyRecord :: records, by rw [hlog]; simp [Session.addRecord], ?_⟩
      rw [List.filter_cons_of_neg (by decide), hrecords]
    · rw [if_neg hnodes] at hlog
      exact ⟨records, hlog, hrecords⟩

theorem contactAll_complete_bad_then_good :
    let engine : Engine Nat :=
      ⟨1, fun _ => .ok (), fun _ => .ok (), fun _ => .ok true, fun _ => .ok 0, fun _ => .ok (),
        fun _ => .ok (), fun _ => .ok true, fun _ => .ok none⟩
    let good : Value :=
      .table [("public_key", .str "0a"), ("port", .int 33445), ("address", .str "node.example")]
    let data : Table := [("port", .int 1), (listName, .list [.int 7, good])]
    let s : Session Nat := .start ⟨[], []⟩ [] ⟨true, [], 0⟩
    ∃ report data' s', runIn (contactAll engine true) data s = ((.ok report, data'), s')
      ∧ report.results.map (·.index) = [0, 1]
      ∧ s'.calls = [.bootstrap "node.example" true 33445 [10]]
      ∧ report.added + report.skipped = 2
      ∧ data'.lookup listName = some (.list []) := by
  intro engine good data s
  have hdata : data.lookup listName = some (.list [.int 7, good]) := rfl
  obtain ⟨report, data', s', hrun⟩ : ∃ report data' s',
      runIn (contactAll engine true) data s = ((.ok report, data'), s') := ⟨_, _, _, rfl⟩
  obtain ⟨hindices, hcalls, -, -, hcounts, -, hempty⟩ := contactAll_complete hdata hrun
  exact ⟨report, data', s', hrun, hindices, hcalls, hcounts, hempty⟩

end SeedNode.Seeds

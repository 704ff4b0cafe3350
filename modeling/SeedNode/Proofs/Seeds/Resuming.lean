import SeedNode.Proofs.Seeds.Queueing

/-!
# Walks that are broken off and begun again

An entry whose handling fails ends the walk over the seeds. The failure goes out as it is, the
entries before it have been handled and those after it stay in the list, but the other way around,
as the walk had turned the list. A walk that is begun anew turns the list again before it takes
anything, so it begins with the entry that was declared last. Walks that follow one another
therefore take by turns from the front and from the back (`byTurns`): no entry is lost or comes
twice, but the order of declaration ends where the second one begins (`resumed_walks_alternate`).
-/

namespace SeedNode.Seeds

variable {τ : Type} {engine : Engine τ} {ipv6 : Bool} {s s₁ : Session τ} {data data₁ : Table}
  {nodes : List Value} {e : Failure}

/-! ## Entries that fail -/

/-- What handling an entry after some calls fails with, if it does: the engine raises, or the reason
against the entry has no text. -/
def failure? (engine : Engine τ) (ipv6 : Bool) (calls : List (Call τ)) (node : Value) :
    Option Failure :=
  match validate node engine.publicKeySize with
  | .error e => some e
  | .ok (.skipped _) => none
  | .ok (.accepted entry) =>
    match engine.bootstrap
        (calls ++ [.bootstrap entry.address ipv6 entry.port entry.publicKeyBytes]) with
    | .error e => some e
    | .ok _ => none

/-- Where the engine raises, this is what the entry fails with. -/
theorem failure?_of_raised {calls : List (Call τ)} {node : Value} {call : Call τ}
    (hcall : callOf? engine ipv6 node = some call)
    (hraised : engine.bootstrap (calls ++ [call]) = .error e) :
    failure? engine ipv6 calls node = some e := by
  obtain ⟨entry, key, hvalid, hkey, rfl⟩ := callOf?_eq_some.mp hcall
  obtain rfl := Option.some.inj ((decode_of_accepted hvalid).symm.trans hkey)
  rw [failure?, hvalid]
  simp only [hraised]

theorem contact_of_failure (index : Nat) {node : Value}
    (h : failure? engine ipv6 s.calls node = some e) : ∃ s',
    (contact engine ipv6 index node).run s = (.error e, s')
      ∧ s'.calls = s.calls ++ (callOf? engine ipv6 node).toList := by
  rw [run_contact, callOf?]
  rw [failure?] at h
  cases hvalid : validate node engine.publicKeySize with
  | error e' =>
      rw [hvalid] at h
      obtain rfl := Option.some.inj h
      exact ⟨s, rfl, (List.append_nil _).symm⟩
  | ok verdict =>
  cases verdict with
  | skipped reason =>
      rw [hvalid] at h
      cases h
  | accepted entry =>
      simp only [hvalid] at h ⊢
      split at h
      case h_1 hraised =>
        obtain rfl := Option.some.inj h
        rw [hraised]
        exact ⟨_, rfl, rfl⟩
      case h_2 => cases h

theorem contact_of_no_failure (index : Nat) {node : Value}
    (h : failure? engine ipv6 s.calls node = none) : ∃ result s',
    (contact engine ipv6 index node).run s = (.ok result, s') := by
  rw [run_contact]
  rw [failure?] at h
  cases hvalid : validate node engine.publicKeySize with
  | error e =>
      rw [hvalid] at h
      cases h
  | ok verdict =>
  cases verdict with
  | skipped reason => exact ⟨_, _, rfl⟩
  | accepted entry =>
      simp only [hvalid] at h ⊢
      split at h
      case h_1 => cases h
      case h_2 known hknown =>
        rw [hknown]
        cases known with
        | true => exact ⟨_, _, rfl⟩
        | false => exact ⟨_, _, rfl⟩

/-! ## Walks that are broken off -/

/-- The first of the entries that fails is the one at index `k`, and it fails with `e`. An entry is
handled after the calls made for those before it. -/
structure EndsAt (engine : Engine τ) (ipv6 : Bool) (calls : List (Call τ)) (nodes : List Value)
    (k : Nat) (e : Failure) : Prop where
  earlier : ∀ i < k, ∀ node, nodes[i]? = some node →
    failure? engine ipv6 (calls ++ (nodes.take i).filterMap (callOf? engine ipv6)) node = none
  fails : ∃ node, nodes[k]? = some node
    ∧ failure? engine ipv6 (calls ++ (nodes.take k).filterMap (callOf? engine ipv6)) node = some e

theorem endsAt_zero {calls : List (Call τ)} {node : Value} {rest : List Value} :
    EndsAt engine ipv6 calls (node :: rest) 0 e ↔ failure? engine ipv6 calls node = some e := by
  constructor
  · rintro ⟨-, node', hnode, hfails⟩
    obtain rfl := Option.some.inj hnode
    simpa using hfails
  · intro hfails
    exact ⟨by simp, node, rfl, by simpa using hfails⟩

theorem endsAt_succ {calls : List (Call τ)} {node : Value} {rest : List Value} {k : Nat} :
    EndsAt engine ipv6 calls (node :: rest) (k + 1) e ↔ failure? engine ipv6 calls node = none
      ∧ EndsAt engine ipv6 (calls ++ (callOf? engine ipv6 node).toList) rest k e := by
  have hcalls : ∀ i, calls ++ ((node :: rest).take (i + 1)).filterMap (callOf? engine ipv6)
      = calls ++ (callOf? engine ipv6 node).toList
        ++ (rest.take i).filterMap (callOf? engine ipv6) := by
    intro i
    rw [List.take_succ_cons, List.append_assoc]
    cases hcall : callOf? engine ipv6 node <;> simp [hcall]
  constructor
  · rintro ⟨hearlier, node', hnode, hfails⟩
    refine ⟨by simpa using hearlier 0 (Nat.succ_pos k) node rfl, fun i hi node' hnode' => ?_,
      node', hnode, ?_⟩
    · rw [← hcalls]
      exact hearlier (i + 1) (Nat.succ_lt_succ hi) node' hnode'
    · rw [← hcalls]
      exact hfails
  · rintro ⟨hfirst, hearlier, node', hnode, hfails⟩
    refine ⟨fun i hi first hfound => ?_, node', hnode, by rw [hcalls]; exact hfails⟩
    cases i with
    | zero =>
        obtain rfl := Option.some.inj hfound
        simpa using hfirst
    | succ i =>
        rw [hcalls]
        exact hearlier i (Nat.lt_of_succ_lt_succ hi) first hfound

/-- A round over an entry that fails ends the loop. -/
theorem contactFrom_of_failure (fuel : Nat) {index : Nat} {walk walk' : Walk} {node : Value}
    (htaken : runIn (advance walk) data s = ((.ok (some (index, node), walk'), data₁), s₁))
    (h : failure? engine ipv6 s₁.calls node = some e) : ∃ s',
    runIn (contactFrom engine ipv6 (fuel + 1) walk) data s = ((.error e, data₁), s')
      ∧ s'.calls = s₁.calls ++ (callOf? engine ipv6 node).toList := by
  obtain ⟨s', hrun, hcalls⟩ := contact_of_failure index h
  exact ⟨s', by rw [runIn_contactFrom_taken htaken, hrun], hcalls⟩

/-- A round over an entry that does not fail hands on to the rest of the loop. -/
theorem contactFrom_of_no_failure (fuel : Nat) {index : Nat} {walk walk' : Walk} {node : Value}
    (htaken : runIn (advance walk) data s = ((.ok (some (index, node), walk'), data₁), s₁))
    (h : failure? engine ipv6 s₁.calls node = none) : ∃ result t,
    t.calls = s₁.calls ++ (callOf? engine ipv6 node).toList
      ∧ runIn (contactFrom engine ipv6 (fuel + 1) walk) data s
        = runIn (do return result :: (← contactFrom engine ipv6 fuel walk')) data₁ t := by
  obtain ⟨result, t, hrun⟩ := contact_of_no_failure index h
  exact ⟨result, _, (contact_handled hrun).calls, by rw [runIn_contactFrom_taken htaken, hrun]⟩

theorem withList_withList (more nodes : List Value) (data : Table) :
    withList more (withList nodes data) = withList more data := by
  rw [withList, withList, withList, List.map_map]
  refine List.map_congr_left fun entry _ => ?_
  by_cases hname : entry.1 = listName <;> simp [hname]

/-- A walk that begins with a list goes on as one that is under way in the list turned around. -/
theorem contactFrom_fresh_eq {node : Value} {rest : List Value} (fuel : Nat) (s : Session τ)
    (hdata : data.lookup listName = some (.list (node :: rest))) :
    runIn (contactFrom engine ipv6 (fuel + 1) .fresh) data s
      = runIn (contactFrom engine ipv6 (fuel + 1) (.under 0))
        (withList (node :: rest).reverse data) s := by
  have hunder := runIn_advance_under 0 s (lookup_withList (node :: rest).reverse hdata)
  simp only [withList_withList] at hunder
  rw [runIn_contactFrom_taken (runIn_advance_fresh s hdata), runIn_contactFrom_taken hunder]

theorem contactFrom_endsAt : ∀ (pending : List Value) (index : Nat) {fuel k : Nat} {data : Table}
    {s : Session τ}, pending.length < fuel →
    data.lookup listName = some (.list pending.reverse) →
    EndsAt engine ipv6 s.calls pending k e → ∃ s',
    runIn (contactFrom engine ipv6 fuel (.under index)) data s
        = ((.error e, withList (pending.drop (k + 1)).reverse data), s')
      ∧ s'.calls = s.calls ++ (pending.take (k + 1)).filterMap (callOf? engine ipv6)
  | [], _, _, _, _, _, _, _, hends => by
      obtain ⟨node, hnode, -⟩ := hends.fails
      cases hnode
  | node :: rest, index, fuel + 1, 0, data, s, _, hdata, hends => by
      obtain ⟨s', hrun, hcalls⟩ := contactFrom_of_failure fuel
        (runIn_advance_under index s hdata) (endsAt_zero.mp hends)
      refine ⟨s', hrun, hcalls.trans ?_⟩
      cases hcall : callOf? engine ipv6 node <;> simp [hcall]
  | node :: rest, index, fuel + 1, k + 1, data, s, hfuel, hdata, hends => by
      obtain ⟨hfirst, hrest⟩ := endsAt_succ.mp hends
      obtain ⟨result, t, ht, hround⟩ := contactFrom_of_no_failure fuel
        (runIn_advance_under index s hdata) hfirst
      rw [← ht] at hrest
      obtain ⟨s', hrun, hcalls⟩ := contactFrom_endsAt rest (index + 1)
        (Nat.lt_of_succ_lt_succ hfuel) (lookup_withList rest.reverse hdata) hrest
      refine ⟨s', ?_, ?_⟩
      · rw [hround, runIn_bind, hrun, withList_withList, List.drop_succ_cons]
      · rw [hcalls, ht, List.append_assoc, List.take_succ_cons]
        cases hcall : callOf? engine ipv6 node <;> simp [hcall]

/-- Where no entry fails the loop returns. -/
theorem contactFrom_returns_or_endsAt : ∀ (pending : List Value) (index : Nat) {fuel : Nat}
    {data : Table} (s : Session τ), pending.length < fuel →
    data.lookup listName = some (.list pending.reverse) →
    (∃ results data' s', runIn (contactFrom engine ipv6 fuel (.under index)) data s
        = ((.ok results, data'), s'))
      ∨ ∃ k e, EndsAt engine ipv6 s.calls pending k e
  | [], index, fuel + 1, data, s, _, hdata => by
      rw [contactFrom, runIn_bind_of_ok (runIn_advance_under index s hdata)]
      exact .inl ⟨_, _, _, rfl⟩
  | node :: rest, index, fuel + 1, data, s, hfuel, hdata => by
      cases hfails : failure? engine ipv6 s.calls node with
      | some e => exact .inr ⟨0, e, endsAt_zero.mpr hfails⟩
      | none =>
          obtain ⟨result, t, ht, hround⟩ := contactFrom_of_no_failure fuel
            (runIn_advance_under index s hdata) hfails
          rcases contactFrom_returns_or_endsAt rest (index + 1) t
            (Nat.lt_of_succ_lt_succ hfuel) (lookup_withList rest.reverse hdata)
            with ⟨results, data', s', hrun⟩ | ⟨k, e, hends⟩
          · exact .inl ⟨_, _, _, by rw [hround, runIn_bind_of_ok hrun]; rfl⟩
          · rw [ht] at hends
            exact .inr ⟨k + 1, e, endsAt_succ.mpr ⟨hfails, hends⟩⟩

/-- An entry that fails ends the run with its failure. The entries before it have been handled, and
the list holds those after it, the other way around. -/
theorem contactAll_endsAt {k : Nat} (hdata : data.lookup listName = some (.list nodes))
    (hends : EndsAt engine ipv6 s.calls nodes k e) : ∃ s',
    runIn (contactAll engine ipv6) data s
        = ((.error e, withList (nodes.drop (k + 1)).reverse data), s')
      ∧ s'.calls = s.calls ++ (nodes.take (k + 1)).filterMap (callOf? engine ipv6) := by
  cases nodes with
  | nil =>
      obtain ⟨node, hnode, -⟩ := hends.fails
      cases hnode
  | cons node rest =>
      obtain ⟨s', hrun, hcalls⟩ := contactFrom_endsAt (node :: rest) 0
        (Nat.lt_succ_self _) (lookup_withList (node :: rest).reverse hdata) hends
      refine ⟨s', ?_, hcalls⟩
      rw [contactAll, runIn_bind_of_ok (runIn_get data s), listIn_of_lookup hdata, runIn_bind,
        contactFrom_fresh_eq _ s hdata, hrun, withList_withList]

/-- Where no entry fails the run returns. -/
theorem contactAll_returns_or_endsAt (engine : Engine τ) (ipv6 : Bool) (s : Session τ)
    (hdata : data.lookup listName = some (.list nodes)) :
    (∃ report data' s', runIn (contactAll engine ipv6) data s = ((.ok report, data'), s'))
      ∨ ∃ k e, EndsAt engine ipv6 s.calls nodes k e := by
  rw [contactAll, runIn_bind_of_ok (runIn_get data s), listIn_of_lookup hdata]
  cases nodes with
  | nil =>
      rw [contactFrom, runIn_bind, runIn_bind_of_ok (runIn_advance_fresh s hdata)]
      exact .inl ⟨_, _, _, rfl⟩
  | cons node rest =>
      rcases contactFrom_returns_or_endsAt (node :: rest) 0 s
        (Nat.lt_succ_self _) (lookup_withList (node :: rest).reverse hdata)
        with ⟨results, data', s', hrun⟩ | hends
      · rw [runIn_bind, contactFrom_fresh_eq _ s hdata, hrun]
        exact .inl ⟨_, _, _, rfl⟩
      · exact .inr hends

/-- A run fails just where an entry does, and with what the first such entry fails with. -/
theorem contactAll_error_iff (hdata : data.lookup listName = some (.list nodes)) :
    (runIn (contactAll engine ipv6) data s).1.1 = .error e
      ↔ ∃ k, EndsAt engine ipv6 s.calls nodes k e := by
  constructor
  · intro hfails
    rcases contactAll_returns_or_endsAt engine ipv6 s hdata
      with ⟨report, data', s', hrun⟩ | ⟨k, e', hends⟩
    · rw [hrun] at hfails
      cases hfails
    · obtain ⟨s', hrun, -⟩ := contactAll_endsAt hdata hends
      rw [hrun] at hfails
      obtain rfl := Except.error.inj hfails
      exact ⟨k, hends⟩
  · rintro ⟨k, hends⟩
    obtain ⟨s', hrun, -⟩ := contactAll_endsAt hdata hends
    rw [hrun]

/-! ## Taking by turns -/

section Turns

variable {α : Type}

/-- What is taken in turns of so many values each, and what is left. A turn in which anything is
taken leaves the rest turned around. -/
def byTurns : List Nat → List α → List (List α) × List α
  | [], values => ([], values)
  | 0 :: rest, values => ([] :: (byTurns rest values).1, (byTurns rest values).2)
  | (n + 1) :: rest, values =>
    (values.take (n + 1) :: (byTurns rest (values.drop (n + 1)).reverse).1,
      (byTurns rest (values.drop (n + 1)).reverse).2)

/-- The turns in which anything is asked for. -/
def taking (turns : List Nat) : List Nat :=
  turns.filter (· ≠ 0)

theorem byTurns_perm (turns : List Nat) (values : List α) :
    ((byTurns turns values).1.flatten ++ (byTurns turns values).2).Perm values := by
  induction turns generalizing values with
  | nil => exact .refl _
  | cons n rest ih =>
      cases n with
      | zero => exact ih values
      | succ n =>
          have hrest := (ih (values.drop (n + 1)).reverse).trans (List.reverse_perm _)
          rw [byTurns, List.flatten_cons, List.append_assoc]
          exact (hrest.append_left _).trans (.of_eq (List.take_append_drop _ _))

/-- Where anything is asked for, the front is taken first. -/
theorem byTurns_front {turns : List Nat} (h : taking turns ≠ []) (v : α) (values : List α) :
    ∃ more, (byTurns turns (v :: values)).1.flatten = v :: more := by
  induction turns with
  | nil => exact absurd rfl h
  | cons n rest ih =>
      cases n with
      | zero => exact ih h
      | succ n => exact ⟨_, rfl⟩

/-- One value cannot be turned around. -/
theorem byTurns_prefix_of_length_le_one (turns : List Nat) {values : List α}
    (h : values.length ≤ 1) : (byTurns turns values).1.flatten <+: values := by
  refine ⟨(byTurns turns values).2, ?_⟩
  have hperm := byTurns_perm turns values
  match values, h with
  | [], _ => exact hperm.eq_nil
  | [v], _ => exact List.perm_singleton.mp hperm

theorem byTurns_of_not_taking {turns : List Nat} (h : taking turns = []) (values : List α) :
    (byTurns turns values).1.flatten = [] := by
  induction turns with
  | nil => rfl
  | cons n rest ih =>
      cases n with
      | zero => exact ih h
      | succ n => cases h

/-- The order lasts where the second turn that asks for anything finds one value at most. -/
theorem byTurns_prefix {turns : List Nat} {values : List α}
    (h : ∀ n m rest, taking turns = n :: m :: rest → values.length ≤ n + 1) :
    (byTurns turns values).1.flatten <+: values := by
  induction turns with
  | nil => exact List.nil_prefix
  | cons n rest ih =>
      cases n with
      | zero => exact ih h
      | succ n =>
          rw [byTurns, List.flatten_cons]
          cases hlater : taking rest with
          | nil =>
              rw [byTurns_of_not_taking hlater, List.append_nil]
              exact List.take_prefix _ _
          | cons m later =>
              have hlength : values.length ≤ n + 1 + 1 :=
                h (n + 1) m later (congrArg (List.cons (n + 1)) hlater)
              have hleft : (values.drop (n + 1)).length ≤ 1 := by
                rw [List.length_drop]
                omega
              have hreverse : (values.drop (n + 1)).reverse = values.drop (n + 1) := by
                match values.drop (n + 1), hleft with
                | [], _ => rfl
                | [v], _ => rfl
              obtain ⟨left, hmore⟩ := byTurns_prefix_of_length_le_one rest hleft
              refine ⟨left, ?_⟩
              rw [hreverse, List.append_assoc, hmore, List.take_append_drop]

/-- Of different values, the first is not the last. -/
theorem head?_ne_getLast? {values : List α} (hdistinct : values.Nodup)
    (hlength : 2 ≤ values.length) : values.head? ≠ values.getLast? := by
  intro heq
  match values, hlength with
  | v :: w :: more, _ =>
    rw [List.head?_cons, List.getLast?_cons_cons] at heq
    exact (List.nodup_cons.mp hdistinct).1 (List.mem_of_getLast? heq.symm)

/-- It lasts nowhere else: the second turn takes the last of different values first. -/
theorem length_le_of_byTurns_prefix {turns : List Nat} {values : List α} (hdistinct : values.Nodup)
    (hfront : (byTurns turns values).1.flatten <+: values) {n m : Nat} {later : List Nat}
    (htaking : taking turns = n :: m :: later) : values.length ≤ n + 1 := by
  induction turns with
  | nil => cases htaking
  | cons k rest ih =>
      cases k with
      | zero => exact ih hfront htaking
      | succ k =>
          obtain ⟨rfl, hlater⟩ := List.cons.inj htaking
          rw [byTurns, List.flatten_cons] at hfront
          obtain ⟨left, hvalues⟩ := hfront
          have hmore : (byTurns rest (values.drop (k + 1)).reverse).1.flatten ++ left
              = values.drop (k + 1) := by
            have hsplit : values.take (k + 1)
                ++ ((byTurns rest (values.drop (k + 1)).reverse).1.flatten ++ left)
                  = values.take (k + 1) ++ values.drop (k + 1) := by
              rw [← List.append_assoc, hvalues, List.take_append_drop]
            exact List.append_cancel_left hsplit
          refine Nat.le_of_not_lt fun hlong => ?_
          have hlength : 2 ≤ (values.drop (k + 1)).length := by
            rw [List.length_drop]
            omega
          refine head?_ne_getLast? (hdistinct.sublist (List.drop_sublist _ _)) hlength ?_
          have htaken : taking rest ≠ [] := by
            rw [taking, hlater]
            exact List.cons_ne_nil _ _
          cases hreverse : (values.drop (k + 1)).reverse with
          | nil => simp_all
          | cons v others =>
              obtain ⟨more, hfirst⟩ := byTurns_front htaken v others
              rw [List.getLast?_eq_head?_reverse, hreverse, ← hmore, hreverse, hfirst]
              rfl

end Turns

/-! ## Walks that follow one another -/

/-- Begins a walk, asks it so many times and abandons it. Gives what it took. -/
def visit (steps : Nat) (data : Table) : LogM (List Value × Table) := do
  let (replies, t) ← Tour.play (List.replicate steps .next) ⟨.fresh, data⟩
  return (replies.filterMap (·.map Prod.snd), t.data)

/-- Walks one after another, each abandoned before the next one begins. -/
def visits : List Nat → Table → LogM (List (List Value) × Table)
  | [], data => return ([], data)
  | steps :: rest, data => do
    let (values, data) ← visit steps data
    let (later, data) ← visits rest data
    return (values :: later, data)

/-- Asking a queue takes from its front. It is closed when there is nothing more to take. -/
theorem Queue.play_next (steps : Nat) (q : Queue) (hclosed : q.phase = .closed → q.pending = []) :
    (q.play (List.replicate steps .next)).1.filterMap (·.map Prod.snd) = q.pending.take steps
      ∧ (q.play (List.replicate steps .next)).2.listed
        = if steps = 0 then q.listed else (q.pending.drop steps).reverse := by
  induction steps generalizing q with
  | zero => exact ⟨rfl, rfl⟩
  | succ steps ih =>
      obtain ⟨pending, given, phase⟩ := q
      cases pending with
      | nil =>
          have hnext : Queue.next ⟨[], given, phase⟩ = (none, ⟨[], given, .closed⟩) := by
            cases phase <;> rfl
          obtain ⟨hvalues, hlisted⟩ := ih ⟨[], given, .closed⟩ fun _ => rfl
          rw [List.replicate_succ, Queue.play, Queue.move, hnext]
          refine ⟨?_, ?_⟩
          · rw [List.singleton_append, List.filterMap_cons_none rfl, hvalues, List.take_nil,
              List.take_nil]
          · rw [hlisted, if_neg (Nat.succ_ne_zero _), List.drop_nil, List.drop_nil]
            exact ite_self _
      | cons v rest =>
          have hnext : Queue.next ⟨v :: rest, given, phase⟩
              = (some (given, v), ⟨rest, given + 1, .serving⟩) := by
            cases phase with
            | closed => cases hclosed rfl
            | waiting | serving => rfl
          obtain ⟨hvalues, hlisted⟩ := ih ⟨rest, given + 1, .serving⟩ (by simp)
          rw [List.replicate_succ, Queue.play, Queue.move, hnext]
          refine ⟨congrArg (List.cons v) hvalues, ?_⟩
          · rw [hlisted, if_neg (Nat.succ_ne_zero _), List.drop_succ_cons]
            cases steps with
            | zero => rfl
            | succ steps => rfl

theorem run_visit (steps : Nat) (hdata : data.lookup listName = some (.list nodes))
    (records : List Record) : ∃ data' records',
    (visit steps data).run records = (.ok (nodes.take steps, data'), records')
      ∧ data'.lookup listName
        = some (.list (if steps = 0 then nodes else (nodes.drop steps).reverse)) := by
  have hstart : Represents ⟨nodes, 0, .waiting⟩ ⟨.fresh, data⟩ := ⟨rfl, hdata, fun _ => rfl⟩
  obtain ⟨t, records', hplay, hrepresents⟩ :=
    play_represents (List.replicate steps .next) hstart records
  obtain ⟨hvalues, hlisted⟩ := Queue.play_next steps ⟨nodes, 0, .waiting⟩ (by simp)
  refine ⟨t.data, records', ?_, hrepresents.listed.trans (by rw [hlisted]; rfl)⟩
  rw [visit, run_bind_of_ok hplay, ← hvalues]
  rfl

/-- Walks that follow one another take their entries by turns. -/
theorem run_visits (steps : List Nat) (hdata : data.lookup listName = some (.list nodes))
    (records : List Record) : ∃ data' records',
    (visits steps data).run records = (.ok ((byTurns steps nodes).1, data'), records')
      ∧ data'.lookup listName = some (.list (byTurns steps nodes).2) := by
  induction steps generalizing data nodes records with
  | nil => exact ⟨data, records, rfl, hdata⟩
  | cons n rest ih =>
      obtain ⟨data₁, records₁, hvisit, hdata₁⟩ := run_visit n hdata records
      obtain ⟨data', records', hvisits, hdata'⟩ := ih hdata₁ records₁
      refine ⟨data', records', ?_, ?_⟩
      · rw [visits, run_bind_of_ok hvisit]
        simp only [run_bind_of_ok hvisits]
        cases n with
        | zero => rfl
        | succ n => rfl
      · cases n with
        | zero => exact hdata'
        | succ n => exact hdata'

/-! ## Runs and walks begun again -/

/-- A run over the seeds fails just where an entry does. The failure goes out as it is, the engine
was called for the entries up to the one that failed, and the list is left with those after it, the
other way around. A run that is begun anew handles just these, and it begins with the last. In
general, walks that follow one another and are abandoned take the entries by turns from both ends.
None is lost and none comes twice, but their order lasts only while a single walk takes entries, or
until one is left. -/
theorem resumed_walks_alternate (hdata : data.lookup listName = some (.list nodes)) :
    (∀ e, (runIn (contactAll engine ipv6) data s).1.1 = .error e
        ↔ ∃ k, EndsAt engine ipv6 s.calls nodes k e)
      ∧ (∀ k e, EndsAt engine ipv6 s.calls nodes k e → ∃ data₁ s₁,
        runIn (contactAll engine ipv6) data s = ((.error e, data₁), s₁)
          ∧ s₁.calls = s.calls ++ (nodes.take (k + 1)).filterMap (callOf? engine ipv6)
          ∧ data₁.lookup listName = some (.list (nodes.drop (k + 1)).reverse)
          ∧ ∀ (again : Engine τ) t report data₂ t',
            runIn (contactAll again ipv6) data₁ t = ((.ok report, data₂), t') →
              report.results.map (·.index) = List.range (nodes.drop (k + 1)).length
                ∧ t'.calls
                  = t.calls ++ (nodes.drop (k + 1)).reverse.filterMap (callOf? again ipv6)
                ∧ data₂.lookup listName = some (.list []))
      ∧ ∀ (steps : List Nat) (records : List Record), ∃ data' records',
        (visits steps data).run records = (.ok ((byTurns steps nodes).1, data'), records')
          ∧ data'.lookup listName = some (.list (byTurns steps nodes).2)
          ∧ ((byTurns steps nodes).1.flatten ++ (byTurns steps nodes).2).Perm nodes
          ∧ ((∀ n m rest, taking steps = n :: m :: rest → nodes.length ≤ n + 1) →
            (byTurns steps nodes).1.flatten <+: nodes)
          ∧ (nodes.Nodup → (byTurns steps nodes).1.flatten <+: nodes →
            ∀ n m rest, taking steps = n :: m :: rest → nodes.length ≤ n + 1) := by
  refine ⟨fun e => contactAll_error_iff hdata, fun k e hends => ?_, fun steps records => ?_⟩
  · obtain ⟨s₁, hrun, hcalls⟩ := contactAll_endsAt hdata hends
    have hleft := lookup_withList (nodes.drop (k + 1)).reverse hdata
    refine ⟨_, s₁, hrun, hcalls, hleft, fun again t report data₂ t' hagain => ?_⟩
    obtain ⟨hindices, hmade, -, -, -, -, hempty⟩ := contactAll_complete hleft hagain
    exact ⟨by rw [hindices, List.length_reverse], hmade, hempty⟩
  · obtain ⟨data', records', hrun, hdata'⟩ := run_visits steps hdata records
    exact ⟨data', records', hrun, hdata', byTurns_perm steps nodes, byTurns_prefix,
      fun hdistinct hfront _ _ _ => length_le_of_byTurns_prefix hdistinct hfront⟩

/-! ### One failure, once -/

/-- An engine that fails when it is first asked to contact a node, and only then. -/
def failsAtFirst : Engine Nat where
  publicKeySize := 1
  iterate _ := .ok ()
  poll _ := .ok ()
  bootstrap calls := if calls.length = 1 then .error (.fault .overflow) else .ok true
  connectionCount _ := .ok 0
  initLanDiscovery _ := .ok ()
  sendLanDiscovery _ := .ok ()
  setMotd _ := .ok true
  createRelay _ := .ok none

/-- An entry that passes the check. -/
def seedAt (address : String) : Value :=
  .table [("public_key", .str "0a"), ("port", .int 33445), ("address", .str address)]

def threeSeeds : Table := [(listName, .list (["a", "b", "c"].map seedAt))]

/-- The call that the entry leads to. -/
def callAt (address : String) : Call Nat :=
  .bootstrap address true 33445 [10]

theorem validate_seedAt (address : String) :
    validate (seedAt address) failsAtFirst.publicKeySize
      = .ok (.accepted ⟨"0a", 33445, address⟩) := by
  rfl

theorem callOf?_seedAt (address : String) :
    callOf? failsAtFirst true (seedAt address) = some (callAt address) := by
  have hkey : Hex.decode? "0a" = some [10] := by decide
  simp only [callOf?, validate_seedAt, Entry.publicKeyBytes, hkey]
  rfl

theorem endsAt_failsAtFirst (address : String) (rest : List Value) :
    EndsAt failsAtFirst true [] (seedAt address :: rest) 0 (.fault .overflow) :=
  endsAt_zero.mpr (failure?_of_raised (callOf?_seedAt address) rfl)

/-- Later runs meet no failure. -/
theorem returns_failsAtFirst {s : Session Nat} {addresses : List String} (hcalls : s.calls ≠ [])
    (hdata : data.lookup listName = some (.list (addresses.map seedAt))) :
    ∃ report data' s',
      runIn (contactAll failsAtFirst true) data s = ((.ok report, data'), s') := by
  refine (contactAll_returns_or_endsAt failsAtFirst true s hdata).resolve_right ?_
  rintro ⟨k, e, -, node, hnode, hfails⟩
  rw [List.getElem?_map] at hnode
  obtain ⟨address, -, rfl⟩ := Option.map_eq_some_iff.mp hnode
  rw [failure?, validate_seedAt] at hfails
  have hlater : ∀ calls call, failsAtFirst.bootstrap (s.calls ++ calls ++ [call]) = .ok true := by
    intro calls call
    have := List.length_pos_iff.mpr hcalls
    exact if_neg (by simp only [List.length_append, List.length_singleton]; omega)
  simp only [hlater] at hfails
  cases hfails

theorem resumed_walks_alternate_after_failure :
    let s : Session Nat := .start ⟨[], []⟩ [] ⟨true, [], 0⟩
    threeSeeds.lookup listName = some (.list (["a", "b", "c"].map seedAt))
      ∧ EndsAt failsAtFirst true s.calls (["a", "b", "c"].map seedAt) 0 (.fault .overflow)
      ∧ ∃ data₁ s₁ report data₂ s₂,
        runIn (contactAll failsAtFirst true) threeSeeds s = ((.error (.fault .overflow), data₁), s₁)
          ∧ runIn (contactAll failsAtFirst true) data₁ s₁ = ((.ok report, data₂), s₂)
          ∧ report.results.map (·.index) = [0, 1]
          ∧ s₂.calls = s₁.calls ++ [callAt "c", callAt "b"] := by
  intro s
  have hdata : threeSeeds.lookup listName = some (.list (["a", "b", "c"].map seedAt)) := rfl
  have hends := endsAt_failsAtFirst "a" [seedAt "b", seedAt "c"]
  obtain ⟨-, hruns, -⟩ :=
    @resumed_walks_alternate _ failsAtFirst true s _ _ hdata
  obtain ⟨data₁, s₁, hrun, hcalls, hleft, hagain⟩ := hruns 0 _ hends
  have hrest : data₁.lookup listName = some (.list (["c", "b"].map seedAt)) := hleft
  obtain ⟨report, data₂, s₂, hsecond⟩ := returns_failsAtFirst
    (by rw [hcalls]; exact List.cons_ne_nil _ _) hrest
  obtain ⟨hindices, hmade, -⟩ := hagain failsAtFirst s₁ report data₂ s₂ hsecond
  exact ⟨hdata, hends, data₁, s₁, report, data₂, s₂, hrun, hsecond, hindices, hmade⟩

/-- The entries are for `a`, `b` and `c`. After a failure at `a` the second run contacts `c` before
`b`, and of two walks that take an entry each the second one takes that for `c`. -/
theorem resumed_walk_leaves_order :
    let s : Session Nat := .start ⟨[], []⟩ [] ⟨true, [], 0⟩
    (∃ data₁ s₁ report data₂ s₂,
      runIn (contactAll failsAtFirst true) threeSeeds s = ((.error (.fault .overflow), data₁), s₁)
        ∧ s₁.calls = [callAt "a"]
        ∧ runIn (contactAll failsAtFirst true) data₁ s₁ = ((.ok report, data₂), s₂)
        ∧ s₂.calls = [callAt "a", callAt "c", callAt "b"]
        ∧ s₂.calls ≠ s₁.calls ++ [callAt "b", callAt "c"])
      ∧ ((visits [1, 1] threeSeeds).run []).1.map Prod.fst = .ok [[seedAt "a"], [seedAt "c"]]
      ∧ ¬[seedAt "a", seedAt "c"] <+: ["a", "b", "c"].map seedAt := by
  intro s
  have hdata : threeSeeds.lookup listName = some (.list (["a", "b", "c"].map seedAt)) := rfl
  have hleft := lookup_withList (["c", "b"].map seedAt) hdata
  obtain ⟨s₁, hrun, hcalls⟩ := contactAll_endsAt (s := s) hdata
    (endsAt_failsAtFirst "a" [seedAt "b", seedAt "c"])
  obtain ⟨report, data₂, s₂, hsecond⟩ := returns_failsAtFirst
    (by rw [hcalls]; exact List.cons_ne_nil _ _) hleft
  obtain ⟨-, hmade, -⟩ := contactAll_complete hleft hsecond
  rw [hcalls] at hmade
  refine ⟨⟨_, s₁, report, data₂, s₂, hrun, hcalls, hsecond, hmade, ?_⟩, rfl, by simp [seedAt]⟩
  rw [hmade, hcalls]
  decide

end SeedNode.Seeds

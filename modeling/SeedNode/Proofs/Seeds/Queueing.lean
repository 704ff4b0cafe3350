import SeedNode.Proofs.Seeds.Contacting

/-!
# A walk over a list that others edit

While a walk goes over the list of seeds, values may be put at either end of the list. To the walk
the list is a queue. It is turned around at the first step, so what was its back is the front of
the queue from then on: until that step a value put at the back comes last, after it comes next.
`Queue` says this without the list, `Represents` ties the two together, and a move keeps them tied
(`move_represents`). That nothing is lost and the end is final is then proved of queues.
-/

namespace SeedNode.Seeds

/-! ## Moves -/

/-- What may happen while a list is walked. -/
inductive Move where
  /-- The walk is asked for the next entry. -/
  | next
  | append (v : Value)
  | prepend (v : Value)

/-- The values that a move puts in. -/
def Move.inserted : Move → List Value
  | next => []
  | append v | prepend v => [v]

/-- What a walk that was asked gives: an entry with its index, or that there is none any more. -/
abbrev Drawn := Option (Nat × Value)

/-- A walk and the settings table with the list that it goes over. -/
structure Tour where
  walk : Walk
  data : Table

/-- Makes a move. Only a walk that is asked replies. -/
def Tour.move (t : Tour) : Move → LogM (List Drawn × Tour)
  | .next => do
    let stepped ← t.walk.next t.data
    return ([stepped.taken], ⟨stepped.walk, stepped.data⟩)
  | .append v => return ([], ⟨t.walk, append v t.data⟩)
  | .prepend v => return ([], ⟨t.walk, prepend v t.data⟩)

/-- Makes moves, one after another. -/
def Tour.play : List Move → Tour → LogM (List Drawn × Tour)
  | [], t => return ([], t)
  | m :: rest, t => do
    let (replies, t) ← t.move m
    let (later, t) ← play rest t
    return (replies ++ later, t)

/-! ## Queues -/

/-- Whether a queue has been asked yet, and whether it was empty when it was. -/
inductive Phase where
  | waiting
  | serving
  | closed

/-- A queue of values. -/
structure Queue where
  /-- What is to be given, front first. -/
  pending : List Value
  /-- How many have been given. -/
  given : Nat
  phase : Phase

/-- Gives the front of the queue, or closes it for good. -/
def Queue.next (q : Queue) : Drawn × Queue :=
  match q.phase, q.pending with
  | .closed, _ => (none, q)
  | _, [] => (none, { q with phase := .closed })
  | _, v :: rest => (some (q.given, v), ⟨rest, q.given + 1, .serving⟩)

/-- Makes a move. What is appended while the queue is being given out comes next, and what is
prepended then comes last. -/
def Queue.move (q : Queue) : Move → List Drawn × Queue
  | .next => ([q.next.1], q.next.2)
  | .append v =>
    match q.phase with
    | .serving => ([], { q with pending := v :: q.pending })
    | _ => ([], { q with pending := q.pending ++ [v] })
  | .prepend v =>
    match q.phase with
    | .serving => ([], { q with pending := q.pending ++ [v] })
    | _ => ([], { q with pending := v :: q.pending })

def Queue.play : List Move → Queue → List Drawn × Queue
  | [], q => ([], q)
  | m :: rest, q => ((q.move m).1 ++ (play rest (q.move m).2).1, (play rest (q.move m).2).2)

/-! ## Walks as queues -/

/-- The walk that goes over the queue. -/
def Queue.walk (q : Queue) : Walk :=
  match q.phase with
  | .waiting => .fresh
  | .serving => .under q.given
  | .closed => .ended

/-- The queue as it stands in the list. -/
def Queue.listed (q : Queue) : List Value :=
  match q.phase with
  | .serving => q.pending.reverse
  | _ => q.pending

/-- The tour has come as far as the queue, and its list holds what the queue does. -/
structure Represents (q : Queue) (t : Tour) : Prop where
  walk : t.walk = q.walk
  listed : t.data.lookup listName = some (.list q.listed)
  unasked : q.phase = .waiting → q.given = 0

variable {q q' : Queue} {t t' : Tour} {data : Table} {nodes : List Value}

theorem next_of_empty (hdata : data.lookup listName = some (.list [])) (records : List Record) :
    ∃ records', (Walk.next data .fresh).run records = (.ok ⟨none, .ended, data⟩, records') := by
  rw [Walk.next, hdata]
  exact ⟨_, rfl⟩

theorem next_of_cons {node : Value}
    (hdata : data.lookup listName = some (.list (node :: nodes))) (records : List Record) :
    (Walk.next data .fresh).run records
      = (.ok ⟨some (0, node), .under 1, withList nodes.reverse data⟩, records) := by
  rw [Walk.next, hdata]
  simp only [takeLast_reverse]
  rfl

theorem next_under {pending : List Value} (index : Nat)
    (hdata : data.lookup listName = some (.list pending.reverse)) (records : List Record) :
    (Walk.next data (.under index)).run records = (.ok (match pending with
      | [] => ⟨none, .ended, data⟩
      | node :: rest => ⟨some (index, node), .under (index + 1), withList rest.reverse data⟩),
      records) := by
  have hnext : (Walk.next data (.under index)).run records
      = (.ok (takeLast index (listIn data) data), records) := rfl
  rw [hnext, listIn_of_lookup hdata]
  cases pending with
  | nil => rfl
  | cons node rest => rw [takeLast_reverse]

/-- The walk takes what the queue gives. -/
theorem next_represents (h : Represents q t) (records : List Record) :
    ∃ stepped records', (t.walk.next t.data).run records = (.ok stepped, records')
      ∧ stepped.taken = q.next.1 ∧ Represents q.next.2 ⟨stepped.walk, stepped.data⟩ := by
  obtain ⟨pending, given, phase⟩ := q
  obtain ⟨walk, data⟩ := t
  obtain ⟨rfl, hlisted, hunasked⟩ := h
  cases phase with
  | waiting =>
      obtain rfl : given = 0 := hunasked rfl
      cases pending with
      | nil =>
          obtain ⟨records', hnext⟩ := next_of_empty hlisted records
          exact ⟨_, records', hnext, rfl, rfl, hlisted, by simp [Queue.next]⟩
      | cons node rest =>
          exact ⟨_, _, next_of_cons hlisted records, rfl, rfl, lookup_withList _ hlisted,
            by simp [Queue.next]⟩
  | serving =>
      have hnext := next_under given hlisted records
      cases pending with
      | nil => exact ⟨_, _, hnext, rfl, rfl, hlisted, by simp [Queue.next]⟩
      | cons node rest =>
          exact ⟨_, _, hnext, rfl, rfl, lookup_withList _ hlisted, by simp [Queue.next]⟩
  | closed => exact ⟨_, _, rfl, rfl, rfl, hlisted, by simp [Queue.next]⟩

/-- An edit changes what the list holds, and leaves the walk where it is. -/
theorem Represents.edit (h : Represents q t) (hwalk : q'.walk = q.walk)
    (hunasked : q'.phase = .waiting → q.phase = .waiting ∧ q'.given = q.given) :
    Represents q' ⟨t.walk, withList q'.listed t.data⟩ where
  walk := h.walk.trans hwalk.symm
  listed := lookup_withList _ h.listed
  unasked hwaiting := (hunasked hwaiting).2.trans (h.unasked (hunasked hwaiting).1)

theorem append_represents (h : Represents q t) (v : Value) :
    Represents (q.move (.append v)).2 ⟨t.walk, append v t.data⟩ := by
  have hlisted : (q.move (.append v)).2.listed = q.listed ++ [v] := by
    obtain ⟨pending, given, phase⟩ := q
    cases phase with
    | waiting | closed => rfl
    | serving => exact List.reverse_cons
  rw [append, listIn_of_lookup h.listed, ← hlisted]
  obtain ⟨pending, given, phase⟩ := q
  cases phase with
  | waiting | serving | closed => exact h.edit rfl fun hwaiting => ⟨hwaiting, rfl⟩

theorem prepend_represents (h : Represents q t) (v : Value) :
    Represents (q.move (.prepend v)).2 ⟨t.walk, prepend v t.data⟩ := by
  have hlisted : (q.move (.prepend v)).2.listed = v :: q.listed := by
    obtain ⟨pending, given, phase⟩ := q
    cases phase with
    | waiting | closed => rfl
    | serving => exact List.reverse_concat
  rw [prepend, listIn_of_lookup h.listed, ← hlisted]
  obtain ⟨pending, given, phase⟩ := q
  cases phase with
  | waiting | serving | closed => exact h.edit rfl fun hwaiting => ⟨hwaiting, rfl⟩

/-- A move of the tour is the move of the queue. -/
theorem move_represents (h : Represents q t) (m : Move) (records : List Record) :
    ∃ t' records', (t.move m).run records = (.ok ((q.move m).1, t'), records')
      ∧ Represents (q.move m).2 t' := by
  cases m with
  | next =>
      obtain ⟨stepped, records', hnext, htaken, hrest⟩ := next_represents h records
      exact ⟨_, records', by rw [Tour.move, run_bind_of_ok hnext, htaken]; rfl, hrest⟩
  | append v =>
      refine ⟨_, records, ?_, append_represents h v⟩
      rw [Queue.move]
      cases q.phase <;> rfl
  | prepend v =>
      refine ⟨_, records, ?_, prepend_represents h v⟩
      rw [Queue.move]
      cases q.phase <;> rfl

theorem play_represents (moves : List Move) (h : Represents q t) (records : List Record) :
    ∃ t' records', (Tour.play moves t).run records = (.ok ((q.play moves).1, t'), records')
      ∧ Represents (q.play moves).2 t' := by
  induction moves generalizing q t records with
  | nil => exact ⟨t, records, rfl, h⟩
  | cons m rest ih =>
      obtain ⟨t₁, records₁, hmove, h₁⟩ := move_represents h m records
      obtain ⟨t', records', hplay, h'⟩ := ih h₁ records₁
      refine ⟨t', records', ?_, h'⟩
      rw [Tour.play, run_bind_of_ok hmove]
      simp only [run_bind_of_ok hplay]
      rfl

/-! ## What a queue keeps -/

/-- A move gives the front, finds nothing to give, or puts a value in. -/
theorem Queue.move_cases (q : Queue) (m : Move) :
    (∃ v rest, m = .next ∧ q.phase ≠ .closed ∧ q.pending = v :: rest
        ∧ q.move m = ([some (q.given, v)], ⟨rest, q.given + 1, .serving⟩))
      ∨ (m = .next ∧ q.move m = ([none], { q with phase := .closed }))
      ∨ ∃ v pending, m.inserted = [v] ∧ pending.Perm (v :: q.pending)
        ∧ q.move m = ([], { q with pending := pending }) := by
  obtain ⟨pending, given, phase⟩ := q
  cases m with
  | next =>
      cases phase with
      | closed => exact .inr (.inl ⟨rfl, rfl⟩)
      | waiting | serving =>
          cases pending with
          | nil => exact .inr (.inl ⟨rfl, rfl⟩)
          | cons v rest => exact .inl ⟨v, rest, rfl, by simp, rfl, rfl⟩
  | append v =>
      cases phase with
      | serving => exact .inr (.inr ⟨v, _, rfl, .refl _, rfl⟩)
      | waiting | closed => exact .inr (.inr ⟨v, _, rfl, List.perm_append_singleton v _, rfl⟩)
  | prepend v =>
      cases phase with
      | serving => exact .inr (.inr ⟨v, _, rfl, List.perm_append_singleton v _, rfl⟩)
      | waiting | closed => exact .inr (.inr ⟨v, _, rfl, .refl _, rfl⟩)

/-- Under the moves the queue gives so many values, under consecutive indices, and then refuses. No
value is lost and none comes twice. -/
structure Conserves (q : Queue) (moves : List Move) (given : List (Nat × Value))
    (refusals : Nat) : Prop where
  replies : (q.play moves).1 = given.map some ++ List.replicate refusals none
  indices : given.map Prod.fst = List.range' q.given given.length
  values : (given.map Prod.snd ++ (q.play moves).2.pending).Perm
    (q.pending ++ moves.flatMap Move.inserted)
  closed : q.phase = .closed → given = []

theorem play_conserves (moves : List Move) (q : Queue) :
    ∃ given refusals, Conserves q moves given refusals := by
  induction moves generalizing q with
  | nil => exact ⟨[], 0, rfl, rfl, by simp [Queue.play], fun _ => rfl⟩
  | cons m rest ih =>
      obtain ⟨given, refusals, hreplies, hindices, hvalues, hclosed⟩ := ih (q.move m).2
      rcases q.move_cases m with ⟨v, pending, rfl, hopen, hpending, hmove⟩ | ⟨rfl, hmove⟩
        | ⟨v, pending, hinserted, hperm, hmove⟩ <;>
        rw [hmove] at hreplies hindices hvalues hclosed
      · refine ⟨(q.given, v) :: given, refusals, ?_, ?_, ?_, fun h => absurd h hopen⟩
        · rw [Queue.play, hmove, hreplies]
          rfl
        · rw [List.map_cons, hindices, List.length_cons, List.range'_succ]
        · rw [Queue.play, hmove, hpending]
          exact hvalues.cons v
      · obtain rfl := hclosed rfl
        refine ⟨[], refusals + 1, ?_, rfl, ?_, fun _ => rfl⟩
        · rw [Queue.play, hmove, hreplies]
          rfl
        · rw [Queue.play, hmove]
          exact hvalues
      · refine ⟨given, refusals, ?_, hindices, ?_, hclosed⟩
        · rw [Queue.play, hmove, hreplies, List.nil_append]
        · rw [Queue.play, hmove, List.flatMap_cons, hinserted]
          refine hvalues.trans ((hperm.append_right _).trans ?_)
          exact List.perm_middle.symm

theorem Queue.listed_perm (q : Queue) : q.listed.Perm q.pending := by
  rw [listed]
  cases q.phase with
  | serving => exact List.reverse_perm _
  | waiting | closed => exact .refl _

/-! ## Walks under edits -/

/-- Whatever is done to the list while it is walked, the walk gives what a queue gives that begins
with the entries of the list, and the list holds what is left in the queue. The entries come under
consecutive indices, and when the walk has once refused it gives nothing any more. What was given
and what is left are together the entries of the list and the values put in. -/
theorem walk_queues (hdata : data.lookup listName = some (.list nodes)) (moves : List Move)
    (records : List Record) :
    ∃ (t : Tour) (records' : List Record) (given : List (Nat × Value)) (refusals : Nat),
      (Tour.play moves ⟨.fresh, data⟩).run records
          = (.ok ((Queue.play moves ⟨nodes, 0, .waiting⟩).1, t), records')
        ∧ Represents (Queue.play moves ⟨nodes, 0, .waiting⟩).2 t
        ∧ (Queue.play moves ⟨nodes, 0, .waiting⟩).1
          = given.map some ++ List.replicate refusals none
        ∧ given.map Prod.fst = List.range given.length
        ∧ (given.map Prod.snd ++ listIn t.data).Perm (nodes ++ moves.flatMap Move.inserted) := by
  have hstart : Represents ⟨nodes, 0, .waiting⟩ ⟨.fresh, data⟩ := ⟨rfl, hdata, fun _ => rfl⟩
  obtain ⟨t, records', hplay, hrepresents⟩ := play_represents moves hstart records
  obtain ⟨given, refusals, hgiven⟩ := play_conserves moves ⟨nodes, 0, .waiting⟩
  refine ⟨t, records', given, refusals, hplay, hrepresents, hgiven.replies, ?_, ?_⟩
  · rw [hgiven.indices, List.range_eq_range']
  · rw [listIn_of_lookup hrepresents.listed]
    exact ((Queue.listed_perm _).append_left _).trans hgiven.values

/-- Before the first step the back is the back; after it what is appended comes next and what is
prepended comes last; and after the end nothing comes. -/
theorem walk_queues_through_edits :
    let data : Table := [(listName, .list [.int 1, .int 2])]
    let moves : List Move := [.append (.int 3), .next, .append (.int 4), .prepend (.int 5), .next,
      .next, .next, .next, .next, .append (.int 6), .next]
    data.lookup listName = some (.list [.int 1, .int 2])
      ∧ ∃ t records, (Tour.play moves ⟨.fresh, data⟩).run []
          = (.ok ([some (0, .int 1), some (1, .int 4), some (2, .int 2), some (3, .int 3),
            some (4, .int 5), none, none], t), records)
        ∧ listIn t.data = [.int 6] := by
  intro data moves
  have hdata : data.lookup listName = some (.list [.int 1, .int 2]) := rfl
  obtain ⟨t, records, given, refusals, hplay, hrepresents, -⟩ := walk_queues hdata moves []
  exact ⟨hdata, t, records, hplay, listIn_of_lookup hrepresents.listed⟩

end SeedNode.Seeds

import SeedNode.Proofs.Loop.Script

/-!
# The calls of the service loop

A scheduler is prepared, makes turns and sleeps, in whatever order it is asked to; `Life` is what it
has come to, with the number of turns that returned. The service loop prepares once and then goes
through rounds, each a turn and the sleep after it. It ends in one of three ways (`Ran`): the
preparation failed, it was stopped after its last round, or a call of the turn after some rounds
failed. In each of them its calls are known exactly, and the failure is handed on as it was raised,
except that one which ends an iteration elsewhere leaves the loop as another one.
-/

namespace SeedNode.Scheduler

variable {τ : Type} [Sub τ] [LE τ] [DecidableLE τ] {s : Scheduler τ} {p p' : Progress τ}
  {sess sess' : Session τ} {blocks : List (List (Call τ))}

/-! ## Lives -/

/-- What a scheduler made in the session `base` has come to, when so many turns have returned, and
whether it was ever asked to prepare. -/
inductive Life (s : Scheduler τ) (base : Session τ) :
    Nat → Bool → Progress τ → Session τ → Prop
  | made : Life s base 0 false .initial base
  | prepared {k b p sess outcome p' sess'} (h : Life s base k b p sess)
      (hstart : runIn s.start p sess = ((outcome, p'), sess')) : Life s base k true p' sess'
  | turned {k b p sess p' sess'} (h : Life s base k b p sess)
      (hturn : runIn s.tick p sess = ((.ok (), p'), sess')) : Life s base (k + 1) b p' sess'
  | failed {k b p sess e p' sess'} (h : Life s base k b p sess)
      (hturn : runIn s.tick p sess = ((.error e, p'), sess')) : Life s base k b p' sess'
  | slept {k b p sess} (h : Life s base k b p sess) :
      Life s base k b p (sess.addCall (.sleep s.tickInterval))

section Life

variable {base : Session τ} {k : Nat} {b : Bool}

/-- The turns that are counted are those that returned. -/
theorem Life.ticks (h : s.Life base k b p sess) : p.ticks = k := by
  induction h with
  | made => rfl
  | prepared _ hstart ih => rw [(start_prepared hstart).progress, ← ih]
  | turned _ hturn ih => rw [(tick_turned hturn).ticks, ← ih]; rfl
  | failed _ hturn ih => rw [(tick_turned hturn).ticks, ← ih]; rfl
  | slept _ ih => exact ih

theorem Life.started (h : s.Life base k b p sess) : p.started = b := by
  induction h with
  | made => rfl
  | prepared _ hstart _ => rw [(start_prepared hstart).progress]
  | turned _ hturn ih | failed _ hturn ih => rw [(tick_turned hturn).started, ih]
  | slept _ ih => exact ih

end Life

/-! ## Rounds -/

/-- Rounds of the loop, each with the calls of its turn: the turn returned, and the loop slept. -/
inductive Rounds (s : Scheduler τ) :
    List (List (Call τ)) → Progress τ → Session τ → Progress τ → Session τ → Prop
  | done (p : Progress τ) (sess : Session τ) : Rounds s [] p sess p sess
  | round {blocks p sess p₁ s₁ p' sess'} (hturn : runIn s.tick p sess = ((.ok (), p₁), s₁))
      (rest : Rounds s blocks p₁ (s₁.addCall (.sleep s.tickInterval)) p' sess') :
      Rounds s (s.turnScript p sess.calls :: blocks) p sess p' sess'

/-- The calls of rounds: those of each turn, and a sleep after them. -/
def roundCalls (s : Scheduler τ) (blocks : List (List (Call τ))) : List (Call τ) :=
  blocks.flatMap fun block => block ++ [.sleep s.tickInterval]

theorem tick_calls_of_ok (h : runIn s.tick p sess = ((.ok (), p'), sess')) :
    sess'.calls = sess.calls ++ s.turnScript p sess.calls := by
  have hturned := tick_turned h
  rw [hturned.calls, perform_of_ok hturned.result.symm]

theorem tick_calls_of_error {e : Failure} (h : runIn s.tick p sess = ((.error e, p'), sess')) :
    ∃ made, s.BreaksOff sess.calls (s.turnScript p sess.calls) e made
      ∧ sess'.calls = sess.calls ++ made := by
  have hturned := tick_turned h
  exact ⟨_, breaksOff_of_error hturned.result.symm, hturned.calls⟩

theorem Rounds.calls (h : s.Rounds blocks p sess p' sess') :
    sess'.calls = sess.calls ++ s.roundCalls blocks := by
  induction h with
  | done p sess => exact (List.append_nil _).symm
  | @round blocks p sess p₁ s₁ p' sess' hturn _ ih =>
      have hslept : (s₁.addCall (.sleep s.tickInterval)).calls
          = sess.calls ++ s.turnScript p sess.calls ++ [.sleep s.tickInterval] := by
        rw [← tick_calls_of_ok hturn]
        rfl
      rw [ih, hslept, roundCalls, roundCalls, List.flatMap_cons]
      simp only [List.append_assoc]

theorem Rounds.ticks (h : s.Rounds blocks p sess p' sess') :
    p'.ticks = p.ticks + blocks.length := by
  induction h with
  | done p sess => rfl
  | @round blocks p sess p₁ s₁ p' sess' hturn _ ih =>
      have hcounted : p₁.ticks = p.ticks + 1 := (tick_turned hturn).ticks
      rw [ih, hcounted, List.length_cons]
      omega

theorem Rounds.life {base : Session τ} {k : Nat} {b : Bool}
    (h : s.Rounds blocks p sess p' sess') (hlife : s.Life base k b p sess) :
    s.Life base (k + blocks.length) b p' sess' := by
  induction h generalizing k with
  | done p sess => exact hlife
  | round hturn _ ih =>
      have hrest := ih (hlife.turned hturn).slept
      rwa [Nat.add_assoc, Nat.add_comm 1, ← List.length_cons] at hrest

/-! ## The loop -/

/-- The loop goes through all its rounds, or up to the turn that fails. -/
theorem turns_cases (s : Scheduler τ) : ∀ (n : Nat) (p : Progress τ) (sess : Session τ),
    (∃ blocks p' sess', blocks.length = n ∧ s.Rounds blocks p sess p' sess'
        ∧ runIn (s.turns n) p sess = ((.error (.fault .stopped), p'), sess'))
      ∨ ∃ blocks p₁ s₁ e p' sess', blocks.length < n ∧ s.Rounds blocks p sess p₁ s₁
        ∧ runIn s.tick p₁ s₁ = ((.error e, p'), sess')
        ∧ runIn (s.turns n) p sess = ((.error e, p'), sess')
  | 0, p, sess => .inl ⟨[], p, sess, rfl, .done p sess, rfl⟩
  | n + 1, p, sess => by
      rw [turns]
      rcases hturn : runIn s.tick p sess with ⟨⟨e | _, p₁⟩, s₁⟩
      · refine .inr ⟨[], p, sess, e, p₁, s₁, Nat.succ_pos n, .done p sess, hturn, ?_⟩
        rw [runIn_bind, hturn]
      · have hsleep : runIn (LoopM.ask (.sleep s.tickInterval) fun _ => .ok ()) p₁ s₁
            = ((.ok (), p₁), s₁.addCall (.sleep s.tickInterval)) := runIn_ask _ _ p₁ s₁
        rw [runIn_bind_of_ok hturn, runIn_bind_of_ok hsleep]
        rcases turns_cases s n p₁ (s₁.addCall (.sleep s.tickInterval)) with
          ⟨blocks, p', sess', hlength, hrounds, hrun⟩
          | ⟨blocks, p₂, s₂, e, p', sess', hlength, hrounds, hfails, hrun⟩
        · exact .inl ⟨s.turnScript p sess.calls :: blocks, p', sess', congrArg Nat.succ hlength,
            .round hturn hrounds, hrun⟩
        · exact .inr ⟨s.turnScript p sess.calls :: blocks, p₂, s₂, e, p', sess',
            Nat.succ_lt_succ hlength, .round hturn hrounds, hfails, hrun⟩

/-- How a run of the service loop ends that is stopped at its `n`-th sleep. -/
inductive Ran (s : Scheduler τ) (n : Nat) (p : Progress τ) (sess : Session τ) :
    Failure → Progress τ → Session τ → Prop
  /-- The preparation failed. -/
  | unprepared {e made p' sess'} (hopening : s.BreaksOff sess.calls (s.openingScript p) e made)
      (hcalls : sess'.calls = sess.calls ++ made) (hticks : p'.ticks = p.ticks) :
      Ran s n p sess (escaping e) p' sess'
  /-- All calls returned, and the loop was stopped. -/
  | stopped {p₀ s₀ blocks p' sess'} (hopening : runIn s.start p sess = ((.ok (), p₀), s₀))
      (hrounds : s.Rounds blocks p₀ s₀ p' sess') (hlength : blocks.length = n)
      (hcalls : sess'.calls = sess.calls ++ s.openingScript p ++ s.roundCalls blocks)
      (hticks : p'.ticks = p.ticks + n) : Ran s n p sess (.fault .stopped) p' sess'
  /-- A call of a turn failed after some rounds. -/
  | broken {p₀ s₀ blocks p₁ s₁ e made p' sess'}
      (hopening : runIn s.start p sess = ((.ok (), p₀), s₀))
      (hrounds : s.Rounds blocks p₀ s₀ p₁ s₁) (hlength : blocks.length < n)
      (hbreaks : s.BreaksOff s₁.calls (s.turnScript p₁ s₁.calls) e made)
      (hcalls : sess'.calls = sess.calls ++ s.openingScript p ++ s.roundCalls blocks ++ made)
      (hticks : p'.ticks = p.ticks + blocks.length) : Ran s n p sess (escaping e) p' sess'

theorem runIn_run_of_error {n : Nat} {e : Failure}
    (h : runIn (do s.start; s.turns n) p sess = ((.error e, p'), sess')) :
    runIn (s.run n) p sess = ((.error (escaping e), p'), sess') := by
  rw [run, runIn_tryCatch, h]
  rfl

theorem run_ran (s : Scheduler τ) (n : Nat) (p : Progress τ) (sess : Session τ) :
    ∃ e p' sess', runIn (s.run n) p sess = ((.error e, p'), sess') ∧ s.Ran n p sess e p' sess'
      ∧ ∀ base b, s.Life base p.ticks b p sess → s.Life base p'.ticks true p' sess' := by
  rcases hstart : runIn s.start p sess with ⟨⟨e | _, p₀⟩, s₀⟩
  · have hprepared := start_prepared hstart
    have hrun : runIn (do s.start; s.turns n) p sess = ((.error e, p₀), s₀) := by
      rw [runIn_bind, hstart]
    have hticks : p₀.ticks = p.ticks := by rw [hprepared.progress]
    refine ⟨_, p₀, s₀, runIn_run_of_error hrun,
      .unprepared (breaksOff_of_error hprepared.result.symm) hprepared.calls hticks, ?_⟩
    intro base b hlife
    rw [hticks]
    exact hlife.prepared hstart
  · obtain ⟨hcalls, hticks⟩ := start_calls_of_ok hstart
    have hbind := runIn_bind_of_ok hstart fun _ => s.turns n
    rcases turns_cases s n p₀ s₀ with ⟨blocks, p', sess', hlength, hrounds, hrun⟩
      | ⟨blocks, p₁, s₁, e, p', sess', hlength, hrounds, hfails, hrun⟩
    · have hcounted : p'.ticks = p.ticks + blocks.length := by rw [hrounds.ticks, hticks]
      refine ⟨_, p', sess', runIn_run_of_error (hbind.trans hrun), .stopped hstart hrounds hlength
        (by rw [hrounds.calls, hcalls]) (by rw [hcounted, hlength]), ?_⟩
      intro base b hlife
      rw [hcounted]
      exact hrounds.life (hlife.prepared hstart)
    · obtain ⟨made, hbreaks, hmade⟩ := tick_calls_of_error hfails
      have hcounted : p'.ticks = p.ticks + blocks.length := by
        have huncounted : p'.ticks = p₁.ticks := (tick_turned hfails).ticks
        rw [huncounted, hrounds.ticks, hticks]
      refine ⟨_, p', sess', runIn_run_of_error (hbind.trans hrun),
        .broken hstart hrounds hlength hbreaks (by rw [hmade, hrounds.calls, hcalls]) hcounted, ?_⟩
      intro base b hlife
      rw [hcounted]
      exact (hrounds.life (hlife.prepared hstart)).failed hfails

theorem escaping_of_other {e : Failure} (h : ∀ kind text,
    kind.descendsFrom "StopIteration" = true → e ≠ .fault (.raised kind text)) :
    escaping e = e := by
  rw [escaping, if_neg]
  intro hends
  obtain ⟨kind, text, hkind, rfl⟩ := Failure.hasRaised_iff.mp hends
  exact h kind text hkind rfl

/-! ## The grammar -/

/-- The calls of a scheduler at any point of its life. It has counted the turns that returned, and
knows whether it was asked to prepare. A turn makes the calls of its script and is counted, or
breaks off at the first that fails, with that failure, and is not. A run of the loop that is stopped
at its `n`-th sleep makes the calls that `Ran` lists; a failure leaves it as it was raised, except
one that ends an iteration elsewhere, or descends from such. -/
theorem run_grammar {base : Session τ} {k : Nat} {b : Bool} (hlife : s.Life base k b p sess)
    (n : Nat) :
    p.ticks = k ∧ p.started = b
      ∧ (∀ outcome p' sess', runIn s.tick p sess = ((outcome, p'), sess') →
        match outcome with
        | .ok _ => sess'.calls = sess.calls ++ s.turnScript p sess.calls ∧ p'.ticks = k + 1
        | .error e => p'.ticks = k ∧ ∃ made,
          s.BreaksOff sess.calls (s.turnScript p sess.calls) e made
            ∧ sess'.calls = sess.calls ++ made)
      ∧ (∃ e p' sess', runIn (s.run n) p sess = ((.error e, p'), sess') ∧ s.Ran n p sess e p' sess'
        ∧ s.Life base p'.ticks true p' sess')
      ∧ (∀ e, (∀ kind text, kind.descendsFrom "StopIteration" = true →
        e ≠ .fault (.raised kind text)) → escaping e = e)
      ∧ ∀ kind text, kind.descendsFrom "StopIteration" = true →
        escaping (.fault (.raised kind text)) = .fault .iterationEnded := by
  have hticks := hlife.ticks
  refine ⟨hticks, hlife.started, fun outcome p' sess' hturn => ?_, ?_,
    fun e hother => escaping_of_other hother, fun kind text hends => ?_⟩
  · have hcounted := (tick_turned hturn).ticks
    rw [hticks] at hcounted
    cases outcome with
    | ok _ => exact ⟨tick_calls_of_ok hturn, hcounted⟩
    | error e => exact ⟨hcounted, tick_calls_of_error hturn⟩
  · obtain ⟨e, p', sess', hrun, hran, hkeeps⟩ := run_ran s n p sess
    exact ⟨e, p', sess', hrun, hran, hkeeps base b (hticks ▸ hlife)⟩
  · rw [escaping, Failure.hasRaised, if_pos hends]

theorem run_grammar_second_turn :
    let engine : Engine Nat :=
      ⟨1, fun _ => .ok (), fun _ => .ok (), fun _ => .ok true, fun _ => .ok 1, fun _ => .ok (),
        fun _ => .ok (), fun _ => .ok true, fun _ => .ok none⟩
    let s : Scheduler Nat := ⟨engine, .default, some ⟨fun _ => .ok ()⟩, 30, 10, fun _ => 7⟩
    let base : Session Nat := .start ⟨[], []⟩ [] ⟨true, [], 0⟩
    ∃ p sess, s.Life base 1 false p sess ∧ p.ticks = 1
      ∧ sess.calls = [.iterate, .sendLanDiscovery 33445, .relayIterate, .poll, .connectionCount]
      ∧ ∃ e p' sess', runIn (s.run 1) p sess = ((.error e, p'), sess')
        ∧ s.Ran 1 p sess e p' sess' ∧ s.Life base p'.ticks true p' sess'
        ∧ sess'.calls
          = sess.calls ++ [.initLanDiscovery, .iterate, .relayIterate, .poll, .sleep 30] := by
  intro engine s base
  rcases hturn : runIn s.tick .initial base with ⟨⟨outcome, p⟩, sess⟩
  obtain rfl : outcome = .ok () := congrArg (fun out => out.1.1) hturn.symm
  have hlife : s.Life base 1 false p sess := Life.made.turned hturn
  obtain ⟨hticks, -, -, ⟨e, p', sess', hrun, hran, hlater⟩, -, -⟩ := run_grammar hlife 1
  have hsession : sess = (runIn s.tick .initial base).2 := congrArg (fun out => out.2) hturn.symm
  have hprogress : p = (runIn s.tick .initial base).1.2 :=
    congrArg (fun out => out.1.2) hturn.symm
  have hsession' : sess' = (runIn (s.run 1) p sess).2 := congrArg (fun out => out.2) hrun.symm
  refine ⟨p, sess, hlife, hticks, by rw [hsession]; rfl, e, p', sess', hrun, hran, hlater, ?_⟩
  rw [hsession', hprogress, hsession]
  rfl

/-- What ends an iteration elsewhere does not leave the loop unchanged. -/
theorem run_replaces_iteration_end :
    let ended : Failure := .fault (.raised "StopIteration" "engine")
    let engine : Engine Nat :=
      ⟨1, fun _ => .error ended, fun _ => .ok (), fun _ => .ok true, fun _ => .ok 0,
        fun _ => .ok (), fun _ => .ok (), fun _ => .ok true, fun _ => .ok none⟩
    let s : Scheduler Nat := ⟨engine, .default, some ⟨fun _ => .ok ()⟩, 30, 10, fun _ => 0⟩
    let base : Session Nat := .start ⟨[], []⟩ [] ⟨true, [], 0⟩
    s.reply [.initLanDiscovery] .iterate = .error ended
      ∧ (runIn (s.run 1) .initial base).2.calls = [.initLanDiscovery, .iterate]
      ∧ (runIn (s.run 1) .initial base).1.1 ≠ .error ended := by
  intro ended engine s base
  have hrun : (runIn (s.run 1) .initial base).1.1 = .error (.fault .iterationEnded) := rfl
  refine ⟨rfl, rfl, ?_⟩
  rw [hrun]
  simp [ended]

end SeedNode.Scheduler

import SeedNode.Proofs.Loop.Rounds

/-!
# Preparing the service loop

Where broadcasts are enabled, the engine has to get ready for them before the first turn. It is
asked to by the first preparation of a scheduler and never again: that preparation counts as done
from its beginning, so the ones after it return at once, also when the engine failed. A preparation
that returned therefore tells that broadcasts are initialized just if no earlier one had failed, and
the same goes for the turns of a service loop (`start_initializes_iff`).
-/

namespace SeedNode.Scheduler

variable {τ : Type} {s : Scheduler τ} {p p' : Progress τ} {sess sess' base : Session τ}
  {calls made more : List (Call τ)}

/-! ## Attempts -/

/-- Whether the call asked the engine to get ready for broadcasts, and succeeded or did not. -/
def attempt (s : Scheduler τ) (succeeded : Bool) : List (Call τ) × Call τ → Bool
  | (before, .initLanDiscovery) =>
    (s.engine.initLanDiscovery (before ++ [.initLanDiscovery])).isOk == succeeded
  | _ => false

/-- How often the engine was asked to get ready for broadcasts and succeeded, or how often it did
not, among calls made after `before`. -/
def attempts (s : Scheduler τ) (succeeded : Bool) (before made : List (Call τ)) : Nat :=
  (moments before made).countP (s.attempt succeeded)

theorem attempts_append (s : Scheduler τ) (succeeded : Bool) (before made more : List (Call τ)) :
    s.attempts succeeded before (made ++ more)
      = s.attempts succeeded before made + s.attempts succeeded (before ++ made) more := by
  rw [attempts, moments_append, List.countP_append]
  rfl

theorem attempts_of_not_mem (s : Scheduler τ) (succeeded : Bool) (before : List (Call τ))
    (h : .initLanDiscovery ∉ made) : s.attempts succeeded before made = 0 := by
  refine List.countP_eq_zero.mpr fun moment hmoment => ?_
  have hmade := mem_of_mem_moments hmoment
  obtain ⟨calls, call⟩ := moment
  cases call with
  | initLanDiscovery => exact absurd hmade h
  | _ => simp [attempt]

theorem attempts_singleton (s : Scheduler τ) (succeeded : Bool) (before : List (Call τ)) :
    s.attempts succeeded before [.initLanDiscovery]
      = if (s.engine.initLanDiscovery (before ++ [.initLanDiscovery])).isOk = succeeded then 1
        else 0 := by
  rw [attempts, moments, moments, List.countP_singleton, attempt]
  simp only [beq_iff_eq]

/-! ## Preparations -/

/-- What a preparation comes to where broadcasts are enabled: the first one is as the engine answers
it, and each other returns with nothing done. -/
theorem start_cases (hlan : s.config.enableLanDiscovery = true) {outcome : Except Failure Unit}
    (h : runIn s.start p sess = ((outcome, p'), sess')) :
    (p.started = true ∧ outcome = .ok () ∧ sess'.calls = sess.calls)
      ∨ p.started = false ∧ sess'.calls = sess.calls ++ [.initLanDiscovery]
        ∧ outcome = s.engine.initLanDiscovery (sess.calls ++ [.initLanDiscovery]) := by
  obtain ⟨hresult, hcalls, -⟩ := start_prepared h
  cases hstarted : p.started with
  | true =>
      have hscript : s.openingScript p = [] := by simp [openingScript, hstarted]
      rw [hscript] at hresult hcalls
      exact .inl ⟨rfl, hresult, hcalls.trans (List.append_nil _)⟩
  | false =>
      have hscript : s.openingScript p = [.initLanDiscovery] := by
        simp [openingScript, hlan, hstarted]
      rw [hscript, perform_singleton] at hresult hcalls
      exact .inr ⟨rfl, hcalls, hresult⟩

/-- The calls since `base`: among them is one attempt if the scheduler was asked to prepare, and
none otherwise. -/
structure Opening (s : Scheduler τ) (base : Session τ) (p : Progress τ) (sess : Session τ)
    (made : List (Call τ)) : Prop where
  calls : sess.calls = base.calls ++ made
  asked : s.attempts true base.calls made + s.attempts false base.calls made = p.started.toNat

/-- Calls that ask for nothing leave the attempts as they are. -/
theorem Opening.extend (h : s.Opening base p sess made) (hcalls : sess'.calls = sess.calls ++ more)
    (hstarted : p'.started = p.started) (hmore : .initLanDiscovery ∉ more) :
    s.Opening base p' sess' (made ++ more) := by
  refine ⟨by rw [hcalls, h.calls, List.append_assoc], ?_⟩
  rw [attempts_append, attempts_append, attempts_of_not_mem s _ _ hmore,
    attempts_of_not_mem s _ _ hmore, hstarted, Nat.add_zero, Nat.add_zero]
  exact h.asked

/-- The engine is asked just once, whatever it answers. -/
theorem attempts_asked (s : Scheduler τ) (before : List (Call τ)) :
    s.attempts true before [.initLanDiscovery] + s.attempts false before [.initLanDiscovery]
      = 1 := by
  rw [attempts_singleton, attempts_singleton]
  cases (s.engine.initLanDiscovery (before ++ [.initLanDiscovery])).isOk <;> rfl

/-- What a preparation comes to that follows the calls `made` since `base` and makes the calls
`more`. -/
structure Attempted (s : Scheduler τ) (base : Session τ) (made : List (Call τ))
    (outcome : Except Failure Unit) (more : List (Call τ)) : Prop where
  /-- If it returned, the engine has been made ready just if no preparation before it had failed. -/
  returned : outcome = .ok () → (s.attempts true base.calls (made ++ more) = 1
    ↔ s.attempts false base.calls made = 0)
  /-- If one before it had failed, it returns and asks for nothing. -/
  repeated : s.attempts false base.calls made ≠ 0 → outcome = .ok () ∧ more = []
  /-- If it fails itself, the engine was asked by it and by none before. -/
  failed : ∀ e, outcome = .error e →
    s.attempts true base.calls made = 0 ∧ s.attempts false base.calls (made ++ more) = 1

theorem Opening.start (hlan : s.config.enableLanDiscovery = true)
    (h : s.Opening base p sess made) {outcome : Except Failure Unit}
    (hstart : runIn s.start p sess = ((outcome, p'), sess')) :
    ∃ more, s.Opening base p' sess' (made ++ more) ∧ s.Attempted base made outcome more := by
  have hprogress := (start_prepared hstart).progress
  have hasked := h.asked
  obtain ⟨hstarted, hreturned, hcalls⟩ | ⟨hstarted, hcalls, hanswer⟩ := start_cases hlan hstart
  · -- the one attempt was made before, and succeeded just if it did not fail
    have hopening : s.Opening base p' sess' (made ++ []) :=
      h.extend (hcalls.trans (List.append_nil _).symm) (by rw [hprogress, hstarted])
        List.not_mem_nil
    rw [hstarted, Bool.toNat_true] at hasked
    refine ⟨[], hopening, fun _ => ?_, fun _ => ⟨hreturned, rfl⟩, fun e he => ?_⟩
    · rw [List.append_nil]
      omega
    · cases hreturned.symm.trans he
  · -- there was no attempt before, and this is the one
    have honce := attempts_asked s (base.calls ++ made)
    rw [hstarted, Bool.toNat_false] at hasked
    refine ⟨[.initLanDiscovery], ⟨by rw [hcalls, h.calls, List.append_assoc], ?_⟩, fun hok => ?_,
      fun hfailed => by omega, fun e he => ?_⟩
    · rw [attempts_append, attempts_append, hprogress, Bool.toNat_true]
      omega
    · rw [h.calls, hok] at hanswer
      have hready : s.attempts true (base.calls ++ made) [.initLanDiscovery] = 1 := by
        rw [attempts_singleton, ← hanswer]
        rfl
      rw [attempts_append]
      omega
    · rw [h.calls, he] at hanswer
      have hunready : s.attempts false (base.calls ++ made) [.initLanDiscovery] = 1 := by
        rw [attempts_singleton, ← hanswer]
        rfl
      rw [attempts_append]
      omega

/-! ## Where turns begin -/

theorem not_mem_openingScript (s : Scheduler τ) (p : Progress τ) :
    .iterate ∉ s.openingScript p := by
  simp [openingScript]

/-- Calls that begin with a script in which the engine is not moved on hold all of it before they
move the engine on. -/
theorem split_at_iterate {script rest before after : List (Call τ)} (hscript : .iterate ∉ script)
    (h : script ++ rest = before ++ .iterate :: after) :
    ∃ between, before = script ++ between ∧ rest = between ++ .iterate :: after := by
  obtain ⟨between, hbefore, hrest⟩ | ⟨between, hsplit, hrest⟩ := List.append_eq_append_iff.mp h
  · exact ⟨between, hbefore, hrest⟩
  · cases between with
    | nil => exact ⟨[], by rw [hsplit, List.append_nil, List.append_nil], hrest.symm⟩
    | cons call between =>
        obtain ⟨rfl, -⟩ := List.cons.inj hrest
        exact absurd (by simp [hsplit]) hscript

/-- Only calls of the script are made before it breaks off. -/
theorem BreaksOff.subset {script : List (Call τ)} {e : Failure}
    (h : s.BreaksOff calls script e made) : made ⊆ script := by
  obtain ⟨before, call, after, rfl, rfl, -, -⟩ := h
  rw [List.append_cons before call after]
  exact List.subset_append_left _ _

/-- Where the engine is moved on after a preparation that returned, it has been made ready just if
no preparation before that one had failed. -/
theorem Opening.at_turn (hlan : s.config.enableLanDiscovery = true)
    (h : s.Opening base p sess made) (hstart : runIn s.start p sess = ((.ok (), p'), sess'))
    {rest before after : List (Call τ)} (hrest : .initLanDiscovery ∉ rest)
    (hsplit : s.openingScript p ++ rest = before ++ .iterate :: after) :
    s.attempts true base.calls (made ++ before) = 1 ↔ s.attempts false base.calls made = 0 := by
  obtain ⟨more, hopening, hattempted⟩ := h.start hlan hstart
  obtain rfl : s.openingScript p = more := by
    have hcalls := (start_calls_of_ok hstart).1
    rw [hopening.calls, h.calls, ← List.append_assoc] at hcalls
    exact (List.append_cancel_left hcalls).symm
  obtain ⟨between, rfl, rfl⟩ := split_at_iterate (not_mem_openingScript s p) hsplit
  have hnone : .initLanDiscovery ∉ between := fun hmem => hrest (List.mem_append_left _ hmem)
  rw [← List.append_assoc, attempts_append, attempts_of_not_mem s _ _ hnone, Nat.add_zero]
  exact hattempted.returned rfl

/-! ## Lives -/

section Life

variable [Sub τ] [LE τ] [DecidableLE τ] {k : Nat} {b : Bool} {blocks : List (List (Call τ))}

theorem not_mem_turnScript (s : Scheduler τ) (p : Progress τ) (calls : List (Call τ)) :
    .initLanDiscovery ∉ s.turnScript p calls := by
  simp [turnScript, announceScript, relayScript, countScript]

theorem Life.opening (hlan : s.config.enableLanDiscovery = true) (h : s.Life base k b p sess) :
    ∃ made, s.Opening base p sess made := by
  induction h with
  | made => exact ⟨[], (List.append_nil _).symm, rfl⟩
  | prepared _ hstart ih =>
      obtain ⟨made, ih⟩ := ih
      obtain ⟨more, h, -⟩ := ih.start hlan hstart
      exact ⟨made ++ more, h⟩
  | @turned _ _ p sess _ _ _ hturn ih | @failed _ _ p sess _ _ _ _ hturn ih =>
      obtain ⟨made, ih⟩ := ih
      have hturned := tick_turned hturn
      exact ⟨_, ih.extend hturned.calls hturned.started fun hmem =>
        not_mem_turnScript s p sess.calls (mem_of_mem_perform hmem)⟩
  | slept _ ih =>
      obtain ⟨made, ih⟩ := ih
      exact ⟨_, ih.extend rfl rfl (by simp)⟩

/-! ## Runs -/

theorem Rounds.not_mem_roundCalls (h : s.Rounds blocks p sess p' sess') :
    .initLanDiscovery ∉ s.roundCalls blocks := by
  induction h with
  | done p sess => exact List.not_mem_nil
  | @round blocks p sess _ _ _ _ _ _ ih =>
      rw [roundCalls, List.flatMap_cons, List.mem_append, List.mem_append]
      rintro ((hturn | hsleep) | hrest)
      · exact not_mem_turnScript s p sess.calls hturn
      · simp at hsleep
      · exact ih hrest

theorem Opening.run (hlan : s.config.enableLanDiscovery = true) (h : s.Opening base p sess made)
    (n : Nat) :
    ∃ e p' sess' more, runIn (s.run n) p sess = ((.error e, p'), sess')
      ∧ sess'.calls = sess.calls ++ more
      ∧ ∀ before after, more = before ++ .iterate :: after →
        (s.attempts true base.calls (made ++ before) = 1
          ↔ s.attempts false base.calls made = 0) := by
  obtain ⟨e, p', sess', hrun, hran, -⟩ := run_ran s n p sess
  cases hran with
  | @unprepared e made' _ _ hopening hcalls hticks =>
      refine ⟨_, _, _, made', hrun, hcalls, fun before after hsplit => ?_⟩
      have hmade : .iterate ∈ made' := by simp [hsplit]
      exact absurd (hopening.subset hmade) (not_mem_openingScript s p)
  | @stopped p₀ s₀ blocks _ _ hopening hrounds hlength hcalls hticks =>
      refine ⟨_, _, _, s.openingScript p ++ s.roundCalls blocks, hrun,
        by rw [hcalls, List.append_assoc], fun before after hsplit => ?_⟩
      exact h.at_turn hlan hopening hrounds.not_mem_roundCalls hsplit
  | @broken p₀ s₀ blocks p₁ s₁ e made' _ _ hopening hrounds hlength hbreaks hcalls hticks =>
      refine ⟨_, _, _, s.openingScript p ++ (s.roundCalls blocks ++ made'), hrun,
        by simp only [hcalls, List.append_assoc], fun before after hsplit => ?_⟩
      refine h.at_turn hlan hopening (fun hmem => ?_) hsplit
      rcases List.mem_append.mp hmem with hround | hturn
      · exact hrounds.not_mem_roundCalls hround
      · exact not_mem_turnScript s p₁ s₁.calls (hbreaks.subset hturn)

/-! ## The law -/

/-- What the preparations of a scheduler come to. At every point of a life with broadcasts enabled
the engine has been asked once to get ready for them, if the scheduler was ever asked to prepare. A
preparation that returns then finds the engine made ready, once, just if none before it had failed;
if one had, it returns though the engine was never made ready, and asks for nothing. Likewise, a
service loop that moves the engine on finds it made ready just if no preparation before the loop had
failed. -/
theorem start_initializes_iff {k : Nat} {b : Bool} (hlife : s.Life base k b p sess)
    (hlan : s.config.enableLanDiscovery = true) :
    ∃ made, sess.calls = base.calls ++ made
      ∧ s.attempts true base.calls made + s.attempts false base.calls made = (if b then 1 else 0)
      ∧ (∀ outcome p' sess', runIn s.start p sess = ((outcome, p'), sess') →
        ∃ more, sess'.calls = sess.calls ++ more ∧ s.Attempted base made outcome more)
      ∧ ∀ n, ∃ e p' sess' more, runIn (s.run n) p sess = ((.error e, p'), sess')
        ∧ sess'.calls = sess.calls ++ more
        ∧ ∀ before after, more = before ++ .iterate :: after →
          (s.attempts true base.calls (made ++ before) = 1
            ↔ s.attempts false base.calls made = 0) := by
  obtain ⟨made, h⟩ := hlife.opening hlan
  refine ⟨made, h.calls, ?_, fun outcome p' sess' hstart => ?_, h.run hlan⟩
  · rw [h.asked, hlife.started]
    cases b <;> rfl
  · obtain ⟨more, hopening, hattempted⟩ := h.start hlan hstart
    refine ⟨more, ?_, hattempted⟩
    rw [hopening.calls, h.calls, List.append_assoc]

def engineFailure : Failure := .fault (.raised "RuntimeError" "engine")

/-- A scheduler whose engine cannot get ready if that is the first thing it is asked for. -/
def unready : Scheduler Nat where
  engine :=
    { publicKeySize := 1, iterate := fun _ => .ok (), poll := fun _ => .ok (),
      bootstrap := fun _ => .ok true, connectionCount := fun _ => .ok 0,
      initLanDiscovery := fun calls => if calls.length = 1 then .error engineFailure else .ok (),
      sendLanDiscovery := fun _ => .ok (), setMotd := fun _ => .ok true,
      createRelay := fun _ => .ok none }
  config := .default
  relay := some ⟨fun _ => .ok ()⟩
  tickInterval := 30
  lanInterval := 10
  clock := fun _ => 7

theorem start_initializes_iff_after_failure :
    let base : Session Nat := .start ⟨[], []⟩ [] ⟨true, [], 0⟩
    ∃ p sess, unready.Life base 0 true p sess ∧ unready.config.enableLanDiscovery = true
      ∧ sess.calls = [.initLanDiscovery]
      ∧ ∀ outcome p' sess', runIn unready.start p sess = ((outcome, p'), sess') →
        outcome = .ok () ∧ sess'.calls = [.initLanDiscovery] := by
  intro base
  have hfirst : runIn unready.start .initial base
      = ((.error engineFailure, ⟨false, 0, none, true⟩), base.addCall .initLanDiscovery) := rfl
  have hlife : unready.Life base 0 true ⟨false, 0, none, true⟩ (base.addCall .initLanDiscovery) :=
    Life.made.prepared hfirst
  obtain ⟨made, hcalls, -, hstart, -⟩ := start_initializes_iff hlife rfl
  obtain rfl : [.initLanDiscovery] = made := hcalls
  refine ⟨_, _, hlife, rfl, rfl, fun outcome p' sess' hagain => ?_⟩
  obtain ⟨more, hmore, hattempted⟩ := hstart outcome p' sess' hagain
  have hfailed : unready.attempts false base.calls [.initLanDiscovery] ≠ 0 := by decide
  obtain ⟨hok, rfl⟩ := hattempted.repeated hfailed
  exact ⟨hok, hmore⟩

/-- The engine fails to get ready, the next preparation returns all the same, and a service loop
makes its turns, but the engine was never made ready. -/
theorem failed_preparation_counts_as_done :
    let base : Session Nat := .start ⟨[], []⟩ [] ⟨true, [], 0⟩
    let first := runIn unready.start .initial base
    let again := runIn unready.start first.1.2 first.2
    let loop := runIn (unready.run 1) first.1.2 first.2
    unready.config.enableLanDiscovery = true ∧ first.1.1 = .error engineFailure
      ∧ again.1.1 = .ok () ∧ unready.attempts true base.calls again.2.calls = 0
      ∧ .iterate ∈ loop.2.calls ∧ unready.attempts true base.calls loop.2.calls = 0 := by
  intro base first again loop
  have hcalls : loop.2.calls = [.initLanDiscovery, .iterate, .sendLanDiscovery 33445,
    .relayIterate, .poll, .connectionCount, .sleep 30] := rfl
  refine ⟨rfl, rfl, rfl, rfl, ?_, rfl⟩
  rw [hcalls]
  simp

end Life

end SeedNode.Scheduler

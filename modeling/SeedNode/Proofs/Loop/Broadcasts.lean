import Mathlib.Data.List.Chain
import Mathlib.Data.Rat.Cast.Order
import Mathlib.Tactic.Linarith
import SeedNode.Proofs.Loop.Rounds

/-!
# The rate of broadcasts

A turn broadcasts on the local network at once if no broadcast has succeeded, and otherwise when the
interval has passed since the last that did. The readings of the broadcasts that succeeded are
therefore an interval apart, whatever the clock does and whichever calls fail. The progress holds
the last of these readings all the time (`Broadcasting`): every step of a life extends the readings
by none, or by one that is due.
-/

namespace SeedNode.Scheduler

variable {τ : Type} {s : Scheduler τ} {base sess sess' : Session τ} {p p' : Progress τ} {k : Nat}
  {calls made more : List (Call τ)}

/-! ## The broadcast of a turn -/

theorem sent_cons (s : Scheduler τ) (before : List (Call τ)) (call : Call τ)
    (rest : List (Call τ)) :
    s.sent before (call :: rest)
      = (s.sent? (before, call)).toList ++ s.sent (before ++ [call]) rest := by
  rw [sent, moments, List.filterMap_cons]
  cases s.sent? (before, call) <;> rfl

/-- The script of a turn after its broadcast. -/
def restScript (s : Scheduler τ) (p : Progress τ) : List (Call τ) :=
  s.relayScript ++ [.poll] ++ countScript p

theorem mem_restScript {call : Call τ} (h : call ∈ s.restScript p) :
    call = .relayIterate ∨ call = .poll ∨ call = .connectionCount := by
  grind [restScript, relayScript, countScript]

theorem not_mem_restScript (s : Scheduler τ) (p : Progress τ) (port : Int) :
    .sendLanDiscovery port ∉ s.restScript p := by
  intro h
  rcases mem_restScript h with h | h | h <;> cases h

variable [Sub τ] [LE τ] [DecidableLE τ]

/-- A broadcast is due: none has succeeded yet, or the interval has passed since the last one. -/
def Due (s : Scheduler τ) (readings : List τ) (now : τ) : Prop :=
  readings = [] ∨ ∃ last, readings.getLast? = some last ∧ s.lanInterval ≤ now - last

theorem broadcastDue_iff {readings : List τ} {now : τ}
    (h : p.lastBroadcast = readings.getLast?) :
    s.broadcastDue p now = true ↔ s.Due readings now := by
  rw [broadcastDue, Due, h]
  cases hlast : readings.getLast? with
  | none => simp [List.getLast?_eq_none_iff.mp hlast]
  | some last =>
      have hne : readings ≠ [] := by
        rintro rfl
        cases hlast
      simp [hne]

theorem turnScript_eq (s : Scheduler τ) (p : Progress τ) (calls : List (Call τ)) :
    s.turnScript p calls
      = .iterate :: (s.announceScript p (calls ++ [.iterate]) ++ s.restScript p) := by
  simp [turnScript, restScript]

/-- The calls of a turn in which the engine moved on. -/
theorem perform_turnScript (p : Progress τ) (h : s.reply calls .iterate = .ok ()) :
    (s.perform calls (s.turnScript p calls)).1 = .iterate :: (s.perform (calls ++ [.iterate])
      (s.announceScript p (calls ++ [.iterate]) ++ s.restScript p)).1 := by
  rw [turnScript_eq, perform_cons_of_ok h]

theorem mem_turn_iff (p : Progress τ) (h : s.reply calls .iterate = .ok ()) (port : Int) :
    .sendLanDiscovery port ∈ (s.perform calls (s.turnScript p calls)).1
      ↔ port = s.config.port ∧ s.announces p (calls ++ [.iterate]) = true := by
  rw [perform_turnScript p h, announceScript]
  cases hannounces : s.announces p (calls ++ [.iterate]) with
  | false =>
      have hrest : .sendLanDiscovery port ∉ (s.perform (calls ++ [.iterate]) (s.restScript p)).1 :=
        fun hmem => not_mem_restScript s p port (mem_of_mem_perform hmem)
      simpa using hrest
  | true =>
      simp only [↓reduceIte, List.singleton_append, and_true]
      constructor
      · intro hmem
        rcases List.mem_cons.mp hmem with hmem | hmem
        · cases hmem
        rcases List.mem_cons.mp (mem_of_mem_perform hmem) with hmem | hmem
        · exact Call.sendLanDiscovery.inj hmem
        · exact absurd hmem (not_mem_restScript s p port)
      · rintro rfl
        rw [perform]
        split <;> simp

/-- The reading that a turn adds to those of the broadcasts that succeeded. -/
theorem sent_turn (p : Progress τ) (h : s.reply calls .iterate = .ok ()) :
    s.sent calls (s.perform calls (s.turnScript p calls)).1
      = if s.announces p (calls ++ [.iterate])
        then (s.sent? (calls ++ [.iterate], .sendLanDiscovery s.config.port)).toList else [] := by
  have hrest : ∀ before before', s.sent before (s.perform before' (s.restScript p)).1 = [] :=
    fun before _ => sent_eq_nil s before
      fun port hmem => not_mem_restScript s p port (mem_of_mem_perform hmem)
  have hiterate : s.sent? (calls, .iterate) = none := rfl
  rw [perform_turnScript p h, sent_cons, hiterate, Option.toList_none, List.nil_append,
    announceScript]
  cases s.announces p (calls ++ [.iterate]) with
  | false => exact hrest _ _
  | true =>
      simp only [↓reduceIte, List.singleton_append]
      cases hsend : s.reply (calls ++ [.iterate]) (.sendLanDiscovery s.config.port) with
      | error e =>
          rw [perform_cons_of_error hsend, sent_cons, sent_eq_nil s _ (by simp), List.append_nil]
      | ok _ => rw [perform_cons_of_ok hsend, sent_cons, hrest, List.append_nil]

theorem sent_turn_of_error {e : Failure} (p : Progress τ)
    (h : s.reply calls .iterate = .error e) :
    s.sent calls (s.perform calls (s.turnScript p calls)).1 = [] := by
  rw [turnScript_eq, perform_cons_of_error h]
  exact sent_eq_nil s calls (by simp)

/-- A turn adds no reading, or one that is due. -/
theorem sent_turn_due (s : Scheduler τ) (p : Progress τ) (calls : List (Call τ)) :
    s.sent calls (s.perform calls (s.turnScript p calls)).1 = []
      ∨ ∃ now, s.sent calls (s.perform calls (s.turnScript p calls)).1 = [now]
        ∧ s.broadcastDue p now = true := by
  cases hiterate : s.reply calls .iterate with
  | error e => exact .inl (sent_turn_of_error p hiterate)
  | ok _ =>
      rw [sent_turn p hiterate]
      cases hannounces : s.announces p (calls ++ [.iterate]) with
      | false => exact .inl rfl
      | true =>
          rw [announces, Bool.and_eq_true] at hannounces
          simp only [↓reduceIte, sent?]
          split
          · exact .inr ⟨_, rfl, hannounces.2⟩
          · exact .inl rfl

/-! ## The broadcasts of a life -/

/-- What the calls made since `base` tell of broadcasts, and the progress knows of them. -/
structure Broadcasting (s : Scheduler τ) (base : Session τ) (p : Progress τ) (sess : Session τ)
    (made : List (Call τ)) : Prop where
  calls : sess.calls = base.calls ++ made
  lastBroadcast : p.lastBroadcast = (s.sent base.calls made).getLast?
  spaced : (s.sent base.calls made).IsChain fun last next => s.lanInterval ≤ next - last
  silent : s.config.enableLanDiscovery = false →
    ∀ c ∈ made, c ≠ .initLanDiscovery ∧ ∀ port, c ≠ .sendLanDiscovery port

/-- Further calls add no reading, or one that is due. -/
theorem Broadcasting.extend (h : s.Broadcasting base p sess made)
    (hcalls : sess'.calls = sess.calls ++ more)
    (hlast : p'.lastBroadcast = (s.sent sess.calls more).getLast?.or p.lastBroadcast)
    (hdue : s.sent sess.calls more = []
      ∨ ∃ now, s.sent sess.calls more = [now] ∧ s.broadcastDue p now = true)
    (hsilent : s.config.enableLanDiscovery = false →
      ∀ c ∈ more, c ≠ .initLanDiscovery ∧ ∀ port, c ≠ .sendLanDiscovery port) :
    s.Broadcasting base p' sess' (made ++ more) := by
  have hsent : s.sent base.calls (made ++ more)
      = s.sent base.calls made ++ s.sent sess.calls more := by
    rw [sent_append, h.calls]
  refine ⟨by rw [hcalls, h.calls, List.append_assoc], ?_, ?_, ?_⟩
  · rw [hlast, hsent, List.getLast?_append, h.lastBroadcast]
  · rw [hsent]
    rcases hdue with hnone | ⟨now, hone, hdue⟩
    · rw [hnone, List.append_nil]
      exact h.spaced
    · rw [hone]
      refine h.spaced.append (List.isChain_singleton now) fun last hl next hn => ?_
      obtain rfl : now = next := by simpa using hn
      have hlast : p.lastBroadcast = some last := h.lastBroadcast.trans hl
      rw [broadcastDue, hlast] at hdue
      exact of_decide_eq_true hdue
  · intro hlan c hc
    exact (List.mem_append.mp hc).elim (h.silent hlan c) (hsilent hlan c)

theorem turnScript_silent (p : Progress τ) (calls : List (Call τ))
    (h : s.config.enableLanDiscovery = false) :
    ∀ c ∈ s.turnScript p calls, c ≠ .initLanDiscovery ∧ ∀ port, c ≠ .sendLanDiscovery port := by
  have hannounces : s.announceScript p (calls ++ [.iterate]) = [] := by
    simp [announceScript, announces, h]
  intro c hc
  rw [turnScript_eq, hannounces, List.nil_append] at hc
  rcases List.mem_cons.mp hc with rfl | hc
  · simp
  · rcases mem_restScript hc with rfl | rfl | rfl <;> simp

theorem Broadcasting.tick {outcome : Except Failure Unit} (h : s.Broadcasting base p sess made)
    (hturn : runIn s.tick p sess = ((outcome, p'), sess')) :
    s.Broadcasting base p' sess'
      (made ++ (s.perform sess.calls (s.turnScript p sess.calls)).1) := by
  have hturned := tick_turned hturn
  exact h.extend hturned.calls hturned.lastBroadcast (sent_turn_due s p sess.calls)
    fun hlan c hc => turnScript_silent p sess.calls hlan c (mem_of_mem_perform hc)

theorem Broadcasting.start {outcome : Except Failure Unit} (h : s.Broadcasting base p sess made)
    (hstart : runIn s.start p sess = ((outcome, p'), sess')) :
    s.Broadcasting base p' sess' (made ++ (s.perform sess.calls (s.openingScript p)).1) := by
  have hprepared := start_prepared hstart
  have hsent : s.sent sess.calls (s.perform sess.calls (s.openingScript p)).1 = [] := by
    refine sent_eq_nil s sess.calls fun port hmem => ?_
    have hscript := mem_of_mem_perform hmem
    simp [openingScript] at hscript
  refine h.extend hprepared.calls ?_ (.inl hsent) fun hlan c hc => ?_
  · rw [hsent, hprepared.progress]
    rfl
  · have hscript := mem_of_mem_perform hc
    simp [openingScript, hlan] at hscript

theorem Life.broadcasting {b : Bool} (h : s.Life base k b p sess) :
    ∃ made, s.Broadcasting base p sess made := by
  induction h with
  | made => exact ⟨[], (List.append_nil _).symm, rfl, .nil, by simp⟩
  | prepared _ hstart ih =>
      obtain ⟨made, h⟩ := ih
      exact ⟨_, h.start hstart⟩
  | turned _ hturn ih | failed _ hturn ih =>
      obtain ⟨made, h⟩ := ih
      exact ⟨_, h.tick hturn⟩
  | slept _ ih =>
      obtain ⟨made, h⟩ := ih
      exact ⟨_, h.extend rfl rfl (.inl rfl) (by simp)⟩

/-- Readings that are an interval apart span as many intervals as there are gaps. -/
theorem span_of_isChain {interval : ℚ} : ∀ {readings : List ℚ} {first last : ℚ},
    readings.IsChain (fun last next => interval ≤ next - last) → readings.head? = some first →
    readings.getLast? = some last → ((readings.length : ℚ) - 1) * interval ≤ last - first
  | [a], first, last, _, hfirst, hlast => by
      obtain rfl := Option.some.inj hfirst
      obtain rfl := Option.some.inj hlast
      simp
  | a :: b :: rest, first, last, hchain, hfirst, hlast => by
      obtain rfl := Option.some.inj hfirst
      obtain ⟨hstep, hchain⟩ := List.isChain_cons_cons.mp hchain
      rw [List.getLast?_cons_cons] at hlast
      have hrest := span_of_isChain hchain rfl hlast
      simp only [List.length_cons, Nat.cast_add, Nat.cast_one] at hrest ⊢
      linarith

/-! ## The law -/

/-- What a turn does about broadcasting, from `p` and `sess` to `p'` and `sess'`, when broadcasts
have succeeded at `readings` and the engine moves on. -/
structure Attempting (s : Scheduler τ) (readings : List τ) (p : Progress τ) (sess : Session τ)
    (p' : Progress τ) (sess' : Session τ) : Prop where
  /-- It attempts a broadcast just if one is due, on the port of the configuration. -/
  attempts : ∃ turn, sess'.calls = sess.calls ++ turn ∧ ∀ port, .sendLanDiscovery port ∈ turn
    ↔ port = s.config.port ∧ s.Due readings (s.clock (sess.calls ++ [.iterate]))
  /-- A broadcast that succeeded is remembered, however the turn ends. -/
  remembered : s.Due readings (s.clock (sess.calls ++ [.iterate])) →
    s.engine.sendLanDiscovery (sess.calls ++ [.iterate, .sendLanDiscovery s.config.port]) = .ok () →
    p'.lastBroadcast = some (s.clock (sess.calls ++ [.iterate]))
  /-- A broadcast that failed changes nothing, -/
  failed : ∀ e, s.Due readings (s.clock (sess.calls ++ [.iterate])) →
    s.engine.sendLanDiscovery (sess.calls ++ [.iterate, .sendLanDiscovery s.config.port])
      = .error e →
    p'.lastBroadcast = p.lastBroadcast
  /-- nor does a turn in which none is due. -/
  idle : ¬s.Due readings (s.clock (sess.calls ++ [.iterate])) → p'.lastBroadcast = p.lastBroadcast

theorem Broadcasting.attempting {outcome : Except Failure Unit}
    (h : s.Broadcasting base p sess made) (hlan : s.config.enableLanDiscovery = true)
    (hiterate : s.engine.iterate (sess.calls ++ [.iterate]) = .ok ())
    (hturn : runIn s.tick p sess = ((outcome, p'), sess')) :
    s.Attempting (s.sent base.calls made) p sess p' sess' := by
  have hturned := tick_turned hturn
  have hlast := hturned.lastBroadcast
  rw [sent_turn p hiterate] at hlast
  have hdue : s.announces p (sess.calls ++ [.iterate]) = true
      ↔ s.Due (s.sent base.calls made) (s.clock (sess.calls ++ [.iterate])) := by
    rw [announces, hlan, Bool.true_and]
    exact broadcastDue_iff h.lastBroadcast
  have hbefore : sess.calls ++ [.iterate] ++ [.sendLanDiscovery s.config.port]
      = sess.calls ++ [.iterate, .sendLanDiscovery s.config.port] := List.append_assoc _ _ _
  refine ⟨⟨_, hturned.calls, fun port => ?_⟩, fun hd hok => ?_, fun e hd herror => ?_,
    fun hnot => ?_⟩
  · rw [mem_turn_iff p hiterate, hdue]
  · rw [if_pos (hdue.mpr hd), sent?, hbefore, hok] at hlast
    exact hlast
  · rw [if_pos (hdue.mpr hd), sent?, hbefore, herror] at hlast
    exact hlast
  · rw [if_neg (fun hannounces => hnot (hdue.mp hannounces))] at hlast
    exact hlast

/-- The rate of broadcasts. At every point of a life, the progress holds the clock reading of the
last broadcast that succeeded, and a turn whose engine moves on attempts one just if none has
succeeded or the interval has passed since that reading; only its own success is remembered. The
readings are an interval apart, and as exact numbers they span an interval for each gap. A loop
that runs is part of a life. Where broadcasts are disabled none is prepared or made. -/
theorem broadcasts_keep_interval :
    (∀ {τ : Type} [Sub τ] [LE τ] [DecidableLE τ] (s : Scheduler τ) (base : Session τ) {k : Nat}
      {b : Bool} {p : Progress τ} {sess : Session τ}, s.Life base k b p sess →
      ∃ made, sess.calls = base.calls ++ made
        ∧ p.lastBroadcast = (s.sent base.calls made).getLast?
        ∧ (s.sent base.calls made).IsChain (fun last next => s.lanInterval ≤ next - last)
        ∧ (s.config.enableLanDiscovery = true →
          s.engine.iterate (sess.calls ++ [.iterate]) = .ok () →
          ∀ outcome p' sess', runIn s.tick p sess = ((outcome, p'), sess') →
            s.Attempting (s.sent base.calls made) p sess p' sess')
        ∧ (s.config.enableLanDiscovery = false →
          ∀ c ∈ made, c ≠ .initLanDiscovery ∧ ∀ port, c ≠ .sendLanDiscovery port)
        ∧ ∀ n, ∃ e p' sess', runIn (s.run n) p sess = ((.error e, p'), sess')
          ∧ s.Life base p'.ticks true p' sess')
      ∧ ∀ (s : Scheduler ℚ) (base : Session ℚ) {k : Nat} {b : Bool} {p : Progress ℚ}
        {sess : Session ℚ} (made : List (Call ℚ)), s.Life base k b p sess →
        sess.calls = base.calls ++ made →
        let readings := s.sent base.calls made
        readings.IsChain (fun last next => s.lanInterval ≤ next - last)
          ∧ ∀ first last, readings.head? = some first → readings.getLast? = some last →
            ((readings.length : ℚ) - 1) * s.lanInterval ≤ last - first := by
  constructor
  · intro τ _ _ _ s base k b p sess hlife
    obtain ⟨made, h⟩ := hlife.broadcasting
    refine ⟨made, h.calls, h.lastBroadcast, h.spaced, ?_, h.silent, fun n => ?_⟩
    · intro hlan hiterate outcome p' sess' hturn
      exact h.attempting hlan hiterate hturn
    · obtain ⟨e, p', sess', hrun, -, hkeeps⟩ := run_ran s n p sess
      exact ⟨e, p', sess', hrun, hkeeps base b (hlife.ticks ▸ hlife)⟩
  · intro s base k b p sess made hlife hcalls readings
    obtain ⟨made', h⟩ := hlife.broadcasting
    obtain rfl : made = made' := List.append_cancel_left (hcalls.symm.trans h.calls)
    exact ⟨h.spaced, fun first last => span_of_isChain h.spaced⟩

theorem broadcasts_keep_interval_twice :
    let engine : Engine ℚ :=
      ⟨1, fun _ => .ok (), fun _ => .ok (), fun _ => .ok true, fun _ => .ok 0, fun _ => .ok (),
        fun _ => .ok (), fun _ => .ok true, fun _ => .ok none⟩
    let clock : Clock ℚ := fun calls => if calls.length = 1 then 4 else 24
    let s : Scheduler ℚ := ⟨engine, .default, some ⟨fun _ => .ok ()⟩, 1, 10, clock⟩
    let base : Session ℚ := .start ⟨[], []⟩ [] ⟨true, [], 0⟩
    let calls : List (Call ℚ) :=
      [.iterate, .sendLanDiscovery 33445, .relayIterate, .poll, .connectionCount]
    ∃ p sess, s.Life base 2 false p sess ∧ sess.calls = calls ++ calls
      ∧ s.sent [] (calls ++ calls) = [4, 24] ∧ ((2 : ℚ) - 1) * 10 ≤ 24 - 4 := by
  intro engine clock s base calls
  have hfirst : runIn s.tick .initial base
      = ((.ok (), ⟨false, 1, some 4, false⟩), calls.foldl Session.addCall base) := rfl
  have hdue : s.broadcastDue ⟨false, 1, some 4, false⟩ 24 = true := by
    change decide ((10 : ℚ) ≤ 24 - 4) = true
    norm_num
  have hscript : s.turnScript ⟨false, 1, some 4, false⟩ calls = calls := by
    have hannounces : s.announces ⟨false, 1, some 4, false⟩ (calls ++ [.iterate]) = true := hdue
    rw [turnScript, announceScript, hannounces]
    rfl
  rcases hrun : runIn s.tick ⟨false, 1, some 4, false⟩ (calls.foldl Session.addCall base)
    with ⟨⟨outcome, p⟩, sess⟩
  obtain ⟨hresult, hcalls, -, -, -, -⟩ := tick_turned hrun
  have hmade : s.perform calls calls = (calls, .ok ()) := rfl
  have hbefore : (calls.foldl Session.addCall base).calls = calls := rfl
  rw [hbefore, hscript, hmade] at hresult hcalls
  subst hresult
  have hlife : s.Life base 2 false p sess := (Life.made.turned hfirst).turned hrun
  have hsent : s.sent [] (calls ++ calls) = [4, 24] := rfl
  have hlaw := (broadcasts_keep_interval.2 s base (calls ++ calls) hlife hcalls).2 4 24
  exact ⟨p, sess, hlife, hcalls, hsent, hlaw rfl rfl⟩

end SeedNode.Scheduler

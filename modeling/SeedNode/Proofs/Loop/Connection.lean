import Mathlib.Data.List.Infix
import SeedNode.Proofs.Loop.Keeping
import SeedNode.Proofs.Loop.Rounds

/-!
# The first live connection

The progress of a scheduler turns from awaiting a connection to connected at most once. Two things
are kept by every step of a life (`Latch`): the progress is connected just if a live connection was
counted, and a record tells of it as often as the progress turned. The second is a matter of adding
up (`Heralds`): what is told is the difference between the progress before and after. Since a turn
counts connections last, and only if there was none, no count comes after the positive one.
-/

namespace SeedNode.Scheduler

variable {τ : Type} {s : Scheduler τ} {base sess sess' : Session τ} {p p' : Progress τ}
  {calls made more : List (Call τ)} {records : List Record}

/-! ## What is told of a connection -/

/-- How many records tell of a first live connection. -/
def joins (records : List Record) : Nat :=
  records.countP fun r => r.message = joinedMessage

theorem joins_append (records later : List Record) :
    joins (records ++ later) = joins records + joins later :=
  List.countP_append

/-- A first live connection was told of as often as the progress became connected. -/
def Heralds (p : Progress τ) (sess : Session τ) (p' : Progress τ) (sess' : Session τ) : Prop :=
  ∃ records, sess'.log = sess.log ++ records
    ∧ joins records + p.connected.toNat = p'.connected.toNat

theorem heralds_loops : Loops (@Heralds τ) where
  refl p sess := ⟨[], (List.append_nil _).symm, Nat.zero_add _⟩
  trans p sess p₁ s₁ p' sess' h h' := by
    obtain ⟨records, hlog, htold⟩ := h
    obtain ⟨later, hlater, htold'⟩ := h'
    refine ⟨records ++ later, by rw [hlater, hlog, List.append_assoc], ?_⟩
    rw [joins_append, ← htold', ← htold]
    omega
  addCall p sess call _ := ⟨[], (List.append_nil _).symm, Nat.zero_add _⟩
  inform p sess message hmessage := ⟨_, rfl, by simp [joins, hmessage]⟩
  move p p' sess hconnected := ⟨[], (List.append_nil _).symm, by simp [joins, hconnected]⟩
  join p sess hconnected := ⟨_, rfl, by simp [joins, hconnected]⟩

/-! ## Counts of connections -/

/-- A live connection was met just if some count of connections came out positive. -/
theorem met_iff : s.met calls made = true ↔ ∃ before after count,
    made = before ++ .connectionCount :: after
      ∧ s.engine.connectionCount (calls ++ before ++ [.connectionCount]) = .ok count
      ∧ 0 < count := by
  constructor
  · intro h
    induction made generalizing calls with
    | nil => cases h
    | cons call rest ih =>
        rw [met, moments, List.any_cons, Bool.or_eq_true] at h
        rcases h with hfirst | hrest
        · cases call with
          | connectionCount =>
              rw [meets] at hfirst
              cases hcount : s.engine.connectionCount (calls ++ [.connectionCount]) with
              | error e =>
                  rw [hcount] at hfirst
                  cases hfirst
              | ok count =>
                  rw [hcount] at hfirst
                  exact ⟨[], rest, count, rfl, by rw [List.append_nil]; exact hcount,
                    of_decide_eq_true hfirst⟩
          | _ => cases hfirst
        · obtain ⟨before, after, count, hmade, hcount, hlive⟩ := ih hrest
          refine ⟨call :: before, after, count, by rw [hmade, List.cons_append], ?_, hlive⟩
          simpa using hcount
  · rintro ⟨before, after, count, rfl, hcount, hlive⟩
    have hmeets : s.meets (calls ++ before, .connectionCount) = true := by
      rw [meets, hcount]
      exact decide_eq_true hlive
    have hstill : s.met (calls ++ before) (.connectionCount :: after) = true := by
      rw [met, moments, List.any_cons, hmeets, Bool.true_or]
    rw [met_append, hstill, Bool.or_true]

/-- No connections are counted after a count that met a live one. -/
def CountsNoMore (s : Scheduler τ) (calls made : List (Call τ)) : Prop :=
  ∀ before after, made = before ++ after → s.met calls before = true → .connectionCount ∉ after

theorem countsNoMore_of_not_mem (s : Scheduler τ) (calls : List (Call τ))
    (h : .connectionCount ∉ made) : s.CountsNoMore calls made := by
  rintro before after rfl hmet
  rw [met_eq_false s calls fun hmem => h (List.mem_append_left _ hmem)] at hmet
  cases hmet

/-- Connections may be counted once, at the end. -/
theorem countsNoMore_of_prefix (s : Scheduler τ) (calls : List (Call τ))
    (hmore : .connectionCount ∉ more) (hmade : made <+: more ++ [.connectionCount]) :
    s.CountsNoMore calls made := by
  rintro before after rfl hmet hafter
  have hbefore : before <+: more ++ [.connectionCount] :=
    (List.prefix_append before after).trans hmade
  rcases List.prefix_concat_iff.mp hbefore with hall | hpart
  · have hlength := hmade.length_le
    rw [List.length_append, hall] at hlength
    have hnil : after = [] := List.length_eq_zero_iff.mp (by omega)
    rw [hnil] at hafter
    exact List.not_mem_nil hafter
  · rw [met_eq_false s calls fun hmem => hmore (hpart.subset hmem)] at hmet
    cases hmet

/-- Further calls count no connections if a live one was met, nor after they met one themselves. -/
theorem CountsNoMore.append (h : s.CountsNoMore calls made)
    (hmet : s.met calls made = true → .connectionCount ∉ more)
    (hmore : s.CountsNoMore (calls ++ made) more) : s.CountsNoMore calls (made ++ more) := by
  intro before after hsplit hbefore hafter
  rcases List.append_eq_append_iff.mp hsplit with ⟨head, rfl, rfl⟩ | ⟨tail, rfl, rfl⟩
  · -- the split lies among the further calls
    rw [met_append, Bool.or_eq_true] at hbefore
    rcases hbefore with hmade | hhead
    · exact hmet hmade (List.mem_append_right _ hafter)
    · exact hmore head after rfl hhead hafter
  · rcases List.mem_append.mp hafter with htail | hlater
    · exact h before tail rfl hbefore htail
    · refine hmet ?_ hlater
      rw [met_append, hbefore, Bool.true_or]

theorem perform_begins (s : Scheduler τ) (calls script : List (Call τ)) :
    (s.perform calls script).1 <+: script := by
  cases hresult : (s.perform calls script).2 with
  | ok _ => rw [perform_of_ok hresult]
  | error e =>
      obtain ⟨before, call, after, hscript, hmade, -, -⟩ := breaksOff_of_error hresult
      exact ⟨after, by rw [hmade, hscript, List.append_assoc]; rfl⟩

/-! ## The latch -/

/-- What the calls and the records since `base` tell of connections, and the progress knows. -/
structure Latch (s : Scheduler τ) (base : Session τ) (p : Progress τ) (sess : Session τ)
    (made : List (Call τ)) (records : List Record) : Prop where
  calls : sess.calls = base.calls ++ made
  log : sess.log = base.log ++ records
  connected : p.connected = s.met base.calls made
  told : joins records = p.connected.toNat
  counted : s.CountsNoMore base.calls made

/-- A step keeps the latch if it tells what it finds, and counts nothing when there is no need. -/
theorem Latch.step {x : LoopM τ Unit} {outcome : Except Failure Unit}
    (h : s.Latch base p sess made records) (hx : Preserves Heralds x)
    (hrun : runIn x p sess = ((outcome, p'), sess')) (hcalls : sess'.calls = sess.calls ++ more)
    (hconnected : p'.connected = (p.connected || s.met sess.calls more))
    (hrest : p.connected = true → .connectionCount ∉ more)
    (hcounted : s.CountsNoMore sess.calls more) :
    ∃ later, s.Latch base p' sess' (made ++ more) (records ++ later) := by
  obtain ⟨later, hlog, htold⟩ := hx p sess
  rw [hrun] at hlog htold
  refine ⟨later, ?_, ?_, ?_, ?_, ?_⟩
  · rw [hcalls, h.calls, List.append_assoc]
  · rw [show sess'.log = _ from hlog, h.log, List.append_assoc]
  · rw [hconnected, h.connected, met_append, h.calls]
  · rw [joins_append, h.told, Nat.add_comm]
    exact htold
  · rw [h.calls] at hcounted
    exact h.counted.append (fun hmet => hrest (h.connected.trans hmet)) hcounted

theorem Latch.start {outcome : Except Failure Unit} (h : s.Latch base p sess made records)
    (hstart : runIn s.start p sess = ((outcome, p'), sess')) :
    ∃ more later, s.Latch base p' sess' (made ++ more) (records ++ later) := by
  have hprepared := start_prepared hstart
  have hcount : .connectionCount ∉ (s.perform sess.calls (s.openingScript p)).1 := by
    intro hmem
    have hscript := mem_of_mem_perform hmem
    simp [openingScript] at hscript
  refine ⟨_, h.step (heralds_loops.start s) hstart hprepared.calls ?_ (fun _ => hcount)
    (countsNoMore_of_not_mem s _ hcount)⟩
  rw [met_eq_false s _ hcount, Bool.or_false, hprepared.progress]

theorem Latch.slept (h : s.Latch base p sess made records) :
    s.Latch base p (sess.addCall (.sleep s.tickInterval)) (made ++ [.sleep s.tickInterval])
      records := by
  have hsleep : .connectionCount ∉ [Call.sleep s.tickInterval] := by simp
  refine ⟨?_, h.log, ?_, h.told, ?_⟩
  · rw [← List.append_assoc, ← h.calls]
    rfl
  · rw [met_append, met_eq_false s _ hsleep, Bool.or_false, h.connected]
  · exact h.counted.append (fun _ => hsleep) (countsNoMore_of_not_mem s _ hsleep)

variable [Sub τ] [LE τ] [DecidableLE τ]

theorem Latch.tick {outcome : Except Failure Unit} (h : s.Latch base p sess made records)
    (hturn : runIn s.tick p sess = ((outcome, p'), sess')) :
    ∃ more later, s.Latch base p' sess' (made ++ more) (records ++ later) := by
  have hturned := tick_turned hturn
  have hhead : .connectionCount ∉ [.iterate] ++ s.announceScript p (sess.calls ++ [.iterate])
      ++ s.relayScript ++ [.poll] := by
    simp [announceScript, relayScript]
  refine ⟨_, h.step (heralds_loops.tick s) hturn hturned.calls hturned.connected ?_ ?_⟩
  · intro hconnected hmem
    have hscript := mem_of_mem_perform hmem
    rw [turnScript, countScript, hconnected, if_pos rfl, List.append_nil] at hscript
    exact hhead hscript
  · refine countsNoMore_of_prefix s _ hhead ((perform_begins s _ _).trans ?_)
    rw [turnScript, countScript]
    cases p.connected with
    | true => exact ⟨[.connectionCount], by simp⟩
    | false => exact List.prefix_refl _

/-- How a life goes on: with preparations, turns and sleeps, whatever comes out of them. -/
inductive Onward (s : Scheduler τ) (p : Progress τ) (sess : Session τ) :
    Progress τ → Session τ → Prop
  | here : Onward s p sess p sess
  | prepared {p₁ s₁ outcome p' sess'} (h : Onward s p sess p₁ s₁)
      (hstart : runIn s.start p₁ s₁ = ((outcome, p'), sess')) : Onward s p sess p' sess'
  | turned {p₁ s₁ outcome p' sess'} (h : Onward s p sess p₁ s₁)
      (hturn : runIn s.tick p₁ s₁ = ((outcome, p'), sess')) : Onward s p sess p' sess'
  | slept {p₁ s₁} (h : Onward s p sess p₁ s₁) :
      Onward s p sess p₁ (s₁.addCall (.sleep s.tickInterval))

/-- A life is what goes on from the beginning. -/
theorem Life.onward {k : Nat} {b : Bool} (h : s.Life base k b p sess) :
    s.Onward .initial base p sess := by
  induction h with
  | made => exact .here
  | prepared _ hstart ih => exact ih.prepared hstart
  | turned _ hturn ih | failed _ hturn ih => exact ih.turned hturn
  | slept _ ih => exact ih.slept

theorem Onward.latch (h : s.Onward p sess p' sess') (hlatch : s.Latch base p sess made records) :
    ∃ more later, s.Latch base p' sess' (made ++ more) (records ++ later) := by
  induction h with
  | here => exact ⟨[], [], by rwa [List.append_nil, List.append_nil]⟩
  | prepared _ hstart ih =>
      obtain ⟨more, later, ih⟩ := ih
      obtain ⟨more', later', h⟩ := ih.start hstart
      exact ⟨more ++ more', later ++ later', by simpa only [List.append_assoc] using h⟩
  | turned _ hturn ih =>
      obtain ⟨more, later, ih⟩ := ih
      obtain ⟨more', later', h⟩ := ih.tick hturn
      exact ⟨more ++ more', later ++ later', by simpa only [List.append_assoc] using h⟩
  | slept _ ih =>
      obtain ⟨more, later, ih⟩ := ih
      exact ⟨_, later, by simpa only [List.append_assoc] using ih.slept⟩

/-- The latch holds at every point of a life. -/
theorem Life.latch {k : Nat} {b : Bool} (h : s.Life base k b p sess) :
    ∃ made records, s.Latch base p sess made records := by
  have hmade : s.Latch base .initial base [] [] :=
    ⟨(List.append_nil _).symm, (List.append_nil _).symm, rfl, rfl,
      countsNoMore_of_not_mem s _ List.not_mem_nil⟩
  obtain ⟨more, later, hlatch⟩ := h.onward.latch hmade
  exact ⟨more, later, hlatch⟩

/-- What has gone on beyond a latch that is set changes neither the latch nor what was told, and
counts no connections. -/
theorem Latch.stays (h : s.Latch base p sess made records) (hconnected : p.connected = true)
    (honward : s.Onward p sess p' sess') :
    p'.connected = true ∧ (∃ more, sess'.calls = sess.calls ++ more ∧ .connectionCount ∉ more)
      ∧ ∃ later, sess'.log = sess.log ++ later ∧ joins later = 0 := by
  obtain ⟨more, later, hlatch⟩ := honward.latch h
  have hmet : s.met base.calls made = true := h.connected.symm.trans hconnected
  have hconnected' : p'.connected = true := by
    rw [hlatch.connected, met_append, hmet, Bool.true_or]
  refine ⟨hconnected', ⟨more, ?_, hlatch.counted made more rfl hmet⟩, later, ?_, ?_⟩
  · rw [hlatch.calls, h.calls, List.append_assoc]
  · rw [hlatch.log, h.log, List.append_assoc]
  · have htold := hlatch.told
    rw [joins_append, h.told, hconnected, hconnected'] at htold
    omega

/-- The latch of the first live connection. At every point of a life, the progress is connected just
if one of the counts of connections made so far came out positive, a record has told of it once in
that case and never otherwise, and no count comes after the positive one. Once the progress is
connected it stays so, however the life goes on: no connections are counted any more, and no further
record tells of one. -/
theorem connection_latches {k : Nat} {b : Bool} (hlife : s.Life base k b p sess) :
    ∃ made records, sess.calls = base.calls ++ made ∧ sess.log = base.log ++ records
      ∧ (p.connected = true ↔ ∃ before after count, made = before ++ .connectionCount :: after
        ∧ s.engine.connectionCount (base.calls ++ before ++ [.connectionCount]) = .ok count
        ∧ 0 < count)
      ∧ joins records = (if p.connected then 1 else 0)
      ∧ (∀ before after count, made = before ++ .connectionCount :: after →
        s.engine.connectionCount (base.calls ++ before ++ [.connectionCount]) = .ok count →
        0 < count → .connectionCount ∉ after)
      ∧ (p.connected = true → ∀ p' sess', s.Onward p sess p' sess' →
        p'.connected = true ∧ (∃ more, sess'.calls = sess.calls ++ more ∧ .connectionCount ∉ more)
          ∧ ∃ later, sess'.log = sess.log ++ later ∧ joins later = 0) := by
  obtain ⟨made, records, hlatch⟩ := hlife.latch
  refine ⟨made, records, hlatch.calls, hlatch.log, ?_, ?_, ?_, ?_⟩
  · rw [hlatch.connected]
    exact met_iff
  · rw [hlatch.told]
    cases p.connected <;> rfl
  · intro before after count hmade hcount hlive
    have hbefore : s.met base.calls (before ++ [.connectionCount]) = true :=
      met_iff.mpr ⟨before, [], count, rfl, hcount, hlive⟩
    exact hlatch.counted _ after (by rw [hmade, List.append_assoc]; rfl) hbefore
  · intro hconnected p' sess' honward
    exact hlatch.stays hconnected honward

theorem connection_latches_second_turn :
    let raised : Failure := .fault (.raised "RuntimeError" "engine")
    let engine : Engine Nat :=
      ⟨1, fun _ => .ok (), fun _ => .ok (), fun _ => .ok true,
        fun calls => if calls.length < 6 then .error raised else .ok 2,
        fun _ => .ok (), fun _ => .ok (), fun _ => .ok true, fun _ => .ok none⟩
    let s : Scheduler Nat := ⟨engine, .default, some ⟨fun _ => .ok ()⟩, 30, 10, fun _ => 7⟩
    let base : Session Nat := .start ⟨[], []⟩ [] ⟨true, [], 0⟩
    ∃ p sess, s.Life base 1 false p sess ∧ p.connected = true
      ∧ (∃ records, sess.log = base.log ++ records ∧ joins records = 1)
      ∧ ∀ p' sess', s.Onward p sess p' sess' → p'.connected = true := by
  intro raised engine s base
  have hfirst : runIn s.tick .initial base = ((.error raised, ⟨false, 0, some 7, false⟩),
      [.iterate, .sendLanDiscovery 33445, .relayIterate, .poll, .connectionCount].foldl
        Session.addCall base) := rfl
  rcases hsecond : runIn s.tick ⟨false, 0, some 7, false⟩
      ([.iterate, .sendLanDiscovery 33445, .relayIterate, .poll, .connectionCount].foldl
        Session.addCall base) with ⟨⟨outcome, p⟩, sess⟩
  obtain rfl : outcome = .ok () := congrArg (fun out => out.1.1) hsecond.symm
  have hlife : s.Life base 1 false p sess := (Life.made.failed hfirst).turned hsecond
  have hconnected : p.connected = true := congrArg (fun out => out.1.2.connected) hsecond.symm
  obtain ⟨made, records, -, hlog, -, htold, -, hstays⟩ := connection_latches hlife
  rw [hconnected, if_pos rfl] at htold
  exact ⟨p, sess, hlife, hconnected, ⟨records, hlog, htold⟩,
    fun p' sess' honward => (hstays hconnected p' sess' honward).1⟩

end SeedNode.Scheduler

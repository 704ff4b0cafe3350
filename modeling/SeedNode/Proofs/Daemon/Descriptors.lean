import Mathlib.Logic.Function.Basic
import SeedNode.Proofs.Daemon.Reporting
import SeedNode.Proofs.Loop.Script

/-!
# Descriptors of the service

A process has a table of open descriptors, and the calls by which the service redirects its streams
change it: the null device is opened in the lowest free place, streams become copies of it, and the
descriptor is closed again unless it is itself one of the streams. The table is not kept by the
process. It is read off the calls and their answers (`after`), from any table at the beginning.

What carries the proof is that the opened descriptor stays on the null device whatever is copied
(`pointed_after`), also where it is a stream that was closed before and so is copied onto itself.
-/

namespace SeedNode.Detach

open Scheduler (moments moments_append)

variable {τ δ : Type} {os : Processes τ} {null : δ} {calls made later : List (Call τ)} {e : Failure}

/-- What the descriptors of a process are open on. -/
abbrev Descriptors (δ : Type) :=
  Int → Option δ

variable {t t' : Descriptors δ} {fd : Int}

/-! ## Tables -/

/-- The descriptor is not in use, and all below it are. -/
structure Descriptors.LowestFree (t : Descriptors δ) (fd : Int) : Prop where
  nonneg : 0 ≤ fd
  free : t fd = none
  used : ∀ k, 0 ≤ k → k < fd → (t k).isSome

/-- What a call leaves of a table, by the answer to it: a refused call leaves it as it is. -/
def applied (os : Processes τ) (null : δ) (t : Descriptors δ) :
    List (Call τ) × Call τ → Descriptors δ
  | (before, .openNull) =>
    match os.openNull (before ++ [.openNull]) with
    | .ok fd => Function.update t fd (some null)
    | .error _ => t
  | (before, .dup2 source target) =>
    match os.dup2 (before ++ [.dup2 source target]) with
    | .ok () => Function.update t target (t source)
    | .error _ => t
  | (before, .close fd) =>
    match os.close (before ++ [.close fd]) with
    | .ok () => Function.update t fd none
    | .error _ => t
  | _ => t

/-- The table after the calls `made`, which were made after `calls`. -/
def after (os : Processes τ) (null : δ) (t : Descriptors δ) (calls made : List (Call τ)) :
    Descriptors δ :=
  (moments calls made).foldl (applied os null) t

theorem after_append (t : Descriptors δ) (calls made later : List (Call τ)) :
    after os null t calls (made ++ later)
      = after os null (after os null t calls made) (calls ++ made) later := by
  rw [after, moments_append, List.foldl_append]
  rfl

@[simp] theorem after_cons (t : Descriptors δ) (calls : List (Call τ)) (call : Call τ)
    (later : List (Call τ)) :
    after os null t calls (call :: later)
      = after os null (applied os null t (calls, call)) (calls ++ [call]) later := rfl

section Answers

variable {source target : Int}

theorem applied_of_opened (h : os.openNull (calls ++ [.openNull]) = .ok fd) :
    applied os null t (calls, .openNull) = Function.update t fd (some null) := by
  rw [applied, h]

theorem applied_of_unopened (h : os.openNull (calls ++ [.openNull]) = .error e) :
    applied os null t (calls, .openNull) = t := by
  rw [applied, h]

theorem applied_of_copied (h : os.dup2 (calls ++ [.dup2 source target]) = .ok ()) :
    applied os null t (calls, .dup2 source target) = Function.update t target (t source) := by
  rw [applied, h]

theorem applied_of_uncopied (h : os.dup2 (calls ++ [.dup2 source target]) = .error e) :
    applied os null t (calls, .dup2 source target) = t := by
  rw [applied, h]

theorem applied_of_closed (h : os.close (calls ++ [.close fd]) = .ok ()) :
    applied os null t (calls, .close fd) = Function.update t fd none := by
  rw [applied, h]

end Answers

/-- The system opens the null device as the lowest free descriptor of the table. -/
def OpensLowest (os : Processes τ) (t : Descriptors δ) (calls : List (Call τ)) : Prop :=
  ∀ fd, os.openNull (calls ++ [.openNull]) = .ok fd → t.LowestFree fd

/-- The system closes whatever is open in the table by then. -/
def ClosesOpen (os : Processes τ) (null : δ) (t : Descriptors δ) (calls : List (Call τ)) : Prop :=
  ∀ made fd, (after os null t calls made fd).isSome →
    os.close (calls ++ made ++ [.close fd]) = .ok ()

/-! ## Refusals -/

/-- Among the calls is one to copy a descriptor, and it was refused. -/
def CopyRefused (os : Processes τ) (calls made : List (Call τ)) (e : Failure) : Prop :=
  ∃ before source target, (before, .dup2 source target) ∈ moments calls made
    ∧ os.dup2 (before ++ [.dup2 source target]) = .error e

theorem copyRefused_append : CopyRefused os calls (made ++ later) e
    ↔ CopyRefused os calls made e ∨ CopyRefused os (calls ++ made) later e := by
  simp only [CopyRefused, moments_append, List.mem_append, or_and_right, exists_or]

theorem copyRefused_dup2 {source target : Int} : CopyRefused os calls [.dup2 source target] e
    ↔ os.dup2 (calls ++ [.dup2 source target]) = .error e := by
  constructor
  · rintro ⟨before, source', target', hmem, hrefused⟩
    obtain ⟨rfl, hcall⟩ := Prod.mk.inj (List.mem_singleton.mp hmem)
    rwa [hcall] at hrefused
  · exact fun hrefused => ⟨calls, source, target, List.mem_singleton_self _, hrefused⟩

theorem not_copyRefused {call : Call τ} (h : ∀ source target, .dup2 source target ≠ call) :
    ¬CopyRefused os calls [call] e := by
  rintro ⟨before, source, target, hmem, -⟩
  exact h source target (Prod.mk.inj (List.mem_singleton.mp hmem)).2

/-! ## Pointing streams -/

/-- What pointing streams to a descriptor on the null device leaves of a table. -/
structure Pointed (null : δ) (t t' : Descriptors δ) (fd : Int) (streams : List Int)
    (outcome : Except Failure Unit) : Prop where
  source : t' fd = some null
  reached : outcome = .ok () → ∀ k ∈ streams, t' k = some null
  others : ∀ k ∉ streams, t' k = t k

/-- A stream that was pointed to a descriptor on the null device is on it too, whether or not it is
that descriptor. -/
theorem update_source (hsource : t fd = some null) (stream : Int) :
    Function.update t stream (t fd) fd = some null := by
  rw [Function.update_apply, hsource, ite_self]

theorem pointed_after (os : Processes τ) (streams : List Int) (calls : List (Call τ))
    (hsource : t fd = some null) :
    Pointed null t (after os null t calls (pointed os fd streams calls).1) fd streams
      (pointed os fd streams calls).2 := by
  induction streams generalizing t calls with
  | nil => exact ⟨hsource, fun _ => List.forall_mem_nil _, fun _ _ => rfl⟩
  | cons stream rest ih =>
      rw [pointed]
      cases hdup : os.dup2 (calls ++ [.dup2 fd stream]) with
      | error e =>
          have hafter : after os null t calls [.dup2 fd stream] = t := by
            rw [after_cons, applied_of_uncopied hdup]
            rfl
          exact ⟨(congrFun hafter fd).trans hsource, (fun hok => by cases hok),
            fun k _ => congrFun hafter k⟩
      | ok _ =>
          have hcopied : applied os null t (calls, .dup2 fd stream)
              = Function.update t stream (t fd) := applied_of_copied hdup
          have hrest := ih (calls ++ [.dup2 fd stream]) (update_source hsource stream)
          rw [← hcopied] at hrest
          refine ⟨hrest.source, fun hok k hk => ?_, fun k hk => ?_⟩
          · by_cases hlater : k ∈ rest
            · exact hrest.reached hok k hlater
            · obtain rfl := (List.mem_cons.mp hk).resolve_right hlater
              rw [after_cons, hrest.others k hlater, hcopied, Function.update_self, hsource]
          · rw [List.mem_cons, not_or] at hk
            rw [after_cons, hrest.others k hk.2, hcopied, Function.update_of_ne hk.1]

/-- Pointing streams fails just with what a copy was refused with. -/
theorem pointed_refused (os : Processes τ) (fd : Int) (streams : List Int)
    (calls : List (Call τ)) (e : Failure) :
    CopyRefused os calls (pointed os fd streams calls).1 e
      ↔ (pointed os fd streams calls).2 = .error e := by
  induction streams generalizing calls with
  | nil => simp [pointed, CopyRefused, moments]
  | cons stream rest ih =>
      rw [pointed]
      cases hdup : os.dup2 (calls ++ [.dup2 fd stream]) with
      | error e' => simp only [copyRefused_dup2, hdup]
      | ok _ =>
          rw [← List.singleton_append, copyRefused_append, copyRefused_dup2, hdup, ih]
          simp

/-! ## Silence -/

/-- What redirecting the streams leaves of a table, by what comes out. -/
structure Silenced (os : Processes τ) (null : δ) (t : Descriptors δ) (calls made : List (Call τ))
    (outcome : Except Failure Unit) : Prop where
  /-- If it returns, the streams are on the null device, and nothing else has changed. -/
  returned : outcome = .ok () →
    ∀ fd, after os null t calls made fd = if 0 ≤ fd ∧ fd ≤ 2 then some null else t fd
  /-- If a copy is refused, that comes out, and no descriptor but the streams has changed. -/
  refused : ∀ e, CopyRefused os calls made e →
    outcome = .error e ∧ ∀ fd, ¬(0 ≤ fd ∧ fd ≤ 2) → after os null t calls made fd = t fd
  /-- Nothing comes out but refusals, and a refusal to open the null device has changed nothing. -/
  failed : ∀ e, outcome = .error e → CopyRefused os calls made e
    ∨ os.openNull (calls ++ [.openNull]) = .error e ∧ after os null t calls made = t

section Opened

variable {outcome : Except Failure Unit}

theorem mem_streams {k : Int} : k ∈ [0, 1, 2] ↔ 0 ≤ k ∧ k ≤ 2 := by
  simp only [List.mem_cons, List.not_mem_nil, or_false]
  omega

theorem pointed_of_opened (null : δ) (t : Descriptors δ)
    (hnull : os.openNull (calls ++ [.openNull]) = .ok fd)
    (hmade : pointed os fd [0, 1, 2] (calls ++ [.openNull]) = (made, outcome)) :
    Pointed null (Function.update t fd (some null)) (after os null t calls (.openNull :: made)) fd
      [0, 1, 2] outcome := by
  have hpointed := pointed_after os [0, 1, 2] (calls ++ [.openNull])
    (Function.update_self fd (some null) t)
  rw [hmade] at hpointed
  rw [after_cons, applied_of_opened hnull]
  exact hpointed

theorem copyRefused_of_opened
    (hmade : pointed os fd [0, 1, 2] (calls ++ [.openNull]) = (made, outcome)) :
    CopyRefused os calls (.openNull :: made) e ↔ outcome = .error e := by
  have hpointed := pointed_refused os fd [0, 1, 2] (calls ++ [.openNull]) e
  rw [hmade] at hpointed
  have hopening : ¬CopyRefused os calls [.openNull] e := not_copyRefused fun _ _ h => by cases h
  rw [← List.singleton_append, copyRefused_append, or_iff_right hopening]
  exact hpointed

theorem silenced_of_pointed
    (hrefused : ∀ e, CopyRefused os calls made e ↔ outcome = .error e)
    (hstreams : outcome = .ok () → ∀ k ∈ [0, 1, 2], after os null t calls made k = some null)
    (hothers : ∀ k ∉ [0, 1, 2], after os null t calls made k = t k) :
    Silenced os null t calls made outcome := by
  refine ⟨fun hok k => ?_, fun e h => ⟨(hrefused e).mp h, fun k hk => ?_⟩,
    fun e he => .inl ((hrefused e).mpr he)⟩
  · split
    · exact hstreams hok k (mem_streams.mpr ‹_›)
    · exact hothers k (mt mem_streams.mp ‹_›)
  · exact hothers k (mt mem_streams.mp hk)

theorem silenced_of_unopened (hnull : os.openNull (calls ++ [.openNull]) = .error e) :
    Silenced os null t calls [.openNull] (.error e) := by
  have hafter : after os null t calls [.openNull] = t := by
    rw [after_cons, applied_of_unopened hnull]
    rfl
  refine ⟨(fun hok => by cases hok), fun e' hrefused => ?_, fun e' he => .inr ⟨?_, hafter⟩⟩
  · exact absurd hrefused (not_copyRefused fun _ _ h => by cases h)
  · exact hnull.trans (congrArg Except.error (Except.error.inj he))

/-- The opened descriptor is one of the streams, and all of them end up on the null device. -/
theorem silenced_of_taken (hnull : os.openNull (calls ++ [.openNull]) = .ok fd)
    (hfree : t.LowestFree fd) (hlow : fd ≤ 2)
    (hmade : pointed os fd [0, 1, 2] (calls ++ [.openNull]) = (made, outcome)) :
    Silenced os null t calls (.openNull :: made) outcome := by
  have hpointed := pointed_of_opened null t hnull hmade
  refine silenced_of_pointed (fun e => copyRefused_of_opened hmade) hpointed.reached
    fun k hk => ?_
  have hne : k ≠ fd := by
    rintro rfl
    exact hk (mem_streams.mpr ⟨hfree.nonneg, hlow⟩)
  rw [hpointed.others k hk, Function.update_of_ne hne]

/-- The opened descriptor is none of the streams. It is still open when they are redirected, and
closing it gives it back. -/
theorem silenced_of_closed (hnull : os.openNull (calls ++ [.openNull]) = .ok fd)
    (hfree : t.LowestFree fd) (hhigh : 2 < fd)
    (hmade : pointed os fd [0, 1, 2] (calls ++ [.openNull]) = (made, outcome))
    (hcloses : ClosesOpen os null t calls) :
    Silenced os null t calls (.openNull :: made ++ [.close fd])
      (os.close (calls ++ .openNull :: made ++ [.close fd]) >>= fun _ => outcome) := by
  have hpointed := pointed_of_opened null t hnull hmade
  have hclose : os.close (calls ++ .openNull :: made ++ [.close fd]) = .ok () :=
    hcloses (.openNull :: made) fd (by rw [hpointed.source]; rfl)
  have hafter : after os null t calls (.openNull :: made ++ [.close fd])
      = Function.update (after os null t calls (.openNull :: made)) fd none := by
    rw [after_append, after_cons _ (calls ++ .openNull :: made), applied_of_closed hclose]
    rfl
  rw [hclose]
  refine silenced_of_pointed (fun e => ?_) (fun hok k hk => ?_) fun k hk => ?_
  · have hclosing : ¬CopyRefused os (calls ++ .openNull :: made) [.close fd] e :=
      not_copyRefused fun _ _ h => by cases h
    rw [copyRefused_append, copyRefused_of_opened hmade, or_iff_left hclosing]
    rfl
  · have hne : k ≠ fd := by
      have := mem_streams.mp hk
      omega
    rw [hafter, Function.update_of_ne hne, hpointed.reached hok k hk]
  · by_cases heq : k = fd
    · rw [hafter, heq, Function.update_self, hfree.free]
    · rw [hafter, Function.update_of_ne heq, hpointed.others k hk, Function.update_of_ne heq]

theorem Redirects.silenced (h : Redirects os calls made outcome) (hlowest : OpensLowest os t calls)
    (hcloses : ClosesOpen os null t calls) : Silenced os null t calls made outcome := by
  cases h with
  | unopened hnull => exact silenced_of_unopened hnull
  | taken hnull hlow hmade => exact silenced_of_taken hnull (hlowest _ hnull) hlow hmade
  | closed hnull hhigh hmade =>
      exact silenced_of_closed hnull (hlowest _ hnull) hhigh hmade hcloses

end Opened

/-! ## The law -/

/-- Redirecting the streams leaves a clean table, whatever was open before, if the null device is
opened as the lowest free descriptor and what is open can be closed. A redirection that returns has
put all streams on the null device, and every other descriptor is as it was. One in which a copy is
refused fails with just that, and every descriptor that is no stream is as it was. It fails with
nothing but what the system refused, and where the null device is not opened, the table is as it
was. -/
theorem silence_leaves_clean_table (os : Processes τ) (null : δ) (t : Descriptors δ) (s : Session τ)
    (hlowest : OpensLowest os t s.calls) (hcloses : ClosesOpen os null t s.calls) :
    ∃ made outcome, (silence os).run s = (outcome, made.foldl Session.addCall s)
      ∧ Silenced os null t s.calls made outcome := by
  obtain ⟨made, outcome, hrun, hredirects⟩ := silence_redirects os s
  exact ⟨made, outcome, hrun, hredirects.silenced hlowest hcloses⟩

/-- A system that opens the null device as the descriptor, and refuses to copy onto some streams. -/
def redirecting (fd : Int) (refused : List Int) : Processes Unit :=
  { Processes.granting 0 fd with
    dup2 := fun calls => match calls.getLast? with
      | some (.dup2 _ target) => if target ∈ refused then .error busyDescriptor else .ok ()
      | _ => .ok () }

/-- The terminal is open from some descriptor on, up to the third. -/
def onTerminal (first : Int) : Descriptors String := fun k =>
  if first ≤ k ∧ k ≤ 3 then some "terminal" else none

/-- The input is closed. -/
theorem redirecting_input_opensLowest {refused : List Int} :
    OpensLowest (redirecting 0 refused) (onTerminal 1) [] := by
  rintro fd hfd
  obtain rfl := Except.ok.inj hfd
  exact ⟨by decide, rfl, fun k hk hlt => by omega⟩

/-- All streams are open. -/
theorem redirecting_fourth_opensLowest {refused : List Int} :
    OpensLowest (redirecting 4 refused) (onTerminal 0) [] := by
  rintro fd hfd
  obtain rfl := Except.ok.inj hfd
  refine ⟨by decide, rfl, fun k hk hlt => ?_⟩
  rw [show onTerminal 0 k = some "terminal" from if_pos ⟨hk, by omega⟩]
  rfl

theorem redirecting_closesOpen {fd : Int} {refused : List Int} {null : δ} {t : Descriptors δ}
    {calls : List (Call Unit)} : ClosesOpen (redirecting fd refused) null t calls :=
  fun _ _ _ => rfl

/-- The input is closed, so the null device is opened in its place and stays there; and where all
streams are open, a copy onto the second one is refused. -/
theorem silence_leaves_clean_table_closed_input :
    let s : Session Unit := .start ⟨[], []⟩ [] ⟨true, [], 0⟩
    let os := redirecting
    (∃ made, (silence (os 0 [])).run s = (.ok (), made.foldl Session.addCall s)
      ∧ (∀ k, 0 ≤ k ∧ k ≤ 2 → after (os 0 []) "null" (onTerminal 1) [] made k = some "null")
      ∧ ∀ k, ¬(0 ≤ k ∧ k ≤ 2) →
        after (os 0 []) "null" (onTerminal 1) [] made k = onTerminal 1 k)
    ∧ ∃ made, (silence (os 4 [1])).run s = (.error busyDescriptor, made.foldl Session.addCall s)
      ∧ ∀ k, ¬(0 ≤ k ∧ k ≤ 2) →
        after (os 4 [1]) "null" (onTerminal 0) [] made k = onTerminal 0 k := by
  intro s os
  constructor
  · obtain ⟨made, outcome, hrun, hsilenced⟩ := silence_leaves_clean_table (os 0 []) "null"
      (onTerminal 1) s redirecting_input_opensLowest redirecting_closesOpen
    obtain rfl : outcome = .ok () := (congrArg Prod.fst hrun).symm
    refine ⟨made, hrun, fun k hk => ?_, fun k hk => ?_⟩
    · exact (hsilenced.returned rfl k).trans (if_pos hk)
    · exact (hsilenced.returned rfl k).trans (if_neg hk)
  · obtain ⟨made, outcome, hrun, hsilenced⟩ := silence_leaves_clean_table (os 4 [1]) "null"
      (onTerminal 0) s redirecting_fourth_opensLowest redirecting_closesOpen
    obtain rfl : outcome = .error busyDescriptor := (congrArg Prod.fst hrun).symm
    have hcopy : CopyRefused (os 4 [1]) s.calls made busyDescriptor := by
      obtain h | ⟨h, -⟩ := hsilenced.failed busyDescriptor rfl
      · exact h
      · cases h
    exact ⟨made, hrun, (hsilenced.refused _ hcopy).2⟩

end SeedNode.Detach

import SeedNode.Proofs.Loop.Script

/-!
# What the service loop keeps

The loop does five kinds of things: it makes calls of its own, it writes records, it moves its
progress on, it notes the first live connection, and it fails. A relation that holds across each of
these (`Loops`) holds across a preparation, a turn, and a whole run, whatever comes out of them.
-/

namespace SeedNode.Scheduler

variable {τ α β : Type}

/-- The calls that the loop makes. -/
inductive Looping : Call τ → Prop
  | iterate : Looping .iterate
  | poll : Looping .poll
  | relayIterate : Looping .relayIterate
  | connectionCount : Looping .connectionCount
  | initLanDiscovery : Looping .initLanDiscovery
  | sendLanDiscovery (port : Int) : Looping (.sendLanDiscovery port)
  | sleep (duration : τ) : Looping (.sleep duration)

/-- The message of the record that tells of the first live connection. -/
def joinedMessage : String := "Connected to other bootstrap node successfully."

/-- A relation between what the loop has before and after it that holds across everything it
does. -/
structure Loops (R : Progress τ → Session τ → Progress τ → Session τ → Prop) : Prop where
  refl : ∀ p sess, R p sess p sess
  trans : ∀ p sess p₁ s₁ p' sess', R p sess p₁ s₁ → R p₁ s₁ p' sess' → R p sess p' sess'
  addCall : ∀ p sess call, Looping call → R p sess p (sess.addCall call)
  inform : ∀ p sess message, message ≠ joinedMessage →
    R p sess p (sess.addRecord { level := Level.info, source, message })
  move : ∀ p p' sess, p'.connected = p.connected → R p sess p' sess
  join : ∀ p sess, p.connected = false → R p sess { p with connected := true }
    (sess.addRecord { level := Level.info, source, message := joinedMessage })

/-- Whatever comes out of code, what the loop has before and after it is related by `R`. -/
def Preserves (R : Progress τ → Session τ → Progress τ → Session τ → Prop) (x : LoopM τ α) : Prop :=
  ∀ p sess, R p sess (runIn x p sess).1.2 (runIn x p sess).2

namespace Loops

variable {R : Progress τ → Session τ → Progress τ → Session τ → Prop}

theorem pure (h : Loops R) (a : α) : Preserves R (Pure.pure a : LoopM τ α) :=
  fun p sess => h.refl p sess

theorem throw (h : Loops R) (e : Failure) : Preserves R (MonadExcept.throw e : LoopM τ α) :=
  fun p sess => h.refl p sess

theorem bind (h : Loops R) {x : LoopM τ α} {f : α → LoopM τ β} (hx : Preserves R x)
    (hf : ∀ a, Preserves R (f a)) : Preserves R (x >>= f) := by
  intro p sess
  have hfirst := hx p sess
  rw [runIn_bind]
  rcases hrun : runIn x p sess with ⟨⟨e | a, p₁⟩, s₁⟩ <;> rw [hrun] at hfirst
  · exact hfirst
  · exact h.trans _ _ _ _ _ _ hfirst (hf a p₁ s₁)

theorem tryCatch (h : Loops R) {x : LoopM τ α} {f : Failure → LoopM τ α} (hx : Preserves R x)
    (hf : ∀ e, Preserves R (f e)) : Preserves R (MonadExcept.tryCatch x f) := by
  intro p sess
  have hfirst := hx p sess
  rw [runIn_tryCatch]
  rcases hrun : runIn x p sess with ⟨⟨e | a, p₁⟩, s₁⟩ <;> rw [hrun] at hfirst
  · exact h.trans _ _ _ _ _ _ hfirst (hf e p₁ s₁)
  · exact hfirst

theorem ask (h : Loops R) {call : Call τ} (hcall : Looping call) (answer : Answer τ α) :
    Preserves R (LoopM.ask call answer) := by
  intro p sess
  rw [runIn_ask]
  exact h.addCall p sess call hcall

theorem progress (h : Loops R) : Preserves R (getThe (Progress τ) : LoopM τ _) :=
  fun p sess => h.refl p sess

theorem session (h : Loops R) : Preserves R (getThe (Session τ) : LoopM τ _) :=
  fun p sess => h.refl p sess

theorem modify (h : Loops R) {f : Progress τ → Progress τ}
    (hf : ∀ p, (f p).connected = p.connected) :
    Preserves R (modifyThe (Progress τ) f : LoopM τ _) :=
  fun p sess => h.move p (f p) sess (hf p)

theorem noteConnection (h : Loops R) (s : Scheduler τ) : Preserves R s.noteConnection := by
  intro p sess
  have hcall := h.addCall p sess _ .connectionCount
  rw [runIn_noteConnection]
  cases hconnected : p.connected with
  | true => exact h.refl p sess
  | false =>
      simp only [Bool.false_eq_true, ↓reduceIte]
      cases s.engine.connectionCount (sess.calls ++ [.connectionCount]) with
      | error e => exact hcall
      | ok count =>
          by_cases hlive : 0 < count
          · simp only [if_pos hlive]
            exact h.trans _ _ _ _ _ _ hcall (h.join p _ hconnected)
          · simp only [if_neg hlive]
            exact hcall

theorem start (h : Loops R) (s : Scheduler τ) : Preserves R s.start := by
  refine h.bind h.progress fun p => ?_
  cases p.started with
  | true => exact h.pure ()
  | false =>
      simp only [Bool.false_eq_true, ↓reduceIte]
      refine h.bind (h.modify fun _ => rfl) fun _ => ?_
      cases s.config.enableLanDiscovery with
      | false => exact h.pure ()
      | true =>
          refine h.bind (h.ask .initLanDiscovery _) fun _ p sess => ?_
          exact h.inform p sess "Initialized LAN discovery." (by decide)

variable [Sub τ] [LE τ] [DecidableLE τ]

theorem broadcast (h : Loops R) (s : Scheduler τ) : Preserves R s.broadcast := by
  refine h.bind h.session fun sess => h.bind h.progress fun p => ?_
  cases s.broadcastDue p (s.clock sess.calls) with
  | false => exact h.pure ()
  | true => exact h.bind (h.ask (.sendLanDiscovery _) _) fun _ => h.modify fun _ => rfl

theorem tick (h : Loops R) (s : Scheduler τ) : Preserves R s.tick := by
  have hannounce : Preserves R s.announce := by
    rw [announce]
    cases s.config.enableLanDiscovery with
    | false => exact h.pure ()
    | true => exact h.broadcast s
  have hrelay : Preserves R s.moveRelay := by
    rw [moveRelay]
    cases s.relay with
    | none => exact h.pure ()
    | some relay => exact h.ask .relayIterate _
  rw [tick_eq_moves]
  refine h.bind ?_ fun _ => h.modify fun _ => rfl
  refine h.bind (h.ask .iterate _) fun _ => h.bind hannounce fun _ => h.bind hrelay fun _ => ?_
  exact h.bind (h.ask .poll _) fun _ => h.noteConnection s

theorem turns (h : Loops R) (s : Scheduler τ) : ∀ n, Preserves R (s.turns n)
  | 0 => h.throw _
  | n + 1 => h.bind (h.tick s) fun _ => h.bind (h.ask (.sleep _) _) fun _ => turns h s n

theorem run (h : Loops R) (s : Scheduler τ) (sleeps : Nat) : Preserves R (s.run sleeps) :=
  h.tryCatch (h.bind (h.start s) fun _ => h.turns s sleeps) fun _ => h.throw _

end Loops

end SeedNode.Scheduler

import SeedNode.Proofs.Effects
import SeedNode.Scheduler

/-!
# The script of a turn

A turn of the service loop asks the engine and the relay for a few things in a fixed order. Which
ones it asks for is known once the engine has moved on: that list is the script of the turn. The
turn makes the calls of its script up to the first that fails (`perform`), and that failure comes
out of it. What it leaves in the progress can be read off the calls and their answers alone: the
clock readings of the broadcasts that succeeded (`sent`), and whether there was a live connection
(`met`).

`Follows` says all this of a piece of code. It is closed under sequence, so the script of the turn
is put together from the scripts of its parts (`moves_follows`).
-/

namespace SeedNode.Scheduler

variable {τ : Type} {s : Scheduler τ} {p p' : Progress τ} {sess sess' : Session τ}
  {calls made : List (Call τ)} {script script' : List (Call τ)}

/-! ## Performing a script -/

/-- What the outside answers to a call of the loop that is made after `calls`, whether or not the
answer has a value. -/
def reply (s : Scheduler τ) (calls : List (Call τ)) (call : Call τ) : Except Failure Unit :=
  match call with
  | .iterate => s.engine.iterate (calls ++ [call])
  | .poll => s.engine.poll (calls ++ [call])
  | .connectionCount => (s.engine.connectionCount (calls ++ [call])).map fun _ => ()
  | .initLanDiscovery => s.engine.initLanDiscovery (calls ++ [call])
  | .sendLanDiscovery _ => s.engine.sendLanDiscovery (calls ++ [call])
  | .relayIterate =>
    match s.relay with
    | some relay => relay.iterate (calls ++ [call])
    | none => .ok ()
  | _ => .ok ()

/-- The calls of a script that are made after `calls`, up to the first that fails, and what comes
out. -/
def perform (s : Scheduler τ) (calls : List (Call τ)) :
    List (Call τ) → List (Call τ) × Except Failure Unit
  | [] => ([], .ok ())
  | call :: rest =>
    match s.reply calls call with
    | .ok () => (call :: (perform s (calls ++ [call]) rest).1, (perform s (calls ++ [call]) rest).2)
    | .error e => ([call], .error e)

theorem perform_cons_of_ok {call : Call τ} (h : s.reply calls call = .ok ())
    (rest : List (Call τ)) :
    s.perform calls (call :: rest) = (call :: (s.perform (calls ++ [call]) rest).1,
      (s.perform (calls ++ [call]) rest).2) := by
  rw [perform, h]

theorem perform_cons_of_error {call : Call τ} {e : Failure} (h : s.reply calls call = .error e)
    (rest : List (Call τ)) : s.perform calls (call :: rest) = ([call], .error e) := by
  rw [perform, h]

/-- A script that is performed to its end is followed by the next one. -/
theorem perform_append_of_ok (h : (s.perform calls script).2 = .ok ())
    (script' : List (Call τ)) :
    s.perform calls (script ++ script')
      = (script ++ (s.perform (calls ++ script) script').1,
        (s.perform (calls ++ script) script').2) := by
  induction script generalizing calls with
  | nil => simp
  | cons call rest ih =>
      cases hreply : s.reply calls call with
      | error e =>
          rw [perform_cons_of_error hreply] at h
          cases h
      | ok _ =>
          rw [perform_cons_of_ok hreply] at h
          rw [List.cons_append, perform_cons_of_ok hreply, ih h, List.append_assoc]
          rfl

theorem perform_append_of_error {e : Failure} (h : (s.perform calls script).2 = .error e)
    (script' : List (Call τ)) :
    s.perform calls (script ++ script') = s.perform calls script := by
  induction script generalizing calls with
  | nil => cases h
  | cons call rest ih =>
      cases hreply : s.reply calls call with
      | error e => rw [List.cons_append, perform_cons_of_error hreply, perform_cons_of_error hreply]
      | ok _ =>
          rw [perform_cons_of_ok hreply] at h
          rw [List.cons_append, perform_cons_of_ok hreply, perform_cons_of_ok hreply, ih h]

theorem perform_of_ok (h : (s.perform calls script).2 = .ok ()) :
    (s.perform calls script).1 = script := by
  have happend := perform_append_of_ok h []
  rw [List.append_nil] at happend
  rw [happend]
  simp [perform]

/-- A script breaks off at the call that failed: the calls before it returned, it is the last one
made, and the rest of the script is not. -/
def BreaksOff (s : Scheduler τ) (calls script : List (Call τ)) (e : Failure)
    (made : List (Call τ)) : Prop :=
  ∃ before call after, script = before ++ call :: after ∧ made = before ++ [call]
    ∧ s.perform calls before = (before, .ok ()) ∧ s.reply (calls ++ before) call = .error e

theorem breaksOff_of_error {e : Failure} (h : (s.perform calls script).2 = .error e) :
    s.BreaksOff calls script e (s.perform calls script).1 := by
  induction script generalizing calls with
  | nil => cases h
  | cons call rest ih =>
      cases hreply : s.reply calls call with
      | error e' =>
          rw [perform_cons_of_error hreply] at h ⊢
          obtain rfl := Except.error.inj h
          exact ⟨[], call, rest, rfl, rfl, rfl, by rw [List.append_nil]; exact hreply⟩
      | ok _ =>
          rw [perform_cons_of_ok hreply] at h ⊢
          obtain ⟨before, last, after, hscript, hmade, hbefore, hlast⟩ := ih h
          refine ⟨call :: before, last, after, by rw [hscript, List.cons_append],
            by rw [hmade, List.cons_append], ?_, by simpa using hlast⟩
          rw [perform_cons_of_ok hreply, hbefore]

/-- Only calls of the script are made. -/
theorem mem_of_mem_perform {call : Call τ} (h : call ∈ (s.perform calls script).1) :
    call ∈ script := by
  cases hresult : (s.perform calls script).2 with
  | ok _ => rwa [perform_of_ok hresult] at h
  | error e =>
      obtain ⟨before, last, after, hscript, hmade, -, -⟩ := breaksOff_of_error hresult
      rw [hmade] at h
      rw [hscript]
      simp only [List.mem_append, List.mem_cons] at h ⊢
      exact h.imp_right fun h => .inl (h.resolve_right (List.not_mem_nil))

/-! ## What the calls tell -/

/-- Calls made after `before`, each with those that came before it. -/
def moments (before : List (Call τ)) : List (Call τ) → List (List (Call τ) × Call τ)
  | [] => []
  | call :: rest => (before, call) :: moments (before ++ [call]) rest

theorem moments_append (before made later : List (Call τ)) :
    moments before (made ++ later) = moments before made ++ moments (before ++ made) later := by
  induction made generalizing before with
  | nil => simp [moments]
  | cons call rest ih => simp [moments, ih]

theorem mem_of_mem_moments {before : List (Call τ)} {moment : List (Call τ) × Call τ}
    (h : moment ∈ moments before made) : moment.2 ∈ made := by
  induction made generalizing before with
  | nil => cases h
  | cons call rest ih =>
      rcases List.mem_cons.mp h with rfl | h
      · exact List.mem_cons_self ..
      · exact List.mem_cons_of_mem _ (ih h)

/-- The clock reading that a broadcast leaves, if the call is one that succeeded. -/
def sent? (s : Scheduler τ) : List (Call τ) × Call τ → Option τ
  | (before, .sendLanDiscovery port) =>
    match s.engine.sendLanDiscovery (before ++ [.sendLanDiscovery port]) with
    | .ok () => some (s.clock before)
    | .error _ => none
  | _ => none

/-- The clock readings of the broadcasts that succeeded, among calls made after `before`. -/
def sent (s : Scheduler τ) (before made : List (Call τ)) : List τ :=
  (moments before made).filterMap s.sent?

/-- Whether the call counted a live connection. -/
def meets (s : Scheduler τ) : List (Call τ) × Call τ → Bool
  | (before, .connectionCount) =>
    match s.engine.connectionCount (before ++ [.connectionCount]) with
    | .ok count => 0 < count
    | .error _ => false
  | _ => false

/-- Whether a live connection was counted, among calls made after `before`. -/
def met (s : Scheduler τ) (before made : List (Call τ)) : Bool :=
  (moments before made).any s.meets

theorem sent_append (s : Scheduler τ) (before made later : List (Call τ)) :
    s.sent before (made ++ later) = s.sent before made ++ s.sent (before ++ made) later := by
  rw [sent, moments_append, List.filterMap_append]
  rfl

theorem met_append (s : Scheduler τ) (before made later : List (Call τ)) :
    s.met before (made ++ later) = (s.met before made || s.met (before ++ made) later) := by
  rw [met, moments_append, List.any_append]
  rfl

theorem sent_eq_nil (s : Scheduler τ) (before : List (Call τ))
    (h : ∀ port, .sendLanDiscovery port ∉ made) : s.sent before made = [] := by
  refine List.filterMap_eq_nil_iff.mpr fun moment hmoment => ?_
  have hmade := mem_of_mem_moments hmoment
  obtain ⟨calls, call⟩ := moment
  cases call with
  | sendLanDiscovery port => exact absurd hmade (h port)
  | _ => rfl

theorem met_eq_false (s : Scheduler τ) (before : List (Call τ))
    (h : .connectionCount ∉ made) : s.met before made = false := by
  refine List.any_eq_false.mpr fun moment hmoment => ?_
  have hmade := mem_of_mem_moments hmoment
  obtain ⟨calls, call⟩ := moment
  cases call with
  | connectionCount => exact absurd hmade h
  | _ => simp [meets]

/-! ## Code that follows a script -/

/-- From `p` and `sess`, code makes the calls of a script up to the first that fails, and comes out
as the script does. Of the progress it changes no more than the calls tell. -/
structure Follows (s : Scheduler τ) (x : LoopM τ Unit) (script : List (Call τ)) (p : Progress τ)
    (sess : Session τ) : Prop where
  result : (runIn x p sess).1.1 = (s.perform sess.calls script).2
  calls : (runIn x p sess).2.calls = sess.calls ++ (s.perform sess.calls script).1
  lastBroadcast : (runIn x p sess).1.2.lastBroadcast
    = (s.sent sess.calls (s.perform sess.calls script).1).getLast?.or p.lastBroadcast
  connected : (runIn x p sess).1.2.connected
    = (p.connected || s.met sess.calls (s.perform sess.calls script).1)
  ticks : (runIn x p sess).1.2.ticks = p.ticks
  started : (runIn x p sess).1.2.started = p.started

theorem Follows.bind {x y : LoopM τ Unit} (hx : s.Follows x script p sess)
    (hy : ∀ p₁ s₁, runIn x p sess = ((.ok (), p₁), s₁) → s.Follows y script' p₁ s₁) :
    s.Follows (x >>= fun _ => y) (script ++ script') p sess := by
  obtain ⟨hresult, hcalls, hlast, hconnected, hticks, hstarted⟩ := hx
  rcases hrun : runIn x p sess with ⟨⟨e | _, p₁⟩, s₁⟩
  all_goals rw [hrun] at hresult hcalls hlast hconnected hticks hstarted
  · have hbind : runIn (x >>= fun _ => y) p sess = ((.error e, p₁), s₁) := by
      rw [runIn_bind, hrun]
    have hscript := perform_append_of_error hresult.symm script'
    constructor <;> rw [hbind] <;> first | rw [hscript] | skip
    all_goals assumption
  · have hbind : runIn (x >>= fun _ => y) p sess = runIn y p₁ s₁ := by
      rw [runIn_bind, hrun]
    rw [perform_of_ok hresult.symm] at hcalls hlast hconnected
    have hscript := perform_append_of_ok hresult.symm script'
    rw [← hcalls] at hscript
    obtain ⟨hresult', hcalls', hlast', hconnected', hticks', hstarted'⟩ := hy p₁ s₁ hrun
    constructor
    · rw [hbind, hscript, hresult']
    · rw [hbind, hscript, hcalls', hcalls, List.append_assoc]
    · rw [hbind, hscript, hlast', sent_append, List.getLast?_append, Option.or_assoc, ← hcalls]
      rw [show p₁.lastBroadcast = _ from hlast]
    · rw [hbind, hscript, hconnected', met_append, ← hcalls, ← Bool.or_assoc]
      rw [show p₁.connected = _ from hconnected]
    · rw [hbind, hticks', hticks]
    · rw [hbind, hstarted', hstarted]

/-! ## The parts of a turn -/

@[simp] theorem runIn_ask {α : Type} (call : Call τ) (answer : Answer τ α) (p : Progress τ)
    (sess : Session τ) :
    runIn (LoopM.ask call answer) p sess
      = ((answer (sess.calls ++ [call]), p), sess.addCall call) := by
  simp [LoopM.ask]

theorem Follows.congr {x y : LoopM τ Unit} (hx : s.Follows x script p sess)
    (h : runIn y p sess = runIn x p sess) : s.Follows y script p sess := by
  obtain ⟨hresult, hcalls, hlast, hconnected, hticks, hstarted⟩ := hx
  constructor <;> rw [h] <;> assumption

theorem follows_pure : s.Follows (pure ()) [] p sess where
  result := rfl
  calls := (List.append_nil _).symm
  lastBroadcast := rfl
  connected := (Bool.or_false _).symm
  ticks := rfl
  started := rfl

theorem perform_singleton (s : Scheduler τ) (calls : List (Call τ)) (call : Call τ) :
    s.perform calls [call] = ([call], s.reply calls call) := by
  cases h : s.reply calls call with
  | ok _ => rw [perform_cons_of_ok h]; rfl
  | error e => rw [perform_cons_of_error h]

/-- Code that makes one call, and comes out as it is answered. -/
theorem follows_call {x : LoopM τ Unit} {call : Call τ} {result : Except Failure Unit}
    (hrun : runIn x p sess = ((result, p'), sess'))
    (hreply : s.reply sess.calls call = result) (hcalls : sess'.calls = sess.calls ++ [call])
    (hlast : p'.lastBroadcast = (s.sent? (sess.calls, call)).or p.lastBroadcast)
    (hconnected : p'.connected = (p.connected || s.meets (sess.calls, call)))
    (hticks : p'.ticks = p.ticks) (hstarted : p'.started = p.started) :
    s.Follows x [call] p sess := by
  constructor
  all_goals rw [hrun]
  · rw [perform_singleton, hreply]
  · rw [perform_singleton, hcalls]
  · rw [perform_singleton, hlast, sent, moments, moments, List.filterMap_cons]
    cases s.sent? (sess.calls, call) <;> rfl
  · rw [perform_singleton, hconnected, met, moments, moments, List.any_cons, List.any_nil,
      Bool.or_false]
  · exact hticks
  · exact hstarted

/-- A call that tells nothing but whether it failed. -/
theorem follows_ask {call : Call τ} {answer : Answer τ Unit}
    (hreply : answer (sess.calls ++ [call]) = s.reply sess.calls call)
    (hsent : s.sent? (sess.calls, call) = none) (hmeets : s.meets (sess.calls, call) = false) :
    s.Follows (LoopM.ask call answer) [call] p sess := by
  refine follows_call (runIn_ask call answer p sess) hreply.symm rfl ?_ ?_ rfl rfl
  · rw [hsent, Option.none_or]
  · rw [hmeets, Bool.or_false]

def moveRelay (s : Scheduler τ) : LoopM τ Unit :=
  match s.relay with
  | some relay => LoopM.ask .relayIterate relay.iterate
  | none => pure ()

def relayScript (s : Scheduler τ) : List (Call τ) :=
  if s.relay.isSome then [.relayIterate] else []

def countScript (p : Progress τ) : List (Call τ) :=
  if p.connected then [] else [.connectionCount]

/-- What a count of connections comes to. -/
theorem runIn_noteConnection (s : Scheduler τ) (p : Progress τ) (sess : Session τ) :
    runIn s.noteConnection p sess = if p.connected then ((.ok (), p), sess)
      else match s.engine.connectionCount (sess.calls ++ [.connectionCount]) with
        | .error e => ((.error e, p), sess.addCall .connectionCount)
        | .ok count => if 0 < count
          then ((.ok (), { p with connected := true }), (sess.addCall .connectionCount).addRecord
            { level := Level.info, source,
              message := "Connected to other bootstrap node successfully." })
          else ((.ok (), p), sess.addCall .connectionCount) := by
  cases hconnected : p.connected with
  | true => simp [noteConnection, hconnected]
  | false =>
      cases hcount : s.engine.connectionCount (sess.calls ++ [.connectionCount]) with
      | error e => simp [noteConnection, hconnected, hcount]
      | ok count =>
          by_cases hlive : 0 < count <;> simp [noteConnection, hconnected, hcount, hlive, inform]

theorem moveRelay_follows (s : Scheduler τ) (p : Progress τ) (sess : Session τ) :
    s.Follows s.moveRelay s.relayScript p sess := by
  rw [moveRelay, relayScript]
  cases hrelay : s.relay with
  | none => exact follows_pure
  | some relay =>
      refine follows_ask ?_ rfl rfl
      rw [reply, hrelay]

theorem noteConnection_follows (s : Scheduler τ) (p : Progress τ) (sess : Session τ) :
    s.Follows s.noteConnection (countScript p) p sess := by
  have hrun := runIn_noteConnection s p sess
  rw [countScript]
  cases hconnected : p.connected with
  | true =>
      rw [hconnected, if_pos rfl] at hrun
      exact follows_pure.congr hrun
  | false =>
      rw [hconnected, if_neg Bool.false_ne_true] at hrun
      have hreply : s.reply sess.calls .connectionCount
        = (s.engine.connectionCount (sess.calls ++ [.connectionCount])).map fun _ => () := rfl
      cases hcount : s.engine.connectionCount (sess.calls ++ [.connectionCount]) with
      | error e =>
          rw [hcount] at hrun hreply
          refine follows_call hrun hreply rfl rfl ?_ rfl rfl
          rw [meets, hcount, Bool.or_false]
      | ok count =>
          rw [hcount] at hrun hreply
          by_cases hlive : 0 < count
          · simp only [if_pos hlive] at hrun
            refine follows_call hrun hreply rfl rfl ?_ rfl rfl
            simp [meets, hcount, hlive]
          · simp only [if_neg hlive] at hrun
            refine follows_call hrun hreply rfl rfl ?_ rfl rfl
            simp [meets, hcount, hlive]

section Turn

variable [Sub τ] [LE τ] [DecidableLE τ]

/-- Broadcasts if that is enabled and a broadcast is due. -/
def announce (s : Scheduler τ) : LoopM τ Unit :=
  if s.config.enableLanDiscovery then s.broadcast else pure ()

/-- Whether a turn broadcasts, by what it finds when the engine has moved on. -/
def announces (s : Scheduler τ) (p : Progress τ) (calls : List (Call τ)) : Bool :=
  s.config.enableLanDiscovery && s.broadcastDue p (s.clock calls)

def announceScript (s : Scheduler τ) (p : Progress τ) (calls : List (Call τ)) : List (Call τ) :=
  if s.announces p calls then [.sendLanDiscovery s.config.port] else []

/-- The calls of a turn that begins with `p`, after `calls`. -/
def turnScript (s : Scheduler τ) (p : Progress τ) (calls : List (Call τ)) : List (Call τ) :=
  [.iterate] ++ s.announceScript p (calls ++ [.iterate]) ++ s.relayScript ++ [.poll]
    ++ countScript p

theorem runIn_broadcast (s : Scheduler τ) (p : Progress τ) (sess : Session τ) :
    runIn s.broadcast p sess = if s.broadcastDue p (s.clock sess.calls) then
        match s.engine.sendLanDiscovery
          (sess.calls ++ [.sendLanDiscovery s.config.port]) with
        | .error e => ((.error e, p), sess.addCall (.sendLanDiscovery s.config.port))
        | .ok () => ((.ok (), { p with lastBroadcast := some (s.clock sess.calls) }),
          sess.addCall (.sendLanDiscovery s.config.port))
      else ((.ok (), p), sess) := by
  cases hdue : s.broadcastDue p (s.clock sess.calls) with
  | false => simp [broadcast, hdue]
  | true =>
      cases hsend : s.engine.sendLanDiscovery (sess.calls ++ [.sendLanDiscovery s.config.port]) <;>
        simp [broadcast, hdue, hsend]

theorem announce_follows (s : Scheduler τ) (p : Progress τ) (sess : Session τ) :
    s.Follows s.announce (s.announceScript p sess.calls) p sess := by
  rw [announce, announceScript, announces]
  cases s.config.enableLanDiscovery with
  | false => exact follows_pure
  | true =>
      simp only [↓reduceIte, Bool.true_and]
      have hrun := runIn_broadcast s p sess
      cases hdue : s.broadcastDue p (s.clock sess.calls) with
      | false =>
          rw [hdue, if_neg Bool.false_ne_true] at hrun
          exact follows_pure.congr hrun
      | true =>
          rw [hdue, if_pos rfl] at hrun
          have hmeets : s.meets (sess.calls, .sendLanDiscovery s.config.port) = false := rfl
          cases hsend : s.engine.sendLanDiscovery
            (sess.calls ++ [.sendLanDiscovery s.config.port]) with
          | error e =>
              rw [hsend] at hrun
              refine follows_call hrun hsend rfl ?_ (by rw [hmeets, Bool.or_false]) rfl rfl
              rw [sent?, hsend, Option.none_or]
          | ok _ =>
              rw [hsend] at hrun
              refine follows_call hrun hsend rfl ?_ (by rw [hmeets, Bool.or_false]) rfl rfl
              rw [sent?, hsend, Option.some_or]

/-- A turn up to its end, where it is counted. -/
def moves (s : Scheduler τ) : LoopM τ Unit := do
  LoopM.ask .iterate s.engine.iterate
  s.announce
  s.moveRelay
  LoopM.ask .poll s.engine.poll
  s.noteConnection

theorem tick_eq_moves (s : Scheduler τ) :
    s.tick = (do s.moves; modifyThe (Progress τ) fun p => { p with ticks := p.ticks + 1 }) := by
  simp only [tick, moves, announce, moveRelay, bind_assoc]
  cases s.config.enableLanDiscovery <;> cases s.relay <;> simp

/-- A turn follows its script until it is counted. -/
theorem moves_follows (s : Scheduler τ) (p : Progress τ) (sess : Session τ) :
    s.Follows s.moves (s.turnScript p sess.calls) p sess := by
  have hmoves : s.moves = ((((LoopM.ask .iterate s.engine.iterate >>= fun _ => s.announce)
      >>= fun _ => s.moveRelay) >>= fun _ => LoopM.ask .poll s.engine.poll)
      >>= fun _ => s.noteConnection) := by
    simp only [moves, bind_assoc]
  rw [hmoves, turnScript]
  have hiterate : s.Follows (LoopM.ask .iterate s.engine.iterate) [.iterate] p sess :=
    follows_ask rfl rfl rfl
  have hannounce : s.Follows (LoopM.ask .iterate s.engine.iterate >>= fun _ => s.announce)
      ([.iterate] ++ s.announceScript p (sess.calls ++ [.iterate])) p sess := by
    have hnext : s.Follows s.announce (s.announceScript p (sess.calls ++ [.iterate])) p
        (sess.addCall .iterate) := announce_follows s p (sess.addCall .iterate)
    refine hiterate.bind fun p₁ s₁ h => ?_
    rw [runIn_ask] at h
    obtain ⟨hstate, rfl⟩ := Prod.mk.inj h
    obtain ⟨-, rfl⟩ := Prod.mk.inj hstate
    exact hnext
  have hrelay := hannounce.bind fun p₁ s₁ _ => moveRelay_follows s p₁ s₁
  have hpoll := hrelay.bind fun p₁ s₁ _ =>
    (follows_ask rfl rfl rfl : s.Follows (LoopM.ask .poll s.engine.poll) [.poll] p₁ s₁)
  refine hpoll.bind fun p₁ s₁ h => ?_
  have hconnected := hpoll.connected
  rw [h, met_eq_false, Bool.or_false] at hconnected
  · have hcount : countScript p = countScript p₁ := by rw [countScript, countScript, hconnected]
    rw [hcount]
    exact noteConnection_follows s p₁ s₁
  · intro hmem
    have hscript := mem_of_mem_perform hmem
    simp [announceScript, relayScript] at hscript

/-- What a turn comes to, from `p` and `sess`. It is counted if all its calls returned. -/
structure Turned (s : Scheduler τ) (p : Progress τ) (sess : Session τ)
    (outcome : Except Failure Unit) (p' : Progress τ) (sess' : Session τ) : Prop where
  result : outcome = (s.perform sess.calls (s.turnScript p sess.calls)).2
  calls : sess'.calls = sess.calls ++ (s.perform sess.calls (s.turnScript p sess.calls)).1
  lastBroadcast : p'.lastBroadcast
    = (s.sent sess.calls (s.perform sess.calls (s.turnScript p sess.calls)).1).getLast?.or
      p.lastBroadcast
  connected : p'.connected
    = (p.connected || s.met sess.calls (s.perform sess.calls (s.turnScript p sess.calls)).1)
  ticks : p'.ticks = if outcome.isOk then p.ticks + 1 else p.ticks
  started : p'.started = p.started

theorem tick_turned {outcome : Except Failure Unit}
    (h : runIn s.tick p sess = ((outcome, p'), sess')) : s.Turned p sess outcome p' sess' := by
  obtain ⟨hresult, hcalls, hlast, hconnected, hticks, hstarted⟩ := moves_follows s p sess
  rw [tick_eq_moves, runIn_bind] at h
  rcases hrun : runIn s.moves p sess with ⟨⟨e | _, p₁⟩, s₁⟩
  all_goals
    rw [hrun] at h hresult hcalls hlast hconnected hticks hstarted
    obtain ⟨hstate, rfl⟩ := Prod.mk.inj h
    obtain ⟨rfl, rfl⟩ := Prod.mk.inj hstate
    refine ⟨hresult, hcalls, hlast, hconnected, ?_, hstarted⟩
  · exact hticks
  · rw [← hticks]
    rfl

end Turn

/-! ## The preparation -/

/-- The calls of the preparation: none if it is not the first one. -/
def openingScript (s : Scheduler τ) (p : Progress τ) : List (Call τ) :=
  if s.config.enableLanDiscovery && !p.started then [.initLanDiscovery] else []

/-- What the preparation comes to, from `p` and `sess`. It counts as done even if it failed. -/
structure Prepared (s : Scheduler τ) (p : Progress τ) (sess : Session τ)
    (outcome : Except Failure Unit) (p' : Progress τ) (sess' : Session τ) : Prop where
  result : outcome = (s.perform sess.calls (s.openingScript p)).2
  calls : sess'.calls = sess.calls ++ (s.perform sess.calls (s.openingScript p)).1
  progress : p' = { p with started := true }

theorem runIn_start (s : Scheduler τ) (p : Progress τ) (sess : Session τ) :
    ∃ sess', runIn s.start p sess
        = (((s.perform sess.calls (s.openingScript p)).2, { p with started := true }), sess')
      ∧ sess'.calls = sess.calls ++ (s.perform sess.calls (s.openingScript p)).1 := by
  cases hstarted : p.started with
  | true =>
      have hkept : { p with started := true } = p := by rw [← hstarted]
      exact ⟨sess, by simp [start, openingScript, perform, hstarted, hkept]⟩
  | false =>
      cases hlan : s.config.enableLanDiscovery with
      | false => exact ⟨sess, by simp [start, openingScript, perform, hstarted, hlan]⟩
      | true =>
          have hscript : s.openingScript p = [.initLanDiscovery] := by
            simp [openingScript, hlan, hstarted]
          rw [hscript, perform_singleton]
          cases hinit : s.engine.initLanDiscovery (sess.calls ++ [.initLanDiscovery]) <;>
            exact ⟨_, by simp [start, inform, reply, hstarted, hlan, hinit]; rfl, rfl⟩

theorem start_prepared {outcome : Except Failure Unit}
    (h : runIn s.start p sess = ((outcome, p'), sess')) : s.Prepared p sess outcome p' sess' := by
  obtain ⟨sess₁, hrun, hcalls⟩ := runIn_start s p sess
  rw [hrun] at h
  obtain ⟨hstate, rfl⟩ := Prod.mk.inj h
  obtain ⟨rfl, rfl⟩ := Prod.mk.inj hstate
  exact ⟨rfl, hcalls, rfl⟩

theorem start_calls_of_ok (h : runIn s.start p sess = ((.ok (), p'), sess')) :
    sess'.calls = sess.calls ++ s.openingScript p ∧ p'.ticks = p.ticks := by
  have hprepared := start_prepared h
  rw [hprepared.calls, perform_of_ok hprepared.result.symm, hprepared.progress]
  exact ⟨rfl, rfl⟩

end SeedNode.Scheduler

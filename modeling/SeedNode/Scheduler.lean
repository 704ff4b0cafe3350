import SeedNode.Config.Basic
import SeedNode.Session

/-!
# The service loop

Each turn moves the engine on, broadcasts on the local network if that is enabled and enough time
has passed, moves the relay on, takes in waiting datagrams, and notes the first live connection.
Then the loop sleeps. A call that fails ends the turn where it stands.
-/

namespace SeedNode

/-- What the service loop drives, and how often. -/
structure Scheduler (τ : Type) where
  engine : Engine τ
  config : DaemonConfig
  relay : Option (Relay τ)
  tickInterval : τ
  lanInterval : τ
  clock : Clock τ

/-- How far the service loop has come. -/
structure Progress (τ : Type) where
  /-- Whether there has been a live connection. -/
  connected : Bool
  ticks : Nat
  /-- When the last broadcast that succeeded was made. -/
  lastBroadcast : Option τ
  started : Bool
  deriving Repr, DecidableEq

namespace Progress

def initial {τ : Type} : Progress τ := ⟨false, 0, none, false⟩

def stateName {τ : Type} (p : Progress τ) : String :=
  if p.connected then "connected" else "awaiting-connection"

end Progress

/-- Code of the service loop; what it did before a failure stays done. -/
abbrev LoopM (τ : Type) := ExceptT Failure (StateT (Progress τ) (StateM (Session τ)))

namespace LoopM

variable {τ α : Type}

def ask (call : Call τ) (answer : Answer τ α) : LoopM τ α :=
  (SessionM.ask call answer).within

end LoopM

namespace Scheduler

variable {τ : Type}

def source : String := "bootstrapd.network.scheduler"

/-- A scheduler. An enabled relay has to be there. -/
def make (engine : Engine τ) (config : DaemonConfig) (relay : Option (Relay τ))
    (tickInterval lanInterval : τ) (clock : Clock τ) : Except Failure (Scheduler τ) :=
  if config.enableTcpRelay && relay.isNone then .error (.fault .relayMissing)
  else .ok ⟨engine, config, relay, tickInterval, lanInterval, clock⟩

def inform (message : String) : LoopM τ Unit :=
  (SessionM.note Level.info source message).within

/-- Prepares the first turn. It is done once and counts as done from its beginning. -/
def start (s : Scheduler τ) : LoopM τ Unit := do
  if (← getThe (Progress τ)).started then return ()
  modifyThe (Progress τ) ({ · with started := true })
  if s.config.enableLanDiscovery then
    LoopM.ask .initLanDiscovery s.engine.initLanDiscovery
    inform "Initialized LAN discovery."

/-- Whether a broadcast is due: the first at once, each other when the interval has passed. -/
def broadcastDue [Sub τ] [LE τ] [DecidableLE τ] (s : Scheduler τ) (p : Progress τ) (now : τ) :
    Bool :=
  match p.lastBroadcast with
  | none => true
  | some last => s.lanInterval ≤ now - last

/-- Broadcasts on the local network if a broadcast is due. -/
def broadcast [Sub τ] [LE τ] [DecidableLE τ] (s : Scheduler τ) : LoopM τ Unit := do
  let now := s.clock (← getThe (Session τ)).calls
  if s.broadcastDue (← getThe (Progress τ)) now then
    LoopM.ask (.sendLanDiscovery s.config.port) s.engine.sendLanDiscovery
    modifyThe (Progress τ) ({ · with lastBroadcast := some now })

/-- Notes the first live connection. -/
def noteConnection (s : Scheduler τ) : LoopM τ Unit := do
  if (← getThe (Progress τ)).connected then return ()
  if 0 < (← LoopM.ask .connectionCount s.engine.connectionCount) then
    modifyThe (Progress τ) ({ · with connected := true })
    inform "Connected to other bootstrap node successfully."

/-- One turn, without the sleep after it. -/
def tick [Sub τ] [LE τ] [DecidableLE τ] (s : Scheduler τ) : LoopM τ Unit := do
  LoopM.ask .iterate s.engine.iterate
  if s.config.enableLanDiscovery then s.broadcast
  match s.relay with
  | some relay => LoopM.ask .relayIterate relay.iterate
  | none => pure ()
  LoopM.ask .poll s.engine.poll
  s.noteConnection
  modifyThe (Progress τ) fun p => { p with ticks := p.ticks + 1 }

/-- Turns with a sleep after each, until the loop is stopped from outside after so many sleeps. -/
def turns [Sub τ] [LE τ] [DecidableLE τ] (s : Scheduler τ) : Nat → LoopM τ Unit
  | 0 => throw (.fault .stopped)
  | n + 1 => do
    s.tick
    LoopM.ask (.sleep s.tickInterval) fun _ => .ok ()
    turns s n

/-- What leaves the service loop when a call fails in it. The loop waits between its turns, so what
ends an iteration elsewhere would be taken for its own end; it leaves as an error instead. -/
def escaping (e : Failure) : Failure :=
  if e.hasRaised "StopIteration" then .fault .iterationEnded else e

/-- The service loop, stopped from outside after so many sleeps. -/
def run [Sub τ] [LE τ] [DecidableLE τ] (s : Scheduler τ) (sleeps : Nat) : LoopM τ Unit := do
  try
    s.start
    s.turns sleeps
  catch e => throw (escaping e)

end Scheduler

end SeedNode

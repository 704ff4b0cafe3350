import SeedNode.Identity.Keypair

/-!
# Calls

Everything the daemon asks of what lies outside it: the network engine, its factory and its relay,
the system's process calls, the detacher, and sleep. A run leaves the list of its calls, oldest
first. What is outside answers by that list, so an answer may depend on all that was asked before.
-/

namespace SeedNode

/-- A call to the outside. Durations are of the type `τ`. -/
inductive Call (τ : Type) where
  | generateKeypair
  | create (keypair : Keypair) (port : Int) (ipv6 : Bool)
  | iterate
  | poll
  | relayIterate
  | connectionCount
  | initLanDiscovery
  | sendLanDiscovery (port : Int)
  | bootstrap (address : String) (ipv6 : Bool) (port : Int) (publicKey : Bytes)
  | setMotd (version : Int) (motd : Bytes)
  | createRelay (ports : List Int) (ipv6 : Bool)
  | fork
  | umask (mask : Nat)
  | setsid
  | chdir (path : String)
  | openNull
  | dup2 (source target : Int)
  | close (descriptor : Int)
  | detach
  | sleep (duration : τ)
  deriving Repr, DecidableEq

/-- How the outside answers a call: by all calls so far, the one to answer being the last. -/
abbrev Answer (τ α : Type) := List (Call τ) → Except Failure α

abbrev Clock (τ : Type) := List (Call τ) → τ

/-- A clock that starts at a given time and moves only while the daemon sleeps. -/
def Clock.sleeping {τ : Type} [Add τ] (start : τ) : Clock τ
  | calls => calls.foldl (fun now call => match call with
    | .sleep duration => now + duration
    | _ => now) start

end SeedNode

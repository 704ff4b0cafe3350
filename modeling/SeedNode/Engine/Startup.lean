import SeedNode.Session

/-!
# Starting the network

The engine is created once, and once more over the older protocol if the newer one fails and a
fallback is allowed. It is then told what to tell its peers, and may be asked for a relay.
-/

namespace SeedNode.Startup

variable {τ : Type}

def source : String := "bootstrapd.network.engine"

def failed {α : Type} (message : String) : SessionM τ α :=
  throw (.report (.plain .network message))

/-- Whether a failure is one of the network: a report of its stage, or a refusal of the system. -/
def isNetworkFailure (e : Failure) : Bool :=
  e.isOs || e.isReportOf .network

/-- Creates the engine: it, and whether it speaks the newer protocol. -/
def startNetworking (factory : Factory τ) (keypair : Keypair) (port : Int)
    (ipv6 fallback : Bool) : SessionM τ (Engine τ × Bool) := do
  try return (← SessionM.ask (.create keypair port ipv6) factory.create, ipv6)
  catch first =>
    if isNetworkFailure first = false then throw first
    else if (ipv6 && fallback) = false then
      failed s!"Couldn't initialize networking: {first.message}"
    else do
      SessionM.note Level.warning source
        s!"Couldn't initialize IPv6 networking ({first.message}). Falling back to using IPv4."
      try return (← SessionM.ask (.create keypair port false) factory.create, false)
      catch second =>
        if isNetworkFailure second then
          failed s!"Couldn't fallback to IPv4: {second.message}"
        else throw second

/-- A text as it was sent, without the null bytes at its end. -/
def motdText (motd : Bytes) : String :=
  String.ofList (Utf8.decodeLossy (motd.reverse.dropWhile (· == 0)).reverse)

/-- Sets the version and the message of the day that peers are told. -/
def installMotd (engine : Engine τ) (version : Int) (motd : Bytes) : SessionM τ Unit := do
  if ← SessionM.ask (.setMotd version motd) engine.setMotd then
    SessionM.note Level.info source "Set MOTD successfully."
  else failed s!"Couldn't set MOTD: {motdText motd}"

def startRelay (engine : Engine τ) (ports : List Int) (ipv6 : Bool) : SessionM τ (Relay τ) := do
  let relay ←
    try SessionM.ask (.createRelay ports ipv6) engine.createRelay
    catch e =>
      if isNetworkFailure e then failed s!"Couldn't initialize TCP relay: {e.message}"
      else throw e
  match relay with
  | none => failed "Couldn't initialize TCP relay"
  | some relay =>
    SessionM.note Level.info source "Initialized TCP relay successfully."
    return relay

end SeedNode.Startup

import SeedNode.Proofs.Effects
import SeedNode.Engine.Startup

/-!
# What starting the network does

Each step of the network stage as one equation on `run`, by the answers of what is asked. The
engine is created once or twice, always with the keypair and the port that were given; the second
time is never over the newer protocol.
-/

namespace SeedNode.Startup

variable {τ : Type} {factory : Factory τ} {engine : Engine τ} {keypair : Keypair} {port : Int}
  {ipv6 fallback : Bool} {s s' : Session τ}

/-- The warning before the engine is created again. -/
def fallbackRecord (first : Failure) : Record :=
  { level := Level.warning, source,
    message :=
      s!"Couldn't initialize IPv6 networking ({first.message}). Falling back to using IPv4." }

/-- What becomes of a failure of the second try. -/
def secondFailure (second : Failure) : Failure :=
  if isNetworkFailure second then
    .report (.plain .network s!"Couldn't fallback to IPv4: {second.message}")
  else second

/-- The session when the engine has been asked for. -/
def tried (keypair : Keypair) (port : Int) (ipv6 : Bool) (s : Session τ) : Session τ :=
  s.addCall (.create keypair port ipv6)

/-- The session when the engine has been asked for again. -/
def triedAgain (keypair : Keypair) (port : Int) (ipv6 : Bool) (first : Failure)
    (s : Session τ) : Session τ :=
  tried keypair port false ((tried keypair port ipv6 s).addRecord (fallbackRecord first))

@[simp] theorem run_failed {α : Type} (message : String) (s : Session τ) :
    (failed message : SessionM τ α).run s = (.error (.report (.plain .network message)), s) := rfl

theorem run_create (factory : Factory τ) (keypair : Keypair) (port : Int) (ipv6 : Bool)
    (s : Session τ) :
    (SessionM.ask (.create keypair port ipv6) factory.create).run s
      = (factory.create (tried keypair port ipv6 s).calls, tried keypair port ipv6 s) :=
  run_ask _ _ _

theorem run_startNetworking (factory : Factory τ) (keypair : Keypair) (port : Int)
    (ipv6 fallback : Bool) (s : Session τ) :
    (startNetworking factory keypair port ipv6 fallback).run s
      = match factory.create (tried keypair port ipv6 s).calls with
        | .ok engine => (.ok (engine, ipv6), tried keypair port ipv6 s)
        | .error first =>
          if isNetworkFailure first = false then (.error first, tried keypair port ipv6 s)
          else if (ipv6 && fallback) = false then
            (.error (.report
                (.plain .network s!"Couldn't initialize networking: {first.message}")),
              tried keypair port ipv6 s)
          else match factory.create (triedAgain keypair port ipv6 first s).calls with
            | .ok engine => (.ok (engine, false), triedAgain keypair port ipv6 first s)
            | .error second =>
              (.error (secondFailure second), triedAgain keypair port ipv6 first s) := by
  simp only [startNetworking]
  rw [run_bind, run_tryCatch, run_bind, run_create]
  cases factory.create (tried keypair port ipv6 s).calls with
  | ok engine => rfl
  | error first =>
      by_cases hnetwork : isNetworkFailure first = false
      · simp only [if_pos hnetwork]
        rfl
      by_cases hfallback : (ipv6 && fallback) = false
      · simp only [if_neg hnetwork, if_pos hfallback]
        rfl
      have hwarn : (SessionM.note Level.warning source
        s!"Couldn't initialize IPv6 networking ({first.message}). Falling back to using IPv4.").run
          (tried keypair port ipv6 s)
          = (.ok (), (tried keypair port ipv6 s).addRecord (fallbackRecord first)) := rfl
      have hagain : (SessionM.ask (.create keypair port false) factory.create).run
            ((tried keypair port ipv6 s).addRecord (fallbackRecord first))
          = (factory.create (triedAgain keypair port ipv6 first s).calls,
            triedAgain keypair port ipv6 first s) := run_create factory keypair port false _
      simp only [if_neg hnetwork, if_neg hfallback]
      rw [run_bind_of_ok hwarn, run_bind, run_tryCatch, run_bind, hagain]
      cases factory.create (triedAgain keypair port ipv6 first s).calls with
      | ok engine => rfl
      | error second =>
          by_cases hsecond : isNetworkFailure second = true
          · simp only [secondFailure, if_pos hsecond]
            rfl
          · simp only [secondFailure, if_neg hsecond]
            rfl

/-- Starting the network does nothing but ask for the engine, over the one protocol or the other. -/
theorem startNetworking_keeps {R : Session τ → Session τ → Prop} (h : Quiet R)
    (hcall : ∀ ipv6 s, R s (tried keypair port ipv6 s)) (factory : Factory τ)
    (ipv6 fallback : Bool) : Keeps R (startNetworking factory keypair port ipv6 fallback) := by
  intro s
  have hfirst := hcall ipv6 s
  have hsecond : ∀ first, R s (triedAgain keypair port ipv6 first s) :=
    fun first => h.trans _ _ _ hfirst (h.trans _ _ _ (h.addRecord _ _) (hcall false _))
  rw [run_startNetworking]
  split
  · exact hfirst
  split
  · exact hfirst
  split
  · exact hfirst
  split
  · exact hsecond _
  · exact hsecond _

/-- The session when the message of the day has been handed over. -/
def handedOver (version : Int) (motd : Bytes) (s : Session τ) : Session τ :=
  s.addCall (.setMotd version motd)

theorem run_installMotd (engine : Engine τ) (version : Int) (motd : Bytes) (s : Session τ) :
    (installMotd engine version motd).run s
      = match engine.setMotd (handedOver version motd s).calls with
        | .error e => (.error e, handedOver version motd s)
        | .ok false =>
          (.error (.report (.plain .network s!"Couldn't set MOTD: {motdText motd}")),
            handedOver version motd s)
        | .ok true =>
          (.ok (), (handedOver version motd s).addRecord
            { level := Level.info, source, message := "Set MOTD successfully." }) := by
  have hask : (SessionM.ask (.setMotd version motd) engine.setMotd).run s
      = (engine.setMotd (handedOver version motd s).calls, handedOver version motd s) :=
    run_ask _ _ _
  rcases hanswer : engine.setMotd (handedOver version motd s).calls with e | _ | _ <;>
    simp [installMotd, hask, hanswer]

/-- The session when the relay has been asked for. -/
def relayAsked (ports : List Int) (ipv6 : Bool) (s : Session τ) : Session τ :=
  s.addCall (.createRelay ports ipv6)

theorem run_startRelay (engine : Engine τ) (ports : List Int) (ipv6 : Bool) (s : Session τ) :
    (startRelay engine ports ipv6).run s
      = match engine.createRelay (relayAsked ports ipv6 s).calls with
        | .error e =>
          (.error (if isNetworkFailure e then
              .report (.plain .network s!"Couldn't initialize TCP relay: {e.message}")
            else e), relayAsked ports ipv6 s)
        | .ok none =>
          (.error (.report (.plain .network "Couldn't initialize TCP relay")),
            relayAsked ports ipv6 s)
        | .ok (some relay) =>
          (.ok relay, (relayAsked ports ipv6 s).addRecord
            { level := Level.info, source, message := "Initialized TCP relay successfully." }) := by
  have hask : (SessionM.ask (.createRelay ports ipv6) engine.createRelay).run s
      = (engine.createRelay (relayAsked ports ipv6 s).calls, relayAsked ports ipv6 s) :=
    run_ask _ _ _
  rcases hanswer : engine.createRelay (relayAsked ports ipv6 s).calls with e | _ | relay
  · cases hnetwork : isNetworkFailure e <;> simp [startRelay, hask, hanswer, hnetwork]
  · simp [startRelay, hask, hanswer]
  · simp [startRelay, hask, hanswer]

/-- Starting the relay does nothing but ask for it. -/
theorem startRelay_keeps {R : Session τ → Session τ → Prop} {ports : List Int} (h : Quiet R)
    (hcall : ∀ s, R s (relayAsked ports ipv6 s)) (engine : Engine τ) :
    Keeps R (startRelay engine ports ipv6) := by
  intro s
  rw [run_startRelay]
  split
  · exact hcall s
  · exact hcall s
  · exact h.trans _ _ _ (hcall s) (h.addRecord _ _)

end SeedNode.Startup

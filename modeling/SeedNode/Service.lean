import SeedNode.Config.Resolve
import SeedNode.Detach
import SeedNode.Engine.Plugin
import SeedNode.Engine.Startup
import SeedNode.Identity.Establish
import SeedNode.Scheduler
import SeedNode.Seeds.Contact

/-!
# The service

Startup goes through fixed stages: settings file, identity, network, seeds, detaching, service
loop. A stage that gives up is logged and ends the daemon with status one, and whatever happens the
log is closed at the end.
-/

namespace SeedNode.Service

def source : String := "bootstrapd.daemon.service"

def daemonName : String := "dht-bootstrapd"

/-- The version that peers are told, from the date of its release. -/
def versionNumber : Int := 2026101900

/-- What a start of the daemon is given. -/
structure Setup where
  configPath : Path
  registry : Plugin.Registry Float
  /-- The factory of the engine, if it is not to be found among the plugins. -/
  factory : Option (Factory Float)
  clock : Clock Float
  /-- What the system refuses while a new key file is written. -/
  keyFaults : KeyFile.Faults := .none
  /-- Why the system does not let the handlers of the log be built, if it does not. -/
  logRefusal : Option OsError := none

def inform (message : String) : SessionM Float Unit :=
  SessionM.note Level.info source message

/-- Tells the engine the message of the day where it is enabled. One that is enabled and not there
is a fault: an engine takes bytes. -/
def announce (engine : Engine Float) (config : DaemonConfig) : SessionM Float Unit :=
  if config.enableMotd then
    match config.motdBytes with
    | some motd => Startup.installMotd engine versionNumber motd
    | none => throw (.fault (.noAttribute "NoneType" "rstrip"))
  else pure ()

/-- Goes through every stage before detaching. -/
def prepare (setup : Setup) : SessionM Float (Scheduler Float) := do
  let settings ← SessionM.settings
  let resolved ← Config.load setup.configPath
  let config := resolved.config
  SessionM.ofExcept config.validate
  inform "General config read successfully"
  let _ ← Detach.warnIfStale config.pidFilePath
  let factory ← match setup.factory with
    | some factory => pure factory
    | none => SessionM.onLog (Plugin.loadFactory setup.registry settings.networkEngine)
  let keypair ← Identity.establish setup.keyFaults (Path.ofString config.keysFilePath)
    factory.sizes factory.generateKeypair
  inform "Keys are managed successfully."
  let (engine, ipv6) ← Startup.startNetworking factory keypair config.port config.enableIpv6
    config.enableIpv4Fallback
  announce engine config
  let relay ← if config.enableTcpRelay then
      some <$> Startup.startRelay engine config.tcpRelayPorts ipv6
    else pure none
  let _ ← Seeds.contactFile setup.configPath engine ipv6
  inform s!"Public Key: {keypair.publicHex}"
  let tickInterval ← SessionM.ofExcept settings.tickSeconds
  SessionM.ofExcept
    (Scheduler.make engine config relay tickInterval settings.lanSeconds setup.clock)

/-- How a start of the daemon detaches. -/
structure Departure where
  os : Detach.Processes Float
  /-- The way to detach, if it is not the one that suits the system. -/
  detacher : Option (Detach.Detacher Float)

/-- Goes through every stage up to detaching: the loop to run, and in which role. A stage that
gives up is logged. -/
def launch (setup : Setup) (departure : Departure) (backend : Backend) :
    SessionM Float (Option (Scheduler Float × Detach.Role)) := do
  try
    let scheduler ← prepare setup
    let detacher := departure.detacher.getD
      (.suited departure.os (Path.ofString scheduler.config.pidFilePath) (backend == .stdout))
    let role ← detacher.detach departure.os
    return some (scheduler, role)
  catch e =>
    match e with
    | .report r =>
      SessionM.note Level.error source s!"{r.message}. Exiting."
      return none
    | _ => throw e

/-- Runs the service loop until it is stopped from outside after so many sleeps. -/
def serve (scheduler : Scheduler Float) (sleeps : Nat) : SessionM Float Unit :=
  ExceptT.mk do
    let (result, _) ← (scheduler.run sleeps).run.run .initial
    return result

/-- The daemon with its log open: its exit status. -/
def runLogged (setup : Setup) (departure : Departure) (backend : Backend) (sleeps : Nat) :
    SessionM Float Nat := do
  inform s!"Running \"{daemonName}\" version {versionNumber}."
  match ← launch setup departure backend with
  | none => return 1
  | some (_, .parent) => return 0
  | some (scheduler, .service) =>
    serve scheduler sleeps
    return 0

/-- Logs refused settings, with the default level and form. -/
def reportSettings (build : Logging.Builder) (backend : Backend) (problems : List Rejected) :
    SessionM Float Unit := do
  let handle ← SessionM.configureWith build (some backend) (some (.number Level.info)) (some false)
  Detach.andFinally
    (SessionM.note Level.error source
      s!"Invalid environment settings: {Rejected.describe problems}. Exiting.")
    (discard (SessionM.closeLog handle))

/-- The daemon: its exit status. Handlers of the log that cannot be built are no failure of a stage,
and nothing is logged of them. Once the log is open it is closed however the daemon ends. -/
def run (setup : Setup) (departure : Departure) (backend : Backend) (sleeps : Nat) :
    SessionM Float Nat := do
  let build := Logging.building setup.logRefusal
  let opened ←
    try some <$> SessionM.configureWith build (some backend) none none
    catch e =>
      match e with
      | .settings problems =>
        reportSettings build backend problems
        pure none
      | _ => throw e
  match opened with
  | none => return 1
  | some handle =>
    Detach.andFinally (runLogged setup departure backend sleeps)
      (discard (SessionM.closeLog handle))

end SeedNode.Service

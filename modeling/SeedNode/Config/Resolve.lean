import SeedNode.Config.Basic
import SeedNode.Files.Tree
import SeedNode.Log.Record
import SeedNode.Session
import SeedNode.Toml.Document

/-!
# Resolving a configuration

Every option is looked up in the settings table. One that is absent, or whose value is of another
kind, is replaced by its default with a warning. The ports of the relay are taken one by one, and
a list of them that is there but is no list yields none. What was resolved is logged at the end,
each value with its source.
-/

namespace SeedNode.Config

def source : String := "bootstrapd.daemon.config"

def warn (message : String) : LogM Unit :=
  LogM.note Level.warning source message

def inform (message : String) : LogM Unit :=
  LogM.note Level.info source message

def complain (message : String) : LogM Unit :=
  LogM.note Level.error source message

/-- The value of an option and where it came from. -/
structure Chosen (α : Type) where
  value : α
  source : OptionSource
  deriving Repr, DecidableEq

/-! ## Options of one value -/

/-- A kind of option: how its value is read from a settings value, how it is called, and its text
in the log. -/
structure OptionKind (α : Type) where
  read : Value → Option α
  called : String
  text : α → Except TooLong String

namespace OptionKind

def integer : OptionKind Int where
  read v := match v with
    | .int n => some n
    | _ => none
  called := "an integer"
  text := decimalText

def boolean : OptionKind Bool where
  read v := match v with
    | .bool b => some b
    | _ => none
  called := "a boolean"
  text b := .ok (if b then "true" else "false")

def string : OptionKind String where
  read v := match v with
    | .str s => some s
    | _ => none
  called := "a string"
  text s := .ok s

end OptionKind

/-- The default of an option, with a warning. -/
def useDefault {α : Type} (kind : OptionKind α) (name : String) (default : α) :
    LogM (Chosen α) := do
  let text ← LogM.ofTooLong (kind.text default)
  warn s!"Using default '{name}': {text}"
  return ⟨default, .default⟩

def lookup {α : Type} (kind : OptionKind α) (data : Table) (name : String) (default : α) :
    LogM (Chosen α) := do
  match data.lookup name with
  | none =>
    warn s!"No '{name}' setting in configuration file."
    useDefault kind name default
  | some v =>
    match kind.read v with
    | some value => return ⟨value, .configured⟩
    | none =>
      warn s!"'{name}' setting should be {kind.called}, got {v.kind}."
      useDefault kind name default

/-! ## Ports of the relay -/

/-- What one element of the list of ports comes to: a port, or the reason why it is none. Fails
where the reason has no text. -/
def portOf (v : Value) : Except Failure (Except String Int) :=
  let whole (n : Int) : Except Failure (Except String Int) :=
    match Port.check (.int n) "tcp_relay_ports" with
    | .ok port => .ok (.ok port)
    | .error (.report _) =>
      .ok (.error s!"Invalid port: {n}, should be in {Port.range}")
    | .error e => .error e
  match v with
  | .int n => whole n
  | .float x =>
    match v.integer? with
    | some n => whole n
    | none => .ok (.error s!"Not an integer: {Value.numberStyle.write x}")
  | _ => .ok (.error "Not a number")

/-- The ports among values, which stand from index `i` on. Each of the others is told of. -/
def collectPorts (i : Nat) : List Value → LogM (List Int)
  | [] => return []
  | v :: rest => do
    match portOf v with
    | .error e => throw e
    | .ok (.ok port) => return port :: (← collectPorts (i + 1) rest)
    | .ok (.error reason) =>
      warn s!"Port #{i}: {reason}. Skipping."
      collectPorts (i + 1) rest

/-- Logs ports, which stand from index `i` on. -/
def informPorts (i : Nat) : List Int → LogM Unit
  | [] => return ()
  | port :: rest => do
    inform s!"Port #{i}: {port}"
    informPorts (i + 1) rest

/-- Where the ports of the relay come from. A list that yields none is configured all the same. -/
def relaySource (data : Table) : OptionSource :=
  if (data.lookup "tcp_relay_ports").isSome then .configured else .default

def relayPorts (data : Table) : LogM (List Int) := do
  match data.lookup "tcp_relay_ports" with
  | none =>
    let ports := DaemonConfig.default.tcpRelayPorts
    warn "No 'tcp_relay_ports' setting in the configuration file."
    warn "Using default 'tcp_relay_ports':"
    informPorts 0 ports
    collectPorts 0 (ports.map .int)
  | some (.list []) =>
    complain "'tcp_relay_ports' is empty."
    return []
  | some (.list values) => collectPorts 0 values
  | some _ =>
    complain ("'tcp_relay_ports' setting should be an array. "
      ++ "Array syntax: 'setting = [value1, value2, ...]'.")
    return []

/-! ## The whole configuration -/

/-- A configuration and where its values came from. -/
structure Resolved where
  config : DaemonConfig
  sources : Sources
  deriving Repr, DecidableEq

def summaryLine {α : Type} (kind : OptionKind α) (sources : Sources) (name : String) (value : α) :
    LogM Unit := do
  let text ← LogM.ofTooLong (kind.text value)
  inform s!"'{name}': {text} ({(sources.of name).name})"

/-- Logs a configuration. The ports of the relay and the message of the day only count where they
are enabled. -/
def logSummary (r : Resolved) : LogM Unit := do
  let c := r.config
  inform "Successfully read:"
  summaryLine .string r.sources "pid_file_path" c.pidFilePath
  summaryLine .string r.sources "keys_file_path" c.keysFilePath
  summaryLine .integer r.sources "port" c.port
  summaryLine .boolean r.sources "enable_ipv6" c.enableIpv6
  summaryLine .boolean r.sources "enable_ipv4_fallback" c.enableIpv4Fallback
  summaryLine .boolean r.sources "enable_lan_discovery" c.enableLanDiscovery
  summaryLine .boolean r.sources "enable_tcp_relay" c.enableTcpRelay
  if c.enableTcpRelay then
    if c.tcpRelayPorts.isEmpty then complain "No TCP ports could be read."
    else
      inform s!"Read {c.tcpRelayPorts.length} TCP ports:"
      informPorts 0 c.tcpRelayPorts
  summaryLine .boolean r.sources "enable_motd" c.enableMotd
  match c.motd with
  | some motd => if c.enableMotd then summaryLine .string r.sources "motd" motd
  | none => return ()

/-- The configuration that a settings table gives. -/
def resolve (data : Table) : LogM Resolved := do
  let d := DaemonConfig.default
  let port ← lookup .integer data "port" d.port
  let pid ← lookup .string data "pid_file_path" d.pidFilePath
  let keys ← lookup .string data "keys_file_path" d.keysFilePath
  let ipv6 ← lookup .boolean data "enable_ipv6" d.enableIpv6
  let fallback ← lookup .boolean data "enable_ipv4_fallback" d.enableIpv4Fallback
  let lan ← lookup .boolean data "enable_lan_discovery" d.enableLanDiscovery
  let relay ← lookup .boolean data "enable_tcp_relay" d.enableTcpRelay
  let ports ← if relay.value then some <$> relayPorts data else pure none
  let tells ← lookup .boolean data "enable_motd" d.enableMotd
  let motd ← if tells.value then some <$> lookup .string data "motd" (d.motd.getD "") else pure none
  let resolved : Resolved := {
    config := {
      port := port.value
      pidFilePath := pid.value
      keysFilePath := keys.value
      enableIpv6 := ipv6.value
      enableIpv4Fallback := fallback.value
      enableLanDiscovery := lan.value
      enableTcpRelay := relay.value
      tcpRelayPorts := ports.getD []
      enableMotd := tells.value
      motd := motd.map fun m => Motd.clamp m.value }
    sources :=
      [("port", port.source), ("pid_file_path", pid.source), ("keys_file_path", keys.source),
       ("enable_ipv6", ipv6.source), ("enable_ipv4_fallback", fallback.source),
       ("enable_lan_discovery", lan.source), ("enable_tcp_relay", relay.source)]
        ++ (ports.map fun _ => ("tcp_relay_ports", relaySource data)).toList
        ++ [("enable_motd", tells.source)]
        ++ (motd.map fun m => ("motd", m.source)).toList }
  logSummary resolved
  return resolved

/-! ## Settings files -/

def fileFailed (path : Path) (message : String) : Failure :=
  .report (.aboutFile .config message (.str path.text))

def parseFile (path : Path) (content : Bytes) : Except Failure Table := do
  match Utf8.decode content with
  | .error e => throw (.undecodable e)
  | .ok text =>
    match Toml.parse text with
    | .ok table => return table
    | .error (.malformed message) => throw (fileFailed path s!"{path}: {message}")
    | .error (.tooLong digits) => throw (.fault (.tooLong ⟨some digits⟩))

def readTable (path : Path) (files : Tree) : Except Failure Table := do
  match files.read path with
  | .ok content => parseFile path content
  | .error (.os e) =>
    throw (fileFailed path s!"Couldn't read config file {path}: {e.reason}")
  | .error e => throw e

def load {τ : Type} (path : Path) : SessionM τ Resolved := do
  let data ← SessionM.onFiles (FileM.ask (readTable path))
  SessionM.onLog (resolve data)

end SeedNode.Config

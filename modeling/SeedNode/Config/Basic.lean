import SeedNode.Config.Motd
import SeedNode.Config.Port

/-!
# The configuration of a node

What the operator's settings file decides, with a default for each option, and where each value
came from. `DaemonConfig.validate` tells what makes a configuration unusable as a whole.
-/

namespace SeedNode

/-- The configuration of a node. -/
structure DaemonConfig where
  port : Int
  pidFilePath : String
  keysFilePath : String
  enableIpv6 : Bool
  enableIpv4Fallback : Bool
  enableLanDiscovery : Bool
  enableTcpRelay : Bool
  tcpRelayPorts : List Int
  enableMotd : Bool
  motd : Option String
  deriving Repr, DecidableEq

/-- Where the value of an option came from. -/
inductive OptionSource where
  | configured
  | default
  deriving Repr, DecidableEq

namespace OptionSource

def name : OptionSource → String
  | configured => "configured"
  | default => "default"

def ofName (text : String) : Except Fault OptionSource :=
  match [configured, default].find? (·.name == text) with
  | some source => .ok source
  | none => .error (.notAChoice text "OptionSource")

end OptionSource

/-- Where the values of options came from, by the names of the options. -/
abbrev Sources := List (String × OptionSource)

/-- The source of an option; one that was not looked up has its default. -/
def Sources.of (sources : Sources) (name : String) : OptionSource :=
  (sources.lookup name).getD .default

namespace DaemonConfig

/-- The configuration that an empty settings file gives. -/
def default : DaemonConfig where
  port := 33445
  pidFilePath := "dht-bootstrapd.pid"
  keysFilePath := "dht-bootstrapd.keys"
  enableIpv6 := true
  enableIpv4Fallback := true
  enableLanDiscovery := true
  enableTcpRelay := true
  tcpRelayPorts := [443, 3389, 33445]
  enableMotd := true
  motd := some "dht-bootstrapd"

/-- The message of the day as it is sent, if one is. -/
def motdBytes (c : DaemonConfig) : Option Bytes :=
  if c.enableMotd then c.motd.map Motd.wire else none

def failed (message : String) : Failure :=
  .report (.aboutFile .config message .null)

/-- A report about a value, filed as one of the configuration. -/
def refile : Failure → Failure
  | .report r => if r.stage = .value then failed r.message else .report r
  | e => e

/-- What makes a configuration unusable: a listen port that is none, or a relay without ports. -/
def validate (c : DaemonConfig) : Except Failure Unit := do
  let _ ← (Port.check (.int c.port) "port").mapError refile
  if c.enableTcpRelay && c.tcpRelayPorts.isEmpty then throw (failed "No TCP relay ports read")

end DaemonConfig

end SeedNode

import SeedNode.Config.Basic

/-!
# Configurations of unchecked values

A draft has the options of a configuration and holds any value in each. It is sealed: none of its
parts can be changed once it is made.
-/

namespace SeedNode

/-- The options of a configuration with values of any kind, in the order in which they are
shown. -/
structure DraftConfig where
  fields : Table
  sources : Sources

namespace DraftConfig

/-- The options with their defaults, in the order in which they are shown. -/
def defaults : Table :=
  let d := DaemonConfig.default
  [("port", .int d.port), ("pid_file_path", .str d.pidFilePath),
   ("keys_file_path", .str d.keysFilePath), ("enable_ipv6", .bool d.enableIpv6),
   ("enable_ipv4_fallback", .bool d.enableIpv4Fallback),
   ("enable_lan_discovery", .bool d.enableLanDiscovery),
   ("enable_tcp_relay", .bool d.enableTcpRelay),
   ("tcp_relay_ports", .list (d.tcpRelayPorts.map .int)), ("enable_motd", .bool d.enableMotd),
   ("motd", .str (d.motd.getD ""))]

def sourcesOf : Table → Except Failure Sources
  | [] => .ok []
  | (name, v) :: rest => do
    let text := match v with
      | .str s => s
      | _ => ""
    let source ← (OptionSource.ofName text).mapError .fault
    return (name, source) :: (← sourcesOf rest)

/-- The draft that takes its values from a table and the rest from the defaults. -/
def ofTable (given : Table) : Except Failure DraftConfig := do
  let sources ← match given.lookup "sources" with
    | some (.table entries) => sourcesOf entries
    | _ => pure []
  let fields := defaults.map fun entry => (entry.1, (given.lookup entry.1).getD entry.2)
  return ⟨fields, sources⟩

def get (d : DraftConfig) (name : String) : Value :=
  (d.fields.lookup name).getD .null

/-- Whether every option equals its default by meaning. -/
def isDefault (d : DraftConfig) : Bool :=
  Value.same (.table d.fields) (.table defaults)

/-- The message of the day as it is sent, if one is. Fails where it is no text. -/
def motdBytes (d : DraftConfig) : Except Failure (Option Bytes) :=
  if (d.get "enable_motd").truthy then
    match d.get "motd" with
    | .null => .ok none
    | .str text => .ok (some (Motd.wire text))
    | v => .error (.fault (.noAttribute v.kind "split"))
  else .ok none

/-- What makes the configuration unusable, as for a checked one. -/
def validate (d : DraftConfig) : Except Failure Unit := do
  let _ ← (Port.check (d.get "port") "port").mapError DaemonConfig.refile
  if (d.get "enable_tcp_relay").truthy && !(d.get "tcp_relay_ports").truthy then
    throw (DaemonConfig.failed "No TCP relay ports read")

/-- The text of an option's value. The ports of the relay are shown as a group, and a single one
keeps its comma. -/
def fieldText (name : String) (v : Value) : Except TooLong String := do
  match name, v with
  | "tcp_relay_ports", .list items =>
    let parts ← Value.quotedItems items
    return "(" ++ ", ".intercalate parts ++ (if parts.length = 1 then ",)" else ")")
  | _, _ => v.quoted

def fieldTexts : Table → Except TooLong (List String)
  | [] => .ok []
  | (name, v) :: rest => do
    let text ← fieldText name v
    return (name ++ "=" ++ text) :: (← fieldTexts rest)

def shown (d : DraftConfig) : Except TooLong String := do
  return "DaemonConfig(" ++ ", ".intercalate (← fieldTexts d.fields) ++ ")"

/-- An attempt to change a part of a draft. -/
def assign (_ : DraftConfig) (field : String) : Except Failure Unit :=
  .error (.fault (.sealed field))

end DraftConfig

def DaemonConfig.toTable (c : DaemonConfig) : Table :=
  [("port", .int c.port), ("pid_file_path", .str c.pidFilePath),
   ("keys_file_path", .str c.keysFilePath), ("enable_ipv6", .bool c.enableIpv6),
   ("enable_ipv4_fallback", .bool c.enableIpv4Fallback),
   ("enable_lan_discovery", .bool c.enableLanDiscovery),
   ("enable_tcp_relay", .bool c.enableTcpRelay),
   ("tcp_relay_ports", .list (c.tcpRelayPorts.map .int)), ("enable_motd", .bool c.enableMotd),
   ("motd", (c.motd.map Value.str).getD .null)]

end SeedNode

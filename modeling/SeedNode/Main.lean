import SeedNode.CommandLine.Reply
import Std.Time.DateTime.Timestamp

/-!
# The program

The outer layer: it gathers what a start of the daemon depends on, runs the start, and writes out
what the daemon has to say. No engine is built in and none can be installed, so a start that gets
as far as the network ends there with a report. Lines for the system log go to the error stream,
since its sockets are out of reach.
-/

namespace SeedNode.Program

/-- What stands at a path, if anything does. -/
def look (path : String) : IO (Option Entry) := do
  try return some (.file 0o644 (← IO.FS.readBinFile path).toList)
  catch
    | .noFileOrDirectory .. => return none
    | _ => return some .directory

def withPath (files : Tree) (path : String) : IO Tree := do
  match ← look path with
  | some (.file mode content) => return files.placeFile (Path.ofString path) (some mode) content
  | some e => return files.place (Path.ofString path) e
  | none => return files

def namedPaths (files : Tree) (config : String) : List String :=
  match Config.readTable (Path.ofString config) files with
  | .error _ => []
  | .ok data =>
    match ((Config.resolve data).run []).1 with
    | .error _ => []
    | .ok resolved => [resolved.config.pidFilePath, resolved.config.keysFilePath]

/-- The files that a start with a settings file looks at. -/
def gather (config : String) : IO Tree := do
  let files ← [config, ".env"].foldlM withPath Tree.empty
  (namedPaths files config).foldlM withPath files

def environment : IO Variables := do
  let names := ["LOG_LEVEL", "LOG_FORMAT", "NETWORK_ENGINE", "TICK_INTERVAL_MS",
    "LAN_DISCOVERY_INTERVAL_SECONDS"].map ("BOOTSTRAPD_" ++ ·)
  let bound ← names.mapM fun name => do
    return (← IO.getEnv name).map fun text => (name, text)
  return bound.filterMap id

def outlets : IO Outlets := do
  let terminal ← (← IO.getStdout).isTty
  let sockets ← Outlets.knownSockets.filterM fun path => do return (← look path).isSome
  let now ← Std.Time.Timestamp.now
  return ⟨terminal, sockets, now.toSecondsSinceUnixEpoch.val⟩

def noPlugins : Plugin.Registry Float where
  entryPoints := []
  load name :=
    .error (.fault (.raised "ModuleNotFoundError" s!"No module named {Quoted.quote name}"))

/-- A system on which the daemon stays in the foreground. -/
def attached : Detach.Processes Float where
  hasFork := false
  pid := 0
  fork _ := .ok 0
  umask _ := .ok ()
  setsid _ := .ok ()
  chdir _ := .ok ()
  openNull _ := .ok 0
  dup2 _ := .ok ()
  close _ := .ok ()

/-- Starts the daemon: its exit status. -/
def start (config : String) (backend : Backend) (o : Outlets) : IO UInt32 := do
  let session : Session Float := .start (← gather config) (← environment) o
  let setup : Service.Setup := {
    configPath := Path.ofString config
    registry := noPlugins
    factory := none
    clock := .sleeping 0.0 }
  let (result, left) := (Service.run setup ⟨attached, none⟩ backend 0).run session
  let log := left.logging
  IO.print log.stdout
  IO.eprint log.stderr
  log.wire.forM fun datagram => IO.eprintln (String.ofList datagram.2.toList.dropLast)
  match result with
  | .ok status => return status.toUInt32
  | .error e =>
    IO.eprintln s!"{e.className}: {e.message}"
    return 1

end SeedNode.Program

def main (args : List String) : IO UInt32 := do
  let o ← SeedNode.Program.outlets
  match SeedNode.CommandLine.reply args o true with
  | .exit status out err =>
    IO.print out
    IO.eprint err
    return status.toUInt32
  | .start (some config) backend => SeedNode.Program.start config backend o
  | .start none _ =>
    IO.eprintln "TypeError: the path of the settings file is missing"
    return 1

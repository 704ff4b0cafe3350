import SeedNode.Session

/-!
# Detaching

The daemon goes on in the background while the process that launched it ends. It forks, the parent
records the process number of the child in a file, and the child leaves its session, directory and
standard streams. Where there is no fork, or a supervisor watches, it stays where it is and records
its own number. The file is only ever appended to.
-/

namespace SeedNode.Detach

variable {τ : Type}

def source : String := "bootstrapd.daemon.detach"

/-- What a process is after detaching. -/
inductive Role where
  /-- It launched the service and should end. -/
  | parent
  /-- It is the service. -/
  | service
  deriving Repr, DecidableEq

def Role.name : Role → String
  | parent => "parent"
  | service => "service"

/-- A write that breaks off: how many bytes were stored before, and why. -/
structure BrokenWrite where
  stored : Nat
  refusal : OsError

/-- How the system answers the calls of a process. -/
structure Processes (τ : Type) where
  hasFork : Bool
  pid : Int
  /-- The number of the child in the parent, and zero in the child. -/
  fork : Answer τ Int
  umask : Answer τ Unit
  setsid : Answer τ Unit
  chdir : Answer τ Unit
  /-- Opens the null device: its descriptor. -/
  openNull : Answer τ Int
  dup2 : Answer τ Unit
  close : Answer τ Unit
  /-- Whether writing the process number to its file breaks off. -/
  recording : Option BrokenWrite := none

def failed {α : Type} (message : String) : SessionM τ α :=
  throw (.report (.plain .detach message))

/-- Runs an action; a refusal of the system becomes a report of this stage. -/
def reporting {α : Type} (said : String) (action : SessionM τ α) : SessionM τ α := do
  try action
  catch e => if e.isOs then failed s!"{said}: {e.message}" else throw e

/-! ## The file of the process number -/

/-- Warns if the file is there already; whether it is. -/
def warnIfStale (pidFilePath : String) : SessionM τ Bool := do
  let present ← SessionM.onFiles (FileM.ask fun t => t.pathExists (Path.ofString pidFilePath))
  if present then
    SessionM.note Level.warning source
      s!"Another instance of the daemon is already running, PID file {pidFilePath} exists."
  return present

/-- Opens the file for appending: its location. -/
def openPidFile (path : Path) : SessionM τ Location :=
  reporting s!"Couldn't open the PID file for writing: {path}" do
    SessionM.onFiles do
      let (loc, tree) ← FileM.ask fun t => t.openForWriting path 0o666
      set tree
      return loc

def pidLine (pid : Int) : Bytes :=
  Utf8.encode s!"{pid}\n"

def append (loc : Location) (data : Bytes) : SessionM τ Unit :=
  SessionM.onFiles (modify fun t => t.setContent loc (t.contentAt loc ++ data))

/-- Appends a process number, on a line of its own. When the write breaks off, what was stored by
then stays there, and the refusal is not reported. -/
def appendPid (recording : Option BrokenWrite) (loc : Location) (pid : Int) : SessionM τ Unit :=
  match recording with
  | none => append loc (pidLine pid)
  | some broken => do
    append loc ((pidLine pid).take broken.stored)
    throw (.os broken.refusal)

/-! ## Ways to detach -/

/-- Runs an action and then another, whether the first fails or not. A failure of the second
replaces one of the first. -/
def andFinally {α : Type} (action : SessionM τ α) (cleanup : SessionM τ Unit) : SessionM τ α := do
  let result ← try (.ok <$> action : SessionM τ (Except Failure α))
    catch e => pure (.error e)
  cleanup
  SessionM.ofExcept result

def silence (os : Processes τ) : SessionM τ Unit := do
  let null ← SessionM.ask .openNull os.openNull
  andFinally (do
      SessionM.ask (.dup2 null 0) os.dup2
      SessionM.ask (.dup2 null 1) os.dup2
      SessionM.ask (.dup2 null 2) os.dup2)
    (if 2 < null then SessionM.ask (.close null) os.close else pure ())

def becomeService (os : Processes τ) (keepStdio : Bool) : SessionM τ Unit := do
  SessionM.ask (.umask 0) os.umask
  reporting "SID creation failure" (SessionM.ask .setsid os.setsid)
  reporting "Couldn't change working directory to '/'" (SessionM.ask (.chdir "/") os.chdir)
  if keepStdio then pure () else silence os

/-- Forks. The file is opened first, so that a bad path fails while the process is attached. -/
def fork (os : Processes τ) (path : Path) (keepStdio : Bool) : SessionM τ Role := do
  let loc ← openPidFile path
  if os.hasFork = false then throw (.fault .noFork)
  let pid ← reporting "Forking failed" (SessionM.ask .fork os.fork)
  if 0 < pid then
    appendPid os.recording loc pid
    SessionM.note Level.info source s!"Forked successfully: PID: {pid}."
    return .parent
  else
    becomeService os keepStdio
    return .service

def stay (os : Processes τ) (path : Path) : SessionM τ Role := do
  let loc ← openPidFile path
  appendPid os.recording loc os.pid
  SessionM.note Level.info source s!"Running in the foreground: PID: {os.pid}."
  return .service

/-- A way to detach. -/
inductive Detacher (τ : Type) where
  | fork (path : Path) (keepStdio : Bool)
  | foreground (path : Path)
  | given (answer : Answer τ Role)

namespace Detacher

def name : Detacher τ → String
  | fork _ _ => "ForkDetacher"
  | foreground _ => "ForegroundDetacher"
  | given _ => "ServiceDetacher"

def suited (os : Processes τ) (path : Path) (keepStdio : Bool) : Detacher τ :=
  if os.hasFork then .fork path keepStdio else .foreground path

def detach (os : Processes τ) : Detacher τ → SessionM τ Role
  | fork path keepStdio => Detach.fork os path keepStdio
  | foreground path => stay os path
  | given answer => SessionM.ask .detach answer

end Detacher

end SeedNode.Detach

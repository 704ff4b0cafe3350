import SeedNode.Log.Format

/-!
# Where log records go

The daemon writes its records either to the system log or to the terminal, where grave ones go to
the error stream and the others to the output stream. `Logging` holds the threshold, the handlers
attached to it, and what has been written. A `Handle` stands for one configuration: it owns the
handlers that it installed and can detach them once, however often it is closed.
-/

namespace SeedNode

/-- Where log records are written. -/
inductive Backend where
  | syslog
  | stdout
  deriving Repr, DecidableEq

def Backend.name : Backend → String
  | syslog => "syslog"
  | stdout => "stdout"

/-- All backends, in the order in which they are offered. -/
def Backend.all : List Backend := [syslog, stdout]

def Backend.ofName (name : String) : Except Fault Backend :=
  match all.find? (·.name == name) with
  | some backend => .ok backend
  | none => .error (.notAChoice name "LogBackend")

/-- What the process can write its log to. -/
structure Outlets where
  terminal : Bool
  sockets : List String
  /-- The time, in seconds after the start of 1970. -/
  now : Int

namespace Outlets

/-- The backend that suits: the terminal if there is one. -/
def backend (o : Outlets) : Backend :=
  if o.terminal then .stdout else .syslog

/-- The sockets that a system log may listen on, in order of preference. -/
def knownSockets : List String := ["/dev/log", "/var/run/syslog"]

/-- Where the system log is reached: at a socket, else at its port on this host. -/
def systemAddress (o : Outlets) : String :=
  (knownSockets.find? o.sockets.contains).getD "localhost:514"

end Outlets

/-- One destination of log lines. -/
inductive Sink where
  /-- The output stream; it takes what is below a warning. -/
  | out
  /-- The error stream; it takes the rest. -/
  | err
  | system (address : String)
  deriving Repr, DecidableEq

def Sink.takes : Sink → Level → Bool
  | out, level => level < Level.warning
  | err, level => Level.warning ≤ level
  | system _, _ => true

/-- An installed destination. -/
structure Handler where
  id : Nat
  sink : Sink
  format : LineFormat
  deriving Repr, DecidableEq

/-- The state of logging. -/
structure Logging where
  level : Level
  handlers : List Handler
  /-- The handlers that have been built and not closed. -/
  alive : List Nat
  built : Nat
  /-- The records that were grave enough, oldest first. -/
  accepted : List Record
  stdout : String
  stderr : String
  /-- The datagrams sent to the system log: address and text. -/
  wire : List (String × String)

/-- What a configuration installed. -/
structure Handle where
  backend : Backend
  level : Level
  owned : List Nat
  deriving Repr, DecidableEq

def Handle.isClosed (h : Handle) : Bool :=
  h.owned.isEmpty

namespace Logging

/-- Logging before anything is configured: every record counts and none is written. -/
def initial : Logging := ⟨Level.debug, [], [], 0, [], "", "", []⟩

/-! ## Writing records -/

def identity : String := "dht-bootstrapd: "

/-- The number that the system log gives to a level, with the facility of daemons. -/
def priority (level : Level) : Nat :=
  let severity := if level = 10 then 7 else if level = 20 then 6 else if level = 40 then 3
    else if level = 50 then 2 else 4
  3 * 8 + severity

/-- The least level that counts. Where none is set, warnings do. -/
def threshold (l : Logging) : Level :=
  if l.level = 0 then Level.warning else l.level

/-- Whether a record is made by a part of the daemon and is grave enough. Levels up to zero are off
whatever the threshold. -/
def admits (l : Logging) (r : Record) : Bool :=
  (r.source == "bootstrapd" || r.source.startsWith "bootstrapd.")
    && 0 < r.level && l.threshold ≤ r.level

/-- Writes a record through one handler. A record without a text is dropped. -/
def emit (now : Int) (r : Record) (l : Logging) (h : Handler) : Logging :=
  if h.sink.takes r.level then
    match h.format.write now r with
    | .error _ => l
    | .ok text =>
      match h.sink with
      | .out => { l with stdout := l.stdout ++ text ++ "\n" }
      | .err => { l with stderr := l.stderr ++ text ++ "\n" }
      | .system address =>
        let datagram := s!"<{priority r.level}>" ++ identity ++ text ++ "\x00"
        { l with wire := l.wire ++ [(address, datagram)] }
  else l

/-- Writes a record through every attached handler, if it counts. -/
def dispatch (now : Int) (l : Logging) (r : Record) : Logging :=
  if l.admits r then
    l.handlers.foldl (emit now r) { l with accepted := l.accepted ++ [r] }
  else l

/-! ## Configuring -/

def layout (o : Outlets) (backend : Backend) (json : Bool) : List (Sink × LineFormat) :=
  match backend with
  | .syslog => [(.system o.systemAddress, if json then .json else .system)]
  | .stdout =>
    let format := if json then .json else .standard o.terminal
    [(.out, format), (.err, format)]

/-- What the system lets be built for a backend and a form, or why it does not. -/
abbrev Builder :=
  Outlets → Backend → Bool → Except Failure (List (Sink × LineFormat))

/-- Builds the handlers of the layout, unless the system refuses. -/
def building (refusal : Option OsError) : Builder := fun o backend json =>
  match refusal with
  | none => .ok (layout o backend json)
  | some e => .error (.os e)

def detachAll (l : Logging) : Logging :=
  { l with
    handlers := []
    alive := l.alive.filter fun id => !l.handlers.any (·.id == id) }

/-- Replaces the attached handlers by new ones and sets the level. A level that is refused is only
met once the old handlers are gone. -/
def attach (parts : List (Sink × LineFormat)) (backend : Backend) (choice : LevelChoice)
    (l : Logging) : Except Failure Handle × Logging :=
  let bare := l.detachAll
  let handlers := parts.mapIdx fun i (part : Sink × LineFormat) =>
    Handler.mk (bare.built + i) part.1 part.2
  let ids := handlers.map (·.id)
  let ready := { bare with alive := bare.alive ++ ids, built := bare.built + handlers.length }
  match choice.resolve with
  | .error e => (.error (.fault e), ready)
  | .ok level => (.ok ⟨backend, level, ids⟩, { ready with level, handlers })

/-- Configures the log with the handlers that could be built. This is tried once the old ones are
gone. -/
def configure (built : Except Failure (List (Sink × LineFormat))) (backend : Backend)
    (choice : LevelChoice) (l : Logging) : Except Failure Handle × Logging :=
  match built with
  | .error e => (.error e, l.detachAll)
  | .ok parts => l.attach parts backend choice

/-- Closes a handle: what it still owns is detached and closed. -/
def close (h : Handle) (l : Logging) : Handle × Logging :=
  ({ h with owned := [] },
    { l with
      handlers := l.handlers.filter fun handler => !h.owned.contains handler.id
      alive := l.alive.filter fun id => !h.owned.contains id })

end Logging

end SeedNode

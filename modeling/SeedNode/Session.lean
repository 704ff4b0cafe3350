import SeedNode.Engine.Interface
import SeedNode.Environment.Settings
import SeedNode.Log.Backend

/-!
# Sessions

A session is what one process of the daemon acts on: the files below its working directory, its
environment, its log, and the calls it made to the outside. Code that runs in a session may fail;
what it did until then stays done.
-/

namespace SeedNode

/-- What a process acts on and leaves behind. -/
structure Session (τ : Type) where
  files : Tree
  environment : Variables
  settings : SettingsCache
  /-- The calls made so far, oldest first. -/
  calls : List (Call τ)
  /-- The records made so far, whatever their level, oldest first. -/
  log : List Record
  logging : Logging
  outlets : Outlets

abbrev SessionM (τ : Type) := ExceptT Failure (StateM (Session τ))

namespace Session

def start {τ : Type} (files : Tree) (environment : Variables) (outlets : Outlets) :
    Session τ :=
  ⟨files, environment, .empty, [], [], .initial, outlets⟩

/-- Makes a record and writes it to wherever the log goes. -/
def addRecord {τ : Type} (s : Session τ) (r : Record) : Session τ :=
  { s with log := s.log ++ [r], logging := s.logging.dispatch s.outlets.now r }

def addCall {τ : Type} (s : Session τ) (call : Call τ) : Session τ :=
  { s with calls := s.calls ++ [call] }

end Session

namespace SessionM

variable {τ α : Type}

/-- A result that may be a failure. -/
def ofExcept : Except Failure α → SessionM τ α
  | .ok a => pure a
  | .error e => throw e

/-- Makes a call and takes its answer. The call counts as made even if the answer is a failure. -/
def ask (call : Call τ) (answer : Answer τ α) : SessionM τ α := do
  modify (·.addCall call)
  ofExcept (answer (← get).calls)

/-- Runs code of the session inside code that has a state of its own, which is left alone. -/
def within {ρ : Type} (action : SessionM τ α) :
    ExceptT Failure (StateT ρ (StateM (Session τ))) α :=
  ExceptT.mk fun own => do
    let result ← action.run
    return (result, own)

def note (level : Level) (source message : String) : SessionM τ Unit :=
  modify (·.addRecord { level, source, message })

def onFiles (action : FileM α) : SessionM τ α := do
  let s ← get
  let (result, files) := action.run s.files
  set { s with files }
  ofExcept result

def onLog (action : LogM α) : SessionM τ α := do
  let s ← get
  let (result, records) := action.run []
  set (records.foldl Session.addRecord s)
  ofExcept result

/-- The settings of the process, read once. -/
def settings : SessionM τ ProcessSettings := do
  let s ← get
  let (result, cache) := s.settings.get s.environment s.files
  set { s with settings := cache }
  return (← ofExcept result).2

/-- What is given, else what the settings of the process say. -/
def orSetting (given : Option α) (setting : ProcessSettings → α) : SessionM τ α :=
  match given with
  | some a => pure a
  | none => setting <$> settings

/-- Configures logging with what the system lets be built. What is not given comes from the process:
the backend that suits its outlets, and the level and form that its settings ask for. -/
def configureWith (build : Logging.Builder) (backend : Option Backend) (level : Option LevelChoice)
    (json : Option Bool) : SessionM τ Handle := do
  let backend := backend.getD (← get).outlets.backend
  let level ← orSetting level fun p => .word p.logLevel
  let json ← orSetting json (·.wantsJson)
  let s ← get
  let (result, logging) := s.logging.configure (build s.outlets backend json) backend level
  set { s with logging }
  ofExcept result

def configureLog (backend : Option Backend) (level : Option LevelChoice) (json : Option Bool) :
    SessionM τ Handle :=
  configureWith (Logging.building none) backend level json

/-- Closes what a configuration of logging installed. -/
def closeLog (handle : Handle) : SessionM τ Handle := do
  let s ← get
  let (closed, logging) := s.logging.close handle
  set { s with logging }
  return closed

end SessionM

end SeedNode

import SeedNode.Environment.Dotenv
import SeedNode.Files.Tree
import SeedNode.Numeric.Integer

/-!
# Settings of the process

What belongs to the process and not to the node: how to log, which engine to load, and how often
to do what. They come from variables whose names start with a common word, in any letter case, and
from an environment file, over which the variables win. All that is wrong is told at once.
-/

namespace SeedNode

/-- The settings of the process. -/
structure ProcessSettings where
  logLevel : String
  logFormat : String
  networkEngine : Option String
  /-- The nominal time between two turns of the service loop, in milliseconds. -/
  tickMilliseconds : Int
  /-- The least time between two broadcasts on the local network, in seconds. -/
  lanSeconds : Float

namespace ProcessSettings

open Dotenv (Bindings)

/-- The settings where nothing is set. -/
def default : ProcessSettings := ⟨"INFO", "", none, 30, 10.0⟩

/-! ## Names -/

/-- A name in lower case, as far as the result can be a name of a setting. -/
def foldName (name : String) : String :=
  name.map fun c => if c = '\u212A' then 'k' else c.toLower

/-- The text of a setting: the last variable of that name, in any letter case. -/
def textOf (bound : Bindings) (name : String) : Option String :=
  let matching := bound.filter fun entry => foldName entry.1 == "bootstrapd_" ++ name
  matching.getLast?.bind (·.2)

/-- The text of a setting in the environment, else in the environment file. -/
def find (environment : Variables) (file : Bindings) (name : String) : Option String :=
  textOf (environment.map fun entry => (entry.1, some entry.2)) name <|> textOf file name

/-! ## Values -/

/-- An integer. Its length is that of its digits, its sign and the rest left out. -/
def integer (text : String) : Except Complaint Int :=
  match IntegerText.cleaned? text.toList with
  | none => .error .notInteger
  | some number =>
    let (negative, digits, rest) := IntegerText.split number
    let padded := digits.head? == some '0' && digits != ['0']
    if digits = [] ∨ padded then .error .notInteger
    else if maxDigits < digits.length then .error .integerTooLong
    else if rest ≠ [] then .error .notInteger
    else
      let n : Int := Reading.valueOf digits
      .ok (if negative then -n else n)

/-- The time between turns: at least one millisecond. -/
def milliseconds (text : String) : Except Complaint Int := do
  let n ← integer text
  if n < 1 then throw .belowMinimum else return n

/-- The time between broadcasts: more than nothing. -/
def seconds (text : String) : Except Complaint Float :=
  match Reading.float? text.toList with
  | none => .error .notNumber
  | some x => if x > 0.0 then .ok x else .error .notPositive

/-- A setting that is read from its text, or its default; a complaint names its variable. -/
def option {α : Type} (name : String) (read : String → Except Complaint α) (fallback : α) :
    Option String → Except Rejected α
  | none => .ok fallback
  | some text => (read text).mapError fun complaint => ⟨"BOOTSTRAPD_" ++ name, complaint⟩

/-- The complaint of a failed reading. -/
def complaints {α : Type} : Except Rejected α → List Rejected
  | .ok _ => []
  | .error e => [e]

def ofBindings (environment : Variables) (file : Bindings) : Except Failure ProcessSettings :=
  let text := find environment file
  let tick := option "TICK_INTERVAL_MS" milliseconds default.tickMilliseconds
    (text "tick_interval_ms")
  let lan := option "LAN_DISCOVERY_INTERVAL_SECONDS" seconds default.lanSeconds
    (text "lan_discovery_interval_seconds")
  match tick, lan with
  | .ok tickMilliseconds, .ok lanSeconds =>
    .ok {
      logLevel := (text "log_level").getD default.logLevel
      logFormat := (text "log_format").getD default.logFormat
      networkEngine := text "network_engine"
      tickMilliseconds
      lanSeconds }
  | _, _ => .error (.settings (complaints tick ++ complaints lan))

def filePath : Path := Path.ofString ".env"

/-- The bindings of the environment file, if there is one. -/
def fileBindings (environment : Variables) (files : Tree) : Except Failure Bindings :=
  if files.isFile filePath then do
    let content ← files.read filePath
    match Utf8.decode content with
    | .ok text => return Dotenv.read environment text
    | .error e => throw (.undecodable e)
  else .ok []

/-- The settings of a process with an environment and a working directory. -/
def read (environment : Variables) (files : Tree) : Except Failure ProcessSettings := do
  ofBindings environment (← fileBindings environment files)

/-! ## Derived settings -/

/-- The time between turns in seconds. Fails where the milliseconds are beyond binary numbers. -/
def tickSeconds (s : ProcessSettings) : Except Failure Float :=
  let x := Decimal.toFloat ⟨s.tickMilliseconds.natAbs, 0⟩
  if x.isInf then .error (.fault .overflow) else .ok (x / 1000.0)

def wantsJson (s : ProcessSettings) : Bool :=
  s.logFormat.map Char.toLower == "json"

end ProcessSettings

/-! ## Reading once -/

/-- The settings as they were first read, with a number that tells readings apart. -/
structure SettingsCache where
  current : Option (Nat × ProcessSettings)
  readings : Nat

namespace SettingsCache

def empty : SettingsCache := ⟨none, 0⟩

def clear (c : SettingsCache) : SettingsCache := { c with current := none }

/-- The settings as they were first read, else as they are now. A failed reading leaves nothing
behind. -/
def get (environment : Variables) (files : Tree) (c : SettingsCache) :
    Except Failure (Nat × ProcessSettings) × SettingsCache :=
  match c.current with
  | some known => (.ok known, c)
  | none =>
    match ProcessSettings.read environment files with
    | .error e => (.error e, c)
    | .ok settings =>
      let known := (c.readings, settings)
      (.ok known, ⟨some known, c.readings + 1⟩)

end SettingsCache

end SeedNode

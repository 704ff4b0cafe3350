import SeedNode.Text.Utf8
import SeedNode.Value

/-!
# Failures

Everything that can end an operation early. A stage of the daemon that gives up files a `Report`:
which stage it was, a message, and details for a reader of structured output. The operating system
refuses with an `OsError`. The rest are faults of an argument, or whatever an engine or a plugin
chose to raise. A cause is a constructor; its wording is in one `message` function per type.
-/

namespace SeedNode

/-! ## Reports -/

/-- The stage of the daemon that a report comes from. -/
inductive Stage where
  | general
  | config
  | value
  | identity
  | network
  | detach
  deriving Repr, DecidableEq

def Stage.className : Stage → String
  | general => "BootstrapdException"
  | config => "ConfigError"
  | value => "ValidationError"
  | identity => "IdentityIOError"
  | network => "NetworkInitError"
  | detach => "DaemonizeError"

def Stage.ofClass? (name : String) : Option Stage :=
  [general, config, value, identity, network, detach].find? (·.className == name)

/-- What a stage says when it gives up. -/
structure Report where
  stage : Stage
  message : String
  /-- What the message is about, for structured output: a table, unless an engine that gave up chose
  something else. -/
  details : Value
  /-- The parts of the report that can be asked for by name. -/
  attributes : Table

namespace Report

/-- A report with details of the caller's own. Details that say nothing are an empty table. -/
def withDetails (stage : Stage) (message : String) (details : Value) : Report :=
  ⟨stage, message, if details.truthy then details else .table [], []⟩

def plain (stage : Stage) (message : String) : Report :=
  withDetails stage message .null

/-- A report about a file. An empty path is no detail. -/
def aboutFile (stage : Stage) (message : String) (path : Value) : Report :=
  ⟨stage, message, .table (if path.truthy then [("path", path)] else []), [("path", path)]⟩

/-- A report about a named field and the value found there. An empty name and an absent value are
no details. Fails when the value has no text. -/
def aboutValue (message : String) (field value : Value) : Except TooLong Report := do
  let named := if field.truthy then [("field", field)] else []
  let shown ← match value with
    | .null => pure []
    | v => do pure [("value", Value.str (← v.text))]
  return ⟨.value, message, .table (named ++ shown), [("field", field), ("value", value)]⟩

def toTable (r : Report) : Table :=
  [("error", .str r.stage.className), ("message", .str r.message), ("details", r.details)]

end Report

/-! ## Refusals of the operating system -/

/-- The refusals that the system itself gives. -/
inductive Errno where
  | noEntry
  | busy
  | notDirectory
  | isDirectory
  | invalid
  | nameTooLong
  | linkLoop
  | tooLarge
  deriving Repr, DecidableEq

def Errno.code : Errno → Int
  | noEntry => 2
  | busy => 16
  | notDirectory => 20
  | isDirectory => 21
  | invalid => 22
  | nameTooLong => 36
  | linkLoop => 40
  | tooLarge => 75

def Errno.message : Errno → String
  | noEntry => "No such file or directory"
  | busy => "Device or resource busy"
  | notDirectory => "Not a directory"
  | isDirectory => "Is a directory"
  | invalid => "Invalid argument"
  | nameTooLong => "File name too long"
  | linkLoop => "Too many levels of symbolic links"
  | tooLarge => "Value too large for defined data type"

/-- A refusal of the operating system. -/
structure OsError where
  /-- The class it was raised under, where that does not follow from the number. -/
  kind : Option String
  errno : Option Int
  text : String
  /-- The paths it is about: none, one, or a source and a target. -/
  paths : List String
  deriving Repr, DecidableEq

namespace OsError

def ofErrno (errno : Errno) (paths : List String) : OsError :=
  ⟨none, some errno.code, errno.message, paths⟩

def numbered (errno : Int) (text : String) : OsError :=
  ⟨none, some errno, text, []⟩

def classOfErrno (errno : Int) : String :=
  if errno = 1 ∨ errno = 13 then "PermissionError"
  else if errno = 2 then "FileNotFoundError"
  else if errno = 3 then "ProcessLookupError"
  else if errno = 4 then "InterruptedError"
  else if errno = 10 then "ChildProcessError"
  else if errno = 11 ∨ errno = 114 ∨ errno = 115 then "BlockingIOError"
  else if errno = 17 then "FileExistsError"
  else if errno = 20 then "NotADirectoryError"
  else if errno = 21 then "IsADirectoryError"
  else if errno = 32 ∨ errno = 108 then "BrokenPipeError"
  else if errno = 103 then "ConnectionAbortedError"
  else if errno = 104 then "ConnectionResetError"
  else if errno = 110 then "TimeoutError"
  else if errno = 111 then "ConnectionRefusedError"
  else "OSError"

def particular : List String :=
  ["PermissionError", "FileNotFoundError", "ProcessLookupError", "InterruptedError",
   "ChildProcessError", "BlockingIOError", "FileExistsError", "NotADirectoryError",
   "IsADirectoryError", "BrokenPipeError", "ConnectionError", "ConnectionAbortedError",
   "ConnectionResetError", "TimeoutError", "ConnectionRefusedError"]

def general : List String := ["OSError", "IOError", "EnvironmentError"]

def className (e : OsError) : String :=
  match e.kind, e.errno with
  | some kind, _ => kind
  | none, some errno => classOfErrno errno
  | none, none => "OSError"

/-- The wording of a refusal: its number and text, then its paths. -/
def message (e : OsError) : String :=
  match e.errno with
  | none => e.text
  | some errno =>
    let paths := " -> ".intercalate (e.paths.map Quoted.quote)
    let about := if e.paths.isEmpty then "" else ": " ++ paths
    s!"[Errno {errno}] {e.text}{about}"

/-- The text of a refusal without its number and paths, where it has one. -/
def reason (e : OsError) : String :=
  if e.errno.isSome && e.text != "" then e.text else e.message

end OsError

/-! ## Environment settings that were refused -/

/-- What is wrong with an environment setting. -/
inductive Complaint where
  | notInteger
  | integerTooLong
  | notNumber
  | belowMinimum
  | notPositive
  deriving Repr, DecidableEq

def Complaint.message : Complaint → String
  | notInteger => "Input should be a valid integer, unable to parse string as an integer"
  | integerTooLong => "Unable to parse input string as an integer, exceeded maximum size"
  | notNumber => "Input should be a valid number, unable to parse string as a number"
  | belowMinimum => "Input should be greater than or equal to 1"
  | notPositive => "Input should be greater than 0"

/-- A setting that was refused, by the name of its variable. -/
structure Rejected where
  name : String
  complaint : Complaint
  deriving Repr, DecidableEq

def Rejected.describe (problems : List Rejected) : String :=
  "; ".intercalate (problems.map fun p => p.name ++ ": " ++ p.complaint.message)

/-! ## Classes of exceptions -/

/-- A class of exceptions. A program may define one of its own, below those of the language and
under any name, so a class carries what it is a case of beside what it is called. -/
structure Kind where
  name : String
  /-- The classes of the language that it is, or descends from; the nearest first. -/
  lineage : List String
  deriving Repr, DecidableEq

namespace Kind

/-- The classes of the language that do not come right below `Exception`, in families: the classes
above a family, the nearest first, and its members. -/
def families : List (List String × List String) :=
  [([], ["BaseException"]),
   (["BaseException"],
    ["BaseExceptionGroup", "Exception", "GeneratorExit", "KeyboardInterrupt", "SystemExit"]),
   (["BaseExceptionGroup", "Exception", "BaseException"], ["ExceptionGroup"]),
   (["ArithmeticError", "Exception", "BaseException"],
    ["FloatingPointError", "OverflowError", "ZeroDivisionError"]),
   (["ImportError", "Exception", "BaseException"], ["ModuleNotFoundError"]),
   (["LookupError", "Exception", "BaseException"], ["IndexError", "KeyError"]),
   (["NameError", "Exception", "BaseException"], ["UnboundLocalError"]),
   (["RuntimeError", "Exception", "BaseException"], ["NotImplementedError", "RecursionError"]),
   (["SyntaxError", "Exception", "BaseException"], ["IndentationError"]),
   (["IndentationError", "SyntaxError", "Exception", "BaseException"], ["TabError"]),
   (["ValueError", "Exception", "BaseException"], ["UnicodeError"]),
   (["UnicodeError", "ValueError", "Exception", "BaseException"],
    ["UnicodeDecodeError", "UnicodeEncodeError", "UnicodeTranslateError"]),
   (["Warning", "Exception", "BaseException"],
    ["BytesWarning", "DeprecationWarning", "EncodingWarning", "FutureWarning", "ImportWarning",
     "PendingDeprecationWarning", "ResourceWarning", "RuntimeWarning", "SyntaxWarning",
     "UnicodeWarning", "UserWarning"])]

/-- The class of the language that has a name. -/
def named (name : String) : Kind :=
  ⟨name, name ::
    ((families.find? (·.2.contains name)).map (·.1)).getD ["Exception", "BaseException"]⟩

instance : Coe String Kind := ⟨named⟩

/-- Whether a class is the one that the language calls so, or descends from it. -/
def descendsFrom (k : Kind) (ancestor : String) : Bool :=
  k.lineage.contains ancestor

end Kind

/-! ## Faults -/

/-- What else can go wrong. -/
inductive Fault where
  | tooLong (e : TooLong)
  /-- A path or a variable of the process holds a null character. -/
  | embeddedNull
  | variableName
  | noName (path : String)
  /-- Key material is not as long as the key sizes ask. -/
  | keyMaterial (expected actual : Int)
  | readLength
  /-- A count is out of the range of those that can be addressed. -/
  | indexRange
  /-- So many bytes and what goes with them are more than can be addressed. -/
  | bufferRange
  /-- The machine has no room left. -/
  | noMemory
  | relayMissing
  | notAChoice (text set : String)
  | unknownLevel (name : String)
  | unusableLevel (shown : String)
  | sealed (field : String)
  | overflow
  /-- A time is too far away for the system to count to it. -/
  | timeRange
  | yearRange
  | noAttribute (kind name : String)
  /-- A process was to be forked on a system that cannot. -/
  | noFork
  | notSerializable (kind : String)
  | stopped
  /-- What ends an iteration was raised inside the service loop, where it means something else. -/
  | iterationEnded
  /-- An engine or a plugin raised something of its own. What it derives from a report or from a
  refusal of the system is not meant: that is such a report or refusal. -/
  | raised (kind : Kind) (text : String)
  deriving Repr, DecidableEq

def Fault.className : Fault → String
  | unusableLevel _ | notSerializable _ => "TypeError"
  | sealed _ => "FrozenInstanceError"
  | overflow | timeRange | yearRange | indexRange | bufferRange => "OverflowError"
  | noMemory => "MemoryError"
  | iterationEnded => "RuntimeError"
  | noAttribute _ _ | noFork => "AttributeError"
  | stopped => "StopLoop"
  | raised kind _ => kind.name
  | _ => "ValueError"

def Fault.message : Fault → String
  | tooLong e => e.message
  | embeddedNull => "embedded null byte"
  | variableName => "illegal environment variable name"
  | noName path => s!"PosixPath({Quoted.quote path}) has an empty name"
  | keyMaterial expected actual => s!"expected {expected} bytes of key material, got {actual}"
  | readLength => "read length must be non-negative or -1"
  | indexRange => "cannot fit 'int' into an index-sized integer"
  | bufferRange => "byte string is too large"
  | noMemory => ""
  | relayMissing => "TCP relay is enabled but no relay server was given"
  | notAChoice text set => s!"{Quoted.quote text} is not a valid {set}"
  | unknownLevel name => s!"Unknown level: {Quoted.quote name}"
  | unusableLevel shown => s!"Level not an integer or a valid string: {shown}"
  | sealed field => s!"cannot assign to field {Quoted.quote field}"
  | overflow => "int too large to convert to float"
  | timeRange => "timestamp out of range for platform time_t"
  | yearRange => "signed integer is greater than maximum"
  | noAttribute kind name => s!"'{kind}' object has no attribute '{name}'"
  | noFork => "module 'os' has no attribute 'fork'"
  | notSerializable kind => s!"Object of type {kind} is not JSON serializable"
  | stopped => "stopped"
  | iterationEnded => "coroutine raised StopIteration"
  | raised _ text => text

/-- Why an operation ended early. -/
inductive Failure where
  | report (r : Report)
  | os (e : OsError)
  | undecodable (e : Utf8.Malformed)
  | settings (problems : List Rejected)
  | fault (f : Fault)

namespace Failure

/-- The class of a failure. -/
def className : Failure → String
  | report r => r.stage.className
  | os e => e.className
  | undecodable _ => "UnicodeDecodeError"
  | settings _ => "ValidationError"
  | fault f => f.className

/-- The wording of a failure. -/
def message : Failure → String
  | report r => r.message
  | os e => e.message
  | undecodable e => e.message
  | settings problems => Rejected.describe problems
  | fault f => f.message

/-- Whether a stage of the daemon reported the failure. -/
def isReport : Failure → Bool
  | report _ => true
  | _ => false

def isOs : Failure → Bool
  | os _ => true
  | _ => false

/-- Whether something was raised that is, or descends from, a class of the language. -/
def hasRaised (ancestor : String) : Failure → Bool
  | fault (.raised kind _) => kind.descendsFrom ancestor
  | _ => false

/-- Whether the failure is a report of a given stage. -/
def isReportOf (stage : Stage) : Failure → Bool
  | report r => r.stage == stage
  | _ => false

/-- The report that a stage files. A number takes the place of its message, and its text becomes
what the report is about. -/
def ofStage (stage : Stage) (text : String) (number : Option Int) : Report :=
  let message := (number.map toString).getD text
  let about : Value := if number.isSome then .str text else .null
  match stage with
  | .config | .identity => .aboutFile stage message about
  | .value =>
    let named := if about.truthy then [("field", about)] else []
    ⟨stage, message, .table named, [("field", about), ("value", .null)]⟩
  | _ => .withDetails stage message about

/-- The failure that an engine, a plugin or the system raises under a class name. A number belongs
to a refusal of the system; elsewhere it is worded together with the text. A missing key is worded
with quotes. -/
def ofClass (kind text : String) (number : Option Int) : Failure :=
  match Stage.ofClass? kind with
  | some stage => report (ofStage stage text number)
  | none =>
    if OsError.general.contains kind then os ⟨none, number, text, []⟩
    else if OsError.particular.contains kind then os ⟨some kind, number, text, []⟩
    else fault <| .raised kind <|
      match number with
      | some n => s!"({n}, {Quoted.quote text})"
      | none => if kind == "KeyError" then Quoted.quote text else text

end Failure

/-- An operation on an integer that may be too long, as one that may fail. -/
def liftTooLong {α : Type} : Except TooLong α → Except Failure α
  | .ok a => .ok a
  | .error e => .error (.fault (.tooLong e))

end SeedNode

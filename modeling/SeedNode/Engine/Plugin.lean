import SeedNode.Engine.Interface
import SeedNode.Log.Record
import SeedNode.Text.Alphanumeric
import SeedNode.Text.Blank

/-!
# Engine plugins

An engine comes from an installed plugin. It is named directly, by a module and an attribute path
in it, or through an entry point, which is such a name that the plugin has registered. What the
path leads to must be a factory, or something that makes one.
-/

namespace SeedNode.Plugin

def source : String := "bootstrapd.network.engine"

/-- What a module or an attribute of it is. -/
inductive Object (τ : Type) where
  | factory (shown : String) (attributes : List (String × Object τ)) (f : Factory τ)
  /-- Something that makes an object when it is called, or fails. -/
  | maker (shown : String) (attributes : List (String × Object τ))
      (made : Except Failure (Object τ))
  | other (shown : String) (attributes : List (String × Object τ))

namespace Object

variable {τ : Type}

def shown : Object τ → String
  | factory shown _ _ | maker shown _ _ | other shown _ => shown

def attributes : Object τ → List (String × Object τ)
  | factory _ attributes _ | maker _ attributes _ | other _ attributes => attributes

/-- What an attribute path leads to, or the object and the name at which it breaks off. -/
def follow : List String → Object τ → Except (String × String) (Object τ)
  | [], o => .ok o
  | name :: rest, o =>
    match o.attributes.lookup name with
    | some next => follow rest next
    | none => .error (o.shown, name)

end Object

/-- An installed entry point. -/
structure EntryPoint where
  name : String
  value : String
  deriving Repr, DecidableEq

/-- Where engines can come from. -/
structure Registry (τ : Type) where
  entryPoints : List EntryPoint
  load : String → Except Failure (Object τ)

def failed (message : String) : Failure :=
  .report (.plain .network message)

/-! ## Direct references -/

def dotted (text : List Char) : List String :=
  (text.splitOn '.').map String.ofList

/-- Whether a failure says that a module is not there or cannot be imported. -/
def isImportFailure (e : Failure) : Bool :=
  e.hasRaised "ImportError"

/-- What a reference leads to: a module before the first colon, an attribute path after it. -/
def dereference {τ : Type} (registry : Registry τ) (reference : String) :
    Except Failure (Object τ) := do
  let moduleName := String.ofList (reference.toList.takeWhile (· != ':'))
  let path := (reference.toList.dropWhile (· != ':')).drop 1
  if moduleName = "" ∨ path = [] then
    throw (failed s!"Invalid engine reference '{reference}', expected 'module:attribute'")
  let found ← match registry.load moduleName with
    | .ok found => pure found
    | .error e =>
      throw (if isImportFailure e then
        failed s!"Couldn't import network engine module '{moduleName}': {e.message}" else e)
  match found.follow (dotted path) with
  | .ok target => return target
  | .error _ => throw (failed s!"Network engine '{reference}' not found")

/-! ## Entry points -/

/-- Whether a character may stand in the name of a module or an attribute. -/
def isWord (c : Char) : Bool :=
  c == '_' || Alphanumeric.isAlphanumeric c

/-- Whether what follows the path of an entry point is an optional list of extras in brackets. -/
def isExtras (text : List Char) : Bool :=
  match Blank.trimEnd Blank.isSeparator text with
  | [] => true
  | '[' :: rest => rest.getLast? == some ']' && !rest.contains '\n'
  | _ => false

/-- The module and the attribute path that an entry point names. -/
def EntryPoint.target? (e : EntryPoint) : Option (String × List String) :=
  let isPart (c : Char) : Bool := isWord c || c == '.'
  let text := e.value.toList
  let moduleName := text.takeWhile isPart
  let after := (text.dropWhile isPart).dropWhile Blank.isSeparator
  let (path, tail) := match after with
    | ':' :: rest =>
      let named := rest.dropWhile Blank.isSeparator
      if (named.takeWhile isPart).isEmpty then ([], after)
      else (named.takeWhile isPart, (named.dropWhile isPart).dropWhile Blank.isSeparator)
    | _ => ([], after)
  if moduleName = [] ∨ isExtras tail = false then none
  else some (String.ofList moduleName, (dotted path).filter (· != ""))

def EntryPoint.load {τ : Type} (registry : Registry τ) (e : EntryPoint) :
    Except Failure (Object τ) := do
  match e.target? with
  | none => throw (.fault (.noAttribute "NoneType" "group"))
  | some (moduleName, path) =>
    match (← registry.load moduleName).follow path with
    | .ok target => return target
    | .error (shown, name) =>
      throw (.fault (.raised "AttributeError" s!"{shown} has no attribute '{name}'"))

/-- The entry points with one left for each name: the last, in the place of the first. -/
def distinct : List EntryPoint → List EntryPoint
  | [] => []
  | e :: rest =>
    let last := (rest.filter (·.name == e.name)).getLast?.getD e
    last :: (distinct rest).filter (·.name != e.name)

/-! ## Loading -/

/-- Whether a failure was raised to end the process or a piece of code, not to tell of an error. -/
def isExit : Failure → Bool
  | .fault (.raised kind _) => !kind.descendsFrom "Exception"
  | _ => false

def instantiate {τ : Type} (name : String) (o : Object τ) : Except Failure (Factory τ) := do
  let made ← match o with
    | .maker _ _ made => made
    | _ => pure o
  match made with
  | .factory _ _ f => return f
  | _ => throw (failed s!"Network engine '{name}' doesn't provide an EngineFactory")

/-- The entry point to load: the one of a given name, or the only one. -/
def select (installed : List EntryPoint) (name : Option String) : Except Failure EntryPoint :=
  let available := distinct installed
  match name with
  | some wanted =>
    match available.find? (·.name == wanted) with
    | some e => .ok e
    | none => .error (failed s!"Network engine '{wanted}' is not installed")
  | none =>
    match available with
    | [] => .error (failed "No network engine installed (entry point group 'bootstrapd.engines')")
    | [e] => .ok e
    | _ =>
      let names := ", ".intercalate ((available.map (·.name)).mergeSort (· ≤ ·))
      .error (failed (s!"Several network engines installed ({names}), "
        ++ "set BOOTSTRAPD_NETWORK_ENGINE to pick one"))

/-- Loads the factory of engines that a name asks for: a reference if it has a colon, else the
name of an entry point. No name, or an empty one, asks for the only entry point there is. -/
def loadFactory {τ : Type} (registry : Registry τ) (name : Option String) : LogM (Factory τ) := do
  let asked := name.filter (· != "")
  let liftExcept {α : Type} (x : Except Failure α) : LogM α := match x with
    | .ok a => pure a
    | .error e => throw e
  match asked.filter fun n => n.toList.contains ':' with
  | some reference =>
    liftExcept (dereference registry reference >>= instantiate reference)
  | none =>
    let entry ← liftExcept (select registry.entryPoints asked)
    let found ← match entry.load registry with
      | .ok found => pure found
      | .error e =>
      throw (if isExit e then e
        else failed s!"Couldn't load network engine '{entry.name}': {e.message}")
    LogM.note Level.info source s!"Using network engine '{entry.name}' ({entry.value})"
    liftExcept (instantiate entry.name found)

end SeedNode.Plugin

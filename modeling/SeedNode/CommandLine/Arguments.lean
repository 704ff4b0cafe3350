import SeedNode.Log.Backend
import SeedNode.Text.DecimalDigit

/-!
# Arguments

The daemon takes four options. Each may be cut short as long as only one option begins so, and a
value may follow after an equals sign or as the next argument. Arguments are first sorted into
options and words, then acted on from left to right: help and version end the reading at once, and
what nothing can be done with is only complained of at the end.
-/

namespace SeedNode.CommandLine

/-- An option of the command line. -/
inductive Flag where
  | help
  | config
  | logBackend
  | version
  deriving Repr, DecidableEq

namespace Flag

/-- The spellings of options, in the order in which they are declared. -/
def spellings : List (String × Flag) :=
  [("-h", help), ("--help", help), ("--config", config), ("--log-backend", logBackend),
   ("--version", version)]

/-- An option with all its spellings, as messages call it. -/
def called (f : Flag) : String :=
  "/".intercalate ((spellings.filter (·.2 == f)).map (·.1))

def isLetter (c : Char) : Bool :=
  (spellings.lookup (String.ofList ['-', c])).isSome

end Flag

/-- What an argument is. -/
inductive Token where
  | word (text : String)
  /-- The mark after which every argument is a word. -/
  | mark
  /-- An option, in its short or long form, with the value that stands in the same argument. -/
  | flag (f : Flag) (short : Bool) (given : Option (List Char))
  | unknown (text : String)
  deriving Repr, DecidableEq

/-! ## Sorting -/

/-- An argument before its first equals sign, and the value behind the sign. -/
def splitEquals (text : List Char) : List Char × Option (List Char) :=
  match text.dropWhile (· != '=') with
  | [] => (text, none)
  | _ :: value => (text.takeWhile (· != '='), some value)

def isShort (spelling : String) : Bool :=
  spelling.length == 2

/-- The options that an argument may stand for, with their spellings. After two dashes any beginning
of an option stands for it. After one dash a short option takes what follows it for its value. -/
def candidates (text : List Char) : List (String × Token) :=
  match text with
  | '-' :: '-' :: _ =>
    let (start, given) := splitEquals text
    (Flag.spellings.filter fun s => start.isPrefixOf s.1.toList).map fun s =>
      (s.1, .flag s.2 (isShort s.1) given)
  | _ =>
    Flag.spellings.filterMap fun s =>
      if s.1.toList = text.take 2 then some (s.1, .flag s.2 true (some (text.drop 2)))
      else if text.isPrefixOf s.1.toList then some (s.1, .flag s.2 (isShort s.1) none)
      else none

/-- Whether an argument is a negative number rather than an option. The digits may be those of any
script, and the line of the number may be ended. -/
def isNegativeNumber (text : String) : Bool :=
  let line := match text.toList.reverse with
    | '\n' :: rest => rest.reverse
    | _ => text.toList
  match line with
  | '-' :: number =>
    match number.dropWhile DecimalDigit.isDecimal with
    | [] => number ≠ []
    | '.' :: fraction => fraction ≠ [] && fraction.all DecimalDigit.isDecimal
    | _ => false
  | _ => false

/-- What one argument before the mark is, or a complaint that it may be several options. An option
in full is never taken for the beginning of another. -/
def classify (text : String) : Except String Token :=
  let chars := text.toList
  let (start, given) := splitEquals chars
  let spelling := String.ofList start
  if chars = ['-'] || chars.head? != some '-' then .ok (.word text)
  else match Flag.spellings.lookup spelling with
    | some f => .ok (.flag f (isShort spelling) given)
    | none =>
      match candidates chars with
      | [(_, token)] => .ok token
      | [] =>
        .ok (if isNegativeNumber text || chars.contains ' ' then .word text else .unknown text)
      | several =>
        let spellings := ", ".intercalate (several.map (·.1))
        .error s!"ambiguous option: {text} could match {spellings}"

def tokens : List String → Except String (List Token)
  | [] => .ok []
  | "--" :: rest => .ok (.mark :: rest.map .word)
  | text :: rest => do
    let first ← classify text
    return first :: (← tokens rest)

/-! ## Acting -/

/-- What the arguments ask for, and what is left of them. -/
structure Asked where
  /-- What was given for the path of the settings file, if anything was. -/
  config : Option (Option String)
  backend : Option Backend
  /-- The arguments that nothing can be done with. -/
  extras : List String
  deriving Repr, DecidableEq

/-- What reading the arguments comes to. -/
inductive Request where
  | help
  | version
  | refused (message : String)
  /-- The daemon is to start. The option for its settings file may have been given no path. -/
  | start (config : Option String) (backend : Option Backend)
  deriving Repr, DecidableEq

/-- The value that stands in the same argument as its option. Two dashes, which elsewhere mark the
end of the options, are no value. -/
def joined (given : List Char) : Option String :=
  if given = ['-', '-'] then none else some (String.ofList given)

/-- Takes a value, or the lack of one, for an option that needs one. -/
def Asked.take (a : Asked) (f : Flag) (value : Option String) : Except String Asked :=
  match f, value with
  | .config, _ => .ok { a with config := some value }
  | .logBackend, none => .ok { a with backend := none }
  | .logBackend, some name =>
    match Backend.ofName name with
    | .ok backend => .ok { a with backend := some backend }
    | .error _ =>
      let choices := ", ".intercalate (Backend.all.map fun b => Quoted.quote b.name)
      .error (s!"argument {f.called}: invalid choice: {Quoted.quote name} "
        ++ s!"(choose from {choices})")
  | .help, _ | .version, _ => .ok a

/-- What is left of the value given to an option that takes none, if that is a fault. Behind a short
option, letters that are short options are options of their own, and they may use up the value. -/
def surplus (short : Bool) (given : List Char) : Option (List Char) :=
  let left := if short then given.dropWhile Flag.isLetter else given
  if left = [] ∧ given ≠ [] then none else some left

def Asked.finish (a : Asked) : Request :=
  match a.config with
  | none => .refused "the following arguments are required: --config"
  | some config =>
    if a.extras.isEmpty then .start config a.backend
    else .refused ("unrecognized arguments: " ++ " ".intercalate a.extras)

def act (a : Asked) : List Token → Request
  | [] => a.finish
  | .word text :: rest => act { a with extras := a.extras ++ [text] } rest
  | .unknown text :: rest => act { a with extras := a.extras ++ [text] } rest
  | .mark :: rest => act { a with extras := a.extras ++ ["--"] } rest
  | .flag f short given :: rest =>
    if f = .help ∨ f = .version then
      match given.bind (surplus short) with
      | some value =>
        let shown := Quoted.quote (String.ofList value)
        .refused s!"argument {f.called}: ignored explicit argument {shown}"
      | none => if f = .help then .help else .version
    else match given with
      | some value =>
        match a.take f (joined value) with
        | .ok a => act a rest
        | .error message => .refused message
      | none =>
        match rest with
        | .word value :: after =>
          match a.take f (some value) with
          | .ok a => act a after
          | .error message => .refused message
        | _ => .refused s!"argument {f.called}: expected one argument"

def read (arguments : List String) : Request :=
  match tokens arguments with
  | .ok sorted => act ⟨none, none, []⟩ sorted
  | .error message => .refused message

end SeedNode.CommandLine

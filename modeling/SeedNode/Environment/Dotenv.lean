import SeedNode.Environment.Variables
import SeedNode.Text.Blank

/-!
# Environment files

An environment file binds names to texts, one binding to a line. A value may be quoted, and then
may run over several lines: between double quotes escapes are decoded, between single quotes only
those of the quote and the backslash are. A value outside quotes ends at a blank followed by a
number sign. A line that is no binding is passed over. A name may stand without a value, and a
value may refer to earlier bindings and to the process environment. A mark of byte order at the
beginning of the file does not count.
-/

namespace SeedNode.Dotenv

/-- What an environment file binds a name to: a text, or nothing. -/
abbrev Bindings := List (String × Option String)

/-! ## Reading -/

def isInline (c : Char) : Bool :=
  Blank.isSeparator c && c != '\n' && c != '\r'

def endsLine (c : Char) : Bool :=
  c == '\n' || c == '\r'

/-- A text between quotes, whose opening quote has been read. A backslash takes the character after
it along, so a quote there belongs to the text. -/
def closing (mark : Char) : List Char → Option (List Char × List Char)
  | [] => none
  | c :: rest =>
    if c = mark then some ([], rest)
    else if c = '\\' then
      match rest with
      | [] => none
      | d :: rest => (closing mark rest).map fun found => (c :: d :: found.1, found.2)
    else (closing mark rest).map fun found => (c :: found.1, found.2)

/-- The character that a letter after a backslash stands for, between double quotes. -/
def escapes : List (Char × Char) :=
  [('\\', '\\'), ('\'', '\''), ('"', '"'), ('a', '\x07'), ('b', '\x08'), ('f', '\x0c'),
   ('n', '\n'), ('r', '\r'), ('t', '\t'), ('v', '\x0b')]

/-- Decodes the escapes of a table; other backslashes stay. -/
def unescape (table : List (Char × Char)) : List Char → List Char
  | [] => []
  | [c] => [c]
  | c :: d :: rest =>
    match c == '\\', table.lookup d with
    | true, some x => x :: unescape table rest
    | _, _ => c :: unescape table (d :: rest)

/-- The part of a value before a comment: up to the blanks before a number sign. -/
def beforeComment : List Char → List Char
  | [] => []
  | c :: rest =>
    if Blank.isSeparator c ∧ (rest.dropWhile Blank.isSeparator).head? = some '#' then []
    else c :: beforeComment rest

/-- The key at the front, or none before a comment. Where there is neither, the characters from
that place on. -/
def key (ahead : List Char) : Except (List Char) (Option String × List Char) :=
  match ahead with
  | '#' :: _ => .ok (none, ahead)
  | '\'' :: rest =>
    let name := rest.takeWhile (· != '\'')
    match rest.dropWhile (· != '\'') with
    | _ :: after => if name = [] then .error ahead else .ok (some (String.ofList name), after)
    | [] => .error ahead
  | _ =>
    let isKey (c : Char) : Bool := c != '=' && c != '#' && !Blank.isSeparator c
    let name := ahead.takeWhile isKey
    if name = [] then .error ahead
    else .ok (some (String.ofList name), ahead.dropWhile isKey)

/-- The value after an equals sign. A number sign behind blanks begins a comment even where no value
stands before it. -/
def value (ahead : List Char) : Except (List Char) (String × List Char) :=
  let start := ahead.dropWhile isInline
  let quoted (mark : Char) (table : List (Char × Char)) (rest : List Char) :
      Except (List Char) (String × List Char) :=
    match closing mark rest with
    | none => .error start
    | some (body, after) => .ok (String.ofList (unescape table body), after)
  match start with
  | '\'' :: rest => quoted '\'' (escapes.take 2) rest
  | '"' :: rest => quoted '"' escapes rest
  | _ =>
    let line := ahead.takeWhile (!endsLine ·)
    let text := Blank.trim Blank.isSeparator (beforeComment line)
    .ok (String.ofList text, ahead.dropWhile (!endsLine ·))

/-- The characters after the word that marks a binding for export, if it stands at the front. -/
def skipExport (ahead : List Char) : List Char :=
  let after := ahead.drop 6
  if "export".toList.isPrefixOf ahead && (after.head?.map isInline).getD false then
    after.dropWhile isInline
  else ahead

/-- The characters after an optional comment and the end of the line. -/
def lineEnd (ahead : List Char) : Except (List Char) (List Char) :=
  let commented := match ahead.dropWhile isInline with
    | '#' :: rest => rest.dropWhile (!endsLine ·)
    | _ => ahead
  match commented.dropWhile isInline with
  | [] => .ok []
  | c :: rest => if endsLine c then .ok rest else .error commented

/-- One binding, or none for a line that holds only a comment. -/
def binding (ahead : List Char) :
    Except (List Char) (Option (String × Option String) × List Char) := do
  let (name, after) ← key (skipExport ahead)
  let after := after.dropWhile isInline
  let (text, after) ← match after with
    | '=' :: rest => do
      let (text, after) ← value rest
      pure (some text, after)
    | _ => pure (none, after)
  let after ← lineEnd after
  return (name.map (·, text), after)

def skipLine (ahead : List Char) : List Char :=
  (ahead.dropWhile (!endsLine ·)).drop 1

/-- All bindings, in order. `fuel` bounds the number of lines. -/
def bindings : Nat → List Char → Bindings
  | 0, _ => []
  | fuel + 1, ahead =>
    match ahead.dropWhile Blank.isSeparator with
    | [] => []
    | ahead =>
      match binding ahead with
      | .ok (found, after) => found.toList ++ bindings fuel after
      | .error stuck => bindings fuel (skipLine stuck)

/-! ## References -/

/-- The pieces of a value: texts, and references to variables with the text that stands in for an
absent one. -/
inductive Piece where
  | text (c : Char)
  | reference (name fallback : String)
  deriving Repr, DecidableEq

/-- A reference whose opening brace has been read, and the characters after it. -/
def reference? (ahead : List Char) : Option (Piece × List Char) :=
  let isName (c : Char) : Bool := c != '\x7d' && c != ':'
  let name := String.ofList (ahead.takeWhile isName)
  match ahead.dropWhile isName with
  | '\x7d' :: after => some (.reference name "", after)
  | ':' :: '-' :: rest =>
    match rest.dropWhile (· != '\x7d') with
    | _ :: after => some (.reference name (String.ofList (rest.takeWhile (· != '\x7d'))), after)
    | [] => none
  | _ => none

/-- The pieces of a value. `fuel` bounds its length. -/
def piecesOf : Nat → List Char → List Piece
  | 0, _ => []
  | fuel + 1, ahead =>
    match ahead with
    | [] => []
    | '$' :: '\x7b' :: rest =>
      match reference? rest with
      | some (piece, after) => piece :: piecesOf fuel after
      | none => .text '$' :: piecesOf fuel ('\x7b' :: rest)
    | c :: rest => .text c :: piecesOf fuel rest

/-- The text of a piece: earlier bindings come before the process environment. -/
def Piece.resolve (environment : Variables) (known : Bindings) : Piece → String
  | text c => String.singleton c
  | reference name fallback =>
    match known.lookup name with
    | some bound => bound.getD ""
    | none => (environment.lookup name).getD fallback

/-- Bindings with their references replaced, each name once, where it was first bound. -/
def resolve (environment : Variables) (found : Bindings) : Bindings :=
  found.foldl (fun known entry =>
    let text := entry.2.map fun v =>
      String.join ((piecesOf v.length v.toList).map (Piece.resolve environment known))
    Variables.bind entry.1 text known) []

/-- A carriage return, alone or before a line feed, counts as a line feed. -/
def unifyLines : List Char → List Char
  | '\r' :: '\n' :: rest => '\n' :: unifyLines rest
  | '\r' :: rest => '\n' :: unifyLines rest
  | c :: rest => c :: unifyLines rest
  | [] => []

/-- A text without the mark of byte order that it may begin with. -/
def withoutMark : List Char → List Char
  | '\uFEFF' :: rest => rest
  | text => text

/-- What an environment file binds, for a process with the given environment. -/
def read (environment : Variables) (content : List Char) : Bindings :=
  let text := unifyLines (withoutMark content)
  resolve environment (bindings (text.length + 1) text)

end SeedNode.Dotenv

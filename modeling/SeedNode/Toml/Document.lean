import SeedNode.Toml.Item

/-!
# Settings documents

A document is a sequence of statements, one to a line: a pair of key and value, a header that
declares a table, or a header that adds a table to an array. Reading goes once from left to right
and stops at the first problem.
-/

namespace SeedNode.Toml

/-- What has been read of a document. -/
structure Draft where
  root : Table
  marks : Marks
  header : Key

namespace Draft

def empty : Draft := ⟨[], .empty, []⟩

def openTable (d : Draft) (key : Key) (ahead : List Char) : Except Stop Draft :=
  if d.marks.isDeclared key || d.marks.isFrozen key then stop (.declaredTwice key) ahead
  else match alter true some key d.root with
    | none => stop .overwrite ahead
    | some root => .ok ⟨root, d.marks.declare key, key⟩

/-- Adds a table to an array of tables. What was known about the previous one is forgotten. -/
def openElement (d : Draft) (key : Key) (ahead : List Char) : Except Stop Draft :=
  if d.marks.isFrozen key then stop (.immutable key) ahead
  else match alter true (addElement (key.getLast?.getD "")) key.dropLast d.root with
    | none => stop .overwrite ahead
    | some root => .ok ⟨root, (d.marks.clear key).declare key, key⟩

/-- The tables that a dotted key runs through below the current header, as absolute keys. -/
def through (d : Draft) (key : Key) : List Key :=
  (List.range (key.length - 1)).map fun n => d.header ++ key.take (n + 1)

/-- Gives a key of the current table its value. -/
def assign (d : Draft) (key : Key) (v : Value) (ahead : List Char) : Except Stop Draft := do
  let parent := d.header ++ key.dropLast
  match (d.through key).find? d.marks.isDeclared with
  | some taken => stop (.redefined taken) ahead
  | none =>
    let marks := (d.through key).foldl Marks.defer d.marks
    if marks.isFrozen parent then stop (.immutable parent) ahead
    else match alter true (addEntry (key.getLast?.getD "") v) parent d.root with
      | none => stop .overwrite ahead
      | some root =>
        let marks := match v with
          | .table _ | .list _ => marks.freeze (d.header ++ key)
          | _ => marks
        return ⟨root, marks, d.header⟩

end Draft

/-- A header, from its first bracket. -/
def headerLine (d : Draft) (ahead : List Char) : Except Stop (Draft × List Char) := do
  let d := { d with marks := d.marks.settle }
  match ahead with
  | '[' :: '[' :: rest =>
    let (key, after) ← readKey (skipBlanks rest)
    let d ← d.openElement key after
    match after with
    | ']' :: ']' :: rest => return (d, rest)
    | _ => stop .arrayTail after
  | _ =>
    let (key, after) ← readKey (skipBlanks (ahead.drop 1))
    let d ← d.openTable key after
    match after with
    | ']' :: rest => return (d, rest)
    | _ => stop .tableTail after

/-- One statement, or none before a comment. -/
def statement (d : Draft) (ahead : List Char) : Except Stop (Draft × List Char) := do
  match ahead with
  | [] => return (d, [])
  | c :: _ =>
    if isBare c || c == '"' || c == '\'' then
      let ((key, v), after) ← readPair ahead
      return (← d.assign key v after, skipBlanks after)
    else if c = '[' then
      let (d, after) ← headerLine d ahead
      return (d, skipBlanks after)
    else if c = '#' then return (d, ahead)
    else stop .invalidStatement ahead

/-- All statements ahead. `fuel` bounds the number of lines. -/
def statements : Nat → Draft → List Char → Except Stop Table
  | 0, d, _ => .ok d.root
  | fuel + 1, d, ahead => do
    match skipBlanks ahead with
    | [] => return d.root
    | '\n' :: rest => statements fuel d rest
    | ahead =>
      let (d, after) ← statement d ahead
      match ← skipComment after with
      | [] => return d.root
      | '\n' :: rest => statements fuel d rest
      | rest => stop .statementTail rest

/-- A carriage return before a line feed does not count. -/
def unifyLines : List Char → List Char
  | '\r' :: '\n' :: rest => '\n' :: unifyLines rest
  | c :: rest => c :: unifyLines rest
  | [] => []

/-- Why a document was refused: a problem at a place, or an integer over the limit. -/
inductive Refusal where
  | malformed (message : String)
  | tooLong (digits : Nat)
  deriving Repr, DecidableEq

def parse (text : List Char) : Except Refusal Table :=
  let document := unifyLines text
  match statements (document.length + 1) .empty document with
  | .ok root => .ok root
  | .error (.syntaxAt complaint ahead) =>
    .error (.malformed s!"{complaint.message} ({place document ahead})")
  | .error (.tooLong digits) => .error (.tooLong digits)

end SeedNode.Toml

import SeedNode.Toml.Problem
import SeedNode.Value

/-!
# Tables under construction

Two kinds of marks keep a document from saying a thing twice: a table that has been declared, and
a value written in one piece, which freezes everything below it. `alter` changes the table that a
key leads to, making tables on the way and going through the last element of an array of tables.
-/

namespace SeedNode.Toml

/-- The marks set so far, by absolute key. -/
structure Marks where
  /-- The tables that may not be declared again. -/
  declared : List Key
  /-- The values that may not be changed, nor anything below them. -/
  frozen : List Key
  /-- The tables that will count as declared from the next header on. -/
  pending : List Key
  deriving Repr, DecidableEq

namespace Marks

def empty : Marks := ⟨[], [], []⟩

def isDeclared (m : Marks) (key : Key) : Bool :=
  m.declared.contains key

/-- Whether a key is a frozen value or lies below one. -/
def isFrozen (m : Marks) (key : Key) : Bool :=
  m.frozen.any fun frozen => frozen.isPrefixOf key

def declare (m : Marks) (key : Key) : Marks :=
  { m with declared := key :: m.declared }

def freeze (m : Marks) (key : Key) : Marks :=
  { m with frozen := key :: m.frozen }

def clear (m : Marks) (key : Key) : Marks :=
  { m with
    declared := m.declared.filter fun other => !key.isPrefixOf other
    frozen := m.frozen.filter fun other => !key.isPrefixOf other }

def defer (m : Marks) (key : Key) : Marks :=
  { m with pending := key :: m.pending }

def settle (m : Marks) : Marks :=
  { m with declared := m.pending ++ m.declared, pending := [] }

end Marks

def replace (name : String) (v : Value) (t : Table) : Table :=
  t.map fun entry => if entry.1 = name then (name, v) else entry

/-- Changes the table that a key leads to. None if something other than a table is in the way, or
if the change itself is refused. -/
def alter (throughArrays : Bool) (change : Table → Option Table) : Key → Table → Option Table
  | [], t => change t
  | name :: rest, t =>
    match t.lookup name with
    | none => do
      let below ← alter throughArrays change rest []
      return t ++ [(name, .table below)]
    | some (.table below) => do
      let below ← alter throughArrays change rest below
      return replace name (.table below) t
    | some (.list items) =>
      match throughArrays, items.getLast? with
      | true, some (.table below) => do
        let below ← alter throughArrays change rest below
        return replace name (.list (items.dropLast ++ [.table below])) t
      | _, _ => none
    | some _ => none

def addEntry (name : String) (v : Value) (t : Table) : Option Table :=
  if (t.lookup name).isSome then none else some (t ++ [(name, v)])

/-- Adds an empty table to the array of tables under a name, or starts one. -/
def addElement (name : String) (t : Table) : Option Table :=
  match t.lookup name with
  | none => some (t ++ [(name, .list [.table []])])
  | some (.list items) => some (replace name (.list (items ++ [.table []])) t)
  | some _ => none

end SeedNode.Toml

import SeedNode.Log.Record

/-!
# Walking the seed list

A walk takes the entries out of the list one by one, first to last. At its first step it turns the
list around, so that each entry comes off the end; what is appended later is therefore taken next.
A walk that has found the list empty is over for good.
-/

namespace SeedNode.Seeds

def source : String := "bootstrapd.network.bootstrap"

def listName : String := "bootstrap_nodes"

/-- How far a walk has come. -/
inductive Walk where
  | fresh
  /-- Some entries have been taken; the next one has this index. -/
  | under (index : Nat)
  | ended
  deriving Repr, DecidableEq

def listIn (data : Table) : List Value :=
  match data.lookup listName with
  | some (.list nodes) => nodes
  | _ => []

def withList (nodes : List Value) (data : Table) : Table :=
  data.map fun entry => if entry.1 = listName then (listName, .list nodes) else entry

/-- What a step of a walk leaves. -/
structure Stepped where
  /-- The entry taken, with its index. -/
  taken : Option (Nat × Value)
  walk : Walk
  data : Table

/-- Takes the last entry of a list that has been turned around. -/
def takeLast (index : Nat) (nodes : List Value) (data : Table) : Stepped :=
  match nodes.getLast? with
  | none => ⟨none, .ended, data⟩
  | some node => ⟨some (index, node), .under (index + 1), withList nodes.dropLast data⟩

/-- One step of a walk. -/
def Walk.next (data : Table) : Walk → LogM Stepped
  | ended => return ⟨none, .ended, data⟩
  | under index => return takeLast index (listIn data) data
  | fresh => do
    match data.lookup listName with
    | none | some .null =>
      LogM.note Level.warning source
        "No 'bootstrap_nodes' setting in the configuration file. Skipping bootstrapping."
      return ⟨none, .ended, data⟩
    | some (.list (node :: rest)) => return takeLast 0 (node :: rest).reverse data
    | some _ =>
      LogM.note Level.warning source "No bootstrap nodes found. Skipping bootstrapping."
      return ⟨none, .ended, data⟩

def append (v : Value) (data : Table) : Table :=
  withList (listIn data ++ [v]) data

def prepend (v : Value) (data : Table) : Table :=
  withList (v :: listIn data) data

end SeedNode.Seeds

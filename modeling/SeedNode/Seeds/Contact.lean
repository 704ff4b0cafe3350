import SeedNode.Config.Resolve
import SeedNode.Seeds.Entry
import SeedNode.Seeds.Walk

/-!
# Contacting the seeds

Each entry of the seed list is taken out, checked and handed to the engine. An entry that cannot be
used is skipped with a warning that bears its index. A failure of the engine ends the walk and
leaves the entries that were not taken in the list.
-/

namespace SeedNode.Seeds

variable {τ : Type}

/-- What became of the entry at an index. -/
structure EntryResult where
  index : Nat
  /-- Why the entry was skipped, if it was. -/
  skipped : Option String
  deriving Repr, DecidableEq

/-- What became of all entries, in order. -/
structure SeedReport where
  results : List EntryResult
  deriving Repr, DecidableEq

namespace SeedReport

def added (r : SeedReport) : Nat :=
  r.results.countP (·.skipped.isNone)

def skipped (r : SeedReport) : Nat :=
  r.results.countP (·.skipped.isSome)

end SeedReport

/-- Code that works on a settings table in a session; the table is kept when it fails. -/
abbrev SeedM (τ : Type) := ExceptT Failure (StateT Table (StateM (Session τ)))

/-- Checks an entry and hands it to the engine. -/
def contact (engine : Engine τ) (ipv6 : Bool) (index : Nat) (node : Value) :
    SessionM τ EntryResult := do
  match ← SessionM.ofExcept (validate node engine.publicKeySize) with
  | .skipped reason => return ⟨index, some reason⟩
  | .accepted e =>
    let call := .bootstrap e.address ipv6 e.port e.publicKeyBytes
    if ← SessionM.ask call engine.bootstrap then
      SessionM.note Level.info source
        s!"Successfully added bootstrap node #{index}: {e.address}:{e.port} {e.publicKey}"
      return ⟨index, none⟩
    else return ⟨index, some s!"Invalid 'address': {e.address}"⟩

def advance (walk : Walk) : SeedM τ (Option (Nat × Value) × Walk) := do
  let stepped ← (SessionM.onLog (walk.next (← get))).within
  set stepped.data
  return (stepped.taken, stepped.walk)

/-- Contacts the seeds that a walk still takes. `fuel` bounds their number. -/
def contactFrom (engine : Engine τ) (ipv6 : Bool) : Nat → Walk → SeedM τ (List EntryResult)
  | 0, _ => return []
  | fuel + 1, walk => do
    match ← advance walk with
    | (none, _) => return []
    | (some (index, node), walk) =>
      let result ← (contact engine ipv6 index node).within
      match result.skipped with
      | some reason =>
        (SessionM.note Level.warning source
          s!"Bootstrap node #{index}: {reason}. Skipping the node.").within
      | none => pure ()
      return result :: (← contactFrom engine ipv6 fuel walk)

/-- Contacts the seeds in a settings table. -/
def contactAll (engine : Engine τ) (ipv6 : Bool) : SeedM τ SeedReport := do
  let data ← get
  return ⟨← contactFrom engine ipv6 ((listIn data).length + 1) .fresh⟩

/-- Contacts the seeds in the settings file at a path, which is read anew. -/
def contactFile (path : Path) (engine : Engine τ) (ipv6 : Bool) : SessionM τ SeedReport := do
  let data ← SessionM.onFiles (FileM.ask (Config.readTable path))
  let report ← ExceptT.mk do
    let (result, _) ← (contactAll engine ipv6).run.run data
    return result
  SessionM.note Level.info source
    s!"List of bootstrap nodes read successfully: {report.added} added, {report.skipped} skipped."
  return report

end SeedNode.Seeds

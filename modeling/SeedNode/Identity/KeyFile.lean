import SeedNode.Files.Tree
import SeedNode.Identity.Keypair

/-!
# Key files

A key file holds the stored form of a keypair. Reading takes one byte more than the file should
hold, so a file that is too long is noticed. Writing goes to a temporary sibling, which replaces
the key file only when it is complete and is taken away when anything fails.
-/

namespace SeedNode.KeyFile

/-- What the system may refuse while a key file is written, and how much it stores. Taking the
temporary file away again is refused only for what is there: a directory, or a path that does not
lead to a file. -/
structure Faults where
  opening : Option OsError
  syncing : Option OsError
  replacing : Option OsError
  /-- The number of bytes that a short write stores. -/
  stored : Option Nat
  deriving Repr, DecidableEq

/-- Nothing fails but what the files themselves make fail. -/
def Faults.none : Faults := ⟨.none, .none, .none, .none⟩

/-- Fails if the system refuses. -/
def permit : Option OsError → FileM Unit
  | none => pure ()
  | some e => throw (.os e)

/-- The mode of a key file: for its owner alone. -/
def mode : Nat := 0o600

/-- A failure of the key file at a path. -/
def failed (message : String) (path : Path) : Failure :=
  .report (.aboutFile .identity message (.str path.text))

/-! ## Reading -/

/-- Counts are addressed by words of 64 bits. -/
def indexLimit : Int := 0x8000_0000_0000_0000

/-- What goes with the bytes of a buffer takes room as well. -/
def bufferOverhead : Int := 33

/-- At most as many bytes as are asked for; all of them for minus one. A buffer of that many is
needed first, even if the content is shorter, and there may be no room for it. -/
def readAtMost (room : Nat) (count : Int) (content : Bytes) : Except Failure Bytes :=
  if count = -1 then .ok content
  else if count < -indexLimit ∨ indexLimit ≤ count then .error (.fault .indexRange)
  else if count < 0 then .error (.fault .readLength)
  else if indexLimit ≤ count + bufferOverhead then .error (.fault .bufferRange)
  else if room < count then .error (.fault .noMemory)
  else .ok (content.take count.toNat)

/-- Reads a key file, with room for a buffer of so many bytes. -/
def loadWithin (room : Nat) (path : Path) (sizes : KeySizes) : FileM Keypair := do
  let content ←
    try FileM.ask fun t => t.read path
    catch e =>
      if e.isOs then throw (failed s!"Couldn't read keys file: {e.message}" path) else throw e
  let data ← FileM.ask fun _ => readAtMost room (sizes.total + 1) content
  if (data.length : Int) ≠ sizes.total then
    let more := if sizes.total < data.length then "+" else ""
    throw (failed
      s!"Keys file has the wrong size: expected {sizes.total} bytes, got {data.length}{more}" path)
  FileM.ask fun _ => (Keypair.ofBytes data sizes).mapError .fault

/-- Reads a key file, with room for all that can be addressed. -/
def load (path : Path) (sizes : KeySizes) : FileM Keypair :=
  loadWithin KeySizes.addressable path sizes

/-! ## Writing -/

/-- The temporary sibling of a path. -/
def sibling (path : Path) : Except Failure Path :=
  path.withName ("." ++ path.name ++ ".tmp")

/-- Makes a file empty, or new, and writes to it: the number of bytes stored. -/
def write (faults : Faults) (path : Path) (data : Bytes) : FileM Nat := do
  permit faults.opening
  let (loc, tree) ← FileM.ask fun t => t.openForWriting path mode
  let kept := match faults.stored with
    | none => data
    | some n => data.take n
  set (tree.setContent loc kept)
  permit faults.syncing
  return kept.length

/-- Takes away the temporary file, if there is one. -/
def discard (temp : Path) : FileM Unit := do
  try FileM.change fun t => t.remove temp
  catch e =>
    match e with
    | .os refused => if refused.errno = some Errno.noEntry.code then pure () else throw e
    | _ => throw e

/-- Writes the temporary file and puts it in the place of the key file. -/
def replace (faults : Faults) (temp path : Path) (data : Bytes) : FileM Unit := do
  let written ← write faults temp data
  if written ≠ data.length then
    throw (failed s!"Short write to keys file: {written} of {data.length} bytes" path)
  permit faults.replacing
  FileM.change fun t => t.rename temp path

def save (faults : Faults) (keypair : Keypair) (path : Path) : FileM Unit := do
  let temp ← FileM.ask fun _ => sibling path
  try replace faults temp path keypair.toBytes
  catch e =>
    if e.isOs then do
      discard temp
      throw (failed s!"Couldn't write keys file: {e.message}" path)
    else if e.isReport then do
      discard temp
      throw e
    else throw e

end SeedNode.KeyFile

import SeedNode.Identity.KeyFile
import SeedNode.Session

/-!
# Establishing the identity

A node keeps its keypair for life. It is read from the key file if there is one; else it is
generated and stored there, and an existing key file is never written to.
-/

namespace SeedNode.Identity

def source : String := "bootstrapd.identity.keys"

/-- The keypair of the node, read from its key file or generated and stored there. -/
def establish {τ : Type} (faults : KeyFile.Faults) (path : Path) (sizes : KeySizes)
    (generate : Answer τ Keypair) : SessionM τ Keypair := do
  if ← SessionM.onFiles (FileM.ask fun t => t.pathExists path) then
    let keypair ← SessionM.onFiles (KeyFile.load path sizes)
    SessionM.note Level.info source s!"Loaded keys from {path}"
    return keypair
  else
    let keypair ← SessionM.ask .generateKeypair generate
    if keypair.fits sizes = false then
      throw (KeyFile.failed "Generated keypair doesn't match the expected key sizes" path)
    SessionM.onFiles (KeyFile.save faults keypair path)
    SessionM.note Level.info source s!"Generated new keys and saved them to {path}"
    return keypair

end SeedNode.Identity

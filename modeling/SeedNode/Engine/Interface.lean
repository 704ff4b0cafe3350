import SeedNode.Engine.Call

/-!
# The network engine

The daemon drives an engine that it does not contain. A factory makes the engine; the engine joins
the network, answers peers and may offer a relay. Each operation is known by how it answers.
-/

namespace SeedNode

/-- A relay for peers that cannot be reached directly. -/
structure Relay (τ : Type) where
  iterate : Answer τ Unit

/-- A network engine, bound to one port. -/
structure Engine (τ : Type) where
  publicKeySize : Int
  iterate : Answer τ Unit
  /-- Takes in the datagrams that wait. -/
  poll : Answer τ Unit
  /-- Contacts a node; false if its address is not known. -/
  bootstrap : Answer τ Bool
  connectionCount : Answer τ Int
  initLanDiscovery : Answer τ Unit
  sendLanDiscovery : Answer τ Unit
  /-- Sets what peers are told; false if the engine refuses it. -/
  setMotd : Answer τ Bool
  /-- Starts a relay, or gives none. -/
  createRelay : Answer τ (Option (Relay τ))

/-- What makes an engine. -/
structure Factory (τ : Type) where
  sizes : KeySizes
  generateKeypair : Answer τ Keypair
  create : Answer τ (Engine τ)

end SeedNode

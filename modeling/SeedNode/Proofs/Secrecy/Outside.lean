import SeedNode.Engine.Plugin
import SeedNode.Proofs.Secrecy.Contents

/-!
# What lies outside and does not know the secret

Two runs of the daemon that differ in the secret key hand different keypairs to their engines. All
else that they ask should be the same, and an engine whose answers do not depend on the secret key
answers both alike. `Call.masked` is a call without the secret key, and `Answers` compares answers
to calls that are the same when masked. Everything that comes from outside is compared in this way:
relays, engines, factories, and the plugins where these are found.
-/

namespace SeedNode

variable {τ α β : Type}

/-! ## Keypairs and calls -/

/-- The same public key, and secret keys of the same length. -/
structure Keypair.Alike (k k' : Keypair) : Prop where
  publicKey : k'.publicKey = k.publicKey
  secretKey : k'.secretKey.length = k.secretKey.length

/-- A keypair with its secret key blotted out. -/
def Keypair.masked (k : Keypair) : Keypair :=
  ⟨k.publicKey, List.replicate k.secretKey.length 0⟩

namespace Keypair.Alike

variable {k k' : Keypair}

theorem masked (h : k.Alike k') : k'.masked = k.masked := by
  rw [Keypair.masked, Keypair.masked, h.publicKey, h.secretKey]

theorem shown (h : k.Alike k') : k'.shown = k.shown := by
  have hhex : k'.publicHex = k.publicHex := congrArg Hex.encodeUpper h.publicKey
  unfold Keypair.shown
  rw [hhex]

theorem length_toBytes (h : k.Alike k') : k'.toBytes.length = k.toBytes.length := by
  rw [Keypair.toBytes, Keypair.toBytes, List.length_append, List.length_append, h.publicKey,
    h.secretKey]

theorem fits (h : k.Alike k') (sizes : KeySizes) : k'.fits sizes = k.fits sizes := by
  rw [Keypair.fits, Keypair.fits, h.publicKey, h.secretKey]

end Keypair.Alike

/-- A call with the secret key in it blotted out. -/
def Call.masked : Call τ → Call τ
  | create keypair port ipv6 => create keypair.masked port ipv6
  | call => call

/-! ## Answers -/

/-- The answers agree where the calls before them differ in secret keys alone. -/
def Answers (S : α → β → Prop) (answer : Answer τ α) (answer' : Answer τ β) : Prop :=
  ∀ calls calls', calls'.map Call.masked = calls.map Call.masked →
    Agree S (answer calls) (answer' calls')

/-- Clocks that tell the same time where the calls differ in secret keys alone. -/
def Clock.Alike (clock clock' : Clock τ) : Prop :=
  ∀ calls calls', calls'.map Call.masked = calls.map Call.masked → clock' calls' = clock calls

structure Relay.Alike (relay relay' : Relay τ) : Prop where
  iterate : Answers Eq relay.iterate relay'.iterate

/-- Engines whose answers do not depend on the secret key. -/
structure Engine.Alike (engine engine' : Engine τ) : Prop where
  publicKeySize : engine'.publicKeySize = engine.publicKeySize
  iterate : Answers Eq engine.iterate engine'.iterate
  poll : Answers Eq engine.poll engine'.poll
  bootstrap : Answers Eq engine.bootstrap engine'.bootstrap
  connectionCount : Answers Eq engine.connectionCount engine'.connectionCount
  initLanDiscovery : Answers Eq engine.initLanDiscovery engine'.initLanDiscovery
  sendLanDiscovery : Answers Eq engine.sendLanDiscovery engine'.sendLanDiscovery
  setMotd : Answers Eq engine.setMotd engine'.setMotd
  createRelay : Answers (Option.Rel Relay.Alike) engine.createRelay engine'.createRelay

/-- Factories that generate alike keypairs and make alike engines of them. -/
structure Factory.Alike (factory factory' : Factory τ) : Prop where
  sizes : factory'.sizes = factory.sizes
  generateKeypair : Answers Keypair.Alike factory.generateKeypair factory'.generateKeypair
  create : Answers Engine.Alike factory.create factory'.create

/-! ## Plugins -/

namespace Plugin

/-- The same objects, but for the factories among them, which are alike. -/
inductive Object.Alike : Object τ → Object τ → Prop
  | factory (shown : String) {attributes attributes' : List (String × Object τ)}
      {f f' : Factory τ}
      (hattributes : ∀ name,
        Option.Rel Object.Alike (attributes.lookup name) (attributes'.lookup name))
      (hf : f.Alike f') : Alike (.factory shown attributes f) (.factory shown attributes' f')
  | maker (shown : String) {attributes attributes' : List (String × Object τ)}
      {made made' : Except Failure (Object τ)}
      (hattributes : ∀ name,
        Option.Rel Object.Alike (attributes.lookup name) (attributes'.lookup name))
      (hmade : Agree Object.Alike made made') :
      Alike (.maker shown attributes made) (.maker shown attributes' made')
  | other (shown : String) {attributes attributes' : List (String × Object τ)}
      (hattributes : ∀ name,
        Option.Rel Object.Alike (attributes.lookup name) (attributes'.lookup name)) :
      Alike (.other shown attributes) (.other shown attributes')

/-- The same plugins, but for the factories that they provide, which are alike. -/
structure Registry.Alike (registry registry' : Registry τ) : Prop where
  entryPoints : registry'.entryPoints = registry.entryPoints
  load : ∀ name, Agree Object.Alike (registry.load name) (registry'.load name)

variable {o o' : Object τ} {registry registry' : Registry τ}

theorem Object.Alike.shown (h : o.Alike o') : o'.shown = o.shown := by
  cases h <;> rfl

theorem Object.Alike.attributes (h : o.Alike o') (name : String) :
    Option.Rel Object.Alike (o.attributes.lookup name) (o'.attributes.lookup name) := by
  cases h with
  | factory _ hattributes => exact hattributes name
  | maker _ hattributes => exact hattributes name
  | other _ hattributes => exact hattributes name

theorem Object.Alike.follow (path : List String) (h : o.Alike o') :
    Agree Object.Alike (o.follow path) (o'.follow path) := by
  induction path generalizing o o' with
  | nil => exact .ok h
  | cons name rest ih =>
      have hnext := h.attributes name
      rw [Object.follow, Object.follow, h.shown]
      generalize o.attributes.lookup name = next at hnext ⊢
      generalize o'.attributes.lookup name = next' at hnext ⊢
      cases hnext with
      | none => exact .error _
      | some hnext => exact ih hnext

theorem Registry.Alike.dereference (h : registry.Alike registry') (reference : String) :
    Agree Object.Alike (dereference registry reference) (dereference registry' reference) := by
  simp only [Plugin.dereference]
  split
  · exact .error _
  have hload := h.load (String.ofList (reference.toList.takeWhile (· != ':')))
  generalize registry.load _ = loaded at hload ⊢
  generalize registry'.load _ = loaded' at hload ⊢
  cases hload with
  | error e => exact .error _
  | @ok found found' hfound =>
      have hfollow :=
        hfound.follow (dotted ((reference.toList.dropWhile (· != ':')).drop 1))
      simp only [pure_bind]
      generalize found.follow _ = led at hfollow ⊢
      generalize found'.follow _ = led' at hfollow ⊢
      cases hfollow with
      | error e => exact .error _
      | ok htarget => exact .ok htarget

theorem Registry.Alike.loadEntry (h : registry.Alike registry') (e : EntryPoint) :
    Agree Object.Alike (e.load registry) (e.load registry') := by
  rw [EntryPoint.load, EntryPoint.load]
  split
  · exact .error _
  · refine (h.load _).bind fun found found' hfound => ?_
    have hfollow := hfound.follow ‹_›
    generalize found.follow _ = led at hfollow ⊢
    generalize found'.follow _ = led' at hfollow ⊢
    cases hfollow with
    | error e => exact .error _
    | ok htarget => exact .ok htarget

theorem Object.Alike.instantiate (h : o.Alike o') (name : String) :
    Agree Factory.Alike (instantiate name o) (instantiate name o') := by
  cases h with
  | maker shown hattributes hmade =>
      cases hmade with
      | error e => exact .error e
      | ok hmade =>
          cases hmade with
          | factory shown hattributes hf => exact .ok hf
          | maker shown hattributes hmade => exact .error _
          | other shown hattributes => exact .error _
  | factory shown hattributes hf => exact .ok hf
  | other shown hattributes => exact .error _

/-- The same records are made, and the factories found are alike. -/
theorem Registry.Alike.loadFactory (h : registry.Alike registry') (name : Option String) :
    Matches Eq Factory.Alike (loadFactory registry name) (loadFactory registry' name) := by
  simp only [Plugin.loadFactory]
  split
  · rename_i reference _
    have hfactory := (h.dereference reference).bind fun _ _ ho => ho.instantiate reference
    generalize Plugin.dereference registry reference >>= _ = x at hfactory ⊢
    generalize Plugin.dereference registry' reference >>= _ = x' at hfactory ⊢
    cases hfactory with
    | error e => exact .throw e
    | ok hf => exact .pure hf
  · rw [h.entryPoints]
    cases select registry.entryPoints (name.filter (· != "")) with
    | error e => exact .throw e
    | ok entry =>
        have hload := h.loadEntry entry
        simp only [pure_bind]
        generalize entry.load registry = loaded at hload ⊢
        generalize entry.load registry' = loaded' at hload ⊢
        cases hload with
        | error e => exact .throw _
        | @ok found found' hfound =>
            have hfactory := hfound.instantiate entry.name
            refine (Matches.same _).bind fun _ _ _ => ?_
            generalize Plugin.instantiate entry.name found = x at hfactory ⊢
            generalize Plugin.instantiate entry.name found' = x' at hfactory ⊢
            cases hfactory with
            | error e => exact .throw e
            | ok hf => exact .pure hf

end Plugin

/-! ## Sessions -/

/-- Sessions that differ in files, where these are related by `Q`, and in the secret keys that were
handed to engines. -/
structure Session.Alike (Q : Tree → Tree → Prop) (s s' : Session τ) : Prop where
  files : Q s.files s'.files
  environment : s'.environment = s.environment
  settings : s'.settings = s.settings
  calls : s'.calls.map Call.masked = s.calls.map Call.masked
  log : s'.log = s.log
  logging : s'.logging = s.logging
  outlets : s'.outlets = s.outlets

namespace Session.Alike

variable {Q Q' : Tree → Tree → Prop} {s s' : Session τ}

theorem withFiles (h : s.Alike Q s') {t t' : Tree} (ht : Q' t t') :
    Session.Alike Q' { s with files := t } { s' with files := t' } :=
  ⟨ht, h.environment, h.settings, h.calls, h.log, h.logging, h.outlets⟩

theorem mono (hQ : ∀ t t', Q t t' → Q' t t') (h : s.Alike Q s') : s.Alike Q' s' :=
  h.withFiles (hQ _ _ h.files)

theorem addCall (h : s.Alike Q s') {call call' : Call τ} (hcall : call'.masked = call.masked) :
    (s.addCall call).Alike Q (s'.addCall call') := by
  refine ⟨h.files, h.environment, h.settings, ?_, h.log, h.logging, h.outlets⟩
  simp only [Session.addCall, List.map_append, h.calls, List.map_cons, List.map_nil, hcall]

theorem addRecord (h : s.Alike Q s') (r : Record) :
    (s.addRecord r).Alike Q (s'.addRecord r) := by
  refine ⟨h.files, h.environment, h.settings, h.calls, ?_, ?_, h.outlets⟩
  · simp only [Session.addRecord, h.log]
  · simp only [Session.addRecord, h.logging, h.outlets]

theorem addRecords (records : List Record) (h : s.Alike Q s') :
    (records.foldl Session.addRecord s).Alike Q (records.foldl Session.addRecord s') := by
  induction records generalizing s s' with
  | nil => exact h
  | cons r rest ih => exact ih (h.addRecord r)

end Session.Alike

/-! ## Code of a session -/

namespace Matches

variable {Q : Tree → Tree → Prop} {S : α → β → Prop}

theorem fileAsk {f : Tree → Except Failure α} {g : Tree → Except Failure β}
    (h : ∀ t t', Q t t' → Agree S (f t) (g t')) : Matches Q S (FileM.ask f) (FileM.ask g) := by
  intro t t' ht
  rw [run_fileAsk, run_fileAsk]
  exact ⟨h t t' ht, ht⟩

theorem fileChange {f g : Tree → Except Failure Tree}
    (h : ∀ t t', Q t t' → Agree Q (f t) (g t')) :
    Matches Q Eq (FileM.change f) (FileM.change g) := by
  intro t t' ht
  have hchanged := h t t' ht
  rw [run_fileChange, run_fileChange]
  generalize f t = r at hchanged ⊢
  generalize g t' = r' at hchanged ⊢
  cases hchanged with
  | ok ht' => exact ⟨.ok rfl, ht'⟩
  | error e => exact ⟨.error e, ht⟩

theorem onFiles {x : FileM α} {y : FileM β} (h : Matches Q S x y) :
    Matches (@Session.Alike τ Q) S (SessionM.onFiles x) (SessionM.onFiles y) := by
  intro s s' hs
  obtain ⟨hagree, hfiles⟩ := h s.files s'.files hs.files
  rw [run_onFiles, run_onFiles]
  exact ⟨hagree, hs.withFiles hfiles⟩

theorem onLog {x : LogM α} {y : LogM β} (h : Matches Eq S x y) :
    Matches (@Session.Alike τ Q) S (SessionM.onLog x) (SessionM.onLog y) := by
  intro s s' hs
  obtain ⟨hagree, hrecords⟩ := h [] [] rfl
  rw [run_onLog, run_onLog, hrecords]
  exact ⟨hagree, hs.addRecords _⟩

theorem note (level : Level) (source message : String) :
    Matches (@Session.Alike τ Q) Eq (SessionM.note level source message)
      (SessionM.note level source message) :=
  fun _ _ hs => ⟨.of_eq rfl, hs.addRecord _⟩

theorem ofExcept {r : Except Failure α} {r' : Except Failure β} (h : Agree S r r') :
    Matches (@Session.Alike τ Q) S (SessionM.ofExcept r) (SessionM.ofExcept r') := by
  intro s s' hs
  rw [run_ofExcept, run_ofExcept]
  exact ⟨h, hs⟩

theorem ask {call call' : Call τ} {answer : Answer τ α} {answer' : Answer τ β}
    (hcall : call'.masked = call.masked) (h : Answers S answer answer') :
    Matches (Session.Alike Q) S (SessionM.ask call answer) (SessionM.ask call' answer') := by
  intro s s' hs
  have hasked := hs.addCall hcall
  rw [run_ask, run_ask]
  exact ⟨h _ _ hasked.calls, hasked⟩

/-- The settings of the process are the same where its environment file reads the same. -/
theorem settings (h : ∀ t t', Q t t' →
      ∀ environment, ProcessSettings.read environment t' = ProcessSettings.read environment t) :
    Matches (@Session.Alike τ Q) Eq SessionM.settings SessionM.settings := by
  intro s s' hs
  have hget : s'.settings.get s'.environment s'.files = s.settings.get s.environment s.files := by
    rw [SettingsCache.get, SettingsCache.get, hs.settings, hs.environment, h _ _ hs.files]
  rw [run_settings, run_settings, hget]
  exact ⟨.of_eq rfl, hs.files, hs.environment, rfl, hs.calls, hs.log, hs.logging, hs.outlets⟩

end Matches

end SeedNode

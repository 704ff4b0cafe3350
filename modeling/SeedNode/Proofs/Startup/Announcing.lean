import Mathlib.Data.List.DropRight
import SeedNode.Config.Draft
import SeedNode.Proofs.Config.Settling
import SeedNode.Proofs.Secrecy.Startup

/-!
# The message of the day as it is sent

A configuration sends a message where it enables one and has one, and what it sends is framed for
the wire, whatever text it was made with. One that was resolved has a message just where it enables
one, and the message fits, so it is sent as it is and read back as it is. A start, which is its
stages one after another (`prepare_eq_goOn`), keeps the configuration that it has resolved
(`Reaches.settled`), so when it comes to announcing, the engine is told just the message of that
configuration, and a refusal quotes it.
-/

namespace SeedNode

variable {c : DaemonConfig} {text : String}

/-! ## Reading what is sent -/

theorem Startup.motdText_encode (h : '\x00' ∉ text.toList) :
    motdText (Utf8.encode text ++ [0]) = text := by
  have hlast : ∀ hne : Utf8.encode text ≠ [], ¬((Utf8.encode text).getLast hne == 0) = true := by
    intro hne hzero
    refine h (Utf8.zero_mem_encodeChars.mp ?_)
    rw [← eq_of_beq hzero]
    exact List.getLast_mem hne
  have hstripped : (Utf8.encode text ++ [0]).rdropWhile (· == 0) = Utf8.encode text := by
    rw [List.rdropWhile_concat_pos _ _ _ (by rfl), List.rdropWhile_eq_self_iff.mpr hlast]
  have hread : Utf8.decodeLossy (Utf8.encode text) = text.toList :=
    Utf8.decodeReplacing_encodeChars _ _
  change String.ofList (Utf8.decodeLossy ((Utf8.encode text ++ [0]).rdropWhile (· == 0))) = text
  rw [hstripped, hread, String.ofList_toList]

/-! ## What configurations send -/

/-- What is sent of a message that may be missing, where sending is enabled. -/
def Motd.sent (enabled : Bool) (message : Option String) : Option Bytes :=
  if enabled then message.map wire else none

theorem Motd.sent_eq_none {enabled : Bool} {message : Option String} :
    sent enabled message = none ↔ enabled = false ∨ message = none := by
  rw [sent]
  cases enabled <;> simp

theorem Motd.framed_of_sent {enabled : Bool} {message : Option String} :
    ∀ bytes ∈ sent enabled message, Framed bytes := by
  intro bytes hbytes
  rw [sent] at hbytes
  split at hbytes
  · obtain ⟨text, -, rfl⟩ := Option.map_eq_some_iff.mp hbytes
    exact framed_wire text
  · cases hbytes

theorem DaemonConfig.motdBytes_eq_sent (c : DaemonConfig) :
    c.motdBytes = Motd.sent c.enableMotd c.motd := rfl

/-- A settled configuration sends its message as it is, and has none where it sends none. -/
theorem Config.Settled.motdBytes (h : Config.Settled c) :
    c.motdBytes = c.motd.map fun text => Utf8.encode text ++ [0] := by
  have hannounces := h.announces
  rw [DaemonConfig.motdBytes]
  rw [Config.Announces] at hannounces
  cases hmotd : c.motd with
  | none => simp
  | some text =>
      rw [← hannounces, hmotd]
      exact congrArg some (Motd.wire_of_fits (h.motd text hmotd))

/-! ## Configurations of unchecked values -/

/-- A draft whose message is missing or a text. -/
def DraftConfig.HasText (d : DraftConfig) (message : Option String) : Prop :=
  d.get "motd" = (message.map Value.str).getD .null

theorem DraftConfig.motdBytes_of_hasText {d : DraftConfig} {message : Option String}
    (h : d.HasText message) :
    d.motdBytes = .ok (Motd.sent (d.get "enable_motd").truthy message) := by
  rw [motdBytes, h, Motd.sent]
  cases (d.get "enable_motd").truthy <;> cases message <;> rfl

namespace Service

variable {setup : Setup} {m m' : Milestone} {s s' : Session Float}

/-! ## Starts -/

/-- The configuration that a start has come to. -/
def Milestone.config? : Milestone → Option DaemonConfig
  | begun => none
  | configured _ config | equipped _ config _ | identified _ config _ _ => some config
  | connected node | announced node | relayed node _ | seeded node _ => some node.config
  | ready scheduler => some scheduler.config

/-- Resolving would take the configuration that a start has come to as it is. -/
def Milestone.Settled (m : Milestone) : Prop :=
  ∀ config ∈ m.config?, Config.Settled config

/-- The first stage comes to a configuration that was resolved and checked. -/
theorem begun_checked (setup : Setup) :
    Returns (fun m => ∀ config ∈ m.config?, Config.Settled config ∧ config.validate = .ok ())
      (advance setup .begun) := by
  rw [advance.eq_1]
  refine .bind (.any _) fun settings _ => .bind (Config.load_settled _) fun resolved hsettled => ?_
  have hcheck : Returns (fun _ => resolved.config.validate = .ok ())
      (SessionM.ofExcept resolved.config.validate : SessionM Float Unit) :=
    .ofExcept fun _ hvalid => hvalid
  refine .bind hcheck fun _ hvalid => .bind (.any _) fun _ _ => .bind (.any _) fun _ _ => .pure ?_
  intro config hconfig
  obtain rfl := Option.some.inj hconfig
  exact ⟨hsettled, hvalid⟩

/-- The stages after the first one pass the configuration on. -/
theorem advance_config (hbegun : m.config? ≠ none)
    (h : (advance setup m).run s = (.ok m', s')) : m'.config? = m.config? := by
  cases m with
  | begun => exact absurd rfl hbegun
  | ready scheduler =>
      rw [advance.eq_9] at h
      obtain rfl := Except.ok.inj (Prod.mk.inj h).1
      rfl
  | configured settings config =>
      obtain ⟨factory, rfl⟩ := configured_eq_ok h
      rfl
  | equipped settings config factory =>
      obtain ⟨keypair, t, rfl, -⟩ := equipped_eq_ok h
      rfl
  | identified settings config factory keypair =>
      obtain ⟨engine, ipv6, creates, rfl, -⟩ := identified_eq_ok h
      rfl
  | connected node =>
      obtain ⟨rfl, -⟩ := connected_eq_ok h
      rfl
  | announced node =>
      obtain ⟨relay, rfl, -⟩ := announced_eq_ok h
      rfl
  | relayed node relay =>
      obtain rfl := relayed_eq_ok h
      rfl
  | seeded node relay =>
      obtain ⟨scheduler, rfl, hconfig, -⟩ := seeded_eq_ok h
      exact congrArg some hconfig

/-- What the first stage makes sure of the configuration holds of it ever after. -/
theorem advance_passes_on {P : DaemonConfig → Prop}
    (hbegun : Returns (fun m => ∀ config ∈ m.config?, P config) (advance setup .begun))
    (hm : ∀ config ∈ m.config?, P config) :
    Returns (fun m' => ∀ config ∈ m'.config?, P config) (advance setup m) := by
  by_cases hnone : m.config? = none
  · cases m with
    | begun => exact hbegun
    | _ => cases hnone
  · intro s m' s' hrun
    rw [advance_config hnone hrun]
    exact hm

theorem advance_settled (hs : m.Settled) : Returns Milestone.Settled (advance setup m) := by
  refine advance_passes_on ?_ hs
  intro s m' s' hrun config hconfig
  exact (begun_checked setup s m' s' hrun config hconfig).1

theorem Reaches.settled (h : Reaches setup m s m' s') (hs : m.Settled) : m'.Settled := by
  induction h with
  | here m s => exact hs
  | step _ hrun _ ih => exact ih (advance_settled hs _ _ _ hrun)

/-- What a start comes to when it tells the engine a message. -/
def announcing (node : Node) (text : String) (s : Session Float) :
    Except Failure Milestone × Session Float :=
  let told := Startup.handedOver versionNumber (Utf8.encode text ++ [0]) s
  match node.engine.setMotd told.calls with
  | .error e => (.error e, told)
  | .ok false => (.error (.report (.plain .network s!"Couldn't set MOTD: {text}")), told)
  | .ok true => (.ok (.announced node), told.addRecord
      { level := Level.info, source := Startup.source, message := "Set MOTD successfully." })

theorem run_connected {node : Node} (h : Config.Settled node.config) (s : Session Float) :
    (advance setup (.connected node)).run s = match node.config.motd with
      | some text => announcing node text s
      | none => (.ok (.announced node), s) := by
  have hannounces := h.announces
  have hbytes := h.motdBytes
  rw [Config.Announces] at hannounces
  rw [advance.eq_5, announce, ← hannounces]
  cases hmotd : node.config.motd with
  | none => rfl
  | some text =>
      have hinstall := Startup.run_installMotd node.engine versionNumber (Utf8.encode text ++ [0]) s
      rw [Startup.motdText_encode (h.motd text hmotd).plain] at hinstall
      rw [hmotd, Option.map_some] at hbytes
      simp only [hbytes, Option.isSome_some, if_true]
      rw [run_bind, hinstall, announcing, Startup.handedOver]
      rcases node.engine.setMotd _ with e | _ | _ <;> rfl

/-- A configuration sends a message just where it enables and has one, framed for the wire, whatever
it was made with. One that was resolved has a message just where it enables one, sends it as it is,
and can be read back from what it sends. A start that comes to announcing tells the engine the
message of its configuration, and there is one wherever it is enabled. -/
theorem messages_framed :
    (∀ c : DaemonConfig,
      (c.motdBytes = none ↔ c.enableMotd = false ∨ c.motd = none)
        ∧ ∀ bytes ∈ c.motdBytes, Motd.Framed bytes)
    ∧ (∀ (d : DraftConfig) (message : Option String), d.HasText message →
      ∃ sent, d.motdBytes = .ok sent
        ∧ (sent = none ↔ (d.get "enable_motd").truthy = false ∨ message = none)
        ∧ ∀ bytes ∈ sent, Motd.Framed bytes)
    ∧ (∀ data r records, (Config.resolve data).run [] = (.ok r, records) →
      r.config.motdBytes = r.config.motd.map (fun text => Utf8.encode text ++ [0])
        ∧ r.config.motdBytes.isSome = r.config.enableMotd
        ∧ ∀ bytes ∈ r.config.motdBytes, r.config.motd = some (Startup.motdText bytes))
    ∧ ∀ setup s node s₁, Reaches setup .begun s (.connected node) s₁ →
      node.config.motd.isSome = node.config.enableMotd
        ∧ (advance setup (.connected node)).run s₁ = match node.config.motd with
          | some text => announcing node text s₁
          | none => (.ok (.announced node), s₁) := by
  refine ⟨fun c => ?made, fun d message hmessage => ?draft, fun data r records hrun => ?resolved,
    fun setup s node s₁ hreaches => ?started⟩
  case made =>
    rw [c.motdBytes_eq_sent]
    exact ⟨Motd.sent_eq_none, Motd.framed_of_sent⟩
  case draft =>
    exact ⟨_, DraftConfig.motdBytes_of_hasText hmessage, Motd.sent_eq_none, Motd.framed_of_sent⟩
  case resolved =>
    have hsettled := Config.settled_of_run hrun
    refine ⟨hsettled.motdBytes, hsettled.announces.motdBytes, fun bytes hbytes => ?_⟩
    rw [hsettled.motdBytes] at hbytes
    obtain ⟨text, hmotd, rfl⟩ := Option.map_eq_some_iff.mp hbytes
    rw [hmotd, Startup.motdText_encode (hsettled.motd text hmotd).plain]
  case started =>
    have hbegun : Milestone.begun.Settled := fun config hconfig => by cases hconfig
    have hsettled := hreaches.settled hbegun node.config rfl
    exact ⟨hsettled.announces, run_connected hsettled s₁⟩

/-- A text with a null character, a message that is just as long as there is room for, and a start
whose engine accepts the message. -/
theorem messages_framed_whole :
    let d : DraftConfig := ⟨[("enable_motd", .int 1), ("motd", .str "a\x00b")], []⟩
    let text := String.ofList (List.replicate 51 '😀' ++ List.replicate 51 'a')
    let data : Table := [("motd", .str text)]
    let s : Session Float := .start linked [] ⟨true, [], 0⟩
    d.HasText (some "a\x00b") ∧ d.motdBytes = .ok (some [0x61, 0])
      ∧ Motd.Framed [0x61, 0]
      ∧ (∃ r records, (Config.resolve data).run [] = (.ok r, records)
        ∧ r.config.motd = some text
        ∧ r.config.motdBytes = some (Utf8.encode text ++ [0])
        ∧ (Utf8.encode text ++ [0]).length = 256
        ∧ Startup.motdText (Utf8.encode text ++ [0]) = text)
      ∧ ∃ node s₁, Reaches (secretly []) .begun s (.connected node) s₁
        ∧ node.config.motd = some "dht-bootstrapd"
        ∧ (advance (secretly []) (.connected node)).run s₁ = announcing node "dht-bootstrapd" s₁
        ∧ (announcing node "dht-bootstrapd" s₁).1.isOk = true := by
  intro d text data s
  obtain ⟨-, hdraft, hresolved, hstarted⟩ := messages_framed
  have hwire : Motd.wire "a\x00b" = [0x61, 0] := by decide +kernel
  have hsent : d.motdBytes = .ok (some [0x61, 0]) :=
    congrArg (fun bytes => Except.ok (some bytes)) hwire
  have hframed : Motd.Framed [0x61, 0] := by
    obtain ⟨sent, hsent', -, hframed⟩ := hdraft d (some "a\x00b") rfl
    exact hframed _ (Except.ok.inj (hsent'.symm.trans hsent))
  have hsize : (Utf8.encode text).length = 255 := by
    rw [Utf8.encode, String.toList_ofList]
    decide +kernel
  have hfits : Motd.Fits text := by
    refine ⟨?_, Nat.lt_of_le_of_lt hsize.le (by decide)⟩
    rw [String.toList_ofList]
    decide +kernel
  refine ⟨rfl, hsent, hframed, ?resolved, ?started⟩
  case resolved =>
    have hshort : ¬Config.HasLongPort data := by
      rintro (⟨n, hfound, -⟩ | ⟨-, values, hfound, -⟩) <;> cases hfound
    obtain ⟨r, records, hrun⟩ := Config.resolve_of_not_hasLongPort hshort
    obtain ⟨hbytes, -, hread⟩ := hresolved data r _ hrun
    have hmotd : r.config.motd = some text := by
      obtain ⟨ports, summary, hresolving⟩ := Config.resolving_of_run hrun
      rw [hresolving.config]
      exact congrArg some (Motd.clamp_of_fits hfits)
    rw [hmotd] at hbytes hread
    refine ⟨r, _, hrun, hmotd, hbytes, ?_, (Option.some.inj (hread _ hbytes)).symm⟩
    rw [List.length_append, hsize]
    rfl
  case started =>
    obtain ⟨settings, factory, s₁, hfactory, hreaches, -⟩ :=
      reaches_identified [] (by decide)
    obtain rfl := Option.some.inj hfactory
    have hconnected : ∃ node s₂, Reaches (secretly []) .begun s (.connected node) s₂
        ∧ node.config = .default ∧ node.engine = willing :=
      ⟨_, _, hreaches.snoc (List.cons_ne_nil _ _) rfl, rfl, rfl⟩
    obtain ⟨node, s₂, hreaches, hconfig, hengine⟩ := hconnected
    have hmotd : node.config.motd = some "dht-bootstrapd" := by rw [hconfig]; rfl
    obtain ⟨-, hrun⟩ := hstarted _ _ _ _ hreaches
    rw [hmotd] at hrun
    refine ⟨node, s₂, hreaches, hmotd, hrun, ?_⟩
    rw [announcing, hengine]
    rfl

end Service

end SeedNode

import SeedNode.Proofs.Startup.Pipeline

/-!
# One protocol for one engine

The network stage asks for an engine once, and a second time over the older protocol just if the
first failure was one of the network and falling back is allowed. It returns the protocol of the
engine that came out, which need not be the one that was asked for first. The stages after it ask
for the relay and contact the seeds over that protocol. The proof follows the milestones of a start:
up to the network stage nothing is asked that depends on the protocol, that stage pins it down
(`Bound`), and every later stage keeps to it.
-/

namespace SeedNode.Startup

variable {τ : Type}

/-- What becomes of a failure after which no engine is asked for again. -/
def givenUp (tries : Nat) (cause : Failure) : Failure :=
  if isNetworkFailure cause then
    .report <| .plain .network <|
      if tries = 1 then s!"Couldn't initialize networking: {cause.message}"
      else s!"Couldn't fallback to IPv4: {cause.message}"
  else cause

/-- What the network stage does after the calls `before`: it makes the calls `made`, and ends with
`outcome`. -/
structure Networked (factory : Factory τ) (keypair : Keypair) (port : Int) (ipv6 fallback : Bool)
    (before made : List (Call τ)) (outcome : Except Failure (Engine τ × Bool)) : Prop where
  /-- An engine is asked for once or twice, the second time over the older protocol, -/
  creates : made = [.create keypair port ipv6]
    ∨ made = [.create keypair port ipv6, .create keypair port false]
  /-- and that just if the network failed first and falling back is allowed. -/
  again : made.length = 2 ↔
    (∃ first, factory.create (before ++ [.create keypair port ipv6]) = .error first
      ∧ isNetworkFailure first = true) ∧ ipv6 = true ∧ fallback = true
  /-- The last engine asked for comes out with its protocol, or its failure is given up on. -/
  ends : ∃ flag, made.getLast? = some (.create keypair port flag)
    ∧ outcome = match factory.create (before ++ made) with
      | .ok engine => .ok (engine, flag)
      | .error cause => .error (givenUp made.length cause)

section Networked

variable {factory : Factory τ} {keypair : Keypair} {port : Int} {ipv6 fallback : Bool}
  {before : List (Call τ)} {outcome : Except Failure (Engine τ × Bool)}

theorem networked_once
    (hstop : ∀ first, factory.create (before ++ [.create keypair port ipv6]) = .error first →
      isNetworkFailure first = true → (ipv6 && fallback) = false)
    (houtcome : outcome = match factory.create (before ++ [.create keypair port ipv6]) with
      | .ok engine => .ok (engine, ipv6)
      | .error first => .error (givenUp 1 first)) :
    Networked factory keypair port ipv6 fallback before [.create keypair port ipv6] outcome := by
  refine ⟨.inl rfl, ?_, ipv6, rfl, houtcome⟩
  constructor
  · intro hlength
    cases hlength
  · rintro ⟨⟨first, hfirst, hnetwork⟩, rfl, rfl⟩
    cases hstop first hfirst hnetwork

theorem networked_twice {first : Failure}
    (hfirst : factory.create (before ++ [.create keypair port ipv6]) = .error first)
    (hnetwork : isNetworkFailure first = true) (hfallback : ¬(ipv6 && fallback) = false)
    (houtcome : outcome = match factory.create
        (before ++ [.create keypair port ipv6, .create keypair port false]) with
      | .ok engine => .ok (engine, false)
      | .error second => .error (givenUp 2 second)) :
    Networked factory keypair port ipv6 fallback before
      [.create keypair port ipv6, .create keypair port false] outcome := by
  rw [Bool.not_eq_false, Bool.and_eq_true] at hfallback
  refine ⟨.inr rfl, ?_, false, rfl, houtcome⟩
  constructor
  · exact fun _ => ⟨⟨first, hfirst, hnetwork⟩, hfallback⟩
  · exact fun _ => rfl

theorem startNetworking_networked (factory : Factory τ) (keypair : Keypair) (port : Int)
    (ipv6 fallback : Bool) (s : Session τ) :
    ∃ outcome s' made, (startNetworking factory keypair port ipv6 fallback).run s = (outcome, s')
      ∧ s'.calls = s.calls ++ made
      ∧ Networked factory keypair port ipv6 fallback s.calls made outcome := by
  rw [run_startNetworking]
  have hcalls : (tried keypair port ipv6 s).calls = s.calls ++ [.create keypair port ipv6] := rfl
  cases hanswer : factory.create (tried keypair port ipv6 s).calls with
  | ok engine =>
      rw [hcalls] at hanswer
      refine ⟨_, _, _, rfl, hcalls, networked_once ?_ (by rw [hanswer])⟩
      intro first hfirst
      rw [hanswer] at hfirst
      cases hfirst
  | error first =>
      rw [hcalls] at hanswer
      by_cases hnetwork : isNetworkFailure first = false
      · simp only [if_pos hnetwork]
        refine ⟨_, _, _, rfl, hcalls, networked_once ?_ (by simp [hanswer, givenUp, hnetwork])⟩
        intro first' hfirst hnetwork'
        obtain rfl := Except.error.inj (hanswer.symm.trans hfirst)
        exact absurd (hnetwork.symm.trans hnetwork') (by decide)
      simp only [if_neg hnetwork]
      rw [Bool.not_eq_false] at hnetwork
      by_cases hfallback : (ipv6 && fallback) = false
      · simp only [if_pos hfallback]
        exact ⟨_, _, _, rfl, hcalls,
          networked_once (fun _ _ _ => hfallback) (by simp [hanswer, givenUp, hnetwork])⟩
      have hagain : (triedAgain keypair port ipv6 first s).calls
          = s.calls ++ [.create keypair port ipv6, .create keypair port false] :=
        List.append_assoc _ _ _
      simp only [if_neg hfallback]
      cases hsecond : factory.create (triedAgain keypair port ipv6 first s).calls with
      | ok engine =>
          rw [hagain] at hsecond
          exact ⟨_, _, _, rfl, hagain, networked_twice hanswer hnetwork hfallback (by rw [hsecond])⟩
      | error second =>
          rw [hagain] at hsecond
          exact ⟨_, _, _, rfl, hagain,
            networked_twice hanswer hnetwork hfallback (by rw [hsecond]; rfl)⟩

end Networked

end SeedNode.Startup

namespace SeedNode.Service

open Startup

variable {setup : Setup} {m m' : Milestone} {s s' : Session Float} {factory : Factory Float}
  {engine : Engine Float} {ipv6 : Bool} {base made more : List (Call Float)}

/-! ## Calls and protocols -/

/-- The call does not depend on the protocol of an engine that is there. -/
def Unbound : Call Float → Prop
  | .createRelay _ _ | .bootstrap _ _ _ _ => False
  | _ => True

/-- The call is one to an engine that is there, over its protocol. -/
def Carries (ipv6 : Bool) : Call Float → Prop
  | .create _ _ _ => False
  | .createRelay _ flag | .bootstrap _ flag _ _ => flag = ipv6
  | _ => True

/-- Among the calls that were made after `base`, one created the engine that is there. Before it
nothing was asked that depends on the protocol, and all that followed keeps to its protocol. -/
inductive Bound (factory : Factory Float) (engine : Engine Float) (ipv6 : Bool)
    (base : List (Call Float)) : List (Call Float) → Prop
  | mk {before after keypair port} (hbefore : ∀ c ∈ before, Unbound c)
      (hcreated : factory.create (base ++ before ++ [.create keypair port ipv6]) = .ok engine)
      (hafter : ∀ c ∈ after, Carries ipv6 c) :
      Bound factory engine ipv6 base (before ++ .create keypair port ipv6 :: after)

theorem Bound.extend (h : Bound factory engine ipv6 base made)
    (hmore : ∀ c ∈ more, Carries ipv6 c) : Bound factory engine ipv6 base (made ++ more) := by
  obtain ⟨hbefore, hcreated, hafter⟩ := h
  rw [List.append_assoc, List.cons_append]
  refine .mk hbefore hcreated fun c hc => ?_
  exact (List.mem_append.mp hc).elim (hafter c) (hmore c)

/-- The network stage pins the protocol down. -/
theorem bound_of_networked {keypair : Keypair} {port : Int} {asked fallback : Bool}
    (hmade : ∀ c ∈ made, Unbound c)
    (h : Networked factory keypair port asked fallback (base ++ made) more (.ok (engine, ipv6))) :
    Bound factory engine ipv6 base (made ++ more) := by
  obtain ⟨flag, hlast, houtcome⟩ := h.ends
  cases hanswer : factory.create (base ++ made ++ more) with
  | error cause =>
      rw [hanswer] at houtcome
      cases houtcome
  | ok last =>
      rw [hanswer] at houtcome
      obtain ⟨rfl, rfl⟩ := Prod.mk.inj (Except.ok.inj houtcome)
      have hcreates : ∀ c ∈ more, Unbound c := by
        rcases h.creates with hmore | hmore <;> simp [hmore, Unbound]
      obtain ⟨before, rfl⟩ := List.getLast?_eq_some_iff.mp hlast
      rw [← List.append_assoc]
      refine .mk (fun c hc => ?_) (by simpa using hanswer) (by simp)
      rcases List.mem_append.mp hc with hc | hc
      · exact hmade c hc
      · exact hcreates c (List.mem_append_left _ hc)

/-! ## What the stages ask -/

/-- The session made calls of one kind only. -/
def AddsCalls (P : Call Float → Prop) (s s' : Session Float) : Prop :=
  ∃ made, s'.calls = s.calls ++ made ∧ ∀ c ∈ made, P c

theorem addsCalls_quiet (P : Call Float → Prop) : Quiet (AddsCalls P) where
  refl s := ⟨[], (List.append_nil _).symm, by simp⟩
  trans s t u h h' := by
    obtain ⟨made, hmade, hkind⟩ := h
    obtain ⟨made', hmade', hkind'⟩ := h'
    refine ⟨made ++ made', by rw [hmade', hmade, List.append_assoc], fun c hc => ?_⟩
    exact (List.mem_append.mp hc).elim (hkind c) (hkind' c)
  addRecord s r := ⟨[], (List.append_nil _).symm, by simp⟩

theorem addsCalls_addCall {P : Call Float → Prop} {c : Call Float} (h : P c) (s : Session Float) :
    AddsCalls P s (s.addCall c) :=
  ⟨[c], rfl, by simpa using h⟩

theorem addsCalls_permits {stage : StartStage} {P : Call Float → Prop}
    (h : ∀ c, stage.Makes c → P c) : Permits stage (AddsCalls P) where
  toQuiet := addsCalls_quiet P
  settings s cache := ⟨[], (List.append_nil _).symm, by simp⟩
  addCall s c hc := addsCalls_addCall (h c hc) s
  files _ s t := ⟨[], (List.append_nil _).symm, by simp⟩

/-- The node at a milestone, if the engine is there. -/
def Milestone.node? : Milestone → Option Node
  | connected node | announced node | relayed node _ | seeded node _ => some node
  | _ => none

/-- Up to the network stage nothing is asked that depends on the protocol. -/
theorem advance_unbound (setup : Setup) (hm : m.ahead ≠ []) (hnode : m.node? = none) :
    Keeps (AddsCalls Unbound) (advance setup m) := by
  cases m with
  | begun => exact begun_keeps (addsCalls_permits fun c hc => hc.elim) setup
  | configured settings config =>
      exact configured_keeps (addsCalls_permits fun c hc => hc.elim) setup settings config
  | equipped settings config factory =>
      refine equipped_keeps (addsCalls_permits fun c hc => ?_) setup settings config factory
      obtain rfl : c = .generateKeypair := hc
      trivial
  | identified settings config factory keypair =>
      refine identified_keeps (addsCalls_permits fun c hc => ?_) setup settings config factory
        keypair
      obtain ⟨keypair, port, ipv6, rfl⟩ := hc
      trivial
  | ready scheduler => exact absurd rfl hm
  | _ => cases hnode

/-- From then on everything that is asked keeps to the protocol of the engine. -/
theorem advance_carries (setup : Setup) {node : Node} (hnode : m.node? = some node) :
    Keeps (AddsCalls (Carries node.ipv6)) (advance setup m) := by
  have quiet := addsCalls_quiet (Carries node.ipv6)
  cases m with
  | connected _ =>
      refine connected_keeps (addsCalls_permits fun c hc => ?_) setup _
      obtain ⟨version, motd, rfl⟩ := hc
      trivial
  | announced there =>
      obtain rfl : there = node := Option.some.inj hnode
      rw [advance.eq_6]
      split
      · refine .bind quiet.trans (.map (startRelay_keeps quiet ?_ _)) fun _ => .pure quiet.refl _
        exact addsCalls_addCall rfl
      · exact .bind quiet.trans (.pure quiet.refl _) fun _ => .pure quiet.refl _
  | relayed there relay =>
      obtain rfl : there = node := Option.some.inj hnode
      rw [advance.eq_7]
      refine .bind quiet.trans (Seeds.contactFile_keeps quiet ?_ _ _) fun _ =>
        .bind quiet.trans (quiet.note _ _ _) fun _ => .pure quiet.refl _
      exact fun address port key => addsCalls_addCall rfl
  | seeded _ relay =>
      exact seeded_keeps (addsCalls_permits fun c hc => hc.elim) setup _ relay
  | _ => cases hnode

/-! ## What milestones know of the engine -/

/-- The factory is the one given, or one among the plugins. -/
def Supplies (setup : Setup) (factory : Factory Float) : Prop :=
  setup.factory = some factory ∨ setup.factory = none ∧ ∃ name records,
    (Plugin.loadFactory setup.registry name).run [] = (.ok factory, records)

/-- What holds at a milestone that was reached with the calls `made` after `base`. -/
def Agrees (setup : Setup) (base : List (Call Float)) :
    Milestone → List (Call Float) → Prop
  | .begun, made | .configured _ _, made => ∀ c ∈ made, Unbound c
  | .equipped _ _ factory, made | .identified _ _ factory _, made =>
      Supplies setup factory ∧ ∀ c ∈ made, Unbound c
  | .connected node, made | .announced node, made | .relayed node _, made | .seeded node _, made =>
      ∃ factory, Supplies setup factory ∧ Bound factory node.engine node.ipv6 base made
  | .ready scheduler, made =>
      ∃ factory ipv6, Supplies setup factory ∧ Bound factory scheduler.engine ipv6 base made

/-- Whatever comes out of a stage, it has kept to the protocol of the engine that is there, or has
asked for nothing that depends on one. -/
theorem Agrees.after (h : Agrees setup base m made) (hm : m.ahead ≠ [])
    (hcalls : s.calls = base ++ made) (hrun : ((advance setup m).run s).2 = s') :
    ∃ more, s'.calls = base ++ (made ++ more) ∧ match m.node? with
      | none => ∀ c ∈ made ++ more, Unbound c
      | some node => ∃ factory, Supplies setup factory
        ∧ Bound factory node.engine node.ipv6 base (made ++ more) := by
  subst hrun
  cases hnode : m.node? with
  | none =>
      obtain ⟨more, hmore, hkind⟩ := advance_unbound setup hm hnode s
      refine ⟨more, by rw [hmore, hcalls, List.append_assoc], fun c hc => ?_⟩
      have hmade : ∀ c ∈ made, Unbound c := by
        cases m with
        | begun | configured => exact h
        | equipped | identified => exact h.2
        | ready => exact absurd rfl hm
        | _ => cases hnode
      exact (List.mem_append.mp hc).elim (hmade c) (hkind c)
  | some node =>
      obtain ⟨more, hmore, hkind⟩ := advance_carries setup hnode s
      refine ⟨more, by rw [hmore, hcalls, List.append_assoc], ?_⟩
      have hbound : ∃ factory, Supplies setup factory
          ∧ Bound factory node.engine node.ipv6 base made := by
        cases m with
        | connected | announced | relayed | seeded =>
            obtain rfl := Option.some.inj hnode
            exact h
        | _ => cases hnode
      obtain ⟨factory, hfactory, hbound⟩ := hbound
      exact ⟨factory, hfactory, hbound.extend hkind⟩

theorem configured_supplies {settings : ProcessSettings} {config : DaemonConfig}
    (h : (advance setup (.configured settings config)).run s = (.ok m, s')) :
    ∃ factory, m = .equipped settings config factory ∧ Supplies setup factory := by
  rw [advance.eq_2] at h
  split at h
  · rename_i factory hfactory
    exact ⟨factory, (Except.ok.inj (Prod.mk.inj h).1).symm, .inl hfactory⟩
  · rename_i hfactory
    obtain ⟨factory, t, hload, hpure⟩ := run_bind_eq_ok.mp h
    rw [run_onLog] at hload
    have hloaded := (Prod.mk.inj hload).1
    exact ⟨factory, (Except.ok.inj (Prod.mk.inj hpure).1).symm,
      .inr ⟨hfactory, _, _, Prod.ext hloaded rfl⟩⟩

theorem seeded_engine {node : Node} {relay : Option (Relay Float)}
    (h : (advance setup (.seeded node relay)).run s = (.ok m, s')) :
    ∃ scheduler, m = .ready scheduler ∧ scheduler.engine = node.engine := by
  rw [advance.eq_8] at h
  obtain ⟨tick, t, -, hmake⟩ := run_bind_eq_ok.mp h
  obtain ⟨scheduler, hscheduler, rfl⟩ := run_map_eq_ok.mp hmake
  rw [run_ofExcept, Scheduler.make] at hscheduler
  split at hscheduler
  · cases hscheduler
  · obtain rfl := Except.ok.inj (Prod.mk.inj hscheduler).1
    exact ⟨_, rfl, rfl⟩

theorem identified_agrees {settings : ProcessSettings} {config : DaemonConfig}
    {keypair : Keypair} (h : Agrees setup base (.identified settings config factory keypair) made)
    (hcalls : s.calls = base ++ made)
    (hrun : (advance setup (.identified settings config factory keypair)).run s = (.ok m, s')) :
    ∃ more, s'.calls = base ++ (made ++ more) ∧ Agrees setup base m (made ++ more) := by
  rw [advance.eq_4] at hrun
  obtain ⟨⟨engine, ipv6⟩, t, hstart, hpure⟩ := run_bind_eq_ok.mp hrun
  obtain ⟨hm, rfl⟩ := Prod.mk.inj hpure
  obtain rfl := Except.ok.inj hm
  obtain ⟨outcome, t', more, hstart', hmore, hnetworked⟩ := startNetworking_networked factory
    keypair config.port config.enableIpv6 config.enableIpv4Fallback s
  obtain ⟨rfl, rfl⟩ := Prod.mk.inj (hstart.symm.trans hstart')
  rw [hcalls] at hnetworked
  exact ⟨more, by rw [hmore, hcalls, List.append_assoc], factory, h.1,
    bound_of_networked h.2 hnetworked⟩

/-- A stage that succeeds leads from one milestone to the next. -/
theorem Agrees.advance (h : Agrees setup base m made) (hm : m.ahead ≠ [])
    (hcalls : s.calls = base ++ made) (hrun : (advance setup m).run s = (.ok m', s')) :
    ∃ more, s'.calls = base ++ (made ++ more) ∧ Agrees setup base m' (made ++ more) := by
  obtain ⟨more, hmore, hafter⟩ := h.after hm hcalls (congrArg Prod.snd hrun)
  cases m with
  | ready scheduler => exact absurd rfl hm
  | begun =>
      obtain ⟨settings, config, rfl, -⟩ := begun_eq_ok hrun
      exact ⟨more, hmore, hafter⟩
  | configured settings config =>
      obtain ⟨factory, rfl, hfactory⟩ := configured_supplies hrun
      exact ⟨more, hmore, hfactory, hafter⟩
  | equipped settings config factory =>
      obtain ⟨keypair, t, rfl, -⟩ := equipped_eq_ok hrun
      exact ⟨more, hmore, h.1, hafter⟩
  | identified settings config factory keypair => exact identified_agrees h hcalls hrun
  | connected node =>
      obtain ⟨rfl, -⟩ := connected_eq_ok hrun
      exact ⟨more, hmore, hafter⟩
  | announced node =>
      obtain ⟨relay, rfl, -⟩ := announced_eq_ok hrun
      exact ⟨more, hmore, hafter⟩
  | relayed node relay =>
      obtain rfl := relayed_eq_ok hrun
      exact ⟨more, hmore, hafter⟩
  | seeded node relay =>
      obtain ⟨scheduler, rfl, hengine⟩ := seeded_engine hrun
      obtain ⟨factory, hfactory, hbound⟩ := hafter
      exact ⟨more, hmore, factory, node.ipv6, hfactory, hengine ▸ hbound⟩

theorem Reaches.agrees (h : Reaches setup m s m' s')
    (hagrees : Agrees setup base m made) (hcalls : s.calls = base ++ made) :
    ∃ made', s'.calls = base ++ made' ∧ Agrees setup base m' made' := by
  induction h generalizing made with
  | here m s => exact ⟨made, hcalls, hagrees⟩
  | step hm hrun _ ih =>
      obtain ⟨more, hmore, hnext⟩ := hagrees.advance hm hcalls hrun
      exact ih hnext hmore

/-- What a start that made the calls `made` after `base` came to. -/
inductive Keeping (setup : Setup) (base : List (Call Float)) :
    List (Call Float) → Except Failure (Scheduler Float) → Prop
  /-- It gave up before there was an engine. -/
  | unbound {made e} (hunbound : ∀ c ∈ made, Unbound c) : Keeping setup base made (.error e)
  /-- It gave up when there was one. -/
  | bound {made e factory engine ipv6} (hfactory : Supplies setup factory)
      (hbound : Bound factory engine ipv6 base made) : Keeping setup base made (.error e)
  /-- It returned with the engine. -/
  | started {made factory scheduler ipv6} (hfactory : Supplies setup factory)
      (hbound : Bound factory scheduler.engine ipv6 base made) :
      Keeping setup base made (.ok scheduler)

/-- The network stage asks for an engine at most twice, and returns the protocol of the one that
came out. Whether or not a start returns, it asks for the relay and contacts the seeds over the
protocol of the engine that it has. -/
theorem protocol_agrees :
    (∀ {τ : Type} (factory : Factory τ) (keypair : Keypair) (port : Int) (ipv6 fallback : Bool)
      (s : Session τ), ∃ outcome s' made,
      (startNetworking factory keypair port ipv6 fallback).run s = (outcome, s')
        ∧ s'.calls = s.calls ++ made
        ∧ Networked factory keypair port ipv6 fallback s.calls made outcome)
      ∧ ∀ (setup : Setup) (s : Session Float), ∃ outcome s' made,
        (prepare setup).run s = (outcome, s') ∧ s'.calls = s.calls ++ made
          ∧ Keeping setup s.calls made outcome := by
  refine ⟨startNetworking_networked, fun setup s => ?_⟩
  have hbegun : Agrees setup s.calls .begun [] := by
    intro c hc
    cases hc
  have hbefore : s.calls = s.calls ++ [] := (List.append_nil _).symm
  rcases goOn_cases setup 8 .begun s rfl with
    ⟨scheduler, s', hdone, hreaches⟩ | ⟨m, s₁, e, s', hreaches, hm, hfails, hdone⟩ <;>
    rw [← prepare_eq_goOn] at hdone <;>
    obtain ⟨made, hmade, hagrees⟩ := hreaches.agrees hbegun hbefore
  · obtain ⟨scheduler', hrun, hready⟩ := run_map_eq_ok.mp hdone
    obtain rfl := Milestone.ready.inj hready
    obtain ⟨factory, ipv6, hfactory, hbound⟩ := hagrees
    exact ⟨_, s', made, hrun, hmade, .started hfactory hbound⟩
  · obtain ⟨more, hmore, hafter⟩ := hagrees.after hm hmade (congrArg Prod.snd hfails)
    refine ⟨_, s', made ++ more, run_of_map_eq_error hdone, hmore, ?_⟩
    cases hnode : m.node? with
    | none =>
        rw [hnode] at hafter
        exact .unbound hafter
    | some node =>
        rw [hnode] at hafter
        obtain ⟨factory, hfactory, hbound⟩ := hafter
        exact .bound hfactory hbound

end SeedNode.Service

import SeedNode.Proofs.Startup.Stages

/-!
# Startup is a pipeline

A start that gave up has done the work of the stages up to the one that failed, in their order,
and nothing else. A start that returned has done all of it: the engine was created with the keypair
that the key file holds, the message of the day was handed over once where it is enabled, and there
is a relay where one is enabled.

The proof follows `goOn`. `Reaches` is a run of stages that all succeed, `Passes` is what such a run
does to the session, and `Sound` is what the milestones on it keep.
-/

namespace SeedNode.Service

variable {setup : Setup} {m m' : Milestone} {s s₁ s' : Session Float}

/-! ## Runs of stages -/

/-- From the first milestone and session the stages lead to the second ones without a failure. -/
inductive Reaches (setup : Setup) :
    Milestone → Session Float → Milestone → Session Float → Prop
  | here (m : Milestone) (s : Session Float) : Reaches setup m s m s
  | step {m s m₁ s₁ m' s'} (hm : m.ahead ≠ [])
      (h : (advance setup m).run s = (.ok m₁, s₁)) (rest : Reaches setup m₁ s₁ m' s') :
      Reaches setup m s m' s'

/-- The session passes through the work of the stages, one after another. -/
inductive Passes : List StartStage → Session Float → Session Float → Prop
  | here (s : Session Float) : Passes [] s s
  | step {stage stages s s₁ s'} (h : Work stage s s₁) (rest : Passes stages s₁ s') :
      Passes (stage :: stages) s s'

theorem Passes.snoc {stages : List StartStage} {stage : StartStage} (h : Passes stages s s₁)
    (hlast : Work stage s₁ s') : Passes (stages ++ [stage]) s s' := by
  induction h with
  | here s => exact .step hlast (.here s')
  | step hfirst _ ih => exact .step hfirst (ih hlast)

theorem Passes.calls {stages : List StartStage} (h : Passes stages s s') :
    ∃ made, s'.calls = s.calls ++ made ∧ ∀ c ∈ made, ∃ stage ∈ stages, stage.Makes c := by
  induction h with
  | here s => exact ⟨[], by simp, by simp⟩
  | @step stage stages s s₁ s' hfirst _ ih =>
      obtain ⟨first, hcalls, hown⟩ := hfirst.calls
      obtain ⟨later, hlater, hothers⟩ := ih
      refine ⟨first ++ later, by rw [hlater, hcalls, List.append_assoc], ?_⟩
      intro c hc
      rcases List.mem_append.mp hc with hc | hc
      · exact ⟨stage, List.mem_cons_self .., hown c hc⟩
      · obtain ⟨other, hother, hmakes⟩ := hothers c hc
        exact ⟨other, List.mem_cons_of_mem _ hother, hmakes⟩

theorem Passes.files {stages : List StartStage} (h : Passes stages s s')
    (hkeeps : .identity ∉ stages) : s'.files = s.files := by
  induction h with
  | here s => rfl
  | step hfirst _ ih =>
      rw [List.mem_cons, not_or] at hkeeps
      rw [ih hkeeps.2, hfirst.files (Ne.symm hkeeps.1)]

theorem Passes.silent {stages : List StartStage} (h : Passes stages s s')
    (hsilent : ∀ stage ∈ stages, ∀ c, ¬stage.Makes c) : s'.calls = s.calls := by
  obtain ⟨made, hcalls, hown⟩ := h.calls
  have hnil : made = [] := by
    refine List.eq_nil_iff_forall_not_mem.mpr fun c hc => ?_
    obtain ⟨stage, hstage, hmakes⟩ := hown c hc
    exact hsilent stage hstage c hmakes
  rw [hcalls, hnil, List.append_nil]

/-- The first two stages neither touch files nor make calls. -/
theorem Passes.untouched {stages : List StartStage} (h : Passes stages s s')
    (hearly : ∀ stage ∈ stages, stage = .configuration ∨ stage = .plugin) :
    s'.files = s.files ∧ s'.calls = s.calls := by
  refine ⟨h.files fun hidentity => ?_, h.silent fun stage hstage c hmakes => ?_⟩
  · rcases hearly _ hidentity with heq | heq <;> cases heq
  · rcases hearly stage hstage with rfl | rfl <;> exact hmakes

theorem Work.silent {stage : StartStage} (h : Work stage s s') (hsilent : ∀ c, ¬stage.Makes c) :
    s'.calls = s.calls := by
  have hpasses : Passes [stage] s s' := .step h (.here s')
  exact hpasses.silent (by simpa using hsilent)

theorem Reaches.passes (h : Reaches setup m s m' s') :
    ∃ done, m.ahead = done ++ m'.ahead ∧ Passes done s s' := by
  induction h with
  | here m s => exact ⟨[], rfl, .here s⟩
  | @step m s m₁ s₁ m' s' hm h _ ih =>
      obtain ⟨stage, rest, hahead⟩ := List.exists_cons_of_ne_nil hm
      obtain ⟨done, hdone, hpasses⟩ := ih
      have hwork : Work stage s s₁ := by
        have hkeeps := advance_works setup hahead s
        rw [h] at hkeeps
        exact hkeeps
      refine ⟨stage :: done, ?_, .step hwork hpasses⟩
      rw [hahead, ← advance_ahead hahead h, hdone, List.cons_append]

/-- A start that goes on to the end has gone through its next stage. -/
theorem Reaches.next {scheduler : Scheduler Float} {stage : StartStage} {rest : List StartStage}
    (h : Reaches setup m s (.ready scheduler) s') (hm : m.ahead = stage :: rest) :
    ∃ m₁ s₁, (advance setup m).run s = (.ok m₁, s₁) ∧ Work stage s s₁
      ∧ Reaches setup m₁ s₁ (.ready scheduler) s' := by
  have hwork := advance_works setup hm s
  cases h with
  | here => cases hm
  | step _ hrun hrest =>
      rw [hrun] at hwork
      exact ⟨_, _, hrun, hwork, hrest⟩

theorem Reaches.trans {m₁ : Milestone} (h : Reaches setup m s m₁ s₁)
    (hrest : Reaches setup m₁ s₁ m' s') : Reaches setup m s m' s' := by
  induction h with
  | here m s => exact hrest
  | step hm hrun _ ih => exact .step hm hrun (ih hrest)

theorem Reaches.snoc {m₁ : Milestone} (h : Reaches setup m s m₁ s₁)
    (hm : m₁.ahead ≠ []) (hrun : (advance setup m₁).run s₁ = (.ok m', s')) :
    Reaches setup m s m' s' :=
  h.trans (.step hm hrun (.here _ _))

/-- Going through all stages ahead fails where a stage on the way does. -/
theorem Reaches.fails {m₁ : Milestone} {e : Failure} (h : Reaches setup m s m₁ s₁)
    (hm₁ : m₁.ahead ≠ []) (hfails : (advance setup m₁).run s₁ = (.error e, s')) :
    (goOn setup m.ahead.length m).run s = (.error e, s') := by
  induction h with
  | here m s =>
      obtain ⟨stage, rest, hahead⟩ := List.exists_cons_of_ne_nil hm₁
      rw [hahead, List.length_cons, run_goOn_of_error hfails]
  | step hm hrun _ ih =>
      obtain ⟨stage, rest, hahead⟩ := List.exists_cons_of_ne_nil hm
      have hrest := ih hm₁ hfails
      rw [advance_ahead hahead hrun] at hrest
      rw [hahead, List.length_cons, run_goOn_of_ok hrun, hrest]

/-- Going through all stages ahead comes to the end, or to a stage that fails. -/
theorem goOn_cases (setup : Setup) : ∀ (n : Nat) (m : Milestone) (s : Session Float),
    m.ahead.length = n →
    (∃ scheduler s', (goOn setup n m).run s = (.ok (.ready scheduler), s')
        ∧ Reaches setup m s (.ready scheduler) s')
      ∨ ∃ m₁ s₁ e s', Reaches setup m s m₁ s₁ ∧ m₁.ahead ≠ []
        ∧ (advance setup m₁).run s₁ = (.error e, s')
        ∧ (goOn setup n m).run s = (.error e, s')
  | 0, m, s, hm => by
      cases m with
      | ready scheduler => exact .inl ⟨scheduler, s, rfl, .here _ s⟩
      | _ => cases hm
  | n + 1, m, s, hm => by
      have hne : m.ahead ≠ [] := by
        intro hnil
        rw [hnil] at hm
        cases hm
      obtain ⟨stage, rest, hahead⟩ := List.exists_cons_of_ne_nil hne
      rcases hrun : (advance setup m).run s with ⟨e | m₁, s₁⟩
      · exact .inr ⟨m, s, e, s₁, .here m s, hne, hrun, run_goOn_of_error hrun n⟩
      · have hlength : m₁.ahead.length = n := by
          rw [hahead, List.length_cons] at hm
          rw [advance_ahead hahead hrun]
          omega
        rw [run_goOn_of_ok hrun]
        rcases goOn_cases setup n m₁ s₁ hlength with
          ⟨scheduler, s', hdone, hreaches⟩ | ⟨m₂, s₂, e, s', hreaches, hne₂, hfails, hdone⟩
        · exact .inl ⟨scheduler, s', hdone, .step hne hrun hreaches⟩
        · exact .inr ⟨m₂, s₂, e, s', .step hne hrun hreaches, hne₂, hfails, hdone⟩

/-! ## What milestones keep -/

/-- The configuration announces a message if it is to, and the relay is there if it is enabled. -/
def Milestone.Sound : Milestone → Prop
  | begun => True
  | configured _ config | equipped _ config _ | identified _ config _ _ => Config.Announces config
  | connected node | announced node => Config.Announces node.config
  | relayed node relay | seeded node relay => relay.isSome = node.config.enableTcpRelay
  | ready scheduler => scheduler.relay.isSome = scheduler.config.enableTcpRelay

theorem advance_sound (hm : m.ahead ≠ []) (hs : m.Sound)
    (h : (advance setup m).run s = (.ok m', s')) : m'.Sound := by
  cases m with
  | ready scheduler => exact absurd rfl hm
  | begun =>
      obtain ⟨settings, config, rfl, hannounces⟩ := begun_eq_ok h
      exact hannounces
  | configured settings config =>
      obtain ⟨factory, rfl⟩ := configured_eq_ok h
      exact hs
  | equipped settings config factory =>
      obtain ⟨keypair, t, rfl, -⟩ := equipped_eq_ok h
      exact hs
  | identified settings config factory keypair =>
      obtain ⟨engine, ipv6, creates, rfl, -⟩ := identified_eq_ok h
      exact hs
  | connected node =>
      obtain ⟨rfl, -⟩ := connected_eq_ok h
      exact hs
  | announced node =>
      obtain ⟨relay, rfl, hrelay, -⟩ := announced_eq_ok h
      exact hrelay
  | relayed node relay =>
      obtain rfl := relayed_eq_ok h
      exact hs
  | seeded node relay =>
      obtain ⟨scheduler, rfl, hconfig, hrelay⟩ := seeded_eq_ok h
      rw [Milestone.Sound, hconfig, hrelay]
      exact hs

theorem Reaches.sound (h : Reaches setup m s m' s') (hs : m.Sound) : m'.Sound := by
  induction h with
  | here m s => exact hs
  | step hm hrun _ ih => exact ih (advance_sound hm hs hrun)

/-! ## Giving up -/

/-- A start that gave up with `e` when it was at the milestone `m`: the stages in `done` had
succeeded, and `failing` was the first of the rest. -/
structure Halted (setup : Setup) (e : Failure) (s s' : Session Float) (m : Milestone)
    (s₁ : Session Float) (done : List StartStage) (failing : StartStage)
    (rest : List StartStage) : Prop where
  order : StartStage.all = done ++ failing :: rest
  reached : Reaches setup .begun s m s₁
  ahead : m.ahead = failing :: rest
  fails : (advance setup m).run s₁ = (.error e, s')
  passes : Passes (done ++ [failing]) s s'
  /-- The settings were refused, or there was no plugin: nothing has happened. -/
  untouched : failing = .configuration ∨ failing = .plugin →
    s'.files = s.files ∧ s'.calls = s.calls
  /-- There was no identity: no engine was created. -/
  uncreated : failing = .identity →
    ∃ made, s'.calls = s.calls ++ made ∧ ∀ c ∈ made, c = .generateKeypair
  /-- The network did not start: no seed was contacted. -/
  uncontacted : failing = .network ∨ failing = .announcement ∨ failing = .relay →
    ∃ made, s'.calls = s.calls ++ made ∧ ∀ c ∈ made, ¬StartStage.seeds.Makes c
  /-- The scheduler never lacks its relay: all that can fail is the interval of its turns. -/
  interval : failing = .scheduler → e = .fault .overflow

theorem tickSeconds_error {settings : ProcessSettings} {e : Failure}
    (h : settings.tickSeconds = .error e) : e = .fault .overflow := by
  rw [ProcessSettings.tickSeconds] at h
  split at h
  · exact (Except.error.inj h).symm
  · cases h

/-- The stages before one of them are known. -/
theorem before_eq {done rest : List StartStage} {failing : StartStage}
    (h : StartStage.all = done ++ failing :: rest) :
    done = StartStage.all.takeWhile (· != failing) := by
  have hnodup : (done ++ failing :: rest).Nodup := h ▸ by decide
  have hbefore : ∀ stage ∈ done, (stage != failing) = true := by
    intro stage hstage
    have hne := (List.nodup_append.mp hnodup).2.2 stage hstage failing (List.mem_cons_self ..)
    exact bne_iff_ne.mpr hne
  rw [h, List.takeWhile_append_of_pos hbefore, List.takeWhile_cons_of_neg (by simp),
    List.append_nil]

theorem seeds_of_makes {stage : StartStage} {address : String} {ipv6 : Bool} {port : Int}
    {key : Bytes} (h : stage.Makes (.bootstrap address ipv6 port key)) : stage = .seeds := by
  cases stage <;> simp [StartStage.Makes] at h ⊢

theorem halted_of_fails {e : Failure} (hreached : Reaches setup .begun s m s₁)
    (hm : m.ahead ≠ []) (hfails : (advance setup m).run s₁ = (.error e, s')) :
    ∃ done failing rest, Halted setup e s s' m s₁ done failing rest := by
  obtain ⟨done, hdone, hpasses⟩ := hreached.passes
  obtain ⟨failing, rest, hahead⟩ := List.exists_cons_of_ne_nil hm
  have hwork := advance_works setup hahead s₁
  rw [hfails] at hwork
  have hall := hpasses.snoc hwork
  have horder : StartStage.all = done ++ failing :: rest := hahead ▸ hdone
  have hbefore := before_eq horder
  refine ⟨done, failing, rest, horder, hreached, hahead, hfails, hall, ?_, ?_, ?_, ?_⟩
  · intro hfailing
    refine hall.untouched ?_
    rw [hbefore]
    rcases hfailing with rfl | rfl <;> decide
  · rintro rfl
    have hstages : done ++ [.identity] = [StartStage.configuration, .plugin, .identity] := by
      rw [hbefore]; rfl
    rw [hstages] at hall
    obtain ⟨made, hcalls, hown⟩ := hall.calls
    refine ⟨made, hcalls, fun c hc => ?_⟩
    simpa [StartStage.Makes] using hown c hc
  · intro hfailing
    obtain ⟨made, hcalls, hown⟩ := hall.calls
    refine ⟨made, hcalls, fun c hc hseed => ?_⟩
    obtain ⟨stage, hstage, hmakes⟩ := hown c hc
    obtain ⟨address, ipv6, port, key, rfl⟩ := hseed
    obtain rfl := seeds_of_makes hmakes
    rw [hbefore] at hstage
    rcases hfailing with rfl | rfl | rfl <;> exact absurd hstage (by decide)
  · rintro rfl
    have hsound := hreached.sound trivial
    cases m with
    | seeded node relay =>
        rw [run_seeded hsound] at hfails
        split at hfails
        · cases hfails
        · rename_i htick
          rw [← Except.error.inj (Prod.mk.inj hfails).1]
          exact tickSeconds_error htick
    | _ => cases hahead

/-! ## Coming up -/

/-- A start that returned: the calls it made are those of the stages, one after another. -/
structure Started (scheduler : Scheduler Float) (keypair : Keypair)
    (ipv6 : Bool) (generated creates told seeds : List (Call Float)) (s s' : Session Float) :
    Prop where
  passes : Passes StartStage.all s s'
  calls : s'.calls = s.calls ++ generated ++ creates ++ told
    ++ (if scheduler.config.enableTcpRelay then [.createRelay scheduler.config.tcpRelayPorts ipv6]
      else [])
    ++ seeds
  /-- The identity is the one in the key file. -/
  kept : Identity.Kept (Path.ofString scheduler.config.keysFilePath) keypair s.files s'.files
    generated
  created : creates ≠ []
  createdWith : ∀ c ∈ creates, ∃ ipv6, c = .create keypair scheduler.config.port ipv6
  toldOnce : scheduler.config.enableMotd = true → ∃ motd, told = [.setMotd versionNumber motd]
  toldNever : scheduler.config.enableMotd = false → told = []
  contacted : ∀ c ∈ seeds, StartStage.seeds.Makes c
  relay : scheduler.relay.isSome = scheduler.config.enableTcpRelay

/-- One message is handed over where announcing is enabled, and none otherwise. -/
theorem told_of_announces {node : Node} (hannounces : Config.Announces node.config)
    (h : (advance setup (.connected node)).run s = (.ok m, s')) :
    ∃ told, m = .announced node ∧ s'.calls = s.calls ++ told
      ∧ (node.config.enableMotd = true → ∃ motd, told = [.setMotd versionNumber motd])
      ∧ (node.config.enableMotd = false → told = []) := by
  obtain ⟨hm, hcalls⟩ := connected_eq_ok h
  refine ⟨_, hm, hcalls, ?_⟩
  have hbytes := hannounces.motdBytes
  cases hmotd : node.config.motdBytes with
  | none =>
      rw [hmotd] at hbytes
      exact ⟨fun henabled => absurd (hbytes.trans henabled) (by simp), fun _ => rfl⟩
  | some motd =>
      rw [hmotd] at hbytes
      exact ⟨fun _ => ⟨motd, rfl⟩, fun hdisabled => absurd (hbytes.trans hdisabled) (by simp)⟩

theorem started_of_reaches {scheduler : Scheduler Float}
    (h : Reaches setup .begun s (.ready scheduler) s') :
    ∃ keypair ipv6 generated creates told seeds,
      Started scheduler keypair ipv6 generated creates told seeds s s' := by
  obtain ⟨done, hdone, hpasses⟩ := h.passes
  obtain rfl : StartStage.all = done := hdone.trans (List.append_nil done)
  obtain ⟨m₁, s₁, hbegun, hconfiguration, h⟩ := h.next rfl
  obtain ⟨settings, config, rfl, hannounces⟩ := begun_eq_ok hbegun
  obtain ⟨m₂, s₂, hconfigured, hplugin, h⟩ := h.next rfl
  obtain ⟨factory, rfl⟩ := configured_eq_ok hconfigured
  obtain ⟨m₃, s₃, hequipped, -, h⟩ := h.next rfl
  obtain ⟨keypair, t, rfl, hestablish, hstored, hasked⟩ := equipped_eq_ok hequipped
  obtain ⟨m₄, s₄, hidentified, hnetwork, h⟩ := h.next rfl
  obtain ⟨engine, ipv6, creates, rfl, hcreates, hcreated, hwith⟩ := identified_eq_ok hidentified
  obtain ⟨m₅, s₅, hconnected, hannouncement, h⟩ := h.next rfl
  obtain ⟨told, rfl, htold, honce, hnever⟩ := told_of_announces hannounces hconnected
  obtain ⟨m₆, s₆, hannounced, hrelay, h⟩ := h.next rfl
  obtain ⟨relay, rfl, hsome, hrelays⟩ := announced_eq_ok hannounced
  obtain ⟨m₇, s₇, hrelayed, hseeds, h⟩ := h.next rfl
  obtain rfl := relayed_eq_ok hrelayed
  obtain ⟨seeds, hcontacted, hown⟩ := hseeds.calls
  obtain ⟨m₈, s₈, hseeded, hscheduler, h⟩ := h.next rfl
  obtain ⟨ready, hready, hconfig, hhas⟩ := seeded_eq_ok hseeded
  subst hready
  cases h with
  | step hm => exact absurd rfl hm
  | here =>
      obtain ⟨generated, hgenerated, hkept⟩ := Identity.kept_of_establish hestablish
      have hfiles : s'.files = t.files := by
        rw [hscheduler.files (by decide), hseeds.files (by decide), hrelay.files (by decide),
          hannouncement.files (by decide), hnetwork.files (by decide), hstored]
      have hbefore : s₂.files = s.files := by
        rw [hplugin.files (by decide), hconfiguration.files (by decide)]
      have hquiet : s₂.calls = s.calls := by
        rw [hplugin.silent (by simp [StartStage.Makes]),
          hconfiguration.silent (by simp [StartStage.Makes])]
      refine ⟨keypair, ipv6, generated, creates, told, seeds, hpasses, ?_, ?_, hcreated, ?_, ?_, ?_,
        hown, ?_⟩
      · rw [hscheduler.silent (by simp [StartStage.Makes]), hcontacted, hrelays, htold, hcreates,
          hasked, hgenerated, hquiet, hconfig]
      · rw [hconfig, hfiles, ← hbefore]
        exact hkept
      · rw [hconfig]
        exact hwith
      · rw [hconfig]
        exact honce
      · rw [hconfig]
        exact hnever
      · rw [hconfig, hhas]
        exact hsome

/-! ## The pipeline -/

/-- A start goes through the stages in their order, whatever the files, the settings, the engine
and the plugins are, and when it gives up it has done no work of the stages after the one that
failed. -/
theorem prepare_pipeline (setup : Setup) (s : Session Float) :
    match (prepare setup).run s with
    | (.error e, s') => ∃ m s₁ done failing rest, Halted setup e s s' m s₁ done failing rest
    | (.ok scheduler, s') => ∃ keypair ipv6 generated creates told seeds,
        Started scheduler keypair ipv6 generated creates told seeds s s' := by
  have hgo := congrArg (fun x => x.run s) (prepare_eq_goOn setup)
  simp only [run_map] at hgo
  rcases goOn_cases setup 8 .begun s rfl with
    ⟨scheduler, s', hdone, hreaches⟩ | ⟨m, s₁, e, s', hreaches, hm, hfails, hdone⟩
  · rw [hdone] at hgo
    rcases hrun : (prepare setup).run s with ⟨e | scheduler', t⟩ <;> rw [hrun] at hgo
    · cases hgo
    · obtain ⟨hready, rfl⟩ := Prod.mk.inj hgo
      obtain rfl := Milestone.ready.inj (Except.ok.inj hready)
      exact started_of_reaches hreaches
  · rw [hdone] at hgo
    rcases hrun : (prepare setup).run s with ⟨e' | scheduler, t⟩ <;> rw [hrun] at hgo
    · obtain ⟨he, rfl⟩ := Prod.mk.inj hgo
      obtain rfl := Except.error.inj he
      obtain ⟨done, failing, rest, hhalted⟩ := halted_of_fails hreaches hm hfails
      exact ⟨m, s₁, done, failing, rest, hhalted⟩
    · cases hgo

end SeedNode.Service

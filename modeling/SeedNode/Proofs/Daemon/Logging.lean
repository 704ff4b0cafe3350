import SeedNode.Proofs.Effects

/-!
# The log of a process

A configuration of logging detaches what was attached and installs handlers of its own, and its
handle owns them all (`Opened`). Writing records changes neither which handlers are attached nor how
many were built (`KeepsHandlers`). So when the handle is closed after no more than that, nothing is
attached, and of what was installed since nothing is left open (`Released`).
-/

namespace SeedNode

variable {τ : Type} {s s' s'' : Session τ}

/-! ## Writing records -/

/-- The same handlers are attached, and none was built. -/
def KeepsHandlers (s s' : Session τ) : Prop :=
  s'.logging.handlers = s.logging.handlers ∧ s'.logging.built = s.logging.built

namespace Logging

theorem emit_handlers (now : Int) (r : Record) (l : Logging) (h : Handler) :
    (emit now r l h).handlers = l.handlers ∧ (emit now r l h).built = l.built := by
  rw [emit]
  cases h.sink.takes r.level with
  | false => exact ⟨rfl, rfl⟩
  | true =>
      rw [if_pos rfl]
      cases h.format.write now r with
      | error e => exact ⟨rfl, rfl⟩
      | ok text => cases h.sink <;> exact ⟨rfl, rfl⟩

theorem foldl_emit_handlers (now : Int) (r : Record) (handlers : List Handler) (l : Logging) :
    (handlers.foldl (emit now r) l).handlers = l.handlers
      ∧ (handlers.foldl (emit now r) l).built = l.built := by
  induction handlers generalizing l with
  | nil => exact ⟨rfl, rfl⟩
  | cons h rest ih =>
      rw [List.foldl_cons, (ih _).1, (ih _).2]
      exact emit_handlers now r l h

theorem dispatch_handlers (now : Int) (l : Logging) (r : Record) :
    (l.dispatch now r).handlers = l.handlers ∧ (l.dispatch now r).built = l.built := by
  rw [dispatch]
  cases l.admits r with
  | false => exact ⟨rfl, rfl⟩
  | true => exact foldl_emit_handlers now r l.handlers _

end Logging

theorem keepsHandlers_quiet : Quiet (@KeepsHandlers τ) where
  refl _ := ⟨rfl, rfl⟩
  trans _ _ _ h h' := ⟨h'.1.trans h.1, h'.2.trans h.2⟩
  addRecord s r := Logging.dispatch_handlers s.outlets.now s.logging r

/-! ## Opening and closing -/

/-- The log was configured, and nothing else was done: everything that is attached, and everything
that was built, is owned by the handle. -/
structure Opened (s : Session τ) (handle : Handle) (s' : Session τ) : Prop where
  calls : s'.calls = s.calls
  files : s'.files = s.files
  log : s'.log = s.log
  attached : ∀ h ∈ s'.logging.handlers, h.id ∈ handle.owned
  installed : ∀ id, s.logging.built ≤ id → id < s'.logging.built → id ∈ handle.owned

/-- The log is closed: nothing is attached, and what was installed since `s` is closed. -/
def Released (s s' : Session τ) : Prop :=
  s'.logging.handlers = []
    ∧ ∀ id, s.logging.built ≤ id → id < s'.logging.built → id ∉ s'.logging.alive

theorem configure_owned {built : Except Failure (List (Sink × LineFormat))} {backend : Backend}
    {choice : LevelChoice} {l l' : Logging} {handle : Handle}
    (h : l.configure built backend choice = (.ok handle, l')) :
    (∀ h ∈ l'.handlers, h.id ∈ handle.owned)
      ∧ ∀ id, l.built ≤ id → id < l'.built → id ∈ handle.owned := by
  cases built with
  | error e => cases h
  | ok parts =>
      rw [Logging.configure, Logging.attach] at h
      cases hlevel : choice.resolve with
      | error e =>
          simp only [hlevel] at h
          cases h
      | ok level =>
          simp only [hlevel] at h
          obtain ⟨hhandle, rfl⟩ := Prod.mk.inj h
          obtain rfl := Except.ok.inj hhandle
          refine ⟨fun handler hmem => List.mem_map_of_mem hmem, fun id hlow hhigh => ?_⟩
          -- the new handlers are numbered from the first number that is not taken
          simp only [List.length_mapIdx] at hhigh
          have hbuilt : l.detachAll.built = l.built := rfl
          obtain ⟨i, rfl⟩ := Nat.exists_eq_add_of_le hlow
          have hi : i < parts.length := by omega
          rw [List.mem_map]
          exact ⟨_, List.mem_mapIdx.mpr ⟨i, hi, rfl⟩, rfl⟩

/-- The settings of the process are asked only for what is not given. -/
@[simp] theorem orSetting_some {α : Type} (a : α) (setting : ProcessSettings → α) :
    SessionM.orSetting (some a) setting = (pure a : SessionM τ α) := rfl

@[simp] theorem orSetting_none {α : Type} (setting : ProcessSettings → α) :
    SessionM.orSetting none setting = (setting <$> SessionM.settings : SessionM τ α) := rfl

/-- A configuration that is given everything. -/
theorem run_configureWith_given (build : Logging.Builder) (backend : Backend) (choice : LevelChoice)
    (json : Bool) (s : Session τ) :
    (SessionM.configureWith build (some backend) (some choice) (some json)).run s
      = ((s.logging.configure (build s.outlets backend json) backend choice).1,
        { s with logging :=
          (s.logging.configure (build s.outlets backend json) backend choice).2 }) := by
  simp [SessionM.configureWith]

/-- Settings that were read once are known from then on; a failed reading leaves nothing behind. -/
theorem settings_cached (environment : Variables) (files : Tree) (cache : SettingsCache) :
    (∃ e, cache.current = none ∧ ProcessSettings.read environment files = .error e
        ∧ cache.get environment files = (.error e, cache))
      ∨ ∃ known cache', cache.get environment files = (.ok known, cache')
        ∧ ∀ environment files, cache'.get environment files = (.ok known, cache') := by
  cases hcurrent : cache.current with
  | some known =>
      have hget : ∀ environment files, cache.get environment files = (.ok known, cache) := by
        intro environment files
        rw [SettingsCache.get, hcurrent]
      exact .inr ⟨known, cache, hget _ _, hget⟩
  | none =>
      cases hread : ProcessSettings.read environment files with
      | error e => exact .inl ⟨e, rfl, rfl, by simp [SettingsCache.get, hcurrent, hread]⟩
      | ok settings =>
          let known := (cache.readings, settings)
          refine .inr ⟨known, ⟨some known, cache.readings + 1⟩, ?_, fun _ _ => rfl⟩
          simp [SettingsCache.get, hcurrent, hread, known]

/-- A configuration that asks the settings of the process for what it is not given. -/
theorem run_configureWith_asked (build : Logging.Builder) (backend : Backend) (s : Session τ) :
    (∃ e, s.settings.current = none ∧ ProcessSettings.read s.environment s.files = .error e
        ∧ (SessionM.configureWith build (some backend) none none).run s = (.error e, s))
      ∨ ∃ known cache, s.settings.get s.environment s.files = (.ok known, cache)
        ∧ (SessionM.configureWith build (some backend) none none).run s
          = (SessionM.configureWith build (some backend) (some (.word known.2.logLevel))
            (some known.2.wantsJson)).run { s with settings := cache } := by
  rcases settings_cached s.environment s.files s.settings with
    ⟨e, hcurrent, hread, hget⟩ | ⟨known, cache, hget, hagain⟩
  · exact .inl ⟨e, hcurrent, hread, by simp [SessionM.configureWith, hget, Except.map]⟩
  · exact .inr ⟨known, cache, hget, by simp [SessionM.configureWith, hget, hagain, Except.map]⟩

theorem run_configureWith_of_unread {build : Logging.Builder} {backend : Backend} {e : Failure}
    (hcurrent : s.settings.current = none)
    (hread : ProcessSettings.read s.environment s.files = .error e) :
    (SessionM.configureWith build (some backend) none none).run s = (.error e, s) := by
  rcases run_configureWith_asked build backend s with
    ⟨e', -, hread', hrun⟩ | ⟨known, cache, hget, -⟩
  · obtain rfl := Except.error.inj (hread.symm.trans hread')
    exact hrun
  · rw [SettingsCache.get, hcurrent] at hget
    simp only [hread] at hget
    cases hget

/-- A configuration that is given everything opens the log, unless the system refuses to build the
handlers or the level is unusable, and no failure is about settings. -/
theorem configureWith_given_cases (refusal : Option OsError) (backend : Backend)
    (choice : LevelChoice) (json : Bool) (s : Session τ) :
    (∃ e s', (SessionM.configureWith (Logging.building refusal) (some backend) (some choice)
          (some json)).run s = (.error e, s')
        ∧ (∀ problems, e ≠ .settings problems)
        ∧ s'.calls = s.calls ∧ s'.files = s.files ∧ s'.log = s.log)
      ∨ ∃ handle s', (SessionM.configureWith (Logging.building refusal) (some backend) (some choice)
          (some json)).run s = (.ok handle, s')
        ∧ Opened s handle s' := by
  rw [run_configureWith_given]
  rcases hconfigure : s.logging.configure (Logging.building refusal s.outlets backend json) backend
    choice with ⟨e | handle, logging⟩
  · refine .inl ⟨e, _, rfl, ?_, rfl, rfl, rfl⟩
    rintro problems rfl
    cases refusal with
    | some e => cases hconfigure
    | none =>
        rw [Logging.building, Logging.configure, Logging.attach] at hconfigure
        cases hlevel : choice.resolve <;> simp only [hlevel] at hconfigure <;> cases hconfigure
  · obtain ⟨hattached, hinstalled⟩ := configure_owned hconfigure
    exact .inr ⟨handle, _, rfl, rfl, rfl, rfl, hattached, hinstalled⟩

/-- Where the settings of the process are read and usable, and the handlers are built, the log is
opened. Otherwise nothing was done, or the level that they name or the handlers are refused. -/
theorem configureWith_cases (refusal : Option OsError) (backend : Backend) (s : Session τ) :
    (∃ e, s.settings.current = none ∧ ProcessSettings.read s.environment s.files = .error e
        ∧ (SessionM.configureWith (Logging.building refusal) (some backend) none none).run s
          = (.error e, s))
      ∨ (∃ e s', (SessionM.configureWith (Logging.building refusal) (some backend) none none).run s
          = (.error e, s')
        ∧ (∀ problems, e ≠ .settings problems)
        ∧ s'.calls = s.calls ∧ s'.files = s.files ∧ s'.log = s.log)
      ∨ ∃ handle s', (SessionM.configureWith (Logging.building refusal) (some backend) none
          none).run s = (.ok handle, s')
        ∧ Opened s handle s' := by
  rcases run_configureWith_asked (Logging.building refusal) backend s with
    ⟨e, hcurrent, hread, hrun⟩ | ⟨known, cache, -, hrun⟩
  · exact .inl ⟨e, hcurrent, hread, hrun⟩
  · rw [hrun]
    rcases configureWith_given_cases refusal backend (.word known.2.logLevel) known.2.wantsJson
      { s with settings := cache } with
      hfailed | ⟨handle, s', hopen, hopened⟩
    · exact .inr (.inl hfailed)
    · exact .inr (.inr ⟨handle, s', hopen, { hopened with }⟩)

/-- Where handlers are built, a log that is opened with a level by number needs nothing else. -/
theorem configureWith_plainly (backend : Backend) (level : Level) (json : Bool) (s : Session τ) :
    ∃ handle s', (SessionM.configureWith (Logging.building none) (some backend)
      (some (.number level)) (some json)).run s = (.ok handle, s') ∧ Opened s handle s' := by
  rw [run_configureWith_given]
  rcases hconfigure : s.logging.configure (Logging.building none s.outlets backend json) backend
    (.number level) with ⟨e | handle, logging⟩
  · cases hconfigure
  · obtain ⟨hattached, hinstalled⟩ := configure_owned hconfigure
    exact ⟨handle, _, rfl, rfl, rfl, rfl, hattached, hinstalled⟩

/-- Closing the handle releases what it opened, if the handlers are those it installed. -/
theorem released_of_closed {handle : Handle} (h : Opened s handle s')
    (hkeeps : KeepsHandlers s' s'') :
    ∃ t, (discard (SessionM.closeLog handle) : SessionM τ Unit).run s'' = (.ok (), t)
      ∧ Released s t ∧ t.calls = s''.calls ∧ t.files = s''.files ∧ t.log = s''.log := by
  refine ⟨{ s'' with logging := (s''.logging.close handle).2 }, rfl, ⟨?_, fun id hlow hhigh => ?_⟩,
    rfl, rfl, rfl⟩
  · rw [Logging.close, List.filter_eq_nil_iff]
    intro handler hmem
    rw [hkeeps.1] at hmem
    simpa using h.attached handler hmem
  · have hbuilt : id < s'.logging.built := hkeeps.2 ▸ hhigh
    have howned := h.installed id hlow hbuilt
    rw [Logging.close]
    intro hmem
    simp [howned] at hmem

end SeedNode

import SeedNode.Proofs.Log.Ownership

/-!
# Configurations that fail

A configuration first learns the level and the form that are asked for, from whoever asks or from
the settings of the process, and then replaces what is attached by handlers of its own. These are
built once the old ones are gone, which the system can refuse, and only at the very end the level is
set. Any word asks for a level, but for two that are reserved for something else (`resolve_eq_ok`).
So a failure leaves the log as it was just if the settings could not be read, or nothing was
attached (`failed_configuration_keeps_log_iff`).
-/

namespace SeedNode

variable {τ α : Type}

/-! ## Words for levels -/

namespace Level

variable {word name : String} {level : Level} {c : Char}

/-- A word in upper case, as it is compared with the names of levels. -/
def spelled (word : String) : String :=
  String.ofList (word.toList.flatMap upper)

/-- A word that stands for something that is no level. -/
def Reserved (word : String) : Prop :=
  spelled word = "BASIC_FORMAT" ∨ spelled word = "_STYLES"

instance : Decidable (Reserved word) :=
  inferInstanceAs (Decidable (_ ∨ _))

/-- The level that a word names, or that of ordinary information if it names none. -/
def meant (word : String) : Level :=
  (byName.lookup (spelled word)).getD info

theorem not_named_of_reserved (h : Reserved word) : byName.lookup (spelled word) = none := by
  rcases h with h | h <;> rw [h] <;> decide

theorem ofWord_eq_ok : ofWord word = .ok level ↔ ¬Reserved word ∧ level = meant word := by
  rw [meant]
  cases hnamed : byName.lookup (spelled word) with
  | some named =>
      have hfree : ¬Reserved word := by
        intro hreserved
        rw [not_named_of_reserved hreserved] at hnamed
        cases hnamed
      have hword : ofWord word = .ok named := by
        rw [spelled] at hnamed
        simp only [ofWord, hnamed]
      simp [hword, hfree, eq_comm]
  | none =>
      have hword : ofWord word =
          if spelled word = "BASIC_FORMAT" then .error (.unknownLevel basicFormat)
          else if spelled word = "_STYLES" then .error (.unusableLevel styleTable)
          else .ok info := by
        rw [spelled] at hnamed ⊢
        simp only [ofWord, hnamed]
      rw [hword]
      by_cases hformat : spelled word = "BASIC_FORMAT"
      · simp [Reserved, hformat]
      · by_cases hstyles : spelled word = "_STYLES"
        · simp [Reserved, hstyles]
        · simp [Reserved, hformat, hstyles, eq_comm]

theorem upper_of_toUpper_le (h : c.toUpper ≤ 'Z') : upper c = [c.toUpper] := by
  -- the characters with an upper case of their own are no capital letters themselves
  have hne : ∀ d : Char, d.toUpper = d → ¬d ≤ 'Z' → c ≠ d := by
    rintro d hd hhigh rfl
    exact hhigh (hd ▸ h)
  rw [upper, if_neg (hne _ (by decide) (by decide)), if_neg (hne _ (by decide) (by decide)),
    if_neg (hne _ (by decide) (by decide)), if_neg (hne _ (by decide) (by decide)),
    if_neg (hne _ (by decide) (by decide)), if_neg (hne _ (by decide) (by decide)),
    if_neg (hne _ (by decide) (by decide)), if_neg (hne _ (by decide) (by decide)),
    if_neg (not_or.mpr ⟨hne _ (by decide) (by decide), hne _ (by decide) (by decide)⟩)]

/-- The letter case of a name does not matter. -/
theorem ofWord_of_named (hnamed : (name, level) ∈ byName)
    (hword : word.toList.map Char.toUpper = name.toList) : ofWord word = .ok level := by
  have hcapitals : ∀ entry ∈ byName, (entry.1.toList.all (· ≤ 'Z')) = true
      ∧ byName.lookup entry.1 = some entry.2 := by decide
  obtain ⟨hcapital, hlookup⟩ := hcapitals _ hnamed
  have hspelled : spelled word = name := by
    have hupper : word.toList.flatMap upper = word.toList.map Char.toUpper := by
      rw [List.map_eq_flatMap]
      refine List.flatMap_congr fun c hc => upper_of_toUpper_le ?_
      refine of_decide_eq_true (List.all_eq_true.mp hcapital _ ?_)
      rw [← hword]
      exact List.mem_map_of_mem hc
    rw [spelled, hupper, hword, String.ofList_toList]
  have hlooked : byName.lookup (spelled word) = some level := by rw [hspelled, hlookup]
  refine ofWord_eq_ok.mpr ⟨fun hreserved => ?_, by rw [meant, hlooked]; rfl⟩
  rw [not_named_of_reserved hreserved] at hlooked
  cases hlooked

end Level

namespace LevelChoice

variable {choice : LevelChoice} {level : Level}

/-- A level that is asked for by a reserved word. -/
def Reserved : LevelChoice → Prop
  | number _ => False
  | word text => Level.Reserved text

def meant : LevelChoice → Level
  | number level => level
  | word text => Level.meant text

theorem resolve_eq_ok : choice.resolve = .ok level ↔ ¬choice.Reserved ∧ level = choice.meant := by
  cases choice with
  | number n => simp [resolve, Reserved, meant, eq_comm]
  | word text => exact Level.ofWord_eq_ok

end LevelChoice

/-! ## Handlers that are replaced -/

namespace Logging

variable {choice : LevelChoice} {l l' : Logging}

/-- The same handlers are attached, each as open as it was, and the level is the same. -/
structure Untouched (l l' : Logging) : Prop where
  handlers : l'.handlers = l.handlers
  alive : ∀ h ∈ l.handlers, (h.id ∈ l'.alive ↔ h.id ∈ l.alive)
  level : l'.level = l.level

theorem Untouched.refl (l : Logging) : l.Untouched l :=
  ⟨rfl, fun _ _ => Iff.rfl, rfl⟩

/-- What cannot be built, and a reserved word, is refused when nothing is attached any more. -/
theorem configure_cases (built : Except Failure (List (Sink × LineFormat))) (backend : Backend)
    (choice : LevelChoice) (l : Logging) :
    (((∃ e, built = .error e) ∨ choice.Reserved)
        ∧ ∃ e l', l.configure built backend choice = (.error e, l')
          ∧ l'.handlers = [] ∧ l'.level = l.level)
      ∨ (∃ parts, built = .ok parts) ∧ ¬choice.Reserved
        ∧ ∃ handle l', l.configure built backend choice = (.ok handle, l')
          ∧ handle.level = choice.meant ∧ l'.level = choice.meant := by
  cases built with
  | error e => exact .inl ⟨.inl ⟨e, rfl⟩, e, _, rfl, rfl, rfl⟩
  | ok parts =>
      rw [configure, attach]
      cases hlevel : choice.resolve with
      | ok level =>
          obtain ⟨husable, rfl⟩ := LevelChoice.resolve_eq_ok.mp hlevel
          exact .inr ⟨⟨parts, rfl⟩, husable, _, _, rfl, rfl, rfl⟩
      | error fault =>
          have hreserved : choice.Reserved := by
            by_contra husable
            cases hlevel.symm.trans (LevelChoice.resolve_eq_ok.mpr ⟨husable, rfl⟩)
          exact .inl ⟨.inr hreserved, .fault fault, _, rfl, rfl, rfl⟩

theorem untouched_iff_of_detached (hhandlers : l'.handlers = []) (hlevel : l'.level = l.level) :
    l.Untouched l' ↔ l.handlers = [] := by
  refine ⟨fun h => h.handlers.symm.trans hhandlers, fun hnone => ⟨?_, fun h hmem => ?_, hlevel⟩⟩
  · rw [hhandlers, hnone]
  · rw [hnone] at hmem
    cases hmem

end Logging

/-! ## What a configuration is asked for -/

namespace SessionM

variable {s s₁ : Session τ} {level : Option LevelChoice} {json : Option Bool}

/-- The settings of the process, or why there are none. -/
def inForce (s : Session τ) : Except Failure ProcessSettings :=
  (s.settings.get s.environment s.files).1.map Prod.snd

/-- What is given, else what the settings of the process say. -/
def Says (given : Option α) (setting : ProcessSettings → α) (s : Session τ) (a : α) : Prop :=
  given = some a ∨ given = none ∧ ∃ p, inForce s = .ok p ∧ setting p = a

/-- The level that is asked for: the one that is given, else the one that the settings name. -/
abbrev Asks (level : Option LevelChoice) (s : Session τ) (choice : LevelChoice) : Prop :=
  Says level (fun p => .word p.logLevel) s choice

/-- The form that is asked for, likewise. -/
abbrev AsksForm (json : Option Bool) (s : Session τ) (form : Bool) : Prop :=
  Says json (·.wantsJson) s form

/-- The settings of the process are needed, and there are none. -/
def LacksSettings (level : Option LevelChoice) (json : Option Bool) (s : Session τ) : Prop :=
  (level = none ∨ json = none) ∧ ∃ e, inForce s = .error e

/-- Nothing was done to the log, nor to what the settings of the process are. -/
structure SameLog (s s₁ : Session τ) : Prop where
  logging : s₁.logging = s.logging
  outlets : s₁.outlets = s.outlets
  settings : inForce s₁ = inForce s

theorem SameLog.refl (s : Session τ) : SameLog s s :=
  ⟨rfl, rfl, rfl⟩

theorem SameLog.trans {s s₁ s₂ : Session τ} (h : SameLog s s₁) (h' : SameLog s₁ s₂) :
    SameLog s s₂ :=
  ⟨h'.logging.trans h.logging, h'.outlets.trans h.outlets, h'.settings.trans h.settings⟩

theorem orSetting_cases (given : Option α) (setting : ProcessSettings → α) (s : Session τ) :
    (∃ a s₁, (orSetting given setting).run s = (.ok a, s₁) ∧ Says given setting s a ∧ SameLog s s₁)
      ∨ given = none ∧ ∃ e, inForce s = .error e
        ∧ (orSetting given setting).run s = (.error e, s) := by
  cases given with
  | some a => exact .inl ⟨a, s, rfl, .inl rfl, .refl s⟩
  | none =>
      rw [orSetting_none, run_map, run_settings]
      rcases settings_cached s.environment s.files s.settings with
        ⟨e, -, -, hget⟩ | ⟨known, cache, hget, hagain⟩
      · rw [hget]
        exact .inr ⟨rfl, e, by rw [inForce, hget]; rfl, rfl⟩
      · rw [hget]
        have hforce : inForce s = .ok known.2 := by rw [inForce, hget]; rfl
        refine .inl ⟨_, _, rfl, .inr ⟨rfl, known.2, hforce, rfl⟩, rfl, rfl, ?_⟩
        rw [hforce, inForce, hagain]
        rfl

theorem Says.read {given : Option α} {setting : ProcessSettings → α} {a : α}
    (h : Says given setting s a) (hnone : given = none) : ∃ p, inForce s = .ok p := by
  rcases h with h | ⟨-, p, hp, -⟩
  · cases hnone.symm.trans h
  · exact ⟨p, hp⟩

theorem Says.congr {given : Option α} {setting : ProcessSettings → α} {a : α}
    (h : Says given setting s₁ a) (hsame : inForce s₁ = inForce s) : Says given setting s a := by
  rw [Says, hsame] at h
  exact h

/-- What a configuration comes to: it needs settings that there are none of, and has done nothing to
the log; or it finds out what it is asked for, and is refused that when nothing is attached any
more, or returns with it. -/
inductive Configured (build : Logging.Builder) (backend : Option Backend)
    (level : Option LevelChoice) (json : Option Bool) (s : Session τ) :
    Except Failure Handle → Session τ → Prop
  | unread {e : Failure} {s' : Session τ} (hunread : LacksSettings level json s)
      (hlogging : s'.logging = s.logging) : Configured build backend level json s (.error e) s'
  | refused {choice : LevelChoice} {form : Bool} {e : Failure} {s' : Session τ}
      (hread : ¬LacksSettings level json s) (hchoice : Asks level s choice)
      (hform : AsksForm json s form)
      (hrefused : (∃ e, build s.outlets (backend.getD s.outlets.backend) form = .error e)
        ∨ choice.Reserved)
      (hhandlers : s'.logging.handlers = []) (hlevel : s'.logging.level = s.logging.level) :
      Configured build backend level json s (.error e) s'
  | returned {choice : LevelChoice} {form : Bool} {handle : Handle} {s' : Session τ}
      (hread : ¬LacksSettings level json s) (hchoice : Asks level s choice)
      (hform : AsksForm json s form)
      (hbuilt : ∃ parts, build s.outlets (backend.getD s.outlets.backend) form = .ok parts)
      (husable : ¬choice.Reserved) (hhandle : handle.level = choice.meant)
      (hlevel : s'.logging.level = choice.meant) :
      Configured build backend level json s (.ok handle) s'

theorem configureWith_configured (build : Logging.Builder) (backend : Option Backend)
    (level : Option LevelChoice) (json : Option Bool) (s : Session τ) :
    ∃ result s', (configureWith build backend level json).run s = (result, s')
      ∧ Configured build backend level json s result s' := by
  rw [configureWith, run_bind_of_ok (run_get s)]
  rcases orSetting_cases level (fun p => .word p.logLevel) s with
    ⟨choice, s₁, hrun₁, hchoice, hsame⟩ | ⟨hlevel, e, hforce, hrun⟩
  case inr => exact ⟨_, _, run_bind_of_error hrun _, .unread ⟨.inl hlevel, e, hforce⟩ rfl⟩
  rw [run_bind_of_ok hrun₁]
  rcases orSetting_cases json (·.wantsJson) s₁ with
    ⟨form, s₂, hrun₂, hform, hsame'⟩ | ⟨hjson, e, hforce, hrun⟩
  case inr =>
    rw [hsame.settings] at hforce
    exact ⟨_, _, run_bind_of_error hrun _, .unread ⟨.inr hjson, e, hforce⟩ hsame.logging⟩
  have hlog : SameLog s s₂ := hsame.trans hsame'
  have hform : AsksForm json s form := hform.congr hsame.settings
  have hread : ¬LacksSettings level json s := by
    rintro ⟨hneeded, e, hforce⟩
    obtain ⟨p, hp⟩ : ∃ p, inForce s = .ok p := hneeded.elim hchoice.read hform.read
    cases hforce.symm.trans hp
  rw [run_bind_of_ok hrun₂]
  simp only [run_bind, run_get, run_set, run_ofExcept, hlog.logging, hlog.outlets]
  rcases Logging.configure_cases (build s.outlets (backend.getD s.outlets.backend) form)
      (backend.getD s.outlets.backend) choice s.logging with
    ⟨hrefused, e, l, hconfigure, hhandlers, hlevel⟩
      | ⟨hbuilt, husable, handle, l, hconfigure, hhandle, hlevel⟩
  · rw [hconfigure]
    exact ⟨_, _, rfl, .refused hread hchoice hform hrefused hhandlers hlevel⟩
  · rw [hconfigure]
    exact ⟨_, _, rfl, .returned hread hchoice hform hbuilt husable hhandle hlevel⟩

theorem configured_of_run {build : Logging.Builder} {backend : Option Backend}
    {result : Except Failure Handle} {s' : Session τ}
    (h : (configureWith build backend level json).run s = (result, s')) :
    Configured build backend level json s result s' := by
  obtain ⟨result', s'', hrun, hcourse⟩ := configureWith_configured build backend level json s
  obtain ⟨rfl, rfl⟩ := Prod.mk.inj (h.symm.trans hrun)
  exact hcourse

theorem Says.unique {given : Option α} {setting : ProcessSettings → α} {a b : α}
    (ha : Says given setting s a) (hb : Says given setting s b) : a = b := by
  rcases ha with ha | ⟨ha, p, hp, rfl⟩ <;> rcases hb with hb | ⟨hb, q, hq, rfl⟩
  · exact Option.some.inj (ha.symm.trans hb)
  · cases ha.symm.trans hb
  · cases ha.symm.trans hb
  · rw [Except.ok.inj (hp.symm.trans hq)]

/-! ## The law -/

/-- How configurations of the log of a process go, where the system lets some handlers be built. -/
structure Configurable
    (configuring : Option Backend → Option LevelChoice → Option Bool → SessionM τ Handle)
    (build : Logging.Builder) (s : Session τ) : Prop where
  /-- A configuration fails where settings are needed that there are none of, where its handlers
  cannot be built, and where the level is asked for by a reserved word. -/
  returns : ∀ backend level json,
    (∃ handle s', (configuring backend level json).run s = (.ok handle, s'))
      ↔ ¬LacksSettings level json s
        ∧ (∀ form, AsksForm json s form →
          ∃ parts, build s.outlets (backend.getD s.outlets.backend) form = .ok parts)
        ∧ ∀ choice, Asks level s choice → ¬choice.Reserved
  /-- The level is the one that is asked for. -/
  level : ∀ backend level json handle s',
    (configuring backend level json).run s = (.ok handle, s') →
    ∃ choice, Asks level s choice
      ∧ handle.level = choice.meant ∧ s'.logging.level = choice.meant
  /-- A failure keeps the level. It keeps what is attached if it comes from the settings, or if
  nothing is; otherwise nothing is attached any more. -/
  failed : ∀ backend level json e s',
    (configuring backend level json).run s = (.error e, s') →
    s'.logging.level = s.logging.level
      ∧ (s.logging.Untouched s'.logging ↔ LacksSettings level json s ∨ s.logging.handlers = [])
      ∧ (¬s.logging.Untouched s'.logging → s'.logging.handlers = [])

theorem configureWith_configurable (build : Logging.Builder) (s : Session τ) :
    Configurable (configureWith build) build s where
  returns backend level json := by
    obtain ⟨result, s', hrun, hcourse⟩ := configureWith_configured build backend level json s
    rw [hrun]
    have hfails : ∀ e, result = .error e → ¬∃ handle s'', (result, s') = (.ok handle, s'') := by
      rintro e rfl ⟨handle, s'', h⟩
      cases h
    cases hcourse with
    | unread hunread => exact iff_of_false (hfails _ rfl) fun h => h.1 hunread
    | refused hread hchoice hform hrefused =>
        refine iff_of_false (hfails _ rfl) ?_
        rintro ⟨-, hbuilds, husable⟩
        rcases hrefused with ⟨e, hrefused⟩ | hreserved
        · obtain ⟨parts, hparts⟩ := hbuilds _ hform
          cases hrefused.symm.trans hparts
        · exact husable _ hchoice hreserved
    | returned hread hchoice hform hbuilt husable =>
        exact iff_of_true ⟨_, _, rfl⟩ ⟨hread, fun other hother => hform.unique hother ▸ hbuilt,
          fun other hother => hchoice.unique hother ▸ husable⟩
  level backend level json handle s' hrun := by
    cases configured_of_run hrun with
    | returned hread hchoice hform hbuilt husable hhandle hlevel =>
        exact ⟨_, hchoice, hhandle, hlevel⟩
  failed backend level json e s' hrun := by
    cases configured_of_run hrun with
    | unread hunread hlogging =>
        rw [hlogging]
        exact ⟨rfl, iff_of_true (.refl _) (.inl hunread), fun h => absurd (.refl _) h⟩
    | refused hread hchoice hform hrefused hhandlers hlevel =>
        refine ⟨hlevel, ?_, fun _ => hhandlers⟩
        rw [Logging.untouched_iff_of_detached hhandlers hlevel, or_iff_right hread]

theorem not_lacksSettings_of_given (choice : LevelChoice) (json : Bool) (s : Session τ) :
    ¬LacksSettings (some choice) (some json) s := by
  rintro ⟨h | h, -⟩ <;> cases h

/-- A configuration returns with the level that is asked for, by number, by a name in any letter
case or by any other word, unless that word is one of the two reserved ones or the settings of the
process are needed and cannot be read. If it fails, the log is as it was just if the settings could
not be read or nothing was attached. The same holds where the system refuses to let handlers be
built, which is one more way to fail. -/
theorem failed_configuration_keeps_log_iff (s : Session τ) :
    Configurable configureLog (Logging.building none) s
      ∧ (∀ build, Configurable (configureWith build) build s)
      ∧ ∀ name level, (name, level) ∈ Level.byName → ∀ word : String,
        word.toList.map Char.toUpper = name.toList → Level.ofWord word = .ok level := by
  have hlog : (configureLog : _ → _ → _ → SessionM τ Handle)
      = configureWith (Logging.building none) := rfl
  rw [hlog]
  exact ⟨configureWith_configurable _ s, fun build => configureWith_configurable build s,
    fun _ _ hnamed _ => Level.ofWord_of_named hnamed⟩

/-! ## A log that is lost -/

/-- A process that writes its log to the terminal. -/
def writing : Session Unit :=
  { Session.start Tree.empty [] ⟨true, [], 0⟩ with
    logging := { Logging.initial with
      level := Level.info
      handlers := [⟨0, .out, .standard true⟩, ⟨1, .err, .standard true⟩]
      alive := [0, 1]
      built := 2 } }

theorem failed_configuration_keeps_log_iff_by_name :
    ∃ handle s', (configureLog (some .stdout) (some (.word "Fatal")) (some false)).run writing
        = (.ok handle, s')
      ∧ Level.ofWord "Fatal" = .ok 50 ∧ handle.level = 50 ∧ s'.logging.level = 50 := by
  obtain ⟨hconfigurable, -, hnames⟩ := failed_configuration_keeps_log_iff writing
  have hword : Level.ofWord "Fatal" = .ok 50 := hnames "FATAL" 50 (by decide) "Fatal" (by decide)
  have husable : ¬(LevelChoice.word "Fatal").Reserved := (Level.ofWord_eq_ok.mp hword).1
  have hasks : Asks (some (.word "Fatal")) writing (.word "Fatal") := .inl rfl
  obtain ⟨handle, s', hrun⟩ := (hconfigurable.returns (some .stdout) (some (.word "Fatal"))
    (some false)).mpr ⟨not_lacksSettings_of_given _ _ _, fun form _ => ⟨_, rfl⟩,
      fun other hother => hasks.unique hother ▸ husable⟩
  obtain ⟨choice, hasks', hlevels⟩ := hconfigurable.level _ _ _ _ _ hrun
  obtain rfl := hasks.unique hasks'
  exact ⟨handle, s', hrun, hword, hlevels⟩

/-- A reserved word fails, and what was attached is lost. -/
theorem reserved_word_loses_handlers :
    ∃ e s', (configureLog (some .stdout) (some (.word "basic_format")) (some false)).run writing
        = (.error e, s')
      ∧ s'.logging.handlers = [] ∧ ¬writing.logging.Untouched s'.logging := by
  have hasks : Asks (some (.word "basic_format")) writing (.word "basic_format") := .inl rfl
  have hreserved : (LevelChoice.word "basic_format").Reserved :=
    (by decide : Level.Reserved "basic_format")
  obtain ⟨result, s', hrun, hcourse⟩ := configureWith_configured (Logging.building none)
    (some .stdout) (some (.word "basic_format")) (some false) writing
  cases hcourse with
  | unread hunread => exact absurd hunread (not_lacksSettings_of_given _ _ _)
  | refused hread hchoice hform hrefused hhandlers hlevel =>
      refine ⟨_, s', hrun, hhandlers, ?_⟩
      rw [Logging.untouched_iff_of_detached hhandlers hlevel]
      simp [writing]
  | returned hread hchoice hform hbuilt husable =>
      obtain rfl := hasks.unique hchoice
      exact absurd hreserved husable

end SessionM

end SeedNode

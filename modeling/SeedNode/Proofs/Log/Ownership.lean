import Mathlib.Data.List.Induction
import SeedNode.Proofs.Log.Delivery

/-!
# Handles own their handlers

A process may configure its log many times over, keep the handles in any order, and close each of
them any number of times. Each configuration detaches what is attached and numbers its own handlers
from where the numbers ended, so no handler is owned twice: the handle of the latest configuration
owns all that is attached, and the others own none of it (`Consistent`). Hence closing that handle
detaches everything and closing another one nothing, and as long as it is not closed what it
installed stays attached (`handles_own_handlers`).
-/

namespace SeedNode

variable {τ : Type}

/-! ## Configurations -/

namespace Logging

variable {o : Outlets} {backend : Backend} {choice : LevelChoice} {json : Bool}
  {l l' : Logging} {handle : Handle} {i : Nat} {h : Handler}

/-- What a configuration that succeeded left attached and gave to its handle: handlers for each part
of the layout, with numbers that no handler had before. -/
structure Installed (l : Logging) (o : Outlets) (json : Bool) (handle : Handle) (l' : Logging) :
    Prop where
  handlers : l'.handlers = (layout o handle.backend json).mapIdx fun i part =>
    ⟨l.built + i, part.1, part.2⟩
  owned : handle.owned = l'.handlers.map (·.id)
  level : l'.level = handle.level
  built : l'.built = l.built + l'.handlers.length

theorem installed_of_configure
    (h : l.configure (.ok (layout o backend json)) backend choice = (.ok handle, l')) :
    l.Installed o json handle l' := by
  rw [configure, attach] at h
  cases hlevel : choice.resolve with
  | error e =>
      simp only [hlevel] at h
      cases h
  | ok level =>
      simp only [hlevel] at h
      obtain ⟨hhandle, rfl⟩ := Prod.mk.inj h
      obtain rfl := Except.ok.inj hhandle
      exact ⟨rfl, rfl, rfl, rfl⟩

namespace Installed

theorem id_bounds (hinstalled : l.Installed o json handle l') (hmem : h ∈ l'.handlers) :
    l.built ≤ h.id ∧ h.id < l'.built := by
  rw [hinstalled.built]
  rw [hinstalled.handlers] at hmem ⊢
  obtain ⟨i, hi, rfl⟩ := List.mem_mapIdx.mp hmem
  rw [List.length_mapIdx]
  exact ⟨Nat.le_add_right _ _, Nat.add_lt_add_left hi _⟩

theorem owned_bounds (hinstalled : l.Installed o json handle l') (hid : i ∈ handle.owned) :
    l.built ≤ i ∧ i < l'.built := by
  rw [hinstalled.owned] at hid
  obtain ⟨h, hmem, rfl⟩ := List.mem_map.mp hid
  exact hinstalled.id_bounds hmem

/-- On the terminal there are two handlers of one form, one for each stream. -/
theorem terminal (hinstalled : l.Installed o json handle l') (hbackend : handle.backend = .stdout) :
    ∃ format i j, l'.handlers = [⟨i, .out, format⟩, ⟨j, .err, format⟩] := by
  rw [hinstalled.handlers, hbackend]
  exact ⟨_, _, _, rfl⟩

end Installed

end Logging

namespace SessionM

variable {backend : Option Backend} {level : Option LevelChoice} {json : Option Bool}
  {s s' : Session τ} {handle : Handle}

/-- Asking the settings of the process leaves the log as it is. -/
theorem keepsLog_orSetting {α : Type} (given : Option α) (setting : ProcessSettings → α) :
    Keeps (fun s t : Session τ => t.logging = s.logging ∧ t.outlets = s.outlets)
      (orSetting given setting) := by
  cases given with
  | some a => exact .pure (fun _ => ⟨rfl, rfl⟩) a
  | none =>
      refine .map fun s => ?_
      rw [run_settings]
      exact ⟨rfl, rfl⟩

theorem installed_of_run (h : (configureLog backend level json).run s = (.ok handle, s')) :
    ∃ form, s.logging.Installed s.outlets form handle s'.logging := by
  rw [configureLog, configureWith, run_bind_of_ok (run_get s)] at h
  obtain ⟨choice, t, hchoice, h⟩ := run_bind_eq_ok.mp h
  obtain ⟨form, u, hform, h⟩ := run_bind_eq_ok.mp h
  have ht := keepsLog_orSetting level (fun p => .word p.logLevel) s
  have hu := keepsLog_orSetting json (·.wantsJson) t
  rw [hchoice] at ht
  rw [hform] at hu
  have hlogging : u.logging = s.logging := hu.1.trans ht.1
  have houtlets : u.outlets = s.outlets := hu.2.trans ht.2
  simp only [run_bind, run_get, run_set, run_ofExcept, hlogging, houtlets] at h
  obtain ⟨hhandle, rfl⟩ := Prod.mk.inj h
  exact ⟨form, Logging.installed_of_configure (Prod.ext hhandle rfl)⟩

end SessionM

namespace Logging

variable {l : Logging} {handle : Handle}

/-! ## Closing -/

theorem close_owned (h : handle.owned = l.handlers.map (·.id)) :
    (l.close handle).2.handlers = [] := by
  unfold close
  rw [List.filter_eq_nil_iff]
  intro handler hmem
  have hid : handler.id ∈ handle.owned := by
    rw [h]
    exact List.mem_map_of_mem hmem
  simpa using hid

theorem close_apart (h : ∀ handler ∈ l.handlers, handler.id ∉ handle.owned) :
    (l.close handle).2.handlers = l.handlers := by
  unfold close
  rw [List.filter_eq_self]
  intro handler hmem
  simpa using h handler hmem

end Logging

/-! ## Processes that hold handles -/

/-- A process with the handles of the configurations of its log, oldest first. -/
structure Holder (τ : Type) where
  session : Session τ
  handles : List Handle

namespace Holder

/-- What a process does with its log. -/
inductive Act where
  | configure (backend : Option Backend) (level : Option LevelChoice) (json : Option Bool)
  /-- Closes one of the handles, whether or not it was closed before. -/
  | close (i : Nat)
  | record (r : Record)
  /-- Anything that has nothing to do with the log. -/
  | elsewhere (files : Tree) (environment : Variables) (settings : SettingsCache)
      (outlets : Outlets)

def Act.isConfigure : Act → Bool
  | .configure .. => true
  | _ => false

/-- What an act leaves behind. Only a configuration can fail, and only a handle that there is can be
closed. -/
def perform (d : Holder τ) : Act → Option (Holder τ)
  | .configure backend level json =>
    match (SessionM.configureLog backend level json).run d.session with
    | (.ok handle, session) => some ⟨session, d.handles ++ [handle]⟩
    | (.error _, _) => none
  | .close i => do
    let handle ← d.handles[i]?
    match (SessionM.closeLog handle).run d.session with
    | (.ok closed, session) => some ⟨session, d.handles.set i closed⟩
    | (.error _, _) => none
  | .record r => some { d with session := d.session.addRecord r }
  | .elsewhere files environment settings outlets =>
    some { d with session := { d.session with files, environment, settings, outlets } }

def play (d : Holder τ) (acts : List Act) : Option (Holder τ) :=
  acts.foldlM perform d

/-- A process that has not configured its log. Others may have. -/
def fresh (s : Session τ) : Holder τ :=
  ⟨s, []⟩

variable {d d' : Holder τ} {a : Act} {acts : List Act}

/-- What an act that succeeded did. -/
inductive Performed (d : Holder τ) : Act → Holder τ → Prop
  | configure {backend : Option Backend} {level : Option LevelChoice} {json : Option Bool}
      {form : Bool} {handle : Handle} {session : Session τ}
      (h : d.session.logging.Installed d.session.outlets form handle session.logging) :
      Performed d (.configure backend level json) ⟨session, d.handles ++ [handle]⟩
  | close {i : Nat} {handle : Handle} (h : d.handles[i]? = some handle) :
      Performed d (.close i)
        ⟨{ d.session with logging := (d.session.logging.close handle).2 },
          d.handles.set i { handle with owned := [] }⟩
  | record (r : Record) : Performed d (.record r) ⟨d.session.addRecord r, d.handles⟩
  | elsewhere (files : Tree) (environment : Variables) (settings : SettingsCache)
      (outlets : Outlets) :
      Performed d (.elsewhere files environment settings outlets)
        ⟨{ d.session with files, environment, settings, outlets }, d.handles⟩

/-- A log that is configured with a backend, a level by number and a form. -/
def plainly (l : Logging) (o : Outlets) (backend : Backend) (level : Level) (json : Bool) :
    Logging :=
  (l.configure (.ok (Logging.layout o backend json)) backend (.number level)).2

/-- A configuration that is given everything, and the level by number, succeeds. -/
theorem perform_configure (d : Holder τ) (backend : Backend) (level : Level) (json : Bool) :
    ∃ handle, handle.backend = backend ∧
      d.perform (.configure (some backend) (some (.number level)) (some json))
        = some ⟨{ d.session with
            logging := plainly d.session.logging d.session.outlets backend level json },
          d.handles ++ [handle]⟩ := by
  obtain ⟨handle, hhandle, hbackend⟩ : ∃ handle, (d.session.logging.configure
      (Logging.building none d.session.outlets backend json) backend (.number level)).1 = .ok handle
        ∧ handle.backend = backend := ⟨_, rfl, rfl⟩
  have hrun :=
    run_configureWith_given (Logging.building none) backend (.number level) json d.session
  rw [hhandle] at hrun
  refine ⟨handle, hbackend, ?_⟩
  simp only [perform, SessionM.configureLog, hrun]
  rfl

theorem perform_close {i : Nat} {handle : Handle} (h : d.handles[i]? = some handle) :
    d.perform (.close i) = some ⟨{ d.session with logging := (d.session.logging.close handle).2 },
      d.handles.set i { handle with owned := [] }⟩ := by
  simp only [perform, h]
  rfl

theorem performed (h : d.perform a = some d') : Performed d a d' := by
  cases a with
  | configure backend level json =>
      unfold perform at h
      rcases hrun : (SessionM.configureLog backend level json).run d.session with ⟨e | handle, s⟩
      · simp only [hrun] at h
        cases h
      · simp only [hrun] at h
        obtain rfl := Option.some.inj h
        obtain ⟨form, hinstalled⟩ := SessionM.installed_of_run hrun
        exact .configure hinstalled
  | close i =>
      cases hhandle : d.handles[i]? with
      | none =>
          simp only [perform, hhandle] at h
          cases h
      | some handle =>
          rw [perform_close hhandle] at h
          obtain rfl := Option.some.inj h
          exact .close hhandle
  | record r =>
      obtain rfl := Option.some.inj h
      exact .record r
  | elsewhere files environment settings outlets =>
      obtain rfl := Option.some.inj h
      exact .elsewhere files environment settings outlets

theorem play_append (d : Holder τ) (acts later : List Act) :
    d.play (acts ++ later) = (d.play acts).bind (·.play later) :=
  List.foldlM_append

theorem play_snoc (d : Holder τ) (acts : List Act) (a : Act) :
    d.play (acts ++ [a]) = (d.play acts).bind (·.perform a) := by
  rw [play_append]
  congr 1
  funext next
  exact bind_pure (next.perform a)

/-- What every act that succeeds preserves holds after every run that succeeds. -/
theorem play_induction {P : Holder τ → Prop}
    (hstep : ∀ d a d', a ∈ acts → P d → Performed d a d' → P d')
    (h : P d) (hplay : d.play acts = some d') : P d' := by
  induction acts generalizing d with
  | nil =>
      obtain rfl := Option.some.inj hplay
      exact h
  | cons a acts ih =>
      obtain ⟨next, hnext, hplay⟩ := Option.bind_eq_some_iff.mp hplay
      exact ih (fun d b d' hb => hstep d b d' (List.mem_cons_of_mem a hb))
        (hstep d a next List.mem_cons_self h (performed hnext)) hplay

/-! ## Whose handlers are attached -/

/-- The handle of the latest configuration owns just what is attached, and the others own none of
it. -/
structure Consistent (d : Holder τ) : Prop where
  /-- Every number that a handle owns was given away. -/
  numbered : ∀ (i : Nat) (handle : Handle), d.handles[i]? = some handle →
    ∀ id ∈ handle.owned, id < d.session.logging.built
  latest : ∀ (i : Nat) (handle : Handle), i + 1 = d.handles.length → d.handles[i]? = some handle →
    handle.owned = d.session.logging.handlers.map (·.id)
  superseded : ∀ (i : Nat) (handle : Handle), i + 1 < d.handles.length →
    d.handles[i]? = some handle → ∀ h ∈ d.session.logging.handlers, h.id ∉ handle.owned

theorem consistent_fresh (s : Session τ) : Consistent (fresh s) where
  numbered i handle h := by cases h
  latest i handle h := by cases h
  superseded i handle h := by cases h

/-- What is attached and what was built is all that counts of a session. -/
theorem Consistent.of_keeps {s : Session τ} (hc : Consistent d) (h : KeepsHandlers d.session s) :
    Consistent ⟨s, d.handles⟩ := by
  obtain ⟨hhandlers, hbuilt⟩ := h
  refine ⟨?_, ?_, ?_⟩
  · rw [hbuilt]
    exact hc.numbered
  · rw [hhandlers]
    exact hc.latest
  · rw [hhandlers]
    exact hc.superseded

/-- A handle is added behind the others. -/
theorem getElem?_added {handles : List Handle} {i : Nat} {handle other : Handle}
    (h : (handles ++ [handle])[i]? = some other) :
    (i < handles.length ∧ handles[i]? = some other) ∨ (i = handles.length ∧ other = handle) := by
  rcases Nat.lt_or_ge i handles.length with hlt | hge
  · rw [List.getElem?_append_left hlt] at h
    exact .inl ⟨hlt, h⟩
  · have hi : i < (handles ++ [handle]).length := (List.getElem?_eq_some_iff.mp h).1
    rw [List.length_append, List.length_singleton] at hi
    rw [List.getElem?_append_right hge] at h
    exact .inr ⟨by omega, List.mem_singleton.mp (List.mem_of_getElem? h)⟩

theorem Consistent.configure {handle : Handle} {session : Session τ} {form : Bool}
    (hc : Consistent d)
    (h : d.session.logging.Installed d.session.outlets form handle session.logging) :
    Consistent ⟨session, d.handles ++ [handle]⟩ := by
  refine ⟨fun i other hi id hid => ?_, fun i other hlast hi => ?_,
    fun i other hbefore hi handler hmem hid => ?_⟩
  · rcases getElem?_added hi with ⟨-, hi⟩ | ⟨-, rfl⟩
    · have hlow := hc.numbered i other hi id hid
      rw [h.built]
      omega
    · exact (h.owned_bounds hid).2
  · rw [List.length_append, List.length_singleton] at hlast
    rcases getElem?_added hi with ⟨hlt, -⟩ | ⟨-, rfl⟩
    · omega
    · exact h.owned
  · rw [List.length_append, List.length_singleton] at hbefore
    rcases getElem?_added hi with ⟨-, hi⟩ | ⟨heq, -⟩
    · -- the older handle owns numbers that were given away before
      have hlow := hc.numbered i other hi handler.id hid
      have hhigh := (h.id_bounds hmem).1
      omega
    · omega

theorem close_superseded {i : Nat} {handle : Handle} (hc : Consistent d)
    (hlength : i + 1 < d.handles.length) (hi : d.handles[i]? = some handle) :
    (d.session.logging.close handle).2.handlers = d.session.logging.handlers :=
  Logging.close_apart (hc.superseded i handle hlength hi)

theorem close_latest {i : Nat} {handle : Handle} (hc : Consistent d)
    (hlength : i + 1 = d.handles.length) (hi : d.handles[i]? = some handle) :
    (d.session.logging.close handle).2.handlers = [] :=
  Logging.close_owned (hc.latest i handle hlength hi)

/-- Closing a handle empties it and leaves the others. -/
theorem getElem?_closed {handles : List Handle} {i j : Nat} {handle other : Handle}
    (h : (handles.set i { handle with owned := [] })[j]? = some other) :
    (i = j ∧ other.owned = []) ∨ (i ≠ j ∧ handles[j]? = some other) := by
  by_cases hij : i = j
  · subst hij
    have hi : i < (handles.set i { handle with owned := [] }).length :=
      (List.getElem?_eq_some_iff.mp h).1
    rw [List.length_set] at hi
    rw [List.getElem?_set_self hi] at h
    exact .inl ⟨rfl, by rw [← Option.some.inj h]⟩
  · rw [List.getElem?_set_ne hij] at h
    exact .inr ⟨hij, h⟩

theorem Consistent.close {i : Nat} {handle : Handle} (hc : Consistent d)
    (h : d.handles[i]? = some handle) :
    Consistent ⟨{ d.session with logging := (d.session.logging.close handle).2 },
      d.handles.set i { handle with owned := [] }⟩ := by
  have hi : i < d.handles.length := (List.getElem?_eq_some_iff.mp h).1
  refine ⟨fun j other hj id hid => ?_, fun j other hlength hj => ?_,
    fun j other hlength hj handler hmem hid => ?_⟩
  · rcases getElem?_closed hj with ⟨-, hempty⟩ | ⟨-, hj⟩
    · rw [hempty] at hid
      cases hid
    · exact hc.numbered j other hj id hid
  · rw [List.length_set] at hlength
    rcases getElem?_closed hj with ⟨rfl, hempty⟩ | ⟨hij, hj⟩
    · rw [hempty, close_latest hc hlength h, List.map_nil]
    · rw [close_superseded hc (by omega) h]
      exact hc.latest j other hlength hj
  · rw [List.length_set] at hlength
    rcases getElem?_closed hj with ⟨-, hempty⟩ | ⟨-, hj⟩
    · rw [hempty] at hid
      cases hid
    · exact hc.superseded j other hlength hj handler (List.mem_filter.mp hmem).1 hid

theorem Consistent.perform (hc : Consistent d) (h : Performed d a d') : Consistent d' := by
  cases h with
  | configure h => exact hc.configure h
  | close h => exact hc.close h
  | record r => exact hc.of_keeps (keepsHandlers_quiet.addRecord d.session r)
  | elsewhere => exact hc.of_keeps ⟨rfl, rfl⟩

theorem consistent_of_play {s : Session τ} (h : (fresh s).play acts = some d) : Consistent d :=
  play_induction (fun _ _ _ _ hc h => hc.perform h) (consistent_fresh s) h

/-! ## Closed handles -/

/-- There is a handle at the index, and it is closed. -/
def ClosedAt (i : Nat) (d : Holder τ) : Prop :=
  ∃ handle, d.handles[i]? = some handle ∧ handle.owned = []

/-- A closed handle stays closed. -/
theorem ClosedAt.perform {i : Nat} (hclosed : ClosedAt i d) (h : Performed d a d') :
    ClosedAt i d' := by
  obtain ⟨handle, hi, hempty⟩ := hclosed
  cases h with
  | configure =>
      have hlt : i < d.handles.length := (List.getElem?_eq_some_iff.mp hi).1
      refine ⟨handle, ?_, hempty⟩
      rw [List.getElem?_append_left hlt]
      exact hi
  | @close j other hj =>
      by_cases hij : j = i
      · subst hij
        exact ⟨_, List.getElem?_set_self (List.getElem?_eq_some_iff.mp hi).1, rfl⟩
      · refine ⟨handle, ?_, hempty⟩
        rw [List.getElem?_set_ne hij]
        exact hi
  | record | elsewhere => exact ⟨handle, hi, hempty⟩

theorem closedAt_of_performed {i : Nat} (h : Performed d (.close i) d') : ClosedAt i d' := by
  cases h with
  | close hi =>
      exact ⟨_, List.getElem?_set_self (List.getElem?_eq_some_iff.mp hi).1, rfl⟩

theorem closedAt_of_mem {i : Nat} (hplay : d.play acts = some d') (hmem : .close i ∈ acts) :
    ClosedAt i d' := by
  obtain ⟨first, later, rfl⟩ := List.append_of_mem hmem
  rw [play_append] at hplay
  obtain ⟨d₁, -, hplay⟩ := Option.bind_eq_some_iff.mp hplay
  obtain ⟨d₂, hclose, hplay⟩ := Option.bind_eq_some_iff.mp hplay
  exact play_induction (fun _ _ _ _ hclosed h => hclosed.perform h)
    (closedAt_of_performed (performed hclose)) hplay

/-! ## Open handles -/

/-- What the handle of the latest configuration installed is still attached. -/
structure OpenAt (n : Nat) (handle : Handle) (handlers : List Handler) (d : Holder τ) : Prop where
  length : d.handles.length = n + 1
  held : d.handles[n]? = some handle
  attached : d.session.logging.handlers = handlers

theorem OpenAt.perform {n : Nat} {handle : Handle} {handlers : List Handler} (hc : Consistent d)
    (hopen : OpenAt n handle handlers d) (ha : a.isConfigure = false) (hn : a ≠ .close n)
    (h : Performed d a d') : OpenAt n handle handlers d' := by
  obtain ⟨hlength, hheld, hattached⟩ := hopen
  cases h with
  | configure => cases ha
  | @close i other hi =>
      have hin : i ≠ n := fun heq => hn (by rw [heq])
      have hlt : i < d.handles.length := (List.getElem?_eq_some_iff.mp hi).1
      refine ⟨?_, ?_, ?_⟩
      · rw [List.length_set, hlength]
      · rw [List.getElem?_set_ne hin, hheld]
      · rw [close_superseded hc (by omega) hi, hattached]
  | record r =>
      exact ⟨hlength, hheld, (keepsHandlers_quiet.addRecord d.session r).1.trans hattached⟩
  | elsewhere => exact ⟨hlength, hheld, hattached⟩

/-! ## Since the latest configuration -/

/-- The latest configuration of a process made `d₂` of `d₁`, and `later` led from there to `d`. It
added a handle behind those of `d₁`. -/
structure Since (s : Session τ) (d₁ d₂ : Holder τ) (later : List Act) (d : Holder τ) : Prop where
  before : ∃ acts, (fresh s).play acts = some d₁
  configured : ∃ backend level json, d₁.perform (.configure backend level json) = some d₂
  after : d₂.play later = some d
  latest : ∀ a ∈ later, a.isConfigure = false

namespace Since

variable {s : Session τ} {d₁ d₂ : Holder τ} {later : List Act}

theorem snoc (h : Since s d₁ d₂ later d) (ha : a.isConfigure = false)
    (hperform : d.perform a = some d') : Since s d₁ d₂ (later ++ [a]) d' := by
  refine ⟨h.before, h.configured, ?_, ?_⟩
  · rw [play_snoc, h.after]
    exact hperform
  · intro b hb
    rcases List.mem_append.mp hb with hb | hb
    · exact h.latest b hb
    · rw [List.mem_singleton.mp hb, ha]

/-- Every run with a configuration has a latest one. -/
theorem of_play (hplay : (fresh s).play acts = some d) (hacts : ∃ a ∈ acts, a.isConfigure = true) :
    ∃ d₁ d₂ later, Since s d₁ d₂ later d := by
  induction acts using List.reverseRecOn generalizing d with
  | nil =>
      obtain ⟨a, ha, -⟩ := hacts
      cases ha
  | append_singleton acts a ih =>
      rw [play_snoc] at hplay
      obtain ⟨d', hbefore, hperform⟩ := Option.bind_eq_some_iff.mp hplay
      cases hlatest : a.isConfigure with
      | true =>
          cases a with
          | configure backend level json =>
              exact ⟨d', d, [], ⟨⟨acts, hbefore⟩, ⟨_, _, _, hperform⟩, rfl,
                List.forall_mem_nil _⟩⟩
          | close | record | elsewhere => cases hlatest
      | false =>
          have hearlier : ∃ b ∈ acts, b.isConfigure = true := by
            obtain ⟨b, hb, hconfigure⟩ := hacts
            rcases List.mem_append.mp hb with hb | hb
            · exact ⟨b, hb, hconfigure⟩
            · rw [List.mem_singleton.mp hb, hlatest] at hconfigure
              cases hconfigure
          obtain ⟨d₁, d₂, later, hsince⟩ := ih hbefore hearlier
          exact ⟨d₁, d₂, later ++ [a], hsince.snoc hlatest hperform⟩

theorem installed (h : Since s d₁ d₂ later d) : ∃ handle form,
    d₂.handles = d₁.handles ++ [handle] ∧
      d₁.session.logging.Installed d₁.session.outlets form handle d₂.session.logging := by
  obtain ⟨backend, level, json, hconfigured⟩ := h.configured
  cases performed hconfigured with
  | configure hinstalled => exact ⟨_, _, rfl, hinstalled⟩

theorem consistent (h : Since s d₁ d₂ later d) : Consistent d₂ := by
  obtain ⟨acts, hbefore⟩ := h.before
  obtain ⟨backend, level, json, hconfigured⟩ := h.configured
  exact (consistent_of_play hbefore).perform (performed hconfigured)

theorem length (h : Since s d₁ d₂ later d) : d.handles.length = d₁.handles.length + 1 := by
  obtain ⟨handle, form, hhandles, -⟩ := h.installed
  refine play_induction (P := fun d => d.handles.length = d₁.handles.length + 1)
    (fun d a d' ha hlength hperformed => ?_) ?_ h.after
  · cases hperformed with
    | configure => cases h.latest _ ha
    | close => rw [List.length_set, hlength]
    | record | elsewhere => exact hlength
  · rw [hhandles, List.length_append, List.length_singleton]

theorem attached (h : Since s d₁ d₂ later d) (hopen : .close d₁.handles.length ∉ later) :
    d.session.logging.handlers = d₂.session.logging.handlers := by
  obtain ⟨handle, form, hhandles, -⟩ := h.installed
  have hstart : OpenAt d₁.handles.length handle d₂.session.logging.handlers d₂ := by
    refine ⟨?_, ?_, rfl⟩
    · rw [hhandles, List.length_append, List.length_singleton]
    · rw [hhandles, List.getElem?_concat_length]
  have hend := play_induction
    (P := fun d => Consistent d ∧
      OpenAt d₁.handles.length handle d₂.session.logging.handlers d)
    (fun d a d' ha hd hperformed => by
      have hn : a ≠ .close d₁.handles.length := fun heq => hopen (heq ▸ ha)
      exact ⟨hd.1.perform hperformed, hd.2.perform hd.1 (h.latest a ha) hn hperformed⟩)
    ⟨h.consistent, hstart⟩ h.after
  exact hend.2.attached

theorem detached (h : Since s d₁ d₂ later d) (hclosed : .close d₁.handles.length ∈ later) :
    d.session.logging.handlers = [] := by
  obtain ⟨handle, hheld, hempty⟩ := closedAt_of_mem h.after hclosed
  have hc : Consistent d :=
    play_induction (fun _ _ _ _ hc h => hc.perform h) h.consistent h.after
  have howned := hc.latest _ handle h.length.symm hheld
  rw [hempty] at howned
  exact List.map_eq_nil_iff.mp howned.symm

end Since

/-! ## Ownership and delivery -/

/-- As long as a handle of the terminal is open, every record that passes and can be put as text is
written once. -/
def Delivers (passes : Logging → Record → Prop) (s : Session τ) : Prop :=
  ∀ (d₁ d₂ : Holder τ) (later : List Act) (d : Holder τ) (handle : Handle),
    Since s d₁ d₂ later d → d₂.handles = d₁.handles ++ [handle] → handle.backend = .stdout →
    .close d₁.handles.length ∉ later →
    ∃ format, (∀ h ∈ d.session.logging.handlers, h.format = format) ∧
      ∀ r, passes d.session.logging r → format.Writable d.session.outlets.now r →
        WrittenOnce format d.session.outlets.now r d.session.logging
          (d.session.addRecord r).logging

/-- What is said of the handles of a process over all its runs. -/
structure OwnHandlers (s : Session τ) : Prop where
  /-- A log whose level is given by number can always be configured. -/
  opening : ∀ (d : Holder τ) (backend : Backend) (level : Level) (json : Bool), ∃ d',
    d.perform (.configure (some backend) (some (.number level)) (some json)) = some d'
  /-- Every run with a configuration has a latest one, and what followed it. -/
  latest : ∀ acts d, (fresh s).play acts = some d → (∃ a ∈ acts, a.isConfigure = true) →
    ∃ d₁ d₂ later, Since s d₁ d₂ later d
  /-- What is attached is what the latest configuration installed, or nothing once its handle is
  closed. -/
  attached : ∀ d₁ d₂ later d, Since s d₁ d₂ later d → ∃ handle form,
    d₂.handles = d₁.handles ++ [handle] ∧
      d₁.session.logging.Installed d₁.session.outlets form handle d₂.session.logging ∧
      (.close d₁.handles.length ∉ later →
        d.session.logging.handlers = d₂.session.logging.handlers) ∧
      (.close d₁.handles.length ∈ later → d.session.logging.handlers = [])
  /-- A handle that is superseded or closed can be closed again, to no effect. -/
  closing : ∀ acts d i, (fresh s).play acts = some d →
    i + 1 < d.handles.length ∨ .close i ∈ acts → ∃ d', d.perform (.close i) = some d' ∧
      d'.session.logging.handlers = d.session.logging.handlers ∧
      d'.session.logging.level = d.session.logging.level
  /-- A record counts if its level is above zero and not below that of the log, where zero stands
  for warnings. -/
  delivered : Delivers (fun l r => l.admits r = true) s
  /-- Only a value for structured output and a time that is far away keep a record from being put as
  text. -/
  plain : ∀ (format : LineFormat) (now : Int) (r : Record), r.extra = none →
    (r.created.getD now).natAbs ≤ 1000000000000000 → format.Writable now r

theorem closing_changes_nothing {s : Session τ} {i : Nat} (hplay : (fresh s).play acts = some d)
    (h : i + 1 < d.handles.length ∨ .close i ∈ acts) : ∃ d', d.perform (.close i) = some d' ∧
      d'.session.logging.handlers = d.session.logging.handlers ∧
      d'.session.logging.level = d.session.logging.level := by
  rcases h with hlength | hmem
  · have hi := List.getElem?_eq_getElem (Nat.lt_of_succ_lt hlength)
    exact ⟨_, perform_close hi, close_superseded (consistent_of_play hplay) hlength hi, rfl⟩
  · obtain ⟨handle, hi, hempty⟩ := closedAt_of_mem hplay hmem
    refine ⟨_, perform_close hi, Logging.close_apart fun handler _ => ?_, rfl⟩
    rw [hempty]
    exact List.not_mem_nil

theorem delivers_admitted (s : Session τ) : Delivers (fun l r => l.admits r = true) s := by
  intro d₁ d₂ later d handle hsince hhandles hbackend hopen
  obtain ⟨latest, form, hlatest, hinstalled⟩ := hsince.installed
  obtain rfl : handle = latest := by
    rw [hhandles] at hlatest
    exact List.singleton_inj.mp (List.append_cancel_left hlatest)
  obtain ⟨format, i, j, hhandlers⟩ := hinstalled.terminal hbackend
  have hattached : d.session.logging.handlers = [⟨i, .out, format⟩, ⟨j, .err, format⟩] :=
    (hsince.attached hopen).trans hhandlers
  refine ⟨format, ?_, fun r hadmits hwritable =>
    Logging.dispatch_terminal hattached hadmits hwritable⟩
  rw [hattached]
  simp

theorem handles_own_handlers (s : Session τ) : OwnHandlers s where
  opening d backend level json := by
    obtain ⟨handle, -, hperform⟩ := perform_configure d backend level json
    exact ⟨_, hperform⟩
  latest _ _ hplay hacts := Since.of_play hplay hacts
  attached d₁ d₂ later d h := by
    obtain ⟨handle, form, hhandles, hinstalled⟩ := h.installed
    exact ⟨handle, form, hhandles, hinstalled, h.attached, h.detached⟩
  closing _ _ _ hplay h := closing_changes_nothing hplay h
  delivered := delivers_admitted s
  plain format _ _ hextra htime := format.writable_of_plain hextra htime

/-- A record that does not count is not written, however it passes otherwise. -/
theorem not_delivers_of_passed {passes : Logging → Record → Prop} {s : Session τ} (level : Level)
    {r : Record} (hpasses : passes (plainly s.logging s.outlets .stdout level false) r)
    (hadmits : (plainly s.logging s.outlets .stdout level false).admits r = false)
    (hplain : r.extra = none) (htime : (r.created.getD s.outlets.now).natAbs ≤ 1000000000000000) :
    ¬ Delivers passes s := by
  intro h
  obtain ⟨handle, hbackend, hconfigured⟩ := perform_configure (fresh s) .stdout level false
  let d : Holder τ :=
    ⟨{ s with logging := plainly s.logging s.outlets .stdout level false }, [handle]⟩
  have hsince : Since s (fresh s) d [] d :=
    ⟨⟨[], rfl⟩, ⟨_, _, _, hconfigured⟩, rfl, List.forall_mem_nil _⟩
  obtain ⟨format, -, hwritten⟩ := h (fresh s) d [] d handle hsince rfl hbackend List.not_mem_nil
  have honce := hwritten r hpasses (format.writable_of_plain hplain htime)
  have hkept : (d.session.addRecord r).logging = d.session.logging :=
    Logging.dispatch_of_not_admitted hadmits
  rw [hkept] at honce
  exact not_writtenOnce_self _ _ _ _ honce

/-- A record that counts may still have no text: with a value that has no structured form it is
dropped by an open log that writes such output, on both streams. -/
theorem record_without_form_dropped {s : Session τ} (level : Level) {r : Record} {v : Value}
    {e : Failure} (hadmits : (plainly s.logging s.outlets .stdout level true).admits r = true)
    (hextra : r.extra = some v) (hform : Json.write v = .error e) :
    ∃ handle d, (fresh s).perform
        (.configure (some .stdout) (some (.number level)) (some true)) = some d
      ∧ d.handles = [handle] ∧ handle.backend = .stdout ∧ d.session.logging.admits r = true
      ∧ (d.session.addRecord r).logging.stdout = d.session.logging.stdout
      ∧ (d.session.addRecord r).logging.stderr = d.session.logging.stderr := by
  obtain ⟨handle, hbackend, hconfigured⟩ := perform_configure (fresh s) .stdout level true
  have hunwritten : ∀ h ∈ (plainly s.logging s.outlets .stdout level true).handlers,
      ∃ e, h.format.write s.outlets.now r = .error e := by
    have hhandlers : (plainly s.logging s.outlets .stdout level true).handlers
        = [⟨_, .out, .json⟩, ⟨_, .err, .json⟩] := rfl
    rw [hhandlers]
    intro h hmem
    have hformat : h.format = .json := by
      rcases List.mem_pair.mp hmem with rfl | rfl <;> rfl
    exact ⟨e, by rw [hformat, LineFormat.write_json_of_extra hextra hform]⟩
  have hkept : ((plainly s.logging s.outlets .stdout level true).dispatch s.outlets.now r)
      = { plainly s.logging s.outlets .stdout level true with
          accepted := (plainly s.logging s.outlets .stdout level true).accepted ++ [r] } := by
    rw [Logging.dispatch, if_pos hadmits]
    exact Logging.foldl_emit_of_unwritten hunwritten
  refine ⟨handle, _, hconfigured, rfl, hbackend, hadmits, ?_⟩
  have hout := congrArg Logging.stdout hkept
  have herr := congrArg Logging.stderr hkept
  exact ⟨hout, herr⟩

/-- It is not enough that the level of a record is not below that of the log: levels up to zero are
off, and above zero too a log of the level zero counts from warnings only. Nor is it enough that a
record counts: a date has no structured form, so a record with one is written nowhere. -/
theorem not_delivers_by_level :
    ¬ Delivers (fun l r => r.source = "bootstrapd" ∧ l.level ≤ r.level)
        (Session.start Tree.empty [] ⟨false, [], 1767323045⟩ : Session Unit) ∧
      ¬ Delivers (fun l r => r.source = "bootstrapd" ∧ l.level ≤ r.level ∧ 0 < r.level)
        (Session.start Tree.empty [] ⟨false, [], 1767323045⟩ : Session Unit) ∧
      (let s : Session Unit := .start Tree.empty [] ⟨false, [], 1767323045⟩
      let r : Record := { level := 40, source := "bootstrapd", message := "m",
                          extra := some (.date ⟨2026, 1, 2⟩) }
      ∃ handle d, (fresh s).perform
          (.configure (some .stdout) (some (.number Level.info)) (some true)) = some d
        ∧ d.handles = [handle] ∧ handle.backend = .stdout ∧ d.session.logging.admits r = true
        ∧ (d.session.addRecord r).logging.stdout = d.session.logging.stdout
        ∧ (d.session.addRecord r).logging.stderr = d.session.logging.stderr) := by
  refine ⟨?_, ?_, record_without_form_dropped Level.info (by decide) rfl rfl⟩
  · let r : Record := { level := -3, source := "bootstrapd", message := "m" }
    exact not_delivers_of_passed (-5) (r := r) ⟨rfl, by decide⟩ (by decide) rfl (by decide)
  · let r : Record := { level := 10, source := "bootstrapd", message := "m" }
    exact not_delivers_of_passed 0 (r := r) ⟨rfl, by decide, by decide⟩ (by decide) rfl (by decide)

end Holder

end SeedNode

import SeedNode.Proofs.Daemon.Forking
import SeedNode.Proofs.Daemon.Logging
import SeedNode.Proofs.Loop.Keeping
import SeedNode.Proofs.Loop.Rounds
import SeedNode.Proofs.Startup.Fallback

/-!
# The daemon from beginning to end

A start of the daemon opens its log, goes through the stages, detaches, and runs the loop, each only
after what comes before it. `Course` lists where it can end, with what comes out there. The calls it
made are those of the stages, then those of the way out, then those of the loop. All that happens
between the opening of the log and its closing leaves the handlers alone, so wherever it ends the
log is closed and nothing is left open.
-/

namespace SeedNode.Detach

variable {τ : Type}

/-! ## Calls on the way out -/

/-- The calls that leave the process that launched the daemon, or the surroundings it was launched
in. -/
inductive Leaving : Call τ → Prop
  | fork : Leaving .fork
  | detach : Leaving .detach
  | umask (mask : Nat) : Leaving (.umask mask)
  | setsid : Leaving .setsid
  | chdir (path : String) : Leaving (.chdir path)
  | openNull : Leaving .openNull
  | dup2 (source target : Int) : Leaving (.dup2 source target)
  | close (descriptor : Int) : Leaving (.close descriptor)

/-- Whether a call splits the process, or hands it to a detacher that was given. -/
def splits : Call τ → Bool
  | .fork | .detach => true
  | _ => false

/-- The calls of a process that is already the service. -/
def Settling (c : Call τ) : Prop :=
  Leaving c ∧ splits c = false

theorem pointed_settling (os : Processes τ) (null : Int) :
    ∀ (streams : List Int) (calls : List (Call τ)),
      ∀ c ∈ (pointed os null streams calls).1, Settling c
  | [], _, c, hc => by cases hc
  | stream :: rest, calls, c, hc => by
      rw [pointed] at hc
      have hfirst : Settling (.dup2 null stream : Call τ) := ⟨.dup2 _ _, rfl⟩
      split at hc
      · rcases List.mem_cons.mp hc with rfl | hc
        · exact hfirst
        · exact pointed_settling os null rest _ c hc
      · rwa [List.mem_singleton.mp hc]

theorem Redirects.settling {os : Processes τ} {calls made : List (Call τ)}
    {outcome : Except Failure Unit} (h : Redirects os calls made outcome) :
    ∀ c ∈ made, Settling c := by
  have hopen : Settling (.openNull : Call τ) := ⟨.openNull, rfl⟩
  cases h with
  | unopened hnull => simpa using hopen
  | @taken null _ _ hnull hlow hmade =>
      have hpointed := pointed_settling os null [0, 1, 2] (calls ++ [.openNull])
      rw [hmade] at hpointed
      simpa using ⟨hopen, hpointed⟩
  | @closed null made outcome hnull hhigh hmade =>
      have hclose : Settling (.close null : Call τ) := ⟨.close null, rfl⟩
      have hpointed := pointed_settling os null [0, 1, 2] (calls ++ [.openNull])
      rw [hmade] at hpointed
      intro c hc
      simp only [List.cons_append, List.mem_cons, List.mem_append, List.not_mem_nil, or_false]
        at hc
      rcases hc with rfl | hc | rfl
      · exact hopen
      · exact hpointed c hc
      · exact hclose

theorem Became.settling {os : Processes τ} {keepStdio : Bool} {calls made : List (Call τ)}
    {outcome : Except Failure Unit} (h : Became os keepStdio calls made outcome) :
    ∀ c ∈ made, Settling c := by
  have hmask : Settling (.umask 0 : Call τ) := ⟨.umask 0, rfl⟩
  have hlead : Settling (.setsid : Call τ) := ⟨.setsid, rfl⟩
  have hmove : Settling (.chdir "/" : Call τ) := ⟨.chdir "/", rfl⟩
  cases h with
  | masked => simpa using hmask
  | unled => simpa using ⟨hmask, hlead⟩
  | unmoved | attached => simpa using ⟨hmask, hlead, hmove⟩
  | redirected _ _ _ _ hredirects => simpa using ⟨hmask, hlead, hmove, hredirects.settling⟩

/-- What a way to detach does to a session. -/
structure Detaches (s s' : Session τ) : Prop where
  handlers : KeepsHandlers s s'
  calls : ∃ left, s'.calls = s.calls ++ left ∧ (∀ c ∈ left, Leaving c) ∧ left.countP splits ≤ 1

theorem detaches_of_settling {made : List (Call τ)} {c : Call τ} (s : Session τ) (t : Tree)
    (hc : Leaving c) (hmade : ∀ c ∈ made, Settling c) :
    Detaches s ((c :: made).foldl Session.addCall { s with files := t }) := by
  have hnone : made.countP splits = 0 := by
    rw [List.countP_eq_zero]
    intro c hc
    simp [(hmade c hc).2]
  rw [foldl_addCall]
  refine ⟨⟨rfl, rfl⟩, c :: made, rfl, ?_, ?_⟩
  · simpa using ⟨hc, fun c hc => (hmade c hc).1⟩
  · rw [List.countP_cons, hnone]
    split <;> omega

theorem Forked.detaches {os : Processes τ} {path : Path} {keepStdio : Bool} {s s' : Session τ}
    {outcome : Except Failure Role} (h : Forked os path keepStdio s outcome s') :
    Detaches s s' := by
  have hfork : ∀ t, Detaches s ({ s with files := t }.addCall .fork) :=
    fun t => detaches_of_settling s t .fork (List.forall_mem_nil _)
  have hstill : ∀ t, Detaches s { s with files := t } := fun t => ⟨⟨rfl, rfl⟩, [], by simp⟩
  cases h with
  | refused => exact hstill s.files
  | unnameable => exact hstill s.files
  | forkless => exact hstill _
  | unforked | unrecorded => exact hfork _
  | launched =>
      obtain ⟨hhandlers, hcalls⟩ := hfork _
      exact ⟨keepsHandlers_quiet.trans _ _ _ hhandlers (keepsHandlers_quiet.addRecord _ _), hcalls⟩
  | served _ _ _ _ hbecame => exact detaches_of_settling s _ .fork hbecame.settling

theorem Stayed.detaches {os : Processes τ} {path : Path} {s s' : Session τ}
    {outcome : Except Failure Role} (h : Stayed os path s outcome s') : Detaches s s' := by
  have hnone : ∃ left, s.calls = s.calls ++ left ∧ (∀ c ∈ left, Leaving c)
      ∧ left.countP splits ≤ 1 := ⟨[], by simp⟩
  cases h with
  | refused => exact ⟨⟨rfl, rfl⟩, hnone⟩
  | unnameable | unrecorded => exact ⟨⟨rfl, rfl⟩, hnone⟩
  | recorded => exact ⟨keepsHandlers_quiet.addRecord _ _, hnone⟩

/-- However a process detaches, it leaves the handlers alone, and it is split at most once. -/
theorem detach_detaches (os : Processes τ) (detacher : Detacher τ) (s : Session τ) :
    Detaches s ((detacher.detach os).run s).2 := by
  cases detacher with
  | fork path keepStdio =>
      obtain ⟨outcome, s', hrun, hforked⟩ := fork_forked os path keepStdio s
      rw [Detacher.detach, hrun]
      exact hforked.detaches
  | foreground path =>
      obtain ⟨outcome, s', hrun, hstayed⟩ := stay_stayed os path s
      rw [Detacher.detach, hrun]
      exact hstayed.detaches
  | given answer =>
      rw [Detacher.detach, run_ask]
      exact detaches_of_settling s s.files .detach (List.forall_mem_nil _)

end SeedNode.Detach

namespace SeedNode.Service

open Detach

variable {setup : Setup} {departure : Departure} {backend : Backend} {sleeps : Nat}
  {s s' : Session Float}

/-! ## The parts of a run -/

/-- The way to detach that a start takes. -/
def Departure.chosen (departure : Departure) (backend : Backend) (scheduler : Scheduler Float) :
    Detacher Float :=
  departure.detacher.getD
    (.suited departure.os (Path.ofString scheduler.config.pidFilePath) (backend == .stdout))

/-- The session in which the log was opened, with the first record in it. -/
def greeted (s : Session Float) : Session Float :=
  s.addRecord
    { level := Level.info, source,
      message := s!"Running \"{daemonName}\" version {versionNumber}." }

/-- What comes out of a start in which a stage gave up. -/
def gaveUp : Failure → Except Failure Nat
  | .report _ => .ok 1
  | e => .error e

/-- What a start says when a stage gave up. -/
def parted : Failure → Session Float → Session Float
  | .report r, s => s.addRecord
    { level := Level.error, source, message := s!"{r.message}. Exiting." }
  | _, s => s

/-- The log is opened with the level and form that the settings of the process ask for. -/
def opening (setup : Setup) (backend : Backend) : SessionM Float Handle :=
  SessionM.configureWith (Logging.building setup.logRefusal) (some backend) none none

/-- What a start says of refused settings. -/
def refusal (problems : List Rejected) : Record :=
  { level := Level.error, source,
    message := s!"Invalid environment settings: {Rejected.describe problems}. Exiting." }

theorem run_serve (scheduler : Scheduler Float) (sleeps : Nat) (s : Session Float) :
    (serve scheduler sleeps).run s = ((runIn (scheduler.run sleeps) .initial s).1.1,
      (runIn (scheduler.run sleeps) .initial s).2) := rfl

/-- Up to detaching, a start returns the loop with its role, or gives up. -/
theorem launch_cases (setup : Setup) (departure : Departure) (backend : Backend)
    (s : Session Float) :
    (∃ e s₁, (prepare setup).run s = (.error e, s₁)
        ∧ (launch setup departure backend).run s = ((gaveUp e).map fun _ => none, parted e s₁))
      ∨ ∃ scheduler s₁, (prepare setup).run s = (.ok scheduler, s₁)
        ∧ ((∃ e s₂, ((departure.chosen backend scheduler).detach departure.os).run s₁
              = (.error e, s₂)
            ∧ (launch setup departure backend).run s = ((gaveUp e).map fun _ => none, parted e s₂))
          ∨ ∃ role s₂, ((departure.chosen backend scheduler).detach departure.os).run s₁
              = (.ok role, s₂)
            ∧ (launch setup departure backend).run s = (.ok (some (scheduler, role)), s₂)) := by
  rcases hprepare : (prepare setup).run s with ⟨e | scheduler, s₁⟩
  · refine .inl ⟨e, s₁, rfl, ?_⟩
    simp only [launch]
    rw [run_bind, run_tryCatch, run_bind, hprepare]
    cases e <;> rfl
  · refine .inr ⟨scheduler, s₁, rfl, ?_⟩
    rcases hdetach : ((departure.chosen backend scheduler).detach departure.os).run s₁
      with ⟨e | role, s₂⟩
    · refine .inl ⟨e, s₂, rfl, ?_⟩
      simp only [launch]
      rw [run_bind, run_tryCatch, run_bind, hprepare]
      simp only
      rw [run_bind, ← Departure.chosen, hdetach]
      cases e <;> rfl
    · refine .inr ⟨role, s₂, rfl, ?_⟩
      simp only [launch]
      rw [run_bind, run_tryCatch, run_bind, hprepare]
      simp only
      rw [run_bind, ← Departure.chosen, hdetach]
      rfl

/-- How a start goes once the log is open: which part of it ends it, what comes out, and the session
that is left. Each part begins only after the one before it returned. -/
inductive Logged (setup : Setup) (departure : Departure) (backend : Backend) (sleeps : Nat)
    (s : Session Float) : Except Failure Nat → Session Float → Prop
  /-- A stage failed. -/
  | unprepared {e s₁} (hprepare : (prepare setup).run (greeted s) = (.error e, s₁)) :
      Logged setup departure backend sleeps s (gaveUp e) (parted e s₁)
  /-- All stages succeeded, and detaching failed. -/
  | undetached {scheduler s₁ e s₂}
      (hprepare : (prepare setup).run (greeted s) = (.ok scheduler, s₁))
      (hdetach : ((departure.chosen backend scheduler).detach departure.os).run s₁
        = (.error e, s₂)) :
      Logged setup departure backend sleeps s (gaveUp e) (parted e s₂)
  /-- The process launched the service. -/
  | launched {scheduler s₁ s₂} (hprepare : (prepare setup).run (greeted s) = (.ok scheduler, s₁))
      (hdetach : ((departure.chosen backend scheduler).detach departure.os).run s₁
        = (.ok .parent, s₂)) :
      Logged setup departure backend sleeps s (.ok 0) s₂
  /-- The process is the service: it ran the loop once, from its beginning, until that ended. -/
  | served {scheduler s₁ s₂ e p s₃}
      (hprepare : (prepare setup).run (greeted s) = (.ok scheduler, s₁))
      (hdetach : ((departure.chosen backend scheduler).detach departure.os).run s₁
        = (.ok .service, s₂))
      (hloop : runIn (scheduler.run sleeps) .initial s₂ = ((.error e, p), s₃)) :
      Logged setup departure backend sleeps s (.error e) s₃

theorem runLogged_logged (setup : Setup) (departure : Departure) (backend : Backend) (sleeps : Nat)
    (s : Session Float) :
    ∃ outcome s', (runLogged setup departure backend sleeps).run s = (outcome, s')
      ∧ Logged setup departure backend sleeps s outcome s' := by
  have hgreeted : (inform s!"Running \"{daemonName}\" version {versionNumber}.").run s
      = (.ok (), greeted s) := rfl
  simp only [runLogged]
  rw [run_bind_of_ok hgreeted, run_bind]
  rcases launch_cases setup departure backend (greeted s) with
    ⟨e, s₁, hprepare, hlaunch⟩ | ⟨scheduler, s₁, hprepare, hlaunch⟩
  · refine ⟨gaveUp e, parted e s₁, ?_, .unprepared hprepare⟩
    rw [hlaunch]
    cases e <;> rfl
  · rcases hlaunch with ⟨e, s₂, hdetach, hlaunch⟩ | ⟨role, s₂, hdetach, hlaunch⟩
    · refine ⟨gaveUp e, parted e s₂, ?_, .undetached hprepare hdetach⟩
      rw [hlaunch]
      cases e <;> rfl
    · cases role with
      | parent =>
          refine ⟨.ok 0, s₂, ?_, .launched hprepare hdetach⟩
          rw [hlaunch]
          rfl
      | service =>
          obtain ⟨e, p, s₃, hloop, -, -⟩ := scheduler.run_ran sleeps .initial s₂
          refine ⟨.error e, s₃, ?_, .served hprepare hdetach hloop⟩
          rw [hlaunch]
          simp only
          rw [run_bind, run_serve, hloop]

/-! ## What a run does -/

/-- The calls of a start: those of its stages. -/
def Starting (c : Call Float) : Prop :=
  ∃ stage : StartStage, stage.Makes c

theorem prepare_handlers (setup : Setup) : Keeps KeepsHandlers (prepare setup) :=
  prepare_keeps (fun _ => ⟨keepsHandlers_quiet, fun _ _ => ⟨rfl, rfl⟩, fun _ _ _ => ⟨rfl, rfl⟩,
    fun _ _ _ => ⟨rfl, rfl⟩⟩) setup

theorem prepare_adds (setup : Setup) : Keeps (AddsCalls Starting) (prepare setup) :=
  prepare_keeps (fun stage => addsCalls_permits fun _ hc => ⟨stage, hc⟩) setup

theorem handlers_loops :
    Scheduler.Loops fun (_ : Progress Float) s (_ : Progress Float) s' => KeepsHandlers s s' where
  refl _ s := keepsHandlers_quiet.refl s
  trans _ s _ s₁ _ s' := keepsHandlers_quiet.trans s s₁ s'
  addCall _ _ _ _ := ⟨rfl, rfl⟩
  inform _ s _ _ := keepsHandlers_quiet.addRecord s _
  move _ _ s _ := keepsHandlers_quiet.refl s
  join _ s _ := keepsHandlers_quiet.addRecord s _

theorem addsCalls_loops :
    Scheduler.Loops fun (_ : Progress Float) s (_ : Progress Float) s' =>
      AddsCalls Scheduler.Looping s s' where
  refl _ s := (addsCalls_quiet _).refl s
  trans _ s _ s₁ _ s' := (addsCalls_quiet _).trans s s₁ s'
  addCall _ s _ hc := addsCalls_addCall hc s
  inform _ s _ _ := (addsCalls_quiet _).addRecord s _
  move _ _ s _ := (addsCalls_quiet _).refl s
  join _ s _ := (addsCalls_quiet _).addRecord s _

theorem parted_handlers (e : Failure) (s : Session Float) : KeepsHandlers s (parted e s) := by
  cases e with
  | report r => exact keepsHandlers_quiet.addRecord s _
  | _ => exact keepsHandlers_quiet.refl s

theorem parted_calls (e : Failure) (s : Session Float) : (parted e s).calls = s.calls := by
  cases e <;> rfl

/-- From the opening of the log to its closing the handlers stay as they are. -/
theorem Logged.handlers {outcome : Except Failure Nat}
    (h : Logged setup departure backend sleeps s outcome s') : KeepsHandlers s s' := by
  have trans := (@keepsHandlers_quiet Float).trans
  have hgreeted : KeepsHandlers s (greeted s) := keepsHandlers_quiet.addRecord s _
  have hprepared := trans _ _ _ hgreeted (prepare_handlers setup (greeted s))
  have hdetached : ∀ scheduler s₁, (prepare setup).run (greeted s) = (.ok scheduler, s₁) →
      KeepsHandlers s (((departure.chosen backend scheduler).detach departure.os).run s₁).2 := by
    intro scheduler s₁ hprepare
    rw [hprepare] at hprepared
    exact trans _ _ _ hprepared (detach_detaches _ _ s₁).handlers
  cases h with
  | unprepared hprepare =>
      rw [hprepare] at hprepared
      exact trans _ _ _ hprepared (parted_handlers _ _)
  | undetached hprepare hdetach =>
      have hkept := hdetached _ _ hprepare
      rw [hdetach] at hkept
      exact trans _ _ _ hkept (parted_handlers _ _)
  | launched hprepare hdetach =>
      have hkept := hdetached _ _ hprepare
      rwa [hdetach] at hkept
  | @served scheduler s₁ s₂ e p s₃ hprepare hdetach hloop =>
      have hkept := hdetached _ _ hprepare
      have hlooped := handlers_loops.run scheduler sleeps .initial s₂
      rw [hdetach] at hkept
      rw [hloop] at hlooped
      exact trans _ _ _ hkept hlooped

/-- The calls of a run, part by part. The process is split at most once, and if it ended with a
status it made no call of the loop. -/
structure Parts (outcome : Except Failure Nat) (s s' : Session Float)
    (started left looped : List (Call Float)) : Prop where
  calls : s'.calls = s.calls ++ started ++ left ++ looped
  starting : ∀ c ∈ started, Starting c
  leaving : ∀ c ∈ left, Leaving c
  once : left.countP splits ≤ 1
  looping : ∀ c ∈ looped, Scheduler.Looping c
  ended : ∀ status, outcome = .ok status → looped = []

theorem Logged.parts {outcome : Except Failure Nat}
    (h : Logged setup departure backend sleeps s outcome s') :
    ∃ started left looped, Parts outcome s s' started left looped := by
  obtain ⟨started, hstarted, hstarting⟩ := prepare_adds setup (greeted s)
  have hleft : ∀ scheduler s₁, (prepare setup).run (greeted s) = (.ok scheduler, s₁) →
      ∃ left, (((departure.chosen backend scheduler).detach departure.os).run s₁).2.calls
          = s.calls ++ started ++ left
        ∧ (∀ c ∈ left, Leaving c) ∧ left.countP splits ≤ 1 := by
    intro scheduler s₁ hprepare
    rw [hprepare] at hstarted
    obtain ⟨left, hcalls, hleaving, honce⟩ := (detach_detaches departure.os
      (departure.chosen backend scheduler) s₁).calls
    refine ⟨left, ?_, hleaving, honce⟩
    rw [hcalls]
    exact congrArg (· ++ left) hstarted
  cases h with
  | unprepared hprepare =>
      rw [hprepare] at hstarted
      refine ⟨started, [], [], ?_, hstarting, by simp, by simp, by simp, fun _ _ => rfl⟩
      rw [parted_calls, List.append_nil, List.append_nil]
      exact hstarted
  | undetached hprepare hdetach =>
      obtain ⟨left, hcalls, hleaving, honce⟩ := hleft _ _ hprepare
      rw [hdetach] at hcalls
      refine ⟨started, left, [], ?_, hstarting, hleaving, honce, by simp, fun _ _ => rfl⟩
      rw [parted_calls, List.append_nil]
      exact hcalls
  | launched hprepare hdetach =>
      obtain ⟨left, hcalls, hleaving, honce⟩ := hleft _ _ hprepare
      rw [hdetach] at hcalls
      refine ⟨started, left, [], ?_, hstarting, hleaving, honce, by simp, fun _ _ => rfl⟩
      rw [List.append_nil]
      exact hcalls
  | @served scheduler s₁ s₂ e p s₃ hprepare hdetach hloop =>
      obtain ⟨left, hcalls, hleaving, honce⟩ := hleft _ _ hprepare
      obtain ⟨looped, hlooped, hlooping⟩ := addsCalls_loops.run scheduler sleeps .initial s₂
      rw [hdetach] at hcalls
      rw [hloop] at hlooped
      refine ⟨started, left, looped, ?_, hstarting, hleaving, honce, hlooping, by simp⟩
      rw [show s'.calls = _ from hlooped, show s₂.calls = _ from hcalls]

/-! ## Where a run ends -/

/-- The settings of the process are not known yet, and cannot be read because they are refused. -/
def SettingsRefused (s : Session Float) : Prop :=
  s.settings.current = none
    ∧ ∃ problems, ProcessSettings.read s.environment s.files = .error (.settings problems)

/-- The log cannot be opened, and not because the settings are refused. -/
def Unopened (setup : Setup) (backend : Backend) (s : Session Float) : Prop :=
  ∃ e s', (opening setup backend).run s = (.error e, s') ∧ ∀ problems, e ≠ .settings problems

/-- The settings are refused, and no log can be opened to say so. -/
def Unsaid (setup : Setup) (s : Session Float) : Prop :=
  SettingsRefused s ∧ setup.logRefusal.isSome

/-- How a run of the daemon goes, from the session `s`. -/
inductive Course (setup : Setup) (departure : Departure) (backend : Backend) (sleeps : Nat)
    (s : Session Float) : Except Failure Nat → Session Float → Prop
  /-- The settings of the process were refused. They are all that was looked at, and what is wrong
  with them is all that was said. -/
  | refused {problems s'} (hcurrent : s.settings.current = none)
      (hread : ProcessSettings.read s.environment s.files = .error (.settings problems))
      (hgranted : setup.logRefusal = none)
      (hcalls : s'.calls = s.calls) (hfiles : s'.files = s.files)
      (hlog : s'.log = s.log ++ [refusal problems]) :
      Course setup departure backend sleeps s (.ok 1) s'
  /-- The settings of the process were refused, and so was the log to say it. -/
  | unsaid {problems e s'} (hcurrent : s.settings.current = none)
      (hread : ProcessSettings.read s.environment s.files = .error (.settings problems))
      (hrefused : setup.logRefusal = some e)
      (hcalls : s'.calls = s.calls) (hfiles : s'.files = s.files) (hlog : s'.log = s.log) :
      Course setup departure backend sleeps s (.error (.os e)) s'
  /-- The log could not be opened for another reason. -/
  | unopened {e s'} (hopen : (opening setup backend).run s = (.error e, s'))
      (hother : ∀ problems, e ≠ .settings problems) (hcalls : s'.calls = s.calls)
      (hfiles : s'.files = s.files) (hlog : s'.log = s.log) :
      Course setup departure backend sleeps s (.error e) s'
  /-- The log was open, and was closed after what happened then. -/
  | logged {handle s₁ outcome s₂ s'} (hopen : (opening setup backend).run s = (.ok handle, s₁))
      (hopened : Opened s handle s₁)
      (hlogged : Logged setup departure backend sleeps s₁ outcome s₂)
      (hcalls : s'.calls = s₂.calls) (hfiles : s'.files = s₂.files) (hlog : s'.log = s₂.log) :
      Course setup departure backend sleeps s outcome s'

/-- Refused settings are said, and the log that was opened to say it is closed. -/
theorem run_reportSettings (backend : Backend) (problems : List Rejected) (s : Session Float) :
    ∃ s', (reportSettings (Logging.building none) backend problems).run s = (.ok (), s')
      ∧ Released s s' ∧ s'.calls = s.calls ∧ s'.files = s.files
      ∧ s'.log = s.log ++ [refusal problems] := by
  obtain ⟨handle, s₁, hopen, hopened⟩ := configureWith_plainly backend Level.info false s
  have hkeeps : KeepsHandlers s₁ (s₁.addRecord (refusal problems)) :=
    keepsHandlers_quiet.addRecord s₁ _
  obtain ⟨s', hclose, hreleased, hcalls, hfiles, hlog⟩ := released_of_closed hopened hkeeps
  refine ⟨s', ?_, hreleased, hcalls.trans hopened.calls, hfiles.trans hopened.files, ?_⟩
  · rw [reportSettings, run_bind_of_ok hopen]
    exact run_andFinally_of_ok (run_note _ _ _ s₁) hclose
  · rw [hlog, ← hopened.log]
    rfl

/-- Nothing can be said where no log can be opened for it. -/
theorem run_reportSettings_of_refused (backend : Backend) (problems : List Rejected) (e : OsError)
    (s : Session Float) :
    (reportSettings (Logging.building (some e)) backend problems).run s
      = (.error (.os e), { s with logging := s.logging.detachAll }) := by
  simp [reportSettings, run_configureWith_given, Logging.building, Logging.configure]

theorem run_of_refused {problems : List Rejected} {outcome : Except Failure Unit}
    (hopen : (opening setup backend).run s = (.error (.settings problems), s))
    (hreport : (reportSettings (Logging.building setup.logRefusal) backend problems).run s
      = (outcome, s')) :
    (run setup departure backend sleeps).run s = (outcome.map fun _ => 1, s') := by
  rw [opening] at hopen
  cases outcome <;> simp [run, hopen, hreport, Except.map]

theorem run_of_unopened {e : Failure} (hopen : (opening setup backend).run s = (.error e, s'))
    (hother : ∀ problems, e ≠ .settings problems) :
    (run setup departure backend sleeps).run s = (.error e, s') := by
  rw [opening] at hopen
  cases e with
  | settings problems => exact absurd rfl (hother problems)
  | _ => simp [run, hopen]

theorem run_of_opened {handle : Handle} {s₁ : Session Float}
    (hopen : (opening setup backend).run s = (.ok handle, s₁)) :
    (run setup departure backend sleeps).run s
      = (andFinally (runLogged setup departure backend sleeps)
        (discard (SessionM.closeLog handle))).run s₁ := by
  rw [opening] at hopen
  simp [run, hopen]

/-- A run takes one of its courses. Unless the log could not be opened, it is closed at the end. -/
theorem run_course (setup : Setup) (departure : Departure) (backend : Backend) (sleeps : Nat)
    (s : Session Float) :
    ∃ outcome s', (run setup departure backend sleeps).run s = (outcome, s')
      ∧ Course setup departure backend sleeps s outcome s'
      ∧ (Released s s' ∨ Unopened setup backend s ∨ Unsaid setup s) := by
  rcases configureWith_cases setup.logRefusal backend s with ⟨e, hcurrent, hread, hopen⟩
    | ⟨e, s', hopen, hother, hcalls, hfiles, hlog⟩ | ⟨handle, s₁, hopen, hopened⟩
  · by_cases hsettings : ∃ problems, e = .settings problems
    · obtain ⟨problems, rfl⟩ := hsettings
      cases hrefusal : setup.logRefusal with
      | none =>
          obtain ⟨s', hreport, hreleased, hcalls, hfiles, hlog⟩ :=
            run_reportSettings backend problems s
          rw [← hrefusal] at hreport
          exact ⟨.ok 1, s', run_of_refused hopen hreport,
            .refused hcurrent hread hrefusal hcalls hfiles hlog, .inl hreleased⟩
      | some e =>
          have hreport := run_reportSettings_of_refused backend problems e s
          rw [← hrefusal] at hreport
          exact ⟨.error (.os e), _, run_of_refused hopen hreport,
            .unsaid hcurrent hread hrefusal rfl rfl rfl,
            .inr (.inr ⟨⟨hcurrent, problems, hread⟩, by rw [hrefusal]; rfl⟩)⟩
    · have hother : ∀ problems, e ≠ .settings problems := fun problems h =>
        hsettings ⟨problems, h⟩
      exact ⟨.error e, s, run_of_unopened hopen hother, .unopened hopen hother rfl rfl rfl,
        .inr (.inl ⟨e, s, hopen, hother⟩)⟩
  · exact ⟨.error e, s', run_of_unopened hopen hother,
      .unopened hopen hother hcalls hfiles hlog, .inr (.inl ⟨_, s', hopen, hother⟩)⟩
  · obtain ⟨outcome, s₂, hrun, hlogged⟩ := runLogged_logged setup departure backend sleeps s₁
    obtain ⟨s', hclose, hreleased, hcalls, hfiles, hlog⟩ :=
      released_of_closed hopened hlogged.handlers
    refine ⟨outcome, s', ?_, .logged hopen hopened hlogged hcalls hfiles hlog, .inl hreleased⟩
    rw [run_of_opened hopen, run_andFinally_of_ok hrun hclose]

/-- A stage or the detacher gives up with a report. -/
def GivesUp (setup : Setup) (departure : Departure) (backend : Backend) (s : Session Float) :
    Prop :=
  (∃ r s₁, (prepare setup).run (greeted s) = (.error (.report r), s₁))
    ∨ ∃ scheduler s₁ r s₂, (prepare setup).run (greeted s) = (.ok scheduler, s₁)
      ∧ ((departure.chosen backend scheduler).detach departure.os).run s₁
        = (.error (.report r), s₂)

/-- The log could be opened, and then something gave up. -/
def GaveUp (setup : Setup) (departure : Departure) (backend : Backend) (s : Session Float) : Prop :=
  ∃ handle s₁, (opening setup backend).run s = (.ok handle, s₁)
    ∧ GivesUp setup departure backend s₁

theorem gaveUp_eq_ok {e : Failure} {status : Nat} (h : gaveUp e = .ok status) :
    ∃ r, e = .report r := by
  cases e with
  | report r => exact ⟨r, rfl⟩
  | _ => cases h

theorem Logged.status_iff {outcome : Except Failure Nat}
    (h : Logged setup departure backend sleeps s outcome s') :
    outcome = .ok 1 ↔ GivesUp setup departure backend s := by
  constructor
  · rintro rfl
    generalize hone : (.ok 1 : Except Failure Nat) = outcome at h
    cases h with
    | unprepared hprepare =>
        obtain ⟨r, rfl⟩ := gaveUp_eq_ok hone.symm
        exact .inl ⟨r, _, hprepare⟩
    | undetached hprepare hdetach =>
        obtain ⟨r, rfl⟩ := gaveUp_eq_ok hone.symm
        exact .inr ⟨_, _, r, _, hprepare, hdetach⟩
    | launched => cases hone
    | served => cases hone
  · rintro (⟨r, s₁, hgave⟩ | ⟨scheduler, s₁, r, s₂, hready, hgave⟩)
    · cases h with
      | unprepared hprepare =>
          obtain rfl := Except.error.inj (Prod.mk.inj (hprepare.symm.trans hgave)).1
          rfl
      | undetached hprepare | launched hprepare | served hprepare =>
          cases hprepare.symm.trans hgave
    · cases h with
      | unprepared hprepare => cases hprepare.symm.trans hready
      | undetached hprepare hdetach =>
          obtain ⟨hscheduler, rfl⟩ := Prod.mk.inj (hprepare.symm.trans hready)
          obtain rfl := Except.ok.inj hscheduler
          obtain rfl := Except.error.inj (Prod.mk.inj (hdetach.symm.trans hgave)).1
          rfl
      | launched hprepare hdetach | served hprepare hdetach =>
          obtain ⟨hscheduler, rfl⟩ := Prod.mk.inj (hprepare.symm.trans hready)
          obtain rfl := Except.ok.inj hscheduler
          cases hdetach.symm.trans hgave

/-- The status tells of failure just if the settings were refused, which could be said, or something
gave up. -/
theorem Course.status_iff {outcome : Except Failure Nat}
    (h : Course setup departure backend sleeps s outcome s') :
    outcome = .ok 1 ↔ (SettingsRefused s ∧ setup.logRefusal = none)
      ∨ GaveUp setup departure backend s := by
  have hunread : ∀ {problems}, s.settings.current = none →
      ProcessSettings.read s.environment s.files = .error (.settings problems) →
      (opening setup backend).run s = (.error (.settings problems), s) :=
    fun hcurrent hread => run_configureWith_of_unread hcurrent hread
  cases h with
  | refused hcurrent hread hgranted =>
      exact iff_of_true rfl (.inl ⟨⟨hcurrent, _, hread⟩, hgranted⟩)
  | unsaid hcurrent hread hrefused =>
      refine iff_of_false (fun hone => by cases hone) ?_
      rintro (⟨-, hgranted⟩ | ⟨handle, s₁, hopened, -⟩)
      · cases hgranted.symm.trans hrefused
      · cases hopened.symm.trans (hunread hcurrent hread)
  | unopened hopen hother =>
      refine iff_of_false (fun hone => by cases hone) ?_
      rintro (⟨⟨hcurrent, problems, hread⟩, -⟩ | ⟨handle, s₁, hopened, -⟩)
      · have hsame := hopen.symm.trans (hunread hcurrent hread)
        exact hother problems (Except.error.inj (Prod.mk.inj hsame).1)
      · cases hopen.symm.trans hopened
  | logged hopen _ hlogged =>
      rw [hlogged.status_iff]
      refine ⟨fun hgives => .inr ⟨_, _, hopen, hgives⟩, ?_⟩
      rintro (⟨⟨hcurrent, problems, hread⟩, -⟩ | ⟨handle, s₁, hopened, hgives⟩)
      · cases hopen.symm.trans (hunread hcurrent hread)
      · rwa [(Prod.mk.inj (hopen.symm.trans hopened)).2]

theorem Course.parts {outcome : Except Failure Nat}
    (h : Course setup departure backend sleeps s outcome s') :
    ∃ started left looped, Parts outcome s s' started left looped := by
  have hnone : s'.calls = s.calls → Parts outcome s s' [] [] [] := fun hcalls =>
    ⟨by simpa using hcalls, by simp, by simp, by simp, by simp, fun _ _ => rfl⟩
  cases h with
  | refused _ _ _ hcalls => exact ⟨[], [], [], hnone hcalls⟩
  | unsaid _ _ _ hcalls => exact ⟨[], [], [], hnone hcalls⟩
  | unopened _ _ hcalls => exact ⟨[], [], [], hnone hcalls⟩
  | logged hopen hopened hlogged hcalls =>
      obtain ⟨started, left, looped, hparts⟩ := hlogged.parts
      refine ⟨started, left, looped, { hparts with calls := ?_ }⟩
      rw [hcalls, hparts.calls, hopened.calls]

/-- The discipline of a run. It takes one of its courses: where the settings are refused nothing but
that is said, the stages come first, then one attempt to detach, then, for the service alone, one
run of the loop. Its status tells of failure just if the settings were refused, or a stage or the
detacher gave up with a report. Its calls are those of the stages, those of the way out, on which
the process is split at most once, and those of the loop, which no run that ends with a status
makes. However it ends, unless the log could not be opened nothing is attached at the end, and what
was installed is closed. The system may also refuse to let the handlers of the log be built: then
refused settings cannot be said, and that refusal is what comes out. -/
theorem run_disciplined (setup : Setup) (departure : Departure) (backend : Backend) (sleeps : Nat)
    (s : Session Float) :
    ∃ outcome s', (run setup departure backend sleeps).run s = (outcome, s')
      ∧ Course setup departure backend sleeps s outcome s'
      ∧ (outcome = .ok 1 ↔ (SettingsRefused s ∧ setup.logRefusal = none)
        ∨ GaveUp setup departure backend s)
      ∧ (∃ started left looped, Parts outcome s s' started left looped)
      ∧ (Released s s' ∨ Unopened setup backend s ∨ Unsaid setup s) := by
  obtain ⟨outcome, s', hrun, hcourse, hreleased⟩ := run_course setup departure backend sleeps s
  exact ⟨outcome, s', hrun, hcourse, hcourse.status_iff, hcourse.parts, hreleased⟩

end SeedNode.Service

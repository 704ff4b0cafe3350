import SeedNode.Proofs.Daemon.Forking

/-!
# Which refusals are reported

Whatever the system refuses while a process detaches should leave as a report of this stage. The
opening of the file, the fork, the session of its own and the move to the root are watched over one
by one, and what they refuse is reported. The redirection of the streams is not: a process that has
come so far and is refused one of its calls (`Stranded`) ends with the bare refusal. Neither is the
write of the number of a process that was launched (`Unrecorded`). Nothing else makes a refusal
escape (`fork_escapes_iff`). Before all that, the question whether the file is there
already has an answer unless the path is too long to be asked about (`warnIfStale_returns_iff`).
-/

namespace SeedNode.Detach

variable {τ α : Type} {os : Processes τ} {path : Path} {keepStdio : Bool} {s s' : Session τ}
  {calls made made' : List (Call τ)} {outcome outcome' : Except Failure Unit} {e e' : Failure}

/-! ## Reports and refusals -/

/-- If the outcome is a failure, it is a report of this stage. -/
abbrev Reported (outcome : Except Failure α) : Prop :=
  FailsOnly (fun e => e.isReportOf .detach = true) outcome

theorem reported_of_isOs (said : String) (h : e.isOs = true) :
    Reported (.error (reported said e) : Except Failure α) := by
  rw [Reported, failsOnly_error, reported, if_pos h]
  rfl

theorem not_reported_of_isOs (h : e.isOs = true) : ¬Reported (.error e : Except Failure α) := by
  rw [Reported, failsOnly_error]
  intro hreport
  cases e with
  | os refused => cases hreport
  | _ => cases h

/-- The answers to a call are refusals of the system where they are failures. -/
def RefusesOnly (answer : Answer τ α) : Prop :=
  ∀ calls e, answer calls = .error e → e.isOs = true

/-- What the system does not grant, it refuses in its own way. A mask it always grants. -/
structure Processes.Regular (os : Processes τ) : Prop where
  umask : ∀ calls, os.umask calls = .ok ()
  fork : RefusesOnly os.fork
  setsid : RefusesOnly os.setsid
  chdir : RefusesOnly os.chdir
  openNull : RefusesOnly os.openNull
  dup2 : RefusesOnly os.dup2
  close : RefusesOnly os.close

/-! ## The streams -/

theorem isOs_of_pointed (hos : RefusesOnly os.dup2) {null : Int} : ∀ {streams : List Int}
    {calls : List (Call τ)}, (pointed os null streams calls).2 = .error e → e.isOs = true
  | [], _, h => by cases h
  | stream :: rest, calls, h => by
      rw [pointed] at h
      split at h
      · exact isOs_of_pointed hos h
      · rename_i e' hdup2
        obtain rfl := Except.error.inj h
        exact hos _ _ hdup2

theorem Redirects.isOs (hos : os.Regular) (h : Redirects os calls made (.error e)) :
    e.isOs = true := by
  generalize houtcome : (.error e : Except Failure Unit) = outcome at h
  cases h with
  | unopened hnull =>
      obtain rfl := Except.error.inj houtcome
      exact hos.openNull _ _ hnull
  | taken hnull hlow hmade =>
      exact isOs_of_pointed hos.dup2 ((congrArg Prod.snd hmade).trans houtcome.symm)
  | closed hnull hhigh hmade =>
      rcases except_bind_eq_error.mp houtcome.symm with hclose | ⟨_, -, hpointed⟩
      · exact hos.close _ _ hclose
      · exact isOs_of_pointed hos.dup2 ((congrArg Prod.snd hmade).trans hpointed)

/-- The answers of the system decide how the streams are redirected. -/
theorem Redirects.unique (h : Redirects os calls made outcome)
    (h' : Redirects os calls made' outcome') : outcome = outcome' := by
  have hopened : ∀ {null null' : Int}, os.openNull (calls ++ [.openNull]) = .ok null →
      os.openNull (calls ++ [.openNull]) = .ok null' → null = null' :=
    fun hnull hnull' => Except.ok.inj (hnull.symm.trans hnull')
  cases h with
  | unopened hnull =>
      cases h' with
      | unopened hnull' => exact congrArg _ (Except.error.inj (hnull.symm.trans hnull'))
      | taken hnull' | closed hnull' => cases hnull.symm.trans hnull'
  | taken hnull hlow hmade =>
      cases h' with
      | unopened hnull' => cases hnull.symm.trans hnull'
      | taken hnull' hlow' hmade' =>
          obtain rfl := hopened hnull hnull'
          exact (Prod.mk.inj (hmade.symm.trans hmade')).2
      | closed hnull' hhigh =>
          obtain rfl := hopened hnull hnull'
          omega
  | closed hnull hhigh hmade =>
      cases h' with
      | unopened hnull' => cases hnull.symm.trans hnull'
      | taken hnull' hlow =>
          obtain rfl := hopened hnull hnull'
          omega
      | closed hnull' hhigh' hmade' =>
          obtain rfl := hopened hnull hnull'
          obtain ⟨rfl, rfl⟩ := Prod.mk.inj (hmade.symm.trans hmade')
          rfl

/-! ## The launched process -/

/-- A process launched after `calls` comes as far as to its streams, and is refused to redirect
them. -/
structure Unredirected (os : Processes τ) (keepStdio : Bool) (calls : List (Call τ))
    (e : Failure) : Prop where
  led : os.setsid (calls ++ [.umask 0, .setsid]) = .ok ()
  moved : os.chdir (calls ++ [.umask 0, .setsid, .chdir "/"]) = .ok ()
  redirecting : keepStdio = false
  refused : ∃ made, Redirects os (calls ++ [.umask 0, .setsid, .chdir "/"]) made (.error e)

/-- A launched process gives up with a report, or with what it was refused about its streams. -/
theorem Became.reported_or (hos : os.Regular) (h : Became os keepStdio calls made outcome) :
    Reported outcome ∨ ∃ e, outcome = .error e ∧ Unredirected os keepStdio calls e := by
  cases h with
  | masked humask => cases (hos.umask _).symm.trans humask
  | unled humask hsetsid => exact .inl (reported_of_isOs _ (hos.setsid _ _ hsetsid))
  | unmoved humask hsetsid hchdir => exact .inl (reported_of_isOs _ (hos.chdir _ _ hchdir))
  | attached humask hsetsid hchdir hkeep => exact .inl (failsOnly_ok ())
  | redirected humask hsetsid hchdir hkeep hredirects =>
      rcases outcome with e | _
      · exact .inr ⟨e, rfl, hsetsid, hchdir, hkeep, _, hredirects⟩
      · exact .inl (failsOnly_ok ())

theorem Became.of_unredirected (hos : os.Regular) (h : Unredirected os keepStdio calls e)
    (hbecame : Became os keepStdio calls made outcome) : outcome = .error e := by
  obtain ⟨made, hrefused⟩ := h.refused
  cases hbecame with
  | masked humask => cases (hos.umask _).symm.trans humask
  | unled humask hsetsid => cases h.led.symm.trans hsetsid
  | unmoved humask hsetsid hchdir => cases h.moved.symm.trans hchdir
  | attached humask hsetsid hchdir hkeep => cases h.redirecting.symm.trans hkeep
  | redirected humask hsetsid hchdir hkeep hredirects => exact hredirects.unique hrefused

/-! ## The fork -/

/-- The process opened the file and forked, and is the launched one, whose streams are not
redirected. -/
structure Stranded (os : Processes τ) (path : Path) (keepStdio : Bool) (s : Session τ)
    (e : Failure) : Prop where
  opened : Opens path s
  forks : os.hasFork = true
  launched : ∃ pid, os.fork (s.calls ++ [.fork]) = .ok pid ∧ pid ≤ 0
  unredirected : Unredirected os keepStdio (s.calls ++ [.fork]) e

/-- The failures that leave a fork as the system made them. -/
inductive Escapes (os : Processes τ) (path : Path) (keepStdio : Bool) (s : Session τ) :
    Failure → Prop
  | stranded {e : Failure} (h : Stranded os path keepStdio s e) : Escapes os path keepStdio s e
  | unrecorded {pid broken} (h : Unrecorded os path s pid broken) :
      Escapes os path keepStdio s (.os broken.refusal)

theorem Stranded.isOs (hos : os.Regular) (h : Stranded os path keepStdio s e) :
    e.isOs = true := by
  obtain ⟨made, hrefused⟩ := h.unredirected.refused
  exact hrefused.isOs hos

theorem Escapes.isOs (hos : os.Regular) (h : Escapes os path keepStdio s e) : e.isOs = true := by
  cases h with
  | stranded h => exact h.isOs hos
  | unrecorded h => rfl

theorem run_fork_of_stranded (hos : os.Regular) (hnull : path.hasNull = false)
    (h : Stranded os path keepStdio s e) : ((fork os path keepStdio).run s).1 = .error e := by
  obtain ⟨opened, hopened⟩ := h.opened
  obtain ⟨pid, hlaunched, hpid⟩ := h.launched
  obtain ⟨outcome, s', hrun, hforked⟩ := fork_forked os path keepStdio s
  rw [hrun]
  cases hforked with
  | refused hopen hos' => cases hopened.symm.trans hopen
  | unnameable hnull' => cases hnull.symm.trans hnull'
  | forkless hopened' hfork => cases h.forks.symm.trans hfork
  | unforked hopened' hfork hanswer => cases hlaunched.symm.trans hanswer
  | launched happended hfork hanswer hpos =>
      obtain rfl := Except.ok.inj (hlaunched.symm.trans hanswer)
      omega
  | unrecorded hbroken =>
      obtain rfl := Except.ok.inj (hlaunched.symm.trans hbroken.launched)
      have := hbroken.positive
      omega
  | served hopened' hfork hanswer hpid' hbecame =>
      rw [hbecame.of_unredirected hos h.unredirected]
      rfl

theorem run_fork_of_escapes (hos : os.Regular) (hnull : path.hasNull = false)
    (h : Escapes os path keepStdio s e) : ((fork os path keepStdio).run s).1 = .error e := by
  cases h with
  | stranded h => exact run_fork_of_stranded hos hnull h
  | unrecorded h =>
      obtain ⟨opened, hopen⟩ := h.opened
      rw [run_fork_of_unrecorded keepStdio hopen h]

theorem reported_of_unopenable (hnull : path.hasNull = false) (h : ¬Opens path s) :
    Reported ((fork os path keepStdio).run s).1 := by
  cases hopen : s.files.openForWriting path 0o666 with
  | ok opened => exact absurd ⟨opened, hopen⟩ h
  | error e =>
      rw [fork, run_bind, run_openPidFile, hopen]
      rcases reported_of_unopened s!"Couldn't open the PID file for writing: {path}" hopen with
        ⟨hos, -⟩ | ⟨hnull', -⟩
      · exact reported_of_isOs _ hos
      · cases hnull.symm.trans hnull'

/-- A process that opens the file and forks gives up with a report, unless its streams are not
redirected or the number of the process that it launched is not recorded. -/
theorem reported_or_escapes (hos : os.Regular) (hopens : Opens path s) (hfork : os.hasFork = true)
    (hnull : path.hasNull = false) :
    Reported ((fork os path keepStdio).run s).1 ∨ ∃ e, Escapes os path keepStdio s e := by
  obtain ⟨opened, hopened⟩ := hopens
  obtain ⟨outcome, s', hrun, hforked⟩ := fork_forked os path keepStdio s
  rw [hrun]
  cases hforked with
  | refused hopen hos' => cases hopened.symm.trans hopen
  | unnameable hnull' => cases hnull.symm.trans hnull'
  | forkless hopened' hfork' => cases hfork.symm.trans hfork'
  | unforked hopened' hfork' hanswer => exact .inl (reported_of_isOs _ (hos.fork _ _ hanswer))
  | launched => exact .inl (failsOnly_ok _)
  | unrecorded hbroken => exact .inr ⟨_, .unrecorded hbroken⟩
  | served hopened' hfork' hanswer hpid hbecame =>
      rcases hbecame.reported_or hos with hreported | ⟨e, -, hunredirected⟩
      · exact .inl (failsOnly_map.mpr hreported)
      · exact .inr ⟨e, .stranded ⟨⟨_, hopened⟩, hfork, ⟨_, hanswer, hpid⟩, hunredirected⟩⟩

theorem run_fork_of_forkless (hopens : Opens path s) (hfork : os.hasFork = false) :
    ((fork os path keepStdio).run s).1 = .error (.fault .noFork) := by
  obtain ⟨⟨loc, t⟩, hopen⟩ := hopens
  simp [fork, hopen, hfork]

/-- The refusals that escape as they are. -/
theorem fork_escapes_iff (hos : os.Regular) (hnull : path.hasNull = false) (he : e.isOs = true) :
    ((fork os path keepStdio).run s).1 = .error e ↔ Escapes os path keepStdio s e := by
  refine ⟨fun hrun => ?_, run_fork_of_escapes hos hnull⟩
  have hbare : ¬Reported ((fork os path keepStdio).run s).1 := by
    rw [hrun]
    exact not_reported_of_isOs he
  have hopens : Opens path s :=
    Classical.byContradiction fun hopens => hbare (reported_of_unopenable hnull hopens)
  cases hfork : os.hasFork with
  | false =>
      rw [run_fork_of_forkless hopens hfork] at hrun
      obtain rfl := Except.error.inj hrun
      cases he
  | true =>
      obtain ⟨e', hescapes⟩ := (reported_or_escapes hos hopens hfork hnull).resolve_left hbare
      rw [run_fork_of_escapes hos hnull hescapes] at hrun
      obtain rfl := Except.error.inj hrun
      exact hescapes

theorem fork_reported_iff (hos : os.Regular) (hnull : path.hasNull = false) :
    Reported ((fork os path keepStdio).run s).1 ↔
      (Opens path s → os.hasFork = true) ∧ ∀ e, ¬Escapes os path keepStdio s e := by
  constructor
  · refine fun hreported => ⟨fun hopens => ?_, fun e hescapes => ?_⟩
    · cases hfork : os.hasFork with
      | true => rfl
      | false =>
          rw [run_fork_of_forkless hopens hfork] at hreported
          cases hreported _ rfl
    · rw [run_fork_of_escapes hos hnull hescapes] at hreported
      exact not_reported_of_isOs (hescapes.isOs hos) hreported
  · rintro ⟨hfork, hnone⟩
    by_cases hopens : Opens path s
    · refine (reported_or_escapes hos hopens (hfork hopens) hnull).resolve_right ?_
      rintro ⟨e, hescapes⟩
      exact hnone e hescapes
    · exact reported_of_unopenable hnull hopens

/-! ## The question whether the file is there -/

theorem run_warnIfStale (pidFilePath : String) (s : Session τ) :
    (warnIfStale pidFilePath).run s = match s.files.pathExists (Path.ofString pidFilePath) with
      | .error e => (.error e, s)
      | .ok false => (.ok false, s)
      | .ok true => (.ok true, s.addRecord
          { level := Level.warning
            source
            message := s!"Another instance of the daemon is already running, PID file {pidFilePath} exists." }) := by
  rcases hexists : s.files.pathExists (Path.ofString pidFilePath) with e | _ | _ <;>
    simp [warnIfStale, hexists]

theorem warnIfStale_returns_iff {pidFilePath : String}
    (hnull : (Path.ofString pidFilePath).hasNull = false) (s : Session τ) :
    (∃ found s', (warnIfStale pidFilePath).run s = (.ok found, s'))
      ↔ s.files.resolve (Path.ofString pidFilePath) .target ≠ .error .nameTooLong := by
  rw [run_warnIfStale]
  cases hexists : s.files.pathExists (Path.ofString pidFilePath) with
  | error e =>
      refine iff_of_false ?_ (not_not_intro ((Tree.pathExists_eq_error hnull).mp hexists).1)
      rintro ⟨found, s', hrun⟩
      cases hrun
  | ok found =>
      refine iff_of_true ?_ fun hlong => ?_
      · cases found <;> exact ⟨_, _, rfl⟩
      · cases hexists.symm.trans ((Tree.pathExists_eq_error hnull).mpr ⟨hlong, rfl⟩)

/-! ## The law -/

/-- What the system refuses while a process detaches is reported by this stage, unless the process
is stranded, or the number of the process that it launched is not recorded: these refusals, and no
others, escape as they are. Where there is a fork, that is all that escapes, so every failure is
reported just if neither is so. Whether the file is
there already is answered for every path that is not too long to be asked about. -/
theorem refusals_reported_iff (os : Processes τ) (hos : os.Regular) (pidFilePath : String)
    (hnull : (Path.ofString pidFilePath).hasNull = false) (keepStdio : Bool) (s : Session τ) :
    ((∃ found s', (warnIfStale pidFilePath).run s = (.ok found, s'))
        ↔ s.files.resolve (Path.ofString pidFilePath) .target ≠ .error .nameTooLong)
      ∧ (∀ e, e.isOs = true →
        (((fork os (Path.ofString pidFilePath) keepStdio).run s).1 = .error e
          ↔ Escapes os (Path.ofString pidFilePath) keepStdio s e))
      ∧ (Reported ((fork os (Path.ofString pidFilePath) keepStdio).run s).1
        ↔ (Opens (Path.ofString pidFilePath) s → os.hasFork = true)
          ∧ ∀ e, ¬Escapes os (Path.ofString pidFilePath) keepStdio s e) :=
  ⟨warnIfStale_returns_iff hnull s, fun _ he => fork_escapes_iff hos hnull he,
    fork_reported_iff hos hnull⟩

/-! ## A launched process that is refused its streams -/

def busyDescriptor : Failure :=
  .os (.numbered 16 "Device or resource busy")

/-- A system that launches the process, and answers it as given when it wants to lead a session or
to redirect a stream. -/
def launching (setsid dup2 : Except Failure Unit) : Processes Nat :=
  { Processes.granting 0 3 with
    setsid := fun _ => setsid
    dup2 := fun _ => dup2 }

theorem launching_regular {setsid dup2 : Except Failure Unit}
    (hsetsid : ∀ e, setsid = .error e → e.isOs = true)
    (hdup2 : ∀ e, dup2 = .error e → e.isOs = true) : (launching setsid dup2).Regular where
  umask _ := rfl
  fork _ _ h := by cases h
  setsid _ := hsetsid
  chdir _ _ h := by cases h
  openNull _ _ h := by cases h
  dup2 _ := hdup2
  close _ _ h := by cases h

/-- A process in an empty directory. -/
def launched : Session Nat :=
  .start ⟨[], []⟩ [] ⟨true, [], 0⟩

theorem namedAt_pid : (⟨[], []⟩ : Tree).NamedAt (Path.ofString "pid") ["pid"] :=
  Tree.namedAt_home _ (by decide)

theorem opens_pid : Opens (Path.ofString "pid") launched := by
  obtain ⟨t, hopen⟩ := Tree.openForWriting_of_plain 0o666 namedAt_pid (by decide)
    (Tree.plain_of_free rfl)
  exact ⟨_, hopen⟩

/-- Refused a session of its own, the process gives up with a report. -/
theorem refusals_reported_iff_without_session :
    let os := launching (.error busyDescriptor) (.error busyDescriptor)
    os.Regular ∧ (Path.ofString "pid").hasNull = false
      ∧ (∃ found s', (warnIfStale "pid").run launched = (.ok found, s'))
      ∧ Reported ((fork os (Path.ofString "pid") false).run launched).1
      ∧ ((fork os (Path.ofString "pid") false).run launched).1 ≠ .error busyDescriptor := by
  intro os
  have hrefusal : ∀ e, (.error busyDescriptor : Except Failure Unit) = .error e →
      e.isOs = true := by
    intro e he
    obtain rfl := Except.error.inj he
    rfl
  have hos : os.Regular := launching_regular hrefusal hrefusal
  have hnull : (Path.ofString "pid").hasNull = false := by decide
  have hresolve : (⟨[], []⟩ : Tree).resolve (Path.ofString "pid") .target = .ok (.free ["pid"]) :=
    (namedAt_pid.resolve (.inr (by simp [Tree.find?]))).trans (congrArg _ (Tree.spotAt_of_free rfl))
  have hnone : ∀ e, ¬Escapes os (Path.ofString "pid") false launched e := by
    intro e hescapes
    cases hescapes with
    | stranded h => cases h.unredirected.led
    | unrecorded h => cases h.breaks
  obtain ⟨hstale, hescapes, hreported⟩ := refusals_reported_iff os hos "pid" hnull false launched
  refine ⟨hos, hnull, hstale.mpr ?_, hreported.mpr ⟨fun _ => rfl, hnone⟩, ?_⟩
  · change (⟨[], []⟩ : Tree).resolve (Path.ofString "pid") .target ≠ _
    rw [hresolve]
    simp
  · rw [ne_eq, hescapes busyDescriptor rfl]
    exact hnone _

/-- Refused a stream, it ends with the bare refusal. -/
theorem refused_stream_escapes :
    let os := launching (.ok ()) (.error busyDescriptor)
    ((fork os (Path.ofString "pid") false).run launched).1 = .error busyDescriptor
      ∧ ¬Reported ((fork os (Path.ofString "pid") false).run launched).1 := by
  intro os
  have hos : os.Regular := launching_regular (fun _ h => by cases h) fun e he => by
    obtain rfl := Except.error.inj he
    rfl
  have hstranded : Stranded os (Path.ofString "pid") false launched busyDescriptor :=
    ⟨opens_pid, rfl, ⟨0, rfl, by decide⟩, rfl, rfl, rfl, _, .closed rfl (by decide) rfl⟩
  have hrun := run_fork_of_stranded hos (by decide) hstranded
  refine ⟨hrun, ?_⟩
  rw [hrun]
  exact not_reported_of_isOs rfl

end SeedNode.Detach

import SeedNode.Proofs.Daemon.PidFile
import SeedNode.Proofs.Identity.Saving

/-!
# Forking

A fork comes after the opening of the file for the process number, so a bad path fails before it.
The process that launched the service appends one line and does nothing else; the service leaves the
file alone and then its surroundings, step by step, up to the first step that fails. `Forked` lists
all ways in which this can go, with the session that each leaves behind. Whoever opens the file
later finds the lines of the runs before it, so what a sequence of runs leaves in it is what was
there, and a line for each run that succeeded (`Launches`).
-/

namespace SeedNode.Detach

variable {τ α : Type} {os : Processes τ} {path : Path} {keepStdio : Bool} {s s' : Session τ}
  {calls : List (Call τ)} {outcome : Except Failure Role}

/-! ## Building blocks -/

/-- What leaves a step of detaching: a refusal of the system becomes a report. -/
def reported (said : String) (e : Failure) : Failure :=
  if e.isOs then .report (.plain .detach s!"{said}: {e.message}") else e

@[simp] theorem run_reporting (said : String) (action : SessionM τ α) (s : Session τ) :
    (reporting said action).run s
      = ((action.run s).1.mapError (reported said), (action.run s).2) := by
  rcases haction : action.run s with ⟨e | a, t⟩
  · cases hos : e.isOs <;> simp [reporting, haction, reported, hos, failed]
  · simp [reporting, haction]

@[simp] theorem run_openPidFile (path : Path) (s : Session τ) :
    (openPidFile path).run s = match s.files.openForWriting path 0o666 with
      | .ok (loc, t) => (.ok loc, { s with files := t })
      | .error e =>
        (.error (reported s!"Couldn't open the PID file for writing: {path}" e), s) := by
  rcases hopen : s.files.openForWriting path 0o666 with e | ⟨loc, t⟩ <;>
    simp [openPidFile, hopen]

/-- How much of its line the file gets from a process number. -/
def stored (recording : Option BrokenWrite) (pid : Int) : Bytes :=
  match recording with
  | none => pidLine pid
  | some broken => (pidLine pid).take broken.stored

/-- What comes out of the write. -/
def written (recording : Option BrokenWrite) : Except Failure Unit :=
  match recording with
  | none => .ok ()
  | some broken => .error (.os broken.refusal)

@[simp] theorem run_appendPid (recording : Option BrokenWrite) (loc : Location) (pid : Int)
    (s : Session τ) :
    (appendPid recording loc pid).run s = (written recording, { s with
      files := s.files.setContent loc (s.files.contentAt loc ++ stored recording pid) }) := by
  cases recording <;> rfl

theorem run_andFinally (action : SessionM τ α) (cleanup : SessionM τ Unit) (s : Session τ) :
    (andFinally action cleanup).run s = match cleanup.run (action.run s).2 with
      | (.ok _, t) => ((action.run s).1, t)
      | (.error e, t) => (.error e, t) := by
  rcases haction : action.run s with ⟨e | a, t⟩ <;>
    rcases hcleanup : cleanup.run t with ⟨e' | _, t'⟩ <;> simp [andFinally, haction, hcleanup]

theorem run_andFinally_of_ok {action : SessionM τ α} {cleanup : SessionM τ Unit}
    {result : Except Failure α} {s s₁ s' : Session τ} (haction : action.run s = (result, s₁))
    (hcleanup : cleanup.run s₁ = (.ok (), s')) :
    (andFinally action cleanup).run s = (result, s') := by
  rw [run_andFinally, haction]
  simp only [hcleanup]

/-! ## Becoming the service -/

/-- The calls that point streams to a descriptor, made after `calls` up to the first that fails, and
what comes out. -/
def pointed (os : Processes τ) (null : Int) :
    List Int → List (Call τ) → List (Call τ) × Except Failure Unit
  | [], _ => ([], .ok ())
  | stream :: rest, calls =>
    match os.dup2 (calls ++ [.dup2 null stream]) with
    | .ok () => (.dup2 null stream :: (pointed os null rest (calls ++ [.dup2 null stream])).1,
      (pointed os null rest (calls ++ [.dup2 null stream])).2)
    | .error e => ([.dup2 null stream], .error e)

/-- How the standard streams are redirected after `calls`: the calls made, and what comes out. The
null device is closed again unless it is one of the streams, whatever came out before. -/
inductive Redirects (os : Processes τ) (calls : List (Call τ)) :
    List (Call τ) → Except Failure Unit → Prop
  | unopened {e} (hnull : os.openNull (calls ++ [.openNull]) = .error e) :
      Redirects os calls [.openNull] (.error e)
  | taken {null made outcome} (hnull : os.openNull (calls ++ [.openNull]) = .ok null)
      (hlow : null ≤ 2)
      (hmade : pointed os null [0, 1, 2] (calls ++ [.openNull]) = (made, outcome)) :
      Redirects os calls (.openNull :: made) outcome
  | closed {null made outcome} (hnull : os.openNull (calls ++ [.openNull]) = .ok null)
      (hhigh : 2 < null)
      (hmade : pointed os null [0, 1, 2] (calls ++ [.openNull]) = (made, outcome)) :
      Redirects os calls (.openNull :: made ++ [.close null])
        (os.close (calls ++ .openNull :: made ++ [.close null]) >>= fun _ => outcome)

/-- How a forked process becomes the service, after `calls`: it resets its mask, leads a session of
its own, moves to the root, and redirects its streams unless it keeps them. A step that fails is the
last one. -/
inductive Became (os : Processes τ) (keepStdio : Bool) (calls : List (Call τ)) :
    List (Call τ) → Except Failure Unit → Prop
  | masked {e} (humask : os.umask (calls ++ [.umask 0]) = .error e) :
      Became os keepStdio calls [.umask 0] (.error e)
  | unled {e} (humask : os.umask (calls ++ [.umask 0]) = .ok ())
      (hsetsid : os.setsid (calls ++ [.umask 0, .setsid]) = .error e) :
      Became os keepStdio calls [.umask 0, .setsid]
        (.error (reported "SID creation failure" e))
  | unmoved {e} (humask : os.umask (calls ++ [.umask 0]) = .ok ())
      (hsetsid : os.setsid (calls ++ [.umask 0, .setsid]) = .ok ())
      (hchdir : os.chdir (calls ++ [.umask 0, .setsid, .chdir "/"]) = .error e) :
      Became os keepStdio calls [.umask 0, .setsid, .chdir "/"]
        (.error (reported "Couldn't change working directory to '/'" e))
  | attached (humask : os.umask (calls ++ [.umask 0]) = .ok ())
      (hsetsid : os.setsid (calls ++ [.umask 0, .setsid]) = .ok ())
      (hchdir : os.chdir (calls ++ [.umask 0, .setsid, .chdir "/"]) = .ok ())
      (hkeep : keepStdio = true) :
      Became os keepStdio calls [.umask 0, .setsid, .chdir "/"] (.ok ())
  | redirected {made outcome} (humask : os.umask (calls ++ [.umask 0]) = .ok ())
      (hsetsid : os.setsid (calls ++ [.umask 0, .setsid]) = .ok ())
      (hchdir : os.chdir (calls ++ [.umask 0, .setsid, .chdir "/"]) = .ok ())
      (hkeep : keepStdio = false)
      (hredirects : Redirects os (calls ++ [.umask 0, .setsid, .chdir "/"]) made outcome) :
      Became os keepStdio calls ([.umask 0, .setsid, .chdir "/"] ++ made) outcome

theorem foldl_addCall (made : List (Call τ)) (s : Session τ) :
    made.foldl Session.addCall s = { s with calls := s.calls ++ made } := by
  induction made generalizing s with
  | nil => rw [List.foldl_nil, List.append_nil]
  | cons call rest ih =>
      rw [List.foldl_cons, ih, Session.addCall]
      simp only [List.append_assoc, List.singleton_append]

/-- The three streams are pointed to the descriptor, up to the first that cannot be. -/
theorem run_pointed (os : Processes τ) (null : Int) (s : Session τ) :
    (do SessionM.ask (.dup2 null 0) os.dup2
        SessionM.ask (.dup2 null 1) os.dup2
        SessionM.ask (.dup2 null 2) os.dup2 : SessionM τ Unit).run s
      = ((pointed os null [0, 1, 2] s.calls).2,
        (pointed os null [0, 1, 2] s.calls).1.foldl Session.addCall s) := by
  have hlast : ∀ s : Session τ, (SessionM.ask (.dup2 null 2) os.dup2).run s
      = ((pointed os null [2] s.calls).2,
        (pointed os null [2] s.calls).1.foldl Session.addCall s) := by
    intro s
    rw [run_ask, pointed]
    cases os.dup2 (s.calls ++ [.dup2 null 2]) <;> rfl
  rw [run_bind, run_ask, pointed]
  cases os.dup2 (s.calls ++ [.dup2 null 0]) with
  | error e => rfl
  | ok _ =>
      simp only
      rw [run_bind, run_ask, Session.addCall_calls, pointed]
      cases os.dup2 (s.calls ++ [.dup2 null 0] ++ [.dup2 null 1]) with
      | error e => rfl
      | ok _ => exact hlast _

theorem silence_redirects (os : Processes τ) (s : Session τ) :
    ∃ made outcome, (silence os).run s = (outcome, made.foldl Session.addCall s)
      ∧ Redirects os s.calls made outcome := by
  rw [silence, run_bind, run_ask]
  cases hnull : os.openNull (s.calls ++ [.openNull]) with
  | error e => exact ⟨_, _, rfl, .unopened hnull⟩
  | ok null =>
      simp only
      rw [run_andFinally, run_pointed]
      rcases hmade : pointed os null [0, 1, 2] (s.addCall .openNull).calls with ⟨made, outcome⟩
      by_cases hhigh : 2 < null
      · have hcalls : (made.foldl Session.addCall (s.addCall .openNull)).calls ++ [.close null]
            = s.calls ++ .openNull :: made ++ [.close null] := by
          rw [← List.foldl_cons, foldl_addCall]
        refine ⟨.openNull :: made ++ [.close null], _, ?_, .closed hnull hhigh hmade⟩
        rw [if_pos hhigh, run_ask, hcalls, List.foldl_append]
        cases os.close (s.calls ++ .openNull :: made ++ [.close null]) <;> rfl
      · exact ⟨.openNull :: made, outcome, by rw [if_neg hhigh]; rfl,
          .taken hnull (Int.not_lt.mp hhigh) hmade⟩

theorem becomeService_became (os : Processes τ) (keepStdio : Bool) (s : Session τ) :
    ∃ made outcome, (becomeService os keepStdio).run s = (outcome, made.foldl Session.addCall s)
      ∧ Became os keepStdio s.calls made outcome := by
  have hled : (s.addCall (.umask 0)).calls ++ [.setsid] = s.calls ++ [.umask 0, .setsid] :=
    List.append_assoc _ _ _
  have hmoved : ((s.addCall (.umask 0)).addCall .setsid).calls ++ [.chdir "/"]
      = s.calls ++ [.umask 0, .setsid, .chdir "/"] := by
    simp [Session.addCall]
  rw [becomeService, run_bind, run_ask]
  cases humask : os.umask (s.calls ++ [.umask 0]) with
  | error e => exact ⟨_, _, rfl, .masked humask⟩
  | ok _ =>
      simp only
      rw [run_bind, run_reporting, run_ask, hled]
      cases hsetsid : os.setsid (s.calls ++ [.umask 0, .setsid]) with
      | error e => exact ⟨_, _, rfl, .unled humask hsetsid⟩
      | ok _ =>
          simp only [mapError_ok]
          rw [run_bind, run_reporting, run_ask, hmoved]
          cases hchdir : os.chdir (s.calls ++ [.umask 0, .setsid, .chdir "/"]) with
          | error e => exact ⟨_, _, rfl, .unmoved humask hsetsid hchdir⟩
          | ok _ =>
              simp only [mapError_ok]
              cases keepStdio with
              | true => exact ⟨_, _, rfl, .attached humask hsetsid hchdir rfl⟩
              | false =>
                  obtain ⟨made, outcome, hrun, hredirects⟩ := silence_redirects os
                    (((s.addCall (.umask 0)).addCall .setsid).addCall (.chdir "/"))
                  rw [Session.addCall, hmoved] at hredirects
                  refine ⟨[.umask 0, .setsid, .chdir "/"] ++ made, outcome, ?_,
                    .redirected humask hsetsid hchdir rfl hredirects⟩
                  rw [if_neg Bool.false_ne_true, hrun]
                  rfl

/-! ## Forking -/

/-- The system lets the process open the file of the process number. -/
def Opens (path : Path) (s : Session τ) : Prop :=
  ∃ opened, s.files.openForWriting path 0o666 = .ok opened

/-- The process launched another, and the write of its number broke off. -/
structure Unrecorded (os : Processes τ) (path : Path) (s : Session τ) (pid : Int)
    (broken : BrokenWrite) : Prop where
  opened : Opens path s
  forks : os.hasFork = true
  launched : os.fork (s.calls ++ [.fork]) = .ok pid
  positive : 0 < pid
  breaks : os.recording = some broken

/-- How a fork goes, from the session `s`: what comes out and the session that is left. Whatever
fails before the file is open leaves everything as it was, and no line is appended but by a process
that launched another. -/
inductive Forked (os : Processes τ) (path : Path) (keepStdio : Bool) (s : Session τ) :
    Except Failure Role → Session τ → Prop
  /-- The system refused to open the file. -/
  | refused {e} (hopen : s.files.openForWriting path 0o666 = .error e) (hos : e.isOs = true) :
      Forked os path keepStdio s (.error (.report (.plain .detach
        s!"Couldn't open the PID file for writing: {path}: {e.message}"))) s
  /-- The path is none that the system takes. -/
  | unnameable (hnull : path.hasNull = true) :
      Forked os path keepStdio s (.error (.fault .embeddedNull)) s
  /-- There is no fork. -/
  | forkless {t} (hopened : Tree.Appends path [] s.files t) (hfork : os.hasFork = false) :
      Forked os path keepStdio s (.error (.fault .noFork)) { s with files := t }
  /-- The fork failed. -/
  | unforked {t e} (hopened : Tree.Appends path [] s.files t) (hfork : os.hasFork = true)
      (hanswer : os.fork (s.calls ++ [.fork]) = .error e) :
      Forked os path keepStdio s (.error (reported "Forking failed" e))
        ({ s with files := t }.addCall .fork)
  /-- The process launched another. -/
  | launched {t pid} (happended : Tree.Appends path (pidLine pid) s.files t)
      (hfork : os.hasFork = true) (hanswer : os.fork (s.calls ++ [.fork]) = .ok pid)
      (hpid : 0 < pid) (hwrite : os.recording = none) :
      Forked os path keepStdio s (.ok .parent) (({ s with files := t }.addCall .fork).addRecord
        { level := Level.info, source, message := s!"Forked successfully: PID: {pid}." })
  /-- The process launched another, and the write of its number broke off. -/
  | unrecorded {t pid broken} (hbroken : Unrecorded os path s pid broken)
      (happended : Tree.Appends path ((pidLine pid).take broken.stored) s.files t) :
      Forked os path keepStdio s (.error (.os broken.refusal))
        ({ s with files := t }.addCall .fork)
  /-- The process is the one that was launched. -/
  | served {t pid made outcome} (hopened : Tree.Appends path [] s.files t)
      (hfork : os.hasFork = true) (hanswer : os.fork (s.calls ++ [.fork]) = .ok pid)
      (hpid : pid ≤ 0) (hbecame : Became os keepStdio (s.calls ++ [.fork]) made outcome) :
      Forked os path keepStdio s (outcome.map fun _ => .service)
        ((.fork :: made).foldl Session.addCall { s with files := t })

/-- A path that cannot be opened is refused by the system, or none that it takes. -/
theorem reported_of_unopened {t : Tree} {e : Failure} (said : String)
    (h : t.openForWriting path 0o666 = .error e) :
    e.isOs = true ∧ reported said e = .report (.plain .detach s!"{said}: {e.message}")
      ∨ path.hasNull = true ∧ reported said e = .fault .embeddedNull := by
  cases hnull : path.hasNull with
  | true =>
      rw [Tree.openForWriting, Tree.resolveNamed, hnull] at h
      obtain rfl := Except.error.inj h
      exact .inr ⟨rfl, rfl⟩
  | false =>
      have hos : e.isOs = true :=
        (KeyFile.openForWriting_error h).resolve_right (by simp [hnull])
      exact .inl ⟨hos, if_pos hos⟩

/-- What a fork comes to once the file is open, by how the system answers. -/
theorem run_fork_of_opened {loc : Location} {t : Tree} (keepStdio : Bool)
    (hopen : s.files.openForWriting path 0o666 = .ok (loc, t)) (hfork : os.hasFork = true) :
    (fork os path keepStdio).run s
      = match (os.fork (s.calls ++ [.fork])).mapError (reported "Forking failed") with
        | .ok pid => (if 0 < pid then do
              appendPid os.recording loc pid
              SessionM.note Level.info source s!"Forked successfully: PID: {pid}."
              return .parent
            else do
              becomeService os keepStdio
              return .service : SessionM τ Role).run ({ s with files := t }.addCall .fork)
        | .error e => (.error e, { s with files := t }.addCall .fork) := by
  cases hanswer : os.fork (s.calls ++ [.fork]) <;>
    simp [fork, hopen, hfork, hanswer]

theorem run_fork_of_launched {loc : Location} {t : Tree} {pid : Int} (keepStdio : Bool)
    (hopen : s.files.openForWriting path 0o666 = .ok (loc, t)) (hfork : os.hasFork = true)
    (hanswer : os.fork (s.calls ++ [.fork]) = .ok pid) (hpid : 0 < pid)
    (hwrite : os.recording = none) :
    (fork os path keepStdio).run s = (.ok .parent,
      ({ s with files := t.setContent loc (t.contentAt loc ++ pidLine pid) }.addCall
        .fork).addRecord
          { level := Level.info, source, message := s!"Forked successfully: PID: {pid}." }) := by
  rw [run_fork_of_opened keepStdio hopen hfork, hanswer]
  simp [hpid, hwrite, written, stored, Session.addCall]

theorem run_fork_of_unrecorded {loc : Location} {t : Tree} {pid : Int} {broken : BrokenWrite}
    (keepStdio : Bool) (hopen : s.files.openForWriting path 0o666 = .ok (loc, t))
    (h : Unrecorded os path s pid broken) :
    (fork os path keepStdio).run s = (.error (.os broken.refusal),
      ({ s with files :=
        t.setContent loc (t.contentAt loc ++ (pidLine pid).take broken.stored) } :
          Session τ).addCall .fork) := by
  rw [run_fork_of_opened keepStdio hopen h.forks, h.launched]
  simp [h.positive, h.breaks, written, stored, Session.addCall]

theorem fork_forked (os : Processes τ) (path : Path) (keepStdio : Bool) (s : Session τ) :
    ∃ outcome s', (fork os path keepStdio).run s = (outcome, s')
      ∧ Forked os path keepStdio s outcome s' := by
  cases hopen : s.files.openForWriting path 0o666 with
  | error e =>
      rw [fork, run_bind, run_openPidFile, hopen]
      refine ⟨_, _, rfl, ?_⟩
      rcases reported_of_unopened (s!"Couldn't open the PID file for writing: {path}") hopen with
        ⟨hos, hreported⟩ | ⟨hnull, hreported⟩
      all_goals rw [hreported]
      · exact .refused hopen hos
      · exact .unnameable hnull
  | ok opened =>
      obtain ⟨loc, t⟩ := opened
      have hopened := (Tree.appends_of_opened hopen).1
      cases hfork : os.hasFork with
      | false =>
          refine ⟨_, _, ?_, .forkless hopened hfork⟩
          rw [fork, run_bind, run_openPidFile, hopen]
          simp only [hfork, if_true]
          rfl
      | true =>
          cases hanswer : os.fork (s.calls ++ [.fork]) with
          | error e =>
              refine ⟨_, _, ?_, .unforked hopened hfork hanswer⟩
              rw [run_fork_of_opened keepStdio hopen hfork, hanswer]
              rfl
          | ok pid =>
              by_cases hpid : 0 < pid
              · cases hwrite : os.recording with
                | none =>
                    exact ⟨_, _, run_fork_of_launched keepStdio hopen hfork hanswer hpid hwrite,
                      .launched (Tree.appends_of_written hopen _) hfork hanswer hpid hwrite⟩
                | some broken =>
                    have hbroken : Unrecorded os path s pid broken :=
                      ⟨⟨_, hopen⟩, hfork, hanswer, hpid, hwrite⟩
                    exact ⟨_, _, run_fork_of_unrecorded keepStdio hopen hbroken,
                      .unrecorded hbroken (Tree.appends_of_written hopen _)⟩
              · obtain ⟨made, outcome, hrun, hbecame⟩ :=
                  becomeService_became os keepStdio ({ s with files := t }.addCall .fork)
                refine ⟨outcome.map fun _ => .service, _, ?_,
                  .served hopened hfork hanswer (Int.not_lt.mp hpid) hbecame⟩
                rw [run_fork_of_opened keepStdio hopen hfork, hanswer]
                simp only [mapError_ok, if_neg hpid]
                rw [run_bind, hrun]
                cases outcome <;> rfl

/-! ## Staying -/

/-- How a process stays attached: it appends its own number, or cannot open the file, or the write
breaks off. -/
inductive Stayed (os : Processes τ) (path : Path) (s : Session τ) :
    Except Failure Role → Session τ → Prop
  | refused {e} (hopen : s.files.openForWriting path 0o666 = .error e) (hos : e.isOs = true) :
      Stayed os path s (.error (.report (.plain .detach
        s!"Couldn't open the PID file for writing: {path}: {e.message}"))) s
  | unnameable (hnull : path.hasNull = true) :
      Stayed os path s (.error (.fault .embeddedNull)) s
  | recorded {t} (happended : Tree.Appends path (pidLine os.pid) s.files t)
      (hwrite : os.recording = none) :
      Stayed os path s (.ok .service) ({ s with files := t }.addRecord
        { level := Level.info, source, message := s!"Running in the foreground: PID: {os.pid}." })
  | unrecorded {t broken}
      (happended : Tree.Appends path ((pidLine os.pid).take broken.stored) s.files t)
      (hwrite : os.recording = some broken) :
      Stayed os path s (.error (.os broken.refusal)) { s with files := t }

theorem run_stay_of_opened {loc : Location} {t : Tree}
    (hopen : s.files.openForWriting path 0o666 = .ok (loc, t)) (hwrite : os.recording = none) :
    (stay os path).run s = (.ok .service,
      { s with files := t.setContent loc (t.contentAt loc ++ pidLine os.pid) }.addRecord
        { level := Level.info, source,
          message := s!"Running in the foreground: PID: {os.pid}." }) := by
  simp [stay, hopen, hwrite, written, stored]

theorem run_stay_of_broken {loc : Location} {t : Tree} {broken : BrokenWrite}
    (hopen : s.files.openForWriting path 0o666 = .ok (loc, t))
    (hwrite : os.recording = some broken) :
    (stay os path).run s = (.error (.os broken.refusal),
      { s with files :=
        t.setContent loc (t.contentAt loc ++ (pidLine os.pid).take broken.stored) }) := by
  simp [stay, hopen, hwrite, written, stored]

theorem stay_stayed (os : Processes τ) (path : Path) (s : Session τ) :
    ∃ outcome s', (stay os path).run s = (outcome, s') ∧ Stayed os path s outcome s' := by
  cases hopen : s.files.openForWriting path 0o666 with
  | error e =>
      rw [stay, run_bind, run_openPidFile, hopen]
      refine ⟨_, _, rfl, ?_⟩
      rcases reported_of_unopened (s!"Couldn't open the PID file for writing: {path}") hopen with
        ⟨hos, hreported⟩ | ⟨hnull, hreported⟩
      all_goals rw [hreported]
      · exact .refused hopen hos
      · exact .unnameable hnull
  | ok opened =>
      cases hwrite : os.recording with
      | none =>
          exact ⟨_, _, run_stay_of_opened hopen hwrite,
            .recorded (Tree.appends_of_written hopen _) hwrite⟩
      | some broken =>
          exact ⟨_, _, run_stay_of_broken hopen hwrite,
            .unrecorded (Tree.appends_of_written hopen _) hwrite⟩

/-! ## One run after another -/

/-- What a run puts into the file: the line of a process, or the beginning of it if the write broke
off. -/
structure PidEntry where
  pid : Int
  recording : Option BrokenWrite

/-- The entry of a run that succeeded. -/
def PidEntry.whole (pid : Int) : PidEntry :=
  ⟨pid, none⟩

def PidEntry.text (entry : PidEntry) : Bytes :=
  stored entry.recording entry.pid

/-- Runs that detach with one file for the process number, each in a process of its own that finds
the file as the run before left it. There is an entry for each run that succeeded, with the number
of the child where the process launched one, and of the process itself where it stayed; and for each
run whose write broke off. -/
inductive Launches (path : Path) (t : Tree) : List PidEntry → Tree → Prop
  | none : Launches path t [] t
  | launched {entries t' τ os keepStdio pid} {s s' : Session τ} (h : Launches path t entries t')
      (hfiles : s.files = t') (hrun : (fork os path keepStdio).run s = (.ok .parent, s'))
      (hpid : os.fork (s.calls ++ [.fork]) = .ok pid) :
      Launches path t (entries ++ [.whole pid]) s'.files
  | served {entries t' τ os keepStdio} {s s' : Session τ} (h : Launches path t entries t')
      (hfiles : s.files = t') (hrun : (fork os path keepStdio).run s = (.ok .service, s')) :
      Launches path t entries s'.files
  | unforked {entries t' τ os keepStdio e} {s s' : Session τ} (h : Launches path t entries t')
      (hfiles : s.files = t') (hrun : (fork os path keepStdio).run s = (.error e, s'))
      (hwhole : ∀ pid broken, ¬Unrecorded os path s pid broken) : Launches path t entries s'.files
  | unrecorded {entries t' τ os keepStdio pid broken outcome} {s s' : Session τ}
      (h : Launches path t entries t') (hfiles : s.files = t')
      (hrun : (fork os path keepStdio).run s = (outcome, s'))
      (hbroken : Unrecorded os path s pid broken) :
      Launches path t (entries ++ [⟨pid, some broken⟩]) s'.files
  | stayed {entries t' τ os} {s s' : Session τ} (h : Launches path t entries t')
      (hfiles : s.files = t') (hrun : (stay os path).run s = (.ok .service, s')) :
      Launches path t (entries ++ [.whole os.pid]) s'.files
  | unopened {entries t' τ os e} {s s' : Session τ} (h : Launches path t entries t')
      (hfiles : s.files = t') (hrun : (stay os path).run s = (.error e, s'))
      (hunopened : ¬Opens path s) : Launches path t entries s'.files
  | broken {entries t' τ os broken outcome} {s s' : Session τ} (h : Launches path t entries t')
      (hfiles : s.files = t') (hrun : (stay os path).run s = (outcome, s')) (hopens : Opens path s)
      (hbroken : os.recording = some broken) :
      Launches path t (entries ++ [⟨os.pid, some broken⟩]) s'.files

/-- A process that launched another appended the line of that one. -/
theorem Forked.recorded_launched {pid : Int} (h : Forked os path keepStdio s (.ok .parent) s')
    (hpid : os.fork (s.calls ++ [.fork]) = .ok pid) :
    Tree.recorded path s'.files = Tree.recorded path s.files ++ pidLine pid := by
  generalize hrole : (.ok .parent : Except Failure Role) = outcome at h
  cases h with
  | launched happended hfork hanswer hpos hwrite =>
      obtain rfl := Except.ok.inj (hanswer.symm.trans hpid)
      exact happended.content
  | served hopened hfork hanswer hneg hbecame =>
      rename_i outcome
      cases outcome <;> cases hrole
  | _ => cases hrole

/-- Every other fork leaves the content of the file, unless the write of the number broke off. -/
theorem Forked.recorded_kept (h : Forked os path keepStdio s outcome s')
    (hrole : outcome ≠ .ok .parent) (hwhole : ∀ pid broken, ¬Unrecorded os path s pid broken) :
    Tree.recorded path s'.files = Tree.recorded path s.files := by
  have hkept : ∀ t, Tree.Appends path [] s.files t →
      Tree.recorded path t = Tree.recorded path s.files := by
    intro t happends
    rw [happends.content, List.append_nil]
  cases h with
  | refused hopen hos => rfl
  | unnameable hnull => rfl
  | forkless hopened hfork => exact hkept _ hopened
  | unforked hopened hfork hanswer => exact hkept _ hopened
  | launched => exact absurd rfl hrole
  | unrecorded hbroken => exact absurd hbroken (hwhole _ _)
  | served hopened hfork hanswer hpid hbecame =>
      rw [foldl_addCall]
      exact hkept _ hopened

theorem recorded_of_fork {pid : Int} (hrun : (fork os path keepStdio).run s = (.ok .parent, s'))
    (hpid : os.fork (s.calls ++ [.fork]) = .ok pid) :
    Tree.recorded path s'.files = Tree.recorded path s.files ++ pidLine pid := by
  obtain ⟨outcome, left, hfork, hforked⟩ := fork_forked os path keepStdio s
  obtain ⟨rfl, rfl⟩ := Prod.mk.inj (hrun.symm.trans hfork)
  exact hforked.recorded_launched hpid

theorem recorded_of_kept (hrun : (fork os path keepStdio).run s = (outcome, s'))
    (hrole : outcome ≠ .ok .parent) (hwhole : ∀ pid broken, ¬Unrecorded os path s pid broken) :
    Tree.recorded path s'.files = Tree.recorded path s.files := by
  obtain ⟨outcome', left, hfork, hforked⟩ := fork_forked os path keepStdio s
  obtain ⟨rfl, rfl⟩ := Prod.mk.inj (hrun.symm.trans hfork)
  exact hforked.recorded_kept hrole hwhole

theorem not_unrecorded_of_ok {role : Role} (hrun : (fork os path keepStdio).run s = (.ok role, s'))
    (pid : Int) (broken : BrokenWrite) : ¬Unrecorded os path s pid broken := by
  intro h
  obtain ⟨opened, hopen⟩ := h.opened
  cases hrun.symm.trans (run_fork_of_unrecorded keepStdio hopen h)

theorem recorded_of_unrecorded {pid : Int} {broken : BrokenWrite}
    (hrun : (fork os path keepStdio).run s = (outcome, s'))
    (h : Unrecorded os path s pid broken) :
    Tree.recorded path s'.files
      = Tree.recorded path s.files ++ (pidLine pid).take broken.stored := by
  obtain ⟨opened, hopen⟩ := h.opened
  obtain ⟨-, rfl⟩ := Prod.mk.inj (hrun.symm.trans (run_fork_of_unrecorded keepStdio hopen h))
  exact (Tree.appends_of_written hopen _).content

theorem recorded_of_stay (hrun : (stay os path).run s = (.ok .service, s')) :
    Tree.recorded path s'.files = Tree.recorded path s.files ++ pidLine os.pid := by
  obtain ⟨outcome, left, hstay, hstayed⟩ := stay_stayed os path s
  obtain ⟨rfl, rfl⟩ := Prod.mk.inj (hrun.symm.trans hstay)
  cases hstayed with
  | recorded happended hwrite => exact happended.content

theorem recorded_of_unopened (hrun : (stay os path).run s = (outcome, s'))
    (hunopened : ¬Opens path s) : Tree.recorded path s'.files = Tree.recorded path s.files := by
  cases hopen : s.files.openForWriting path 0o666 with
  | ok opened => exact absurd ⟨opened, hopen⟩ hunopened
  | error e =>
      simp only [stay, run_bind, run_openPidFile, hopen] at hrun
      rw [← (Prod.mk.inj hrun).2]

theorem recorded_of_broken {broken : BrokenWrite} (hrun : (stay os path).run s = (outcome, s'))
    (hopens : Opens path s) (hbroken : os.recording = some broken) :
    Tree.recorded path s'.files
      = Tree.recorded path s.files ++ (pidLine os.pid).take broken.stored := by
  obtain ⟨opened, hopen⟩ := hopens
  obtain ⟨-, rfl⟩ := Prod.mk.inj (hrun.symm.trans (run_stay_of_broken hopen hbroken))
  exact (Tree.appends_of_written hopen _).content

/-- One run appends the entry that is listed for it, so all of them append all entries. -/
theorem Launches.recorded {t t' : Tree} {entries : List PidEntry} (h : Launches path t entries t') :
    Tree.recorded path t' = Tree.recorded path t ++ entries.flatMap PidEntry.text := by
  have happended : ∀ {entries : List PidEntry} {entry : PidEntry} {before after : Bytes},
      before = Tree.recorded path t ++ entries.flatMap PidEntry.text →
      after = before ++ entry.text →
      after = Tree.recorded path t ++ (entries ++ [entry]).flatMap PidEntry.text := by
    rintro entries entry before after rfl rfl
    rw [List.flatMap_append, List.flatMap_singleton, List.append_assoc]
  induction h with
  | none => exact (List.append_nil _).symm
  | launched _ hfiles hrun hpid ih =>
      exact happended ih (hfiles ▸ recorded_of_fork hrun hpid)
  | served _ hfiles hrun ih =>
      rw [recorded_of_kept hrun (by simp) (not_unrecorded_of_ok hrun), hfiles, ih]
  | unforked _ hfiles hrun hwhole ih => rw [recorded_of_kept hrun (by simp) hwhole, hfiles, ih]
  | unrecorded _ hfiles hrun hbroken ih =>
      exact happended ih (hfiles ▸ recorded_of_unrecorded hrun hbroken)
  | stayed _ hfiles hrun ih => exact happended ih (hfiles ▸ recorded_of_stay hrun)
  | unopened _ hfiles hrun hunopened ih => rw [recorded_of_unopened hrun hunopened, hfiles, ih]
  | broken _ hfiles hrun hopens hbroken ih =>
      exact happended ih (hfiles ▸ recorded_of_broken hrun hopens hbroken)

/-! ## The law -/

/-- Detaching is ordered, and its file is only appended to. A fork goes one of the ways that
`Forked` lists, whatever the calls come to: the file is open before the fork, the launching process
appends the line of the other and makes no further call, and the service leaves the file and makes
its steps up to the first that fails. A process that stays appends its own line. Where the write of
a line breaks off, its beginning is appended, and the refusal comes out. After any runs with one
file it holds what it held before them, and then the lines of those that succeeded, in their order,
with the beginnings of lines that broken writes left between them. -/
theorem detaching_appends :
    (∀ {τ : Type} (os : Processes τ) (path : Path) (keepStdio : Bool) (s : Session τ),
      ∃ outcome s', (fork os path keepStdio).run s = (outcome, s')
        ∧ Forked os path keepStdio s outcome s')
      ∧ (∀ {τ : Type} (os : Processes τ) (path : Path) (s : Session τ),
        ∃ outcome s', (stay os path).run s = (outcome, s') ∧ Stayed os path s outcome s')
      ∧ ∀ (path : Path) (t t' : Tree) (entries : List PidEntry), Launches path t entries t' →
        Tree.recorded path t' = Tree.recorded path t ++ entries.flatMap PidEntry.text :=
  ⟨fork_forked, stay_stayed, fun _ _ _ _ h => h.recorded⟩

/-- A system that grants every call: the number of a child, and the descriptor of the null
device. -/
def Processes.granting (child null : Int) : Processes τ where
  hasFork := true
  pid := 7
  fork _ := .ok child
  umask _ := .ok ()
  setsid _ := .ok ()
  chdir _ := .ok ()
  openNull _ := .ok null
  dup2 _ := .ok ()
  close _ := .ok ()

theorem detaching_appends_twice :
    let path : Path := ⟨"", ["pid"]⟩
    let t : Tree := ⟨[], [(["pid"], .file 0o600 (Utf8.encode "1\n"))]⟩
    ∃ t', Launches path t [.whole 4242, .whole 7] t'
      ∧ Tree.recorded path t' = Utf8.encode "1\n4242\n7\n" := by
  intro path t
  let os : Processes Nat := .granting 4242 3
  let s : Session Nat := .start t [] ⟨true, [], 0⟩
  have hopens : ∀ u : Tree, u.home = [] → u.Plain ["pid"] →
      ∃ u', u.openForWriting path 0o666 = .ok (["pid"], u') := by
    intro u hhome hplain
    have hnamed : u.NamedAt path (u.home ++ ["pid"]) := u.namedAt_home (by decide)
    rw [hhome] at hnamed
    exact Tree.openForWriting_of_plain 0o666 hnamed (by decide) hplain
  obtain ⟨u, hopen⟩ := hopens t rfl (Tree.plain_of_file rfl)
  have htargets : t.Targets path ["pid"] := .of_opened hopen
  obtain ⟨loc, mode, htargets', hoff, hfile⟩ :=
    (Tree.appends_of_written hopen (pidLine 4242)).others
  obtain rfl := htargets.unique htargets'
  have hfork : (fork os path false).run s = _ :=
    run_fork_of_launched false hopen rfl rfl (by decide) rfl
  let s' : Session Nat :=
    .start (u.setContent ["pid"] (u.contentAt ["pid"] ++ pidLine 4242)) [] ⟨true, [], 0⟩
  obtain ⟨v, hopen'⟩ := hopens s'.files hoff.home (Tree.plain_of_file hfile)
  have hstay : (stay os path).run s' = _ := run_stay_of_opened hopen' rfl
  have hlaunched := Launches.none.launched rfl hfork rfl
  have hlaunches := hlaunched.stayed (s := s') rfl hstay
  refine ⟨_, hlaunches, ?_⟩
  rw [detaching_appends.2.2 path t _ _ hlaunches, htargets.recorded_eq]
  decide

/-- A path with a null character never reaches the system, and what leaves is no report; nor is what
leaves when the write of the number breaks off, of which the file then has the beginning. -/
theorem null_path_and_broken_write_unreported :
    let null : Path := Path.ofString "a\x00b"
    let path : Path := ⟨"", ["pid"]⟩
    let os : Processes Nat := .granting 4242 3
    let broken : BrokenWrite := ⟨2, .numbered 28 "No space left on device"⟩
    let s : Session Nat := .start ⟨[], []⟩ [] ⟨true, [], 0⟩
    s.files.openForWriting null 0o666 = .error (.fault .embeddedNull)
      ∧ (fork os null false).run s = (.error (.fault .embeddedNull), s)
      ∧ (∀ report : Report, Failure.fault .embeddedNull ≠ .report report)
      ∧ ∃ s', (fork { os with recording := some broken } path false).run s
            = (.error (.os broken.refusal), s')
          ∧ Tree.recorded path s'.files = Utf8.encode "42" := by
  intro null path os broken s
  have hnull : null.hasNull = true := by decide
  have hopen : s.files.openForWriting null 0o666 = .error (.fault .embeddedNull) := by
    rw [Tree.openForWriting, Tree.resolveNamed, hnull]
    rfl
  refine ⟨hopen, ?_, (fun report h => by cases h), ?_⟩
  · simp [fork, hopen, reported, Failure.isOs]
  · have hnamed : s.files.NamedAt path ["pid"] := s.files.namedAt_home (by decide)
    obtain ⟨t, hopen⟩ := Tree.openForWriting_of_plain 0o666 hnamed (by decide)
      (Tree.plain_of_free rfl)
    have hunrecorded : Unrecorded { os with recording := some broken } path s 4242 broken :=
      ⟨⟨_, hopen⟩, rfl, rfl, by decide, rfl⟩
    have hrun := run_fork_of_unrecorded false hopen hunrecorded
    refine ⟨_, hrun, ?_⟩
    rw [recorded_of_unrecorded hrun hunrecorded, (Tree.Targets.of_opened hopen).recorded_eq]
    decide

end SeedNode.Detach

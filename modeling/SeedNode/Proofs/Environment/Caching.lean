import Mathlib.Data.List.Induction
import SeedNode.Environment.Settings

/-!
# Settings that are read once

The settings of a process are read when they are first asked for and kept until they are cleared,
whatever becomes of the environment in between; a reading that fails leaves nothing behind. A
history of a process is a list of acts, and its settings at the end of it are those that the
environment gave at the first reading that succeeded since the latest clear (`readAt_of_answer`).
Readings are numbered, so that two of them are told apart even where they gave the same.
-/

namespace SeedNode

/-- The variables of a process and its settings as they were read. -/
structure Process where
  environment : Variables
  cache : SettingsCache

namespace Process

/-- What is done about the settings of a process. -/
inductive Act where
  | set (name text : String)
  | unset (name : String)
  | clear
  | get
  deriving Repr, DecidableEq

/-- A process that was not asked for its settings yet. -/
def start (environment : Variables) : Process :=
  ⟨environment, .empty⟩

/-- What a process answers when it is asked for its settings: the reading that they are from, by its
number, and the settings. -/
def answer (files : Tree) (p : Process) : Except Failure (Nat × ProcessSettings) :=
  (p.cache.get p.environment files).1

/-- What an act leaves behind. A variable that the system refuses to set stays as it was. -/
def perform (files : Tree) (p : Process) : Act → Process
  | .set name text =>
    { p with environment := (p.environment.set name text).toOption.getD p.environment }
  | .unset name => { p with environment := p.environment.unset name }
  | .clear => { p with cache := p.cache.clear }
  | .get => { p with cache := (p.cache.get p.environment files).2 }

def after (files : Tree) (p : Process) (acts : List Act) : Process :=
  acts.foldl (perform files) p

variable {files : Tree} {p : Process} {acts rest : List Act} {a : Act} {n : Nat} {e : Failure}
  {known known' : Nat × ProcessSettings}

theorem after_append (acts rest : List Act) :
    p.after files (acts ++ rest) = (p.after files acts).after files rest :=
  List.foldl_append

@[simp] theorem after_snoc (acts : List Act) (a : Act) :
    p.after files (acts ++ [a]) = (p.after files acts).perform files a := by
  rw [after_append]
  rfl

/-! ## Being asked -/

/-- What a process that is asked for its settings answers and becomes: it knows them, or fails to
read them, or reads them now. -/
inductive Answered (files : Tree) (p : Process) :
    Except Failure (Nat × ProcessSettings) → Process → Prop
  | known {known : Nat × ProcessSettings} (h : p.cache.current = some known) :
      Answered files p (.ok known) p
  | failed {e : Failure} (h : p.cache.current = none)
      (hread : ProcessSettings.read p.environment files = .error e) : Answered files p (.error e) p
  | read {settings : ProcessSettings} (h : p.cache.current = none)
      (hread : ProcessSettings.read p.environment files = .ok settings) :
      Answered files p (.ok (p.cache.readings, settings))
        ⟨p.environment, some (p.cache.readings, settings), p.cache.readings + 1⟩

theorem asked (files : Tree) (p : Process) :
    Answered files p (p.answer files) (p.perform files .get) := by
  obtain ⟨environment, current, readings⟩ := p
  cases current with
  | some known => exact .known rfl
  | none =>
      rw [answer, perform, SettingsCache.get]
      cases hread : ProcessSettings.read environment files with
      | error e => exact .failed rfl hread
      | ok settings => exact .read rfl hread

theorem answer_of_current (h : p.cache.current = some known) : p.answer files = .ok known := by
  rw [answer, SettingsCache.get, h]

theorem current_of_answer (h : p.answer files = .ok known) :
    (p.perform files .get).cache.current = some known := by
  have hasked := asked files p
  rw [h] at hasked
  generalize p.perform files .get = q at hasked ⊢
  cases hasked with
  | known hcurrent => exact hcurrent
  | read => rfl

/-- A reading that fails leaves nothing behind. -/
theorem perform_of_failed (h : p.answer files = .error e) :
    p.perform files .get = p ∧ p.cache.current = none := by
  have hasked := asked files p
  rw [h] at hasked
  generalize p.perform files .get = q at hasked ⊢
  cases hasked with
  | failed hcurrent => exact ⟨rfl, hcurrent⟩

/-- A process that knows nothing reads its settings. -/
theorem answer_of_empty (h : p.cache.current = none) :
    (p.answer files).map Prod.snd = ProcessSettings.read p.environment files := by
  have hasked := asked files p
  generalize p.answer files = r, p.perform files .get = q at hasked ⊢
  cases hasked with
  | known hcurrent => cases h.symm.trans hcurrent
  | failed _ hread | read _ hread => exact hread.symm

/-! ## What is kept -/

/-- Only a clear takes away what was read. -/
theorem current_perform (h : p.cache.current = some known) (ha : a ≠ .clear) :
    (p.perform files a).cache.current = some known := by
  cases a with
  | set name text => exact h
  | unset name => exact h
  | clear => exact absurd rfl ha
  | get => exact current_of_answer (answer_of_current h)

theorem current_after (h : p.cache.current = some known) (hrest : .clear ∉ rest) :
    (p.after files rest).cache.current = some known := by
  induction rest generalizing p with
  | nil => exact h
  | cons a rest ih =>
      rw [List.mem_cons, not_or] at hrest
      exact ih (current_perform h (Ne.symm hrest.1)) hrest.2

/-- Only being asked reads anything. -/
theorem empty_after (h : p.cache.current = none) (hrest : .get ∉ rest) :
    (p.after files rest).cache.current = none := by
  induction rest generalizing p with
  | nil => exact h
  | cons a rest ih =>
      rw [List.mem_cons, not_or] at hrest
      refine ih ?_ hrest.2
      cases a with
      | set name text => exact h
      | unset name => exact h
      | clear => rfl
      | get => exact absurd rfl hrest.1

/-! ## Histories -/

/-- No reading has succeeded since the latest clear, or since the beginning. -/
inductive Unread (files : Tree) (p : Process) : List Act → Prop
  | beginning : Unread files p []
  | cleared (acts : List Act) : Unread files p (acts ++ [.clear])
  | set {acts : List Act} (name text : String) (h : Unread files p acts) :
      Unread files p (acts ++ [.set name text])
  | unset {acts : List Act} (name : String) (h : Unread files p acts) :
      Unread files p (acts ++ [.unset name])
  | failed {acts : List Act} {e : Failure} (h : Unread files p acts)
      (hfailed : (p.after files acts).answer files = .error e) : Unread files p (acts ++ [.get])

/-- The settings were read when `first` was over, and were not cleared since. -/
structure ReadAt (files : Tree) (p : Process) (first rest : List Act)
    (known : Nat × ProcessSettings) : Prop where
  unread : Unread files p first
  read : ProcessSettings.read (p.after files first).environment files = .ok known.2
  kept : .clear ∉ rest

theorem ReadAt.snoc {first : List Act} (h : ReadAt files p first rest known) (ha : a ≠ .clear) :
    ReadAt files p first (rest ++ [a]) known := by
  refine ⟨h.unread, h.read, ?_⟩
  rw [List.mem_append, List.mem_singleton, not_or]
  exact ⟨h.kept, Ne.symm ha⟩

/-- What a process knows of its settings at the end of a history. -/
inductive Knows (files : Tree) (p : Process) (acts : List Act) : Prop
  | nothing (hcurrent : (p.after files acts).cache.current = none) (h : Unread files p acts)
  | found {first rest : List Act} {known : Nat × ProcessSettings}
      (hacts : acts = first ++ .get :: rest)
      (hcurrent : (p.after files acts).cache.current = some known)
      (h : ReadAt files p first rest known)

theorem readAt_now (h : Unread files p acts) (hcurrent : (p.after files acts).cache.current = none)
    (hanswer : (p.after files acts).answer files = .ok known) : ReadAt files p acts [] known := by
  refine ⟨h, ?_, List.not_mem_nil⟩
  rw [← answer_of_empty hcurrent, hanswer]
  rfl

theorem Knows.snoc (h : Knows files p acts) (a : Act) : Knows files p (acts ++ [a]) := by
  by_cases ha : a = .clear
  · subst ha
    exact .nothing (by rw [after_snoc]; rfl) (.cleared acts)
  cases h with
  | found hacts hcurrent h =>
      refine .found (by rw [hacts, List.append_assoc]; rfl) ?_ (h.snoc ha)
      rw [after_snoc, current_perform hcurrent ha]
  | nothing hcurrent h =>
      cases a with
      | set name text => exact .nothing (by rw [after_snoc]; exact hcurrent) (.set name text h)
      | unset name => exact .nothing (by rw [after_snoc]; exact hcurrent) (.unset name h)
      | clear => exact absurd rfl ha
      | get =>
          cases hanswer : (p.after files acts).answer files with
          | error e =>
              refine .nothing ?_ (.failed h hanswer)
              rw [after_snoc, (perform_of_failed hanswer).1, hcurrent]
          | ok known =>
              refine .found rfl ?_ (readAt_now h hcurrent hanswer)
              rw [after_snoc, current_of_answer hanswer]

theorem knows_after (files : Tree) (hempty : p.cache.current = none) (acts : List Act) :
    Knows files p acts := by
  induction acts using List.reverseRecOn with
  | nil => exact .nothing hempty .beginning
  | append_singleton acts a ih => exact ih.snoc a

/-- The settings that are answered are those that were read first since the latest clear, which may
be just now. -/
theorem readAt_of_answer (hempty : p.cache.current = none)
    (h : (p.after files acts).answer files = .ok known) : ∃ first rest,
      acts ++ [.get] = first ++ .get :: rest ∧ ReadAt files p first rest known := by
  cases knows_after files hempty acts with
  | nothing hcurrent hunread => exact ⟨acts, [], rfl, readAt_now hunread hcurrent h⟩
  | @found first rest known' hacts hcurrent hread =>
      obtain rfl := Except.ok.inj ((answer_of_current hcurrent).symm.trans h)
      refine ⟨first, rest ++ [.get], ?_, hread.snoc (by decide)⟩
      rw [hacts, List.append_assoc]
      rfl

/-! ## Numbers of readings -/

/-- What is known has the number of a reading that was made. -/
def Numbered (p : Process) : Prop :=
  ∀ known, p.cache.current = some known → known.1 < p.cache.readings

/-- What is known, and whatever will be read, has a number above `n`. -/
structure Beyond (n : Nat) (p : Process) : Prop where
  current : ∀ known, p.cache.current = some known → n < known.1
  readings : n < p.cache.readings

theorem Numbered.perform (h : Numbered p) (a : Act) : Numbered (p.perform files a) := by
  cases a with
  | set name text => exact h
  | unset name => exact h
  | clear =>
      intro known hcurrent
      cases hcurrent
  | get =>
      have hasked := asked files p
      generalize p.answer files = r, p.perform files .get = q at hasked ⊢
      cases hasked with
      | known | failed => exact h
      | read =>
          rintro known ⟨⟩
          exact Nat.lt_succ_self _

theorem Beyond.perform (h : Beyond n p) (a : Act) : Beyond n (p.perform files a) := by
  cases a with
  | set name text => exact ⟨h.current, h.readings⟩
  | unset name => exact ⟨h.current, h.readings⟩
  | clear =>
      refine ⟨fun known hcurrent => ?_, h.readings⟩
      cases hcurrent
  | get =>
      have hasked := asked files p
      generalize p.answer files = r, p.perform files .get = q at hasked ⊢
      cases hasked with
      | known | failed => exact h
      | read =>
          refine ⟨?_, Nat.lt_succ_of_lt h.readings⟩
          rintro known ⟨⟩
          exact h.readings

theorem numbered_start (environment : Variables) : Numbered (start environment) := by
  intro known hcurrent
  cases hcurrent

theorem Numbered.after (h : Numbered p) (acts : List Act) : Numbered (p.after files acts) := by
  induction acts generalizing p with
  | nil => exact h
  | cons a acts ih => exact ih (h.perform a)

theorem Beyond.after (h : Beyond n p) (acts : List Act) : Beyond n (p.after files acts) := by
  induction acts generalizing p with
  | nil => exact h
  | cons a acts ih => exact ih (h.perform a)

theorem Beyond.answer (h : Beyond n p) (hanswer : p.answer files = .ok known) : n < known.1 :=
  (h.perform .get).current known (current_of_answer hanswer)

/-- After a clear, readings get numbers above that of what was known before it. -/
theorem above_of_cleared (hnumbered : Numbered p) (h : p.cache.current = some known)
    (hrest : .clear ∈ rest) : Beyond known.1 (p.after files rest) := by
  obtain ⟨first, last, rfl, hfirst⟩ := List.eq_append_cons_of_mem hrest
  rw [List.append_cons, after_append]
  refine Beyond.after ⟨fun known' hcurrent => ?_, ?_⟩ last
  · rw [after_snoc] at hcurrent
    cases hcurrent
  · rw [after_snoc]
    exact hnumbered.after first known (current_after h hfirst)

/-! ## Coherence -/

/-- What is said of the settings of a process over all its histories. -/
structure Coherent (files : Tree) (p : Process) : Prop where
  /-- The settings are those of the first reading that succeeded since the latest clear. -/
  first : ∀ acts known, (p.after files acts).answer files = .ok known → ∃ first rest,
    acts ++ [.get] = first ++ .get :: rest ∧ ReadAt files p first rest known
  /-- Two answers are from one reading just if there was no clear in between. -/
  same : ∀ acts rest known known', (p.after files acts).answer files = .ok known →
    (p.after files (acts ++ .get :: rest)).answer files = .ok known' →
    (known'.1 = known.1 ↔ .clear ∉ rest)
  /-- What was answered is answered again until it is cleared, whether or not it could be read. -/
  stays : ∀ acts rest known, (p.after files acts).answer files = .ok known → .clear ∉ rest →
    (p.after files (acts ++ .get :: rest)).answer files = .ok known
  /-- A failure leaves nothing behind, and the next answer is read from the environment there is
  then. -/
  failed : ∀ acts rest e, (p.after files acts).answer files = .error e → .get ∉ rest →
    let q := p.after files (acts ++ .get :: rest)
    q.cache.current = none ∧
      (q.answer files).map Prod.snd = ProcessSettings.read q.environment files

theorem after_get_cons (acts rest : List Act) : p.after files (acts ++ .get :: rest) =
    ((p.after files acts).perform files .get).after files rest :=
  after_append acts (.get :: rest)

theorem stays_of_answer (h : (p.after files acts).answer files = .ok known)
    (hrest : .clear ∉ rest) : (p.after files (acts ++ .get :: rest)).answer files = .ok known := by
  rw [after_get_cons]
  exact answer_of_current (current_after (current_of_answer h) hrest)

theorem same_iff (hnumbered : Numbered p) (h : (p.after files acts).answer files = .ok known)
    (h' : (p.after files (acts ++ .get :: rest)).answer files = .ok known') :
    known'.1 = known.1 ↔ .clear ∉ rest := by
  constructor
  · intro heq hcleared
    rw [after_get_cons] at h'
    have habove : Beyond known.1 (((p.after files acts).perform files .get).after files rest) :=
      above_of_cleared ((hnumbered.after acts).perform .get) (current_of_answer h) hcleared
    exact absurd heq (Nat.ne_of_gt (habove.answer h'))
  · intro hkept
    rw [Except.ok.inj (h'.symm.trans (stays_of_answer h hkept))]

/-- The settings of a process are coherent over all changes of its variables, clears and
questions. -/
theorem settings_coherent (files : Tree) (environment : Variables) :
    Coherent files (start environment) where
  first _ _ h := readAt_of_answer rfl h
  same _ _ _ _ h h' := same_iff (numbered_start environment) h h'
  stays _ _ _ h hrest := stays_of_answer h hrest
  failed acts rest e h hrest := by
    intro q
    have hempty : q.cache.current = none := by
      rw [show q = _ from after_get_cons acts rest, (perform_of_failed h).1]
      exact empty_after (perform_of_failed h).2 hrest
    exact ⟨hempty, answer_of_empty hempty⟩

end Process

end SeedNode

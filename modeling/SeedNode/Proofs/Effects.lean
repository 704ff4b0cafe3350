import SeedNode.Session

/-!
# Running code that may fail

Files, logs and sessions are worked on in one shape: a state that stays as it is when the code
gives up. Here is what each building block does to that state, as an equation on `run`; these are
simp lemmas, so `simp` carries out code whose answers are known. There are two ways to put such
facts together. `run_bind_eq_ok` takes a run that returned apart into its steps. `Keeps R x` says
that `x` relates the state before it to the one after it by `R`, whatever comes out, and is closed
under everything that code is built with.
-/

namespace SeedNode

variable {σ τ α β : Type}

/-- What was raised has a class that descends from the one asked for. -/
theorem Failure.hasRaised_iff {ancestor : String} {e : Failure} :
    e.hasRaised ancestor = true ↔
      ∃ kind text, kind.descendsFrom ancestor = true ∧ e = .fault (.raised kind text) := by
  constructor
  · intro h
    cases e with
    | fault f =>
        cases f with
        | raised kind text => exact ⟨kind, text, h, rfl⟩
        | _ => cases h
    | _ => cases h
  · rintro ⟨kind, text, h, rfl⟩
    exact h

/-! ## Outcomes -/

/-- If the outcome is a failure, it has the property. -/
def FailsOnly (P : Failure → Prop) (r : Except Failure α) : Prop :=
  ∀ e, r = .error e → P e

@[simp] theorem failsOnly_ok {P : Failure → Prop} (a : α) : FailsOnly P (.ok a) := by
  intro e he
  cases he

@[simp] theorem failsOnly_error {P : Failure → Prop} {e : Failure} :
    FailsOnly P (.error e : Except Failure α) ↔ P e := by
  refine ⟨fun h => h e rfl, fun h e' he => ?_⟩
  rwa [← Except.error.inj he]

@[simp] theorem failsOnly_map {P : Failure → Prop} {r : Except Failure α} {f : α → β} :
    FailsOnly P (r.map f) ↔ FailsOnly P r := by
  cases r <;> simp [Except.map]

@[simp] theorem mapError_ok {ε ε' : Type} (f : ε → ε') (a : α) :
    (Except.ok a : Except ε α).mapError f = .ok a := rfl

@[simp] theorem mapError_error {ε ε' : Type} (f : ε → ε') (e : ε) :
    (Except.error e : Except ε α).mapError f = .error (f e) := rfl

/-! ## Building blocks -/

@[simp] theorem run_pure (a : α) (s : σ) :
    (pure a : ExceptT Failure (StateM σ) α).run s = (.ok a, s) := rfl

@[simp] theorem run_throw (e : Failure) (s : σ) :
    (throw e : ExceptT Failure (StateM σ) α).run s = (.error e, s) := rfl

@[simp] theorem run_get (s : σ) : (get : ExceptT Failure (StateM σ) σ).run s = (.ok s, s) := rfl

@[simp] theorem run_set (s t : σ) :
    (set t : ExceptT Failure (StateM σ) PUnit).run s = (.ok ⟨⟩, t) := rfl

@[simp] theorem run_modify (g : σ → σ) (s : σ) :
    (modify g : ExceptT Failure (StateM σ) PUnit).run s = (.ok ⟨⟩, g s) := rfl

@[simp] theorem run_bind (x : ExceptT Failure (StateM σ) α) (f : α → ExceptT Failure (StateM σ) β)
    (s : σ) :
    (x >>= f).run s = match x.run s with
      | (.ok a, t) => (f a).run t
      | (.error e, t) => (.error e, t) := by
  have h : (x >>= f).run s = match x.run s with
      | (r, t) => ExceptT.bindCont f r t := rfl
  rw [h]
  obtain ⟨r | r, t⟩ := x.run s <;> rfl

@[simp] theorem run_tryCatch (x : ExceptT Failure (StateM σ) α)
    (f : Failure → ExceptT Failure (StateM σ) α) (s : σ) :
    (tryCatch x f).run s = match x.run s with
      | (.ok a, t) => (.ok a, t)
      | (.error e, t) => (f e).run t := by
  have h : ∀ g : Except Failure α → StateM σ (Except Failure α),
      (x.run >>= g) s = g (x.run s).1 (x.run s).2 := fun _ => rfl
  rw [ExceptT.run_tryCatch, h]
  obtain ⟨r | r, t⟩ := x.run s <;> rfl

@[simp] theorem run_map (g : α → β) (x : ExceptT Failure (StateM σ) α) (s : σ) :
    (g <$> x).run s = match x.run s with
      | (.ok a, t) => (.ok (g a), t)
      | (.error e, t) => (.error e, t) := by
  have h : (g <$> x).run s = (x >>= fun a => pure (g a)).run s := by rw [map_eq_pure_bind]
  rw [h, run_bind]
  rfl

/-! ## Taking a run apart -/

theorem run_bind_eq_ok {x : ExceptT Failure (StateM σ) α} {f : α → ExceptT Failure (StateM σ) β}
    {s s' : σ} {b : β} :
    (x >>= f).run s = (.ok b, s') ↔
      ∃ a t, x.run s = (.ok a, t) ∧ (f a).run t = (.ok b, s') := by
  rw [run_bind]
  constructor
  · intro h
    rcases hx : x.run s with ⟨e | a, t⟩
    · rw [hx] at h
      cases h
    · rw [hx] at h
      exact ⟨a, t, rfl, h⟩
  · rintro ⟨a, t, hx, hf⟩
    rw [hx]
    exact hf

theorem run_bind_of_ok {x : ExceptT Failure (StateM σ) α} {s t : σ} {a : α}
    (h : x.run s = (.ok a, t)) (f : α → ExceptT Failure (StateM σ) β) :
    (x >>= f).run s = (f a).run t := by
  rw [run_bind, h]

theorem run_bind_of_error {x : ExceptT Failure (StateM σ) α} {s t : σ} {e : Failure}
    (h : x.run s = (.error e, t)) (f : α → ExceptT Failure (StateM σ) β) :
    (x >>= f).run s = (.error e, t) := by
  rw [run_bind, h]

theorem run_map_eq_ok {g : α → β} {x : ExceptT Failure (StateM σ) α} {s s' : σ} {b : β} :
    (g <$> x).run s = (.ok b, s') ↔ ∃ a, x.run s = (.ok a, s') ∧ g a = b := by
  rw [run_map]
  constructor
  · intro h
    rcases hx : x.run s with ⟨e | a, t⟩ <;> rw [hx] at h
    · cases h
    · obtain ⟨hb, rfl⟩ := Prod.mk.inj h
      exact ⟨a, rfl, Except.ok.inj hb⟩
  · rintro ⟨a, hx, rfl⟩
    rw [hx]

theorem run_of_map_eq_error {g : α → β} {x : ExceptT Failure (StateM σ) α} {s s' : σ}
    {e : Failure} (h : (g <$> x).run s = (.error e, s')) : x.run s = (.error e, s') := by
  rw [run_map] at h
  rcases hx : x.run s with ⟨e' | a, t⟩ <;> rw [hx] at h
  · obtain ⟨he, rfl⟩ := Prod.mk.inj h
    rw [Except.error.inj he]
  · cases h

theorem except_bind_eq_ok {ε : Type} {x : Except ε α} {f : α → Except ε β} {b : β} :
    (x >>= f) = .ok b ↔ ∃ a, x = .ok a ∧ f a = .ok b := by
  cases x with
  | error e =>
      constructor
      · intro h
        cases h
      · rintro ⟨a, h, -⟩
        cases h
  | ok a =>
      constructor
      · exact fun h => ⟨a, rfl, h⟩
      · rintro ⟨a', h, hf⟩
        rw [Except.ok.inj h]
        exact hf

theorem except_bind_eq_error {ε : Type} {x : Except ε α} {f : α → Except ε β} {e : ε} :
    (x >>= f) = .error e ↔ x = .error e ∨ ∃ a, x = .ok a ∧ f a = .error e := by
  cases x with
  | error e' =>
      constructor
      · exact fun h => .inl (congrArg Except.error (Except.error.inj h))
      · rintro (h | ⟨a, h, -⟩)
        · exact congrArg Except.error (Except.error.inj h)
        · cases h
  | ok a =>
      constructor
      · exact fun h => .inr ⟨a, rfl, h⟩
      · rintro (h | ⟨a', h, hf⟩)
        · cases h
        · rw [Except.ok.inj h]
          exact hf

/-! ## Files -/

@[simp] theorem run_fileAsk (f : Tree → Except Failure α) (t : Tree) :
    (FileM.ask f).run t = (f t, t) := by
  cases h : f t <;> simp [FileM.ask, h]

@[simp] theorem run_fileChange (f : Tree → Except Failure Tree) (t : Tree) :
    (FileM.change f).run t = match f t with
      | .ok t' => (.ok (), t')
      | .error e => (.error e, t) := by
  cases h : f t <;> simp [FileM.change, h]

/-! ## Sessions -/

@[simp] theorem Session.addCall_files (s : Session τ) (call : Call τ) :
    (s.addCall call).files = s.files := rfl

@[simp] theorem Session.addCall_calls (s : Session τ) (call : Call τ) :
    (s.addCall call).calls = s.calls ++ [call] := rfl

@[simp] theorem Session.addRecord_files (s : Session τ) (r : Record) :
    (s.addRecord r).files = s.files := rfl

@[simp] theorem Session.addRecord_calls (s : Session τ) (r : Record) :
    (s.addRecord r).calls = s.calls := rfl

@[simp] theorem run_ofExcept (r : Except Failure α) (s : Session τ) :
    (SessionM.ofExcept r).run s = (r, s) := by
  cases r <;> rfl

@[simp] theorem run_ask (call : Call τ) (answer : Answer τ α) (s : Session τ) :
    (SessionM.ask call answer).run s = (answer (s.calls ++ [call]), s.addCall call) := by
  simp [SessionM.ask, Session.addCall]

@[simp] theorem run_note (level : Level) (source message : String) (s : Session τ) :
    (SessionM.note level source message).run s
      = (.ok (), s.addRecord { level, source, message }) := rfl

@[simp] theorem run_onFiles (x : FileM α) (s : Session τ) :
    (SessionM.onFiles x).run s
      = ((x.run s.files).1, { s with files := (x.run s.files).2 }) := by
  rcases h : x.run s.files with ⟨result, files⟩
  simp [SessionM.onFiles, h]

/-- A question about the files leaves the session as it is. -/
@[simp high] theorem run_onFiles_ask (f : Tree → Except Failure α) (s : Session τ) :
    (SessionM.onFiles (FileM.ask f)).run s = (f s.files, s) := by
  rw [run_onFiles, run_fileAsk]

@[simp] theorem run_onLog (x : LogM α) (s : Session τ) :
    (SessionM.onLog x).run s = ((x.run []).1, (x.run []).2.foldl Session.addRecord s) := by
  rcases h : x.run [] with ⟨result, records⟩
  simp [SessionM.onLog, h]

@[simp] theorem run_settings (s : Session τ) :
    SessionM.settings.run s = ((s.settings.get s.environment s.files).1.map Prod.snd,
      { s with settings := (s.settings.get s.environment s.files).2 }) := by
  rcases h : s.settings.get s.environment s.files with ⟨e | known, cache⟩ <;>
    simp [SessionM.settings, h, Except.map]

/-! ## What code keeps -/

/-- Whatever comes out of `x`, the state before it and the state after it are related by `R`. -/
def Keeps (R : σ → σ → Prop) (x : ExceptT Failure (StateM σ) α) : Prop :=
  ∀ s, R s (x.run s).2

namespace Keeps

variable {R : σ → σ → Prop}

theorem pure (refl : ∀ s, R s s) (a : α) :
    Keeps R (Pure.pure a : ExceptT Failure (StateM σ) α) := fun s => refl s

theorem throw (refl : ∀ s, R s s) (e : Failure) :
    Keeps R (MonadExcept.throw e : ExceptT Failure (StateM σ) α) := fun s => refl s

theorem bind (trans : ∀ s t u, R s t → R t u → R s u) {x : ExceptT Failure (StateM σ) α}
    {f : α → ExceptT Failure (StateM σ) β} (hx : Keeps R x) (hf : ∀ a, Keeps R (f a)) :
    Keeps R (x >>= f) := by
  intro s
  have h := hx s
  rw [run_bind]
  rcases hr : x.run s with ⟨e | a, t⟩ <;> rw [hr] at h
  · exact h
  · exact trans _ _ _ h (hf a t)

theorem tryCatch (trans : ∀ s t u, R s t → R t u → R s u) {x : ExceptT Failure (StateM σ) α}
    {f : Failure → ExceptT Failure (StateM σ) α} (hx : Keeps R x) (hf : ∀ e, Keeps R (f e)) :
    Keeps R (MonadExcept.tryCatch x f) := by
  intro s
  have h := hx s
  rw [run_tryCatch]
  rcases hr : x.run s with ⟨e | a, t⟩ <;> rw [hr] at h
  · exact trans _ _ _ h (hf e t)
  · exact h

theorem map {g : α → β} {x : ExceptT Failure (StateM σ) α} (hx : Keeps R x) :
    Keeps R (g <$> x) := by
  intro s
  have h := hx s
  rw [run_map]
  rcases hr : x.run s with ⟨e | a, t⟩ <;> rw [hr] at h <;> exact h

end Keeps

/-! ## What code returns -/

/-- Whenever `x` returns, its result has the property. -/
def Returns (P : α → Prop) (x : ExceptT Failure (StateM σ) α) : Prop :=
  ∀ s a t, x.run s = (.ok a, t) → P a

namespace Returns

variable {P : α → Prop} {Q : β → Prop}

theorem any (x : ExceptT Failure (StateM σ) α) : Returns (fun _ => True) x :=
  fun _ _ _ _ => trivial

theorem pure {a : α} (h : P a) : Returns P (Pure.pure a : ExceptT Failure (StateM σ) α) := by
  intro s b t hrun
  rw [← Except.ok.inj (Prod.mk.inj hrun).1]
  exact h

theorem throw (e : Failure) :
    Returns P (MonadExcept.throw e : ExceptT Failure (StateM σ) α) := by
  intro s a t hrun
  cases hrun

theorem bind {x : ExceptT Failure (StateM σ) α} {f : α → ExceptT Failure (StateM σ) β}
    (hx : Returns P x) (hf : ∀ a, P a → Returns Q (f a)) : Returns Q (x >>= f) := by
  intro s b t hrun
  obtain ⟨a, s₁, ha, hb⟩ := run_bind_eq_ok.mp hrun
  exact hf a (hx s a s₁ ha) s₁ b t hb

theorem map {g : α → β} (x : ExceptT Failure (StateM σ) α) (h : ∀ a, Q (g a)) :
    Returns Q (g <$> x) := by
  intro s b t hrun
  rw [run_map] at hrun
  rcases hx : x.run s with ⟨e | a, s₁⟩ <;> rw [hx] at hrun
  · cases hrun
  · rw [← Except.ok.inj (Prod.mk.inj hrun).1]
    exact h a

theorem onLog {x : LogM α} (h : Returns P x) : Returns P (SessionM.onLog x : SessionM τ α) := by
  intro s a t hrun
  rw [run_onLog] at hrun
  exact h [] a _ (Prod.ext (Prod.mk.inj hrun).1 rfl)

theorem ofExcept {r : Except Failure α} (h : ∀ a, r = .ok a → P a) :
    Returns P (SessionM.ofExcept r : SessionM τ α) := by
  intro s a t hrun
  rw [run_ofExcept] at hrun
  exact h a (Prod.mk.inj hrun).1

end Returns

/-- What follows only has to keep `R` after what can be returned. -/
theorem Keeps.bind_returns {R : σ → σ → Prop} {P : α → Prop}
    (trans : ∀ s t u, R s t → R t u → R s u) {x : ExceptT Failure (StateM σ) α}
    {f : α → ExceptT Failure (StateM σ) β} (hx : Keeps R x) (hreturns : Returns P x)
    (hf : ∀ a, P a → Keeps R (f a)) : Keeps R (x >>= f) := by
  intro s
  have h := hx s
  rw [run_bind]
  rcases hr : x.run s with ⟨e | a, t⟩ <;> rw [hr] at h
  · exact h
  · exact trans _ _ _ h (hf a (hreturns s a t hr) t)

/-! ## Sessions that only make records -/

/-- A relation between sessions that does not see records. -/
structure Quiet (R : Session τ → Session τ → Prop) : Prop where
  refl : ∀ s, R s s
  trans : ∀ s t u, R s t → R t u → R s u
  addRecord : ∀ s r, R s (s.addRecord r)

namespace Quiet

variable {R : Session τ → Session τ → Prop}

theorem note (h : Quiet R) (level : Level) (source message : String) :
    Keeps R (SessionM.note level source message) := fun s => h.addRecord s _

theorem ofExcept (h : Quiet R) (r : Except Failure α) : Keeps R (SessionM.ofExcept r) := by
  intro s
  rw [run_ofExcept]
  exact h.refl s

theorem records (h : Quiet R) (records : List Record) (s : Session τ) :
    R s (records.foldl Session.addRecord s) := by
  induction records generalizing s with
  | nil => exact h.refl s
  | cons r rest ih => exact h.trans _ _ _ (h.addRecord s r) (ih (s.addRecord r))

theorem onLog (h : Quiet R) (x : LogM α) : Keeps R (SessionM.onLog x) := by
  intro s
  rw [run_onLog]
  exact h.records _ s

/-- Questions about the files change nothing. -/
theorem askFiles (h : Quiet R) (f : Tree → Except Failure α) :
    Keeps R (SessionM.onFiles (FileM.ask f)) := by
  intro s
  rw [run_onFiles_ask]
  exact h.refl s

theorem ask {call : Call τ} (h : ∀ s, R s (s.addCall call)) (answer : Answer τ α) :
    Keeps R (SessionM.ask call answer) := by
  intro s
  rw [run_ask]
  exact h s

end Quiet

/-! ## Code with a state of its own -/

section Own

variable {ρ : Type}

/-- Runs code that has a state of its own beside the outer one. -/
def runIn (x : ExceptT Failure (StateT ρ (StateM σ)) α) (a : ρ) (s : σ) :
    (Except Failure α × ρ) × σ :=
  (x.run.run a).run s

@[simp] theorem runIn_pure (v : α) (a : ρ) (s : σ) :
    runIn (pure v : ExceptT Failure (StateT ρ (StateM σ)) α) a s = ((.ok v, a), s) := rfl

@[simp] theorem runIn_throw (e : Failure) (a : ρ) (s : σ) :
    runIn (throw e : ExceptT Failure (StateT ρ (StateM σ)) α) a s = ((.error e, a), s) := rfl

@[simp] theorem runIn_get (a : ρ) (s : σ) :
    runIn (get : ExceptT Failure (StateT ρ (StateM σ)) ρ) a s = ((.ok a, a), s) := rfl

@[simp] theorem runIn_set (a b : ρ) (s : σ) :
    runIn (set b : ExceptT Failure (StateT ρ (StateM σ)) PUnit) a s = ((.ok ⟨⟩, b), s) := rfl

@[simp] theorem runIn_getThe (a : ρ) (s : σ) :
    runIn (getThe ρ : ExceptT Failure (StateT ρ (StateM σ)) ρ) a s = ((.ok a, a), s) := rfl

@[simp] theorem runIn_getThe_outer (a : ρ) (s : σ) :
    runIn (getThe σ : ExceptT Failure (StateT ρ (StateM σ)) σ) a s = ((.ok s, a), s) := rfl

@[simp] theorem runIn_modifyThe (g : ρ → ρ) (a : ρ) (s : σ) :
    runIn (modifyThe ρ g : ExceptT Failure (StateT ρ (StateM σ)) PUnit) a s
      = ((.ok ⟨⟩, g a), s) := rfl

-- What `getThe` and `modifyThe` are rewritten to where the library's normal forms are at hand.
@[simp] theorem runIn_get_outer (a : ρ) (s : σ) :
    runIn (@get σ (ExceptT Failure (StateT ρ (StateM σ))) (instMonadStateOfMonadStateOf σ _)) a s
      = ((.ok s, a), s) := rfl

@[simp] theorem runIn_modifyGet (f : ρ → α × ρ) (a : ρ) (s : σ) :
    runIn (modifyGet f : ExceptT Failure (StateT ρ (StateM σ)) α) a s
      = ((.ok (f a).1, (f a).2), s) := rfl

@[simp] theorem runIn_within (x : SessionM τ α) (a : ρ) (s : Session τ) :
    runIn (SessionM.within x) a s = (((x.run s).1, a), (x.run s).2) := rfl

@[simp] theorem runIn_bind (x : ExceptT Failure (StateT ρ (StateM σ)) α)
    (f : α → ExceptT Failure (StateT ρ (StateM σ)) β) (a : ρ) (s : σ) :
    runIn (x >>= f) a s = match runIn x a s with
      | ((.ok v, a'), s') => runIn (f v) a' s'
      | ((.error e, a'), s') => ((.error e, a'), s') := by
  have h : runIn (x >>= f) a s = match runIn x a s with
      | ((r, a'), s') => (ExceptT.bindCont f r a').run s' := rfl
  rw [h]
  obtain ⟨⟨r | r, a'⟩, s'⟩ := runIn x a s <;> rfl

@[simp] theorem runIn_map (g : α → β) (x : ExceptT Failure (StateT ρ (StateM σ)) α) (a : ρ)
    (s : σ) :
    runIn (g <$> x) a s = match runIn x a s with
      | ((.ok v, a'), s') => ((.ok (g v), a'), s')
      | ((.error e, a'), s') => ((.error e, a'), s') := by
  rw [map_eq_pure_bind, runIn_bind]
  rfl

theorem runIn_bind_eq_ok {x : ExceptT Failure (StateT ρ (StateM σ)) α}
    {f : α → ExceptT Failure (StateT ρ (StateM σ)) β} {a a' : ρ} {s s' : σ} {b : β} :
    runIn (x >>= f) a s = ((.ok b, a'), s') ↔
      ∃ v a₁ s₁, runIn x a s = ((.ok v, a₁), s₁) ∧ runIn (f v) a₁ s₁ = ((.ok b, a'), s') := by
  rw [runIn_bind]
  constructor
  · intro h
    rcases hx : runIn x a s with ⟨⟨e | v, a₁⟩, s₁⟩
    · rw [hx] at h
      cases h
    · rw [hx] at h
      exact ⟨v, a₁, s₁, rfl, h⟩
  · rintro ⟨v, a₁, s₁, hx, hf⟩
    rw [hx]
    exact hf

theorem runIn_bind_of_ok {x : ExceptT Failure (StateT ρ (StateM σ)) α} {a a' : ρ} {s s' : σ}
    {v : α} (h : runIn x a s = ((.ok v, a'), s'))
    (f : α → ExceptT Failure (StateT ρ (StateM σ)) β) :
    runIn (x >>= f) a s = runIn (f v) a' s' := by
  rw [runIn_bind, h]

@[simp] theorem runIn_tryCatch (x : ExceptT Failure (StateT ρ (StateM σ)) α)
    (f : Failure → ExceptT Failure (StateT ρ (StateM σ)) α) (a : ρ) (s : σ) :
    runIn (tryCatch x f) a s = match runIn x a s with
      | ((.ok v, a'), s') => ((.ok v, a'), s')
      | ((.error e, a'), s') => runIn (f e) a' s' := by
  have h : ∀ g : Except Failure α → StateT ρ (StateM σ) (Except Failure α),
      ((x.run >>= g).run a).run s
        = ((g (runIn x a s).1.1).run (runIn x a s).1.2).run (runIn x a s).2 := fun _ => rfl
  rw [runIn, ExceptT.run_tryCatch, h]
  obtain ⟨⟨r | r, a'⟩, s'⟩ := runIn x a s <;> rfl

/-- Whatever comes out of `x`, the outer states before and after it are related by `R`. -/
def KeepsIn (R : σ → σ → Prop) (x : ExceptT Failure (StateT ρ (StateM σ)) α) : Prop :=
  ∀ a s, R s (runIn x a s).2

theorem KeepsIn.bind {R : σ → σ → Prop} (trans : ∀ s t u, R s t → R t u → R s u)
    {x : ExceptT Failure (StateT ρ (StateM σ)) α}
    {f : α → ExceptT Failure (StateT ρ (StateM σ)) β} (hx : KeepsIn R x)
    (hf : ∀ v, KeepsIn R (f v)) : KeepsIn R (x >>= f) := by
  intro a s
  have h := hx a s
  rw [runIn_bind]
  rcases hr : runIn x a s with ⟨⟨e | v, a'⟩, s'⟩ <;> rw [hr] at h
  · exact h
  · exact trans _ _ _ h (hf v a' s')

theorem KeepsIn.within {R : Session τ → Session τ → Prop} {x : SessionM τ α} (h : Keeps R x) :
    KeepsIn R (SessionM.within x : ExceptT Failure (StateT ρ (StateM (Session τ))) α) :=
  fun _ s => h s

end Own

end SeedNode

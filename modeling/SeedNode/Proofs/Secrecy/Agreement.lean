import SeedNode.Proofs.Effects

/-!
# Two runs side by side

What an observer can tell apart is a matter of two runs, so code is compared with code. `Matches`
says that from related states two pieces of code come to the same failure or to related results,
and that the states they leave are related again. It is closed under everything that code is built
with, so that two programs are compared along their common text.
-/

namespace SeedNode

variable {ε σ ρ τ α β γ δ : Type}

/-! ## Outcomes -/

/-- Both fail, in the same way, or both return, and the results are related. -/
inductive Agree (S : α → β → Prop) : Except ε α → Except ε β → Prop
  | ok {a b} (h : S a b) : Agree S (.ok a) (.ok b)
  | error (e : ε) : Agree S (.error e) (.error e)

namespace Agree

variable {S S' : α → β → Prop} {T : γ → δ → Prop} {x : Except ε α} {y : Except ε β}

theorem refl {S : α → α → Prop} (h : ∀ a, S a a) : ∀ x : Except ε α, Agree S x x
  | .ok a => .ok (h a)
  | .error e => .error e

theorem of_eq {x y : Except ε α} (h : x = y) : Agree Eq x y :=
  h ▸ refl (fun _ => rfl) x

theorem of_ok {a : α} (h : Agree S (.ok a) y) : ∃ b, y = .ok b ∧ S a b := by
  cases h with
  | ok h => exact ⟨_, rfl, h⟩

theorem of_error {e : ε} (h : Agree S (.error e) y) : y = .error e := by
  cases h
  rfl

theorem mono (hS : ∀ a b, S a b → S' a b) (h : Agree S x y) : Agree S' x y := by
  cases h with
  | ok h => exact .ok (hS _ _ h)
  | error e => exact .error e

theorem bind {f : α → Except ε γ} {g : β → Except ε δ} (h : Agree S x y)
    (hf : ∀ a b, S a b → Agree T (f a) (g b)) : Agree T (x >>= f) (y >>= g) := by
  cases h with
  | ok h => exact hf _ _ h
  | error e => exact .error e

end Agree

/-! ## Code -/

/-- From states related by `R`, both come to the same failure or to results related by `S`, and
leave states related by `R`. -/
def Matches (R : σ → σ → Prop) (S : α → β → Prop) (x : ExceptT Failure (StateM σ) α)
    (y : ExceptT Failure (StateM σ) β) : Prop :=
  ∀ s s', R s s' → Agree S (x.run s).1 (y.run s').1 ∧ R (x.run s).2 (y.run s').2

namespace Matches

variable {R : σ → σ → Prop} {S : α → β → Prop} {T : γ → δ → Prop}
  {x : ExceptT Failure (StateM σ) α} {y : ExceptT Failure (StateM σ) β}

/-- The two ways in which both runs may end. -/
theorem ends (h : Matches R S x y) {s s' : σ} (hs : R s s') :
    (∃ e t t', x.run s = (.error e, t) ∧ y.run s' = (.error e, t') ∧ R t t')
      ∨ ∃ a b t t', x.run s = (.ok a, t) ∧ y.run s' = (.ok b, t') ∧ S a b ∧ R t t' := by
  obtain ⟨hagree, ht⟩ := h s s' hs
  rcases hx : x.run s with ⟨r, t⟩
  rcases hy : y.run s' with ⟨r', t'⟩
  rw [hx, hy] at hagree ht
  cases hagree with
  | ok hab => exact .inr ⟨_, _, t, t', rfl, rfl, hab, ht⟩
  | error e => exact .inl ⟨e, t, t', rfl, rfl, ht⟩

theorem pure {a : α} {b : β} (h : S a b) :
    Matches R S (Pure.pure a : ExceptT Failure (StateM σ) α)
      (Pure.pure b : ExceptT Failure (StateM σ) β) :=
  fun _ _ hs => ⟨.ok h, hs⟩

theorem throw (e : Failure) :
    Matches R S (MonadExcept.throw e : ExceptT Failure (StateM σ) α)
      (MonadExcept.throw e : ExceptT Failure (StateM σ) β) :=
  fun _ _ hs => ⟨.error e, hs⟩

theorem bind {f : α → ExceptT Failure (StateM σ) γ} {g : β → ExceptT Failure (StateM σ) δ}
    (h : Matches R S x y) (hf : ∀ a b, S a b → Matches R T (f a) (g b)) :
    Matches R T (x >>= f) (y >>= g) := by
  intro s s' hs
  rw [run_bind, run_bind]
  rcases h.ends hs with ⟨e, t, t', hx, hy, ht⟩ | ⟨a, b, t, t', hx, hy, hab, ht⟩
  · rw [hx, hy]
    exact ⟨.error e, ht⟩
  · rw [hx, hy]
    exact hf a b hab t t' ht

theorem tryCatch {f : Failure → ExceptT Failure (StateM σ) α}
    {g : Failure → ExceptT Failure (StateM σ) β} (h : Matches R S x y)
    (hf : ∀ e, Matches R S (f e) (g e)) :
    Matches R S (MonadExcept.tryCatch x f) (MonadExcept.tryCatch y g) := by
  intro s s' hs
  rw [run_tryCatch, run_tryCatch]
  rcases h.ends hs with ⟨e, t, t', hx, hy, ht⟩ | ⟨a, b, t, t', hx, hy, hab, ht⟩
  · rw [hx, hy]
    exact hf e t t' ht
  · rw [hx, hy]
    exact ⟨.ok hab, ht⟩

theorem map {f : α → γ} {g : β → δ} (h : Matches R S x y)
    (hf : ∀ a b, S a b → T (f a) (g b)) : Matches R T (f <$> x) (g <$> y) := by
  rw [map_eq_pure_bind, map_eq_pure_bind]
  exact h.bind fun a b hab => .pure (hf a b hab)

/-- The same code on the same state. -/
theorem same (x : ExceptT Failure (StateM σ) α) : Matches Eq Eq x x := by
  rintro s s' rfl
  exact ⟨.of_eq rfl, rfl⟩

end Matches

/-! ## Code with a state of its own -/

/-- The same of code that has a state of its own, which is equal in both runs. -/
def MatchesIn (R : σ → σ → Prop) (S : α → β → Prop)
    (x : ExceptT Failure (StateT ρ (StateM σ)) α) (y : ExceptT Failure (StateT ρ (StateM σ)) β) :
    Prop :=
  ∀ a s s', R s s' → Agree S (runIn x a s).1.1 (runIn y a s').1.1
    ∧ (runIn x a s).1.2 = (runIn y a s').1.2 ∧ R (runIn x a s).2 (runIn y a s').2

namespace MatchesIn

variable {R : σ → σ → Prop} {S : α → β → Prop} {T : γ → δ → Prop}

theorem pure {a : α} {b : β} (h : S a b) :
    MatchesIn R S (Pure.pure a : ExceptT Failure (StateT ρ (StateM σ)) α) (Pure.pure b) :=
  fun _ _ _ hs => ⟨.ok h, rfl, hs⟩

theorem within {τ : Type} {R : Session τ → Session τ → Prop} {x : SessionM τ α} {y : SessionM τ β}
    (h : Matches R S x y) :
    MatchesIn R S (SessionM.within x : ExceptT Failure (StateT ρ (StateM (Session τ))) α)
      (SessionM.within y) :=
  fun _ s s' hs => ⟨(h s s' hs).1, rfl, (h s s' hs).2⟩

theorem bind {x : ExceptT Failure (StateT ρ (StateM σ)) α}
    {y : ExceptT Failure (StateT ρ (StateM σ)) β}
    {f : α → ExceptT Failure (StateT ρ (StateM σ)) γ}
    {g : β → ExceptT Failure (StateT ρ (StateM σ)) δ} (h : MatchesIn R S x y)
    (hf : ∀ a b, S a b → MatchesIn R T (f a) (g b)) : MatchesIn R T (x >>= f) (y >>= g) := by
  intro a s s' hs
  obtain ⟨hagree, hown, ht⟩ := h a s s' hs
  rw [runIn_bind, runIn_bind]
  rcases hx : runIn x a s with ⟨⟨r, a₁⟩, t⟩
  rcases hy : runIn y a s' with ⟨⟨r', a₁'⟩, t'⟩
  rw [hx, hy] at hagree hown ht
  obtain rfl : a₁ = a₁' := hown
  cases hagree with
  | ok hab => exact hf _ _ hab a₁ t t' ht
  | error e => exact ⟨.error e, rfl, ht⟩

end MatchesIn

end SeedNode

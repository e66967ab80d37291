import Mathlib.Data.List.Forall2
import Mathlib.Logic.Basic

/-!
# Fallible — computations that raise, with and without a state

Rules that take a computation apart where it has answered: an answer of
`x >>= f` is an answer of `x` and then of `f`. They are stated for
`Except` and for a state over it, so that a caller peels a program off
its first call with `obtain` and never unfolds a monad.
-/

namespace Effects

section Except

variable {ε α β : Type}

theorem bind_eq_ok {x : Except ε α} {f : α → Except ε β} {b : β} :
    (x >>= f) = .ok b ↔ ∃ a, x = .ok a ∧ f a = .ok b := by
  cases x with
  | error e =>
      constructor
      · intro h
        cases h
      · rintro ⟨a, h, _⟩
        cases h
  | ok a =>
      constructor
      · intro h
        exact ⟨a, rfl, h⟩
      · rintro ⟨a', h, hf⟩
        cases h
        exact hf

theorem pure_eq_ok {a b : α} : (pure a : Except ε α) = .ok b ↔ a = b := by
  constructor
  · intro h
    cases h
    rfl
  · rintro rfl
    rfl

theorem map_eq_ok {x : Except ε α} {f : α → β} {b : β} :
    x.map f = .ok b ↔ ∃ a, x = .ok a ∧ f a = b := by
  cases x with
  | error e =>
      constructor
      · intro h
        cases h
      · rintro ⟨a, h, _⟩
        cases h
  | ok a =>
      constructor
      · intro h
        cases h
        exact ⟨a, rfl, rfl⟩
      · rintro ⟨a', h, rfl⟩
        cases h
        rfl

theorem throw_ne_ok {e : ε} {a : α} : (throw e : Except ε α) ≠ .ok a := by
  intro h
  cases h

/-- An answer of `if c then throw e else x`. -/
theorem guard_eq_ok {c : Prop} [Decidable c] {e : ε} {x : Except ε α} {a : α} :
    (if c then .error e else x) = .ok a ↔ ¬c ∧ x = .ok a := by
  by_cases h : c <;> simp [h]

/-- A traversal answers when every item does, with the answers in order. -/
theorem mapM_eq_ok {f : α → Except ε β} {l : List α} {l' : List β} :
    l.mapM f = .ok l' ↔ List.Forall₂ (fun a b => f a = .ok b) l l' := by
  induction l generalizing l' with
  | nil =>
      rw [List.mapM_nil, pure_eq_ok, List.forall₂_nil_left_iff]
      exact eq_comm
  | cons a rest ih =>
      simp only [List.mapM_cons, bind_eq_ok, pure_eq_ok]
      constructor
      · rintro ⟨b, hb, others, hothers, rfl⟩
        exact .cons hb (ih.mp hothers)
      · intro h
        cases h with
        | cons hb hothers => exact ⟨_, hb, _, ih.mpr hothers, rfl⟩

/-- What a traversal that answers has for one of its items. -/
theorem exists_of_mapM {f : α → Except ε β} {l : List α} {l' : List β} (h : l.mapM f = .ok l')
    {a : α} (ha : a ∈ l) : ∃ b ∈ l', f a = .ok b := by
  have hall := mapM_eq_ok.mp h
  clear h
  induction hall with
  | nil => cases ha
  | @cons a' b rest others hb _ ih =>
      rcases List.mem_cons.mp ha with rfl | ha
      · exact ⟨b, List.mem_cons_self, hb⟩
      · obtain ⟨b', hb', heq⟩ := ih ha
        exact ⟨b', List.mem_cons_of_mem _ hb', heq⟩

/-- An exception of the class `P` leaves the computation. -/
def RaisesIn (P : ε → Prop) (x : Except ε α) : Prop := ∃ e, x = .error e ∧ P e

section RaisesIn

variable {P : ε → Prop} {x : Except ε α} {f : α → Except ε β}

@[simp] theorem not_raisesIn_ok (a : α) : ¬ RaisesIn P (.ok a : Except ε α) := by
  rintro ⟨e, h, -⟩
  cases h

@[simp] theorem not_raisesIn_pure (a : α) : ¬ RaisesIn P (pure a : Except ε α) :=
  not_raisesIn_ok a

@[simp] theorem raisesIn_error {e : ε} : RaisesIn P (.error e : Except ε α) ↔ P e := by
  constructor
  · rintro ⟨e', h, hP⟩
    cases h
    exact hP
  · intro hP
    exact ⟨e, rfl, hP⟩

theorem raisesIn_bind :
    RaisesIn P (x >>= f) ↔ RaisesIn P x ∨ ∃ a, x = .ok a ∧ RaisesIn P (f a) := by
  cases x with
  | error e =>
      show RaisesIn P (.error e : Except ε β) ↔ _
      simp
  | ok a =>
      show RaisesIn P (f a) ↔ _
      simp

/-- A check before the rest. -/
theorem raisesIn_seq {check : Except ε Unit} {y : Except ε β} :
    RaisesIn P (check >>= fun _ => y) ↔ RaisesIn P check ∨ check = .ok () ∧ RaisesIn P y := by
  rw [raisesIn_bind]
  apply or_congr Iff.rfl
  constructor
  · rintro ⟨⟨⟩, hcheck, hy⟩
    exact ⟨hcheck, hy⟩
  · rintro ⟨hcheck, hy⟩
    exact ⟨(), hcheck, hy⟩

theorem raisesIn_bind_of_quiet (h : ∀ a, x = .ok a → ¬ RaisesIn P (f a)) :
    RaisesIn P (x >>= f) ↔ RaisesIn P x := by
  rw [raisesIn_bind]
  constructor
  · rintro (hx | ⟨a, ha, hf⟩)
    · exact hx
    · exact absurd hf (h a ha)
  · exact Or.inl

/-- A check that raises nothing of the class, before the rest. -/
theorem raisesIn_bind_of_check (h : ¬ RaisesIn P x) :
    RaisesIn P (x >>= f) ↔ ∃ a, x = .ok a ∧ RaisesIn P (f a) := by
  rw [raisesIn_bind, or_iff_right h]

theorem raisesIn_ite {c : Prop} [Decidable c] {y : Except ε α} :
    RaisesIn P (if c then x else y) ↔ (c ∧ RaisesIn P x) ∨ (¬c ∧ RaisesIn P y) := by
  by_cases h : c <;> simp [h]

/-- Either the class is left out and the computation answers or raises another exception. -/
theorem not_raisesIn_iff :
    ¬ RaisesIn P x ↔ (∃ a, x = .ok a) ∨ ∃ e, x = .error e ∧ ¬ P e := by
  cases x <;> simp

end RaisesIn

end Except

section State

variable {σ ε α β : Type}

theorem run_bind_eq_ok {x : StateT σ (Except ε) α} {f : α → StateT σ (Except ε) β} {s s' : σ}
    {b : β} :
    (x >>= f) s = .ok (b, s') ↔ ∃ a s₁, x s = .ok (a, s₁) ∧ f a s₁ = .ok (b, s') := by
  show (x s >>= fun a => f a.1 a.2) = .ok (b, s') ↔ _
  rw [bind_eq_ok]
  constructor
  · rintro ⟨⟨a, s₁⟩, hx, hf⟩
    exact ⟨a, s₁, hx, hf⟩
  · rintro ⟨a, s₁, hx, hf⟩
    exact ⟨(a, s₁), hx, hf⟩

theorem run_pure_eq_ok {a b : α} {s s' : σ} :
    (pure a : StateT σ (Except ε) α) s = .ok (b, s') ↔ a = b ∧ s = s' := by
  show (.ok (a, s) : Except ε (α × σ)) = .ok (b, s') ↔ _
  constructor
  · intro h
    cases h
    exact ⟨rfl, rfl⟩
  · rintro ⟨rfl, rfl⟩
    rfl

end State

end Effects

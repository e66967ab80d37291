import PurIdentityServer.Lib.Prog

/-!
# Endings — how a program ends on a store

`Stops exec P p s`: run alone on the store `s`, the program `p` stops with
an error of the class `P`. The errors of a program fall into classes (a
refusal, an exception), and each class is followed through the program by
the same rules, one for each way of composing.
-/

namespace Effects.Prog

variable {C : Type} {R : C → Type} {ε ε' α β σ : Type}

/-- The program stops, with an error of `P`. -/
def Stops (exec : (c : C) → σ → R c × σ) (P : ε → Prop) (p : Prog C R ε α) (s : σ) : Prop :=
  ∃ e s', p.run exec s = (.error e, s') ∧ P e

variable {exec : (c : C) → σ → R c × σ} {P : ε → Prop} {s : σ}

@[simp] theorem not_stops_pure (a : α) : ¬ Stops exec P (Pure.pure a : Prog C R ε α) s := by
  rintro ⟨e, s', h, -⟩
  cases h

@[simp] theorem stops_fail {e : ε} : Stops exec P (.fail e : Prog C R ε α) s ↔ P e := by
  constructor
  · rintro ⟨e', s', h, hP⟩
    cases h
    exact hP
  · intro hP
    exact ⟨e, s, rfl, hP⟩

theorem stops_bind {p : Prog C R ε α} {f : α → Prog C R ε β} :
    Stops exec P (p >>= f) s ↔
      Stops exec P p s ∨ ∃ a s', p.run exec s = (.ok a, s') ∧ Stops exec P (f a) s' := by
  unfold Stops
  rw [run_bind]
  rcases hrun : p.run exec s with ⟨e | a, u⟩
  · constructor
    · rintro ⟨e', s', h, hP⟩
      cases h
      exact .inl ⟨e, u, rfl, hP⟩
    · rintro (⟨e', s', h, hP⟩ | ⟨a, s', h, -⟩)
      · cases h
        exact ⟨e, u, rfl, hP⟩
      · cases h
  · constructor
    · intro h
      exact .inr ⟨a, u, rfl, h⟩
    · rintro (⟨e, s', h, -⟩ | ⟨b, s', h, hstops⟩)
      · cases h
      · cases h
        exact hstops

/-- What follows is reached with one value only. -/
theorem stops_bind_of_run {p : Prog C R ε α} {f : α → Prog C R ε β} {a : α} {s' : σ}
    (h : p.run exec s = (.ok a, s')) : Stops exec P (p >>= f) s ↔ Stops exec P (f a) s' := by
  unfold Stops
  rw [run_bind, h]

/-- What follows does not stop. -/
theorem stops_bind_of_quiet {p : Prog C R ε α} {f : α → Prog C R ε β}
    (h : ∀ a s', ¬ Stops exec P (f a) s') : Stops exec P (p >>= f) s ↔ Stops exec P p s := by
  rw [stops_bind]
  constructor
  · rintro (hstops | ⟨a, s', -, hstops⟩)
    · exact hstops
    · exact absurd hstops (h a s')
  · exact .inl

theorem stops_stopIf_bind {b : Prop} [Decidable b] {e : ε} {f : Unit → Prog C R ε β} :
    Stops exec P (stopIf b e >>= f) s ↔ (b ∧ P e) ∨ (¬ b ∧ Stops exec P (f ()) s) := by
  unfold stopIf
  by_cases h : b
  · rw [if_pos h, fail_bind, stops_fail]
    simp [h]
  · rw [if_neg h]
    show Stops exec P (f ()) s ↔ _
    simp [h]

theorem stops_getOr_bind {e : ε} {o : Option α} {f : α → Prog C R ε β} :
    Stops exec P (getOr e o >>= f) s ↔
      (o = none ∧ P e) ∨ ∃ a, o = some a ∧ Stops exec P (f a) s := by
  cases o with
  | none =>
      show Stops exec P (.fail e : Prog C R ε β) s ↔ _
      simp
  | some a =>
      show Stops exec P (f a) s ↔ _
      simp

/-- A handler stops where it is reached and stops itself. -/
theorem stops_handle {p : Prog C R ε' α} {h : ε' → Prog C R ε α} :
    Stops exec P (p.handle h) s ↔
      ∃ e s', p.run exec s = (.error e, s') ∧ Stops exec P (h e) s' := by
  induction p generalizing s with
  | pure a =>
      constructor
      · intro hstops
        exact absurd hstops (not_stops_pure a)
      · rintro ⟨e, s', hrun, -⟩
        cases hrun
  | fail e =>
      constructor
      · intro hstops
        exact ⟨e, s, rfl, hstops⟩
      · rintro ⟨e', s', hrun, hstops⟩
        cases hrun
        exact hstops
  | call c k ih => exact ih _

/-- A program whose errors are all of another class. -/
theorem not_stops_of_stopsWith {p : Prog C R ε α} {E : ε → Prop} (hp : p.StopsWith E)
    (hE : ∀ e, E e → ¬ P e) : ¬ Stops exec P p s := by
  induction p generalizing s with
  | pure a => exact not_stops_pure a
  | fail e =>
      rw [stops_fail]
      exact hE e hp
  | call c k ih => exact ih _ (hp _)

end Effects.Prog

import Mathlib.Logic.Basic

/-!
# Raising — programs over a state that keep what they wrote when they raise

A program of `Raising σ ε α` reads and writes a state and answers or
raises; an exception does not undo the writes before it. `wp x Q E`
holds of a state where every outcome of `x` is in `Q` or, raised, in `E`;
there is one rule for each way of composing programs, and `Along R`
packages the case most callers need: whatever happens, the state has
moved along a relation.
-/

namespace Effects

/-- Programs over a state that may raise. -/
abbrev Raising (σ ε : Type) := ExceptT ε (StateM σ)

/-- Run a program over each item in turn. -/
def forEach {σ ε α : Type} : List α → (α → Raising σ ε Unit) → Raising σ ε Unit
  | [], _ => pure ()
  | a :: rest, f => do
      f a
      forEach rest f

namespace Raising

variable {σ ε α β : Type}

/-- The outcome of a program and the state it leaves. -/
def outcome (x : Raising σ ε α) (w : σ) : Except ε α × σ := StateT.run (ExceptT.run x) w

/-- Every answer is in `Q` and every exception in `E`, with the state left. -/
def wp (x : Raising σ ε α) (Q : α → σ → Prop) (E : ε → σ → Prop) (w : σ) : Prop :=
  match outcome x w with
  | (.ok a, w') => Q a w'
  | (.error e, w') => E e w'

section Rules

variable {Q : α → σ → Prop} {E : ε → σ → Prop} {w : σ}

@[simp] theorem wp_pure {a : α} : wp (pure a : Raising σ ε α) Q E w ↔ Q a w := Iff.rfl

@[simp] theorem wp_throw {e : ε} : wp (throw e : Raising σ ε α) Q E w ↔ E e w := Iff.rfl

@[simp] theorem wp_get {Q : σ → σ → Prop} : wp (get : Raising σ ε σ) Q E w ↔ Q w w := Iff.rfl

@[simp] theorem wp_set {Q : PUnit → σ → Prop} {w' : σ} :
    wp (set w' : Raising σ ε PUnit) Q E w ↔ Q ⟨⟩ w' := Iff.rfl

@[simp] theorem wp_modify {Q : PUnit → σ → Prop} {f : σ → σ} :
    wp (modify f : Raising σ ε PUnit) Q E w ↔ Q ⟨⟩ (f w) := Iff.rfl

theorem outcome_bind (x : Raising σ ε α) (f : α → Raising σ ε β) (w : σ) :
    outcome (x >>= f) w =
      match outcome x w with
      | (.ok a, w') => outcome (f a) w'
      | (.error e, w') => (.error e, w') := by
  show StateT.run (ExceptT.run (x >>= f)) w = _
  simp only [ExceptT.run_bind, StateT.run_bind, outcome]
  show (match (StateT.run (ExceptT.run x) w).1 with
    | .ok a => ExceptT.run (f a)
    | .error e => pure (.error e) : StateM σ (Except ε β)).run
      (StateT.run (ExceptT.run x) w).2 = _
  rcases StateT.run (ExceptT.run x) w with ⟨_ | _, w'⟩
  · rfl
  · rfl

theorem outcome_bind_ok {x : Raising σ ε α} {f : α → Raising σ ε β} {w w' : σ} {a : α}
    (h : outcome x w = (.ok a, w')) : outcome (x >>= f) w = outcome (f a) w' := by
  rw [outcome_bind, h]

theorem outcome_bind_error {x : Raising σ ε α} {f : α → Raising σ ε β} {w w' : σ} {e : ε}
    (h : outcome x w = (.error e, w')) : outcome (x >>= f) w = (.error e, w') := by
  rw [outcome_bind, h]

/-- What a composed program went through to answer. -/
theorem outcome_bind_eq_ok {x : Raising σ ε α} {f : α → Raising σ ε β} {w w' : σ} {b : β} :
    outcome (x >>= f) w = (.ok b, w') ↔
      ∃ a u, outcome x w = (.ok a, u) ∧ outcome (f a) u = (.ok b, w') := by
  rw [outcome_bind]
  rcases outcome x w with ⟨_ | a, u⟩
  · simp
  · constructor
    · intro h
      exact ⟨a, u, rfl, h⟩
    · rintro ⟨_, _, h, h'⟩
      cases h
      exact h'

/-- A computation that neither reads nor writes the state. -/
def lift (x : Except ε α) : Raising σ ε α := ExceptT.mk (pure x)

@[simp] theorem outcome_lift (x : Except ε α) (w : σ) :
    outcome (lift x : Raising σ ε α) w = (x, w) := rfl

@[simp] theorem outcome_pure (a : α) (w : σ) :
    outcome (pure a : Raising σ ε α) w = (.ok a, w) := rfl

@[simp] theorem outcome_throw (e : ε) (w : σ) :
    outcome (throw e : Raising σ ε α) w = (.error e, w) := rfl

/-- A program whose exceptions are wrapped in another type. -/
def adapt {ε' : Type} (f : ε → ε') (x : Raising σ ε α) : Raising σ ε' α := fun w =>
  match outcome x w with
  | (.ok a, w') => (.ok a, w')
  | (.error e, w') => (.error (f e), w')

theorem outcome_adapt {ε' : Type} {f : ε → ε'} {x : Raising σ ε α} (w : σ) :
    outcome (adapt f x) w =
      match outcome x w with
      | (.ok a, w') => (.ok a, w')
      | (.error e, w') => (.error (f e), w') := rfl

@[simp] theorem wp_adapt {ε' : Type} {f : ε → ε'} {x : Raising σ ε α} {E : ε' → σ → Prop} :
    wp (adapt f x) Q E w ↔ wp x Q (fun e w' => E (f e) w') w := by
  unfold wp
  rw [outcome_adapt]
  rcases outcome x w with ⟨_ | _, w'⟩
  · rfl
  · rfl

/-- A program over a part of the state. -/
def within {τ : Type} (part : τ → σ) (put : σ → τ → τ) (x : Raising σ ε α) : Raising τ ε α :=
  fun w => match outcome x (part w) with
    | (answer, s) => (answer, put s w)

theorem outcome_within {τ : Type} {part : τ → σ} {put : σ → τ → τ} {x : Raising σ ε α} (w : τ) :
    outcome (within part put x) w =
      ((outcome x (part w)).1, put (outcome x (part w)).2 w) := rfl

@[simp] theorem wp_within {τ : Type} {part : τ → σ} {put : σ → τ → τ} {x : Raising σ ε α}
    {Q : α → τ → Prop} {E : ε → τ → Prop} {w : τ} :
    wp (within part put x) Q E w ↔
      wp x (fun a s => Q a (put s w)) (fun e s => E e (put s w)) (part w) := by
  unfold wp
  rw [outcome_within]
  rcases outcome x (part w) with ⟨_ | _, s⟩
  · rfl
  · rfl

@[simp] theorem wp_bind {x : Raising σ ε α} {f : α → Raising σ ε β} {Q : β → σ → Prop} :
    wp (x >>= f) Q E w ↔ wp x (fun a w' => wp (f a) Q E w') E w := by
  unfold wp
  rw [outcome_bind]
  rcases outcome x w with ⟨_ | _, w'⟩
  · rfl
  · rfl

theorem wp_mono {Q' : α → σ → Prop} {E' : ε → σ → Prop} {x : Raising σ ε α}
    (h : wp x Q E w) (hQ : ∀ a w', Q a w' → Q' a w') (hE : ∀ e w', E e w' → E' e w') :
    wp x Q' E' w := by
  unfold wp at h ⊢
  rcases hx : outcome x w with ⟨_ | _, w'⟩
  · rw [hx] at h
    exact hE _ _ h
  · rw [hx] at h
    exact hQ _ _ h

theorem wp_and {Q' : α → σ → Prop} {E' : ε → σ → Prop} {x : Raising σ ε α}
    (h : wp x Q E w) (h' : wp x Q' E' w) :
    wp x (fun a w' => Q a w' ∧ Q' a w') (fun e w' => E e w' ∧ E' e w') w := by
  unfold wp at h h' ⊢
  rcases hx : outcome x w with ⟨_ | _, w'⟩
  · rw [hx] at h h'
    exact ⟨h, h'⟩
  · rw [hx] at h h'
    exact ⟨h, h'⟩

/-- What holds of the state left, whatever the outcome. -/
theorem state_of_wp {P : σ → Prop} {x : Raising σ ε α}
    (h : wp x (fun _ w' => P w') (fun _ w' => P w') w) : P (outcome x w).2 := by
  unfold wp at h
  rcases hx : outcome x w with ⟨_ | _, w'⟩
  · rw [hx] at h
    exact h
  · rw [hx] at h
    exact h

theorem wp_of_forall {x : Raising σ ε α} (hQ : ∀ a w', Q a w') (hE : ∀ e w', E e w') :
    wp x Q E w := by
  unfold wp
  rcases outcome x w with ⟨_ | _, w'⟩
  · exact hE _ _
  · exact hQ _ _

/-- A computation outside the state, before what is said of its answer. -/
theorem wp_lift_bind {x : Except ε α} {f : α → Raising σ ε β} {Q : β → σ → Prop}
    (hE : ∀ e, x = .error e → E e w) (hf : ∀ a, x = .ok a → wp (f a) Q E w) :
    wp (lift x >>= f) Q E w := by
  cases x with
  | error e => exact hE e rfl
  | ok a => exact hf a rfl

/-- A program whose outcome is known. -/
theorem wp_of_outcome {x : Raising σ ε α} {a : α} {w' : σ} (hx : outcome x w = (.ok a, w')) :
    wp x Q E w ↔ Q a w' := by
  unfold wp
  rw [hx]

/-- What `wp` says of an answer that is known. -/
theorem of_wp_ok {x : Raising σ ε α} (h : wp x Q E w) {a : α} {w' : σ}
    (hx : outcome x w = (.ok a, w')) : Q a w' :=
  (wp_of_outcome hx).mp h

end Rules

/-! ## Moving along a relation -/

/-- Whatever comes out of `x`, the state has moved along `R`. -/
def Along (R : σ → σ → Prop) (x : Raising σ ε α) : Prop := ∀ w, R w (outcome x w).2

section Along

variable {R : σ → σ → Prop}

theorem along_iff {x : Raising σ ε α} :
    Along R x ↔ ∀ w, wp x (fun _ w' => R w w') (fun _ w' => R w w') w := by
  constructor
  · intro h w
    have hw := h w
    unfold wp
    rcases hx : outcome x w with ⟨_ | _, w'⟩
    · rw [hx] at hw
      exact hw
    · rw [hx] at hw
      exact hw
  · intro h w
    have hw := h w
    unfold wp at hw
    rcases hx : outcome x w with ⟨_ | _, w'⟩
    · rw [hx] at hw
      exact hw
    · rw [hx] at hw
      exact hw

variable (hrefl : ∀ w, R w w) (htrans : ∀ u v w, R u v → R v w → R u w)
include hrefl

theorem along_pure (a : α) : Along R (pure a : Raising σ ε α) := fun w => hrefl w

theorem along_throw (e : ε) : Along R (throw e : Raising σ ε α) := fun w => hrefl w

theorem along_get : Along R (get : Raising σ ε σ) := fun w => hrefl w

theorem along_lift (x : Except ε α) : Along R (lift x : Raising σ ε α) := fun w => hrefl w

omit hrefl in
/-- A program that moves along `R`, before what is said of its answer. -/
theorem wp_of_along {x : Raising σ ε α} (h : Along R x) {w : σ} :
    wp x (fun a w' => outcome x w = (.ok a, w') ∧ R w w') (fun _ w' => R w w') w := by
  have hw := h w
  unfold wp
  rcases hx : outcome x w with ⟨_ | a, w'⟩
  · rw [hx] at hw
    exact hw
  · rw [hx] at hw
    exact ⟨rfl, hw⟩

omit hrefl in
include htrans in
theorem along_bind {x : Raising σ ε α} {f : α → Raising σ ε β} (hx : Along R x)
    (hf : ∀ a, Along R (f a)) : Along R (x >>= f) := by
  intro w
  rw [outcome_bind]
  have hw := hx w
  rcases hout : outcome x w with ⟨_ | a, w'⟩
  · rw [hout] at hw
    exact hw
  · rw [hout] at hw
    exact htrans _ _ _ hw (hf a w')

include htrans in
theorem along_forEach {f : α → Raising σ ε Unit} {l : List α} (hf : ∀ a ∈ l, Along R (f a)) :
    Along R (forEach l f) := by
  induction l with
  | nil => exact along_pure hrefl ()
  | cons a rest ih =>
      exact along_bind htrans (hf a (by simp)) fun _ => ih fun b hb => hf b (by simp [hb])

end Along

/-- An invariant of a loop: it holds before, and each round keeps it. -/
theorem wp_forEach {f : α → Raising σ ε Unit} {E : ε → σ → Prop} {I : List α → σ → Prop}
    (hstep : ∀ a rest w, I (a :: rest) w → wp (f a) (fun _ w' => I rest w') E w)
    {l : List α} {w : σ} (h : I l w) : wp (forEach l f) (fun _ w' => I [] w') E w := by
  induction l generalizing w with
  | nil => exact wp_pure.mpr h
  | cons a rest ih =>
      exact wp_bind.mpr (wp_mono (hstep a rest w h) (fun _ _ hI => ih hI) fun _ _ he => he)

end Raising

end Effects

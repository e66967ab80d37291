import Mathlib.Logic.Basic

/-!
# History — a service that answers one request after the other

A service answers each request from its state and leaves the next state.
Requests take time, between two readings of a clock, and each begins when
the one before has ended. The requests answered so far, with their
answers, are the history of a state.

An invariant that ties the state to the history holds of every run when
one request preserves it (`History.invariant`), and an entry of a history
was answered from the state of the entries before it (`History.before`).
-/

namespace Effects

/-- A service: how it answers, how long a request takes, and which requests it may get. -/
structure Service (σ ε α τ : Type) [LE τ] where
  handle : ε → σ → α × σ
  begins : ε → τ
  ends : ε → τ
  begins_le_ends : ∀ request, begins request ≤ ends request
  admits : ε → Prop := fun _ => True

/-- A request and its answer. -/
structure Entry (ε α : Type) where
  request : ε
  answer : α

variable {σ ε α τ : Type} [LE τ]

/-- The histories of a service from an initial state, with the clock and the state reached. -/
inductive History (service : Service σ ε α τ) (initial : σ) : List (Entry ε α) → τ → σ → Prop
  | start (now : τ) : History service initial [] now initial
  | step {entries : List (Entry ε α)} {now : τ} {state : σ}
      (history : History service initial entries now state) (request : ε)
      (le : now ≤ service.begins request) (admitted : service.admits request) :
      History service initial (entries ++ [⟨request, (service.handle request state).1⟩])
        (service.ends request) (service.handle request state).2

namespace History

variable {service : Service σ ε α τ} {initial : σ} {entries : List (Entry ε α)} {now : τ}
  {state : σ}

/-- What holds initially and is preserved by one request holds of every run. -/
theorem invariant {I : List (Entry ε α) → τ → σ → Prop} (hstart : ∀ now, I [] now initial)
    (hstep : ∀ entries now state request, I entries now state → now ≤ service.begins request →
      service.admits request →
        I (entries ++ [⟨request, (service.handle request state).1⟩]) (service.ends request)
          (service.handle request state).2)
    (h : History service initial entries now state) : I entries now state := by
  induction h with
  | start now => exact hstart now
  | step history request le admitted ih => exact hstep _ _ _ request ih le admitted

/-- The last entry of a run. -/
theorem last {entry : Entry ε α} (h : History service initial (entries ++ [entry]) now state) :
    ∃ earlier reached, History service initial entries earlier reached ∧
      earlier ≤ service.begins entry.request ∧ service.admits entry.request ∧
      entry.answer = (service.handle entry.request reached).1 ∧
      state = (service.handle entry.request reached).2 ∧ now = service.ends entry.request := by
  generalize hentries : entries ++ [entry] = all at h
  cases h with
  | start now => simp at hentries
  | @step front now state history request le admitted =>
      obtain ⟨rfl, hlast⟩ := List.append_inj' hentries rfl
      cases hlast
      exact ⟨now, state, history, le, admitted, rfl, rfl, rfl⟩

/-- A run in two parts: the second starts where the first has ended. -/
theorem split {older newer : List (Entry ε α)}
    (h : History service initial (older ++ newer) now state) :
    ∃ earlier reached, History service initial older earlier reached ∧
      History service reached newer now state := by
  generalize hentries : older ++ newer = entries at h
  induction h generalizing newer with
  | start now =>
      obtain ⟨rfl, rfl⟩ := List.append_eq_nil_iff.mp hentries
      exact ⟨now, initial, .start now, .start now⟩
  | @step entries now state history request le admitted ih =>
      rcases List.eq_nil_or_concat newer with rfl | ⟨front, last, rfl⟩
      · rw [List.append_nil] at hentries
        subst hentries
        exact ⟨_, _, .step history request le admitted, .start _⟩
      · rw [List.concat_eq_append, ← List.append_assoc] at hentries
        obtain ⟨hfront, hlast⟩ := List.append_inj' hentries rfl
        cases hlast
        obtain ⟨earlier, reached, holder, hnewer⟩ := ih hfront
        rw [List.concat_eq_append]
        exact ⟨earlier, reached, holder, .step hnewer request le admitted⟩

/-- A service whose requests end alike on related states has the same runs. -/
theorem simulates {σ' : Type} {service' : Service σ' ε α τ} {initial' : σ'}
    (I : σ → σ' → Prop) (hbegins : ∀ request, service'.begins request = service.begins request)
    (hends : ∀ request, service'.ends request = service.ends request)
    (hadmits : ∀ request, service.admits request → service'.admits request)
    (hstep : ∀ request s s', service.admits request → I s s' →
      (service.handle request s).1 = (service'.handle request s').1 ∧
        I (service.handle request s).2 (service'.handle request s').2)
    (h : History service initial entries now state) (hinitial : I initial initial') :
    ∃ state', History service' initial' entries now state' ∧ I state state' := by
  induction h with
  | start now => exact ⟨initial', .start now, hinitial⟩
  | @step entries now state history request le admitted ih =>
      obtain ⟨state', history', hI⟩ := ih
      obtain ⟨hanswer, hnext⟩ := hstep request _ _ admitted hI
      refine ⟨(service'.handle request state').2, ?_, hnext⟩
      rw [hanswer, ← hends request]
      exact .step history' request ((hbegins request).symm ▸ le) (hadmits request admitted)

/-- An entry was answered from the state of the entries before it. -/
theorem before {older newer : List (Entry ε α)} {entry : Entry ε α}
    (h : History service initial (older ++ entry :: newer) now state) :
    ∃ earlier reached, History service initial older earlier reached ∧
      earlier ≤ service.begins entry.request ∧ service.admits entry.request ∧
      entry.answer = (service.handle entry.request reached).1 := by
  generalize hentries : older ++ entry :: newer = entries at h
  induction h generalizing newer with
  | start now => simp at hentries
  | @step entries now state history request le admitted ih =>
      rcases List.eq_nil_or_concat newer with rfl | ⟨front, last, rfl⟩
      · obtain ⟨holder, hlast⟩ := List.append_inj' hentries rfl
        subst holder
        cases hlast
        exact ⟨now, state, history, le, admitted, rfl⟩
      · rw [List.concat_eq_append, ← List.cons_append, ← List.append_assoc] at hentries
        exact ih (List.append_inj' hentries rfl).1

end History

end Effects

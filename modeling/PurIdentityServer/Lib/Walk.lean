import Mathlib.Data.Set.Finite.Basic
import Mathlib.Logic.Relation

/-!
# Walk — loops that follow a step until it answers

A step takes a position to the next one or to an answer. `walk` follows it
for a number of steps, `Reached` holds of every position on the way, and the
loop ends when one of them answers.

A loop that keeps what it has seen and only goes on to something new need
not end: it ends exactly when it sees finitely many things
(`ends_iff_finite`), and it never sees one twice (`nodup_of_reached`).
-/

namespace Effects

namespace Walk

variable {α β κ : Type} (next : α → α ⊕ β)

/-- The answer of the loop within a number of steps. -/
def walk : Nat → α → Option β
  | 0, _ => none
  | steps + 1, a =>
      match next a with
      | .inr b => some b
      | .inl a' => walk steps a'

/-- The positions of the loop. -/
abbrev Reached : α → α → Prop := Relation.ReflTransGen fun a a' => next a = .inl a'

/-- The loop ends. -/
def Ends (a : α) : Prop := ∃ z b, Reached next a z ∧ next z = .inr b

variable {next}

theorem reached_of_walk {steps : Nat} {a : α} {b : β} (h : walk next steps a = some b) :
    ∃ z, Reached next a z ∧ next z = .inr b := by
  induction steps generalizing a with
  | zero => cases h
  | succ steps ih =>
      unfold walk at h
      split at h
      · rename_i b' hnext
        cases h
        exact ⟨a, .refl, hnext⟩
      · rename_i a' hnext
        obtain ⟨z, hz, hanswer⟩ := ih h
        exact ⟨z, .head hnext hz, hanswer⟩

theorem walk_of_reached {a z : α} {b : β} (hz : Reached next a z) (hanswer : next z = .inr b) :
    ∃ steps, walk next steps a = some b := by
  induction hz using Relation.ReflTransGen.head_induction_on with
  | refl => exact ⟨1, by simp [walk, hanswer]⟩
  | head hstep _ ih =>
      obtain ⟨steps, hsteps⟩ := ih
      exact ⟨steps + 1, by simp [walk, hstep, hsteps]⟩

/-- The answer of the loop is the one of its last position. -/
theorem walk_eq_some_iff {a : α} {b : β} :
    (∃ steps, walk next steps a = some b) ↔ ∃ z, Reached next a z ∧ next z = .inr b := by
  constructor
  · rintro ⟨steps, h⟩
    exact reached_of_walk h
  · rintro ⟨z, hz, hanswer⟩
    exact walk_of_reached hz hanswer

/-- What holds of a position and is kept by the step holds of every position reached. -/
theorem invariant_of_reached {I : α → Prop} (hstep : ∀ a a', next a = .inl a' → I a → I a')
    {a z : α} (ha : I a) (hz : Reached next a z) : I z := by
  induction hz with
  | refl => exact ha
  | tail _ hnext ih => exact hstep _ _ hnext ih

/-- Every position leads to the last one. -/
theorem reached_last {a y z : α} {b : β} (hy : Reached next a y) (hz : Reached next a z)
    (hanswer : next z = .inr b) : Reached next y z := by
  have hunique : Relator.RightUnique fun a a' => next a = .inl a' := by
    intro a x y hx hy
    exact Sum.inl.inj (hx.symm.trans hy)
  rcases Relation.ReflTransGen.total_of_right_unique hunique hy hz with h | h
  · exact h
  · cases Relation.ReflTransGen.cases_head h with
    | inl heq => exact heq ▸ .refl
    | inr hstep =>
        obtain ⟨a', hnext, -⟩ := hstep
        rw [hanswer] at hnext
        cases hnext

/-! ## Loops that only go on to something new -/

/-- Each step puts something new in front of what has been seen. -/
def Fresh (next : α → α ⊕ β) (seen : α → List κ) : Prop :=
  ∀ a a', next a = .inl a' → ∃ k, k ∉ seen a ∧ seen a' = k :: seen a

variable {seen : α → List κ} (hfresh : Fresh next seen)

/-- What the loop sees from a position on. -/
def sights (next : α → α ⊕ β) (seen : α → List κ) (a : α) : Set κ :=
  {k | ∃ z, Reached next a z ∧ k ∈ seen z}

include hfresh

theorem nodup_of_reached {a z : α} (ha : (seen a).Nodup) (hz : Reached next a z) :
    (seen z).Nodup := by
  refine invariant_of_reached (I := fun z => (seen z).Nodup) ?_ ha hz
  intro y y' hnext hnodup
  obtain ⟨k, hk, heq⟩ := hfresh y y' hnext
  rw [heq]
  exact List.nodup_cons.mpr ⟨hk, hnodup⟩

theorem seen_subset_of_reached {a z : α} (hz : Reached next a z) : seen a ⊆ seen z := by
  refine invariant_of_reached (I := fun z => seen a ⊆ seen z) ?_ (List.Subset.refl _) hz
  intro y y' hnext hsubset
  obtain ⟨k, -, heq⟩ := hfresh y y' hnext
  rw [heq]
  exact fun x hx => List.mem_cons_of_mem k (hsubset hx)

/-- A loop that goes on sees one thing more with each step. -/
theorem sees_of_not_ends {a : α} (h : ¬ Ends next a) (n : Nat) :
    ∃ z new, Reached next a z ∧ seen z = new ++ seen a ∧ new.Nodup ∧ new.length = n := by
  induction n with
  | zero => exact ⟨a, [], .refl, rfl, .nil, rfl⟩
  | succ n ih =>
      obtain ⟨z, new, hz, hseen, hnodup, hlength⟩ := ih
      cases hnext : next z with
      | inr b => exact absurd ⟨z, b, hz, hnext⟩ h
      | inl z' =>
          obtain ⟨k, hk, heq⟩ := hfresh z z' hnext
          refine ⟨z', k :: new, hz.tail hnext, ?_, ?_, by simp [hlength]⟩
          · rw [heq, hseen, List.cons_append]
          · refine List.nodup_cons.mpr ⟨?_, hnodup⟩
            intro hmem
            exact hk (hseen ▸ List.mem_append_left _ hmem)

/-- **The loop ends exactly when it sees finitely many things.** -/
theorem ends_iff_finite {a : α} : Ends next a ↔ (sights next seen a).Finite := by
  constructor
  · rintro ⟨z, b, hz, hanswer⟩
    refine (List.finite_toSet (seen z)).subset ?_
    rintro k ⟨y, hy, hk⟩
    exact seen_subset_of_reached hfresh (reached_last hy hz hanswer) hk
  · classical
    intro hfinite
    by_contra hends
    obtain ⟨z, new, hz, hseen, hnodup, hlength⟩ :=
      sees_of_not_ends hfresh hends (hfinite.toFinset.card + 1)
    have hsubset : ∀ k ∈ new, k ∈ hfinite.toFinset := by
      intro k hk
      rw [Set.Finite.mem_toFinset]
      exact ⟨z, hz, hseen ▸ List.mem_append_left _ hk⟩
    have hle := (List.toFinset_card_of_nodup hnodup).symm.le.trans
      (Finset.card_le_card fun k hk => hsubset k (List.mem_toFinset.mp hk))
    omega

end Walk

end Effects

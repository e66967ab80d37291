import Mathlib.Data.List.Chain

/-!
# Runs — chains of neighbours inside a list

A run of `n` steps is a window of `n + 1` neighbours, each related to the
next. `Begins` finds one at the head of a list and `Has` anywhere in it. A
scanner that looks for runs of two relations counts the steps of each it has
just made; what its counters still wait for is `Waits`, with one rule for
each step it can read (`waits_left`, `waits_right`, `waits_reset`).
-/

namespace Effects

namespace Runs

variable {α : Type} (R : α → α → Prop)

/-- The list begins with `n` steps. -/
def Begins (n : Nat) (l : List α) : Prop := n < l.length ∧ (l.take (n + 1)).IsChain R

/-- A window of the list is `n` steps. -/
def Has (n : Nat) (l : List α) : Prop :=
  ∃ window, window <:+: l ∧ window.length = n + 1 ∧ window.IsChain R

variable {R}

theorem begins_zero {a : α} {l : List α} : Begins R 0 (a :: l) := by
  refine ⟨Nat.succ_pos _, ?_⟩
  simp

@[simp] theorem not_begins_nil {n : Nat} : ¬ Begins R n [] := by
  rintro ⟨h, -⟩
  simp at h

@[simp] theorem not_begins_singleton {n : Nat} {a : α} : ¬ Begins R (n + 1) [a] := by
  rintro ⟨h, -⟩
  simp at h

/-- A first step, and the rest of them. -/
theorem begins_succ {n : Nat} {a b : α} {l : List α} :
    Begins R (n + 1) (a :: b :: l) ↔ R a b ∧ Begins R n (b :: l) := by
  unfold Begins
  rw [List.take_succ_cons, List.take_succ_cons, List.isChain_cons_cons]
  simp only [List.length_cons, Nat.add_lt_add_iff_right]
  constructor
  · rintro ⟨hlength, hstep, hchain⟩
    exact ⟨hstep, hlength, hchain⟩
  · rintro ⟨hstep, hlength, hchain⟩
    exact ⟨hlength, hstep, hchain⟩

theorem Begins.of_le {m n : Nat} {l : List α} (h : Begins R n l) (hle : m ≤ n) :
    Begins R m l := by
  obtain ⟨hlength, hchain⟩ := h
  refine ⟨Nat.lt_of_le_of_lt hle hlength, ?_⟩
  have htake : l.take (m + 1) = (l.take (n + 1)).take (m + 1) := by
    rw [List.take_take, Nat.min_eq_left (Nat.succ_le_succ hle)]
  rw [htake]
  exact hchain.take _

@[simp] theorem not_has_nil {n : Nat} : ¬ Has R n [] := by
  rintro ⟨window, hwindow, hlength, -⟩
  rw [List.infix_nil.mp hwindow] at hlength
  cases hlength

/-- A run is at the head, or further on. -/
theorem has_cons {n : Nat} {a : α} {l : List α} :
    Has R n (a :: l) ↔ Begins R n (a :: l) ∨ Has R n l := by
  constructor
  · rintro ⟨window, hwindow, hlength, hchain⟩
    rcases List.infix_cons_iff.mp hwindow with hstart | hinfix
    · have htake := List.prefix_iff_eq_take.mp hstart
      rw [hlength] at htake
      have hle := hstart.length_le
      exact .inl ⟨by omega, htake ▸ hchain⟩
    · exact .inr ⟨window, hinfix, hlength, hchain⟩
  · rintro (⟨hlength, hchain⟩ | ⟨window, hinfix, hlength, hchain⟩)
    · refine ⟨(a :: l).take (n + 1), (List.take_prefix _ _).isInfix, ?_, hchain⟩
      rw [List.length_take]
      omega
    · exact ⟨window, List.infix_cons hinfix, hlength, hchain⟩

theorem has_succ {n : Nat} {a b : α} {l : List α} :
    Has R (n + 1) (a :: b :: l) ↔ R a b ∧ Begins R n (b :: l) ∨ Has R (n + 1) (b :: l) := by
  rw [has_cons, begins_succ]

theorem Begins.has {n : Nat} {l : List α} (h : Begins R n l) : Has R n l := by
  cases l with
  | nil => exact absurd h not_begins_nil
  | cons a rest => exact has_cons.mpr (.inl h)

/-! ## Two counters -/

section Counters

variable {S : α → α → Prop} {n left right : Nat} {a b : α} {l : List α}

/-- What a scanner that has just made `left` steps of `R` and `right` steps of `S` answers. -/
def Waits (R S : α → α → Prop) (n left right : Nat) (l : List α) : Prop :=
  Begins R (n - left) l ∨ Begins S (n - right) l ∨ Has R n l ∨ Has S n l

theorem waits_comm : Waits R S n left right l ↔ Waits S R n right left l := by
  unfold Waits
  constructor
  · rintro (hleft | hright | hleft | hright)
    · exact .inr (.inl hleft)
    · exact .inl hright
    · exact .inr (.inr (.inr hleft))
    · exact .inr (.inr (.inl hright))
  · rintro (hright | hleft | hright | hleft)
    · exact .inr (.inl hright)
    · exact .inl hleft
    · exact .inr (.inr (.inr hright))
    · exact .inr (.inr (.inl hleft))

/-- Nothing counted, nothing to wait for but a run. -/
theorem waits_zero : Waits R S n 0 0 l ↔ Has R n l ∨ Has S n l := by
  constructor
  · rintro (hbegins | hbegins | hhas)
    · exact .inl hbegins.has
    · exact .inr hbegins.has
    · exact hhas
  · intro hhas
    exact .inr (.inr hhas)

theorem not_waits_nil : ¬ Waits R S n left right ([] : List α) := by
  simp [Waits]

theorem not_waits_singleton (hleft : left < n) (hright : right < n) :
    ¬ Waits R S n left right [a] := by
  obtain ⟨j, hj⟩ : ∃ j, n - left = j + 1 := ⟨n - left - 1, by omega⟩
  obtain ⟨k, hk⟩ : ∃ k, n - right = k + 1 := ⟨n - right - 1, by omega⟩
  obtain ⟨m, rfl⟩ : ∃ m, n = m + 1 := ⟨n - 1, by omega⟩
  unfold Waits
  rw [hj, hk, has_cons, has_cons]
  simp

/-- A step of `R` ends the steps of `S`. -/
theorem waits_left (hleft : left < n) (hright : right < n) (hstep : R a b) (hother : ¬ S a b) :
    Waits R S n left right (a :: b :: l) ↔ n ≤ left + 1 ∨ Waits R S n (left + 1) 0 (b :: l) := by
  obtain ⟨j, hj⟩ : ∃ j, n - left = j + 1 := ⟨n - left - 1, by omega⟩
  obtain ⟨k, hk⟩ : ∃ k, n - right = k + 1 := ⟨n - right - 1, by omega⟩
  obtain ⟨m, rfl⟩ : ∃ m, n = m + 1 := ⟨n - 1, by omega⟩
  have hrest : m + 1 - (left + 1) = j := by omega
  unfold Waits
  rw [hj, hk, hrest, begins_succ, begins_succ, has_succ, has_succ]
  simp only [hstep, hother, true_and, false_and, false_or]
  constructor
  · rintro (hbegins | (hbegins | hhas) | hhas)
    · exact .inr (.inl hbegins)
    · exact .inr (.inl (hbegins.of_le (by omega)))
    · exact .inr (.inr (.inr (.inl hhas)))
    · exact .inr (.inr (.inr (.inr hhas)))
  · rintro (hlast | hbegins | hbegins | hhas | hhas)
    · have hzero : j = 0 := by omega
      rw [hzero]
      exact .inl begins_zero
    · exact .inl hbegins
    · exact .inr (.inr hbegins.has)
    · exact .inr (.inl (.inr hhas))
    · exact .inr (.inr hhas)

theorem waits_right (hleft : left < n) (hright : right < n) (hstep : S a b) (hother : ¬ R a b) :
    Waits R S n left right (a :: b :: l) ↔ n ≤ right + 1 ∨ Waits R S n 0 (right + 1) (b :: l) := by
  rw [waits_comm, waits_left hright hleft hstep hother, waits_comm]

/-- A pair that is no step ends both. -/
theorem waits_reset (hleft : left < n) (hright : right < n) (hR : ¬ R a b) (hS : ¬ S a b) :
    Waits R S n left right (a :: b :: l) ↔ Waits R S n 0 0 (b :: l) := by
  obtain ⟨j, hj⟩ : ∃ j, n - left = j + 1 := ⟨n - left - 1, by omega⟩
  obtain ⟨k, hk⟩ : ∃ k, n - right = k + 1 := ⟨n - right - 1, by omega⟩
  rw [waits_zero]
  obtain ⟨m, rfl⟩ : ∃ m, n = m + 1 := ⟨n - 1, by omega⟩
  unfold Waits
  rw [hj, hk, begins_succ, begins_succ, has_succ, has_succ]
  simp only [hR, hS, false_and, false_or]

end Counters

/-- The windows of a given length are the infixes of that length. -/
theorem mem_windows {n : Nat} {l window : List α} :
    window ∈ (List.range (l.length + 1 - n)).map (fun index => (l.drop index).take n) ↔
      window.length = n ∧ window <:+: l := by
  rw [List.mem_map]
  constructor
  · rintro ⟨index, hindex, rfl⟩
    rw [List.mem_range] at hindex
    refine ⟨?_, ?_⟩
    · rw [List.length_take, List.length_drop]
      omega
    · exact (List.take_prefix _ _).isInfix.trans (List.drop_suffix _ _).isInfix
  · rintro ⟨hlength, before, after, rfl⟩
    refine ⟨before.length, ?_, ?_⟩
    · rw [List.mem_range]
      simp only [List.length_append]
      omega
    · rw [List.append_assoc, List.drop_left, ← hlength, List.take_left]

end Runs

end Effects

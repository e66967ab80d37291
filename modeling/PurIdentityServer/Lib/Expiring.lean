import Mathlib.Order.WithBot
import PurIdentityServer.Lib.Table

/-!
# Expiring — a table whose rows are kept until they expire

A table of rows with an expiry, under a clock that only moves forward. A
purge drops the rows that have expired. Each row is saved with a promise,
a moment it does not expire before, and never replaces a row that
promises more. Over any such run, a saved row is found again, under its
key and promising as much, until the moment it promised has passed
(`kept`); and a row that is found was once saved (`origin`). A cache of
one-time tokens promises the whole life of its rows; a list of
revocations need only promise the life of the tokens of interest.
-/

namespace Effects

namespace Expiring

variable {κ V τ : Type} [DecidableEq κ] [LinearOrder τ] {key : V → κ} (expires : V → τ)
  (promise : V → WithBot τ)

/-- Drop the rows that have expired. -/
def purge (t : Table key) (now : τ) : Table key := t.filter fun v => now < expires v

theorem find_purge (t : Table key) (now : τ) (k : κ) :
    (purge expires t now).find k = (t.find k).filter fun v => now < expires v :=
  Table.find_filter t _ k

/-- The tables of a run: what was saved in it, the clock, and the rows. -/
inductive Run : List V → τ → Table key → Prop
  | start (now : τ) : Run [] now Table.empty
  | wait {saved : List V} {now later : τ} {t : Table key} (run : Run saved now t)
      (le : now ≤ later) : Run saved later t
  | save {saved : List V} {now : τ} {t : Table key} (v : V) (run : Run saved now t)
      (outlives : promise v ≤ expires v)
      (extends_ : ∀ u, t.find (key v) = some u → promise u ≤ promise v) :
      Run (saved ++ [v]) now (t.save v)
  | purge {saved : List V} {now : τ} {t : Table key} (run : Run saved now t) :
      Run saved now (purge expires t now)

variable {expires promise} {saved : List V} {now : τ} {t : Table key}

/-- A row that is found was saved in the run. -/
theorem origin (h : Run expires promise saved now t) :
    ∀ k u, t.find k = some u → u ∈ saved := by
  induction h with
  | start now =>
      intro k u hfind
      cases hfind
  | wait run le ih => exact ih
  | @save saved now t w run outlives hextends ih =>
      intro k u hfind
      rw [Table.find_save] at hfind
      split at hfind
      · cases hfind
        simp
      · exact List.mem_append_left _ (ih k u hfind)
  | @purge saved now t run ih =>
      intro k u hfind
      rw [find_purge] at hfind
      exact ih k u (Option.filter_eq_some_iff.mp hfind).1

theorem outlives (h : Run expires promise saved now t) :
    ∀ v ∈ saved, promise v ≤ expires v := by
  induction h with
  | start now =>
      intro v hmem
      cases hmem
  | wait run le ih => exact ih
  | @save saved now t w run outlives hextends ih =>
      intro v hmem
      rcases List.mem_append.mp hmem with hold | hnew
      · exact ih v hold
      · rw [List.mem_singleton.mp hnew]
        exact outlives
  | purge run ih => exact ih

/-- What a row promised is kept: it is there, promising as much, or the moment has passed. -/
def Kept (promise : V → WithBot τ) (t : Table key) (now : τ) (v : V) : Prop :=
  (∃ u, t.find (key v) = some u ∧ promise v ≤ promise u) ∨ promise v ≤ now

theorem Kept.save {v w : V} (h : Kept promise t now v)
    (hextends : ∀ u, t.find (key w) = some u → promise u ≤ promise w) :
    Kept promise (t.save w) now v := by
  rcases h with ⟨u, hfind, hle⟩ | hexpired
  · left
    by_cases hkey : key v = key w
    · rw [hkey] at hfind ⊢
      exact ⟨w, Table.find_save_self t w, le_trans hle (hextends u hfind)⟩
    · exact ⟨u, (Table.find_save_of_ne t hkey).trans hfind, hle⟩
  · exact .inr hexpired

theorem Kept.purge {v : V} (h : Kept promise t now v)
    (houtlives : ∀ k u, t.find k = some u → promise u ≤ expires u) :
    Kept promise (Expiring.purge expires t now) now v := by
  rcases h with ⟨u, hfind, hle⟩ | hexpired
  · by_cases hlive : now < expires u
    · left
      refine ⟨u, ?_, hle⟩
      rw [find_purge, hfind]
      simp [hlive]
    · right
      calc promise v ≤ promise u := hle
        _ ≤ expires u := houtlives _ u hfind
        _ ≤ now := WithBot.coe_le_coe.mpr (not_lt.mp hlive)
  · exact .inr hexpired

/-- Over a run, what every saved row promised is kept. -/
theorem kept (h : Run expires promise saved now t) : ∀ v ∈ saved, Kept promise t now v := by
  induction h with
  | start now =>
      intro v hmem
      cases hmem
  | wait run le ih =>
      intro v hmem
      rcases ih v hmem with hfound | hexpired
      · exact .inl hfound
      · exact .inr (le_trans hexpired (WithBot.coe_le_coe.mpr le))
  | @save saved now t w run _ hextends ih =>
      intro v hmem
      rcases List.mem_append.mp hmem with hold | hnew
      · exact (ih v hold).save hextends
      · rw [List.mem_singleton.mp hnew]
        exact .inl ⟨w, Table.find_save_self t w, le_refl _⟩
  | @purge saved now t run ih =>
      intro v hmem
      exact (ih v hmem).purge fun k u hfind => outlives run u (origin run k u hfind)

/-- A key that is not found is that of rows whose promises have passed. -/
theorem passed_of_absent (h : Run expires promise saved now t) {v : V} (hmem : v ∈ saved)
    (habsent : t.find (key v) = none) : promise v ≤ now := by
  rcases kept h v hmem with ⟨u, hfind, _⟩ | hexpired
  · rw [habsent] at hfind
    cases hfind
  · exact hexpired

end Expiring

end Effects

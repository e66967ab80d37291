import Mathlib.Data.List.TakeWhile
import PurIdentityServer.Domain.Json

/-!
# Numbers — integers written as JSON text

A number in a claim keeps its text. An integer that was written is read
back by `int()` (`toInt_num`), so a time the server signs is the time it
reads.
-/

namespace PurIdentityServer

namespace Json

/-- Digits spell the number they are the digits of. -/
theorem foldl_digits {cs : List Char} (h : ∀ c ∈ cs, c.isDigit = true) (start : Nat) :
    cs.foldl (fun acc c =>
      acc.bind fun n => if c.isDigit then some (10 * n + (c.toNat - 48)) else none) (some start) =
      some (Nat.ofDigitChars 10 cs start) := by
  induction cs generalizing start with
  | nil => rfl
  | cons c rest ih =>
      have hdigit := h c List.mem_cons_self
      have hrest : ∀ d ∈ rest, d.isDigit = true := fun d hd => h d (List.mem_cons_of_mem _ hd)
      rw [List.foldl_cons, Option.bind_some, if_pos hdigit, ih hrest, Nat.ofDigitChars_cons]
      rfl

theorem digits_toDigits (n : Nat) : digits (Nat.toDigits 10 n) = some n := by
  have hall : ∀ c ∈ Nat.toDigits 10 n, c.isDigit = true :=
    fun c hc => Nat.isDigit_of_mem_toDigits (by omega) (by omega) hc
  have hread := foldl_digits hall 0
  rw [Nat.ofDigitChars_toDigits (by omega) (by omega)] at hread
  cases hdigits : Nat.toDigits 10 n with
  | nil => exact absurd hdigits Nat.toDigits_ne_nil
  | cons c rest =>
      rw [hdigits] at hread
      exact hread

/-- A list of characters without an exponent and a fraction. -/
theorem truncated_ofList {cs : List Char} {n : Int} (hsigned : signedDigits cs = some n)
    (hplain : ∀ c ∈ cs, c ≠ 'e' ∧ c ≠ 'E' ∧ c ≠ '.') : truncated (String.ofList cs) = n := by
  have hmantissa : (cs.takeWhile fun c => c ≠ 'e' && c ≠ 'E') = cs := by
    refine List.takeWhile_eq_self_iff.mpr fun c hc => ?_
    have := hplain c hc
    simp [this.1, this.2.1]
  have hwhole : cs.takeWhile (fun c => decide (c ≠ '.')) = cs := by
    refine List.takeWhile_eq_self_iff.mpr fun c hc => ?_
    simp [(hplain c hc).2.2]
  have hdrop : cs.drop (cs.length + 1) = [] := List.drop_eq_nil_of_le (Nat.le_succ _)
  have hnone : signedDigits [] = none := rfl
  unfold truncated
  rw [String.toList_ofList]
  dsimp only
  rw [hmantissa, hwhole, hdrop, hnone, List.append_nil, hsigned]
  simp [scale, Int.pow]

theorem signedDigits_repr (n : Nat) : signedDigits (Nat.toDigits 10 n) = some (n : Int) := by
  have hall : ∀ c ∈ Nat.toDigits 10 n, c.isDigit = true :=
    fun c hc => Nat.isDigit_of_mem_toDigits (by omega) (by omega) hc
  have hread := digits_toDigits n
  cases hdigits : Nat.toDigits 10 n with
  | nil => exact absurd hdigits Nat.toDigits_ne_nil
  | cons c rest =>
      rw [hdigits] at hread hall
      have hdigit := hall c List.mem_cons_self
      unfold signedDigits
      split
      · rename_i h
        cases h
        exact absurd hdigit (by decide)
      · rename_i h
        cases h
        exact absurd hdigit (by decide)
      · rw [hread]
        rfl

/-- A digit is none of the marks of a number. -/
theorem plain_of_isDigit {c : Char} (h : c.isDigit = true) : c ≠ 'e' ∧ c ≠ 'E' ∧ c ≠ '.' := by
  refine ⟨?_, ?_, ?_⟩
  · rintro rfl
    exact absurd h (by decide)
  · rintro rfl
    exact absurd h (by decide)
  · rintro rfl
    exact absurd h (by decide)

/-- `int()` of an integer that was written. -/
theorem toInt_num (n : Int) : toInt (.num (toString n)) = .ok n := by
  have hall : ∀ k : Nat, ∀ c ∈ Nat.toDigits 10 k, c ≠ 'e' ∧ c ≠ 'E' ∧ c ≠ '.' :=
    fun k c hc => plain_of_isDigit (Nat.isDigit_of_mem_toDigits (by omega) (by omega) hc)
  show Except.ok (truncated (toString n)) = .ok n
  congr 1
  cases n with
  | ofNat k =>
      exact truncated_ofList (signedDigits_repr k) (hall k)
  | negSucc k =>
      have hminus : toString (Int.negSucc k) = String.ofList ('-' :: Nat.toDigits 10 (k + 1)) := by
        apply String.toList_inj.mp
        show ("-" ++ Nat.repr (k + 1)).toList = _
        rw [String.toList_append, Nat.toList_repr]
        simp
      rw [hminus]
      refine truncated_ofList ?_ ?_
      · simp only [signedDigits, digits_toDigits]
        rfl
      · intro c hc
        rcases List.mem_cons.mp hc with rfl | hc
        · decide
        · exact hall _ c hc

end Json

end PurIdentityServer

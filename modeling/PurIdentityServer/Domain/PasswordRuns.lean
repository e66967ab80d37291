import PurIdentityServer.Domain.PasswordPolicy
import PurIdentityServer.Lib.Runs

/-!
# PasswordRuns — what the scans of a password find

`alnumRun` counts the steps it has just made up and down, and answers as
soon as one counter reaches three; it sees exactly the passwords with four
neighbours that progress by one (`alnumRun_iff`). The windows of a keyboard
row are its four-letter pieces, read both ways (`hasRowRun_iff`). A password
without violations is one that meets every rule of the policy that is on
(`password_conforms`).
-/

namespace PurIdentityServer

open Effects

namespace Identity

variable {characters : Characters}

/-! ## Runs of characters -/

/-- The two are alphanumeric, and the second is the next code point. -/
def Ascends (characters : Characters) (previous current : Char) : Prop :=
  characters.isAlnum previous = true ∧ characters.isAlnum current = true ∧
    current.toNat = previous.toNat + 1

/-- The two are alphanumeric, and the second is the code point before. -/
def Descends (characters : Characters) (previous current : Char) : Prop :=
  characters.isAlnum previous = true ∧ characters.isAlnum current = true ∧
    current.toNat + 1 = previous.toNat

instance {previous current : Char} : Decidable (Ascends characters previous current) :=
  inferInstanceAs (Decidable (_ ∧ _ ∧ _))

instance {previous current : Char} : Decidable (Descends characters previous current) :=
  inferInstanceAs (Decidable (_ ∧ _ ∧ _))

theorem not_descends_of_ascends {previous current : Char}
    (h : Ascends characters previous current) : ¬ Descends characters previous current := by
  rintro ⟨-, -, hdescends⟩
  have hascends := h.2.2
  omega

theorem alnumRun_cons {previous current : Char} {rest : List Char} {ascending descending : Nat} :
    alnumRun characters (previous :: current :: rest) ascending descending =
      let up := if Ascends characters previous current then ascending + 1 else 0
      let down := if Descends characters previous current then descending + 1 else 0
      if 3 ≤ max up down then true else alnumRun characters (current :: rest) up down := by
  rw [alnumRun]
  simp only [Ascends, Descends, Bool.and_eq_true, decide_eq_true_eq, and_assoc, sequenceMinRun,
    Nat.reduceSub]
  rfl

/-- The scan answers what its counters wait for. -/
theorem alnumRun_waits {value : List Char} {ascending descending : Nat} (hup : ascending < 3)
    (hdown : descending < 3) :
    alnumRun characters value ascending descending = true ↔
      Runs.Waits (Ascends characters) (Descends characters) 3 ascending descending value := by
  induction value generalizing ascending descending with
  | nil =>
      simp only [alnumRun, Bool.false_eq_true, false_iff]
      exact Runs.not_waits_nil
  | cons previous rest ih =>
      cases rest with
      | nil =>
          simp only [alnumRun, Bool.false_eq_true, false_iff]
          exact Runs.not_waits_singleton hup hdown
      | cons current rest =>
          rw [alnumRun_cons]
          by_cases hascends : Ascends characters previous current
          · have hdescends := not_descends_of_ascends hascends
            rw [Runs.waits_left hup hdown hascends hdescends]
            simp only [hascends, hdescends, if_true, if_false, Nat.max_zero]
            by_cases hlast : 3 ≤ ascending + 1
            · simp [hlast]
            · rw [if_neg hlast, ih (by omega) (by omega)]
              simp [hlast]
          · by_cases hdescends : Descends characters previous current
            · rw [Runs.waits_right hup hdown hdescends hascends]
              simp only [hascends, hdescends, if_true, if_false, Nat.zero_max]
              by_cases hlast : 3 ≤ descending + 1
              · simp [hlast]
              · rw [if_neg hlast, ih (by omega) (by omega)]
                simp [hlast]
            · rw [Runs.waits_reset hup hdown hascends hdescends]
              simp only [hascends, hdescends, if_false, Nat.max_self]
              rw [if_neg (by omega), ih (by omega) (by omega)]

/-- Four neighbours that progress by one code point, up or down. -/
def HasAlnumRun (characters : Characters) (value : List Char) : Prop :=
  ∃ window, window <:+: value ∧ window.length = 4 ∧ (∀ c ∈ window, characters.isAlnum c = true) ∧
    (window.IsChain (fun previous current => current.toNat = previous.toNat + 1) ∨
      window.IsChain fun previous current => current.toNat + 1 = previous.toNat)

/-- A chain of steps is a chain of alphanumeric characters. -/
theorem isChain_alnum {step : Char → Char → Prop} {window : List Char} (hlong : 2 ≤ window.length) :
    window.IsChain (fun previous current => characters.isAlnum previous = true ∧
        characters.isAlnum current = true ∧ step previous current) ↔
      (∀ c ∈ window, characters.isAlnum c = true) ∧ window.IsChain step := by
  induction window with
  | nil => simp
  | cons first rest ih =>
      cases rest with
      | nil => simp at hlong
      | cons second rest =>
          cases rest with
          | nil =>
              simp only [List.isChain_cons_cons, List.isChain_singleton, and_true, List.mem_cons,
                List.not_mem_nil, or_false, forall_eq_or_imp, forall_eq]
              exact and_assoc.symm
          | cons third rest =>
              rw [List.isChain_cons_cons, ih (by simp), List.forall_mem_cons (a := first),
                List.isChain_cons_cons (a := first)]
              constructor
              · rintro ⟨⟨hfirst, -, hstep⟩, hrest, hchain⟩
                exact ⟨⟨hfirst, hrest⟩, hstep, hchain⟩
              · rintro ⟨⟨hfirst, hrest⟩, hstep, hchain⟩
                exact ⟨⟨hfirst, hrest second List.mem_cons_self, hstep⟩, hrest, hchain⟩

/-- The scan of neighbours finds exactly the runs of four characters. -/
theorem alnumRun_iff {value : List Char} :
    alnumRun characters value 0 0 = true ↔ HasAlnumRun characters value := by
  rw [alnumRun_waits (by omega) (by omega), Runs.waits_zero]
  unfold HasAlnumRun Runs.Has Ascends Descends
  constructor
  · rintro (⟨window, hinfix, hlength, hchain⟩ | ⟨window, hinfix, hlength, hchain⟩)
    · rw [isChain_alnum (by omega)] at hchain
      exact ⟨window, hinfix, hlength, hchain.1, .inl hchain.2⟩
    · rw [isChain_alnum (by omega)] at hchain
      exact ⟨window, hinfix, hlength, hchain.1, .inr hchain.2⟩
  · rintro ⟨window, hinfix, hlength, halnum, hchain | hchain⟩
    · refine .inl ⟨window, hinfix, hlength, ?_⟩
      rw [isChain_alnum (by omega)]
      exact ⟨halnum, hchain⟩
    · refine .inr ⟨window, hinfix, hlength, ?_⟩
      rw [isChain_alnum (by omega)]
      exact ⟨halnum, hchain⟩

/-! ## Runs of a keyboard row -/

/-- Four letters of the row, or of the row read backwards, stand in the value. -/
def HasRowRun (value row : String) : Prop :=
  ∃ window : List Char, window.length = 4 ∧
    (window <:+: row.toList ∨ window <:+: row.toList.reverse) ∧ window <:+: value.toList

theorem mem_rowWindows {row : String} {window : List Char} :
    window ∈ rowWindows row ↔
      window.length = 4 ∧ (window <:+: row.toList ∨ window <:+: row.toList.reverse) := by
  unfold rowWindows sequenceMinRun
  rw [← String.length_toList, List.mem_append, Runs.mem_windows, List.mem_map]
  constructor
  · rintro (⟨hlength, hinfix⟩ | ⟨forward, hforward, rfl⟩)
    · exact ⟨hlength, .inl hinfix⟩
    · rw [Runs.mem_windows] at hforward
      rw [List.length_reverse, List.reverse_infix]
      exact ⟨hforward.1, .inr hforward.2⟩
  · rintro ⟨hlength, hinfix | hinfix⟩
    · exact .inl ⟨hlength, hinfix⟩
    · refine .inr ⟨window.reverse, ?_, List.reverse_reverse window⟩
      rw [Runs.mem_windows, List.length_reverse, ← List.reverse_infix, List.reverse_reverse]
      exact ⟨hlength, hinfix⟩

/-- The windows of a row are looked for in the whole value. -/
theorem hasRowRun_iff {value row : String} : hasRowRun value row = true ↔ HasRowRun value row := by
  unfold hasRowRun HasRowRun
  rw [List.any_eq_true]
  constructor
  · rintro ⟨window, hwindow, hvalue⟩
    obtain ⟨hlength, hrow⟩ := mem_rowWindows.mp hwindow
    exact ⟨window, hlength, hrow, of_decide_eq_true hvalue⟩
  · rintro ⟨window, hlength, hrow, hvalue⟩
    exact ⟨window, mem_rowWindows.mpr ⟨hlength, hrow⟩, decide_eq_true hvalue⟩

/-! ## The rules of a policy -/

/-- The text stands in the password. -/
def Occurs (needle value : String) : Prop := needle.toList <:+: value.toList

/-- The lowercased password contains the email, or its local part of three characters or more. -/
def ContainsEmail (characters : Characters) (password email : String) : Prop :=
  let localPart := String.ofList ((characters.lower email).toList.takeWhile (· ≠ '@'))
  email ≠ "" ∧ (Occurs (characters.lower email) (characters.lower password) ∨
    3 ≤ localPart.length ∧ Occurs localPart (characters.lower password))

/-- The password meets every rule of the policy that is on. -/
structure Conforms (characters : Characters) (policy : PasswordPolicy) (password email : String) :
    Prop where
  longEnough : policy.minLength ≤ password.length
  shortEnough : password.length ≤ policy.maxLength
  uppercase : policy.minUppercase ≤ password.toList.countP characters.isUpper
  lowercase : policy.minLowercase ≤ password.toList.countP characters.isLower
  digits : policy.minDigits ≤ password.toList.countP characters.isDigit
  special : policy.minSpecial ≤ password.toList.countP fun c => !characters.isAlnum c
  uncommon : policy.denyCommonPasswords = true →
    Text.strip (characters.lower password) ∉ commonPasswords
  noEmail : policy.forbidEmailContainment = true → ¬ ContainsEmail characters password email
  noRun : policy.forbidSequences = true →
    ¬ HasAlnumRun characters (characters.lower password).toList ∧
      ∀ row ∈ keyboardRows, ¬ HasRowRun (characters.lower password) row

theorem containsEmail_iff {password email : String} :
    containsEmail characters password email = true ↔
      ContainsEmail characters password email := by
  unfold containsEmail ContainsEmail
  by_cases hempty : email = ""
  · simp [hempty]
  · rw [if_neg hempty]
    simp only [isSubstring, Occurs, Bool.or_eq_true, Bool.and_eq_true, decide_eq_true_eq, ne_eq,
      hempty, not_false_eq_true, true_and]

theorem hasForbiddenRun_iff {password : String} :
    hasForbiddenRun characters password = true ↔
      HasAlnumRun characters (characters.lower password).toList ∨
        ∃ row ∈ keyboardRows, HasRowRun (characters.lower password) row := by
  unfold hasForbiddenRun
  dsimp only
  rw [Bool.or_eq_true, alnumRun_iff, List.any_eq_true]
  simp only [hasRowRun_iff]

theorem classViolations_eq_nil {policy : PasswordPolicy} {password : String} :
    classViolations characters policy password = [] ↔
      policy.minUppercase ≤ password.toList.countP characters.isUpper ∧
      policy.minLowercase ≤ password.toList.countP characters.isLower ∧
      policy.minDigits ≤ password.toList.countP characters.isDigit ∧
      policy.minSpecial ≤ password.toList.countP fun c => !characters.isAlnum c := by
  unfold classViolations classCounts
  simp only [List.zip_cons_cons, List.zip_nil_right, List.filterMap_eq_nil_iff, List.mem_cons,
    List.not_mem_nil, or_false, forall_eq_or_imp, forall_eq, ite_eq_right_iff, reduceCtorEq,
    imp_false, Nat.not_lt]

/-- No violation, exactly when every rule that is on is met. -/
theorem validate_eq_nil {policy : PasswordPolicy} {password email : String} :
    policy.validate characters password email = [] ↔
      Conforms characters policy password email := by
  unfold PasswordPolicy.validate
  simp only [List.append_eq_nil_iff, violation_eq_nil, decide_eq_false_iff_not, Nat.not_lt,
    classViolations_eq_nil, Bool.and_eq_false_imp]
  simp only [← Bool.not_eq_true, containsEmail_iff, hasForbiddenRun_iff]
  constructor
  · rintro ⟨⟨⟨⟨⟨hlong, hshort⟩, hupper, hlower, hdigits, hspecial⟩, hcommon⟩, hemail⟩, hruns⟩
    refine ⟨hlong, hshort, hupper, hlower, hdigits, hspecial, hcommon, hemail, ?_⟩
    intro hforbid
    exact ⟨fun h => hruns hforbid (.inl h), fun row hrow h => hruns hforbid (.inr ⟨row, hrow, h⟩)⟩
  · rintro ⟨hlong, hshort, hupper, hlower, hdigits, hspecial, hcommon, hemail, hruns⟩
    refine ⟨⟨⟨⟨⟨hlong, hshort⟩, hupper, hlower, hdigits, hspecial⟩, hcommon⟩, hemail⟩, ?_⟩
    rintro hforbid (hrun | ⟨row, hrow, hrun⟩)
    · exact (hruns hforbid).1 hrun
    · exact (hruns hforbid).2 row hrow hrun

/-- The two scans find exactly the runs, and a password has no violation exactly when it meets the
rules of the policy. -/
theorem password_conforms (characters : Characters) :
    (∀ value : List Char, alnumRun characters value 0 0 = true ↔ HasAlnumRun characters value) ∧
    (∀ value row : String, hasRowRun value row = true ↔ HasRowRun value row) ∧
    ∀ (policy : PasswordPolicy) (password email : String),
      policy.validate characters password email = [] ↔
        Conforms characters policy password email :=
  ⟨fun _ => alnumRun_iff, fun _ _ => hasRowRun_iff, fun _ _ _ => validate_eq_nil⟩

end Identity

end PurIdentityServer

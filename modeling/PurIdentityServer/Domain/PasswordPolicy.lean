import PurIdentityServer.Domain.Text

/-!
# PasswordPolicy — the demands on a password

`validate` lists the violations of a submitted password: lengths, counts
of characters by class, the list of common passwords, containment of the
email, runs of consecutive characters and of keyboard rows.
`PasswordPolicyPatch.apply` overrides the policy of the server with the
keys a client sets.

A `PasswordPolicy` carries the bounds `__post_init__` checks, so a policy
out of range cannot be built. What Unicode says of characters
(`str.isupper`, `str.lower`, …) belongs to `Characters`.
-/

namespace PurIdentityServer

namespace Identity

/-- The Unicode tables behind the string methods. -/
structure Characters where
  isUpper : Char → Bool
  isLower : Char → Bool
  isDigit : Char → Bool
  isAlnum : Char → Bool
  lower : String → String

def maxLengthBound : Nat := 1024

def maxHistory : Nat := 20

def sequenceMinRun : Nat := 4

def keyboardRows : List String :=
  ["qwertyuiop", "asdfghjkl", "zxcvbnm", "azertyuiop", "qsdfghjklm", "wxcvbn"]

/-- `_COMMON_PASSWORDS`. -/
def commonPasswords : List String :=
  ["123456", "123456789", "12345678", "1234567890", "password", "passw0rd", "qwerty", "azerty",
    "azertyuiop", "motdepasse", "admin", "login", "welcome", "iloveyou", "monkey", "dragon",
    "letmein", "princess", "football", "baseball", "sunshine", "shadow", "superman", "trustno1",
    "master", "hello", "freedom", "whatever", "starwars", "computer", "secret", "abc123",
    "abcd1234", "111111", "000000", "123123", "654321", "password1", "password123", "p@ssw0rd",
    "p@ssword", "admin123", "root", "toor", "changeme", "default", "guest", "test", "test123",
    "demo", "demo123", "summer", "winter", "spring", "autumn", "january", "february", "december",
    "qwertz", "qsdfgh", "wxcvbn", "1q2w3e4r", "1qaz2wsx", "zaq12wsx", "qazwsx", "asdfgh",
    "zxcvbn", "passer", "bonjour", "coucou", "soleil", "lune", "chocolat", "france", "paris",
    "merde", "connard", "famille", "telephone", "internet", "souris", "clavier", "ordinateur",
    "marseille", "lyon", "bienvenue", "azerty123", "motdepasse123", "informatique", "developpeur",
    "administrateur", "connexion", "inscription"]

/-! ## The policy -/

/-- `PasswordPolicy`, with the checks of `__post_init__`. -/
structure PasswordPolicy where
  minLength : Nat := 12
  maxLength : Nat := 128
  minUppercase : Nat := 1
  minLowercase : Nat := 1
  minDigits : Nat := 1
  minSpecial : Nat := 1
  denyCommonPasswords : Bool := true
  forbidEmailContainment : Bool := true
  forbidSequences : Bool := true
  historyDepth : Nat := 5
  lengths : 1 ≤ minLength ∧ minLength ≤ maxLength ∧ maxLength ≤ maxLengthBound := by decide
  classes : minUppercase ≤ maxLengthBound ∧ minLowercase ≤ maxLengthBound ∧
    minDigits ≤ maxLengthBound ∧ minSpecial ≤ maxLengthBound := by decide
  history : historyDepth ≤ maxHistory := by decide
  deriving DecidableEq

/-- `_class_counts`, by label. -/
def classCounts (characters : Characters) (password : String) : List (String × Nat) :=
  [("majuscule", password.toList.countP characters.isUpper),
    ("minuscule", password.toList.countP characters.isLower),
    ("chiffre", password.toList.countP characters.isDigit),
    ("caractère spécial", password.toList.countP fun c => !characters.isAlnum c)]

/-- `_class_violations`. -/
def classViolations (characters : Characters) (policy : PasswordPolicy) (password : String) :
    List String :=
  let minimums := [policy.minUppercase, policy.minLowercase, policy.minDigits, policy.minSpecial]
  ((classCounts characters password).zip minimums).filterMap fun ((label, count), minimum) =>
    if count < minimum then
      some s!"{minimum} {label}(s) minimum (actuel : {count})"
    else none

/-- `needle in value` on strings. -/
def isSubstring (needle value : String) : Bool := decide (needle.toList <:+: value.toList)

/-- `_contains_email`. -/
def containsEmail (characters : Characters) (password email : String) : Bool :=
  if email = "" then false
  else
    let lowered := characters.lower password
    let whole := characters.lower email
    let localPart := String.ofList (whole.toList.takeWhile (· ≠ '@'))
    isSubstring whole lowered || (3 ≤ localPart.length && isSubstring localPart lowered)

/-- The loop of `_has_alnum_run` over the pairs of neighbours. -/
def alnumRun (characters : Characters) : List Char → (ascending descending : Nat) → Bool
  | previous :: current :: rest, ascending, descending =>
      let both := characters.isAlnum previous && characters.isAlnum current
      let ascending := if both && current.toNat = previous.toNat + 1 then ascending + 1 else 0
      let descending := if both && current.toNat + 1 = previous.toNat then descending + 1 else 0
      if sequenceMinRun - 1 ≤ max ascending descending then true
      else alnumRun characters (current :: rest) ascending descending
  | _, _, _ => false

/-- The windows of `_has_row_run`, both ways. -/
def rowWindows (row : String) : List (List Char) :=
  let windows := (List.range (row.length + 1 - sequenceMinRun)).map fun index =>
    (row.toList.drop index).take sequenceMinRun
  windows ++ windows.map List.reverse

/-- `_has_row_run`. -/
def hasRowRun (value row : String) : Bool :=
  (rowWindows row).any fun window => decide (window <:+: value.toList)

/-- `_has_forbidden_run`. -/
def hasForbiddenRun (characters : Characters) (password : String) : Bool :=
  let lowered := characters.lower password
  alnumRun characters lowered.toList 0 0 || keyboardRows.any (hasRowRun lowered)

/-- The violation of one rule, or none. -/
def violation (broken : Bool) (message : String) : List String :=
  if broken then [message] else []

/-- `PasswordPolicy.validate`. -/
def PasswordPolicy.validate (policy : PasswordPolicy) (characters : Characters)
    (password email : String) : List String :=
  violation (password.length < policy.minLength)
    s!"{policy.minLength} caractères minimum (actuel : {password.length})" ++
  violation (policy.maxLength < password.length)
    s!"pas plus de {policy.maxLength} caractères (actuel : {password.length})" ++
  classViolations characters policy password ++
  violation
    (policy.denyCommonPasswords && Text.strip (characters.lower password) ∈ commonPasswords)
    "mot de passe trop courant (listes de fuites connues)" ++
  violation (policy.forbidEmailContainment && containsEmail characters password email)
    "mot de passe interdit : il contient l'adresse email" ++
  violation (policy.forbidSequences && hasForbiddenRun characters password)
    "suite de caractères interdite (ex. 1234, abcd, azerty — 4+ consécutifs)"

/-! ## Overrides -/

/-- `PasswordPolicyPatch`: the keys a client sets (a negative value, which
`apply` refuses as well, is left out). -/
structure PasswordPolicyPatch where
  minLength : Option Nat := none
  maxLength : Option Nat := none
  minUppercase : Option Nat := none
  minLowercase : Option Nat := none
  minDigits : Option Nat := none
  minSpecial : Option Nat := none
  denyCommonPasswords : Option Bool := none
  forbidEmailContainment : Option Bool := none
  forbidSequences : Option Bool := none
  historyDepth : Option Nat := none

/-- `PasswordPolicyPatch.apply`; `none` is the `ValueError` of a merged policy
out of range. -/
def PasswordPolicyPatch.apply (patch : PasswordPolicyPatch) (base : PasswordPolicy) :
    Option PasswordPolicy :=
  let minLength := patch.minLength.getD base.minLength
  let maxLength := patch.maxLength.getD base.maxLength
  let minUppercase := patch.minUppercase.getD base.minUppercase
  let minLowercase := patch.minLowercase.getD base.minLowercase
  let minDigits := patch.minDigits.getD base.minDigits
  let minSpecial := patch.minSpecial.getD base.minSpecial
  let historyDepth := patch.historyDepth.getD base.historyDepth
  if lengths : 1 ≤ minLength ∧ minLength ≤ maxLength ∧ maxLength ≤ maxLengthBound then
    if classes : minUppercase ≤ maxLengthBound ∧ minLowercase ≤ maxLengthBound ∧
        minDigits ≤ maxLengthBound ∧ minSpecial ≤ maxLengthBound then
      if history : historyDepth ≤ maxHistory then
        some
          { minLength := minLength, maxLength := maxLength, minUppercase := minUppercase
            minLowercase := minLowercase, minDigits := minDigits, minSpecial := minSpecial
            denyCommonPasswords := patch.denyCommonPasswords.getD base.denyCommonPasswords
            forbidEmailContainment :=
              patch.forbidEmailContainment.getD base.forbidEmailContainment
            forbidSequences := patch.forbidSequences.getD base.forbidSequences
            historyDepth := historyDepth, lengths := lengths, classes := classes
            history := history }
      else none
    else none
  else none

/-! ## Emails -/

theorem violation_eq_nil {broken : Bool} {message : String} :
    violation broken message = [] ↔ broken = false := by
  cases broken with
  | false => exact ⟨fun _ => rfl, fun _ => rfl⟩
  | true => exact ⟨nofun, nofun⟩

/-- Only the containment rule reads the email: a password that conforms with
one email conforms with another exactly when it does not contain it. -/
theorem PasswordPolicy.validate_email {policy : PasswordPolicy} {characters : Characters}
    {password email : String} (h : policy.validate characters password email = [])
    (other : String) :
    policy.validate characters password other = [] ↔
      ¬ (policy.forbidEmailContainment = true ∧
        containsEmail characters password other = true) := by
  simp only [validate, List.append_eq_nil_iff, violation_eq_nil] at h ⊢
  obtain ⟨⟨⟨⟨⟨hmin, hmax⟩, hclasses⟩, hcommon⟩, -⟩, hruns⟩ := h
  simp only [hmin, hmax, hclasses, hcommon, hruns, and_true, true_and, Bool.and_eq_false_iff]
  cases policy.forbidEmailContainment with
  | false => simp
  | true => simp

end Identity

end PurIdentityServer

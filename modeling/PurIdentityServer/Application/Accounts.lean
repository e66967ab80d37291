import PurIdentityServer.Lib.Dict
import PurIdentityServer.Lib.Table
import PurIdentityServer.Domain.PasswordPolicy

/-!
# Accounts — creation of accounts and resets of passwords

The accounts of the server are created on the sign-up page, by the JSON
registration and from the seed; `resetPassword` changes a password under
a reset token. A run is any sequence of these requests, and its trace
records every password an account was given.

`Tracks` relates an account to the trace: its fingerprint is the one of
its last password, its history holds the fingerprints of the passwords
before that one, down to the configured depth.
-/

namespace PurIdentityServer

namespace Identity

open Effects

/-! ## Accounts -/

/-- A row of the table `user`; `id` is the draw of its `uuid4`. -/
structure User where
  id : Nat
  email : String
  hashedPassword : String
  passwordHistory : List String := []
  isActive : Bool := true
  deriving DecidableEq, Repr

/-- The libraries: `PasswordHelper` with a numbered salt, `EmailStr`,
`BaseUserManager.validate_password`, the signer of reset tokens, `uuid.UUID`,
`str` and `parse_qs`. -/
structure AccountLibrary where
  characters : Characters
  hash : Nat → String → String
  verify : String → String → Bool
  validateEmail : String → Option String
  validatePassword : String → Bool
  readResetToken : Instant → String → Option (List (String × Json))
  parseId : String → Option Nat
  str : Json → String
  clientIdFromNext : String → String

/-- `PasswordHelper` is correct: a password verifies against a fingerprint of
itself and of no other. -/
def AccountLibrary.HashesCorrectly (lib : AccountLibrary) : Prop :=
  ∀ salt password candidate, lib.verify candidate (lib.hash salt password) = true ↔
    candidate = password

/-- The server: `settings.password_policy` and the overrides of the clients. -/
structure AccountServer where
  lib : AccountLibrary
  policy : PasswordPolicy
  clients : String → Option PasswordPolicyPatch

structure AccountWorld where
  users : Table User.id := .empty
  draws : Nat := 0

/-- How an account was created. -/
inductive EntryPoint where
  | signup
  | register
  | seed
  deriving DecidableEq, Repr

/-- A password given to an account, the policy configured where it was
submitted and the email of the account. -/
inductive AccountEvent where
  | created (entry : EntryPoint) (id : Nat) (policy : PasswordPolicy) (password email : String)
  | changed (id : Nat) (password email : String)
  deriving DecidableEq

def AccountEvent.id : AccountEvent → Nat
  | .created _ id _ _ _ => id
  | .changed id _ _ => id

def AccountEvent.password : AccountEvent → String
  | .created _ _ _ password _ => password
  | .changed _ password _ => password

inductive AccountOutcome where
  | accepted (event : AccountEvent)
  | formErrors (messages : List String)
  | userAlreadyExists
  | invalidPassword (reason : String)
  | invalidResetPasswordToken
  | userInactive
  | validationError
  /-- An exception no caller handles. -/
  | raised

namespace AccountServer

variable (server : AccountServer)

/-! ## Creation -/

/-- `get_by_email`. -/
def emailTaken (email : String) (w : AccountWorld) : Bool :=
  w.users.rows.any fun user =>
    server.lib.characters.lower user.email = server.lib.characters.lower email

/-- `BaseUserManager.create`. -/
def create (entry : EntryPoint) (policy : PasswordPolicy) (email password : String)
    (w : AccountWorld) : AccountOutcome × AccountWorld :=
  if server.lib.validatePassword password = false then (.invalidPassword "", w)
  else if server.emailTaken email w then (.userAlreadyExists, w)
  else
    (.accepted (.created entry w.draws policy password email),
      { users := w.users.save
          { id := w.draws, email := email, hashedPassword := server.lib.hash w.draws password }
        draws := w.draws + 1 })

/-- `_resolve_signup_policy` with `resolve_password_policy`; `none` when the
merged policy is out of range. -/
def resolveSignupPolicy (clientId : String) : Option PasswordPolicy :=
  if clientId = "" then some server.policy
  else
    match server.clients clientId with
    | none => some server.policy
    | some patch => patch.apply server.policy

/-- `POST /signup`, up to the session. -/
def signup (email password nextUrl clientId : String) (w : AccountWorld) :
    AccountOutcome × AccountWorld :=
  let flowClient := if clientId = "" then server.lib.clientIdFromNext nextUrl else clientId
  match server.resolveSignupPolicy flowClient with
  | none => (.raised, w)
  | some policy =>
      let violations := policy.validate server.lib.characters password email
      if violations ≠ [] then (.formErrors violations, w)
      else
        match server.lib.validateEmail email with
        | none => (.formErrors ["adresse email invalide"], w)
        | some address =>
            match server.create .signup policy address password w with
            | (.userAlreadyExists, w) =>
                (.formErrors ["cette adresse email est déjà inscrite"], w)
            | (.invalidPassword _, w) => (.formErrors ["mot de passe refusé par le serveur"], w)
            | answer => answer

/-- `POST /auth/register`. -/
def register (email password : String) (w : AccountWorld) : AccountOutcome × AccountWorld :=
  match server.lib.validateEmail email with
  | none => (.validationError, w)
  | some address => server.create .register server.policy address password w

/-- One entry of `seed_users`. -/
def seedUser (email password : String) (w : AccountWorld) : AccountOutcome × AccountWorld :=
  match server.lib.validateEmail email with
  | none => (.raised, w)
  | some address => server.create .seed server.policy address password w

/-! ## Resets -/

/-- `_password_in_history`. -/
def passwordInHistory (user : User) (password : String) (depth : Nat) : Bool :=
  (user.passwordHistory.take depth).any (server.lib.verify password)

/-- The violations of a new password. -/
def resetViolations (user : User) (password : String) : List String :=
  server.policy.validate server.lib.characters password user.email ++
    violation (server.passwordInHistory user password server.policy.historyDepth)
      "mot de passe déjà utilisé (historique récent)"

/-- The account after a reset: the fingerprint that leaves goes to the head of
the history. -/
def withPassword (user : User) (password : String) (salt : Nat) : User :=
  { user with
    hashedPassword := server.lib.hash salt password
    passwordHistory :=
      (user.hashedPassword :: user.passwordHistory).take server.policy.historyDepth }

/-- `reset_password`. -/
def resetPassword (now : Instant) (token password : String) (w : AccountWorld) :
    AccountOutcome × AccountWorld :=
  match server.lib.readResetToken now token with
  | none => (.invalidResetPasswordToken, w)
  | some data =>
      match Dict.get data "sub", Dict.get data "password_fgpt" with
      | some sub, some fingerprint =>
          -- `uuid.UUID` raises `ValueError`, `get` raises `UserNotExists`: neither is caught
          match (server.lib.parseId (server.lib.str sub)).bind w.users.find with
          | none => (.raised, w)
          | some user =>
              if server.lib.verify user.hashedPassword (server.lib.str fingerprint) = false then
                (.invalidResetPasswordToken, w)
              else if user.isActive = false then (.userInactive, w)
              else if server.resetViolations user password ≠ [] then
                (.invalidPassword (Text.join ", " (server.resetViolations user password)), w)
              else if server.lib.validatePassword password = false then (.invalidPassword "", w)
              else
                (.accepted (.changed user.id password user.email),
                  { users := w.users.save (server.withPassword user password w.draws)
                    draws := w.draws + 1 })
      | _, _ => (.invalidResetPasswordToken, w)

end AccountServer

/-! ## Runs -/

inductive AccountRequest where
  | signup (email password nextUrl clientId : String)
  | register (email password : String)
  | seed (email password : String)
  | reset (now : Instant) (token password : String)

/-- How the server serves a request. -/
def AccountServer.serve (server : AccountServer) :
    AccountRequest → AccountWorld → AccountOutcome × AccountWorld
  | .signup email password nextUrl clientId => server.signup email password nextUrl clientId
  | .register email password => server.register email password
  | .seed email password => server.seedUser email password
  | .reset now token password => server.resetPassword now token password

def AccountOutcome.events : AccountOutcome → List AccountEvent
  | .accepted event => [event]
  | _ => []

/-- The trace of the passwords given, last one first, and the accounts after
some requests. -/
inductive AccountRun (server : AccountServer) : List AccountEvent → AccountWorld → Prop
  | start : AccountRun server [] {}
  | step {trace w} (request : AccountRequest) (before : AccountRun server trace w) :
      AccountRun server ((server.serve request w).1.events ++ trace) (server.serve request w).2

/-- The passwords an account was given, the current one first. -/
def passwordsOf (id : Nat) (trace : List AccountEvent) : List String :=
  (trace.filter fun event => event.id = id).map AccountEvent.password

/-- What the policy asks of a password, given what came before it. -/
def Compliant (server : AccountServer) (earlier : List AccountEvent) : AccountEvent → Prop
  | .created .seed _ _ _ _ => True
  | .created _ _ policy password email =>
      policy.validate server.lib.characters password email = []
  | .changed id password email =>
      server.policy.validate server.lib.characters password email = [] ∧
        password ∉ (passwordsOf id earlier).take (server.policy.historyDepth + 1)

/-- What the server leaves to the submitted values: the JSON registration
checks nothing, the sign-up page checks the email as typed, a reset does not
look at the current password. -/
def Submitted (server : AccountServer) (earlier : List AccountEvent) : AccountEvent → Prop
  | .created .seed _ _ _ _ => True
  | .created .register _ policy password email =>
      policy.validate server.lib.characters password email = []
  | .created .signup _ policy password email =>
      ¬ (policy.forbidEmailContainment = true ∧
        containsEmail server.lib.characters password email = true)
  | .changed id password _ => (passwordsOf id earlier).head? ≠ some password

/-! ## What a request does -/

section Requests

variable {server : AccountServer} {w : AccountWorld}

/-- The accounts after a creation. -/
def AccountServer.withUser (server : AccountServer) (email password : String) (w : AccountWorld) :
    AccountWorld :=
  { users := w.users.save
      { id := w.draws, email := email, hashedPassword := server.lib.hash w.draws password }
    draws := w.draws + 1 }

theorem create_cases (entry : EntryPoint) (policy : PasswordPolicy) (email password : String) :
    (server.create entry policy email password w =
      (.accepted (.created entry w.draws policy password email),
        server.withUser email password w)) ∨
    (server.create entry policy email password w = (.invalidPassword "", w)) ∨
    (server.create entry policy email password w = (.userAlreadyExists, w)) := by
  unfold AccountServer.create
  split
  · exact .inr (.inl rfl)
  · split
    · exact .inr (.inr rfl)
    · exact .inl rfl

/-- The event of a request, with the accounts it leaves and what was checked
on the way. -/
inductive Served (server : AccountServer) (w : AccountWorld) :
    List AccountEvent → AccountWorld → Prop
  | quiet : Served server w [] w
  | created (entry : EntryPoint) (policy : PasswordPolicy) (typed email password : String)
      (checked : entry = .signup → policy.validate server.lib.characters password typed = []) :
      Served server w [.created entry w.draws policy password email]
        (server.withUser email password w)
  | changed (user : User) (password : String) (found : w.users.find user.id = some user)
      (checked : server.resetViolations user password = []) :
      Served server w [.changed user.id password user.email]
        { users := w.users.save (server.withPassword user password w.draws)
          draws := w.draws + 1 }

theorem signup_served (email password nextUrl clientId : String) :
    Served server w (server.signup email password nextUrl clientId w).1.events
      (server.signup email password nextUrl clientId w).2 := by
  unfold AccountServer.signup
  dsimp only
  split
  · exact .quiet
  case h_2 policy hpolicy =>
    split
    · exact .quiet
    case isFalse hvalid =>
      split
      · exact .quiet
      case h_2 address haddress =>
        rcases create_cases .signup policy address password with h | h | h
        · rw [h]
          exact .created .signup policy email address password fun _ => not_not.mp hvalid
        · rw [h]
          exact .quiet
        · rw [h]
          exact .quiet

theorem create_served {entry : EntryPoint} (hentry : entry ≠ .signup) (policy : PasswordPolicy)
    (email password : String) :
    Served server w (server.create entry policy email password w).1.events
      (server.create entry policy email password w).2 := by
  rcases create_cases entry policy email password with h | h | h
  · rw [h]
    exact .created entry policy "" email password fun hsignup => absurd hsignup hentry
  · rw [h]
    exact .quiet
  · rw [h]
    exact .quiet

theorem resetPassword_served (now : Instant) (token password : String) :
    Served server w (server.resetPassword now token password w).1.events
      (server.resetPassword now token password w).2 := by
  unfold AccountServer.resetPassword
  split
  · exact .quiet
  · split
    case h_2 => exact .quiet
    case h_1 data sub fingerprint hsub hfingerprint =>
      split
      · exact .quiet
      case h_2 user huser =>
        obtain ⟨id, -, hfind⟩ := Option.bind_eq_some_iff.mp huser
        split
        · exact .quiet
        · split
          · exact .quiet
          · split
            · exact .quiet
            case isFalse hviolations =>
              split
              · exact .quiet
              · have hid : user.id = id := Table.find_key hfind
                exact .changed user password (hid.symm ▸ hfind) (not_not.mp hviolations)

theorem serve_served (request : AccountRequest) :
    Served server w (server.serve request w).1.events (server.serve request w).2 := by
  cases request with
  | signup email password nextUrl clientId => exact signup_served email password nextUrl clientId
  | register email password =>
      show Served server w (server.register email password w).1.events
        (server.register email password w).2
      unfold AccountServer.register
      split
      · exact .quiet
      · have hentry : EntryPoint.register ≠ .signup := nofun
        exact create_served hentry ..
  | seed email password =>
      show Served server w (server.seedUser email password w).1.events
        (server.seedUser email password w).2
      unfold AccountServer.seedUser
      split
      · exact .quiet
      · have hentry : EntryPoint.seed ≠ .signup := nofun
        exact create_served hentry ..
  | reset now token password => exact resetPassword_served now token password

end Requests

/-! ## The history of an account -/

/-- The fingerprint is one of the password. -/
def FingerprintOf (lib : AccountLibrary) (fingerprint password : String) : Prop :=
  ∃ salt, fingerprint = lib.hash salt password

/-- The account against the passwords it was given: its fingerprint is of the
current one, its history of those before, down to the depth. -/
def User.Tracks (server : AccountServer) (trace : List AccountEvent) (user : User) : Prop :=
  ∃ current previous, passwordsOf user.id trace = current :: previous ∧
    FingerprintOf server.lib user.hashedPassword current ∧
    List.Forall₂ (FingerprintOf server.lib) user.passwordHistory
      (previous.take server.policy.historyDepth)

/-- The accounts against the trace; the numbers of the draws to come are new. -/
structure Tracked (server : AccountServer) (trace : List AccountEvent) (w : AccountWorld) :
    Prop where
  drawn : ∀ event ∈ trace, event.id < w.draws
  tracks : ∀ id user, w.users.find id = some user → user.Tracks server trace

section History

variable {server : AccountServer} {trace : List AccountEvent} {w : AccountWorld}

theorem passwordsOf_cons_self (event : AccountEvent) (trace : List AccountEvent) :
    passwordsOf event.id (event :: trace) = event.password :: passwordsOf event.id trace := by
  unfold passwordsOf
  rw [List.filter_cons_of_pos (by simp)]
  rfl

theorem passwordsOf_cons_of_ne {event : AccountEvent} {id : Nat} (hne : event.id ≠ id)
    (trace : List AccountEvent) : passwordsOf id (event :: trace) = passwordsOf id trace := by
  unfold passwordsOf
  rw [List.filter_cons_of_neg (by simpa using hne)]

theorem passwordsOf_fresh {id : Nat} (h : ∀ event ∈ trace, event.id < id) :
    passwordsOf id trace = [] := by
  unfold passwordsOf
  rw [List.map_eq_nil_iff, List.filter_eq_nil_iff]
  intro event hevent heq
  exact absurd (of_decide_eq_true heq) (Nat.ne_of_lt (h event hevent))

/-- A new event says nothing of the other accounts. -/
theorem User.Tracks.cons {user : User} (h : user.Tracks server trace) {event : AccountEvent}
    (hne : event.id ≠ user.id) : user.Tracks server (event :: trace) := by
  obtain ⟨current, previous, hpasswords, hrest⟩ := h
  exact ⟨current, previous, (passwordsOf_cons_of_ne hne trace).trans hpasswords, hrest⟩

theorem User.Tracks.withPassword {user : User} (h : user.Tracks server trace) (password : String)
    (salt : Nat) :
    (server.withPassword user password salt).Tracks server
      (.changed user.id password user.email :: trace) := by
  obtain ⟨current, previous, hpasswords, hcurrent, hprevious⟩ := h
  refine ⟨password, current :: previous, ?_, ⟨salt, rfl⟩, ?_⟩
  · exact (passwordsOf_cons_self (.changed user.id password user.email) trace).trans
      (congrArg _ hpasswords)
  · show List.Forall₂ (FingerprintOf server.lib)
      ((user.hashedPassword :: user.passwordHistory).take server.policy.historyDepth)
      ((current :: previous).take server.policy.historyDepth)
    cases hdepth : server.policy.historyDepth with
    | zero => exact .nil
    | succ depth =>
        rw [hdepth] at hprevious
        have hshort : previous.take depth = (previous.take (depth + 1)).take depth := by
          rw [List.take_take]
          congr 1
          omega
        rw [List.take_succ_cons, List.take_succ_cons, hshort]
        exact .cons hcurrent (List.forall₂_take depth hprevious)

/-- **Step invariant.** -/
theorem Tracked.served {events : List AccountEvent} {w' : AccountWorld}
    (h : Tracked server trace w) (hserved : Served server w events w') :
    Tracked server (events ++ trace) w' := by
  cases hserved with
  | quiet => exact h
  | created entry policy typed email password checked =>
      constructor
      · intro event hevent
        rcases List.mem_cons.mp hevent with rfl | hearlier
        · exact Nat.lt_succ_self _
        · exact Nat.lt_succ_of_lt (h.drawn event hearlier)
      · intro id user hfind
        rw [AccountServer.withUser, Table.find_save] at hfind
        split at hfind
        · cases hfind
          refine ⟨password, [], ?_, ⟨w.draws, rfl⟩, ?_⟩
          · exact (passwordsOf_cons_self
              (.created entry w.draws policy password email) trace).trans
              (congrArg _ (passwordsOf_fresh h.drawn))
          · rw [List.take_nil]
            exact .nil
        case isFalse hne =>
          have hid := Table.find_key hfind
          exact (h.tracks id user hfind).cons fun heq => hne (hid.symm.trans heq.symm)
  | changed user password found checked =>
      have htracks := h.tracks user.id user found
      constructor
      · intro event hevent
        rcases List.mem_cons.mp hevent with rfl | hearlier
        · -- the account was created before: it has a password in the trace
          obtain ⟨current, previous, hpasswords, -⟩ := htracks
          have hmem : current ∈ passwordsOf user.id trace := by
            rw [hpasswords]
            exact List.mem_cons_self
          obtain ⟨event, hevent, -⟩ := List.mem_map.mp hmem
          obtain ⟨hevent, hid⟩ := List.mem_filter.mp hevent
          have hdrawn := h.drawn event hevent
          rw [of_decide_eq_true hid] at hdrawn
          exact Nat.lt_succ_of_lt hdrawn
        · exact Nat.lt_succ_of_lt (h.drawn event hearlier)
      · intro id other hfind
        rw [Table.find_save] at hfind
        split at hfind
        · cases hfind
          exact htracks.withPassword password w.draws
        case isFalse hne =>
          have hid := Table.find_key hfind
          exact (h.tracks id other hfind).cons fun heq => hne (hid.symm.trans heq.symm)

/-- **Run invariant.** -/
theorem AccountRun.tracked (run : AccountRun server trace w) : Tracked server trace w := by
  induction run with
  | start => exact ⟨nofun, nofun⟩
  | step request before ih => exact ih.served (serve_served request)

/-! ## Compliance -/

/-- The history check looks at the passwords before the current one. -/
theorem passwordInHistory_eq_false (hhash : server.lib.HashesCorrectly) {user : User}
    {previous : List String} {password : String}
    (hhistory : List.Forall₂ (FingerprintOf server.lib) user.passwordHistory
      (previous.take server.policy.historyDepth)) :
    server.passwordInHistory user password server.policy.historyDepth = false ↔
      password ∉ previous.take server.policy.historyDepth := by
  have hlength : user.passwordHistory.length ≤ server.policy.historyDepth := by
    rw [hhistory.length_eq]
    exact List.length_take_le ..
  unfold AccountServer.passwordInHistory
  rw [List.take_of_length_le hlength]
  clear hlength
  generalize user.passwordHistory = history at hhistory ⊢
  generalize previous.take server.policy.historyDepth = used at hhistory ⊢
  induction hhistory with
  | nil => simp
  | cons hfingerprint hrest ih =>
      obtain ⟨salt, rfl⟩ := hfingerprint
      rw [List.any_cons, Bool.or_eq_false_iff, List.mem_cons, not_or]
      refine and_congr ?_ ih
      rw [← Bool.not_eq_true, hhash]

/-- An event against what came before it, when it happens. -/
theorem Served.compliant_iff (hhash : server.lib.HashesCorrectly) {event : AccountEvent}
    {w' : AccountWorld} (h : Tracked server trace w) (hserved : Served server w [event] w') :
    Compliant server trace event ↔ Submitted server trace event := by
  cases hserved with
  | created entry policy typed email password checked =>
      cases entry with
      | seed => exact Iff.rfl
      | register => exact Iff.rfl
      | signup => exact PasswordPolicy.validate_email (checked rfl) email
  | changed user password found checked =>
      obtain ⟨current, previous, hpasswords, -, hhistory⟩ := h.tracks user.id user found
      obtain ⟨hvalid, hviolation⟩ := List.append_eq_nil_iff.mp checked
      have hnew := (passwordInHistory_eq_false hhash hhistory).mp (violation_eq_nil.mp hviolation)
      show (_ ∧ password ∉ (passwordsOf user.id trace).take (server.policy.historyDepth + 1)) ↔
        (passwordsOf user.id trace).head? ≠ some password
      rw [hpasswords, List.take_succ_cons, List.mem_cons, not_or, List.head?_cons]
      constructor
      · rintro ⟨-, hcurrent, -⟩ heq
        exact hcurrent (Option.some.inj heq).symm
      · intro hcurrent
        exact ⟨hvalid, fun heq => hcurrent (congrArg some heq.symm), hnew⟩

theorem Served.one {first : AccountEvent} {rest : List AccountEvent} {w' : AccountWorld}
    (h : Served server w (first :: rest) w') : rest = [] := by
  cases h with
  | created => rfl
  | changed => rfl

/-- Every password given in a run was served on the accounts of that moment. -/
theorem AccountRun.at_event (run : AccountRun server trace w) {later earlier : List AccountEvent}
    {event : AccountEvent} (htrace : trace = later ++ event :: earlier) :
    ∃ before after, AccountRun server earlier before ∧ Served server before [event] after := by
  induction run generalizing later with
  | start =>
      have hlength := congrArg List.length htrace
      simp at hlength
  | step request before ih =>
      rename_i past held
      have hserved : Served server held _ _ := serve_served request
      generalize hevents : (server.serve request held).1.events = events at hserved htrace
      cases events with
      | nil => exact ih htrace
      | cons first rest =>
          have hone : rest = [] := hserved.one
          subst hone
          cases later with
          | nil =>
              cases htrace
              exact ⟨held, _, before, hserved⟩
          | cons last later => exact ih (List.cons.inj htrace).2

end History

/-- In every run, each password given conforms to the policy, is not the
current one and is none of the last ones, exactly when the submitted values
are of the kind nothing has to refuse. -/
theorem passwords_compliant_iff {server : AccountServer} (hhash : server.lib.HashesCorrectly)
    {trace : List AccountEvent} {w : AccountWorld} (run : AccountRun server trace w)
    {later earlier : List AccountEvent} {event : AccountEvent}
    (htrace : trace = later ++ event :: earlier) :
    Compliant server earlier event ↔ Submitted server earlier event := by
  obtain ⟨before, after, hrun, hserved⟩ := run.at_event htrace
  exact hserved.compliant_iff hhash hrun.tracked

/-! ## A reset to the current password -/

namespace Sample

/-- ASCII characters, fingerprints that show the password behind its salt. -/
def library : AccountLibrary where
  characters :=
    { isUpper := Char.isUpper, isLower := Char.isLower, isDigit := Char.isDigit
      isAlnum := Char.isAlphanum
      lower := fun s => String.ofList (s.toList.map Char.toLower) }
  hash salt password := String.ofList (List.replicate salt '$' ++ '#' :: password.toList)
  verify candidate fingerprint :=
    (fingerprint.toList.dropWhile fun c => c = '$') = '#' :: candidate.toList
  validateEmail email := some email
  validatePassword _ := true
  readResetToken _ token := some [("sub", .str "0"), ("password_fgpt", .str token)]
  parseId _ := some 0
  str json := json.asStr.getD ""
  clientIdFromNext _ := ""

theorem library_correct : library.HashesCorrectly := by
  intro salt password candidate
  have hdrop : ∀ rest : List Char,
      (List.replicate salt '$' ++ '#' :: rest).dropWhile (fun c => c = '$') = '#' :: rest := by
    intro rest
    induction salt with
    | zero => rfl
    | succ n ih =>
        rw [List.replicate_succ, List.cons_append, List.dropWhile_cons_of_pos (by decide), ih]
  show decide (_ = _) = true ↔ candidate = password
  rw [decide_eq_true_iff]
  simp only [library, String.toList_ofList, hdrop, List.cons.injEq, true_and]
  constructor
  · intro h
    exact (String.toList_inj.mp h).symm
  · intro h
    rw [h]

def server : AccountServer := { lib := library, policy := {}, clients := fun _ => none }

def alice : String := "alice@example.com"

def password : String := "Nouveau-mdp-42!"

def registered : AccountOutcome × AccountWorld := server.serve (.register alice "weak") {}

def signedUp : AccountOutcome × AccountWorld := server.serve (.signup alice password "/" "") {}

/-- The token of the account signed up: a fingerprint of its fingerprint. -/
def token : String := library.hash 1 (library.hash 0 password)

def reset : AccountOutcome × AccountWorld := server.serve (.reset 0 token password) signedUp.2

theorem signedUp_events :
    signedUp.1.events = [.created .signup 0 server.policy password alice] := by
  decide +kernel

theorem reset_events : reset.1.events = [.changed 0 password alice] := by decide +kernel

theorem registered_events :
    registered.1.events = [.created .register 0 server.policy "weak" alice] := by
  decide +kernel

end Sample

open Identity.Sample in
theorem passwords_compliant_iff_signup :
    Compliant server [] (.created .signup 0 server.policy password alice) ↔
      Submitted server [] (.created .signup 0 server.policy password alice) := by
  have run : AccountRun server (signedUp.1.events ++ []) signedUp.2 := .step _ .start
  have htrace : signedUp.1.events ++ [] =
      [] ++ .created .signup 0 server.policy password alice :: [] := by
    rw [signedUp_events]
    rfl
  exact passwords_compliant_iff library_correct run htrace

open Identity.Sample in
theorem passwords_not_compliant :
    (AccountRun server [.created .register 0 server.policy "weak" alice] registered.2 ∧
      ¬ Compliant server [] (.created .register 0 server.policy "weak" alice)) ∧
    (AccountRun server [.changed 0 password alice, .created .signup 0 server.policy password alice]
        reset.2 ∧
      ¬ Compliant server [.created .signup 0 server.policy password alice]
        (.changed 0 password alice)) := by
  have hregister : AccountRun server (registered.1.events ++ []) registered.2 := .step _ .start
  have hreset : AccountRun server (reset.1.events ++ (signedUp.1.events ++ [])) reset.2 :=
    .step _ (.step _ .start)
  rw [registered_events] at hregister
  rw [reset_events, signedUp_events] at hreset
  refine ⟨⟨hregister, ?_⟩, ⟨hreset, ?_⟩⟩
  · show ¬ server.policy.validate server.lib.characters "weak" alice = []
    decide +kernel
  · rintro ⟨-, hnew⟩
    exact hnew List.mem_cons_self

end Identity

end PurIdentityServer

import PurIdentityServer.Lib.Expiring
import PurIdentityServer.Lib.History
import PurIdentityServer.Application.TokenAcceptance
import PurIdentityServer.Infrastructure.SignedRequestObject

/-!
# Revocation — the denylist over whole runs

`/revoke` puts the hash of the string it is given on the denylist, until
the token expires, for any confidential client that authenticates;
`/introspect` and `/userinfo` look the hash of the string they are given
up. Over a history of such requests at nondecreasing times the denylist
is that of a run of an expiring table which promises the life of a token
(`denylist_expiring`).
-/

namespace PurIdentityServer

open Effects

/-- `authenticate_confidential_client` -/
def authenticateConfidentialClient (p : Platform) (clients : ClientReader)
    (clientId clientSecret : String) : Bool :=
  match clients.findById clientId with
  | none => false
  | some client => client.isActive && decide (client.clientType = .confidential) &&
      verifyClientSecret p client clientSecret

/-- `RevocationRequest` and `IntrospectRequest` -/
structure TokenQuery where
  token : String
  clientId : String
  clientSecret : String := ""

/-- `RevocationError` and `IntrospectError` -/
structure QueryError where
  error : String
  errorDescription : String := ""
  statusCode : Int := 401

inductive RevocationAnswer where
  | success
  | error (e : QueryError)
  | raised (e : Raised)

inductive IntrospectAnswer where
  | active (claims : Members)
  | inactive
  | error (e : QueryError)
  | raised (e : Raised)

/-- The clock of one revocation, read when the denylist is purged, when the token is
validated and when its expiry is compared. -/
structure RevocationReadings where
  purge : Instant
  validate : Instant
  compare : Instant
  purge_le : purge ≤ validate
  validate_le : validate ≤ compare

namespace ResourceServer

/-- `purge_expired` of the denylist -/
def purgeRevoked (denylist : Denylist) (now : Instant) : Denylist :=
  denylist.filter fun row => now < row.expiresAt

section Queries

variable {κ : Type} (server : ResourceServer κ)

def missingToken : QueryError :=
  ⟨"invalid_request", "Paramètre 'token' manquant ou vide", 400⟩

/-- `datetime.fromtimestamp`, which raises beyond year 9999. -/
def fromTimestamp (n : Int) : Except Raised Instant :=
  if -62135596800 ≤ n ∧ n ≤ SignedObjects.maxTimestamp then .ok (seconds n)
  else .error (.other "ValueError")

/-- `_expiry` -/
def expiry (claims : Members) : Except Raised (Option Instant) :=
  match claims.get "exp" with
  | some (.num text) => (fromTimestamp (Json.truncated text)).map some
  | some (.bool b) => (fromTimestamp (if b then 1 else 0)).map some
  | _ => .ok none

/-- `RevocationUseCase.execute` -/
def revoke (clients : ClientReader) (at_ : RevocationReadings) (query : TokenQuery)
    (denylist : Denylist) : RevocationAnswer × Denylist :=
  if query.token = "" then (.error missingToken, denylist)
  else if !authenticateConfidentialClient server.platform clients query.clientId
      query.clientSecret then
    (.error ⟨"invalid_client", "Client de révocation inconnu, désactivé ou secret invalide", 401⟩,
      denylist)
  else
    let purged := purgeRevoked denylist at_.purge
    match server.tokens.validateAccessToken at_.validate query.token server.issuer with
    | .error e => (.raised e, purged)
    | .ok none => (.success, purged)
    | .ok (some claims) =>
        match expiry claims with
        | .error e => (.raised e, purged)
        | .ok none => (.success, purged)
        | .ok (some expiresAt) =>
            if expiresAt ≤ at_.compare then (.success, purged)
            else (.success, purged.save ⟨tokenHash server.platform query.token, expiresAt⟩)

/-- The members `_select_claims` copies. -/
def copiedClaims (claims : Members) : Members :=
  ["iss", "sub", "aud", "exp", "iat", "scope"].filterMap fun name =>
    (claims.get name).map fun value => (name, value)

/-- `_select_claims` -/
def selectClaims (claims : Members) : Members :=
  let clientId := match claims.get "aud" with
    | some (.str name) => [("client_id", .str name)]
    | _ => []
  let username := match claims.get "preferred_username", claims.get "sub" with
    | some name, _ => [("username", name)]
    | none, some subject => [("username", subject)]
    | none, none => []
  let tokenType := if boundJkt claims = "" then "Bearer" else "DPoP"
  let cnf := match claims.get "cnf" with
    | some (.obj members) => [("cnf", .obj members)]
    | _ => []
  copiedClaims claims ++ clientId ++ username ++ cnf ++ [("token_type", .str tokenType)]

/-- `IntrospectUseCase.execute` -/
def introspect (clients : ClientReader) (now : Instant) (query : TokenQuery)
    (denylist : Denylist) : IntrospectAnswer :=
  if query.token = "" then .error missingToken
  else if !authenticateConfidentialClient server.platform clients query.clientId
      query.clientSecret then
    .error ⟨"invalid_client", "Client d'introspection inconnu, désactivé ou secret invalide", 401⟩
  else
    match server.tokens.validateAccessToken now query.token server.issuer with
    | .error e => .raised e
    | .ok none => .inactive
    | .ok (some claims) =>
        if server.isRevoked denylist query.token then .inactive
        else .active (selectClaims claims)

/-! ## Runs -/

/-- What reads or writes the denylist. A replayed authorization code revokes the access
token it was exchanged for; the registry of clients is that of the moment. -/
inductive Event where
  | revoke (clients : ClientReader) (at_ : RevocationReadings) (query : TokenQuery)
  | purge (now : Instant)
  | codeReplay (token : String) (expiresAt now : Instant)
  | introspect (clients : ClientReader) (now : Instant) (query : TokenQuery)
  | userinfo (now : Instant) (request : BearerRequest)

namespace Event

/-- The first reading of the clock. -/
def begins : Event → Instant
  | revoke _ at_ _ => at_.purge
  | purge now => now
  | codeReplay _ _ now => now
  | introspect _ now _ => now
  | userinfo now _ => now

/-- The last reading of the clock. -/
def ends : Event → Instant
  | revoke _ at_ _ => at_.compare
  | purge now => now
  | codeReplay _ _ now => now
  | introspect _ now _ => now
  | userinfo now _ => now

/-- The token whose hash the event may put on the denylist. -/
def revokes : Event → Option String
  | revoke _ _ query => some query.token
  | codeReplay token _ _ => some token
  | _ => none

theorem begins_le_ends (event : Event) : event.begins ≤ event.ends := by
  cases event with
  | revoke clients at_ query => exact le_trans at_.purge_le at_.validate_le
  | purge now => exact le_refl _
  | codeReplay token expiresAt now => exact le_refl _
  | introspect clients now query => exact le_refl _
  | userinfo now request => exact le_refl _

end Event

inductive EventAnswer where
  | revoked (answer : RevocationAnswer)
  | done
  | introspected (answer : IntrospectAnswer)
  | userinfo (answer : AccessResult ResourceResponse)

/-- Answer an event. -/
def handle : Event → Denylist → EventAnswer × Denylist
  | .revoke clients at_ query, denylist =>
      (.revoked (server.revoke clients at_ query denylist).1,
        (server.revoke clients at_ query denylist).2)
  | .purge now, denylist => (.done, purgeRevoked denylist now)
  | .codeReplay token expiresAt _, denylist =>
      (.done, denylist.save ⟨tokenHash server.platform token, expiresAt⟩)
  | .introspect clients now query, denylist =>
      (.introspected (server.introspect clients now query denylist), denylist)
  | .userinfo now request, denylist => (.userinfo (server.userinfo now denylist request), denylist)

/-- The code records a moment at which its access token has expired. -/
def Outlived : Event → Prop
  | .codeReplay token expiresAt _ => ∀ claims text,
      server.tokens.jwt.payload token = some claims → Dict.get claims "exp" = some (.num text) →
        seconds (Json.truncated text) ≤ expiresAt
  | _ => True

/-- The denylist as a service. -/
def denylistService : Service Denylist Event EventAnswer Instant where
  handle := server.handle
  begins := Event.begins
  ends := Event.ends
  begins_le_ends := Event.begins_le_ends
  admits := server.Outlived

/-- An access token of the server, issued by a moment. -/
structure Issued (token : String) (payload : Members) (text : String) (now : Instant) :
    Prop where
  signed : server.tokens.Signed token payload
  registered : TokenManager.Registered now server.issuer payload
  expires : Dict.get payload "exp" = some (.num text)

/-- The entry is a successful revocation of the token. -/
def Revokes (entry : Entry Event EventAnswer) (token : String) (payload : Members) (text : String) :
    Prop :=
  ∃ clients at_ query, entry.request = .revoke clients at_ query ∧ query.token = token ∧
    entry.answer = .revoked .success ∧ server.Issued token payload text at_.validate

/-- The entry answers that the token is active, or accepts it. -/
def AcceptsToken (entry : Entry Event EventAnswer) (token : String) : Prop :=
  (∃ clients now query claims, entry.request = .introspect clients now query ∧ query.token = token ∧
    entry.answer = .introspected (.active claims)) ∨
  ∃ now request response, entry.request = .userinfo now request ∧ request.accessToken = token ∧
    entry.answer = .userinfo (.ok response)

/-- No other token revoked in the entries has the hash of this one. -/
def Distinguished (entries : List (Entry Event EventAnswer)) (token : String) : Prop :=
  ∀ entry ∈ entries, ∀ other, entry.request.revokes = some other →
    tokenHash server.platform other = tokenHash server.platform token → other = token

/-! ## What one event does to the denylist -/

variable {server}

/-- An expiry that is a number is the moment it spells. -/
theorem expiry_num {claims : Members} {text : String} {expiresAt : Instant}
    (hexp : Dict.get claims "exp" = some (.num text))
    (h : expiry claims = .ok (some expiresAt)) : expiresAt = seconds (Json.truncated text) := by
  unfold expiry at h
  rw [hexp] at h
  simp only [fromTimestamp] at h
  split at h
  · cases h
    rfl
  · cases h

/-- A revocation purges the denylist, if that, and may save the row of its token. -/
theorem revoke_denylist (clients : ClientReader) (at_ : RevocationReadings) (query : TokenQuery)
    (denylist : Denylist) :
    (server.revoke clients at_ query denylist).2 = denylist ∨
    (server.revoke clients at_ query denylist).2 = purgeRevoked denylist at_.purge ∨
    ∃ claims expiresAt, server.tokens.jwt.payload query.token = some claims ∧
      expiry claims = .ok (some expiresAt) ∧
      (server.revoke clients at_ query denylist).2 = (purgeRevoked denylist at_.purge).save
        ⟨tokenHash server.platform query.token, expiresAt⟩ := by
  unfold revoke
  dsimp only
  split
  · exact .inl rfl
  split
  · exact .inl rfl
  right
  split
  · exact .inl rfl
  · exact .inl rfl
  · rename_i claims hvalidate
    split
    · exact .inl rfl
    · exact .inl rfl
    · rename_i expiresAt hexpiry
      split
      · exact .inl rfl
      · exact .inr ⟨claims, expiresAt, TokenManager.validate_payload hvalidate, hexpiry, rfl⟩

/-- A successful revocation saves the row of an issued token, unless it has expired. -/
theorem revoke_success {clients : ClientReader} {at_ : RevocationReadings} {query : TokenQuery}
    {denylist : Denylist} {payload : Members} {text : String}
    (hissued : server.Issued query.token payload text at_.validate)
    (h : (server.revoke clients at_ query denylist).1 = .success) :
    seconds (Json.truncated text) ≤ at_.compare ∨
      (server.revoke clients at_ query denylist).2 = (purgeRevoked denylist at_.purge).save
        ⟨tokenHash server.platform query.token, seconds (Json.truncated text)⟩ := by
  by_cases hlive : seconds (Json.truncated text) ≤ at_.compare
  · exact .inl hlive
  · right
    have hexp : PyJwt.validateExp payload at_.validate 0 = .ok () := by
      have hunexpired : ¬seconds (Json.truncated text) ≤ at_.validate - seconds 0 := by
        rw [show seconds 0 = 0 from rfl, Int.sub_zero]
        exact fun hle => hlive (le_trans hle at_.validate_le)
      unfold PyJwt.validateExp
      rw [hissued.expires]
      have htime : PyJwt.timeClaim (.num text) = .ok (Json.truncated text) := rfl
      simp only [htime, bind, Except.bind, if_neg hunexpired]
    obtain ⟨claims, hvalidate⟩ := (TokenManager.validate_signed hissued.signed).mpr
      ⟨hissued.registered, fun _ => hexp⟩
    have hpayload := TokenManager.validate_payload hvalidate
    rw [hissued.signed.payload_eq] at hpayload
    cases hpayload
    unfold revoke at h ⊢
    dsimp only at h ⊢
    have hvalidate' : server.tokens.validateAccessToken at_.validate query.token server.issuer
        = .ok (some payload) := hvalidate
    simp only [hvalidate'] at h ⊢
    split at h
    · cases h
    rename_i htoken
    rw [if_neg htoken]
    split at h
    · cases h
    rename_i hclient
    rw [if_neg hclient]
    cases hexpiry : expiry payload with
    | error e =>
        rw [hexpiry] at h
        cases h
    | ok found =>
        cases found with
        | none =>
            unfold expiry at hexpiry
            rw [hissued.expires] at hexpiry
            simp only [fromTimestamp] at hexpiry
            split at hexpiry <;> cases hexpiry
        | some expiresAt =>
            have hsame := expiry_num hissued.expires hexpiry
            subst hsame
            simp only [if_neg hlive]

/-! ## Whole runs -/

/-- The rows of the token promise its life, the others nothing. -/
def promise (server : ResourceServer κ) (token text : String) (row : RevokedToken) :
    WithBot Instant :=
  if row.tokenHash = tokenHash server.platform token then
    ((seconds (Json.truncated text) : Instant) : WithBot Instant)
  else ⊥

abbrev DenylistRun (server : ResourceServer κ) (token text : String) :
    List RevokedToken → Instant → Denylist → Prop :=
  Expiring.Run RevokedToken.expiresAt (promise server token text)

theorem save_run {token text : String} {saved : List RevokedToken} {now : Instant}
    {denylist : Denylist} {row : RevokedToken}
    (hrun : DenylistRun server token text saved now denylist)
    (h : row.tokenHash = tokenHash server.platform token →
      seconds (Json.truncated text) ≤ row.expiresAt) :
    DenylistRun server token text (saved ++ [row]) now (denylist.save row) := by
  have hpromise : promise server token text row ≤ (row.expiresAt : WithBot Instant) := by
    unfold promise
    split
    · rename_i hhash
      exact WithBot.coe_le_coe.mpr (h hhash)
    · exact bot_le
  refine .save row hrun hpromise ?_
  intro other hfind
  have hkey : other.tokenHash = row.tokenHash := Table.find_key hfind
  unfold promise
  rw [hkey]

/-- The row a revocation saves for the token is that of its expiry. -/
theorem revoked_row {token : String} {payload claims : Members} {text : String}
    {query : TokenQuery} {expiresAt : Instant}
    (hpayload : server.tokens.jwt.payload token = some payload)
    (hexp : Dict.get payload "exp" = some (.num text))
    (hdistinct : tokenHash server.platform query.token = tokenHash server.platform token →
      query.token = token)
    (hclaims : server.tokens.jwt.payload query.token = some claims)
    (hexpiry : expiry claims = .ok (some expiresAt))
    (hhash : tokenHash server.platform query.token = tokenHash server.platform token) :
    seconds (Json.truncated text) ≤ expiresAt := by
  rw [hdistinct hhash, hpayload] at hclaims
  cases hclaims
  rw [expiry_num hexp hexpiry]

/-- One event leaves the denylist of a run, in which a successful revocation of the
token has saved a row, unless the token has expired. -/
theorem handle_run {token : String} {payload : Members} {text : String}
    (hpayload : server.tokens.jwt.payload token = some payload)
    (hexp : Dict.get payload "exp" = some (.num text)) {saved : List RevokedToken} {now : Instant}
    {denylist : Denylist} (hrun : DenylistRun server token text saved now denylist)
    {event : Event} (hle : now ≤ event.begins) (houtlived : server.Outlived event)
    (hdistinct : ∀ other, event.revokes = some other →
      tokenHash server.platform other = tokenHash server.platform token → other = token) :
    ∃ rows, DenylistRun server token text (saved ++ rows) event.ends
        (server.handle event denylist).2 ∧
      (server.Revokes ⟨event, (server.handle event denylist).1⟩ token payload text →
        (∃ row ∈ rows, row.tokenHash = tokenHash server.platform token) ∨
          seconds (Json.truncated text) ≤ event.ends) := by
  have hwait := hrun.wait (le_trans hle event.begins_le_ends)
  cases event with
  | revoke clients at_ query =>
      have hpurged : DenylistRun server token text saved at_.compare
          (purgeRevoked denylist at_.purge) :=
        (hrun.wait hle).purge.wait (le_trans at_.purge_le at_.validate_le)
      have hsuccess : server.Revokes ⟨.revoke clients at_ query,
            (server.handle (.revoke clients at_ query) denylist).1⟩ token payload text →
          seconds (Json.truncated text) ≤ at_.compare ∨
            (server.revoke clients at_ query denylist).2 = (purgeRevoked denylist at_.purge).save
              ⟨tokenHash server.platform token, seconds (Json.truncated text)⟩ := by
        rintro ⟨_, _, _, hevent, rfl, hanswer, hissued⟩
        cases hevent
        exact revoke_success hissued (EventAnswer.revoked.inj hanswer)
      by_cases hrevokes : server.Revokes ⟨.revoke clients at_ query,
          (server.handle (.revoke clients at_ query) denylist).1⟩ token payload text ∧
          ¬seconds (Json.truncated text) ≤ at_.compare
      · have hsaved := (hsuccess hrevokes.1).resolve_left hrevokes.2
        refine ⟨[⟨tokenHash server.platform token, seconds (Json.truncated text)⟩], ?_, ?_⟩
        · show DenylistRun server token text _ at_.compare
            (server.revoke clients at_ query denylist).2
          rw [hsaved]
          exact save_run hpurged fun _ => le_refl _
        · intro _
          exact .inl ⟨_, List.mem_singleton_self _, rfl⟩
      · have hexpired : server.Revokes ⟨.revoke clients at_ query,
            (server.handle (.revoke clients at_ query) denylist).1⟩ token payload text →
            seconds (Json.truncated text) ≤ at_.compare := by
          intro h
          by_contra hlive
          exact hrevokes ⟨h, hlive⟩
        rcases revoke_denylist clients at_ query denylist with
          hsame | hsame | ⟨claims, expiresAt, hclaims, hexpiry, hsame⟩
        · refine ⟨[], ?_, fun h => .inr (hexpired h)⟩
          show DenylistRun server token text _ at_.compare
            (server.revoke clients at_ query denylist).2
          rw [hsame, List.append_nil]
          exact hwait
        · refine ⟨[], ?_, fun h => .inr (hexpired h)⟩
          show DenylistRun server token text _ at_.compare
            (server.revoke clients at_ query denylist).2
          rw [hsame, List.append_nil]
          exact hpurged
        · refine ⟨[⟨tokenHash server.platform query.token, expiresAt⟩], ?_,
            fun h => .inr (hexpired h)⟩
          show DenylistRun server token text _ at_.compare
            (server.revoke clients at_ query denylist).2
          rw [hsame]
          exact save_run hpurged (revoked_row hpayload hexp (hdistinct query.token rfl) hclaims
            hexpiry)
  | purge later =>
      refine ⟨[], ?_, ?_⟩
      · rw [List.append_nil]
        exact hwait.purge
      · rintro ⟨_, _, _, hevent, _⟩
        cases hevent
  | codeReplay other expiresAt later =>
      refine ⟨[⟨tokenHash server.platform other, expiresAt⟩], ?_, ?_⟩
      · apply save_run hwait
        intro hhash
        rw [hdistinct other rfl hhash] at houtlived
        exact houtlived payload text hpayload hexp
      · rintro ⟨_, _, _, hevent, _⟩
        cases hevent
  | introspect clients later query =>
      refine ⟨[], ?_, ?_⟩
      · rw [List.append_nil]
        exact hwait
      · rintro ⟨_, _, _, hevent, _⟩
        cases hevent
  | userinfo later request =>
      refine ⟨[], ?_, ?_⟩
      · rw [List.append_nil]
        exact hwait
      · rintro ⟨_, _, _, hevent, _⟩
        cases hevent

/-- The denylist of a history is that of a run, in which every successful revocation of
the token has saved a row, unless the token has expired. -/
theorem denylist_expiring {entries : List (Entry Event EventAnswer)} {now : Instant}
    {denylist : Denylist} (h : History server.denylistService Table.empty entries now denylist)
    {token : String} {payload : Members} {text : String}
    (hpayload : server.tokens.jwt.payload token = some payload)
    (hexp : Dict.get payload "exp" = some (.num text))
    (hdistinct : server.Distinguished entries token) :
    ∃ saved, DenylistRun server token text saved now denylist ∧
      ∀ entry ∈ entries, server.Revokes entry token payload text →
        (∃ row ∈ saved, row.tokenHash = tokenHash server.platform token) ∨
          seconds (Json.truncated text) ≤ now := by
  induction h with
  | start now =>
      refine ⟨[], .start now, ?_⟩
      intro entry hmem
      cases hmem
  | @step entries now denylist history event le outlived ih =>
      obtain ⟨saved, hrun, hsaved⟩ := ih fun entry hmem =>
        hdistinct entry (List.mem_append_left _ hmem)
      have hlast := hdistinct ⟨event, (server.handle event denylist).1⟩
        (List.mem_append_right _ (List.mem_singleton_self _))
      obtain ⟨rows, hrun', hrows⟩ := handle_run hpayload hexp hrun le outlived hlast
      refine ⟨saved ++ rows, hrun', ?_⟩
      intro entry hmem hrevokes
      rcases List.mem_append.mp hmem with hold | hnew
      · rcases hsaved entry hold hrevokes with ⟨row, hrow, hhash⟩ | hexpired
        · exact .inl ⟨row, List.mem_append_left _ hrow, hhash⟩
        · exact .inr (le_trans hexpired (le_trans le event.begins_le_ends))
      · rw [List.mem_singleton.mp hnew] at hrevokes
        rcases hrows hrevokes with ⟨row, hrow, hhash⟩ | hexpired
        · exact .inl ⟨row, List.mem_append_right _ hrow, hhash⟩
        · exact .inr hexpired

/-- A validated token has not expired. -/
theorem unexpired_of_validated {token issuer : String} {payload claims : Members} {text : String}
    {now : Instant} (hpayload : server.tokens.jwt.payload token = some payload)
    (hexp : Dict.get payload "exp" = some (.num text))
    (h : server.tokens.validateAccessToken now token issuer = .ok (some claims)) :
    now < seconds (Json.truncated text) := by
  obtain ⟨_, _, _, _, _, _, hclaims, _, _, hunexpired⟩ := TokenManager.validate_eq_some.mp h
  rw [hpayload] at hclaims
  cases hclaims
  have hvalid := hunexpired rfl
  unfold PyJwt.validateExp at hvalid
  rw [hexp] at hvalid
  have htime : PyJwt.timeClaim (.num text) = .ok (Json.truncated text) := rfl
  simp only [htime, bind, Except.bind] at hvalid
  split at hvalid
  · cases hvalid
  · rename_i hlive
    rw [show seconds 0 = 0 from rfl, Int.sub_zero] at hlive
    exact not_le.mp hlive

/-- An accepting entry found the token valid and its hash off the denylist. -/
theorem accepted_unlisted {entry : Entry Event EventAnswer} {token : String}
    {denylist : Denylist} (h : AcceptsToken entry token)
    (hanswer : entry.answer = (server.handle entry.request denylist).1) :
    denylist.find (tokenHash server.platform token) = none ∧
      ∃ claims, server.tokens.validateAccessToken entry.request.begins token server.issuer
        = .ok (some claims) := by
  rcases h with ⟨clients, now, query, claims, hrequest, rfl, hactive⟩
    | ⟨now, request, response, hrequest, rfl, hok⟩
  · rw [hrequest, hactive] at hanswer
    have hanswer : server.introspect clients now query denylist = .active claims :=
      (EventAnswer.introspected.inj hanswer).symm
    rw [hrequest]
    unfold introspect at hanswer
    split at hanswer
    · cases hanswer
    split at hanswer
    · cases hanswer
    split at hanswer
    · cases hanswer
    · cases hanswer
    · rename_i found hvalidate
      split at hanswer
      · cases hanswer
      · rename_i hlisted
        exact ⟨by simpa [isRevoked] using hlisted, found, hvalidate⟩
  · rw [hrequest, hok] at hanswer
    have hanswer : server.userinfo now denylist request = .ok response :=
      (EventAnswer.userinfo.inj hanswer).symm
    rw [hrequest]
    let state : ResourceState := ⟨denylist, []⟩
    have hserved : ∃ response, server.userinfo now state.denylist request = .ok response :=
      ⟨response, hanswer⟩
    obtain ⟨claims, hvalidate, haccepts, _⟩ := userinfo_ok_iff.mp hserved
    exact ⟨by simpa [isRevoked] using haccepts.unlisted, claims, hvalidate⟩

/-- Once a token was revoked, by any client, its string is never accepted again; and no
purge removes the row of a token that is still valid. -/
theorem revoked_never_accepted {older newer : List (Entry Event EventAnswer)}
    {entry : Entry Event EventAnswer} {now : Instant} {denylist : Denylist}
    (h : History server.denylistService Table.empty (older ++ entry :: newer) now denylist)
    {token : String} {payload : Members} {text : String}
    (hpayload : server.tokens.jwt.payload token = some payload)
    (hexp : Dict.get payload "exp" = some (.num text))
    (hdistinct : server.Distinguished (older ++ entry :: newer) token) :
    ((∃ revocation ∈ older, server.Revokes revocation token payload text) →
      ¬AcceptsToken entry token) ∧
    ∀ later claims row, now ≤ later →
      server.tokens.validateAccessToken later token server.issuer = .ok (some claims) →
      denylist.find (tokenHash server.platform token) = some row →
        (purgeRevoked denylist later).find (tokenHash server.platform token) = some row := by
  constructor
  · rintro ⟨revocation, hmem, hrevokes⟩ haccepts
    obtain ⟨earlier, reached, hbefore, hle, _, hanswer⟩ := h.before
    obtain ⟨saved, hrun, hsaved⟩ := denylist_expiring hbefore hpayload hexp fun e he =>
      hdistinct e (List.mem_append_left _ he)
    obtain ⟨hunlisted, claims, hvalidate⟩ := accepted_unlisted haccepts hanswer
    have hlive := unexpired_of_validated hpayload hexp hvalidate
    have hexpired : seconds (Json.truncated text) ≤ earlier := by
      rcases hsaved revocation hmem hrevokes with ⟨row, hrow, hhash⟩ | hexpired
      · have hpassed := Expiring.passed_of_absent hrun hrow (hhash ▸ hunlisted)
        unfold promise at hpassed
        rw [if_pos hhash] at hpassed
        exact WithBot.coe_le_coe.mp hpassed
      · exact hexpired
    exact absurd (le_trans hexpired hle) (not_le.mpr hlive)
  · intro later claims row hlater hvalidate hfind
    obtain ⟨saved, hrun, _⟩ := denylist_expiring h hpayload hexp hdistinct
    have hpromise := Expiring.outlives hrun row (Expiring.origin hrun _ row hfind)
    unfold promise at hpromise
    rw [if_pos (Table.find_key hfind)] at hpromise
    have hlive : later < row.expiresAt := lt_of_lt_of_le
      (unexpired_of_validated hpayload hexp hvalidate) (WithBot.coe_le_coe.mp hpromise)
    show (Expiring.purge RevokedToken.expiresAt denylist later).find _ = some row
    rw [Expiring.find_purge, hfind]
    simp [hlive]

end Queries

namespace Sample

open ServerToken.Sample (accessTokenOf)

/-! ## Another client revokes

The access token was issued to `rp`; the client `other` revokes it, between two
introspections. -/

def confidential (clientId : String) : Client where
  clientId := clientId
  clientType := .confidential
  clientSecretHash := "s"

def registered : ClientReader where
  findById clientId := [confidential "rp", confidential "other"].find? fun client =>
    client.clientId = clientId
  find_id := by
    intro clientId client h
    simpa using List.find?_some h

def queryOf (clientId : String) : TokenQuery := ⟨"access", clientId, "s"⟩

def readingsAt (moment : Instant) : RevocationReadings where
  purge := moment
  validate := moment
  compare := moment
  purge_le := le_refl _
  validate_le := le_refl _

def introspection (moment : Instant) : Event := .introspect registered moment (queryOf "rp")

def revocation (clientId : String) : Event :=
  .revoke registered (readingsAt (seconds 2)) (queryOf clientId)

/-- The denylist after the revocation. -/
def revoked : Denylist := (server.handle (revocation "other") Table.empty).2

def entryOf (event : Event) (denylist : Denylist) : Entry Event EventAnswer :=
  ⟨event, (server.handle event denylist).1⟩

theorem history :
    History server.denylistService Table.empty
      ([entryOf (introspection (seconds 1)) Table.empty, entryOf (revocation "other") Table.empty] ++
        entryOf (introspection (seconds 3)) revoked :: []) (seconds 3) revoked := by
  have hstart : History server.denylistService Table.empty [] (seconds 1) Table.empty :=
    .start (seconds 1)
  have hactive := hstart.step (introspection (seconds 1)) (le_refl _) trivial
  have hrevoked := hactive.step (revocation "other") (by decide) trivial
  exact hrevoked.step (introspection (seconds 3)) (by decide) trivial

theorem issued : server.Issued "access" accessTokenOf.payload "100" (seconds 2) where
  signed := ⟨⟨⟨.rs256, "k", (), true⟩, by simp [server, ServerToken.Sample.manager],
    ServerToken.Sample.header, rfl, rfl, rfl, rfl⟩, rfl⟩
  registered := ⟨rfl, rfl, rfl, rfl, rfl⟩
  expires := rfl

theorem revokes :
    server.Revokes (entryOf (revocation "other") Table.empty) "access" accessTokenOf.payload "100" :=
  ⟨registered, readingsAt (seconds 2), queryOf "other", rfl, rfl, rfl, issued⟩

theorem introspected_active :
    AcceptsToken (entryOf (introspection (seconds 1)) Table.empty) "access" :=
  .inl ⟨registered, seconds 1, queryOf "rp", _, rfl, rfl, rfl⟩

theorem introspected_inactive :
    (entryOf (introspection (seconds 3)) revoked).answer = .introspected .inactive := rfl

end Sample

open ResourceServer.Sample in
/-- A token issued to one client is active, another client revokes it, and it is no
longer active. -/
theorem revoked_by_other :
    History server.denylistService Table.empty
      ([entryOf (introspection (seconds 1)) Table.empty, entryOf (revocation "other") Table.empty] ++
        entryOf (introspection (seconds 3)) revoked :: []) (seconds 3) revoked ∧
    Dict.get ServerToken.Sample.accessTokenOf.payload "aud" = some (.str "rp") ∧
    AcceptsToken (entryOf (introspection (seconds 1)) Table.empty) "access" ∧
    server.Revokes (entryOf (revocation "other") Table.empty) "access"
      ServerToken.Sample.accessTokenOf.payload "100" ∧
    (entryOf (introspection (seconds 3)) revoked).answer = .introspected .inactive :=
  ⟨history, rfl, introspected_active, revokes, introspected_inactive⟩

open ResourceServer.Sample in
/-- The guarantee on that run. -/
theorem revoked_never_accepted_by_other :
    ¬AcceptsToken (entryOf (introspection (seconds 3)) revoked) "access" := by
  have hguarantee := revoked_never_accepted history
    ResourceServer.Sample.issued.signed.payload_eq ResourceServer.Sample.issued.expires
    fun entry _ other _ hhash => hhash
  apply hguarantee.1
  exact ⟨entryOf (revocation "other") Table.empty, by simp, revokes⟩

end ResourceServer

end PurIdentityServer

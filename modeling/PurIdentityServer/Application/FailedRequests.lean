import PurIdentityServer.Application.TokenCalls

/-!
# FailedRequests — what a refused token request leaves behind

A token request run alone, from any store. As long as its checks have not
all passed it writes nothing on grants, save three kinds of bookkeeping
(`Excepted`). Then it consumes the grant and stores the next refresh
token, and only then issues: the issuance is refused when the `id_token`
cannot be signed or encrypted, and the grant is gone by then.
-/

namespace PurIdentityServer

open Effects

/-! ## The grants of a store -/

/-- The tables grants are kept in. -/
structure Grants where
  codes : Table AuthorizationCode.code
  refreshTokens : Table RefreshToken.tokenHash
  deviceCodes : Table DeviceAuthorization.deviceCodeHash
  backchannelAuth : Table BackchannelAuthenticationRequest.authReqIdHash

def World.grants (w : World) : Grants :=
  ⟨w.codes, w.refreshTokens, w.deviceCodes, w.backchannelAuth⟩

/-- Areas whose calls leave the grants alone. -/
def grantFree : List Area :=
  [.keys, .passive, .draws, .accessTokens, .pushed, .consents, .revoked, .notices]

/-- What the calls of a grant-free part of a use case keep. -/
structure Same (w w' : World) : Prop where
  grants : w'.grants = w.grants
  clock : w'.clock = w.clock
  draws : w.draws ≤ w'.draws

theorem Same.refl (w : World) : Same w w := ⟨rfl, rfl, le_rfl⟩

theorem Same.trans {w w' w'' : World} (h : Same w w') (h' : Same w' w'') : Same w w'' :=
  ⟨h'.grants.trans h.grants, h'.clock.trans h.clock, h.draws.trans h'.draws⟩

theorem Same.codes {w w' : World} (h : Same w w') : w'.codes = w.codes :=
  congrArg Grants.codes h.grants

theorem Same.refreshTokens {w w' : World} (h : Same w w') :
    w'.refreshTokens = w.refreshTokens :=
  congrArg Grants.refreshTokens h.grants

theorem Same.deviceCodes {w w' : World} (h : Same w w') : w'.deviceCodes = w.deviceCodes :=
  congrArg Grants.deviceCodes h.grants

theorem Same.backchannelAuth {w w' : World} (h : Same w w') :
    w'.backchannelAuth = w.backchannelAuth :=
  congrArg Grants.backchannelAuth h.grants

section
variable {ports : Ports} {w : World}

theorem exec_same {c : Call} (hc : c.In grantFree) (w : World) :
    Same w (exec ports c w).2 := by
  unfold Call.In at hc
  cases c
  case findByCode | consumeCode | saveCode | findByTokenHash | consumeRefreshToken |
      saveRefreshToken | findByDeviceCodeHash | findByUserCode | saveDevice |
      approveDevice | denyDevice | deleteDevice | findByAuthReqIdHash | saveBackchannel |
      approveBackchannel | denyBackchannel | deleteBackchannel =>
    exact absurd hc Bool.false_ne_true
  case tokenUrlsafe | generateUserCode | createAccessToken => exact ⟨rfl, rfl, Nat.le_succ _⟩
  all_goals exact ⟨rfl, rfl, le_rfl⟩

theorem wp_exec_bind {ε β : Type} {c : Call} {f : Reply c → M ε β} {Q : World → β → Prop}
    {E : World → Stop ε → Prop} :
    wp (Monitor.ofExec (exec ports)) (ask c >>= f) Q E w ↔
      wp (Monitor.ofExec (exec ports)) (f (exec ports c w).1) Q E (exec ports c w).2 := by
  rw [wp_ask_bind]
  constructor
  · exact fun h => h.2 _ rfl
  · refine fun h => ⟨trivial, ?_⟩
    rintro r rfl
    exact h

/-- A call that changes nothing. -/
theorem wp_read_bind {ε β : Type} {c : Call} {f : Reply c → M ε β} {Q : World → β → Prop}
    {E : World → Stop ε → Prop} (hread : (exec ports c w).2 = w) :
    wp (Monitor.ofExec (exec ports)) (ask c >>= f) Q E w ↔
      wp (Monitor.ofExec (exec ports)) (f (exec ports c w).1) Q E w := by
  rw [wp_exec_bind, hread]

theorem consumeRefreshToken_grants {w' : World} (h : w'.grants = w.grants) (k : String) :
    (w'.consumeRefreshToken k).grants = (w.consumeRefreshToken k).grants := by
  simp only [World.grants, Grants.mk.injEq] at h
  obtain ⟨hcodes, htokens, hdevices, hbackchannel⟩ := h
  simp only [World.grants, World.consumeRefreshToken, hcodes, htokens, hdevices,
    hbackchannel]

/-- A grant-free program keeps the grants, however it ends. -/
theorem wp_same {ε α : Type} {l : List Area} {p : M ε α} (hp : p.Uses (Call.In l))
    (hl : l.all (grantFree.contains ·) = true) :
    wp (Monitor.ofExec (exec ports)) p (fun w' _ => Same w w') (fun w' _ => Same w w') w := by
  refine wp_of_uses hp (Same w) ?_ (.refl w)
  rintro w' c hsame hc
  refine ⟨trivial, ?_⟩
  rintro r rfl
  exact hsame.trans (exec_same (Call.In.mono hl c hc) w')

/-- The same in front of the rest of a program. -/
theorem wp_same_bind {ε α β : Type} {l : List Area} {p : M ε α} {f : α → M ε β}
    {Q : World → β → Prop} {E : World → Stop ε → Prop} (hp : p.Uses (Call.In l))
    (hl : l.all (grantFree.contains ·) = true) (hE : ∀ w' stop, Same w w' → E w' stop)
    (hf : ∀ w' a, Same w w' → wp (Monitor.ofExec (exec ports)) (f a) Q E w') :
    wp (Monitor.ofExec (exec ports)) (p >>= f) Q E w :=
  (wp_bind p f).mpr (wp_mono (wp_same hp hl) (fun w' a h => hf w' a h) hE)

/-- Keys, secrets and directories answer the same in any store. -/
theorem storeless_of_keys {c : Call} (hc : c.In [.keys]) : Storeless (exec ports) c := by
  unfold Call.In at hc
  cases c
  case createIdToken | createUserinfoJwt | encryptIdToken | decryptSecret | getClaims |
      verifiedClaims | openid20Identifier | validateIdToken | findUserBySubject |
      findAllUsers => exact ⟨_, fun _ => rfl⟩
  all_goals exact absurd hc Bool.false_ne_true

/-! ## Issuance -/

variable (u : TokenUseCase)

/-- The client signs with `HS*` and its secret cannot be recovered. -/
def SecretMissing (client : Client) : Prop :=
  client.idTokenSignedResponseAlg ≠ "" ∧
    (∃ algorithm, JWTAlgorithm.ofValue? client.idTokenSignedResponseAlg = some algorithm ∧
      algorithm.isSymmetric = true) ∧
    (u.config.secretCipher = false ∨ client.clientSecretCiphertext = "")

/-- The client wants its `id_token` encrypted and it cannot be. -/
def EncryptionUnavailable (ports : Ports) (client : Client) (signed : String) : Prop :=
  ∃ text, ∀ w, (encryptIdTokenForClient signed client u.config.secretCipher
      u.config.idTokenEncrypter : M TokenError String).run (exec ports) w
    = (.error (.raised (.jweUnavailable text)), w)

/-- The issuance asks for an `id_token` that cannot be signed or encrypted. -/
inductive IdTokenRefused (ports : Ports) (i : Issuance) : Prop
  | unsigned (hopenid : Scope.openid ∈ i.scopes) (hmissing : SecretMissing u i.client)
  | unencrypted (signed : String) (hopenid : Scope.openid ∈ i.scopes)
      (hsigned : ∀ w, (u.signIdToken i (u.claimsRequest i)).run (exec ports) w
        = (.ok signed, w))
      (hunavailable : EncryptionUnavailable u ports i.client signed)

theorem IdTokenRefused.openid {i : Issuance} (h : IdTokenRefused u ports i) :
    Scope.openid ∈ i.scopes := by
  cases h
  case unsigned hopenid _ => exact hopenid
  case unencrypted hopenid _ _ => exact hopenid

/-- The error response of a stop. -/
def Stop.IsRefusal {ε : Type} (stop : Stop ε) : Prop := ∃ error, stop = .refused error

theorem not_isRefusal_raised {ε : Type} (x : Raised) :
    ¬ (Stop.raised x : Stop ε).IsRefusal := by
  rintro ⟨error, h⟩
  cases h

/-- The program may raise, and is never refused. -/
def Unrefused {ε α : Type} (ports : Ports) (p : M ε α) : Prop :=
  ∀ w, wp (Monitor.ofExec (exec ports)) p (fun _ _ => True)
    (fun _ stop => ¬ stop.IsRefusal) w

section
variable {ε α β : Type}

theorem Unrefused.pure (a : α) : Unrefused ports (Pure.pure a : M ε α) :=
  fun _ => wp_pure.mpr trivial

theorem Unrefused.bind {p : M ε α} {f : α → M ε β} (hp : Unrefused ports p)
    (hf : ∀ a, Unrefused ports (f a)) : Unrefused ports (p >>= f) := fun w =>
  (wp_bind _ _).mpr (wp_mono (hp w) (fun w' a _ => hf a w') fun _ _ h => h)

theorem Unrefused.orRaise (x : Raising α) : Unrefused ports (orRaise x : M ε α) := by
  intro w
  refine wp_orRaise.mpr ⟨fun exception _ => ?_, fun _ _ => trivial⟩
  exact not_isRefusal_raised exception

theorem Unrefused.ask (c : Call) : Unrefused ports (ask c : M ε (Reply c)) :=
  fun _ => wp_op.mpr ⟨trivial, fun _ _ => trivial⟩

end

theorem requestedClaims_unrefused (request : Option ClaimsRequest) (subject : String)
    (additional : List (String × Json)) :
    Unrefused ports (u.requestedClaims request subject additional) := by
  cases request with
  | none => exact .pure _
  | some request =>
      refine .bind ?_ fun resolved => .bind ?_ fun verified => ?_
      · unfold resolveRequestedClaims
        split
        · exact .pure _
        · exact .bind (.bind (.ask _) fun _ => .orRaise _) fun _ => .pure _
      · unfold TokenUseCase.verifiedClaims
        split
        · exact .pure _
        split
        · exact .pure _
        · exact .bind (.ask _) fun _ => .orRaise _
      · cases verified with
        | none => exact .pure _
        | some claims => exact .pure _

theorem openid20Identifier_unrefused (scopes : Finset Scope) (subject realm : String) :
    Unrefused ports (u.openid20Identifier scopes subject realm) := by
  unfold TokenUseCase.openid20Identifier
  split
  · exact .pure _
  split
  · exact .pure _
  · exact .bind (.ask _) fun _ => .orRaise _

/-- The material is missing when the secret is, and only then. -/
theorem idTokenMaterial_refused (client : Client) :
    wp (Monitor.ofExec (exec ports)) (u.idTokenMaterial client)
      (fun _ _ => ¬ SecretMissing u client)
      (fun _ stop => stop.IsRefusal ↔ SecretMissing u client) w := by
  have hraised : ∀ (x : Raised) {P : Prop}, ¬ P →
      ((Stop.raised x : Stop TokenError).IsRefusal ↔ P) := fun x P hP =>
    iff_of_false (not_isRefusal_raised x) hP
  unfold TokenUseCase.idTokenMaterial resolveIdTokenMaterial
  refine (wp_bind _ _).mpr ?_
  dsimp only
  split
  · rename_i hempty
    exact wp_pure.mpr (wp_pure.mpr fun h => h.1 hempty)
  split
  · rename_i hnone
    refine wp_pure.mpr (wp_pure.mpr ?_)
    rintro ⟨-, ⟨algorithm, hsome, -⟩, -⟩
    rw [hnone] at hsome
    cases hsome
  rename_i hset _ algorithm halg
  split
  · rename_i hasymmetric
    refine wp_pure.mpr (wp_pure.mpr ?_)
    rintro ⟨-, ⟨algorithm', hsome, hsymmetric⟩, -⟩
    rw [halg] at hsome
    cases hsome
    exact hasymmetric hsymmetric
  rename_i hsymmetric
  split
  · rename_i hmissing
    refine wp_pure.mpr (wp_fail.mpr (iff_of_true ⟨_, rfl⟩ ?_))
    refine ⟨hset, ⟨algorithm, halg, not_not.mp hsymmetric⟩, ?_⟩
    simpa using hmissing
  · rename_i hpresent
    have hnot : ¬ SecretMissing u client := by
      rintro ⟨-, -, hmissing⟩
      exact hpresent (by simpa using hmissing)
    refine wp_orRaise_bind.mpr (wp_op.mpr ⟨trivial, fun r _ => ⟨fun x _ => hraised x hnot, ?_⟩⟩)
    exact fun secret _ => wp_pure.mpr (wp_pure.mpr hnot)

theorem signIdToken_refused (i : Issuance) (claimsRequest : Option ClaimsRequest) :
    wp (Monitor.ofExec (exec ports)) (u.signIdToken i claimsRequest)
      (fun _ _ => ¬ SecretMissing u i.client)
      (fun _ stop => stop.IsRefusal ↔ SecretMissing u i.client) w := by
  unfold TokenUseCase.signIdToken
  refine (wp_bind _ _).mpr (wp_mono (idTokenMaterial_refused u i.client) ?_ fun _ _ h => h)
  rintro w' ⟨algorithm, sharedSecret⟩ hnot
  have hrest : Unrefused ports (do
      let requested ← u.requestedClaims claimsRequest i.subject
        (if i.context.acr = "" then [] else [("acr", Json.str i.context.acr)])
      let openid20Id ← u.openid20Identifier i.scopes i.subject i.context.openid2Realm
      let subject ← orRaise (displaySubject u.platform i.client i.subject i.subjectMaterial
        u.config.subjectSeed)
      (ask (.createIdToken
        { algorithm := algorithm
          issuer := u.config.issuer
          subject := subject
          audience := i.client.clientId
          expiresAt := Instant.epoch (i.now + seconds (u.accessTokenTtl i.client))
          issuedAt := Instant.epoch i.now
          nonce := i.context.nonce
          sessionId := i.context.sessionId
          authTime := i.context.authTime
          sharedSecret := sharedSecret
          additionalClaims := if openid20Id = "" then requested
            else Json.setMember requested "openid2_id" (.str openid20Id) }) >>= orRaise :
        M TokenError String)) := by
    refine .bind (requestedClaims_unrefused u _ _ _) fun _ => ?_
    refine .bind (openid20Identifier_unrefused u _ _ _) fun _ => ?_
    refine .bind (.orRaise _) fun _ => ?_
    exact .bind (.ask _) fun _ => .orRaise _
  exact wp_mono (hrest w') (fun _ _ _ => hnot) fun _ _ h => iff_of_false h hnot

theorem encryptIdTokenForClient_unrefused (signed : String) (client : Client)
    (secretCipher encrypter : Bool) :
    Unrefused ports
      (encryptIdTokenForClient signed client secretCipher encrypter : M TokenError _) := by
  have hraise : ∀ {α : Type} (x : Raised), Unrefused ports (raise x : M TokenError α) :=
    fun x _ => wp_fail.mpr (not_isRefusal_raised x)
  unfold encryptIdTokenForClient
  split
  · exact .pure _
  split
  · exact hraise _
  refine .bind ?_ fun material => ?_
  · unfold resolveIdTokenEncryption
    split
    · exact .pure _
    split
    · exact .pure _
    split
    · exact .pure _
    split
    · exact .pure _
    exact .bind (.bind (.ask _) fun _ => .orRaise _) fun _ => .pure _
  · split
    · exact hraise _
    · exact .bind (.ask _) fun _ => .orRaise _

/-- The signed token is handed out, encrypted or not, or refused when its
encryption is unavailable. -/
theorem issueIdToken_refused (i : Issuance) (hopenid : Scope.openid ∈ i.scopes) :
    wp (Monitor.ofExec (exec ports)) (u.issueIdToken i (u.claimsRequest i))
      (fun _ _ => ¬ IdTokenRefused u ports i)
      (fun _ stop => stop.IsRefusal ↔ IdTokenRefused u ports i) w := by
  have hstoreless : ∀ {α : Type} {p : M TokenError α}, p.Uses (Call.In [.keys]) →
      ∃ outcome, ∀ w, p.run (exec ports) w = (outcome, w) := fun hp =>
    run_storeless (hp.mono fun _ hc => storeless_of_keys hc)
  obtain ⟨outcome, hsign⟩ := hstoreless (u.signIdToken_uses i (u.claimsRequest i))
  have hsigned : wp (Monitor.ofExec (exec ports)) _ _ _ w :=
    signIdToken_refused u i (u.claimsRequest i)
  have hrefused := wp_ofExec.mp hsigned
  unfold TokenUseCase.issueIdToken
  refine (wp_bind _ _).mpr (wp_ofExec.mpr ?_)
  rw [hsign w] at hrefused ⊢
  rcases outcome with stop | signed
  · refine hrefused.trans ⟨.unsigned hopenid, fun h => ?_⟩
    cases h
    case unsigned hmissing => exact hmissing
    case unencrypted signed _ hsigned _ => cases (hsign w).symm.trans (hsigned w)
  obtain ⟨outcome, hencrypt⟩ := hstoreless (encryptIdTokenForClient_uses signed i.client
    u.config.secretCipher u.config.idTokenEncrypter)
  have hiff : IdTokenRefused u ports i ↔ EncryptionUnavailable u ports i.client signed := by
    refine ⟨fun h => ?_, .unencrypted signed hopenid hsign⟩
    cases h
    case unsigned hmissing => exact absurd hmissing hrefused
    case unencrypted signed' _ hsigned hunavailable =>
        cases (hsign w).symm.trans (hsigned w)
        exact hunavailable
  refine (wp_handle _ _).mpr (wp_ofExec.mpr ?_)
  rw [hencrypt w, hiff]
  rcases outcome with stop | encrypted
  · have hunrefused : wp (Monitor.ofExec (exec ports)) _ _ _ w :=
      encryptIdTokenForClient_unrefused signed i.client u.config.secretCipher
        u.config.idTokenEncrypter w
    have hraised := wp_ofExec.mp hunrefused
    rw [hencrypt w] at hraised
    have hother : ∀ x, stop = .raised x → (∀ text, x ≠ .jweUnavailable text) →
        ¬ EncryptionUnavailable u ports i.client signed := by
      rintro x rfl hx ⟨text, hunavailable⟩
      cases (hencrypt w).symm.trans (hunavailable w)
      exact hx text rfl
    cases stop with
    | refused error => exact absurd ⟨error, rfl⟩ hraised
    | raised x =>
        cases x with
        | jweUnavailable text => exact wp_fail.mpr (iff_of_true ⟨_, rfl⟩ ⟨text, hencrypt⟩)
        | authorizationDetails text | other text =>
            exact wp_fail.mpr (iff_of_false (not_isRefusal_raised _)
              (hother _ rfl fun _ h => by cases h))
  · rintro ⟨text, hunavailable⟩
    cases (hencrypt w).symm.trans (hunavailable w)

theorem resolveAudience_total (client : Client) (scopes : Finset Scope)
    (resources : List String) :
    wp (Monitor.ofExec (exec ports)) (u.resolveAudience client scopes resources)
      (fun w' _ => w' = w) (fun _ _ => False) w := by
  unfold TokenUseCase.resolveAudience
  split
  · exact wp_pure.mpr rfl
  split
  · exact wp_pure.mpr rfl
  unfold ScopeRegistry.audiencesFor
  split
  · exact wp_pure.mpr rfl
  refine wp_ask_bind.mpr ⟨trivial, ?_⟩
  rintro _ rfl
  dsimp only
  split <;> exact wp_pure.mpr rfl

/-- Signing the access token is refused never; it may raise. -/
theorem createAccessToken_raises (i : Issuance) (claimsRequest : Option ClaimsRequest) :
    wp (Monitor.ofExec (exec ports)) (u.createAccessToken i claimsRequest)
      (fun w' _ => Same w w') (fun w' stop => Same w w' ∧ ∃ x, stop = .raised x) w := by
  refine (wp_bind _ _).mpr (wp_mono (resolveAudience_total u _ _ _) ?_
    fun _ _ h => absurd h id)
  rintro w audience rfl
  refine (wp_bind _ _).mpr (wp_op.mpr ⟨trivial, ?_⟩)
  rintro r rfl
  have hsame : Same w (exec ports (.createAccessToken
      (u.accessTokenClaims i audience claimsRequest)) w).2 :=
    exec_same (c := .createAccessToken _) rfl w
  exact wp_orRaise.mpr ⟨fun x _ => ⟨hsame, x, rfl⟩, fun _ _ => hsame⟩

/-- The tokens are issued, or refused exactly when the `id_token` is. -/
theorem issueTokens_refused (i : Issuance) :
    wp (Monitor.ofExec (exec ports)) (u.issueTokens i)
      (fun w' _ => Same w w' ∧ ¬ IdTokenRefused u ports i)
      (fun w' stop => Same w w' ∧ (stop.IsRefusal ↔ IdTokenRefused u ports i)) w := by
  have hraised : ∀ (x : Raised), ¬ IdTokenRefused u ports i →
      ((Stop.raised x : Stop TokenError).IsRefusal ↔ IdTokenRefused u ports i) :=
    fun x hnot => iff_of_false (not_isRefusal_raised x) hnot
  suffices hrefused : wp (Monitor.ofExec (exec ports)) (u.issueTokens i)
      (fun _ _ => ¬ IdTokenRefused u ports i)
      (fun _ stop => stop.IsRefusal ↔ IdTokenRefused u ports i) w from
    wp_and (wp_same (u.issueTokens_uses i) rfl) hrefused
  unfold TokenUseCase.issueTokens
  split
  · rename_i hopenid
    have hnot : ¬ IdTokenRefused u ports i := fun h => hopenid h.openid
    refine (wp_bind _ _).mpr ((wp_bind _ _).mpr
      (wp_mono (createAccessToken_raises u i none)
        (fun _ _ _ => wp_pure.mpr (wp_pure.mpr hnot)) ?_))
    rintro w' stop ⟨-, x, rfl⟩
    exact hraised x hnot
  · rename_i hopenid
    refine (wp_bind _ _).mpr (wp_mono
      (issueIdToken_refused u i (not_not.mp hopenid)) ?_ fun _ _ h => h)
    intro w' idToken hnot
    refine (wp_bind _ _).mpr
      (wp_mono (createAccessToken_raises u i _) (fun _ _ _ => wp_pure.mpr hnot) ?_)
    rintro w'' stop ⟨-, x, rfl⟩
    exact hraised x hnot

/-- What `offlineRefreshToken` changes: the refresh tokens at most. -/
theorem offlineRefreshToken_total (i : Issuance) :
    wp (Monitor.ofExec (exec ports)) (u.offlineRefreshToken i)
      (fun w' _ => w'.codes = w.codes ∧ w'.deviceCodes = w.deviceCodes ∧
        w'.backchannelAuth = w.backchannelAuth) (fun _ _ => False) w := by
  unfold TokenUseCase.offlineRefreshToken
  split
  · refine wp_ask_bind.mpr ⟨trivial, ?_⟩
    rintro value rfl
    exact wp_ask_bind.mpr ⟨trivial, fun _ _ => wp_pure.mpr ⟨rfl, rfl, rfl⟩⟩
  · exact wp_pure.mpr ⟨rfl, rfl, rfl⟩

/-! ## What a refused request may change -/

/-- The bookkeeping of a refused request: the revocation after a replayed
code, the deletion of an expired session, the write-back of a poll. -/
inductive Excepted (u : TokenUseCase) (request : TokenRequest) (w w' : World) : Prop
  | replay (row : AuthorizationCode)
      (hpresents : request.grantType = "authorization_code" ∧ row.code = request.code ∨
        request.grantType = preAuthorizedCodeGrantType ∧
          row.code = request.preAuthorizedCode)
      (hfound : w.codes.find row.code = some row) (hconsumed : row.isConsumed = true)
      (hafter : w'.grants = (w.consumeRefreshToken row.refreshTokenHash).grants)
  | expiredDevice (row : DeviceAuthorization)
      (hgrant : request.grantType = deviceCodeGrantType)
      (hfound : w.deviceCodes.find (tokenHash u.platform request.deviceCode) = some row)
      (hexpired : row.expiresAt < w.clock)
      (hafter : w'.grants
        = { w.grants with deviceCodes := w.deviceCodes.delete row.deviceCodeHash })
  | polledDevice (row : DeviceAuthorization) (tooFast : Bool)
      (hgrant : request.grantType = deviceCodeGrantType)
      (hfound : w.deviceCodes.find (tokenHash u.platform request.deviceCode) = some row)
      (hpending : row.status = .pending)
      (hafter : w'.grants = { w.grants with
        deviceCodes := w.deviceCodes.save (TokenUseCase.polledDevice row w.clock tooFast) })
  | expiredBackchannel (row : BackchannelAuthenticationRequest)
      (hgrant : request.grantType = cibaGrantType)
      (hfound : w.backchannelAuth.find (tokenHash u.platform request.authReqId) = some row)
      (hexpired : row.expiresAt < w.clock)
      (hafter : w'.grants
        = { w.grants with backchannelAuth := w.backchannelAuth.delete row.authReqIdHash })
  | polledBackchannel (row : BackchannelAuthenticationRequest) (tooFast : Bool)
      (hgrant : request.grantType = cibaGrantType)
      (hfound : w.backchannelAuth.find (tokenHash u.platform request.authReqId) = some row)
      (hpending : row.status = .pending)
      (hafter : w'.grants = { w.grants with
        backchannelAuth :=
          w.backchannelAuth.save (TokenUseCase.polledCiba row w.clock tooFast) })

/-- The grants are as before the request, up to the bookkeeping. -/
def Untouched (u : TokenUseCase) (request : TokenRequest) (w w' : World) : Prop :=
  w'.grants = w.grants ∨ Excepted u request w w'

theorem Untouched.codes {request : TokenRequest} {w' : World}
    (h : Untouched u request w w') : w'.codes = w.codes := by
  have hcodes : ∀ g : Grants, w'.grants = g → w'.codes = g.codes := by
    rintro g rfl
    rfl
  rcases h with h | h
  · exact hcodes _ h
  · cases h
    case replay hafter => exact hcodes _ hafter
    case expiredDevice hafter => exact hcodes _ hafter
    case polledDevice hafter => exact hcodes _ hafter
    case expiredBackchannel hafter => exact hcodes _ hafter
    case polledBackchannel hafter => exact hcodes _ hafter

/-- Only the `client_id` of the request differs. -/
theorem Untouched.of_clientId {request : TokenRequest} {clientId : String} {w' : World}
    (h : Untouched u { request with clientId := clientId } w w') :
    Untouched u request w w' := by
  rcases h with h | h
  · exact .inl h
  · refine .inr ?_
    cases h
    case replay row hpresents hfound hconsumed hafter =>
        exact .replay row hpresents hfound hconsumed hafter
    case expiredDevice row hgrant hfound hexpired hafter =>
        exact .expiredDevice row hgrant hfound hexpired hafter
    case polledDevice row tooFast hgrant hfound hpending hafter =>
        exact .polledDevice row tooFast hgrant hfound hpending hafter
    case expiredBackchannel row hgrant hfound hexpired hafter =>
        exact .expiredBackchannel row hgrant hfound hexpired hafter
    case polledBackchannel row tooFast hgrant hfound hpending hafter =>
        exact .polledBackchannel row tooFast hgrant hfound hpending hafter

/-! ## Checks write nothing, flows write before they issue -/

/-- A flow in two parts: its checks leave the grants untouched, and after
them it is refused with the grants touched exactly when `L` says so. -/
theorem refused_untouched_iff {γ : Type} {request : TokenRequest}
    {checks : M TokenError γ} {flow : γ → M TokenError TokenResponse}
    {K : World → γ → Prop} {L : γ → Prop}
    (hchecks : wp (Monitor.ofExec (exec ports)) checks K
      (fun w' _ => Untouched u request w w') w)
    (hflow : ∀ w₁ g, K w₁ g → wp (Monitor.ofExec (exec ports)) (flow g)
      (fun _ _ => ¬ L g)
      (fun w' stop =>
        (L g → stop.IsRefusal ∧ ¬ Untouched u request w w') ∧
        (¬ L g → stop.IsRefusal → Untouched u request w w')) w₁) :
    (∀ error w', (checks >>= flow).run (exec ports) w = (.error (.refused error), w') →
        Untouched u request w w') ↔
      ¬ ∃ g w₁, checks.run (exec ports) w = (.ok g, w₁) ∧ L g := by
  rw [wp_ofExec] at hchecks
  simp only [Prog.run_bind]
  rcases hrun : checks.run (exec ports) w with ⟨stop | g, w₁⟩
  · rw [hrun] at hchecks
    constructor
    · rintro - ⟨g, w₂, h, -⟩
      cases h
    · rintro - error w' h
      cases h
      exact hchecks
  · rw [hrun] at hchecks
    have hafter := wp_ofExec.mp (hflow w₁ g hchecks)
    rcases hend : (flow g).run (exec ports) w₁ with ⟨stop | response, w₂⟩
    · rw [hend] at hafter
      constructor
      · rintro huntouched ⟨g', w₁', h, hlate⟩
        cases h
        obtain ⟨⟨error, rfl⟩, htouched⟩ := hafter.1 hlate
        exact htouched (huntouched error w₂ hend)
      · intro hnot error w' h
        cases hend.symm.trans h
        exact hafter.2 (fun hlate => hnot ⟨g, w₁, rfl, hlate⟩) ⟨error, rfl⟩
    · rw [hend] at hafter
      constructor
      · rintro - ⟨g', w₁', h, hlate⟩
        cases h
        exact hafter hlate
      · intro _ error w' h
        cases hend.symm.trans h

theorem revokeIssuedTokens_grants (row : AuthorizationCode) :
    wp (Monitor.ofExec (exec ports)) (u.revokeIssuedTokens row)
      (fun w' _ => w'.grants = w.grants ∨
        w'.grants = (w.consumeRefreshToken row.refreshTokenHash).grants)
      (fun _ _ => False) w := by
  unfold TokenUseCase.revokeIssuedTokens
  refine (wp_bind _ _).mpr (wp_mono (Q := fun w' _ => w'.grants = w.grants)
    (E := fun _ _ => False) ?_ ?_ fun _ _ h => h)
  · split
    · exact wp_op.mpr ⟨trivial, fun _ _ => rfl⟩
    · exact wp_pure.mpr rfl
  · intro w' _ hsame
    split
    · exact wp_op.mpr ⟨trivial, fun _ _ => .inr (consumeRefreshToken_grants hsame _)⟩
    · exact wp_pure.mpr (.inl hsame)

theorem checkCode_untouched {request : TokenRequest}
    (hgrant : request.grantType = "authorization_code") :
    wp (Monitor.ofExec (exec ports)) (u.checkCode request)
      (fun w₁ g => Same w w₁ ∧ w.codes.find g.stored.code = some g.stored ∧
        g.stored.isConsumed = false)
      (fun w' _ => Untouched u request w w') w := by
  have hkeep : ∀ {w₁ w' : World} (_ : Stop TokenError), Same w w₁ → Same w₁ w' →
      Untouched u request w w' := fun _ h h' => .inl (h.trans h').grants
  unfold TokenUseCase.checkCode
  refine wp_orRefuse_bind.mpr (wp_op.mpr ⟨trivial, ?_⟩)
  rintro found rfl
  refine ⟨fun _ => .inl rfl, fun row hrow => ?_⟩
  have hcode : row.code = request.code := Table.find_key hrow
  have hfound : w.codes.find row.code = some row := by rw [hcode]; exact hrow
  split
  · rename_i hconsumed
    refine (wp_bind _ _).mpr (wp_mono (revokeIssuedTokens_grants u row) ?_
      fun _ _ h => absurd h id)
    rintro w' - (hsame | hreplay)
    · exact wp_fail.mpr (.inl hsame)
    · exact wp_fail.mpr (.inr (.replay row (.inl ⟨hgrant, hcode⟩) hfound hconsumed hreplay))
  rename_i hconsumed
  refine wp_exec_bind.mpr ?_
  refine wp_refuseIf_bind.mpr ⟨fun _ => .inl rfl, fun _ => ?_⟩
  refine wp_same_bind (u.validateCodeExchange_uses _ _) rfl
    (fun w' stop h => hkeep stop (.refl w) h) fun w₁ client h₁ => ?_
  refine wp_same_bind (u.evaluateDpop_uses _ _ _) rfl (fun w' stop h => hkeep stop h₁ h)
    fun w₂ binding h₂ => ?_
  refine wp_same_bind (u.effectiveResources_uses _ _) rfl
    (fun w' stop h => hkeep stop (h₁.trans h₂) h) fun w₃ resources h₃ => ?_
  exact wp_pure.mpr ⟨(h₁.trans h₂).trans h₃, hfound, by simpa using hconsumed⟩

/-- From `consume` on, the code is gone. -/
theorem redeemCode_touches {request : TokenRequest} {g : Granted AuthorizationCode}
    {w₁ : World} (hsame : Same w w₁) (hfound : w.codes.find g.stored.code = some g.stored)
    (hconsumed : g.stored.isConsumed = false) :
    wp (Monitor.ofExec (exec ports)) (u.redeemCode request g)
      (fun _ _ => ¬ IdTokenRefused u ports (u.codeIssuance request g))
      (fun w' stop => (IdTokenRefused u ports (u.codeIssuance request g) →
          stop.IsRefusal ∧ ¬ Untouched u request w w') ∧
        (¬ IdTokenRefused u ports (u.codeIssuance request g) →
          stop.IsRefusal → Untouched u request w w')) w₁ := by
  unfold TokenUseCase.redeemCode
  refine wp_exec_bind.mpr ?_
  have hcodes : (exec ports (.consumeCode g.stored.code) w₁).2.codes.find g.stored.code
      = some { g.stored with isConsumed := true } := by
    show (w₁.consumeCode g.stored.code).codes.find g.stored.code = _
    simp [World.consumeCode, hsame.codes, hfound]
  refine (wp_bind _ _).mpr (wp_mono (offlineRefreshToken_total u _) ?_
    fun _ _ h => absurd h id)
  rintro w₂ refreshToken ⟨hcodes₂, -, -⟩
  refine (wp_bind _ _).mpr (wp_mono (issueTokens_refused u _) ?_ ?_)
  · rintro w₃ issued ⟨-, hissued⟩
    exact wp_ask_bind.mpr ⟨trivial, fun _ _ => wp_pure.mpr hissued⟩
  · rintro w₃ stop ⟨hsame₃, hiff⟩
    refine ⟨fun hlate => ⟨hiff.mpr hlate, fun huntouched => ?_⟩,
      fun hnot hrefused => absurd (hiff.mp hrefused) hnot⟩
    have hlost := huntouched.codes
    rw [hsame₃.codes, hcodes₂] at hlost
    rw [hlost, hfound] at hcodes
    have hrow := congrArg AuthorizationCode.isConsumed (Option.some.inj hcodes)
    rw [hconsumed] at hrow
    cases hrow

theorem Untouched.refreshTokens {request : TokenRequest} {w' : World}
    (h : Untouched u request w w') (hgrant : request.grantType = "refresh_token") :
    w'.refreshTokens = w.refreshTokens := by
  have htokens : ∀ g : Grants, w'.grants = g → w'.refreshTokens = g.refreshTokens := by
    rintro g rfl
    rfl
  rcases h with h | h
  · exact htokens _ h
  · cases h
    case replay hpresents _ _ hafter =>
        rcases hpresents with ⟨hother, -⟩ | ⟨hother, -⟩ <;>
          exact absurd (hgrant.symm.trans hother) (by decide)
    case expiredDevice hafter => exact htokens _ hafter
    case polledDevice hafter => exact htokens _ hafter
    case expiredBackchannel hafter => exact htokens _ hafter
    case polledBackchannel hafter => exact htokens _ hafter

/-- The values drawn from now on have digests no refresh token has. -/
def FreshDraws (ports : Ports) (w : World) : Prop :=
  ∀ n, w.draws ≤ n →
    w.refreshTokens.find (tokenHash u.platform (ports.tokenUrlsafe n)) = none

theorem checkRefresh_untouched {request : TokenRequest} :
    wp (Monitor.ofExec (exec ports)) (u.checkRefresh request)
      (fun w₁ _ => Same w w₁) (fun w' _ => Untouched u request w w') w := by
  unfold TokenUseCase.checkRefresh
  refine wp_refuseIf_bind.mpr ⟨fun _ => .inl rfl, fun _ => ?_⟩
  refine wp_same_bind (TokenUseCase.activeClient_uses _ _) rfl
    (fun w' stop h => .inl h.grants) fun w₁ client h₁ => ?_
  refine wp_same_bind (u.authenticateClient_uses _ _) rfl
    (fun w' stop h => .inl (h₁.trans h).grants) fun w₂ _ h₂ => ?_
  refine (wp_bind _ _).mpr (wp_mono (Q := fun w' _ => Same w w') (E := fun w' _ => Same w w')
    ?_ ?_ fun w' stop h => .inl h.grants)
  · have hsame := h₁.trans h₂
    unfold TokenUseCase.resolveRefreshGrant
    refine wp_orRefuse_bind.mpr (wp_op.mpr ⟨trivial, ?_⟩)
    rintro found rfl
    refine ⟨fun _ => hsame, fun row hrow => ?_⟩
    refine wp_refuseIf_bind.mpr ⟨fun _ => hsame, fun _ => ?_⟩
    refine wp_refuseIf_bind.mpr ⟨fun _ => hsame, fun _ => ?_⟩
    refine wp_exec_bind.mpr ?_
    refine wp_refuseIf_bind.mpr ⟨fun _ => hsame, fun _ => ?_⟩
    exact wp_refuseIf_bind.mpr ⟨fun _ => hsame, fun _ => wp_pure.mpr hsame⟩
  rintro w₃ ⟨stored, scopes⟩ h₃
  refine wp_refuseIf_bind.mpr ⟨fun _ => .inl h₃.grants, fun _ => ?_⟩
  refine wp_exec_bind.mpr ?_
  refine wp_same_bind (u.evaluateDpop_uses _ _ _) rfl
    (fun w' stop h => .inl (h₃.trans h).grants) fun w₄ binding h₄ => ?_
  refine wp_same_bind (u.effectiveResources_uses _ _) rfl
    (fun w' stop h => .inl ((h₃.trans h₄).trans h).grants) fun w₅ resources h₅ => ?_
  exact wp_pure.mpr ((h₃.trans h₄).trans h₅)

/-- From the rotation on, there is a refresh token more. -/
theorem renew_touches {request : TokenRequest} (hgrant : request.grantType = "refresh_token")
    (hfresh : FreshDraws u ports w) {g : Granted (RefreshToken × Finset Scope)} {w₁ : World}
    (hsame : Same w w₁) :
    wp (Monitor.ofExec (exec ports)) (u.renew request g)
      (fun _ _ => ¬ (g.client.fapi2Enabled = false ∧
        IdTokenRefused u ports (u.refreshIssuance request g)))
      (fun w' stop => (g.client.fapi2Enabled = false ∧
          IdTokenRefused u ports (u.refreshIssuance request g) →
          stop.IsRefusal ∧ ¬ Untouched u request w w') ∧
        (¬ (g.client.fapi2Enabled = false ∧
            IdTokenRefused u ports (u.refreshIssuance request g)) →
          stop.IsRefusal → Untouched u request w w')) w₁ := by
  unfold TokenUseCase.renew TokenUseCase.rotate
  split
  · rename_i hfapi2
    have hnot : ¬ (g.client.fapi2Enabled = false ∧
        IdTokenRefused u ports (u.refreshIssuance request g)) := by
      rintro ⟨hfalse, -⟩
      rw [hfapi2] at hfalse
      cases hfalse
    rw [Prog.pure_bind]
    refine (wp_bind _ _).mpr (wp_mono (issueTokens_refused u _) ?_ ?_)
    · exact fun _ _ _ => wp_pure.mpr hnot
    · exact fun w₂ stop h => ⟨fun hlate => absurd hlate hnot,
        fun _ _ => .inl (hsame.trans h.1).grants⟩
  · rename_i hfapi2
    have hrotates : g.client.fapi2Enabled = false := by simpa using hfapi2
    refine (wp_bind _ _).mpr (wp_exec_bind.mpr ?_)
    unfold TokenUseCase.issueRefreshToken
    refine wp_exec_bind.mpr (wp_exec_bind.mpr ?_)
    generalize hrow : u.refreshTokenRow _ _ = row
    have hadded : ∃ n, w.draws ≤ n ∧
        row.tokenHash = tokenHash u.platform (ports.tokenUrlsafe n) := by
      refine ⟨w₁.draws, hsame.draws, ?_⟩
      rw [← hrow]
      rfl
    generalize hw₂ : (exec ports (.saveRefreshToken row) _).2 = w₂
    have hfound : w₂.refreshTokens.find row.tokenHash = some row := by
      rw [← hw₂]
      exact Table.find_save_self _ row
    refine wp_pure.mpr ((wp_bind _ _).mpr (wp_mono (issueTokens_refused u _) ?_ ?_))
    · exact fun w₃ issued h => wp_pure.mpr fun hlate => h.2 hlate.2
    · rintro w₃ stop ⟨hsame₃, hiff⟩
      refine ⟨fun hlate => ⟨hiff.mpr hlate.2, fun huntouched => ?_⟩, fun hnot hrefused =>
        absurd ⟨hrotates, hiff.mp hrefused⟩ hnot⟩
      obtain ⟨n, hn, hhash⟩ := hadded
      have hnone := hfresh n hn
      rw [← hhash, ← huntouched.refreshTokens u hgrant, hsame₃.refreshTokens, hfound] at hnone
      cases hnone

/-! ## Sessions -/

theorem saveDevice_grants {w' : World} (h : w'.grants = w.grants)
    (row : DeviceAuthorization) :
    (exec ports (.saveDevice row) w').2.grants
      = { w.grants with deviceCodes := w.deviceCodes.save row } := by
  simp only [World.grants, Grants.mk.injEq] at h
  obtain ⟨hcodes, htokens, hdevices, hbackchannel⟩ := h
  simp only [World.grants, exec, hcodes, htokens, hdevices, hbackchannel]

theorem deleteDevice_grants {w' : World} (h : w'.grants = w.grants) (k : String) :
    (exec ports (.deleteDevice k) w').2.grants
      = { w.grants with deviceCodes := w.deviceCodes.delete k } := by
  simp only [World.grants, Grants.mk.injEq] at h
  obtain ⟨hcodes, htokens, hdevices, hbackchannel⟩ := h
  simp only [World.grants, exec, hcodes, htokens, hdevices, hbackchannel]

theorem saveBackchannel_grants {w' : World} (h : w'.grants = w.grants)
    (row : BackchannelAuthenticationRequest) :
    (exec ports (.saveBackchannel row) w').2.grants
      = { w.grants with backchannelAuth := w.backchannelAuth.save row } := by
  simp only [World.grants, Grants.mk.injEq] at h
  obtain ⟨hcodes, htokens, hdevices, hbackchannel⟩ := h
  simp only [World.grants, exec, hcodes, htokens, hdevices, hbackchannel]

theorem deleteBackchannel_grants {w' : World} (h : w'.grants = w.grants) (k : String) :
    (exec ports (.deleteBackchannel k) w').2.grants
      = { w.grants with backchannelAuth := w.backchannelAuth.delete k } := by
  simp only [World.grants, Grants.mk.injEq] at h
  obtain ⟨hcodes, htokens, hdevices, hbackchannel⟩ := h
  simp only [World.grants, exec, hcodes, htokens, hdevices, hbackchannel]

/-- What the checks of a device poll end with. -/
structure DeviceChecked (u : TokenUseCase) (request : TokenRequest) (w w₁ : World)
    (g : Granted DeviceAuthorization) : Prop where
  same : Same w w₁
  enabled : u.deviceCodes = true
  found : w.deviceCodes.find (tokenHash u.platform request.deviceCode) = some g.stored
  current : ¬ g.stored.expiresAt < w.clock
  undenied : g.stored.status ≠ .denied
  now : g.now = w.clock

theorem checkDevice_untouched {request : TokenRequest}
    (hgrant : request.grantType = deviceCodeGrantType) :
    wp (Monitor.ofExec (exec ports)) (u.checkDevice request)
      (DeviceChecked u request w) (fun w' _ => Untouched u request w w') w := by
  unfold TokenUseCase.checkDevice
  refine wp_refuseIf_bind.mpr ⟨fun _ => .inl rfl, fun henabled => ?_⟩
  refine wp_refuseIf_bind.mpr ⟨fun _ => .inl rfl, fun _ => ?_⟩
  refine wp_same_bind (TokenUseCase.activeClient_uses _ _) rfl
    (fun w' stop h => .inl h.grants) fun w₁ client h₁ => ?_
  refine wp_same_bind (u.authenticateClient_uses _ _) rfl
    (fun w' stop h => .inl (h₁.trans h).grants) fun w₂ _ h₂ => ?_
  refine wp_same_bind (u.evaluateDpop_uses _ _ _) rfl
    (fun w' stop h => .inl ((h₁.trans h₂).trans h).grants) fun w₃ binding h₃ => ?_
  have hsame := (h₁.trans h₂).trans h₃
  refine (wp_bind _ _).mpr ?_
  unfold TokenUseCase.loadDeviceSession
  refine wp_orRefuse_bind.mpr (wp_op.mpr ⟨trivial, ?_⟩)
  rintro found rfl
  refine ⟨fun _ => .inl hsame.grants, fun row hrow => ?_⟩
  have hfound : w.deviceCodes.find (tokenHash u.platform request.deviceCode) = some row := by
    rw [← hsame.deviceCodes]
    exact hrow
  change wp (Monitor.ofExec (exec ports)) _ _ _ w₃
  refine wp_refuseIf_bind.mpr ⟨fun _ => .inl hsame.grants, fun _ => ?_⟩
  refine (wp_read_bind rfl).mpr ?_
  have hclock : (exec ports .now w₃).1 = w.clock := hsame.clock
  rw [hclock]
  split
  · rename_i hexpired
    refine wp_exec_bind.mpr (wp_fail.mpr (.inr (.expiredDevice row hgrant hfound hexpired ?_)))
    exact deleteDevice_grants hsame.grants _
  rename_i hcurrent
  refine wp_refuseIf_bind.mpr ⟨fun _ => .inl hsame.grants, fun hdenied => ?_⟩
  refine wp_pure.mpr (wp_same_bind (u.effectiveResources_uses _ _) rfl
    (fun w' stop h => .inl (hsame.trans h).grants) fun w₄ resources h₄ => ?_)
  refine wp_exec_bind.mpr (wp_pure.mpr ⟨hsame.trans h₄, not_not.mp henabled, hfound, hcurrent,
    hdenied, ?_⟩)
  exact h₄.clock.trans hsame.clock

/-- An approved session is gone from its deletion on; a pending one is
written back. -/
theorem pollDevice_touches {request : TokenRequest}
    (hgrant : request.grantType = deviceCodeGrantType) {g : Granted DeviceAuthorization}
    {w₁ : World} (hg : DeviceChecked u request w w₁ g) {L : Prop}
    (hL : L ↔ g.stored.status = .approved ∧ IdTokenRefused u ports
      (TokenUseCase.deviceIssuance g (u.tlsCertificateBoundHash g.client request))) :
    wp (Monitor.ofExec (exec ports)) (u.pollDevice request g) (fun _ _ => ¬ L)
      (fun w' stop => (L → stop.IsRefusal ∧ ¬ Untouched u request w w') ∧
        (¬ L → stop.IsRefusal → Untouched u request w w')) w₁ := by
  unfold TokenUseCase.pollDevice
  split
  · rename_i happroved
    unfold TokenUseCase.deviceApprovedFlow
    refine wp_refuseIf_bind.mpr ⟨fun h => absurd hg.enabled h, fun _ => ?_⟩
    refine wp_exec_bind.mpr ((wp_bind _ _).mpr
      (wp_mono (offlineRefreshToken_total u _) ?_ fun _ _ h => absurd h id))
    rintro w₂ refreshToken ⟨-, hdevices, -⟩
    refine (wp_bind _ _).mpr (wp_mono (issueTokens_refused u _) ?_ ?_)
    · exact fun w₃ issued h => wp_pure.mpr fun hlate => h.2 (hL.mp hlate).2
    · rintro w₃ stop ⟨hsame₃, hiff⟩
      refine ⟨fun hlate => ⟨hiff.mpr (hL.mp hlate).2, fun huntouched => ?_⟩,
        fun hnot hrefused => absurd (hL.mpr ⟨happroved, hiff.mp hrefused⟩) hnot⟩
      have hkey : g.stored.deviceCodeHash = tokenHash u.platform request.deviceCode :=
        Table.find_key hg.found
      have hgone : w₃.deviceCodes.find (tokenHash u.platform request.deviceCode) = none := by
        rw [hsame₃.deviceCodes, hdevices, ← hkey]
        exact Table.find_delete_self _ _
      have hdevice : ∀ g' : Grants, w₃.grants = g' → w₃.deviceCodes = g'.deviceCodes := by
        rintro _ rfl
        rfl
      rcases huntouched with hsame | hexcepted
      · rw [hdevice _ hsame] at hgone
        cases hgone.symm.trans hg.found
      · cases hexcepted
        case replay hpresents _ _ _ =>
            rcases hpresents with ⟨hother, -⟩ | ⟨hother, -⟩ <;>
              exact absurd (hgrant.symm.trans hother) (by decide)
        case expiredDevice row _ hfound hexpired _ =>
            cases hg.found.symm.trans hfound
            exact hg.current hexpired
        case polledDevice row _ _ hfound hpending _ =>
            cases hg.found.symm.trans hfound
            rw [happroved] at hpending
            cases hpending
        case expiredBackchannel hother _ _ _ =>
            exact absurd (hgrant.symm.trans hother) (by decide)
        case polledBackchannel hother _ _ _ =>
            exact absurd (hgrant.symm.trans hother) (by decide)
  · rename_i happroved
    have hnot : ¬ L := fun hlate => happroved (hL.mp hlate).1
    have hpending : g.stored.status = .pending := by
      cases h : g.stored.status
      case pending => rfl
      case approved => exact absurd h happroved
      case denied => exact absurd h hg.undenied
    unfold TokenUseCase.devicePendingResponse
    rw [hg.now]
    split
    · refine wp_exec_bind.mpr (wp_fail.mpr ⟨fun hlate => absurd hlate hnot, fun _ _ => .inr ?_⟩)
      exact .polledDevice g.stored true hgrant hg.found hpending
        (saveDevice_grants hg.same.grants _)
    · refine wp_exec_bind.mpr (wp_fail.mpr ⟨fun hlate => absurd hlate hnot, fun _ _ => .inr ?_⟩)
      exact .polledDevice g.stored false hgrant hg.found hpending
        (saveDevice_grants hg.same.grants _)

/-- What the checks of a backchannel poll end with. -/
structure CibaChecked (u : TokenUseCase) (request : TokenRequest) (w w₁ : World)
    (g : Granted BackchannelAuthenticationRequest) : Prop where
  same : Same w w₁
  enabled : u.backchannelAuth = true
  found : w.backchannelAuth.find (tokenHash u.platform request.authReqId) = some g.stored
  current : ¬ g.stored.expiresAt < w.clock
  undenied : g.stored.status ≠ .denied
  now : g.now = w.clock

theorem checkCiba_untouched {request : TokenRequest}
    (hgrant : request.grantType = cibaGrantType) :
    wp (Monitor.ofExec (exec ports)) (u.checkCiba request)
      (CibaChecked u request w) (fun w' _ => Untouched u request w w') w := by
  unfold TokenUseCase.checkCiba
  refine wp_refuseIf_bind.mpr ⟨fun _ => .inl rfl, fun henabled => ?_⟩
  refine wp_refuseIf_bind.mpr ⟨fun _ => .inl rfl, fun _ => ?_⟩
  refine wp_same_bind (TokenUseCase.activeClient_uses _ _) rfl
    (fun w' stop h => .inl h.grants) fun w₁ client h₁ => ?_
  refine wp_same_bind (u.authenticateClient_uses _ _) rfl
    (fun w' stop h => .inl (h₁.trans h).grants) fun w₂ _ h₂ => ?_
  refine wp_same_bind (u.evaluateDpop_uses _ _ _) rfl
    (fun w' stop h => .inl ((h₁.trans h₂).trans h).grants) fun w₃ binding h₃ => ?_
  have hsame := (h₁.trans h₂).trans h₃
  refine (wp_bind _ _).mpr ?_
  unfold TokenUseCase.loadCibaSession
  refine wp_orRefuse_bind.mpr (wp_op.mpr ⟨trivial, ?_⟩)
  rintro found rfl
  refine ⟨fun _ => .inl hsame.grants, fun row hrow => ?_⟩
  have hfound : w.backchannelAuth.find (tokenHash u.platform request.authReqId) = some row := by
    rw [← hsame.backchannelAuth]
    exact hrow
  change wp (Monitor.ofExec (exec ports)) _ _ _ w₃
  refine wp_refuseIf_bind.mpr ⟨fun _ => .inl hsame.grants, fun _ => ?_⟩
  refine (wp_read_bind rfl).mpr ?_
  have hclock : (exec ports .now w₃).1 = w.clock := hsame.clock
  rw [hclock]
  split
  · rename_i hexpired
    refine wp_exec_bind.mpr (wp_fail.mpr (.inr (.expiredBackchannel row hgrant hfound hexpired ?_)))
    exact deleteBackchannel_grants hsame.grants _
  rename_i hcurrent
  refine wp_refuseIf_bind.mpr ⟨fun _ => .inl hsame.grants, fun _ => ?_⟩
  refine wp_refuseIf_bind.mpr ⟨fun _ => .inl hsame.grants, fun hdenied => ?_⟩
  refine wp_pure.mpr (wp_same_bind (u.effectiveResources_uses _ _) rfl
    (fun w' stop h => .inl (hsame.trans h).grants) fun w₄ resources h₄ => ?_)
  refine wp_exec_bind.mpr (wp_pure.mpr ⟨hsame.trans h₄, not_not.mp henabled, hfound, hcurrent,
    hdenied, ?_⟩)
  exact h₄.clock.trans hsame.clock

/-- The same of a backchannel session. -/
theorem pollCiba_touches {request : TokenRequest}
    (hgrant : request.grantType = cibaGrantType) {g : Granted BackchannelAuthenticationRequest}
    {w₁ : World} (hg : CibaChecked u request w w₁ g) {L : Prop}
    (hL : L ↔ g.stored.status = .approved ∧ IdTokenRefused u ports
      (TokenUseCase.cibaIssuance g (u.tlsCertificateBoundHash g.client request))) :
    wp (Monitor.ofExec (exec ports)) (u.pollCiba request g) (fun _ _ => ¬ L)
      (fun w' stop => (L → stop.IsRefusal ∧ ¬ Untouched u request w w') ∧
        (¬ L → stop.IsRefusal → Untouched u request w w')) w₁ := by
  unfold TokenUseCase.pollCiba
  split
  · rename_i happroved
    unfold TokenUseCase.cibaApprovedFlow
    refine wp_refuseIf_bind.mpr ⟨fun h => absurd hg.enabled h, fun _ => ?_⟩
    refine wp_exec_bind.mpr ((wp_bind _ _).mpr
      (wp_mono (offlineRefreshToken_total u _) ?_ fun _ _ h => absurd h id))
    rintro w₂ refreshToken ⟨-, -, hbackchannel⟩
    refine (wp_bind _ _).mpr (wp_mono (issueTokens_refused u _) ?_ ?_)
    · exact fun w₃ issued h => wp_pure.mpr fun hlate => h.2 (hL.mp hlate).2
    · rintro w₃ stop ⟨hsame₃, hiff⟩
      refine ⟨fun hlate => ⟨hiff.mpr (hL.mp hlate).2, fun huntouched => ?_⟩,
        fun hnot hrefused => absurd (hL.mpr ⟨happroved, hiff.mp hrefused⟩) hnot⟩
      have hkey : g.stored.authReqIdHash = tokenHash u.platform request.authReqId :=
        Table.find_key hg.found
      have hgone : w₃.backchannelAuth.find (tokenHash u.platform request.authReqId) = none := by
        rw [hsame₃.backchannelAuth, hbackchannel, ← hkey]
        exact Table.find_delete_self _ _
      have hsession : ∀ g' : Grants, w₃.grants = g' → w₃.backchannelAuth = g'.backchannelAuth := by
        rintro _ rfl
        rfl
      rcases huntouched with hsame | hexcepted
      · rw [hsession _ hsame] at hgone
        cases hgone.symm.trans hg.found
      · cases hexcepted
        case replay hpresents _ _ _ =>
            rcases hpresents with ⟨hother, -⟩ | ⟨hother, -⟩ <;>
              exact absurd (hgrant.symm.trans hother) (by decide)
        case expiredBackchannel row _ hfound hexpired _ =>
            cases hg.found.symm.trans hfound
            exact hg.current hexpired
        case polledBackchannel row _ _ hfound hpending _ =>
            cases hg.found.symm.trans hfound
            rw [happroved] at hpending
            cases hpending
        case expiredDevice hother _ _ _ =>
            exact absurd (hgrant.symm.trans hother) (by decide)
        case polledDevice hother _ _ _ =>
            exact absurd (hgrant.symm.trans hother) (by decide)
  · rename_i happroved
    have hnot : ¬ L := fun hlate => happroved (hL.mp hlate).1
    have hpending : g.stored.status = .pending := by
      cases h : g.stored.status
      case pending => rfl
      case approved => exact absurd h happroved
      case denied => exact absurd h hg.undenied
    unfold TokenUseCase.cibaPendingResponse
    rw [hg.now]
    split
    · refine wp_exec_bind.mpr (wp_fail.mpr ⟨fun hlate => absurd hlate hnot, fun _ _ => .inr ?_⟩)
      exact .polledBackchannel g.stored true hgrant hg.found hpending
        (saveBackchannel_grants hg.same.grants _)
    · refine wp_exec_bind.mpr (wp_fail.mpr ⟨fun hlate => absurd hlate hnot, fun _ _ => .inr ?_⟩)
      exact .polledBackchannel g.stored false hgrant hg.found hpending
        (saveBackchannel_grants hg.same.grants _)

/-! ## Pre-authorized codes -/

theorem checkPreAuthorizedCode_untouched {request : TokenRequest}
    (hgrant : request.grantType = preAuthorizedCodeGrantType) :
    wp (Monitor.ofExec (exec ports)) (u.checkPreAuthorizedCode request)
      (fun w₁ _ => Same w w₁) (fun w' _ => Untouched u request w w') w := by
  unfold TokenUseCase.checkPreAuthorizedCode
  refine (wp_read_bind rfl).mpr ?_
  refine (wp_bind _ _).mpr (wp_mono (Q := fun w' _ => w' = w)
    (E := fun w' _ => Untouched u request w w') ?_ ?_ fun _ _ h => h)
  · unfold TokenUseCase.resolvePreAuthorizedCode
    refine wp_orRefuse_bind.mpr (wp_op.mpr ⟨trivial, ?_⟩)
    rintro found rfl
    refine ⟨fun _ => .inl rfl, fun row hrow => ?_⟩
    have hcode : row.code = request.preAuthorizedCode := Table.find_key hrow
    have hfound : w.codes.find row.code = some row := by rw [hcode]; exact hrow
    change wp (Monitor.ofExec (exec ports)) _ _ _ w
    refine wp_refuseIf_bind.mpr ⟨fun _ => .inl rfl, fun _ => ?_⟩
    split
    · rename_i hconsumed
      refine (wp_bind _ _).mpr (wp_mono (revokeIssuedTokens_grants u row) ?_
        fun _ _ h => absurd h id)
      rintro w' - (hsame | hreplay)
      · exact wp_fail.mpr (.inl hsame)
      · exact wp_fail.mpr (.inr (.replay row (.inr ⟨hgrant, hcode⟩) hfound hconsumed hreplay))
    · exact wp_refuseIf_bind.mpr ⟨fun _ => .inl rfl, fun _ => wp_pure.mpr rfl⟩
  rintro _ row rfl
  refine wp_same_bind (TokenUseCase.activeClient_uses _ _) rfl
    (fun w' stop h => .inl h.grants) fun w₁ client h₁ => ?_
  refine wp_same_bind (u.authenticateClient_uses _ _) rfl
    (fun w' stop h => .inl (h₁.trans h).grants) fun w₂ _ h₂ => ?_
  have hsame := h₁.trans h₂
  refine wp_refuseIf_bind.mpr ⟨fun _ => .inl hsame.grants, fun _ => ?_⟩
  refine wp_refuseIf_bind.mpr ⟨fun _ => .inl hsame.grants, fun _ => ?_⟩
  refine wp_same_bind (u.evaluateDpop_uses _ _ _) rfl
    (fun w' stop h => .inl (hsame.trans h).grants) fun w₃ binding h₃ => ?_
  refine wp_same_bind (u.effectiveResources_uses _ _) rfl
    (fun w' stop h => .inl ((hsame.trans h₃).trans h).grants) fun w₄ resources h₄ => ?_
  exact wp_pure.mpr ((hsame.trans h₃).trans h₄)

/-- No `id_token`: a redeemed pre-authorized code is never refused. -/
theorem redeemPreAuthorizedCode_unrefused (request : TokenRequest)
    (g : Granted AuthorizationCode) :
    Unrefused ports (u.redeemPreAuthorizedCode request g) := by
  refine .bind (.ask _) fun _ => .bind (.bind (fun w => ?_) fun _ => .pure _) fun _ => .pure _
  refine wp_mono (createAccessToken_raises u _ _) (fun _ _ _ => trivial) ?_
  rintro _ _ ⟨-, x, rfl⟩
  exact not_isRefusal_raised x

/-! ## Every request -/

/-- The request passes every check of its grant, and the `id_token` of the
grant is refused then. FAPI2 renewals and pre-authorized codes are out. -/
inductive RefusedLate (ports : Ports) (request : TokenRequest) (w : World) : Prop
  | code (g : Granted AuthorizationCode) (w₁ : World)
      (hgrant : request.grantType = "authorization_code")
      (hchecks : (u.checkCode request).run (exec ports) w = (.ok g, w₁))
      (hrefused : IdTokenRefused u ports (u.codeIssuance request g))
  | refresh (g : Granted (RefreshToken × Finset Scope)) (w₁ : World)
      (hgrant : request.grantType = "refresh_token")
      (hchecks : (u.checkRefresh request).run (exec ports) w = (.ok g, w₁))
      (hrotates : g.client.fapi2Enabled = false)
      (hrefused : IdTokenRefused u ports (u.refreshIssuance request g))
  | device (g : Granted DeviceAuthorization) (w₁ : World)
      (hgrant : request.grantType = deviceCodeGrantType)
      (hchecks : (u.checkDevice request).run (exec ports) w = (.ok g, w₁))
      (happroved : g.stored.status = .approved)
      (hrefused : IdTokenRefused u ports
        (TokenUseCase.deviceIssuance g (u.tlsCertificateBoundHash g.client request)))
  | backchannel (g : Granted BackchannelAuthenticationRequest) (w₁ : World)
      (hgrant : request.grantType = cibaGrantType)
      (hchecks : (u.checkCiba request).run (exec ports) w = (.ok g, w₁))
      (happroved : g.stored.status = .approved)
      (hrefused : IdTokenRefused u ports
        (TokenUseCase.cibaIssuance g (u.tlsCertificateBoundHash g.client request)))

theorem RefusedLate.grantType {request : TokenRequest} (h : RefusedLate u ports request w) :
    request.grantType ∈
      ["authorization_code", "refresh_token", deviceCodeGrantType, cibaGrantType] := by
  cases h
  case code hgrant _ _ => simp [hgrant]
  case refresh hgrant _ _ _ => simp [hgrant]
  case device hgrant _ _ _ => simp [hgrant]
  case backchannel hgrant _ _ _ => simp [hgrant]

/-- A grant whose calls are grant-free. -/
theorem untouched_of_uses {request : TokenRequest} {l : List Area}
    {p : M TokenError TokenResponse} (hp : p.Uses (Call.In l))
    (hl : l.all (grantFree.contains ·) = true)
    (hother : request.grantType ∉
      ["authorization_code", "refresh_token", deviceCodeGrantType, cibaGrantType]) :
    (∀ error w', p.run (exec ports) w = (.error (.refused error), w') →
      Untouched u request w w') ↔ ¬ RefusedLate u ports request w := by
  refine iff_of_true (fun error w' hrun => ?_) fun hlate => hother (hlate.grantType u)
  exact .inl (run_error (wp_same hp hl) hrun).grants

theorem dispatch_untouched_iff {request : TokenRequest} (hfresh : FreshDraws u ports w) :
    (∀ error w', (u.dispatch request).run (exec ports) w = (.error (.refused error), w') →
      Untouched u request w w') ↔ ¬ RefusedLate u ports request w := by
  have hclash : ∀ {a b : String}, request.grantType = a → request.grantType = b → a = b :=
    fun ha hb => ha.symm.trans hb
  unfold TokenUseCase.dispatch
  split
  · rename_i hgrant
    refine (refused_untouched_iff u (checkCode_untouched u hgrant)
      fun w₁ g hg => redeemCode_touches u hg.1 hg.2.1 hg.2.2).trans (not_congr ⟨?_, fun h => ?_⟩)
    · rintro ⟨g, w₁, hchecks, hrefused⟩
      exact .code g w₁ hgrant hchecks hrefused
    · cases h
      case code g w₁ _ hchecks hrefused => exact ⟨g, w₁, hchecks, hrefused⟩
      case refresh hother _ _ _ => exact absurd (hclash hgrant hother) (by decide)
      case device hother _ _ _ => exact absurd (hclash hgrant hother) (by decide)
      case backchannel hother _ _ _ => exact absurd (hclash hgrant hother) (by decide)
  split
  · rename_i hgrant
    refine (refused_untouched_iff u (checkRefresh_untouched u)
      fun w₁ g hg => renew_touches u hgrant hfresh hg).trans (not_congr ⟨?_, fun h => ?_⟩)
    · rintro ⟨g, w₁, hchecks, hrotates, hrefused⟩
      exact .refresh g w₁ hgrant hchecks hrotates hrefused
    · cases h
      case code hother _ _ => exact absurd (hclash hgrant hother) (by decide)
      case refresh g w₁ _ hchecks hrotates hrefused =>
          exact ⟨g, w₁, hchecks, hrotates, hrefused⟩
      case device hother _ _ _ => exact absurd (hclash hgrant hother) (by decide)
      case backchannel hother _ _ _ => exact absurd (hclash hgrant hother) (by decide)
  split
  · rename_i hgrant
    exact untouched_of_uses u (u.clientCredentials_uses request) rfl (by rw [hgrant]; decide)
  split
  · rename_i hgrant
    exact untouched_of_uses u (u.jwtBearer_uses request) rfl (by rw [hgrant]; decide)
  split
  · rename_i hgrant
    refine (refused_untouched_iff u (checkDevice_untouched u hgrant)
      fun w₁ g hg => pollDevice_touches u hgrant hg Iff.rfl).trans
        (not_congr ⟨?_, fun h => ?_⟩)
    · rintro ⟨g, w₁, hchecks, happroved, hrefused⟩
      exact .device g w₁ hgrant hchecks happroved hrefused
    · cases h
      case code hother _ _ => exact absurd (hclash hgrant hother) (by decide)
      case refresh hother _ _ _ => exact absurd (hclash hgrant hother) (by decide)
      case device g w₁ _ hchecks happroved hrefused =>
          exact ⟨g, w₁, hchecks, happroved, hrefused⟩
      case backchannel hother _ _ _ => exact absurd (hclash hgrant hother) (by decide)
  split
  · rename_i hgrant
    refine (refused_untouched_iff u (checkCiba_untouched u hgrant)
      fun w₁ g hg => pollCiba_touches u hgrant hg Iff.rfl).trans
        (not_congr ⟨?_, fun h => ?_⟩)
    · rintro ⟨g, w₁, hchecks, happroved, hrefused⟩
      exact .backchannel g w₁ hgrant hchecks happroved hrefused
    · cases h
      case code hother _ _ => exact absurd (hclash hgrant hother) (by decide)
      case refresh hother _ _ _ => exact absurd (hclash hgrant hother) (by decide)
      case device hother _ _ _ => exact absurd (hclash hgrant hother) (by decide)
      case backchannel g w₁ _ hchecks happroved hrefused =>
          exact ⟨g, w₁, hchecks, happroved, hrefused⟩
  split
  · rename_i hgrant
    refine (refused_untouched_iff u (L := fun _ => False)
      (checkPreAuthorizedCode_untouched u hgrant) fun w₁ g _ => ?_).trans (not_congr ⟨?_, ?_⟩)
    · exact wp_mono (redeemPreAuthorizedCode_unrefused u request g w₁) (fun _ _ _ h => h)
        fun _ _ h => ⟨fun hf => hf.elim, fun _ hrefused => absurd hrefused h⟩
    · rintro ⟨g, w₁, -, hfalse⟩
      exact hfalse.elim
    · intro h
      have hother := h.grantType u
      rw [hgrant] at hother
      exact absurd hother (by decide)
  · rename_i h₁ h₂ _ _ h₃ h₄ _
    exact untouched_of_uses (l := []) u (Prog.uses_fail _ _) rfl (by simp [h₁, h₂, h₃, h₄])

theorem untouched_clientId (request : TokenRequest) (clientId : String) {w' : World} :
    Untouched u { request with clientId := clientId } w w' ↔ Untouched u request w w' := by
  refine ⟨Untouched.of_clientId u, fun h => ?_⟩
  have hback : Untouched u
      { { request with clientId := clientId } with clientId := request.clientId } w w' := h
  exact hback.of_clientId u

theorem untouched_deduceClientId {request : TokenRequest} {w' : World} :
    Untouched u (u.deduceClientId request) w w' ↔ Untouched u request w w' := by
  unfold TokenUseCase.deduceClientId
  split
  · exact Iff.rfl
  dsimp only
  split
  · exact untouched_clientId u request _
  · exact Iff.rfl

/-- A refused request leaves the grants untouched, unless it is refused
late. -/
theorem refused_leaves_grants (request : TokenRequest) (hfresh : FreshDraws u ports w) :
    (∀ error w', (u.execute request).run (exec ports) w = (.error (.refused error), w') →
      Untouched u request w w') ↔ ¬ RefusedLate u ports (u.deduceClientId request) w := by
  rw [← dispatch_untouched_iff u hfresh]
  simp only [untouched_deduceClientId]
  exact Iff.rfl

end

namespace Sample

/-- A store with the code of the public client, whose `id_token`s are to be
signed with `algorithm`. -/
def codeWorld (algorithm : String) : World :=
  { world with
    clients := Table.empty.save { client with idTokenSignedResponseAlg := algorithm }
    codes := Table.empty.save { authorizationCode with scopes := {Scope.openid} } }

end Sample

/-- An exchange for the wrong `redirect_uri` leaves the code untouched. -/
theorem refused_leaves_grants_wrong_redirect :
    let request := { Sample.codeRequest with redirectUri := "https://app.example/other" }
    let after := (Sample.tokens.execute request).run (exec Sample.ports)
      (Sample.codeWorld "HS256")
    (∃ error, after.1 = .error (.refused error)) ∧
      Untouched Sample.tokens request (Sample.codeWorld "HS256") after.2 := by
  intro request after
  have hrefused : after.1
      = .error (.refused ⟨"invalid_grant", "redirect_uri ne correspond pas"⟩) := rfl
  refine ⟨⟨_, hrefused⟩, ?_⟩
  have hfresh : FreshDraws Sample.tokens Sample.ports (Sample.codeWorld "HS256") :=
    fun _ _ => rfl
  refine (refused_leaves_grants Sample.tokens request hfresh).mpr (fun hlate => ?_) _ _
    (Prod.ext hrefused rfl)
  have hgrant : (Sample.tokens.deduceClientId request).grantType = "authorization_code" := rfl
  cases hlate
  case code g w₁ _ hchecks _ =>
      have hstop : ((Sample.tokens.checkCode request).run (exec Sample.ports)
          (Sample.codeWorld "HS256")).1
            = .error (.refused ⟨"invalid_grant", "redirect_uri ne correspond pas"⟩) := rfl
      cases hstop.symm.trans (congrArg Prod.fst hchecks)
  case refresh hother _ _ _ => exact absurd (hgrant.symm.trans hother) (by decide)
  case device hother _ _ _ => exact absurd (hgrant.symm.trans hother) (by decide)
  case backchannel hother _ _ _ => exact absurd (hgrant.symm.trans hother) (by decide)

/-- The exchange of a client that signs with `HS256` and whose secret is not
stored: refused, and the code is consumed. -/
theorem refused_consumes_code :
    ¬ ∀ (u : TokenUseCase) (ports : Ports) (request : TokenRequest) (w : World),
      FreshDraws u ports w → ∀ error w',
        (u.execute request).run (exec ports) w = (.error (.refused error), w') →
          Untouched u request w w' := by
  intro h
  have huntouched := h Sample.tokens Sample.ports Sample.codeRequest
    (Sample.codeWorld "HS256") (fun _ _ => rfl)
    ⟨"invalid_client", "Secret du client indisponible pour la signature HS*"⟩
    ((Sample.tokens.execute Sample.codeRequest).run (exec Sample.ports)
      (Sample.codeWorld "HS256")).2 (Prod.ext rfl rfl)
  have hcodes := congrArg (fun t => (t.find "c").map AuthorizationCode.isConsumed)
    huntouched.codes
  revert hcodes
  decide +kernel

end PurIdentityServer

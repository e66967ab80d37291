import PurIdentityServer.Application.IdToken

/-!
# Token — the token endpoint

`TokenUseCase.execute` and the seven grants it dispatches to. Each grant
that consumes something is written in two parts, in the order of the
source: its checks, which end with everything the request was granted,
and what it writes and issues from there on.

The optional dependencies of the use case are flags; what they do is in
the calls.
-/

namespace PurIdentityServer

open Effects

/-! ## Requests and responses -/

structure TokenConfig where
  issuer : String
  signingAlgorithm : JWTAlgorithm := .rs256
  accessTokenTtlSeconds : Int := 3600
  refreshTokenTtlSeconds : Int := 2592000
  tokenEndpoint : String := ""
  secretCipher : Bool := false
  idTokenEncrypter : Bool := false
  subjectSeed : String := ""

structure TokenRequest where
  grantType : String
  code : String := ""
  redirectUri : String := ""
  clientId : String := ""
  clientSecret : String := ""
  codeVerifier : String := ""
  refreshToken : String := ""
  deviceCode : String := ""
  authReqId : String := ""
  preAuthorizedCode : String := ""
  txCode : String := ""
  scope : String := ""
  resource : String := ""
  clientAssertionType : String := ""
  clientAssertion : String := ""
  assertion : String := ""
  tlsCertificate : Option ClientCertificate := none
  dpopProof : String := ""

structure TokenResponse where
  accessToken : String
  idToken : String
  tokenType : String := "Bearer"
  expiresIn : Int := 3600
  scope : String := ""
  refreshToken : String := ""
  authorizationDetails : List Json := []

structure TokenError where
  error : String
  errorDescription : String := ""
  deriving DecidableEq, Repr

structure IdTokenContext where
  nonce : String := ""
  sessionId : String := ""
  authTime : Int := 0
  acr : String := ""
  claims : String := ""
  openid2Realm : String := ""

/-- What the tokens of one response are issued from: the arguments shared
by `_issue_tokens`, `_issue_access_token` and `_issue_refresh_token`. -/
structure Issuance where
  client : Client
  subject : String
  scopes : Finset Scope
  now : Instant
  context : IdTokenContext := {}
  dpopJkt : String := ""
  resources : List String := []
  tlsCertHash : String := ""
  subjectMaterial : String := ""
  authorizationDetails : List Json := []

/-- What the checks of a grant end with: the stored grant, the client that
presents it, and what the response is bound and limited to. -/
structure Granted (γ : Type) where
  stored : γ
  client : Client
  now : Instant
  binding : DpopBinding
  resources : List String

/-- `TokenUseCase`; the flags tell which optional dependencies are
injected. -/
structure TokenUseCase where
  platform : Platform
  config : TokenConfig
  deviceCodes : Bool := true
  backchannelAuth : Bool := true
  scopeRegistry : Option ScopeRegistry := none
  clientAssertions : Bool := true
  claimsProvider : Bool := true
  revokedTokens : Bool := true
  dpop : Bool := true
  openid20Migration : Bool := false
  identityAssurance : Bool := false

/-- `DpopBinding.jkt` of an effective binding, empty otherwise. -/
def DpopBinding.boundJkt (b : DpopBinding) : String := if b.bound then b.jkt else ""

namespace TokenUseCase

variable (u : TokenUseCase)

/-! ## Client authentication, DPoP, scopes and resources -/

/-- `_token_endpoint`. -/
def tokenEndpoint : String :=
  if u.config.tokenEndpoint ≠ "" then u.config.tokenEndpoint
  else Text.rstripSlash u.config.issuer ++ "/token"

/-- `_assertion_audiences`. -/
def assertionAudiences (client : Client) : List String :=
  if client.fapi2Enabled then
    let issuer := Text.rstripSlash u.config.issuer
    if issuer = "" then [] else [issuer]
  else [Text.rstripSlash u.config.issuer, u.tokenEndpoint]

/-- `_tls_certificate_bound_hash`. -/
def tlsCertificateBoundHash (client : Client) (request : TokenRequest) : String :=
  if ¬ client.tlsClientCertificateBoundAccessTokens ∧
      client.tokenEndpointAuthMethod ≠ some .tlsClientAuth ∧
      client.tokenEndpointAuthMethod ≠ some .selfSignedTlsClientAuth then ""
  else
    match request.tlsCertificate.bind ClientCertificate.der with
    | some der => derCertificateHash u.platform der
    | none => ""

/-- `_authenticate_client`: refuses the request of a client that is not
authenticated. -/
def authenticateClient (client : Client) (request : TokenRequest) : M TokenError Unit := do
  refuseIf (client.tlsClientCertificateBoundAccessTokens ∧
      (request.tlsCertificate.bind ClientCertificate.der).isNone)
    ⟨"invalid_client", "Certificat client mTLS requis (RFC 8705 §3.1, " ++
      "tls_client_certificate_bound_access_tokens)"⟩
  let detail ← PurIdentityServer.authenticateClient u.platform client request.clientSecret
    u.clientAssertions request.clientAssertionType request.clientAssertion
    (u.assertionAudiences client) request.tlsCertificate
  match detail with
  | none => pure ()
  | some detail => refuse ⟨"invalid_client", detail⟩

/-- `_evaluate_dpop`. -/
def evaluateDpop (client : Client) (request : TokenRequest) (boundJkt : String) :
    M TokenError DpopBinding :=
  if ¬ u.dpop then
    if client.requireDpop ∧ request.dpopProof = "" then
      refuse ⟨"invalid_request", "Ce client exige une preuve DPoP (RFC 9449 §5.2)"⟩
    else pure {}
  else do
    let result ← DpopGuard.evaluate u.platform client request.dpopProof u.tokenEndpoint
      boundJkt
    match result with
    | .error e => refuse ⟨e.error, e.errorDescription⟩
    | .ok binding => pure binding

/-- `_refresh_dpop_jkt`. -/
def refreshDpopJkt (client : Client) (stored : RefreshToken) (binding : DpopBinding) :
    String :=
  if stored.dpopJkt ≠ "" then stored.dpopJkt
  else if client.clientType = .confidential then ""
  else binding.boundJkt

/-- `_effective_scope`. -/
def effectiveScope (client : Client) (requested : String) (default : Finset Scope) :
    M TokenError (Finset Scope) := do
  let wanted := Scope.fromSpaceSeparated requested
  refuseIf (requested ≠ "" ∧ ¬ wanted ⊆ client.scopes)
    ⟨"invalid_scope", "Portée jamais enregistrée pour le client"⟩
  let scopes := if requested ≠ "" then wanted else default
  match u.scopeRegistry with
  | none => pure scopes
  | some registry =>
      let unknown ← registry.unknownScopes scopes
      refuseIf (unknown ≠ [])
        ⟨"invalid_scope", "Scope(s) non enregistré(s) : " ++ Text.join ", " unknown⟩
      pure scopes

/-- `_effective_resources`: the resources of the grant, of which the
request may only keep some. -/
def effectiveResources (request : TokenRequest) (bound : List String) :
    M TokenError (List String) :=
  let resources := parseResourceParameter u.platform request.resource
  if resources = [] then pure bound
  else if bound ≠ [] then do
    let outside := resources.filter fun uri => uri ∉ bound
    refuseIf (outside ≠ [])
      ⟨"invalid_target", "resource hors des ressources liées au grant (RFC 8707 §4) : " ++
        Text.join ", " outside⟩
    pure resources
  else do
    let malformed ← orRaise (malformedResources u.platform resources)
    refuseIf (malformed ≠ [])
      ⟨"invalid_target", "resource doit être une URI absolue sans fragment " ++
        "(RFC 8707 §2.1) : " ++ Text.join ", " malformed⟩
    match u.scopeRegistry with
    | none => pure resources
    | some registry =>
        let unknown ← registry.unknownResources resources
        refuseIf (unknown ≠ [])
          ⟨"invalid_target", "Resource non enregistrée (RFC 8707 §2.2) : " ++
            Text.join ", " unknown⟩
        pure resources

/-- The client of a request: registered, active. -/
def activeClient (clientId : String) (description : String) : M TokenError Client := do
  let client ← ask (.findClient clientId) >>= orRefuse ⟨"invalid_client", description⟩
  refuseIf (¬ client.isActive) ⟨"invalid_client", description⟩
  pure client

/-! ## Issuance -/

/-- `_resolve_audience`. -/
def resolveAudience (client : Client) (scopes : Finset Scope) (resources : List String) :
    M TokenError Audience :=
  if resources ≠ [] then pure (resourceAudience resources)
  else
    match u.scopeRegistry with
    | none => pure (.one client.clientId)
    | some registry => registry.audiencesFor client.clientId scopes

/-- `_access_token_additional_claims`. -/
def accessTokenAdditionalClaims (claimsRequest : Option ClaimsRequest)
    (i : Issuance) : List (String × Json) :=
  let payload := match claimsRequest with
    | some request => userinfoPayload request
    | none => []
  let confirmation :=
    (if i.dpopJkt = "" then [] else [("jkt", Json.str i.dpopJkt)]) ++
      (if i.tlsCertHash = "" then [] else [("x5t#S256", Json.str i.tlsCertHash)])
  payload ++ (if confirmation = [] then [] else [("cnf", .obj confirmation)]) ++
    accessTokenSubjectClaims i.client i.subject i.subjectMaterial ++
    (if i.authorizationDetails = [] then []
      else [("authorization_details", .arr i.authorizationDetails)])

def accessTokenTtl (client : Client) : Int :=
  resolveLifetimeSeconds client.accessTokenLifetimeSeconds u.config.accessTokenTtlSeconds

/-- The claims of the access token of an issuance. -/
def accessTokenClaims (i : Issuance) (audience : Audience)
    (claimsRequest : Option ClaimsRequest) : AccessTokenClaims where
  algorithm := u.config.signingAlgorithm
  issuer := u.config.issuer
  subject := i.subject
  audience := audience
  expiresAt := Instant.epoch (i.now + seconds (u.accessTokenTtl i.client))
  issuedAt := Instant.epoch i.now
  scopes := i.scopes
  additionalClaims := accessTokenAdditionalClaims claimsRequest i

/-- The end of `_issue_access_token` and of `_issue_tokens`. -/
def createAccessToken (i : Issuance) (claimsRequest : Option ClaimsRequest) :
    M TokenError String := do
  let audience ← u.resolveAudience i.client i.scopes i.resources
  ask (.createAccessToken (u.accessTokenClaims i audience claimsRequest)) >>= orRaise

/-- `_issue_access_token`. -/
def issueAccessToken (i : Issuance) : M TokenError (String × Int) := do
  let accessToken ← u.createAccessToken i none
  pure (accessToken, u.accessTokenTtl i.client)

/-- `_id_token_material`. -/
def idTokenMaterial (client : Client) : M TokenError (JWTAlgorithm × String) :=
  resolveIdTokenMaterial client u.config.signingAlgorithm u.config.secretCipher >>=
    orRefuse ⟨"invalid_client", "Secret du client indisponible pour la signature HS*"⟩

/-- `_verified_claims`. -/
def verifiedClaims (request : ClaimsRequest) (subject : String) :
    M TokenError (Option Json) :=
  if ¬ u.identityAssurance then pure none
  else
    match (request.rawIdToken.find? fun m => m.1 = verifiedClaimsMember).map Prod.snd with
    | none => pure none
    | some member => ask (.verifiedClaims member subject) >>= orRaise

/-- `_openid20_identifier`. -/
def openid20Identifier (scopes : Finset Scope) (subject realm : String) :
    M TokenError String :=
  if ¬ u.openid20Migration then pure ""
  else if Scope.openid20 ∉ scopes then pure ""
  else ask (.openid20Identifier subject realm) >>= orRaise

/-- The claims the `claims` parameter adds to the `id_token`. -/
def requestedClaims (request : Option ClaimsRequest) (subject : String)
    (additional : List (String × Json)) : M TokenError (List (String × Json)) :=
  match request with
  | none => pure additional
  | some request => do
      let resolved ← resolveRequestedClaims request.idToken subject u.claimsProvider
      let served := (Json.update additional resolved).filter fun m =>
        m.1 ≠ verifiedClaimsMember
      let verified ← u.verifiedClaims request subject
      match verified with
      | none => pure served
      | some claims => pure (Json.setMember served verifiedClaimsMember claims)

/-- The `id_token` of `_issue_tokens`, signed. -/
def signIdToken (i : Issuance) (claimsRequest : Option ClaimsRequest) :
    M TokenError String := do
  let (algorithm, sharedSecret) ← u.idTokenMaterial i.client
  let acr := if i.context.acr = "" then [] else [("acr", Json.str i.context.acr)]
  let requested ← u.requestedClaims claimsRequest i.subject acr
  let openid20Id ← u.openid20Identifier i.scopes i.subject i.context.openid2Realm
  let additional := if openid20Id = "" then requested
    else Json.setMember requested "openid2_id" (.str openid20Id)
  let subject ← orRaise (displaySubject u.platform i.client i.subject i.subjectMaterial
    u.config.subjectSeed)
  ask (.createIdToken
    { algorithm := algorithm
      issuer := u.config.issuer
      subject := subject
      audience := i.client.clientId
      expiresAt := Instant.epoch (i.now + seconds (u.accessTokenTtl i.client))
      issuedAt := Instant.epoch i.now
      nonce := i.context.nonce
      sessionId := i.context.sessionId
      authTime := i.context.authTime
      sharedSecret := sharedSecret
      additionalClaims := additional }) >>= orRaise

/-- The `id_token` of `_issue_tokens`, signed and encrypted. -/
def issueIdToken (i : Issuance) (claimsRequest : Option ClaimsRequest) :
    M TokenError String := do
  let signed ← u.signIdToken i claimsRequest
  catchJwe
    (encryptIdTokenForClient signed i.client u.config.secretCipher u.config.idTokenEncrypter)
    (refuse ⟨"invalid_client", "Matériel de chiffrement d'id_token indisponible"⟩)

/-- The `claims` parameter of an issuance. -/
def claimsRequest (i : Issuance) : Option ClaimsRequest :=
  if i.context.claims = "" then none else parseClaimsParameter u.platform i.context.claims

/-- `_issue_tokens`: the `id_token`, the access token and its lifetime. -/
def issueTokens (i : Issuance) : M TokenError (String × String × Int) :=
  if Scope.openid ∉ i.scopes then do
    let (accessToken, tokenTtl) ← u.issueAccessToken i
    pure ("", accessToken, tokenTtl)
  else do
    let claimsRequest := u.claimsRequest i
    let idToken ← u.issueIdToken i claimsRequest
    let accessToken ← u.createAccessToken i claimsRequest
    pure (idToken, accessToken, u.accessTokenTtl i.client)

/-- The row `_issue_refresh_token` stores for the token `value`. -/
def refreshTokenRow (i : Issuance) (value : String) : RefreshToken where
  tokenHash := tokenHash u.platform value
  clientId := i.client.clientId
  subject := i.subject
  subjectMaterial := i.subjectMaterial
  scopes := i.scopes
  expiresAt := i.now + seconds (resolveLifetimeSeconds
    i.client.refreshTokenLifetimeSeconds u.config.refreshTokenTtlSeconds)
  dpopJkt := if i.client.clientType = .confidential then "" else i.dpopJkt
  resourceUris := i.resources
  tlsCertHash := i.tlsCertHash

/-- `_issue_refresh_token`. -/
def issueRefreshToken (i : Issuance) : M TokenError String := do
  let value ← ask .tokenUrlsafe
  let _ ← ask (.saveRefreshToken (u.refreshTokenRow i value))
  pure value

/-- `_success`. -/
def success (idToken accessToken : String) (tokenTtl : Int) (scopes : Finset Scope)
    (refreshToken : String) (dpopBound : Bool) (authorizationDetails : List Json) :
    TokenResponse where
  accessToken := accessToken
  idToken := idToken
  tokenType := if dpopBound then "DPoP" else "Bearer"
  expiresIn := tokenTtl
  scope := Text.join " " (Text.sorted scopes)
  refreshToken := refreshToken
  authorizationDetails := authorizationDetails

/-! ## Authorization codes -/

/-- `_verify_pkce`; a verifier that is not ASCII raises. -/
def verifyPkce (authCode : AuthorizationCode) (codeVerifier : String) : Raising Bool :=
  if codeVerifier = "" then .ok false
  else if u.platform.upper authCode.codeChallengeMethod = "S256" then
    if Text.isAscii codeVerifier then
      .ok (u.platform.sha256Base64Url codeVerifier = authCode.codeChallenge)
    else .error (.other "UnicodeEncodeError")
  else .ok (codeVerifier = authCode.codeChallenge)

/-- `_validate_code_exchange`. -/
def validateCodeExchange (authCode : AuthorizationCode) (request : TokenRequest) :
    M TokenError Client := do
  let client ← activeClient request.clientId clientUnknownError
  refuseIf (authCode.redirectUri ≠ request.redirectUri)
    ⟨"invalid_grant", "redirect_uri ne correspond pas"⟩
  u.authenticateClient client request
  refuseIf (authCode.clientId ≠ client.clientId)
    ⟨"invalid_grant", "Code d'autorisation émis pour un autre client"⟩
  refuseIf (client.clientType = .publicClient ∧ authCode.codeChallenge = "")
    ⟨"invalid_grant", "Les clients publics doivent utiliser PKCE"⟩
  let verified ← (if authCode.codeChallenge = "" then pure true
    else orRaise (u.verifyPkce authCode request.codeVerifier) : M TokenError Bool)
  refuseIf (¬ verified) ⟨"invalid_grant", "Échec de la vérification PKCE"⟩
  pure client

/-- `_revoke_issued_tokens`. -/
def revokeIssuedTokens (authCode : AuthorizationCode) : M TokenError Unit := do
  let _ ← (if authCode.accessTokenHash ≠ "" ∧ u.revokedTokens then
      ask (.saveRevoked ⟨authCode.accessTokenHash,
        authCode.accessTokenExpiresAt.getD authCode.expiresAt⟩)
    else pure () : M TokenError Unit)
  if authCode.refreshTokenHash ≠ "" then
    ask (.consumeRefreshToken authCode.refreshTokenHash)
  else pure ()

/-- The row `_record_issued_tokens` saves. -/
def recordedCode (authCode : AuthorizationCode) (accessToken : String)
    (accessTokenTtl : Int) (refreshToken : String) (now : Instant) : AuthorizationCode :=
  { authCode with
    isConsumed := true
    accessTokenHash := tokenHash u.platform accessToken
    accessTokenExpiresAt := some (now + seconds accessTokenTtl)
    refreshTokenHash := if refreshToken = "" then "" else tokenHash u.platform refreshToken }

def invalidCodeError : TokenError :=
  ⟨"invalid_grant", "Code d'autorisation invalide ou déjà consommé"⟩

/-- `_exchange_code` up to `consume`. -/
def checkCode (request : TokenRequest) : M TokenError (Granted AuthorizationCode) := do
  let authCode ← ask (.findByCode request.code) >>= orRefuse invalidCodeError
  if authCode.isConsumed then do
    u.revokeIssuedTokens authCode
    refuse invalidCodeError
  else do
    let now ← ask .now
    refuseIf (authCode.expiresAt < now) ⟨"invalid_grant", "Code d'autorisation expiré"⟩
    let client ← u.validateCodeExchange authCode request
    let binding ← u.evaluateDpop client request authCode.dpopJkt
    let resources ← u.effectiveResources request authCode.resourceUris
    pure ⟨authCode, client, now, binding, resources⟩

/-- The issuance of an exchanged code. -/
def codeIssuance (request : TokenRequest) (g : Granted AuthorizationCode) : Issuance where
  client := g.client
  subject := g.stored.subject
  scopes := g.stored.scopes
  now := g.now
  context :=
    { nonce := g.stored.nonce
      sessionId := g.stored.sessionId
      authTime := g.stored.authTime
      acr := g.stored.acr
      claims := g.stored.claims
      openid2Realm := g.stored.openid2Realm }
  dpopJkt := g.binding.boundJkt
  resources := g.resources
  tlsCertHash := u.tlsCertificateBoundHash g.client request
  subjectMaterial := g.stored.subjectMaterial
  authorizationDetails :=
    match parseAuthorizationDetails u.platform g.stored.authorizationDetails with
    | .ok details => grantAuthorizationDetails details
    | .error _ => []

/-- The refresh token of an issuance, when `offline_access` was granted. -/
def offlineRefreshToken (i : Issuance) : M TokenError String :=
  if Scope.offlineAccess ∈ i.scopes then u.issueRefreshToken i else pure ""

/-- `_exchange_code` from `consume` on. -/
def redeemCode (request : TokenRequest) (g : Granted AuthorizationCode) :
    M TokenError TokenResponse := do
  let _ ← ask (.consumeCode g.stored.code)
  let i := u.codeIssuance request g
  let refreshToken ← u.offlineRefreshToken i
  let (idToken, accessToken, tokenTtl) ← u.issueTokens i
  let _ ← ask (.saveCode (u.recordedCode g.stored accessToken tokenTtl refreshToken g.now))
  pure (success idToken accessToken tokenTtl i.scopes refreshToken g.binding.bound
    i.authorizationDetails)

/-- `_exchange_code`. -/
def exchangeCode (request : TokenRequest) : M TokenError TokenResponse :=
  u.checkCode request >>= u.redeemCode request

/-! ## Pre-authorized codes -/

/-- `_resolve_pre_authorized_code`. -/
def resolvePreAuthorizedCode (codeValue : String) (now : Instant) :
    M TokenError AuthorizationCode := do
  let authCode ← ask (.findByCode codeValue) >>=
    orRefuse ⟨"invalid_grant", "Code pre-autorise invalide"⟩
  refuseIf (¬ authCode.preAuthorized) ⟨"invalid_grant", "Code pre-autorise invalide"⟩
  if authCode.isConsumed then do
    u.revokeIssuedTokens authCode
    refuse ⟨"invalid_grant", "Code pre-autorise deja consomme"⟩
  else do
    refuseIf (authCode.expiresAt < now) ⟨"invalid_grant", "Code pre-autorise expire"⟩
    pure authCode

/-- `_pre_authorized_code` up to `consume`. -/
def checkPreAuthorizedCode (request : TokenRequest) :
    M TokenError (Granted AuthorizationCode) := do
  let now ← ask .now
  let authCode ← u.resolvePreAuthorizedCode request.preAuthorizedCode now
  let client ← activeClient request.clientId "Client inconnu ou inactif"
  u.authenticateClient client request
  refuseIf (authCode.clientId ≠ "" ∧ authCode.clientId ≠ client.clientId)
    ⟨"invalid_grant", "Code emis pour un autre client"⟩
  refuseIf (authCode.txCodeHash ≠ "" ∧
      (request.txCode = "" ∨ u.platform.sha256Hex request.txCode ≠ authCode.txCodeHash))
    ⟨"invalid_grant", "tx_code invalide"⟩
  let binding ← u.evaluateDpop client request authCode.dpopJkt
  let resources ← u.effectiveResources request authCode.resourceUris
  pure ⟨authCode, client, now, binding, resources⟩

/-- The issuance of a pre-authorized code. -/
def preAuthorizedIssuance (request : TokenRequest) (g : Granted AuthorizationCode) :
    Issuance where
  client := g.client
  subject := g.stored.subject
  scopes := g.stored.scopes
  now := g.now
  dpopJkt := g.binding.boundJkt
  resources := g.resources
  tlsCertHash := u.tlsCertificateBoundHash g.client request
  subjectMaterial := g.stored.subjectMaterial

/-- `_pre_authorized_code` from `consume` on. -/
def redeemPreAuthorizedCode (request : TokenRequest) (g : Granted AuthorizationCode) :
    M TokenError TokenResponse := do
  let _ ← ask (.consumeCode g.stored.code)
  let (accessToken, expiresIn) ← u.issueAccessToken (u.preAuthorizedIssuance request g)
  pure (success "" accessToken expiresIn g.stored.scopes "" g.binding.bound [])

/-- `_pre_authorized_code`. -/
def preAuthorizedCode (request : TokenRequest) : M TokenError TokenResponse :=
  u.checkPreAuthorizedCode request >>= u.redeemPreAuthorizedCode request

/-! ## Refresh tokens -/

/-- `_resolve_refresh_grant`: the stored token and the scopes of the
renewal. -/
def resolveRefreshGrant (request : TokenRequest) :
    M TokenError (RefreshToken × Finset Scope) := do
  let stored ← ask (.findByTokenHash (tokenHash u.platform request.refreshToken)) >>=
    orRefuse ⟨"invalid_grant", "Refresh token invalide ou d'un autre client"⟩
  refuseIf (stored.clientId ≠ request.clientId)
    ⟨"invalid_grant", "Refresh token invalide ou d'un autre client"⟩
  refuseIf stored.isConsumed ⟨"invalid_grant", "Refresh token déjà utilisé (rotation)"⟩
  let now ← ask .now
  refuseIf (stored.expiresAt < now) ⟨"invalid_grant", "Refresh token expiré"⟩
  let requested := Scope.fromSpaceSeparated request.scope
  refuseIf (request.scope ≠ "" ∧ ¬ requested ⊆ stored.scopes)
    ⟨"invalid_scope", "Portée demandée jamais accordée au jeton"⟩
  pure (stored, if request.scope ≠ "" then requested else stored.scopes)

/-- `_refresh` up to the rotation. -/
def checkRefresh (request : TokenRequest) :
    M TokenError (Granted (RefreshToken × Finset Scope)) := do
  refuseIf (request.refreshToken = "")
    ⟨"invalid_grant", "Paramètre refresh_token manquant"⟩
  let client ← activeClient request.clientId clientUnknownError
  u.authenticateClient client request
  let (stored, scopes) ← u.resolveRefreshGrant request
  refuseIf (stored.tlsCertHash ≠ "" ∧
      u.tlsCertificateBoundHash client request ≠ stored.tlsCertHash)
    ⟨"invalid_grant", "Refresh token lié au certificat client mTLS (RFC 8705 §3.3) : " ++
      "certificat absent ou différent de celui d'émission"⟩
  let now ← ask .now
  let binding ← u.evaluateDpop client request stored.dpopJkt
  let resources ← u.effectiveResources request stored.resourceUris
  pure ⟨(stored, scopes), client, now, binding, resources⟩

/-- The issuance of a renewal. -/
def refreshIssuance (request : TokenRequest) (g : Granted (RefreshToken × Finset Scope)) :
    Issuance where
  client := g.client
  subject := g.stored.1.subject
  scopes := g.stored.2
  now := g.now
  dpopJkt := g.binding.boundJkt
  resources := g.resources
  tlsCertHash := u.tlsCertificateBoundHash g.client request
  subjectMaterial := g.stored.1.subjectMaterial

/-- The rotation: none for a FAPI2 client, whose token stays valid. -/
def rotate (request : TokenRequest) (g : Granted (RefreshToken × Finset Scope)) :
    M TokenError String :=
  if g.client.fapi2Enabled then pure ""
  else do
    let _ ← ask (.consumeRefreshToken g.stored.1.tokenHash)
    u.issueRefreshToken
      { u.refreshIssuance request g with
        dpopJkt := refreshDpopJkt g.client g.stored.1 g.binding }

/-- `_refresh` from the rotation on. -/
def renew (request : TokenRequest) (g : Granted (RefreshToken × Finset Scope)) :
    M TokenError TokenResponse := do
  let refreshToken ← u.rotate request g
  let (idToken, accessToken, tokenTtl) ← u.issueTokens (u.refreshIssuance request g)
  pure (success idToken accessToken tokenTtl g.stored.2 refreshToken g.binding.bound [])

/-- `_refresh`. -/
def refresh (request : TokenRequest) : M TokenError TokenResponse :=
  u.checkRefresh request >>= u.renew request

/-! ## Client credentials and JWT bearer -/

/-- The end of `_client_credentials` and `_jwt_bearer`: an access token for
`subject`, and nothing else. -/
def accessTokenOnly (client : Client) (subject : String) (request : TokenRequest) :
    M TokenError TokenResponse := do
  let scopes ← u.effectiveScope client request.scope client.scopes
  let binding ← u.evaluateDpop client request ""
  let resources ← u.effectiveResources request []
  let now ← ask .now
  let (accessToken, tokenTtl) ← u.issueAccessToken
    { client := client
      subject := subject
      scopes := scopes
      now := now
      dpopJkt := binding.boundJkt
      resources := resources
      tlsCertHash := u.tlsCertificateBoundHash client request }
  pure (success "" accessToken tokenTtl scopes "" binding.bound [])

/-- `_client_credentials`. -/
def clientCredentials (request : TokenRequest) : M TokenError TokenResponse := do
  let client ← activeClient request.clientId clientUnknownError
  refuseIf (client.clientType ≠ .confidential)
    ⟨"invalid_client", "Le grant client_credentials exige un client confidentiel"⟩
  u.authenticateClient client request
  u.accessTokenOnly client client.clientId request

/-- `_jwt_bearer_subject`. -/
def jwtBearerSubject (request : TokenRequest) : M TokenError (Client × String) := do
  refuseIf (¬ u.clientAssertions) ⟨"unsupported_grant_type", ""⟩
  refuseIf (request.assertion = "") ⟨"invalid_grant", "Paramètre assertion manquant"⟩
  let preliminary ← orRefuse ⟨"invalid_grant", "Assertion jwt-bearer malformée"⟩
    (u.platform.jwtPayload request.assertion)
  let issuer := (Json.obj preliminary).member "iss" |>.bind Json.asStr |>.getD ""
  let clientId := if request.clientId ≠ "" then request.clientId else issuer
  refuseIf (clientId = "") ⟨"invalid_grant", "Assertion sans émetteur (iss)"⟩
  let client ← activeClient clientId clientUnknownError
  let verified ← ask (.verifyAssertion request.assertion client [u.tokenEndpoint] false) >>=
    orRefuse ⟨"invalid_grant", "Assertion jwt-bearer invalide"⟩
  match (Json.obj verified).member "sub" with
  | none => raise (.other "KeyError: 'sub'")
  | some (.str subject) => pure (client, subject)
  | some _ => refuse ⟨"invalid_grant", "Assertion jwt-bearer sans sujet (sub)"⟩

/-- `_jwt_bearer`. -/
def jwtBearer (request : TokenRequest) : M TokenError TokenResponse := do
  let (client, subject) ← u.jwtBearerSubject request
  u.accessTokenOnly client subject request

/-! ## Device sessions -/

/-- `_load_device_session`. -/
def loadDeviceSession (request : TokenRequest) : M TokenError DeviceAuthorization := do
  let stored ← ask (.findByDeviceCodeHash (tokenHash u.platform request.deviceCode)) >>=
    orRefuse ⟨"invalid_grant", "Device code invalide ou d'un autre client"⟩
  refuseIf (stored.clientId ≠ request.clientId)
    ⟨"invalid_grant", "Device code invalide ou d'un autre client"⟩
  let now ← ask .now
  if stored.expiresAt < now then do
    let _ ← ask (.deleteDevice stored.deviceCodeHash)
    refuse ⟨"expired_token", "Device code expiré"⟩
  else do
    refuseIf (stored.status = .denied)
      ⟨"access_denied", "Appareil refusé par l'utilisateur"⟩
    pure stored

/-- `_device_code` up to the status test. -/
def checkDevice (request : TokenRequest) : M TokenError (Granted DeviceAuthorization) := do
  refuseIf (¬ u.deviceCodes) ⟨"unsupported_grant_type", ""⟩
  refuseIf (request.deviceCode = "")
    ⟨"invalid_grant", "Paramètre device_code manquant"⟩
  let client ← activeClient request.clientId clientUnknownError
  u.authenticateClient client request
  let binding ← u.evaluateDpop client request ""
  let stored ← u.loadDeviceSession request
  let resources ← u.effectiveResources request []
  let now ← ask .now
  pure ⟨stored, client, now, binding, resources⟩

/-- The row a poll writes back. -/
def polledDevice (stored : DeviceAuthorization) (now : Instant) (tooFast : Bool) :
    DeviceAuthorization :=
  { stored with
    interval := if tooFast then stored.interval + 5 else stored.interval
    lastPolledAt := some now }

/-- A poll sooner than the interval after the previous one. -/
def polledTooFast (lastPolledAt : Option Instant) (interval : Int) (now : Instant) : Bool :=
  match lastPolledAt with
  | none => false
  | some last => now - last < seconds interval

def slowDownError : TokenError :=
  ⟨"slow_down", "Polling trop rapide : augmentez l'intervalle"⟩

/-- `_device_pending_response`. -/
def devicePendingResponse (stored : DeviceAuthorization) (now : Instant) :
    M TokenError TokenResponse :=
  if polledTooFast stored.lastPolledAt stored.interval now then do
    let _ ← ask (.saveDevice (polledDevice stored now true))
    refuse slowDownError
  else do
    let _ ← ask (.saveDevice (polledDevice stored now false))
    refuse ⟨"authorization_pending", "En attente de l'autorisation de l'utilisateur"⟩

/-- The issuance of an approved device session. -/
def deviceIssuance (g : Granted DeviceAuthorization) (tlsCertHash : String) :
    Issuance where
  client := g.client
  subject := g.stored.subject
  scopes := g.stored.scopes
  now := g.now
  dpopJkt := g.binding.boundJkt
  resources := g.resources
  tlsCertHash := tlsCertHash
  subjectMaterial := g.stored.deviceCodeHash

/-- The end of `_device_approved_flow` and `_ciba_approved_flow`, once the
session is deleted. -/
def issueSession (i : Issuance) (dpopBound : Bool) : M TokenError TokenResponse := do
  let refreshToken ← u.offlineRefreshToken i
  let (idToken, accessToken, tokenTtl) ← u.issueTokens i
  pure (success idToken accessToken tokenTtl i.scopes refreshToken dpopBound [])

/-- `_device_approved_flow`. -/
def deviceApprovedFlow (g : Granted DeviceAuthorization) (tlsCertHash : String) :
    M TokenError TokenResponse := do
  refuseIf (¬ u.deviceCodes) ⟨"unsupported_grant_type", ""⟩
  let _ ← ask (.deleteDevice g.stored.deviceCodeHash)
  u.issueSession (deviceIssuance g tlsCertHash) g.binding.bound

/-- What `_device_code` does once the checks passed. -/
def pollDevice (request : TokenRequest) (g : Granted DeviceAuthorization) :
    M TokenError TokenResponse :=
  if g.stored.status = .approved then
    u.deviceApprovedFlow g (u.tlsCertificateBoundHash g.client request)
  else devicePendingResponse g.stored g.now

/-- `_device_code`. -/
def deviceCode (request : TokenRequest) : M TokenError TokenResponse :=
  u.checkDevice request >>= u.pollDevice request

/-! ## Backchannel sessions -/

/-- `_load_ciba_session`. -/
def loadCibaSession (request : TokenRequest) :
    M TokenError BackchannelAuthenticationRequest := do
  let stored ← ask (.findByAuthReqIdHash (tokenHash u.platform request.authReqId)) >>=
    orRefuse ⟨"invalid_grant", "auth_req_id invalide ou d'un autre client"⟩
  refuseIf (stored.clientId ≠ request.clientId)
    ⟨"invalid_grant", "auth_req_id invalide ou d'un autre client"⟩
  let now ← ask .now
  if stored.expiresAt < now then do
    let _ ← ask (.deleteBackchannel stored.authReqIdHash)
    refuse ⟨"expired_token", "auth_req_id expiré"⟩
  else do
    refuseIf (stored.deliveryMode = "push") ⟨"unauthorized_client",
      "Client enregistré en mode push : résultat non délivré sur /token (CIBA §11)"⟩
    refuseIf (stored.status = .denied)
      ⟨"access_denied", "Demande refusée par l'utilisateur"⟩
    pure stored

/-- `_ciba` up to the status test. -/
def checkCiba (request : TokenRequest) :
    M TokenError (Granted BackchannelAuthenticationRequest) := do
  refuseIf (¬ u.backchannelAuth) ⟨"unsupported_grant_type", ""⟩
  refuseIf (request.authReqId = "")
    ⟨"invalid_grant", "Paramètre auth_req_id manquant"⟩
  let client ← activeClient request.clientId clientUnknownError
  u.authenticateClient client request
  let binding ← u.evaluateDpop client request ""
  let stored ← u.loadCibaSession request
  let resources ← u.effectiveResources request stored.resourceUris
  let now ← ask .now
  pure ⟨stored, client, now, binding, resources⟩

/-- The row a poll writes back. -/
def polledCiba (stored : BackchannelAuthenticationRequest) (now : Instant)
    (tooFast : Bool) : BackchannelAuthenticationRequest :=
  { stored with
    interval := if tooFast then stored.interval + 5 else stored.interval
    lastPolledAt := some now }

/-- `_ciba_pending_response`. -/
def cibaPendingResponse (stored : BackchannelAuthenticationRequest) (now : Instant) :
    M TokenError TokenResponse :=
  if polledTooFast stored.lastPolledAt stored.interval now then do
    let _ ← ask (.saveBackchannel (polledCiba stored now true))
    refuse slowDownError
  else do
    let _ ← ask (.saveBackchannel (polledCiba stored now false))
    refuse ⟨"authorization_pending", "En attente de l'utilisateur"⟩

/-- The issuance of an approved backchannel session. -/
def cibaIssuance (g : Granted BackchannelAuthenticationRequest) (tlsCertHash : String) :
    Issuance where
  client := g.client
  subject := g.stored.subject
  scopes := g.stored.scopes
  now := g.now
  context := { acr := g.stored.acr }
  dpopJkt := g.binding.boundJkt
  resources := g.resources
  tlsCertHash := tlsCertHash
  subjectMaterial := g.stored.authReqIdHash

/-- `_ciba_approved_flow`. -/
def cibaApprovedFlow (g : Granted BackchannelAuthenticationRequest)
    (tlsCertHash : String) : M TokenError TokenResponse := do
  refuseIf (¬ u.backchannelAuth) ⟨"unsupported_grant_type", ""⟩
  let _ ← ask (.deleteBackchannel g.stored.authReqIdHash)
  u.issueSession (cibaIssuance g tlsCertHash) g.binding.bound

/-- What `_ciba` does once the checks passed. -/
def pollCiba (request : TokenRequest) (g : Granted BackchannelAuthenticationRequest) :
    M TokenError TokenResponse :=
  if g.stored.status = .approved then
    u.cibaApprovedFlow g (u.tlsCertificateBoundHash g.client request)
  else cibaPendingResponse g.stored g.now

/-- `_ciba`. -/
def ciba (request : TokenRequest) : M TokenError TokenResponse :=
  u.checkCiba request >>= u.pollCiba request

/-- `issue_ciba_push_tokens`. -/
def issueCibaPushTokens (stored : BackchannelAuthenticationRequest) :
    M TokenError TokenResponse := do
  refuseIf (¬ u.backchannelAuth) ⟨"unsupported_grant_type", ""⟩
  let client ← ask (.findClient stored.clientId) >>=
    orRefuse ⟨"invalid_client", "Client inconnu"⟩
  let now ← ask .now
  u.cibaApprovedFlow ⟨stored, client, now, {}, stored.resourceUris⟩ ""

/-- The members of a push notification that carry the tokens. -/
def notifiedTokens (response : TokenResponse) : List (String × Json) :=
  [("id_token", .str response.idToken), ("access_token", .str response.accessToken),
    ("token_type", .str response.tokenType),
    ("expires_in", .num (toString response.expiresIn)),
    ("refresh_token", .str response.refreshToken)]

/-- `create_ciba_push_notification`: without a response it issues one. -/
def createCibaPushNotification {ε : Type} (stored : BackchannelAuthenticationRequest)
    (authReqId : String) (tokenResponse : Option TokenResponse) : M ε String := do
  let response ← (match tokenResponse with
    | some response => pure (some response)
    | none => do
        let issued ← outcome (u.issueCibaPushTokens stored)
        pure issued.toOption : M ε (Option TokenResponse))
  let now ← ask .now
  let jti ← ask .tokenUrlsafe
  let claims := [("auth_req_id", Json.str authReqId),
    ("exp", .num (toString (Instant.epoch (now + seconds 300)))), ("jti", .str jti)]
  ask (.createUserinfoJwt u.config.issuer stored.clientId u.config.signingAlgorithm
    (claims ++ (response.map notifiedTokens).getD [])) >>= orRaise

/-! ## The endpoint -/

/-- `_deduce_client_id`. -/
def deduceClientId (request : TokenRequest) : TokenRequest :=
  if request.clientId ≠ "" ∨ request.clientAssertion = "" ∨ ¬ u.clientAssertions then
    request
  else
    let claims := (u.platform.jwtDecode request.clientAssertion).getD []
    let issuer := (Json.obj claims).member "iss" |>.bind Json.asStr |>.getD ""
    if issuer ≠ "" then { request with clientId := issuer } else request

/-- The grant `execute` dispatches to. -/
def dispatch (request : TokenRequest) : M TokenError TokenResponse :=
  if request.grantType = "authorization_code" then u.exchangeCode request
  else if request.grantType = "refresh_token" then u.refresh request
  else if request.grantType = "client_credentials" then u.clientCredentials request
  else if request.grantType = jwtBearerGrantTypeUrn then u.jwtBearer request
  else if request.grantType = deviceCodeGrantType then u.deviceCode request
  else if request.grantType = cibaGrantType then u.ciba request
  else if request.grantType = preAuthorizedCodeGrantType then u.preAuthorizedCode request
  else refuse ⟨"unsupported_grant_type", ""⟩

/-- `execute`. -/
def execute (request : TokenRequest) : M TokenError TokenResponse :=
  u.dispatch (u.deduceClientId request)

end TokenUseCase

/-! ## A concrete deployment -/

namespace Sample

/-- The digests of the values the concrete runs hash. -/
def digests : List (String × String) :=
  [("", "e3b0c44298fc1c149afbf4c8996fb92427ae41e4649b934ca495991b7852b855"),
    ("r", "454349e422f05297191ead13e21d3db520e5abef52055e4964b82fb213f593a1"),
    ("d", "18ac3e7343f016890c510e93f935261169d9e3f565436429830faf0934f4f8e4"),
    ("q", "8e35c2cd3bf6641bdb0e2050b76932cbb2e6034a0ddacc1d9bea82a6ba57f7cf"),
    ("v", "4c94485e0c21ae6c41ce1dfe7b6bfaceea5ab68e40a2476f50208e526f506080"),
    ("v_", "656cc3c7d906ebfb7c2ff0003216bfd1c83755d57cffead5549fb5ee92f3c1d0"),
    ("v__", "35b2fdc567342420ef68c2bbd49d3aa43360aeec2254627053ac0537429332f5"),
    ("v___", "1ada567d51c20587b33cd809f030c88faf80f121752a7c50c6656afb2e0e9829"),
    ("a", "ca978112ca1bbdcafac231b39a23dc4da786eff8147c4e72b9807785afee48bb"),
    ("a_", "571fb0e30b4dd94baf8b337b9e622e5b7300ef7329f2c778a2ba555919951544"),
    ("a__", "00a5c5cf7f41abc5c7198aa939b8e163db35a92df2e8d18221e4dfbb3d38cc5f"),
    ("a___", "1f063bd0416941e4d71c6c128902737689f2c095d0419dbfe2c8937a268d1fe1")]

def sha256Hex (s : String) : String :=
  ((digests.find? fun d => d.1 = s).map Prod.snd).getD s

/-- No two values have the same digest, save the digests themselves. -/
theorem sha256Hex_inj {a b : String} (ha : ∀ d ∈ digests, d.2 ≠ a)
    (hb : ∀ d ∈ digests, d.2 ≠ b) (h : sha256Hex a = sha256Hex b) : a = b := by
  have hnodup : (digests.map Prod.snd).Nodup := by decide +kernel
  have hfound : ∀ {s : String} {d : String × String},
      digests.find? (fun d => d.1 = s) = some d → d ∈ digests ∧ d.1 = s := fun hd =>
    ⟨List.mem_of_find?_eq_some hd, by simpa using List.find?_some hd⟩
  unfold sha256Hex at h
  cases hda : digests.find? (fun d => d.1 = a) with
  | none =>
      cases hdb : digests.find? (fun d => d.1 = b) with
      | none => simpa [hda, hdb] using h
      | some d' =>
          rw [hda, hdb] at h
          exact absurd h.symm (ha d' (hfound hdb).1)
  | some d =>
      cases hdb : digests.find? (fun d => d.1 = b) with
      | none =>
          rw [hda, hdb] at h
          exact absurd h (hb d (hfound hda).1)
      | some d' =>
          rw [hda, hdb] at h
          rw [← (hfound hda).2, ← (hfound hdb).2]
          exact congrArg Prod.fst
            (List.inj_on_of_nodup_map hnodup (hfound hda).1 (hfound hdb).1 h)

/-- The verifier and the challenge of a PKCE exchange (`S256`). -/
def codeVerifier : String := "dBjftJeZ4CVP-mB92K27uhbUJU1p1r_wW1gFWFOEjXk"
def codeChallenge : String := "E9Melhoa2OwvFrEMTJguCHaoeK1t8URWbuGJSstw-cM"

def platform : Platform where
  sha256Hex := sha256Hex
  sha256Base64Url := fun s => if s = codeVerifier then codeChallenge else s
  sha256Der := fun _ => ""
  hmacBase64Url := fun _ message => message
  jsonLoads := fun _ => none
  jsonDumps := fun _ => ""
  pyStr := fun _ => ""
  upper := fun s => s
  urlsplit := fun _ => .ok {}
  jwtDecode := fun _ => none
  jwtPayload := fun _ => none

def ports : Ports where
  tokenUrlsafe := fun n => String.ofList ('v' :: List.replicate n '_')
  generateUserCode := fun _ => "BCDFGHJK"
  createIdToken := fun _ => .ok "id-token"
  createAccessToken := fun _ n => .ok (String.ofList ('a' :: List.replicate n '_'))
  createUserinfoJwt := fun _ _ _ _ => .ok "notification"
  encryptIdToken := fun _ _ _ => .ok "encrypted"
  decryptSecret := fun _ => .ok "secret"
  verifyAssertion := fun _ _ _ _ _ => none
  checkDpopProof := fun _ _ _ _ => .error ⟨"invalid_dpop_proof", ""⟩
  decodeLoginHintToken := fun _ _ _ => {}
  verifyRequestObject := fun _ _ _ _ _ => .error ""
  validateIdToken := fun _ _ => none
  findUserBySubject := fun subject => some { subject := subject }
  findAllUsers := []
  getClaims := fun _ => .ok []
  verifiedClaims := fun _ _ => .ok none
  openid20Identifier := fun _ _ => .ok ""
  resolveTrustChain := fun _ _ => none

theorem digest_head : ∀ d ∈ digests, ∃ c rest, d.2 = String.ofList (c :: rest) ∧ c ≠ 'v' := by
  intro d hd
  simp only [digests, List.mem_cons, List.not_mem_nil, or_false] at hd
  rcases hd with rfl | rfl | rfl | rfl | rfl | rfl | rfl | rfl | rfl | rfl | rfl | rfl | rfl
  all_goals exact ⟨_, _, rfl, by decide⟩

theorem drawn_not_digest (n : Nat) : ∀ d ∈ digests, d.2 ≠ ports.tokenUrlsafe n := by
  intro d hd hdrawn
  obtain ⟨c, rest, hdigest, hc⟩ := digest_head d hd
  have hlists : c :: rest = 'v' :: List.replicate n '_' :=
    String.ofList_injective (hdigest.symm.trans hdrawn)
  exact hc (List.cons.inj hlists).1

/-- The values drawn are distinct, and so are their digests. -/
theorem drawn_inj : Function.Injective fun n => tokenHash platform (ports.tokenUrlsafe n) := by
  intro m n h
  have hvalues : ports.tokenUrlsafe m = ports.tokenUrlsafe n :=
    sha256Hex_inj (drawn_not_digest m) (drawn_not_digest n) h
  have hlists := congrArg (fun s : String => s.toList.length) hvalues
  simpa [ports] using hlists

theorem digest_ne (token : String) : tokenHash platform token ≠ "" := by
  intro h
  have hset : ∀ d ∈ digests, d.2 ≠ "" := by decide
  show False
  have h' : sha256Hex token = "" := h
  unfold sha256Hex at h'
  cases hd : digests.find? (fun d => d.1 = token) with
  | none =>
      rw [hd] at h'
      have htoken : token = "" := h'
      subst htoken
      exact absurd hd (by decide)
  | some d =>
      rw [hd] at h'
      exact hset d (List.mem_of_find?_eq_some hd) h'

def tokens : TokenUseCase where
  platform := platform
  config := { issuer := "https://op.example" }

/-- A registered public client. -/
def client : Client where
  clientId := "app"
  redirectUris := {"https://app.example/cb"}

/-- A store with the client and nothing else. -/
def world : World where
  clock := 0
  clients := Table.empty.save client

/-- The registered client is the only one found under its name. -/
theorem client_of_findClient {w : World} (hw : w.clients = world.clients) (t : Instant)
    {c : Client} (hc : World.findClient ports { w with clock := t } "app" = some c) :
    c = client := by
  have hfind : w.clients.find "app" = some client := by
    rw [hw]
    exact Table.find_save_self Table.empty client
  have hc' : some client = some c := by
    simpa only [World.findClient, hfind] using hc
  exact (Option.some.inj hc').symm

/-- A refresh token of the public client; its value is `r`. -/
def refreshToken : RefreshToken where
  tokenHash := sha256Hex "r"
  clientId := "app"
  subject := "alice"
  expiresAt := seconds 600

def refreshRequest : TokenRequest where
  grantType := "refresh_token"
  refreshToken := "r"
  clientId := "app"

def refreshWorld : World := { world with refreshTokens := Table.empty.save refreshToken }

/-- A code of the public client, for the challenge of the exchange below. -/
def authorizationCode : AuthorizationCode where
  code := "c"
  clientId := "app"
  redirectUri := "https://app.example/cb"
  subject := "alice"
  codeChallenge := codeChallenge
  expiresAt := seconds 600

def codeRequest : TokenRequest where
  grantType := "authorization_code"
  code := "c"
  redirectUri := "https://app.example/cb"
  clientId := "app"
  codeVerifier := codeVerifier

end Sample

end PurIdentityServer

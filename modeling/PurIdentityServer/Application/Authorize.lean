import PurIdentityServer.Application.IdToken

/-!
# Authorize — the use case of the authorization endpoint

`validateAuthorizationRequest` settles the client, the mode and the types
of the response, or the error and how it is told; `execute` stores a
code, issues tokens from the endpoint itself, or both, and builds the
answer to the redirection URI.
-/

namespace PurIdentityServer

open Effects

/-! ## Requests and answers -/

structure AuthorizeRequest where
  responseType : String
  clientId : String
  redirectUri : String
  scope : String
  subject : String := ""
  state : String := ""
  nonce : String := ""
  codeChallenge : String := ""
  codeChallengeMethod : String := "S256"
  responseMode : String := ""
  prompt : String := ""
  /-- `-1` when absent, `-2` when invalid -/
  maxAge : Int := -1
  sessionId : String := ""
  authTime : Int := 0
  acrValues : String := ""
  claims : String := ""
  openid2Realm : String := ""
  dpopJkt : String := ""
  resource : String := ""
  authorizationDetails : String := ""
  deriving DecidableEq

structure AuthorizeError where
  error : String
  errorDescription : String := ""
  redirectUri : String := ""
  state : String := ""
  responseMode : ResponseMode := .query
  redirectable : Bool := true
  clientId : String := ""
  deriving DecidableEq

structure AuthorizeRedirect where
  redirectUri : String
  code : String
  state : String
  responseMode : ResponseMode
  idToken : String := ""
  accessToken : String := ""
  expiresIn : Int := 0
  formParams : List (String × String) := []
  deriving DecidableEq

structure ValidatedAuthorization where
  client : Client
  responseTypes : Finset String
  hasTokens : Bool
  wantsCode : Bool
  wantsIdToken : Bool
  wantsToken : Bool
  responseMode : ResponseMode

/-! ## Response types and modes -/

/-- `_VALID_RESPONSE_TYPES` -/
def validResponseTypes : List (Finset String) :=
  [{"code"}, {"id_token"}, {"token"}, {"id_token", "token"}, {"code", "id_token"},
    {"code", "token"}, {"code", "id_token", "token"}]

/-- `_resolve_response_mode`: `none` for a forbidden combination. -/
def resolveResponseMode (requested : String) (hasTokens : Bool) : Option ResponseMode :=
  if requested = "jwt" then some .jwt
  else if requested = "form_post" then some .formPost
  else if requested = "fragment" then some .fragment
  else if requested = "query" then (if hasTokens then none else some .query)
  else some (if hasTokens then .fragment else .query)

/-- `_error_response_mode` -/
def errorResponseMode (requested : String) (hasTokens : Bool) : ResponseMode :=
  (resolveResponseMode (if requested = "jwt" then "" else requested) hasTokens).getD .fragment

/-- `JARM_SIGNING_ALGORITHMS` -/
def jarmSigningAlgorithms : List String := ["PS256", "ES256", "RS256"]

/-- `jarm_signing_alg` -/
def jarmSigningAlg (client : Client) (requestedMode : String) : String :=
  if requestedMode ≠ "jwt" then ""
  else if client.authorizationSignedResponseAlg ∉ jarmSigningAlgorithms then ""
  else client.authorizationSignedResponseAlg

/-- `_authorize_error` -/
def authorizeError (error : String) (request : AuthorizeRequest) (description : String)
    (responseMode : ResponseMode) (redirectable : Bool := true) : AuthorizeError where
  error := error
  errorDescription := description
  redirectUri := request.redirectUri
  state := request.state
  responseMode := responseMode
  redirectable := redirectable
  clientId := request.clientId

/-- `SUPPORTED_ACR_VALUES` -/
def supportedAcrValues : List String := ["puridentityserver:pwd", "urn:openid:eap:loa1"]

/-- `first_supported_acr` -/
def firstSupportedAcr (acrValues : String) : String :=
  ((Text.split acrValues).find? fun value => value ∈ supportedAcrValues).getD ""

/-! ## Validation -/

/-- `_DP_JKT_PATTERN` -/
def isThumbprint (jkt : String) : Bool :=
  jkt.toList.length = 43 && jkt.toList.all fun c =>
    c.isAlphanum || c = '_' || c = '-'

/-- `_client_request_error` -/
def checkClientRequest (request : AuthorizeRequest) (client : Client) (scopes : Finset Scope)
    (mode : ResponseMode) : M AuthorizeError Unit := do
  refuseIf (request.redirectUri ∉ client.redirectUris)
    (authorizeError "invalid_redirect_uri" request "" mode false)
  refuseIf (Scope.openid20 ∈ scopes ∧ request.openid2Realm ≠ "" ∧
      ¬∃ uri ∈ client.redirectUris, Text.startsWith uri request.openid2Realm = true)
    (authorizeError "invalid_request" request
      ("openid2_realm ne correspond à aucune URI de redirection enregistrée " ++
        "(spec de migration OpenID 2.0 §3, OpenID 2.0 §9.2)") mode)

/-- `_client_profile_error` -/
def checkClientProfile (request : AuthorizeRequest) (client : Client)
    (responseTypes : Finset String) (mode : ResponseMode) : M AuthorizeError Unit :=
  let plainChallenge := request.codeChallenge ≠ "" ∧ request.codeChallengeMethod ≠ "S256"
  if client.fapiEnabled then do
    refuseIf (responseTypes ≠ {"code", "id_token"})
      (authorizeError "unsupported_response_type" request
        ("FAPI1-Advanced n'admet que le flow hybride " ++
          "'code id_token' (FAPI1-ADV-5.2.2-2)") mode)
    refuseIf plainChallenge
      (authorizeError "invalid_request" request
        ("code_challenge_method doit être 'S256' pour un client " ++
          "FAPI1 (FAPI1-ADV-5.2.2-18)") mode)
  else if client.fapi2Enabled then do
    refuseIf (responseTypes ≠ {"code"})
      (authorizeError "unsupported_response_type" request
        "FAPI2 n'admet que le flow 'code' (FAPI2-SP-5.3.2.2-2)" mode)
    refuseIf plainChallenge
      (authorizeError "invalid_request" request
        ("code_challenge_method doit être 'S256' pour un client " ++
          "FAPI2 (FAPI2-SP-5.3.2.2-5)") mode)
  else pure ()

section Validation

variable (p : Platform) (registry : Option ScopeRegistry)

/-- `_resource_error` -/
def checkResource (request : AuthorizeRequest) (mode : ResponseMode) : M AuthorizeError Unit := do
  let resources := parseResourceParameter p request.resource
  let malformed ← orRaise (malformedResources p resources)
  refuseIf (malformed ≠ [])
    (authorizeError "invalid_target" request
      ("resource doit être une URI absolue sans fragment (RFC 8707 §2.1) : " ++
        Text.join ", " malformed) mode)
  match registry with
  | none => pure ()
  | some registry =>
      let unknown ← registry.unknownResources resources
      refuseIf (unknown ≠ [])
        (authorizeError "invalid_target" request
          ("Resource non enregistrée (RFC 8707 §2.2) : " ++ Text.join ", " unknown) mode)

/-- `_parameter_error` -/
def checkParameters (request : AuthorizeRequest) (mode : ResponseMode) :
    M AuthorizeError Unit := do
  refuseIf (request.maxAge < -1)
    (authorizeError "invalid_request" request
      "max_age doit être un entier positif (OIDC Core 1.0 §3.1.2.1)" mode)
  refuseIf (request.claims ≠ "" ∧ (parseClaimsParameter p request.claims).isNone)
    (authorizeError "invalid_request" request
      "claims doit être un objet JSON valide (OIDC Core 1.0 §5.5.1)" mode)
  refuseIf (request.dpopJkt ≠ "" ∧ ¬isThumbprint request.dpopJkt)
    (authorizeError "invalid_request" request
      "dpop_jkt doit être une empreinte RFC 7638 (43 caractères base64url)" mode)
  refuseIf (request.codeChallenge ≠ "" ∧ request.codeChallengeMethod ∉ ["S256", "plain"])
    (authorizeError "invalid_request" request
      "code_challenge_method doit être 'S256' ou 'plain' (RFC 7636 §4.3)" mode)
  match parseAuthorizationDetails p request.authorizationDetails with
  | .error description =>
      refuse (authorizeError "invalid_authorization_details" request description mode)
  | .ok _ =>
      refuseIf (request.scope = "" ∧ request.authorizationDetails = "")
        (authorizeError "invalid_scope" request
          "scope ou authorization_details requis (OID4VCI 1.0 §5.1.1)" mode)
      checkResource p registry request mode

/-- `_scope_profile_error` and `_unknown_scope_error` -/
def checkScopes (request : AuthorizeRequest) (scopes : Finset Scope) (wantsIdToken : Bool)
    (mode : ResponseMode) : M AuthorizeError Unit := do
  refuseIf (wantsIdToken ∧ Scope.openid ∉ scopes)
    (authorizeError "invalid_scope" request "Le scope 'openid' est requis" mode)
  match registry with
  | none => pure ()
  | some registry =>
      let unknown ← registry.unknownScopes scopes
      refuseIf (unknown ≠ [])
        (authorizeError "invalid_scope" request
          ("Scope(s) non enregistré(s) : " ++ Text.join ", " unknown) mode)

/-- The response types of a request. -/
def responseTypesOf (request : AuthorizeRequest) : Finset String :=
  (Text.split request.responseType).toFinset

/-- A token is asked for from the endpoint. -/
def asksTokens (request : AuthorizeRequest) : Bool :=
  "id_token" ∈ responseTypesOf request || "token" ∈ responseTypesOf request

/-- `validate_authorization_request` from the resolution of the client on. -/
def validateForClient (request : AuthorizeRequest) (mode : ResponseMode) :
    M AuthorizeError ValidatedAuthorization := do
  let types := responseTypesOf request
  let unknownClient := authorizeError "invalid_client" request "" mode false
  let client ← ask (.findClient request.clientId) >>= orRefuse unknownClient
  refuseIf (¬client.isActive) unknownClient
  let scopes := Scope.fromSpaceSeparated request.scope
  checkClientRequest request client scopes mode
  refuseIf (request.responseMode = "jwt" ∧ jarmSigningAlg client request.responseMode = "")
    (authorizeError "unsupported_response_mode" request
      ("response_mode=jwt exige un authorization_signed_response_alg publié par l'émetteur " ++
        "(JARM Final 1.0 §4)") (errorResponseMode request.responseMode (asksTokens request)))
  checkClientProfile request client types mode
  checkParameters p registry request mode
  checkScopes registry request scopes ("id_token" ∈ types) mode
  refuseIf ("id_token" ∈ types ∧ request.nonce = "")
    (authorizeError "invalid_request" request "nonce requis (OIDC Core 1.0 §3.2.2.10)" mode)
  pure
    { client := client
      responseTypes := types
      hasTokens := asksTokens request
      wantsCode := "code" ∈ types
      wantsIdToken := "id_token" ∈ types
      wantsToken := "token" ∈ types
      responseMode := mode }

/-- `validate_authorization_request` -/
def validateAuthorizationRequest (request : AuthorizeRequest) :
    M AuthorizeError ValidatedAuthorization := do
  let errorMode := errorResponseMode request.responseMode (asksTokens request)
  refuseIf (responseTypesOf request ∉ validResponseTypes)
    (authorizeError "unsupported_response_type" request "" errorMode)
  match resolveResponseMode request.responseMode (asksTokens request) with
  | none => refuse (authorizeError "invalid_request" request
      "'query' est interdit quand des jetons sont retournés (OIDC Core 1.0 §3.1.2.1)" errorMode)
  | some mode => validateForClient p registry request mode

end Validation

/-! ## The use case -/

structure AuthorizeConfig where
  codeTtlSeconds : Int := 600
  accessTokenTtlSeconds : Int := 3600
  signingAlgorithm : JWTAlgorithm := .rs256
  issuer : String := ""
  secretCipher : Bool := false
  idTokenEncrypter : Bool := false
  subjectSeed : String := ""

/-- `AuthorizeUseCase`; the flags tell which optional dependencies are injected. -/
structure AuthorizeUseCase where
  platform : Platform
  config : AuthorizeConfig
  scopeRegistry : Option ScopeRegistry := none
  claimsProvider : Bool := true
  identityResources : Bool := true
  openid20Migration : Bool := false
  identityAssurance : Bool := false
  /-- the left half of the SHA-2 digest of an algorithm, in base64url -/
  halfDigest : JWTAlgorithm → String → String
  /-- `create_session_state`, with the origin of the redirection URI and a salt -/
  sessionState : Option ((clientId redirectUri sessionId salt : String) → String) := none
  /-- the JARM envelope of parameters, signed at a moment -/
  signEnvelope : Option ((audience algorithm : String) → List (String × String) → Instant →
    Raising String) := none

/-- The user claims of `DEFAULT_IDENTITY_RESOURCES`. -/
def defaultIdentityResources : List IdentityResource :=
  [{ name := "openid", userClaims := {"sub"} },
    { name := "profile"
      userClaims := {"name", "family_name", "given_name", "middle_name", "nickname",
        "preferred_username", "profile", "picture", "website", "gender", "birthdate", "zoneinfo",
        "locale", "updated_at", "roles"} },
    { name := "email", userClaims := {"email", "email_verified"} },
    { name := "address", userClaims := {"address"} },
    { name := "phone", userClaims := {"phone_number", "phone_number_verified"} },
    { name := "offline_access" }]

/-- The claims of the resources whose names are in a scope. -/
def scopeClaims (resources : List IdentityResource) (scope : String) : Finset String :=
  resources.foldl
    (fun allowed resource =>
      if resource.name ∈ Text.split scope then allowed ∪ resource.userClaims else allowed)
    {"sub"}

namespace AuthorizeUseCase

variable (u : AuthorizeUseCase)

/-- The row `_issue_code` stores under `value`. -/
def codeRow (request : AuthorizeRequest) (scopes : Finset Scope) (client : Client)
    (value : String) (now : Instant) : AuthorizationCode where
  code := value
  clientId := request.clientId
  redirectUri := request.redirectUri
  subject := request.subject
  sessionId := request.sessionId
  subjectMaterial := if request.sessionId ≠ "" then request.sessionId else value
  scopes := scopes
  codeChallenge := request.codeChallenge
  codeChallengeMethod := request.codeChallengeMethod
  nonce := request.nonce
  authTime := request.authTime
  acr := firstSupportedAcr request.acrValues
  claims := request.claims
  openid2Realm := request.openid2Realm
  dpopJkt := request.dpopJkt
  resourceUris := parseResourceParameter u.platform request.resource
  authorizationDetails := request.authorizationDetails
  expiresAt := now + seconds
    (resolveLifetimeSeconds client.authorizationCodeLifetimeSeconds u.config.codeTtlSeconds)

/-- `_issue_code` -/
def issueCode (request : AuthorizeRequest) (scopes : Finset Scope) (client : Client) :
    M AuthorizeError String := do
  let now ← ask .now
  let value ← ask .tokenUrlsafe
  ask (.saveCode (u.codeRow request scopes client value now))
  pure value

/-- `_resolve_audience` -/
def resolveAudience (client : Client) (scopes : Finset Scope) (resource : String) :
    M AuthorizeError Audience :=
  match parseResourceParameter u.platform resource with
  | [] =>
      match u.scopeRegistry with
      | none => pure (.one client.clientId)
      | some registry => registry.audiencesFor client.clientId scopes
  | resources => pure (resourceAudience resources)

/-- `_hash_artefact`; a value that is not ASCII raises. -/
def hashArtefact (value : String) (algorithm : JWTAlgorithm) : Raising String :=
  if algorithm = .none then .ok ""
  else if Text.isAscii value then .ok (u.halfDigest algorithm value)
  else .error (.other "UnicodeEncodeError")

/-- `_hash_artefact` of a value there is. -/
def hashPresent (value : String) (algorithm : JWTAlgorithm) : Raising String :=
  if value = "" then .ok "" else u.hashArtefact value algorithm

/-- The additional claims of an access token: the userinfo names, what the subject is
derived from, and the authorization details. -/
def accessTokenAdditionalClaims (claimsRequest : Option ClaimsRequest) (client : Client)
    (subject material authorizationDetails : String) : List (String × Json) :=
  let payload := match claimsRequest with
    | some request => userinfoPayload request
    | none => []
  let details := match parseAuthorizationDetails u.platform authorizationDetails with
    | .ok details => grantAuthorizationDetails details
    | .error _ => []
  payload ++ accessTokenSubjectClaims client subject material ++
    (if details = [] then [] else [("authorization_details", .arr details)])

def tokenTtl (client : Client) : Int :=
  resolveLifetimeSeconds client.accessTokenLifetimeSeconds u.config.accessTokenTtlSeconds

/-- What the tokens of one response are issued from. -/
structure FrontIssuance where
  request : AuthorizeRequest
  scopes : Finset Scope
  client : Client
  code : String
  now : Instant
  claimsRequest : Option ClaimsRequest

/-- The session, or else the code, a subject is derived from. -/
def FrontIssuance.subjectMaterial (i : FrontIssuance) : String :=
  if i.request.sessionId ≠ "" then i.request.sessionId else i.code

/-- The claims of the access token of `_issue_tokens`. -/
def accessTokenClaims (i : FrontIssuance) (audience : Audience) : AccessTokenClaims where
  algorithm := u.config.signingAlgorithm
  issuer := u.config.issuer
  subject := i.request.subject
  audience := audience
  expiresAt := Instant.epoch (i.now + seconds (u.tokenTtl i.client))
  issuedAt := Instant.epoch i.now
  scopes := i.scopes
  additionalClaims := u.accessTokenAdditionalClaims i.claimsRequest i.client i.request.subject
    i.subjectMaterial i.request.authorizationDetails

/-- The access token of `_issue_tokens` and its hash. -/
def issueAccessToken (i : FrontIssuance) (wantsToken : Bool) :
    M AuthorizeError (String × String) :=
  if wantsToken then do
    let audience ← u.resolveAudience i.client i.scopes i.request.resource
    let accessToken ← ask (.createAccessToken (u.accessTokenClaims i audience)) >>= orRaise
    let atHash ← orRaise (u.hashArtefact accessToken u.config.signingAlgorithm)
    pure (accessToken, atHash)
  else pure ("", "")

/-- `_verified_claims` -/
def verifiedClaims (request : ClaimsRequest) (subject : String) :
    M AuthorizeError (Option Json) :=
  if ¬u.identityAssurance then pure none
  else
    match (request.rawIdToken.find? fun m => m.1 = verifiedClaimsMember).map Prod.snd with
    | none => pure none
    | some member => ask (.verifiedClaims member subject) >>= orRaise

/-- `allowed_scope_claims` -/
def allowedScopeClaims (scope : String) : M AuthorizeError (Finset String) := do
  let stored ← (if u.identityResources then ask .findIdentityResources
    else pure [] : M AuthorizeError (List IdentityResource))
  pure (scopeClaims (if stored = [] then defaultIdentityResources else stored) scope)

/-- `scope_claims_for_subject` -/
def scopeClaimsForSubject (scope subject : String) : M AuthorizeError (List (String × Json)) :=
  if ¬u.claimsProvider ∨ subject = "" then pure []
  else do
    let allowed ← u.allowedScopeClaims scope
    let claims ← ask (.getClaims subject) >>= orRaise
    pure (claims.filter fun m => m.1 ∈ allowed)

/-- `_openid20_identifier` -/
def openid20Identifier (request : AuthorizeRequest) : M AuthorizeError String :=
  if ¬u.openid20Migration then pure ""
  else if Scope.openid20 ∉ Scope.fromSpaceSeparated request.scope then pure ""
  else ask (.openid20Identifier request.subject request.openid2Realm) >>= orRaise

/-- The claims the `claims` parameter adds to the `id_token`. -/
def requestedClaims (claimsRequest : Option ClaimsRequest) (subject : String)
    (additional : List (String × Json)) : M AuthorizeError (List (String × Json)) :=
  match claimsRequest with
  | none => pure additional
  | some claimsRequest => do
      let resolved ← resolveRequestedClaims claimsRequest.idToken subject u.claimsProvider
      let served := (Json.update additional resolved).filter fun m => m.1 ≠ verifiedClaimsMember
      let verified ← u.verifiedClaims claimsRequest subject
      match verified with
      | none => pure served
      | some claims => pure (Json.setMember served verifiedClaimsMember claims)

/-- `_additional_id_token_claims` -/
def additionalIdTokenClaims (i : FrontIssuance) (wantsToken : Bool) :
    M AuthorizeError (List (String × Json)) := do
  let acr := firstSupportedAcr i.request.acrValues
  let requested ← u.requestedClaims i.claimsRequest i.request.subject
    (if acr = "" then [] else [("acr", Json.str acr)])
  -- without a code or an access token, no UserInfo will serve the claims of the scopes
  let granted ← (if i.code = "" ∧ ¬wantsToken then
      u.scopeClaimsForSubject i.request.scope i.request.subject
    else pure [] : M AuthorizeError (List (String × Json)))
  let served := Json.update requested granted
  let openid20Id ← u.openid20Identifier i.request
  pure (if openid20Id = "" then served else Json.setMember served "openid2_id" (.str openid20Id))

/-- The `id_token` of `_issue_tokens`, signed. -/
def signIdToken (i : FrontIssuance) (wantsToken : Bool) (atHash : String) :
    M AuthorizeError String := do
  let (algorithm, sharedSecret) ← resolveIdTokenMaterial i.client u.config.signingAlgorithm
      u.config.secretCipher >>=
    orRefuse (authorizeError "invalid_client" i.request
      "Secret du client indisponible pour la signature HS*" .query)
  let subject ← orRaise (displaySubject u.platform i.client i.request.subject i.subjectMaterial
    u.config.subjectSeed)
  let cHash ← orRaise (u.hashPresent i.code algorithm)
  let sHash ← orRaise (u.hashPresent i.request.state algorithm)
  let additional ← u.additionalIdTokenClaims i wantsToken
  ask (.createIdToken
    { algorithm := algorithm
      issuer := u.config.issuer
      subject := subject
      audience := i.client.clientId
      expiresAt := Instant.epoch (i.now + seconds (u.tokenTtl i.client))
      issuedAt := Instant.epoch i.now
      nonce := i.request.nonce
      sessionId := i.request.sessionId
      authTime := i.request.authTime
      atHash := atHash
      cHash := cHash
      sHash := sHash
      sharedSecret := sharedSecret
      additionalClaims := additional }) >>= orRaise

/-- The `id_token` of `_issue_tokens`, signed and encrypted. -/
def issueIdToken (i : FrontIssuance) (wantsIdToken wantsToken : Bool) (atHash : String) :
    M AuthorizeError String :=
  if wantsIdToken then do
    let signed ← u.signIdToken i wantsToken atHash
    catchJwe
      (encryptIdTokenForClient signed i.client u.config.secretCipher u.config.idTokenEncrypter)
      (refuse (authorizeError "invalid_client" i.request
        "Matériel de chiffrement d'id_token indisponible" .query))
  else pure ""

/-- `_issue_tokens`: the `id_token`, the access token and its lifetime. -/
def issueTokens (request : AuthorizeRequest) (scopes : Finset Scope) (client : Client)
    (code : String) (wantsIdToken wantsToken : Bool) :
    M AuthorizeError (String × String × Int) := do
  let now ← ask .now
  let i : FrontIssuance :=
    { request := request
      scopes := scopes
      client := client
      code := code
      now := now
      claimsRequest := if request.claims = "" then none
        else parseClaimsParameter u.platform request.claims }
  let (accessToken, atHash) ← u.issueAccessToken i wantsToken
  let idToken ← u.issueIdToken i wantsIdToken wantsToken atHash
  pure (idToken, accessToken, u.tokenTtl client)

/-- `_resolve_session_state` -/
def resolveSessionState (request : AuthorizeRequest) : M AuthorizeError String :=
  match u.sessionState with
  | none => pure ""
  | some create =>
      if request.sessionId = "" then pure ""
      else do
        let salt ← ask .tokenUrlsafe
        pure (create request.clientId request.redirectUri request.sessionId salt)

/-- One parameter, when it has a value. -/
def present (name value : String) : List (String × String) :=
  if value = "" then [] else [(name, value)]

/-- `_build_success_params` -/
def buildSuccessParams (code idToken accessToken : String) (expiresIn : Int)
    (scopes : Finset Scope) (state sessionState : String) : List (String × String) :=
  present "code" code ++
    (if accessToken = "" then [] else
      [("access_token", accessToken), ("token_type", "Bearer"),
        ("expires_in", toString expiresIn), ("scope", Text.join " " (Text.sorted scopes))]) ++
    present "id_token" idToken ++ present "session_state" sessionState ++
    present "state" state ++ present "iss" u.config.issuer

/-- `_build_redirect_uri` -/
def buildRedirectUri (redirectUri : String) (mode : ResponseMode) (params : List String) :
    String :=
  let separator := if mode = .fragment then "#"
    else if '?' ∈ redirectUri.toList then "&" else "?"
  Text.rstripSlash redirectUri ++ separator ++ Text.join "&" params

/-- The envelope of a response, when the client's can be signed. -/
def envelope (client : Client) (params : List (String × String)) :
    M AuthorizeError String :=
  match u.signEnvelope with
  | none => pure ""
  | some sign =>
      let algorithm := jarmSigningAlg client "jwt"
      if algorithm = "" then pure ""
      else do
        let now ← ask .now
        match sign client.clientId algorithm params now with
        | .ok signed => pure signed
        | .error (.other "ValueError") => pure ""
        | .error e => raise e

/-- `_response_redirect_uri` -/
def responseRedirectUri (request : AuthorizeRequest) (validated : ValidatedAuthorization)
    (params : List (String × String)) : M AuthorizeError String := do
  let encoded := params.map fun m => m.1 ++ "=" ++ m.2
  let clear := if validated.hasTokens then ResponseMode.fragment else .query
  match validated.responseMode with
  | .formPost => pure request.redirectUri
  | .jwt => do
      let signed ← u.envelope validated.client params
      if signed ≠ "" then
        pure (buildRedirectUri request.redirectUri .jwt ["response=" ++ signed])
      else pure (buildRedirectUri request.redirectUri clear encoded)
  | mode => pure (buildRedirectUri request.redirectUri mode encoded)

/-- `execute` once the request is validated. -/
def respond (request : AuthorizeRequest) (validated : ValidatedAuthorization) :
    M AuthorizeError AuthorizeRedirect := do
  let scopes := Scope.fromSpaceSeparated request.scope
  let code ← (if validated.wantsCode then u.issueCode request scopes validated.client
    else pure "" : M AuthorizeError String)
  let (idToken, accessToken, expiresIn) ← (if validated.wantsIdToken || validated.wantsToken then
      u.issueTokens request scopes validated.client code validated.wantsIdToken
        validated.wantsToken
    else pure ("", "", 0) : M AuthorizeError (String × String × Int))
  let sessionState ← u.resolveSessionState request
  let params := u.buildSuccessParams code idToken accessToken expiresIn
    (if validated.wantsToken then scopes else ∅) request.state sessionState
  let redirectUri ← u.responseRedirectUri request validated params
  pure
    { redirectUri := redirectUri
      code := code
      state := request.state
      responseMode := validated.responseMode
      idToken := idToken
      accessToken := accessToken
      expiresIn := expiresIn
      formParams := if validated.responseMode = .formPost then params else [] }

/-- `execute` -/
def execute (request : AuthorizeRequest) : M AuthorizeError AuthorizeRedirect :=
  validateAuthorizationRequest u.platform u.scopeRegistry request >>= u.respond request

end AuthorizeUseCase

end PurIdentityServer

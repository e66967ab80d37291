import PurIdentityServer.Application.ClientAuth
import PurIdentityServer.Application.IdToken
import PurIdentityServer.Infrastructure.Tokens

/-!
# ResourceAccess — the endpoints an access token opens

Six endpoints take an access token. `/userinfo` and the protected
resource check the denylist, the client certificate and the DPoP proof;
`/credential` checks the proof alone; `/deferred_credential`,
`/notification` and `/credential-offer` check that the token is valid.
`serve_ok_iff` says, endpoint by endpoint, what a request that is answered
has passed.
-/

namespace PurIdentityServer

open Effects

/-! ## Requests and answers -/

/-- A request that presents an access token, with what may prove its bindings. -/
structure BearerRequest where
  accessToken : String
  authScheme : String := "bearer"
  dpopProof : String := ""
  htu : String := ""
  htm : String := "GET"
  tlsCertificate : Option ClientCertificate := none

/-- `UserInfoError`, `ProtectedResourceError` and `CredentialError`. -/
structure AccessError where
  error : String
  errorDescription : String := ""
  challenge : String := ""
  statusCode : Int := 401

/-- A request that is not answered: refused, or interrupted by an exception. -/
inductive Unanswered where
  | refused (e : AccessError)
  | raised (e : Raised)

abbrev AccessResult := Except Unanswered

def deny {α : Type} (e : AccessError) : AccessResult α := .error (.refused e)

/-- Refuse with the error there is. -/
def check : Option AccessError → AccessResult Unit
  | some e => deny e
  | none => .ok ()

theorem check_eq_ok {failure : Option AccessError} {u : Unit} :
    check failure = .ok u ↔ failure = none := by
  cases failure with
  | none => simp [check]
  | some e => simp [check, deny]

theorem deny_ne_ok {α : Type} {e : AccessError} {a : α} : deny e ≠ .ok a := by
  intro h
  cases h

/-- What a port raises interrupts the request. -/
def orInterrupt {α : Type} : Except Raised α → AccessResult α
  | .ok a => .ok a
  | .error e => .error (.raised e)

theorem orInterrupt_eq_ok {α : Type} {x : Except Raised α} {a : α} :
    orInterrupt x = .ok a ↔ x = .ok a := by
  cases x <;> simp [orInterrupt]

/-- What a credential request names. -/
structure CredentialTarget where
  configurationId : Option String := none
  identifier : Option String := none
  requestedFormat : Option String := none
  proofs : List String := []

structure CredentialOffer where
  offerId : String
  credentialConfigurationIds : List String
  subject : String
  preAuthorizedCode : String
  clientId : String := ""
  txCodeRequired : Bool := false
  createdAt : Instant
  expiresAt : Instant

/-- The random values of an offer: its code, its identifier and the transaction code. -/
structure OfferDraws where
  code : String
  offerId : String
  transactionCode : String

/-- What the endpoints answer. -/
inductive ResourceResponse where
  | userinfo (claims : Members)
  | protectedResource (subject scope : String)
  | credential (response : Members)
  | notified
  | offer (offer : CredentialOffer) (code : AuthorizationCode)

/-- A request to one of the endpoints. -/
inductive ResourceRequest where
  | userinfo (request : BearerRequest)
  | protectedResource (request : BearerRequest)
  | credential (request : BearerRequest) (target : CredentialTarget)
  | deferredCredential (request : BearerRequest) (transactionId : String)
  | notification (request : BearerRequest) (notificationId event : String)
  | credentialOffer (request : BearerRequest) (configurationIds : List String) (subject : String)
      (txCode : Bool)

def ResourceRequest.bearer : ResourceRequest → BearerRequest
  | userinfo request => request
  | protectedResource request => request
  | credential request _ => request
  | deferredCredential request _ => request
  | notification request _ _ => request
  | credentialOffer request _ _ _ => request

/-! ## The server -/

/-- The revoked tokens, one row for a hash. -/
abbrev Denylist := Table RevokedToken.tokenHash

/-- The state the endpoints read. -/
structure ResourceState where
  denylist : Denylist
  notifications : List String := []

/-- What the endpoints are built on. What a subject's claims and its credentials
are, and whether the proofs of a credential request hold, is told by functions. -/
structure ResourceServer (κ : Type) where
  platform : Platform
  tokens : TokenManager κ
  issuer : String
  /-- `_dpop.validate` as the guard answers at the request, `none` without a guard -/
  dpop : Option ((proof htu method ath : String) → Except DpopValidationError DPoPProof)
  /-- the response of `/userinfo` for a validated token and its subject -/
  profile : Members → (subject : String) → Except Raised Members
  /-- `_binding_keys` -/
  bindingKeys : (proofs : List String) → Except AccessError (List Members)
  /-- `_issue` -/
  issue : (subject : String) → List Members → (configuration : String) →
    Except AccessError Members

namespace ResourceServer

variable {κ : Type} (server : ResourceServer κ)

/-- `str(value)` -/
def asText : Json → String
  | .str s => s
  | value => server.platform.pyStr value

/-- A member of the `cnf` claim. -/
def confirmation (claims : Members) (name : String) : Option Json :=
  ((Dict.get claims "cnf").bind Json.asMembers).bind fun cnf => Dict.get cnf name

/-- The text a member of `cnf` is, `""` without one. -/
def boundTo (claims : Members) (name : String) : String :=
  ((confirmation claims name).bind Json.asStr).getD ""

/-- `_bound_jkt` -/
def boundJkt (claims : Members) : String := boundTo claims "jkt"

/-- The token is valid; the description of the refusal is the endpoint's. -/
def validated (now : Instant) (token issuer description : String) : AccessResult Members :=
  match server.tokens.validateAccessToken now token issuer with
  | .ok (some claims) => .ok claims
  | .ok none => deny ⟨"invalid_token", description, "", 401⟩
  | .error e => .error (.raised e)

/-- `is_revoked(token_hash(token))` -/
def isRevoked (denylist : Denylist) (token : String) : Bool :=
  (denylist.find (tokenHash server.platform token)).isSome

/-- `certificate_binding_error` -/
def certificateBindingError (claims : Members) (certificate : Option ClientCertificate) :
    String :=
  let expected := boundTo claims "x5t#S256"
  if expected = "" then ""
  else
    match certificate.bind ClientCertificate.der with
    | none => "Access token lié au certificat client mTLS (RFC 8705 §3.3) : "
        ++ "certificat non présenté"
    | some der =>
        if derCertificateHash server.platform der ≠ expected then
          "Certificat client différent de celui liant l'access token (RFC 8705 §3.3)"
        else ""

/-- `access_token_hash` -/
def accessTokenHash (token : String) : String := server.platform.sha256Base64Url token

/-- `_DPOP_CHALLENGE_INVALID` -/
def dpopChallengeInvalid : String := "DPoP error=\"invalid_token\""

/-- `_validate_dpop_binding`; the paragraph of RFC 9449 it cites is the endpoint's. -/
def validateDpopBinding (paragraph : String) (request : BearerRequest) (claims : Members) :
    Option AccessError :=
  if boundJkt claims = "" then none
  else if request.authScheme ≠ "dpop" then
    some ⟨"invalid_token", "Jeton lié à une clé DPoP : scheme 'DPoP' exigé (RFC 9449 "
      ++ paragraph ++ ")", dpopChallengeInvalid, 401⟩
  else
    match server.dpop with
    | none => some ⟨"invalid_token", "Validation DPoP indisponible : jeton lié refusé",
        dpopChallengeInvalid, 401⟩
    | some validate =>
        if request.dpopProof = "" then
          some ⟨"invalid_token", "Preuve DPoP requise pour ce jeton (RFC 9449 §7.1)",
            dpopChallengeInvalid, 401⟩
        else
          match validate request.dpopProof request.htu request.htm
            (server.accessTokenHash request.accessToken) with
          | .error e => some ⟨"invalid_dpop_proof", e.errorDescription,
              "DPoP error=\"invalid_dpop_proof\"", 401⟩
          | .ok proof =>
              if proof.jkt ≠ boundJkt claims then
                some ⟨"invalid_dpop_proof", "Preuve DPoP sans la clé liée au jeton (RFC 9449 "
                  ++ paragraph ++ ")", "DPoP error=\"invalid_dpop_proof\"", 401⟩
              else none

/-- The pipeline of `/userinfo` and of the protected resource. -/
def accept (now : Instant) (denylist : Denylist) (paragraph : String)
    (request : BearerRequest) : AccessResult Members := do
  let claims ← server.validated now request.accessToken server.issuer
    "Access token invalide, expiré ou de l'émetteur inattendu"
  check (if server.isRevoked denylist request.accessToken then
    some ⟨"invalid_token", "Access token révoqué", "", 401⟩ else none)
  check (if server.certificateBindingError claims request.tlsCertificate = "" then none
    else some ⟨"invalid_token", server.certificateBindingError claims request.tlsCertificate,
      "", 401⟩)
  check (server.validateDpopBinding paragraph request claims)
  .ok claims

/-- `UserInfoUseCase.execute`; a validated token's `sub` is a string when there. -/
def userinfo (now : Instant) (denylist : Denylist) (request : BearerRequest) :
    AccessResult ResourceResponse := do
  let claims ← server.accept now denylist "§7.2" request
  match (claims.get "sub").bind Json.asStr with
  | none => deny ⟨"invalid_token", "Claim 'sub' manquante", "", 401⟩
  | some subject => (orInterrupt (server.profile claims subject)).map ResourceResponse.userinfo

/-- The text of a claim, `""` without one. -/
def claimText (claims : Members) (name : String) : String :=
  match claims.get name with
  | some value => server.asText value
  | none => ""

/-- `ProtectedResourceUseCase.execute` -/
def protectedResource (now : Instant) (denylist : Denylist) (request : BearerRequest) :
    AccessResult ResourceResponse := do
  let claims ← server.accept now denylist "§7.1" request
  .ok (.protectedResource (server.claimText claims "sub") (server.claimText claims "scope"))

/-! ## Credentials -/

/-- The issuer of credentials, without a trailing slash. -/
def credentialIssuer : String := Text.rstripSlash server.issuer

/-- `INVALID_ACCESS_TOKEN_ERROR` -/
def invalidAccessTokenError : String := "access token invalide, expire ou non autorise"

/-- `_dpop_authorized` -/
def dpopAuthorized (claims : Members) (request : BearerRequest) : Bool :=
  let boundJkt := ((confirmation claims "jkt").map server.asText).getD ""
  if boundJkt = "" then true
  else
    match server.dpop with
    | none => false
    | some validate =>
        if request.authScheme ≠ "dpop" ∨ request.dpopProof = "" then false
        else
          match validate request.dpopProof request.htu request.htm
            (server.accessTokenHash request.accessToken) with
          | .error _ => false
          | .ok proof => proof.jkt = boundJkt

/-- `str(claims.get(name) or "")` -/
def truthyText (claims : Members) (name : String) : String :=
  match claims.get name with
  | some value => if value.truthy then server.asText value else ""
  | none => ""

/-- `str(claims.get("sub") or claims.get("client_id") or "")` -/
def credentialSubject (claims : Members) : String :=
  if server.truthyText claims "sub" ≠ "" then server.truthyText claims "sub"
  else server.truthyText claims "client_id"

/-- `CREDENTIAL_FORMATS` -/
def credentialFormats : List String := ["dc+sd-jwt", "vc+sd-jwt", "mso_mdoc"]

def credentialError (error description : String) : AccessError :=
  ⟨error, description, "", 400⟩

/-- The refusal of an unknown format. -/
def formatError (requestedFormat : Option String) : Option AccessError :=
  if requestedFormat.any (· ∉ credentialFormats) then
    some (credentialError "invalid_credential_request" "format de credential non supporte")
  else none

/-- One detail of `credential_configuration_for_identifier`. -/
def configurationOf (identifier : String) (detail : Json) : Option String :=
  if (detail.member "type").bind Json.asStr ≠ some openidCredentialType then none
  else
    match detail.member "credential_identifiers" with
    | some (.arr ids) =>
        if identifier ∈ ids.filterMap Json.asStr then
          ((detail.member "credential_configuration_id").bind Json.asStr).filter (· ≠ "")
        else none
    | _ => none

/-- `_resolve_authorized_configuration` -/
def resolveAuthorizedConfiguration (details : List Json) (target : CredentialTarget) :
    Except AccessError String :=
  if target.configurationId.isSome then
    .error (credentialError "invalid_credential_request"
      "credential_configuration_id interdit quand authorization_details est present")
  else
    match target.identifier with
    | none => .error (credentialError "invalid_credential_request"
        "credential_identifier requis quand authorization_details est present")
    | some identifier =>
        match details.findSome? (configurationOf identifier) with
        | none => .error (credentialError "unknown_credential_identifier"
            "credential_identifier inconnu")
        | some configuration => .ok configuration

/-- `_configuration_error`, with the configuration it lets through. -/
def requestedConfiguration (target : CredentialTarget) : Except AccessError String :=
  if target.identifier.isSome then
    .error (credentialError "unknown_credential_identifier" "credential_identifier inconnu")
  else
    match target.configurationId with
    | none => .error (credentialError "invalid_credential_request"
        "credential_configuration_id ou credential_identifier requis")
    | some configuration =>
        if configuration ∉ supportedCredentialConfigurationIds then
          .error (credentialError "unknown_credential_configuration"
            "credential_configuration_id inconnu")
        else .ok configuration

/-- `_resolve_requested_configuration` -/
def resolveRequestedConfiguration (claims : Members) (target : CredentialTarget) :
    Except AccessError String := do
  let configuration ← (match claims.get "authorization_details" with
    | some (.arr (detail :: details)) =>
        resolveAuthorizedConfiguration (detail :: details) target
    | _ =>
        if "openid4vci" ∉ Text.split (server.truthyText claims "scope") then
          .error ⟨"insufficient_scope", "scope openid4vci requis pour emettre un credential",
            "", 403⟩
        else requestedConfiguration target)
  match formatError target.requestedFormat with
  | some e => .error e
  | none => .ok configuration

def orRefuseAccess {α : Type} : Except AccessError α → AccessResult α
  | .ok a => .ok a
  | .error e => deny e

theorem orRefuseAccess_eq_ok {α : Type} {x : Except AccessError α} {a : α} :
    orRefuseAccess x = .ok a ↔ x = .ok a := by
  cases x <;> simp [orRefuseAccess, deny]

/-- `issue_credential`; the notification identifier is drawn. -/
def issueCredential (now : Instant) (notificationId : String) (request : BearerRequest)
    (target : CredentialTarget) : AccessResult ResourceResponse := do
  let claims ← server.validated now request.accessToken server.credentialIssuer
    invalidAccessTokenError
  check (if server.dpopAuthorized claims request then none
    else some ⟨"invalid_token", "preuve DPoP absente ou non conforme au jeton", "", 401⟩)
  check (if server.credentialSubject claims = "" then
    some ⟨"invalid_token", "access token sans sujet", "", 401⟩ else none)
  let configuration ← orRefuseAccess (server.resolveRequestedConfiguration claims target)
  let bindings ← orRefuseAccess (server.bindingKeys target.proofs)
  let issued ← orRefuseAccess
    (server.issue (server.credentialSubject claims) bindings configuration)
  .ok (.credential (Dict.set issued "notification_id" (.str notificationId)))

/-- `deferred_credential`: the issuance is immediate, so no transaction is known. -/
def deferredCredential (now : Instant) (request : BearerRequest) (_transactionId : String) :
    AccessResult ResourceResponse := do
  let _ ← server.validated now request.accessToken server.credentialIssuer invalidAccessTokenError
  deny (credentialError "invalid_transaction_id" "transaction_id inconnu ou deja consomme")

/-- The events of `notify`. -/
def notificationEvents : List String :=
  ["credential_accepted", "credential_failure", "credential_deleted"]

/-- `notify` -/
def notify (now : Instant) (notifications : List String) (request : BearerRequest)
    (notificationId event : String) : AccessResult ResourceResponse := do
  let _ ← server.validated now request.accessToken server.credentialIssuer invalidAccessTokenError
  check (if notificationId ∉ notifications then
    some (credentialError "invalid_notification_id" "notification_id inconnu") else none)
  check (if event ∉ notificationEvents then
    some (credentialError "invalid_notification_request" "event non supporte") else none)
  .ok .notified

/-! ## Credential offers -/

/-- `_OfferCaller` -/
structure OfferCaller where
  subject : String
  clientId : String

/-- `_OfferCaller.machine` -/
def OfferCaller.machine (caller : OfferCaller) : Bool :=
  caller.clientId ≠ "" && caller.clientId = caller.subject

/-- `_caller` -/
def offerCaller (claims : Members) : Except AccessError OfferCaller :=
  if "openid4vci" ∉ Text.split (server.truthyText claims "scope") then
    .error ⟨"insufficient_scope", "scope openid4vci requis pour creer une offre", "", 403⟩
  else if server.truthyText claims "sub" = "" then
    .error ⟨"invalid_token", "access token sans sujet", "", 401⟩
  else .ok ⟨server.truthyText claims "sub", server.truthyText claims "client_id"⟩

/-- `_configuration_ids` -/
def offeredConfigurations (requested : List String) : Except AccessError (List String) :=
  let configurations := match Text.dedupFirst requested [] with
    | [] => ["puridentityserver-sdjwt-vc"]
    | ids => ids
  if configurations.any (· ∉ supportedCredentialConfigurationIds) then
    .error (credentialError "unknown_credential_configuration"
      "credential_configuration_id inconnu")
  else .ok configurations

/-- `_offer_subject` -/
def offerSubject (caller : OfferCaller) (requested : String) : Except AccessError String :=
  if requested ≠ "" then
    if !caller.machine && requested ≠ caller.subject then
      .error ⟨"invalid_request", "le sujet demande differe du porteur du jeton", "", 403⟩
    else .ok requested
  else if caller.machine then
    .error (credentialError "invalid_request" "subject requis pour une offre creee par un client")
  else .ok caller.subject

/-- `CREDENTIAL_OFFER_TTL` -/
def credentialOfferTtl : Int := 300

/-- The offer and the code `create` saves. -/
def offerOf (now : Instant) (draws : OfferDraws) (caller : OfferCaller)
    (configurations : List String) (subject : String) (txCode : Bool) : ResourceResponse :=
  .offer
    { offerId := draws.offerId, credentialConfigurationIds := configurations, subject
      preAuthorizedCode := draws.code, clientId := caller.clientId, txCodeRequired := txCode
      createdAt := now, expiresAt := now + seconds credentialOfferTtl }
    { code := draws.code, subject, scopes := {Scope.oid4vci}, preAuthorized := true
      txCodeHash := if txCode then server.platform.sha256Hex draws.transactionCode else ""
      expiresAt := now + seconds credentialOfferTtl }

/-- `CredentialOfferUseCase.create` -/
def createOffer (now : Instant) (draws : OfferDraws) (request : BearerRequest)
    (configurationIds : List String) (subject : String) (txCode : Bool) :
    AccessResult ResourceResponse := do
  let claims ← server.validated now request.accessToken server.credentialIssuer
    "access token invalide ou expire"
  let caller ← orRefuseAccess (server.offerCaller claims)
  let configurations ← orRefuseAccess (offeredConfigurations configurationIds)
  let resolved ← orRefuseAccess (offerSubject caller subject)
  .ok (server.offerOf now draws caller configurations resolved txCode)

/-- Answer a request; the draws are those of the request. -/
def serve (now : Instant) (state : ResourceState) (draws : OfferDraws) :
    ResourceRequest → AccessResult ResourceResponse
  | .userinfo request => server.userinfo now state.denylist request
  | .protectedResource request => server.protectedResource now state.denylist request
  | .credential request target => server.issueCredential now draws.offerId request target
  | .deferredCredential request transactionId =>
      server.deferredCredential now request transactionId
  | .notification request notificationId event =>
      server.notify now state.notifications request notificationId event
  | .credentialOffer request configurationIds subject txCode =>
      server.createOffer now draws request configurationIds subject txCode

end ResourceServer

end PurIdentityServer

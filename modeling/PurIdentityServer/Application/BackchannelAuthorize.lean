import PurIdentityServer.Application.ClientEndpoints
import PurIdentityServer.Application.Decisions
import PurIdentityServer.Application.TokenCalls

/-!
# BackchannelAuthorize — the backchannel authentication endpoint

`POST /bc-authorize` authenticates the client, applies a signed request
object, checks the scope, resolves the one hint to a user and stores the
request under the hash of a fresh `auth_req_id`, with the moment it
expires at.
-/

namespace PurIdentityServer

open Effects

/-- The refusals of `/bc-authorize`. -/
abbrev BackchannelAuthenticationError := QueryError

structure BackchannelAuthenticationParams extends BackchannelCaller where
  scope : String := ""
  loginHint : String := ""
  loginHintToken : String := ""
  idTokenHint : String := ""
  bindingMessage : String := ""
  acrValues : String := ""
  userCode : String := ""
  resource : String := ""
  clientNotificationToken : String := ""
  requestedExpiry : String := ""
  requestUri : String := ""

structure AuthenticationAck where
  authReqId : String
  expiresIn : Int
  interval : Int
  userCode : String := ""

/-- `BackchannelAuthenticationUseCase`, behind the client authentication of the server. -/
structure BackchannelAuthenticationUseCase (κ : Type) where
  endpoints : ClientEndpoints κ
  ttlSeconds : Int := 600
  minTtlSeconds : Int := 60
  intervalSeconds : Int := 5
  requestSigningAlgorithms : List String := ["PS256", "ES256", "RS256"]
  bindingMessageMaxLength : Int := 32
  scopeRegistry : Option ScopeRegistry := none
  /-- a token manager is injected, for `id_token_hint` -/
  tokenManager : Bool := true
  /-- `value.lower()` -/
  lower : String → String
  /-- `json.dumps(value, ensure_ascii=False)` with compact separators -/
  jsonText : Json → String

namespace BackchannelAuthenticationUseCase

variable {κ : Type} (b : BackchannelAuthenticationUseCase κ)

abbrev platform : Platform := b.endpoints.tokens.platform

/-- `BackchannelAuthenticationError(error, description)`, with its status 400. -/
def failure (error description : String) : BackchannelAuthenticationError :=
  ⟨error, description, 400⟩

/-! ## The request object -/

/-- The text a claim gives a parameter. -/
def claimText : Json → String
  | .str value => value
  | value => b.jsonText value

/-- The value of a parameter: the claim of its name, unless absent or null. -/
def overridden (claims : Members) (name value : String) : String :=
  match claims.get name with
  | none | some .null => value
  | some claim => b.claimText claim

/-- `_merge_request_claims` -/
def mergeRequestClaims (params : BackchannelAuthenticationParams) (claims : Members) :
    BackchannelAuthenticationParams :=
  { params with
    request := ""
    scope := b.overridden claims "scope" params.scope
    loginHint := b.overridden claims "login_hint" params.loginHint
    loginHintToken := b.overridden claims "login_hint_token" params.loginHintToken
    idTokenHint := b.overridden claims "id_token_hint" params.idTokenHint
    bindingMessage := b.overridden claims "binding_message" params.bindingMessage
    acrValues := b.overridden claims "acr_values" params.acrValues
    resource := b.overridden claims "resource" params.resource
    clientNotificationToken :=
      b.overridden claims "client_notification_token" params.clientNotificationToken
    requestedExpiry := b.overridden claims "requested_expiry" params.requestedExpiry }

/-- `_issuer_client` -/
def issuerClient (token : String) : M BackchannelAuthenticationError Client := do
  let issuer := if b.endpoints.requestObjects then b.endpoints.issuerOf token else ""
  refuseIf (issuer = "")
    (failure "invalid_request" "request object illisible (claim iss absent)")
  let unknown := failure "invalid_request" "request object signé par un client inconnu"
  let client ← ask (.findClient issuer) >>= orRefuse unknown
  refuseIf (¬client.isActive) unknown
  pure client

/-- `_apply_request_object` -/
def applyRequestObject (client : Client) (params : BackchannelAuthenticationParams) :
    M BackchannelAuthenticationError BackchannelAuthenticationParams := do
  refuseIf (params.requestUri ≠ "") (failure "invalid_request"
    "request_uri non supporté au backchannel authentication endpoint")
  if params.request = "" then do
    refuseIf (client.backchannelAuthenticationRequestSigningAlg ≠ "")
      (failure "invalid_request" "request object signé requis pour ce client (CIBA §7.1.1)")
    pure params
  else do
    refuseIf (¬b.endpoints.requestObjects)
      (failure "invalid_request" "vérification de request object indisponible")
    let issuerClient ← b.issuerClient params.request
    let registered := client.backchannelAuthenticationRequestSigningAlg
    let algorithms := if registered ≠ "" then [registered] else b.requestSigningAlgorithms
    let result ← ask (.verifyRequestObject params.request issuerClient
      b.endpoints.backchannel.issuer algorithms)
    match result with
    | .error reason => refuse (failure "invalid_request" reason)
    | .ok claims => do
        refuseIf (issuerClient.clientId ≠ client.clientId)
          ⟨"invalid_client", "request object émis pour un autre client", 401⟩
        pure (b.mergeRequestClaims params claims)

/-! ## The parameters -/

/-- `_validate_scopes` -/
def validateScopes (client : Client) (scope : String) :
    M BackchannelAuthenticationError (Finset Scope) := do
  refuseIf (scope = "") (failure "invalid_request" "Paramètre scope manquant")
  let requested := Scope.fromSpaceSeparated scope
  refuseIf (Scope.openid ∉ requested)
    (failure "invalid_scope" "Le scope openid est requis (CIBA §7.1)")
  refuseIf (¬requested ⊆ client.scopes)
    (failure "invalid_scope" "Portée jamais enregistrée pour le client")
  match b.scopeRegistry with
  | none => pure requested
  | some registry => do
      let unknown ← registry.unknownScopes requested
      refuseIf (unknown ≠ [])
        (failure "invalid_scope" ("Scope(s) non enregistré(s) : " ++ Text.join ", " unknown))
      pure requested

/-- `_HINT_IDENTITY_CLAIMS` -/
def hintIdentityClaims : List String := ["sub", "email", "preferred_username", "phone_number"]

/-- A claim of a user spells the value, in any case. -/
def claimMatches (user : UserClaims) (lowered : String) (name : String) : Bool :=
  match (Json.obj user.claims).member name with
  | some (.str claim) => b.lower claim = lowered
  | _ => false

/-- `_match_user` -/
def matchUser (value : String) : M BackchannelAuthenticationError String := do
  match ← ask (.findUserBySubject value) with
  | some user => pure user.subject
  | none => do
      let users ← ask .findAllUsers
      let found := users.find? fun user =>
        (hintIdentityClaims.drop 1).any (b.claimMatches user (b.lower value))
      pure ((found.map UserClaims.subject).getD "")

/-- `_subject_from_claims`: the first claim that names a user. -/
def subjectFromClaims (claims : Members) :
    List String → M BackchannelAuthenticationError String
  | [] => pure ""
  | name :: rest =>
      match claims.get name with
      | some (.str value) =>
          if value = "" then subjectFromClaims claims rest
          else do
            let subject ← b.matchUser value
            if subject ≠ "" then pure subject else subjectFromClaims claims rest
      | _ => subjectFromClaims claims rest

/-- `_subject_from_login_hint_token` -/
def subjectFromLoginHintToken (client : Client) (token : String) :
    M BackchannelAuthenticationError String := do
  refuseIf (¬b.endpoints.tokens.clientAssertions)
    (failure "unknown_user_id" "Décodage de login_hint_token indisponible")
  let result ← ask (.decodeLoginHintToken token client)
  refuseIf (result.expired)
    (failure "expired_login_hint_token" "login_hint_token expiré")
  let claims ← orRefuse (failure "unknown_user_id"
    "login_hint_token illisible ou non signé par le client") result.claims
  b.subjectFromClaims claims hintIdentityClaims

/-- `_audience_holds` -/
def audienceHolds (audience : Option Json) (clientId : String) : Bool :=
  match audience with
  | some (.str name) => name = clientId
  | some (.arr items) => items.any fun item => item.asStr = some clientId
  | _ => false

/-- `_subject_from_id_token_hint` -/
def subjectFromIdTokenHint (client : Client) (token : String) :
    M BackchannelAuthenticationError String := do
  refuseIf (¬b.tokenManager)
    (failure "unknown_user_id" "Validation d'id_token_hint indisponible")
  let claims ← ask (.validateIdToken token b.endpoints.backchannel.issuer) >>=
    orRefuse (failure "invalid_request" "id_token_hint invalide")
  refuseIf (¬audienceHolds (Dict.get claims "aud") client.clientId)
    (failure "invalid_request" "id_token_hint émis pour un autre client")
  match Dict.get claims "sub" with
  | some (.str subject) => if subject = "" then pure "" else b.matchUser subject
  | some value => if value.truthy then b.matchUser (b.platform.pyStr value) else pure ""
  | none => pure ""

inductive Hint where
  | loginHint | loginHintToken | idTokenHint

/-- The hints a request carries. -/
def hints (params : BackchannelAuthenticationParams) : List (Hint × String) :=
  [(.loginHint, params.loginHint), (.loginHintToken, params.loginHintToken),
    (.idTokenHint, params.idTokenHint)].filter fun hint => hint.2 ≠ ""

/-- `_resolve_subject` -/
def resolveSubject (client : Client) (params : BackchannelAuthenticationParams) :
    M BackchannelAuthenticationError String := do
  let resolved ← (match hints params with
    | [(.loginHint, value)] => b.matchUser value
    | [(.loginHintToken, value)] => b.subjectFromLoginHintToken client value
    | [(.idTokenHint, value)] => b.subjectFromIdTokenHint client value
    | _ => refuse (failure "invalid_request" ("La demande doit porter un (et un seul) hint : " ++
        "login_hint, login_hint_token ou id_token_hint")) :
    M BackchannelAuthenticationError String)
  refuseIf (resolved = "")
    (failure "unknown_user_id" "Le hint ne correspond à aucun utilisateur connu")
  pure resolved

/-- `_NOTIFICATION_TOKEN_PATTERN` -/
def isToken68 (token : String) : Bool :=
  let body := token.toList.takeWhile fun c => c.isAlphanum || c ∈ "-._~+/".toList
  !body.isEmpty && (token.toList.drop body.length).all (· = '=')

/-- `_validate_notification_token` -/
def validateNotificationToken (mode token : String) : M BackchannelAuthenticationError String :=
  if mode = "poll" then pure ""
  else do
    refuseIf (token = "")
      (failure "invalid_request" "client_notification_token requis (mode ping)")
    refuseIf (token.toList.length > 1024 ∨ ¬isToken68 token)
      (failure "invalid_request"
        "client_notification_token invalide (RFC 6750 §2.1, 1024 caractères max)")
    pure token

/-- `_resolve_ttl` -/
def resolveTtl (requestedExpiry : String) : M BackchannelAuthenticationError Int :=
  if requestedExpiry = "" then pure b.ttlSeconds
  else
    let invalid := failure "invalid_request" "requested_expiry doit être un entier positif"
    match (Json.str requestedExpiry).toInt with
    | .error _ => refuse invalid
    | .ok requested => do
        refuseIf (requested ≤ 0) invalid
        pure (max (min b.minTtlSeconds b.ttlSeconds) (min requested b.ttlSeconds))

/-- `_resource_error` -/
def checkResources (resources : List String) : M BackchannelAuthenticationError Unit :=
  if resources = [] then pure ()
  else do
    let malformed ← orRaise (malformedResources b.platform resources)
    refuseIf (malformed ≠ [])
      (failure "invalid_target" ("resource doit être une URI absolue sans fragment " ++
        "(RFC 8707 §2.1) : " ++ Text.join ", " malformed))
    match b.scopeRegistry with
    | none => pure ()
    | some registry => do
        let unknown ← registry.unknownResources resources
        refuseIf (unknown ≠ [])
          (failure "invalid_target"
            ("Resource non enregistrée (RFC 8707 §2.2) : " ++ Text.join ", " unknown))

/-- `format_user_code` -/
def formatUserCode (code : String) : String :=
  let compact := (normalizeUserCode b.platform code).toList
  String.ofList (compact.take 4) ++ "-" ++ String.ofList (compact.drop 4)

/-- The user code of a request: the one it gives, a fresh one, or none. -/
def chooseUserCode (client : Client) (userCode : String) :
    M BackchannelAuthenticationError String :=
  if userCode ≠ "" then do
    let normalized := normalizeUserCode b.platform userCode
    refuseIf (normalized.toList.length < 4) (failure "invalid_request" "user_code invalide")
    pure (b.formatUserCode normalized)
  else if client.backchannelUserCodeParameter then do
    let drawn ← ask .generateUserCode
    pure (b.formatUserCode drawn)
  else pure ""

/-- `_binding_message_limit` -/
def bindingMessageLimit (client : Client) : Int :=
  client.bindingMessageMaxLength.getD b.bindingMessageMaxLength

/-! ## The endpoint -/

/-- What `_accept` has settled before it stores the request. -/
structure Accepted where
  client : Client
  scopes : Finset Scope
  subject : String
  notificationToken : String
  bindingMessage : String
  acr : String
  userCode : String
  ttl : Int
  resources : List String

/-- `_accept` up to the draw of the `auth_req_id`. -/
def checkRequest (client : Client) (params : BackchannelAuthenticationParams) :
    M BackchannelAuthenticationError Accepted := do
  let mode := client.backchannelTokenDeliveryMode
  refuseIf (mode ∉ ["poll", "ping", "push"])
    (failure "unauthorized_client" ("Ce client n'est pas enregistré pour CIBA " ++
      "(backchannel_token_delivery_mode poll, ping ou push attendu)"))
  let scopes ← b.validateScopes client params.scope
  let subject ← b.resolveSubject client params
  let notificationToken ← validateNotificationToken mode params.clientNotificationToken
  let limit := b.bindingMessageLimit client
  refuseIf (limit < params.bindingMessage.toList.length)
    (failure "invalid_binding_message"
      ("binding_message trop long (max " ++ toString limit ++ " caractères)"))
  let ttl ← b.resolveTtl params.requestedExpiry
  let resources := parseResourceParameter b.platform params.resource
  b.checkResources resources
  let userCode ← b.chooseUserCode client params.userCode
  refuseIf (client.backchannelUserCodeParameter ∧ userCode = "")
    (failure "invalid_request" "user_code requis pour ce client")
  pure
    { client, scopes, subject, notificationToken, userCode, ttl, resources
      bindingMessage := params.bindingMessage
      acr := (Text.split params.acrValues).headD "" }

/-- The row of an accepted request. -/
def row (accepted : Accepted) (authReqId : String) (now : Instant) :
    BackchannelAuthenticationRequest where
  authReqIdHash := tokenHash b.platform authReqId
  clientId := accepted.client.clientId
  scopes := accepted.scopes
  subject := accepted.subject
  deliveryMode := accepted.client.backchannelTokenDeliveryMode
  clientNotificationToken := accepted.notificationToken
  clientNotificationEndpoint := accepted.client.backchannelClientNotificationEndpoint
  bindingMessage := accepted.bindingMessage
  acr := accepted.acr
  userCode := accepted.userCode
  interval := b.intervalSeconds
  expiresAt := now + seconds accepted.ttl
  resourceUris := accepted.resources

/-- The end of `_accept`. -/
def store (accepted : Accepted) : M BackchannelAuthenticationError AuthenticationAck := do
  let authReqId ← ask .tokenUrlsafe
  let now ← ask .now
  let _ ← ask (.saveBackchannel (b.row accepted authReqId now))
  pure
    { authReqId := authReqId, expiresIn := accepted.ttl, interval := b.intervalSeconds
      userCode := accepted.userCode }

/-- `execute` up to the draw of the `auth_req_id`. -/
def check (params : BackchannelAuthenticationParams) :
    M BackchannelAuthenticationError Accepted := do
  let client ← b.endpoints.backchannelClient params.toBackchannelCaller
  let effective ← b.applyRequestObject client params
  b.checkRequest client effective

/-- `BackchannelAuthenticationUseCase.execute` -/
def execute (params : BackchannelAuthenticationParams) :
    M BackchannelAuthenticationError AuthenticationAck :=
  b.check params >>= b.store

/-! ## The checks read no session -/

theorem backchannelClient_uses (caller : BackchannelCaller) :
    (b.endpoints.backchannelClient caller).Uses Call.Passive := by
  refine Prog.uses_bind (Prog.uses_bind (Prog.uses_op rfl) fun _ => uses_orRefuse _ _ _)
    fun client => ?_
  refine Prog.uses_bind (uses_refuseIf _ _ _) fun _ => ?_
  refine Prog.uses_bind (uses_refuseIf _ _ _) fun _ => ?_
  refine Prog.uses_bind (Call.uses_mono (authenticateClient_uses ..) rfl) fun detail => ?_
  cases detail with
  | none => exact Prog.uses_pure _ _
  | some detail => exact Prog.uses_fail _ _

theorem applyRequestObject_uses (client : Client) (params : BackchannelAuthenticationParams) :
    (b.applyRequestObject client params).Uses Call.Passive := by
  unfold applyRequestObject
  refine Prog.uses_bind (uses_refuseIf _ _ _) fun _ => ?_
  split
  · exact Prog.uses_bind (uses_refuseIf _ _ _) fun _ => Prog.uses_pure _ _
  · refine Prog.uses_bind (uses_refuseIf _ _ _) fun _ => ?_
    refine Prog.uses_bind ?_ fun issuerClient => ?_
    · refine Prog.uses_bind (uses_refuseIf _ _ _) fun _ => ?_
      refine Prog.uses_bind (Prog.uses_bind (Prog.uses_op rfl) fun _ => uses_orRefuse _ _ _)
        fun client => ?_
      exact Prog.uses_bind (uses_refuseIf _ _ _) fun _ => Prog.uses_pure _ _
    · refine Prog.uses_bind (Prog.uses_op rfl) fun result => ?_
      cases result with
      | error reason => exact Prog.uses_fail _ _
      | ok claims => exact Prog.uses_bind (uses_refuseIf _ _ _) fun _ => Prog.uses_pure _ _

theorem validateScopes_uses (client : Client) (scope : String) :
    (b.validateScopes client scope).Uses Call.Passive := by
  unfold validateScopes
  refine Prog.uses_bind (uses_refuseIf _ _ _) fun _ => ?_
  refine Prog.uses_bind (uses_refuseIf _ _ _) fun _ => ?_
  refine Prog.uses_bind (uses_refuseIf _ _ _) fun _ => ?_
  cases b.scopeRegistry with
  | none => exact Prog.uses_pure _ _
  | some registry =>
      exact Prog.uses_bind (Call.uses_mono (ScopeRegistry.unknownScopes_uses ..) rfl) fun _ =>
        Prog.uses_bind (uses_refuseIf _ _ _) fun _ => Prog.uses_pure _ _

theorem matchUser_uses (value : String) : (b.matchUser value).Uses Call.Passive := by
  refine Prog.uses_bind (Prog.uses_op rfl) fun found => ?_
  cases found with
  | some user => exact Prog.uses_pure _ _
  | none => exact Prog.uses_bind (Prog.uses_op rfl) fun _ => Prog.uses_pure _ _

theorem subjectFromClaims_uses (claims : Members) (names : List String) :
    (b.subjectFromClaims claims names).Uses Call.Passive := by
  induction names with
  | nil => exact Prog.uses_pure _ _
  | cons name rest ih =>
      unfold subjectFromClaims
      split
      · split
        · exact ih
        · refine Prog.uses_bind (b.matchUser_uses _) fun subject => ?_
          split
          · exact Prog.uses_pure _ _
          · exact ih
      · exact ih

theorem resolveSubject_uses (client : Client) (params : BackchannelAuthenticationParams) :
    (b.resolveSubject client params).Uses Call.Passive := by
  refine Prog.uses_bind ?_ fun resolved =>
    Prog.uses_bind (uses_refuseIf _ _ _) fun _ => Prog.uses_pure _ _
  split
  · exact b.matchUser_uses _
  · refine Prog.uses_bind (uses_refuseIf _ _ _) fun _ => ?_
    refine Prog.uses_bind (Prog.uses_op rfl) fun result => ?_
    refine Prog.uses_bind (uses_refuseIf _ _ _) fun _ => ?_
    exact Prog.uses_bind (uses_orRefuse _ _ _) fun _ => b.subjectFromClaims_uses _ _
  · refine Prog.uses_bind (uses_refuseIf _ _ _) fun _ => ?_
    refine Prog.uses_bind (Prog.uses_bind (Prog.uses_op rfl) fun _ => uses_orRefuse _ _ _)
      fun claims => ?_
    refine Prog.uses_bind (uses_refuseIf _ _ _) fun _ => ?_
    split
    · split
      · exact Prog.uses_pure _ _
      · exact b.matchUser_uses _
    · split
      · exact b.matchUser_uses _
      · exact Prog.uses_pure _ _
    · exact Prog.uses_pure _ _
  · exact Prog.uses_fail _ _

theorem checkResources_uses (resources : List String) :
    (b.checkResources resources).Uses Call.Passive := by
  unfold checkResources
  split
  · exact Prog.uses_pure _ _
  · refine Prog.uses_bind (uses_orRaise _ _) fun malformed => ?_
    refine Prog.uses_bind (uses_refuseIf _ _ _) fun _ => ?_
    cases b.scopeRegistry with
    | none => exact Prog.uses_pure _ _
    | some registry =>
        exact Prog.uses_bind (Call.uses_mono (ScopeRegistry.unknownResources_uses ..) rfl)
          fun _ => uses_refuseIf _ _ _

theorem validateNotificationToken_uses (mode token : String) :
    (validateNotificationToken mode token).Uses Call.Passive := by
  unfold validateNotificationToken
  split
  · exact Prog.uses_pure _ _
  · exact Prog.uses_bind (uses_refuseIf _ _ _) fun _ =>
      Prog.uses_bind (uses_refuseIf _ _ _) fun _ => Prog.uses_pure _ _

theorem resolveTtl_uses (requestedExpiry : String) :
    (b.resolveTtl requestedExpiry).Uses Call.Passive := by
  unfold resolveTtl
  split
  · exact Prog.uses_pure _ _
  · dsimp only
    split
    · exact Prog.uses_fail _ _
    · exact Prog.uses_bind (uses_refuseIf _ _ _) fun _ => Prog.uses_pure _ _

theorem chooseUserCode_uses (client : Client) (userCode : String) :
    (b.chooseUserCode client userCode).Uses (Call.In [.keys, .passive, .draws]) := by
  unfold chooseUserCode
  generalize normalizeUserCode b.platform userCode = normalized
  split
  · exact Prog.uses_bind (uses_refuseIf _ _ _) fun _ => Prog.uses_pure _ _
  split
  · exact Prog.uses_bind (Prog.uses_op rfl) fun _ => Prog.uses_pure _ _
  · exact Prog.uses_pure _ _

theorem check_uses (params : BackchannelAuthenticationParams) :
    (b.check params).Uses (Call.In [.keys, .passive, .draws]) := by
  refine Prog.uses_bind (Call.uses_mono (b.backchannelClient_uses _) rfl) fun client => ?_
  refine Prog.uses_bind (Call.uses_mono (b.applyRequestObject_uses _ _) rfl) fun effective => ?_
  refine Prog.uses_bind (uses_refuseIf _ _ _) fun _ => ?_
  refine Prog.uses_bind (Call.uses_mono (b.validateScopes_uses _ _) rfl) fun scopes => ?_
  refine Prog.uses_bind (Call.uses_mono (b.resolveSubject_uses _ _) rfl) fun subject => ?_
  refine Prog.uses_bind (Call.uses_mono (validateNotificationToken_uses _ _) rfl) fun token => ?_
  refine Prog.uses_bind (uses_refuseIf _ _ _) fun _ => ?_
  refine Prog.uses_bind (Call.uses_mono (b.resolveTtl_uses _) rfl) fun ttl => ?_
  refine Prog.uses_bind (Call.uses_mono (b.checkResources_uses _) rfl) fun _ => ?_
  refine Prog.uses_bind (b.chooseUserCode_uses _ _) fun userCode => ?_
  exact Prog.uses_bind (uses_refuseIf _ _ _) fun _ => Prog.uses_pure _ _

/-- The endpoint writes backchannel requests, and nothing else of the store. -/
theorem execute_uses (params : BackchannelAuthenticationParams) :
    (b.execute params).Uses fun c =>
      c.In [.keys, .passive, .draws] ∨ ∃ row, c = .saveBackchannel row := by
  refine Prog.uses_bind ((b.check_uses params).mono fun _ h => .inl h) fun accepted => ?_
  refine Prog.uses_bind (Prog.uses_op (.inl rfl)) fun authReqId => ?_
  refine Prog.uses_bind (Prog.uses_op (.inl rfl)) fun now => ?_
  exact Prog.uses_bind (Prog.uses_op (.inr ⟨_, rfl⟩)) fun _ => Prog.uses_pure _ _

end BackchannelAuthenticationUseCase

end PurIdentityServer

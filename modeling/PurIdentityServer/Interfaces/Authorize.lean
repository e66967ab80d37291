import PurIdentityServer.Application.Consent
import PurIdentityServer.Application.Par
import PurIdentityServer.Interfaces.AuthorizeResponse

/-!
# Authorize — the `/authorize` endpoint

A request arrives from a browser, with the parameters it carries or with
the reference of a pushed request. The endpoint resolves the request,
sends the browser to the login, signup or consent page when it must
interact, and otherwise executes the request and answers the client. The
same request arrives again, at the same URL, once the user has logged in.
-/

namespace PurIdentityServer

open Effects

/-! ## Requests of a browser, and answers -/

/-- What the session cookie of a browser tells; empty without one. -/
structure BrowserSession where
  sid : String := ""
  /-- `session_auth_time`, in seconds -/
  authTime : Int := 0
  /-- `session_reauth`, the imprint of the URL the login was made for -/
  reauth : String := ""

/-- A request to `/authorize`. -/
structure HttpRequest where
  path : String := "/authorize"
  /-- the query string of a `GET`, the encoded form of a `POST` -/
  query : String
  params : Form
  user : Option String := none
  session : BrowserSession := {}

/-- What is resolved outside of the endpoint, at the moment of a request. -/
structure Resolvers where
  /-- `request_object_resolver`, for a browser session -/
  resolveObject : (sessionScope : String) → FormResolution
  /-- a claim of a request object, not verified -/
  unverifiedClaim : (document name : String) → String
  /-- the redirection URIs a trust chain gives an entity -/
  federatedRedirects : (entity : String) → Finset String

inductive WebAnswer where
  | login (next : String)
  | signup (next : String)
  /-- the redirection to `/consent` -/
  | consent (location : String)
  | consentScreen (request : AuthorizeRequest) (pushedReference : String)
  | missingParameters (names : List String)
  /-- a page with an error of a request object or of a pushed request -/
  | notice (error description : String)
  | badRequest (detail : String)
  /-- the fields of a form that are required and absent -/
  | unprocessable (names : List String)
  | refused (response : Response)
  | issued (result : AuthorizeRedirect) (response : Response)

namespace WebAnswer

/-- The browser is sent to a page of the provider. -/
def Interacts : WebAnswer → Prop
  | login _ | signup _ | consent _ | consentScreen _ _ => True
  | _ => False

/-- The client is given a code or a token. -/
def Issues : WebAnswer → Prop
  | issued _ _ => True
  | _ => False

end WebAnswer

/-! ## The consent page's URL -/

/-- `quote_plus(value)` -/
def quotePlus (value : String) : String :=
  String.ofList (value.toList.flatMap fun c =>
    if c = ' ' then ['+'] else FormUrl.quoteChar (fun _ => false) c)

/-- `urlencode(params)` -/
def urlencode (params : List (String × String)) : String :=
  Text.join "&" (params.map fun m => quotePlus m.1 ++ "=" ++ quotePlus m.2)

/-- `_consent_params` -/
def consentParams (request : AuthorizeRequest) (pushedReference : String) :
    List (String × String) :=
  [("response_type", request.responseType), ("client_id", request.clientId),
    ("redirect_uri", request.redirectUri), ("scope", request.scope),
    ("state", request.state), ("nonce", request.nonce),
    ("code_challenge", request.codeChallenge),
    ("code_challenge_method", request.codeChallengeMethod),
    ("response_mode", request.responseMode), ("prompt", request.prompt),
    ("acr_values", request.acrValues), ("claims", request.claims),
    ("dpop_jkt", request.dpopJkt)] ++
  (if pushedReference = "" then [] else [("pushed_reference", pushedReference)])

/-- `consent_url` -/
def consentUrl (request : AuthorizeRequest) (pushedReference : String) : String :=
  "/consent?" ++ urlencode (consentParams request pushedReference)

/-! ## The answer of an execution -/

/-- What an answer of the response builder is to the browser. -/
def refusing (response : M Empty Response) : M Empty WebAnswer :=
  response >>= fun r => pure (.refused r)

/-- `_success_redirect`, which completes the pushed request. -/
def successRedirect (par : Bool) (responses : Responses) (result : AuthorizeRedirect)
    (reference : String) : M Empty WebAnswer := do
  (if par ∧ reference ≠ "" then PushedAuthorizationUseCase.complete reference else pure () :
    M Empty Unit)
  pure (.issued result (responses.authorizationResponse result))

/-- `_execution_redirect`: the request is executed, and the client answered. -/
def executionRedirect (usecase : AuthorizeUseCase) (par : Bool) (responses : Responses)
    (request : AuthorizeRequest) (reference : String) : M Empty WebAnswer := do
  match ← outcome (usecase.execute request) with
  | .ok result => successRedirect par responses result reference
  | .error error => refusing (responses.errorResponse error)

/-! ## The endpoint -/

/-- `reauth_context` -/
def reauthContext (p : Platform) (url : String) : String :=
  String.ofList ((p.sha256Hex url).toList.take 32)

/-- A word of the `prompt` parameter. -/
def AuthorizeRequest.prompts (request : AuthorizeRequest) (word : String) : Prop :=
  word ∈ Text.split request.prompt

instance (request : AuthorizeRequest) (word : String) : Decidable (request.prompts word) :=
  inferInstanceAs (Decidable (word ∈ Text.split request.prompt))

/-- `authorize_router`; the flags tell which optional dependencies are injected. -/
structure AuthorizeEndpoint where
  usecase : AuthorizeUseCase
  par : Bool := true
  clients : Bool := true
  consent : Option ConsentUseCase := none
  parRequired : Bool := false
  requireLogin : Bool := false
  baseUrl : String := ""
  responses : Responses

namespace AuthorizeEndpoint

/-- `_is_entity_identifier` -/
def isEntityIdentifier (value : String) : Bool :=
  Text.startsWith value "https://" && '?' ∉ value.toList && '#' ∉ value.toList

/-- `{"token", "id_token"} & set(response_type.split())` -/
def hasTokens (params : Params) : Bool :=
  let words := Text.split (params.text "response_type")
  "token" ∈ words || "id_token" ∈ words

/-- `_requested_error_mode` -/
def requestedErrorMode (client : Client) (requestedMode : String) (hasTokens : Bool) :
    ResponseMode :=
  if requestedMode = "form_post" then .formPost
  else if jarmSigningAlg client requestedMode ≠ "" then .jwt
  else if requestedMode = "fragment" ∨ hasTokens then .fragment
  else .query

/-- `_federated_error_mode` -/
def federatedErrorMode (params : Params) : ResponseMode :=
  if params.text "response_mode" = "form_post" then .formPost
  else if hasTokens params then .fragment
  else .query

/-- `_pick_error_redirect_uri`, with the claim of the request object. -/
def pickErrorRedirectUri (redirectUri claimed : String) (allowed : Finset String) : String :=
  let candidate := if Text.strip redirectUri = "" then claimed else Text.strip redirectUri
  if candidate ∈ allowed then candidate else ""

/-- `_federated_error_redirect_uris` -/
def federatedErrorRedirectUris (resolvers : Resolvers) (params : Params) (clientId : String) :
    Option Client → Finset String
  | some client =>
      if client.federated ∨ isEntityIdentifier client.clientId ∨
          Text.strip (params.text "redirect_uri") ≠ "" then client.redirectUris
      else ∅
  | none =>
      if resolvers.federatedRedirects clientId ≠ ∅ then resolvers.federatedRedirects clientId
      else resolvers.federatedRedirects
        (resolvers.unverifiedClaim (params.text "request") "iss")

variable (e : AuthorizeEndpoint)

abbrev platform : Platform := e.usecase.platform

/-- The answers of the calls that pass neither signer nor issuer. -/
def bareResponses : Responses := { e.responses with issuer := "", signEnvelope := none }

/-- The answers of the calls that pass the issuer and no signer. -/
def unsignedResponses : Responses := { e.responses with signEnvelope := none }

/-- `_authorize_url_from_base` -/
def authorizeUrl (http : HttpRequest) : String :=
  Text.rstripSlash e.baseUrl ++ http.path ++ (if http.query = "" then "" else "?" ++ http.query)

/-- `reauth_context(_authorize_url_from_base(…))` -/
def urlHash (http : HttpRequest) : String := reauthContext e.platform (e.authorizeUrl http)

/-! ### Requests without a pushed reference -/

/-- `_request_object_error_response` -/
def requestObjectErrorResponse (resolvers : Resolvers) (error : RequestObjectError)
    (params : Params) : M Empty WebAnswer :=
  let page : M Empty WebAnswer := pure (.notice error.error error.errorDescription)
  let clientId := params.text "client_id"
  if ¬e.clients then page
  else do
    let client ← ask (.findClient clientId)
    if client.isNone ∧ ¬isEntityIdentifier clientId then page
    else
      let redirectUri := pickErrorRedirectUri (params.text "redirect_uri")
        (resolvers.unverifiedClaim (params.text "request") "redirect_uri")
        (federatedErrorRedirectUris resolvers params clientId client)
      if redirectUri = "" then page
      else
        refusing (e.responses.errorRedirect
          { error := error.error
            errorDescription := error.errorDescription
            redirectUri := redirectUri
            state := if error.state = "" then params.text "state" else error.state
            responseMode :=
              match client with
              | none => federatedErrorMode params
              | some client =>
                  requestedErrorMode client (params.text "response_mode") (hasTokens params)
            clientId := (client.map Client.clientId).getD clientId })

/-- The required parameters that are absent. -/
def missing (params : Params) : List String :=
  ["response_type", "client_id", "redirect_uri"].filter (fun name => params.text name = "") ++
    (if params.text "scope" = "" ∧ params.text "authorization_details" = "" then ["scope"]
      else [])

/-- `_form_post_missing_response_type`, or the page of the missing parameters. -/
def refuseMissing (params : Params) : M Empty WebAnswer :=
  let page : M Empty WebAnswer := pure (.missingParameters (missing params))
  if missing params ≠ ["response_type"] ∨ params.text "response_mode" ≠ "form_post" ∨
      ¬e.clients then page
  else do
    match ← ask (.findClient (params.text "client_id")) with
    | none => page
    | some client =>
        if ¬client.isActive ∨ params.text "redirect_uri" ∉ client.redirectUris then page
        else
          refusing (e.unsignedResponses.errorRedirect
            { error := "invalid_request"
              errorDescription :=
                "Paramètre requis manquant : response_type (RFC 6749 §3.1.1)"
              redirectUri := params.text "redirect_uri"
              state := params.text "state"
              responseMode := .formPost
              clientId := client.clientId })

def parDescription : String :=
  "Ce client exige l'utilisation de Pushed Authorization Request (RFC 9126 §6.1)"

/-- `_enforce_par_requirement` -/
def enforceParRequirement (params : Params) : M Empty (Option WebAnswer) :=
  if ¬e.clients then pure none
  else do
    match ← ask (.findClient (params.text "client_id")) with
    | none => pure none
    | some client =>
        if ¬client.parRequired ∧ ¬client.fapi2Enabled ∧ ¬e.parRequired then pure none
        else if params.text "redirect_uri" ≠ "" ∧
            params.text "redirect_uri" ∈ client.redirectUris then do
          let answer ← refusing (e.responses.errorRedirect
            { error := "invalid_request"
              errorDescription := parDescription
              redirectUri := params.text "redirect_uri"
              state := params.text "state"
              responseMode :=
                requestedErrorMode client (params.text "response_mode") (hasTokens params)
              clientId := client.clientId })
          pure (some answer)
        else pure (some (.notice "invalid_request" parDescription))

/-- `_direct_authorize_request` -/
def directAuthorizeRequest (resolvers : Resolvers) (http : HttpRequest) :
    M Empty (WebAnswer ⊕ AuthorizeRequest) :=
  match resolvers.resolveObject http.session.sid http.params with
  | .error error => do
      let answer ← e.requestObjectErrorResponse resolvers error http.params.params
      pure (.inl answer)
  | .ok form =>
      if missing form.params ≠ [] then do
        let answer ← e.refuseMissing form.params
        pure (.inl answer)
      else do
        match ← e.enforceParRequirement form.params with
        | some answer => pure (.inl answer)
        | none => pure (.inr (authorizeRequestOf form.params (form.params.text "client_id")))

/-! ### Pushed requests -/

/-- `_pushed_param_response` -/
def pushedParamResponse (error : PushError) : M Empty WebAnswer :=
  if error.redirectUri = "" then pure (.notice error.error error.errorDescription)
  else
    refusing (e.unsignedResponses.errorRedirect
      { error := error.error
        errorDescription := error.errorDescription
        redirectUri := error.redirectUri
        state := error.state
        responseMode := error.responseMode })

/-- `_resolve_pushed_request` -/
def resolvePushedRequest (requestUri clientId : String) :
    M Empty (WebAnswer ⊕ AuthorizeRequest) :=
  if ¬e.par then do
    let answer ← e.pushedParamResponse
      { error := "invalid_request"
        errorDescription := "Pushed Authorization Request désactivé" }
    pure (.inl answer)
  else do
    match ← outcome (PushedAuthorizationUseCase.resolve requestUri clientId) with
    | .error error => do
        let answer ← e.pushedParamResponse error
        pure (.inl answer)
    | .ok request => pure (.inr request)

/-- The reference of a pushed request a browser presents; empty without one. -/
def pushedReference (http : HttpRequest) : String :=
  let requestUri := http.params.params.text "request_uri"
  if requestUri ≠ "" ∧ Text.startsWith requestUri pushedRequestUriHead then requestUri else ""

/-- `_authorize_entry` -/
def entry (resolvers : Resolvers) (http : HttpRequest) :
    M Empty (WebAnswer ⊕ AuthorizeRequest) :=
  if pushedReference http ≠ "" then
    e.resolvePushedRequest (pushedReference http) (http.params.params.text "client_id")
  else e.directAuthorizeRequest resolvers http

/-! ### Before the request is executed -/

/-- `validate_authorization_request`, as the endpoint calls it. -/
def validated (request : AuthorizeRequest) :
    M Empty (Except AuthorizeError ValidatedAuthorization) :=
  outcome (validateAuthorizationRequest e.platform none request)

/-- `_federated_error_redirect`: where the error of an entity goes. -/
def federatedErrorTarget (resolvers : Resolvers) (request : AuthorizeRequest)
    (error : AuthorizeError) : String :=
  if isEntityIdentifier request.clientId ∧ error.error ∈ ["invalid_client", "invalid_request"]
  then pickErrorRedirectUri request.redirectUri "" (resolvers.federatedRedirects request.clientId)
  else ""

/-- `_non_redirectable_error` -/
def nonRedirectableError (resolvers : Resolvers) (request : AuthorizeRequest) :
    M Empty (Option WebAnswer) :=
  if ¬e.clients then pure none
  else do
    match ← e.validated request with
    | .ok _ => pure none
    | .error error =>
        if error.redirectable then pure none
        else do
          let target := federatedErrorTarget resolvers request error
          let answer ← refusing
            (if target = "" then e.bareResponses.errorResponse error
              else e.bareResponses.errorRedirect
                { error := error.error
                  errorDescription := error.errorDescription
                  redirectUri := target
                  state := if error.state = "" then request.state else error.state
                  responseMode := error.responseMode
                  clientId := request.clientId })
          pure (some answer)

/-- `_login_redirect`, with the URL to come back to. -/
def loginRedirect (http : HttpRequest) : WebAnswer := .login (e.authorizeUrl http)

/-- An error about the user, in the response mode of the request. -/
def refuseUser (request : AuthorizeRequest) (error description : String) :
    M Empty WebAnswer :=
  let answer (mode : ResponseMode) : M Empty WebAnswer :=
    refusing (e.responses.errorResponse
      { error := error
        errorDescription := description
        redirectUri := request.redirectUri
        state := request.state
        responseMode := mode
        clientId := request.clientId })
  if ¬e.clients then answer .query
  else do
    match ← e.validated request with
    | .error error => refusing (e.responses.errorResponse error)
    | .ok validated => answer validated.responseMode

/-- `_AUTHENTICATION_ERROR_DESCRIPTIONS` -/
def authenticationErrorDescription (error : String) : String :=
  if error = "unmet_authentication_requirements" then
    "Exigences d'authentification non satisfaites (max_age/acr_values, RFC 9470 §2)"
  else "Authentification requise (prompt=none)"

/-- `_login_or_error` -/
def loginOrError (request : AuthorizeRequest) (http : HttpRequest) (error : String) :
    M Empty WebAnswer :=
  if request.prompts "none" then
    e.refuseUser request error (authenticationErrorDescription error)
  else pure (e.loginRedirect http)

/-- `_registration_gate` -/
def registrationGate (request : AuthorizeRequest) (http : HttpRequest) :
    M Empty (Option WebAnswer) :=
  let marker := http.params.params.text "register"
  if request.prompts "none" then do
    let answer ← e.loginOrError request http "login_required"
    pure (some answer)
  else if marker = "cancelled" then do
    let answer ← e.refuseUser request "access_denied"
      "Inscription annulée par l'utilisateur (prompt=create)"
    pure (some answer)
  else if marker = "refused" then do
    let answer ← e.refuseUser request "access_denied"
      "Création du compte refusée (prompt=create)"
    pure (some answer)
  else if http.user.isSome ∧ http.session.reauth = e.urlHash http then pure none
  else pure (some (.signup (e.authorizeUrl http)))

/-- `_unsupported_acr` -/
def unsupportedAcr (request : AuthorizeRequest) : Bool :=
  match (Text.split request.acrValues).head? with
  | none => false
  | some acr => acr ∉ supportedAcrValues

/-- `_max_age_requirement_unmet`, at a moment. -/
def maxAgeRequirementUnmet (request : AuthorizeRequest) (http : HttpRequest) (now : Instant) :
    Bool :=
  if request.maxAge = 0 then http.session.reauth ≠ e.urlHash http
  else if request.maxAge < 0 then false
  else if http.session.authTime = 0 then true
  else if now.epoch - http.session.authTime ≤ request.maxAge then false
  else http.session.reauth ≠ e.urlHash http

/-- `_reauthentication_required`, at a moment. -/
def reauthenticationRequired (request : AuthorizeRequest) (http : HttpRequest) (now : Instant) :
    Bool :=
  if request.prompts "login" ∧ http.session.reauth ≠ e.urlHash http then true
  else e.maxAgeRequirementUnmet request http now

/-- `_authentication_gate` -/
def authenticationGate (request : AuthorizeRequest) (http : HttpRequest) :
    M Empty (Option WebAnswer) :=
  if request.prompts "create" then e.registrationGate request http
  else if http.user.isSome ∧ request.prompts "none" ∧ unsupportedAcr request then do
    let answer ← e.loginOrError request http "unmet_authentication_requirements"
    pure (some answer)
  else do
    let now ← ask .now
    if http.user.isSome ∧ e.reauthenticationRequired request http now then
      if request.prompts "none" then do
        let now ← ask .now
        let answer ← e.loginOrError request http
          (if e.maxAgeRequirementUnmet request http now then "unmet_authentication_requirements"
            else "login_required")
        pure (some answer)
      else pure (some (e.loginRedirect http))
    else if http.user.isNone ∧ (e.requireLogin ∨ request.prompts "login") then do
      let answer ← e.loginOrError request http "login_required"
      pure (some answer)
    else pure none

/-- `_with_authenticated_subject`: neither the resource nor the authorization details are
copied. -/
def withAuthenticatedSubject (request : AuthorizeRequest) (http : HttpRequest) :
    AuthorizeRequest :=
  match http.user with
  | none => request
  | some user =>
      { request with
        subject := user
        sessionId := http.session.sid
        authTime := http.session.authTime
        resource := ""
        authorizationDetails := "" }

/-- `_consent_redirect_if_required` -/
def consentRedirectIfRequired (request : AuthorizeRequest) (reference : String) :
    M Empty (Option WebAnswer) :=
  match e.consent with
  | none => pure none
  | some consent =>
      if ¬e.clients then pure none
      else do
        match ← ask (.findClient request.clientId) with
        | none => pure none
        | some client => do
            let required ← consent.isRequired client request.subject
              (Scope.fromSpaceSeparated request.scope) "" (request.prompts "consent")
            pure (if required then some (.consent (consentUrl request reference)) else none)

/-! ### The answer -/

/-- What `_handle_authorize` does with a request it has resolved. -/
def proceed (resolvers : Resolvers) (request : AuthorizeRequest) (http : HttpRequest) :
    M Empty WebAnswer := do
  match ← e.nonRedirectableError resolvers request with
  | some answer => pure answer
  | none => do
      match ← e.authenticationGate request http with
      | some answer => pure answer
      | none => do
          let request := withAuthenticatedSubject request http
          match ← e.consentRedirectIfRequired request (pushedReference http) with
          | some answer => pure answer
          | none =>
              executionRedirect e.usecase e.par e.responses request (pushedReference http)

/-- `_handle_authorize` -/
def handle (resolvers : Resolvers) (http : HttpRequest) : M Empty WebAnswer := do
  match ← e.entry resolvers http with
  | .inl answer => pure answer
  | .inr request => e.proceed resolvers request http

end AuthorizeEndpoint

end PurIdentityServer

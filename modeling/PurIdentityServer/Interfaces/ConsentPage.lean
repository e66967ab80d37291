import PurIdentityServer.Interfaces.Authorize

/-!
# ConsentPage — the `/consent` routes

The page shows what a client asks for, and its form sends the decision of
the user. Both routes rebuild the authorization request from the
parameters the browser sends: nothing links them to the request that
`/authorize` has received.
-/

namespace PurIdentityServer

open Effects

/-- `consent_router` -/
structure ConsentPage where
  consent : ConsentUseCase
  usecase : AuthorizeUseCase
  par : Bool := true
  responses : Responses

namespace ConsentPage

/-- `_authorize_request`; the form does not carry the prompt. -/
def authorizeRequest (params : Params) (prompt : String) : AuthorizeRequest where
  responseType := params.text "response_type"
  clientId := params.text "client_id"
  redirectUri := params.text "redirect_uri"
  scope := params.text "scope"
  state := params.text "state"
  nonce := params.text "nonce"
  codeChallenge := params.text "code_challenge"
  codeChallengeMethod := (Dict.get params "code_challenge_method").getD "S256"
  responseMode := params.text "response_mode"
  prompt := prompt
  acrValues := params.text "acr_values"
  claims := params.text "claims"
  dpopJkt := params.text "dpop_jkt"
  authorizationDetails := params.text "authorization_details"

variable (c : ConsentPage)

/-- The request is validated again, before the page does anything with it. -/
def revalidated (request : AuthorizeRequest)
    (f : ValidatedAuthorization → M Empty WebAnswer) : M Empty WebAnswer :=
  if request.redirectUri = "" then pure (.badRequest "redirect_uri requis")
  else do
    match ← outcome (validateAuthorizationRequest c.usecase.platform none request) with
    | .error error => refusing (c.responses.errorResponse error)
    | .ok validated => f validated

/-- `_handle_consent` -/
def handleConsent (request : AuthorizeRequest) (subject reference : String) :
    M Empty WebAnswer :=
  c.revalidated request fun validated => do
    let request := { request with subject := subject }
    let required ← c.consent.isRequired validated.client subject
      (Scope.fromSpaceSeparated request.scope) request.authorizationDetails
      (request.prompts "consent")
    if required then pure (.consentScreen request reference)
    else executionRedirect c.usecase c.par c.responses request reference

/-- `consent_prompt`, `GET /consent` -/
def consentPrompt (params : Params) (user : Option String) : M Empty WebAnswer :=
  let request := authorizeRequest params (params.text "prompt")
  let reference := params.text "pushed_reference"
  match user with
  | none => pure (.login (consentUrl request reference))
  | some subject => c.handleConsent request subject reference

/-- The fields the form must carry. -/
def requiredFields : List String := ["response_type", "client_id", "scope"]

/-- `consent_decision`, `POST /consent` -/
def consentDecision (params : Params) (user : Option String) : M Empty WebAnswer :=
  let request := authorizeRequest params ""
  let reference := params.text "pushed_reference"
  let absent := requiredFields.filter fun name => (Dict.get params name).isNone
  if absent ≠ [] then pure (.unprocessable absent)
  else
    match user with
    | none => pure (.login (consentUrl request reference))
    | some subject =>
        c.revalidated request fun validated =>
          if Dict.get params "action" = some "deny" then
            refusing (c.responses.errorResponse
              { error := "access_denied"
                errorDescription := "L'utilisateur a refusé l'accès"
                redirectUri := request.redirectUri
                state := request.state
                responseMode := validated.responseMode
                clientId := request.clientId })
          else do
            c.consent.grant subject request.clientId (Scope.fromSpaceSeparated request.scope)
              request.authorizationDetails
            executionRedirect c.usecase c.par c.responses { request with subject := subject }
              reference

end ConsentPage

end PurIdentityServer

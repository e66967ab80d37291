import PurIdentityServer.Application.Token
import PurIdentityServer.Application.Revocation
import PurIdentityServer.Infrastructure.ClientAssertions
import PurIdentityServer.Infrastructure.Settings

/-!
# ClientEndpoints — how six endpoints authenticate a client

`/token`, `/par` and `/bc-authorize` follow the authentication method of
the client; `/device_authorization`, `/introspect` and `/revoke` compare
the hash of a secret, whatever the method. `proven_iff` says for which
requests an endpoint takes a confidential client for authenticated only
on a proof of the client's own method.
-/

namespace PurIdentityServer

open Effects

/-! ## Requests -/

/-- What a request may prove its client with. -/
structure Credentials where
  clientSecret : String := ""
  assertionType : String := ""
  assertion : String := ""
  tlsCertificate : Option ClientCertificate := none

/-- The members of `BackchannelAuthenticationParams` that tell who calls. -/
structure BackchannelCaller where
  clientId : String := ""
  clientSecret : String := ""
  clientAssertionType : String := ""
  clientAssertion : String := ""
  request : String := ""
  tlsCertificate : Option ClientCertificate := none

inductive ClientRequest where
  | token (request : TokenRequest)
  | par (params : Dict String String)
  | bcAuthorize (caller : BackchannelCaller)
  | deviceAuthorization (clientId clientSecret : String)
  | introspect (query : TokenQuery)
  | revoke (query : TokenQuery)

/-- `params.get(name, "")` -/
def formValue (params : Dict String String) (name : String) : String :=
  (params.get name).getD ""

/-- The credentials an endpoint reads from the request. -/
def ClientRequest.credentials : ClientRequest → Credentials
  | .token request =>
      ⟨request.clientSecret, request.clientAssertionType, request.clientAssertion,
        request.tlsCertificate⟩
  | .par params =>
      ⟨formValue params "client_secret", formValue params "client_assertion_type",
        formValue params "client_assertion", none⟩
  | .bcAuthorize caller =>
      ⟨caller.clientSecret, caller.clientAssertionType, caller.clientAssertion,
        caller.tlsCertificate⟩
  | .deviceAuthorization _ clientSecret => { clientSecret := clientSecret }
  | .introspect query => { clientSecret := query.clientSecret }
  | .revoke query => { clientSecret := query.clientSecret }

structure PushedAuthorizationConfig where
  parEndpoint : String := ""
  issuer : String := ""
  tokenEndpoint : String := ""

structure BackchannelAuthenticationConfig where
  issuer : String
  tokenEndpoint : String := ""
  bcAuthorizeEndpoint : String := ""

/-- The use cases behind the endpoints, over one registry of clients. -/
structure ClientEndpoints (κ : Type) where
  tokens : TokenUseCase
  par : PushedAuthorizationConfig
  backchannel : BackchannelAuthenticationConfig
  keys : ClientKeys κ
  outside : Ports
  /-- `/bc-authorize` has a verifier of request objects -/
  requestObjects : Bool := true

namespace ClientEndpoints

section Endpoints

variable {κ : Type} (s : ClientEndpoints κ)

/-- The ports of the server, with its verifier of client assertions; a
verification that raises accepts nothing. -/
def ports : Ports :=
  { s.outside with
    verifyAssertion := fun token client audience requireIssEqSub now =>
      match s.keys.verify now token client audience requireIssEqSub with
      | .ok claims => claims
      | .error _ => none }

/-- `issuer_of` -/
def issuerOf (token : String) : String :=
  (Json.obj ((s.tokens.platform.jwtDecode token).getD [])).member "iss" |>.bind Json.asStr
    |>.getD ""

/-! ## The endpoints -/

/-- How the grants of `/token` authenticate a client. -/
def tokenClient (request : TokenRequest) : M TokenError Client := do
  let client ← TokenUseCase.activeClient request.clientId clientUnknownError
  s.tokens.authenticateClient client request
  pure client

/-- `PushedAuthorizationUseCase._assertion_audiences` -/
def pushAudiences (client : Client) : List String :=
  if client.fapi2Enabled then
    let issuer := Text.rstripSlash s.par.issuer
    if issuer = "" then [] else [issuer]
  else
    (([s.par.issuer, s.par.tokenEndpoint, s.par.parEndpoint].filter (· ≠ "")).map
      Text.rstripSlash).eraseDups

/-- The end of `authenticate_client` at an endpoint. -/
def orUnauthenticated (client : Client) : Option String → M QueryError Client
  | none => pure client
  | some detail => refuse ⟨"invalid_client", detail, 401⟩

/-- The client of a push: `client_id`, or the issuer of the assertion. -/
def pushClientId (params : Dict String String) : String :=
  if formValue params "client_id" = "" ∧ formValue params "client_assertion" ≠ "" ∧
      s.tokens.clientAssertions then
    s.issuerOf (formValue params "client_assertion")
  else formValue params "client_id"

/-- `PushedAuthorizationUseCase._authenticate_client` -/
def pushClient (params : Dict String String) : M QueryError Client := do
  let clientId := s.pushClientId params
  refuseIf (clientId = "") ⟨"invalid_client", clientUnknownError, 401⟩
  let client ← ask (.findClient clientId) >>=
    orRefuse ⟨"invalid_client", clientUnknownError, 401⟩
  refuseIf (¬client.isActive) ⟨"invalid_client", clientUnknownError, 401⟩
  refuseIf (formValue params "client_secret" ≠ "" ∧ client.clientType ≠ .confidential)
    ⟨"invalid_client", "client_secret fourni mais le client n'est pas confidentiel", 401⟩
  let detail ← authenticateClient s.tokens.platform client (formValue params "client_secret")
    s.tokens.clientAssertions (formValue params "client_assertion_type")
    (formValue params "client_assertion") (s.pushAudiences client) none
  orUnauthenticated client detail

/-- `BackchannelAuthenticationUseCase._assertion_audiences` -/
def backchannelAudiences : List String :=
  let issuer := Text.rstripSlash s.backchannel.issuer
  let orDefault (endpoint path : String) : String :=
    Text.rstripSlash (if endpoint ≠ "" then endpoint else issuer ++ path)
  [issuer, orDefault s.backchannel.tokenEndpoint "/token",
    orDefault s.backchannel.bcAuthorizeEndpoint "/bc-authorize"]

/-- `_deduced_client_id` -/
def deducedClientId (caller : BackchannelCaller) : String :=
  let issuer := if caller.clientAssertion ≠ "" ∧ s.tokens.clientAssertions then
    s.issuerOf caller.clientAssertion else ""
  if issuer ≠ "" then issuer
  else if caller.request ≠ "" ∧ s.requestObjects then s.issuerOf caller.request
  else ""

def backchannelClientId (caller : BackchannelCaller) : String :=
  if caller.clientId ≠ "" then caller.clientId else s.deducedClientId caller

/-- A client bound to certificates calls without one. -/
def LacksCertificate (client : Client) (certificate : Option ClientCertificate) : Prop :=
  client.tlsClientCertificateBoundAccessTokens ∧ (certificate.bind ClientCertificate.der).isNone

instance (client : Client) (certificate : Option ClientCertificate) :
    Decidable (LacksCertificate client certificate) :=
  inferInstanceAs (Decidable (_ ∧ _))

/-- `BackchannelAuthenticationUseCase._authenticate_client` -/
def backchannelClient (caller : BackchannelCaller) : M QueryError Client := do
  let client ← ask (.findClient (s.backchannelClientId caller)) >>=
    orRefuse ⟨"invalid_client", clientUnknownError, 401⟩
  refuseIf (¬client.isActive) ⟨"invalid_client", clientUnknownError, 401⟩
  refuseIf (LacksCertificate client caller.tlsCertificate)
    ⟨"invalid_client", "Certificat client mTLS requis (RFC 8705 §3.1, " ++
      "tls_client_certificate_bound_access_tokens)", 401⟩
  let detail ← authenticateClient s.tokens.platform client caller.clientSecret
    s.tokens.clientAssertions caller.clientAssertionType caller.clientAssertion
    s.backchannelAudiences caller.tlsCertificate
  orUnauthenticated client detail

/-- The checks of `DeviceAuthorizationUseCase.execute` on its client. -/
def deviceClient (clientId clientSecret : String) : M QueryError Client := do
  let client ← ask (.findClient clientId) >>=
    orRefuse ⟨"invalid_client", clientUnknownError, 400⟩
  refuseIf (¬client.isActive) ⟨"invalid_client", clientUnknownError, 400⟩
  refuseIf (client.clientType = .confidential ∧
      ¬verifyClientSecret s.tokens.platform client clientSecret)
    ⟨"invalid_client", "Secret client invalide", 400⟩
  pure client

/-- The registry of clients in a state of the store. -/
def reader (w : World) : ClientReader where
  findById := w.findClient s.ports
  find_id _ _ h := World.findClient_clientId h

/-- The client `authenticate_confidential_client` accepts. -/
def queryClient (w : World) (query : TokenQuery) : Option Client :=
  if authenticateConfidentialClient s.tokens.platform (s.reader w) query.clientId
      query.clientSecret then
    w.findClient s.ports query.clientId
  else none

/-- The client a program ends with. -/
def answered {ε : Type} (program : M ε Client) (w : World) : Option Client :=
  match (program.run (exec s.ports) w).1 with
  | .ok client => some client
  | .error _ => none

/-- The client an endpoint takes for authenticated. The assertion of the jwt-bearer
grant delegates a subject: that grant authenticates no client. -/
def authenticated (w : World) : ClientRequest → Option Client
  | .token request =>
      if request.grantType = jwtBearerGrantTypeUrn then none
      else s.answered (s.tokenClient (s.tokens.deduceClientId request)) w
  | .par params => s.answered (s.pushClient params) w
  | .bcAuthorize caller => s.answered (s.backchannelClient caller) w
  | .deviceAuthorization clientId clientSecret =>
      s.answered (s.deviceClient clientId clientSecret) w
  | .introspect query => s.queryClient w query
  | .revoke query => s.queryClient w query

/-! ## What a method asks for -/

/-- The certificate is the one the registration ties the client to. -/
def Linked (client : Client) (certificate : Option ClientCertificate) : Prop :=
  ∃ presented, certificate = some presented ∧
    if client.tlsClientCertificateHash ≠ "" then
      ∃ der, presented.der = some der ∧
        derCertificateHash s.tokens.platform der = client.tlsClientCertificateHash
    else presented.subjectDn ≠ "" ∧ presented.subjectDn = client.tlsClientAuthSubjectDn

/-- The credentials prove the method of the client. -/
def Proves (client : Client) (credentials : Credentials) : Prop :=
  match client.effectiveAuthMethod with
  | .clientSecretBasic | .clientSecretPost =>
      credentials.clientSecret ≠ "" ∧
        s.tokens.platform.sha256Hex credentials.clientSecret = client.clientSecretHash
  | .clientSecretJwt =>
      credentials.assertion ≠ "" ∧ s.keys.SignedBySecret client credentials.assertion
  | .privateKeyJwt =>
      credentials.assertion ≠ "" ∧ s.keys.SignedByKey client credentials.assertion
  | .tlsClientAuth | .selfSignedTlsClientAuth => s.Linked client credentials.tlsCertificate
  | .none => True

/-- The endpoint takes a confidential client for authenticated only on a proof of its
own method. -/
def Uniform (w : World) (request : ClientRequest) : Prop :=
  ∀ client, s.authenticated w request = some client → client.clientType = .confidential →
    s.Proves client request.credentials

/-! ## Where the endpoints deviate -/

/-- The client a request names. -/
def named (w : World) : ClientRequest → Option Client
  | .token request => w.findClient s.ports (s.tokens.deduceClientId request).clientId
  | .par params => w.findClient s.ports (s.pushClientId params)
  | .bcAuthorize caller => w.findClient s.ports (s.backchannelClientId caller)
  | .deviceAuthorization clientId _ => w.findClient s.ports clientId
  | .introspect query => w.findClient s.ports query.clientId
  | .revoke query => w.findClient s.ports query.clientId

/-- What an endpoint asks for beside the authentication of a confidential client. -/
def Admits (client : Client) : ClientRequest → Prop
  | .token request => request.grantType ≠ jwtBearerGrantTypeUrn ∧ client.isActive = true ∧
      ¬LacksCertificate client request.tlsCertificate
  | .par params => s.pushClientId params ≠ "" ∧ client.isActive = true
  | .bcAuthorize caller => client.isActive = true ∧
      ¬LacksCertificate client caller.tlsCertificate
  | .deviceAuthorization _ _ => client.isActive = true
  | .introspect _ => client.isActive = true
  | .revoke _ => client.isActive = true

/-- The audiences an endpoint that follows the method of the client admits, `none` at
an endpoint that compares a secret. -/
def audiences (client : Client) : ClientRequest → Option (List String)
  | .token _ => some (s.tokens.assertionAudiences client)
  | .par _ => some (s.pushAudiences client)
  | .bcAuthorize _ => some s.backchannelAudiences
  | _ => none

/-- The claims satisfy what a FAPI2 client is asked for. -/
def OneAudience (client : Client) (claims : Members) : Prop :=
  client.fapi2Enabled = true → ∃ name, Dict.get claims "aud" = some (.str name)

/-- A client assertion comes with its type, and the server reads them. -/
def CarriesAssertion (credentials : Credentials) : Prop :=
  s.tokens.clientAssertions = true ∧ credentials.assertionType = clientAssertionTypeUrn ∧
    credentials.assertion ≠ ""

/-- The credentials pass a check that is not one of the client's method. -/
def Deviates (now : Instant) (client : Client) (request : ClientRequest) : Prop :=
  let credentials := request.credentials
  match client.effectiveAuthMethod, s.audiences client request with
  | .clientSecretBasic, _ | .clientSecretPost, _ =>
      credentials.clientSecret = "" ∧ client.clientSecretHash = s.tokens.platform.sha256Hex ""
  | .clientSecretJwt, some audience =>
      s.CarriesAssertion credentials ∧ ∃ claims, OneAudience client claims ∧
        s.keys.AcceptedByKey now credentials.assertion client audience true claims
  | .privateKeyJwt, some audience =>
      s.CarriesAssertion credentials ∧ ∃ claims, OneAudience client claims ∧
        s.keys.AcceptedBySecret now credentials.assertion client audience true claims
  | .tlsClientAuth, some _ | .selfSignedTlsClientAuth, some _ | .none, _ => False
  | .clientSecretJwt, none | .privateKeyJwt, none | .tlsClientAuth, none
  | .selfSignedTlsClientAuth, none =>
      client.clientSecretHash = s.tokens.platform.sha256Hex credentials.clientSecret

/-! ## What the endpoints accept -/

/-- What `authenticate_client` accepts. -/
def Accepts (now : Instant) (audience : List String) (client : Client)
    (credentials : Credentials) : Prop :=
  match client.effectiveAuthMethod with
  | .clientSecretBasic | .clientSecretPost =>
      verifyClientSecret s.tokens.platform client credentials.clientSecret = true
  | .clientSecretJwt | .privateKeyJwt =>
      s.CarriesAssertion credentials ∧ ∃ claims, OneAudience client claims ∧
        s.keys.verify now credentials.assertion client audience true = .ok (some claims)
  | .tlsClientAuth | .selfSignedTlsClientAuth =>
      verifyTlsClientCertificate s.tokens.platform client credentials.tlsCertificate = true
  | .none => True

/-- The credentials pass the check of the endpoint. -/
def Passes (now : Instant) (client : Client) (request : ClientRequest) : Prop :=
  match s.audiences client request with
  | some audience => s.Accepts now audience client request.credentials
  | none => verifyClientSecret s.tokens.platform client request.credentials.clientSecret = true

variable {s} {ε : Type} {w w' : World} {client : Client} {credentials : Credentials}
  {audience : List String}

theorem verifyAssertion_eq_some {token : String} {now : Instant} {claims : Members} :
    s.ports.verifyAssertion token client audience true now = some claims ↔
      s.keys.verify now token client audience true = .ok (some claims) := by
  show (match s.keys.verify now token client audience true with
    | .ok claims => claims
    | .error _ => none) = some claims ↔ _
  cases s.keys.verify now token client audience true with
  | ok found => simp
  | error e => simp

theorem oneAudience_iff {claims : Members} :
    ¬(client.fapi2Enabled = true ∧
        (((claims.find? fun m => m.1 = "aud").map Prod.snd).bind Json.asStr).isNone = true) ↔
      OneAudience client claims := by
  unfold OneAudience Dict.get
  cases (claims.find? fun m => m.1 = "aud").map Prod.snd with
  | none => simp
  | some value => cases value <;> simp [Json.asStr]

theorem authenticateAssertion_run :
    (authenticateAssertion client s.tokens.clientAssertions credentials.assertionType
        credentials.assertion audience : M ε (Option String)).run (exec s.ports) w
          = (.ok none, w') ↔
      (s.CarriesAssertion credentials ∧ ∃ claims, OneAudience client claims ∧
        s.keys.verify w.clock credentials.assertion client audience true = .ok (some claims)) ∧
        w = w' := by
  unfold authenticateAssertion CarriesAssertion
  by_cases hassertions : s.tokens.clientAssertions = true
  · by_cases htype : credentials.assertionType = clientAssertionTypeUrn
    · by_cases hempty : credentials.assertion = ""
      · simp [hassertions, htype, hempty]
      · simp only [hassertions, htype, hempty, not_true_eq_false, ne_eq, if_false, true_and,
          not_false_eq_true]
        rw [run_verifyAssertion_bind]
        cases hfound : s.ports.verifyAssertion credentials.assertion client audience true
            w.clock with
        | none =>
            constructor
            · intro h
              simp at h
            · rintro ⟨⟨claims, _, hverify⟩, _⟩
              rw [verifyAssertion_eq_some.mpr hverify] at hfound
              cases hfound
        | some claims =>
            have hverify := verifyAssertion_eq_some.mp hfound
            dsimp only
            split
            · rename_i haud
              constructor
              · intro h
                simp at h
              · rintro ⟨⟨claims', haud', hverify'⟩, _⟩
                rw [hverify] at hverify'
                cases hverify'
                exact absurd haud (oneAudience_iff.mpr haud')
            · rename_i haud
              rw [Prog.run_pure_ok]
              constructor
              · rintro ⟨_, rfl⟩
                exact ⟨⟨claims, oneAudience_iff.mp haud, hverify⟩, rfl⟩
              · rintro ⟨_, rfl⟩
                exact ⟨rfl, rfl⟩
    · simp [hassertions, htype]
  · simp [hassertions]

theorem authenticateClient_run :
    (authenticateClient s.tokens.platform client credentials.clientSecret
        s.tokens.clientAssertions credentials.assertionType credentials.assertion audience
        credentials.tlsCertificate : M ε (Option String)).run (exec s.ports) w
          = (.ok none, w') ↔
      s.Accepts w.clock audience client credentials ∧ w = w' := by
  unfold authenticateClient Accepts
  cases client.effectiveAuthMethod with
  | clientSecretBasic | clientSecretPost =>
      by_cases h : verifyClientSecret s.tokens.platform client credentials.clientSecret = true
      · simp [h]
      · simp [h]
  | clientSecretJwt | privateKeyJwt => exact authenticateAssertion_run
  | tlsClientAuth | selfSignedTlsClientAuth =>
      by_cases h : verifyTlsClientCertificate s.tokens.platform client
          credentials.tlsCertificate = true
      · simp [h]
      · simp [h]
  | none => simp

theorem answered_eq_some {program : M ε Client} :
    s.answered program w = some client ↔
      ∃ w', program.run (exec s.ports) w = (.ok client, w') := by
  unfold answered
  rcases hrun : program.run (exec s.ports) w with ⟨e | found, w'⟩
  · simp
  · simp

theorem answered_refuseIf {b : Prop} [Decidable b] {error : ε} {f : Unit → M ε Client} :
    s.answered (refuseIf b error >>= f) w = some client ↔
      ¬b ∧ s.answered (f ()) w = some client := by
  simp only [answered_eq_some, run_refuseIf_bind_ok, exists_and_left]

theorem answered_findClient {clientId : String} {error : ε} {f : Client → M ε Client} :
    s.answered (ask (.findClient clientId) >>= orRefuse error >>= f) w = some client ↔
      ∃ found, w.findClient s.ports clientId = some found ∧
        s.answered (f found) w = some client := by
  rw [answered_eq_some, exists_congr fun w' => run_findClient_bind_ok, exists_comm]
  simp only [answered_eq_some, exists_and_left]

@[simp] theorem answered_pure {found : Client} :
    s.answered (pure client : M ε Client) w = some found ↔ client = found := by
  simp [answered_eq_some]

@[simp] theorem answered_refuse {error : ε} : s.answered (refuse error : M ε Client) w = none := rfl

/-- An endpoint goes on with the clients `authenticate_client` accepts. -/
theorem answered_authenticateClient (credentials : Credentials) {found : Client}
    {f : Option String → M ε Client} (hsome : ∀ detail w, s.answered (f (some detail)) w = none) :
    s.answered (authenticateClient s.tokens.platform client credentials.clientSecret
        s.tokens.clientAssertions credentials.assertionType credentials.assertion audience
        credentials.tlsCertificate >>= f) w = some found ↔
      s.Accepts w.clock audience client credentials ∧ s.answered (f none) w = some found := by
  rw [answered_eq_some]
  simp only [Prog.run_bind_ok]
  constructor
  · rintro ⟨w', detail, w₁, hdetail, h⟩
    cases detail with
    | some detail =>
        have hanswered := answered_eq_some.mpr ⟨w', h⟩
        rw [hsome] at hanswered
        cases hanswered
    | none =>
        obtain ⟨haccepts, rfl⟩ := authenticateClient_run.mp hdetail
        exact ⟨haccepts, answered_eq_some.mpr ⟨w', h⟩⟩
  · rintro ⟨haccepts, h⟩
    obtain ⟨w', h⟩ := answered_eq_some.mp h
    exact ⟨w', none, w, authenticateClient_run.mpr ⟨haccepts, rfl⟩, h⟩

theorem answered_orUnauthenticated (credentials : Credentials) {found : Client} :
    s.answered (authenticateClient s.tokens.platform client credentials.clientSecret
        s.tokens.clientAssertions credentials.assertionType credentials.assertion audience
        credentials.tlsCertificate >>= orUnauthenticated client) w = some found ↔
      s.Accepts w.clock audience client credentials ∧ client = found := by
  rw [answered_authenticateClient credentials fun detail w => rfl]
  exact and_congr_right fun _ => answered_pure

theorem answered_tokenAuthentication {request : TokenRequest} {found : Client} :
    s.answered (s.tokens.authenticateClient client request >>= fun _ => pure client) w
        = some found ↔
      ¬LacksCertificate client request.tlsCertificate ∧
        s.Accepts w.clock (s.tokens.assertionAudiences client) client
          (ClientRequest.token request).credentials ∧ client = found := by
  unfold TokenUseCase.authenticateClient
  rw [Prog.bind_assoc', answered_refuseIf]
  refine and_congr_right fun _ => ?_
  rw [Prog.bind_assoc']
  have hend : ∀ f : Option String → M TokenError Client,
      (∀ detail w, s.answered (f (some detail)) w = none) →
      (s.answered (authenticateClient s.tokens.platform client request.clientSecret
          s.tokens.clientAssertions request.clientAssertionType request.clientAssertion
          (s.tokens.assertionAudiences client) request.tlsCertificate >>= f) w = some found ↔
        s.Accepts w.clock (s.tokens.assertionAudiences client) client
          (ClientRequest.token request).credentials ∧ s.answered (f none) w = some found) :=
    fun _ => answered_authenticateClient (ClientRequest.token request).credentials
  rw [hend _ fun detail w => rfl]
  exact and_congr_right fun _ => answered_pure

/-- The client of `/token`. -/
theorem tokenClient_answered {request : TokenRequest} :
    s.answered (s.tokenClient request) w = some client ↔
      w.findClient s.ports request.clientId = some client ∧ client.isActive = true ∧
        ¬LacksCertificate client request.tlsCertificate ∧
        s.Accepts w.clock (s.tokens.assertionAudiences client) client
          (ClientRequest.token request).credentials := by
  unfold tokenClient TokenUseCase.activeClient
  rw [Prog.bind_assoc', answered_findClient]
  constructor
  · rintro ⟨found, hfound, h⟩
    rw [Prog.bind_assoc', answered_refuseIf] at h
    obtain ⟨hactive, h⟩ := h
    obtain ⟨hcertificate, haccepts, rfl⟩ := answered_tokenAuthentication.mp h
    exact ⟨hfound, not_not.mp hactive, hcertificate, haccepts⟩
  · rintro ⟨hfound, hactive, hcertificate, haccepts⟩
    refine ⟨client, hfound, ?_⟩
    rw [Prog.bind_assoc', answered_refuseIf]
    exact ⟨not_not.mpr hactive,
      answered_tokenAuthentication.mpr ⟨hcertificate, haccepts, rfl⟩⟩

/-- The client of `/par`. -/
theorem pushClient_answered {params : Dict String String}
    (hclient : client.clientType = .confidential) :
    s.answered (s.pushClient params) w = some client ↔
      w.findClient s.ports (s.pushClientId params) = some client ∧
        s.Admits client (.par params) ∧ s.Passes w.clock client (.par params) := by
  have hend : ∀ found, s.answered (authenticateClient s.tokens.platform found
      (formValue params "client_secret") s.tokens.clientAssertions
      (formValue params "client_assertion_type") (formValue params "client_assertion")
      (s.pushAudiences found) none >>= orUnauthenticated found) w = some client ↔
      s.Passes w.clock found (.par params) ∧ found = client := fun found =>
    answered_orUnauthenticated (ClientRequest.par params).credentials
  unfold pushClient
  rw [answered_refuseIf, answered_findClient]
  constructor
  · rintro ⟨hnamed, found, hfound, h⟩
    rw [answered_refuseIf, answered_refuseIf, hend] at h
    obtain ⟨hactive, _, hpasses, rfl⟩ := h
    exact ⟨hfound, ⟨hnamed, not_not.mp hactive⟩, hpasses⟩
  · rintro ⟨hfound, ⟨hnamed, hactive⟩, hpasses⟩
    refine ⟨hnamed, client, hfound, ?_⟩
    rw [answered_refuseIf, answered_refuseIf, hend]
    exact ⟨not_not.mpr hactive, fun h => h.2 hclient, hpasses, rfl⟩

/-- The client of `/bc-authorize`. -/
theorem backchannelClient_answered {caller : BackchannelCaller} :
    s.answered (s.backchannelClient caller) w = some client ↔
      w.findClient s.ports (s.backchannelClientId caller) = some client ∧
        s.Admits client (.bcAuthorize caller) ∧ s.Passes w.clock client (.bcAuthorize caller) := by
  have hend : ∀ found, s.answered (authenticateClient s.tokens.platform found
      caller.clientSecret s.tokens.clientAssertions caller.clientAssertionType
      caller.clientAssertion s.backchannelAudiences caller.tlsCertificate >>=
        orUnauthenticated found) w = some client ↔
      s.Passes w.clock found (.bcAuthorize caller) ∧ found = client := fun found =>
    answered_orUnauthenticated (ClientRequest.bcAuthorize caller).credentials
  unfold backchannelClient
  rw [answered_findClient]
  constructor
  · rintro ⟨found, hfound, h⟩
    rw [answered_refuseIf, answered_refuseIf, hend] at h
    obtain ⟨hactive, hcertificate, hpasses, rfl⟩ := h
    exact ⟨hfound, ⟨not_not.mp hactive, hcertificate⟩, hpasses⟩
  · rintro ⟨hfound, ⟨hactive, hcertificate⟩, hpasses⟩
    refine ⟨client, hfound, ?_⟩
    rw [answered_refuseIf, answered_refuseIf, hend]
    exact ⟨not_not.mpr hactive, hcertificate, hpasses, rfl⟩

/-- The client of `/device_authorization`. -/
theorem deviceClient_answered {clientId clientSecret : String}
    (hclient : client.clientType = .confidential) :
    s.answered (s.deviceClient clientId clientSecret) w = some client ↔
      w.findClient s.ports clientId = some client ∧ client.isActive = true ∧
        verifyClientSecret s.tokens.platform client clientSecret = true := by
  unfold deviceClient
  rw [answered_findClient]
  constructor
  · rintro ⟨found, hfound, h⟩
    rw [answered_refuseIf, answered_refuseIf, answered_pure] at h
    obtain ⟨hactive, hsecret, rfl⟩ := h
    exact ⟨hfound, not_not.mp hactive, not_not.mp fun hwrong => hsecret ⟨hclient, hwrong⟩⟩
  · rintro ⟨hfound, hactive, hsecret⟩
    refine ⟨client, hfound, ?_⟩
    rw [answered_refuseIf, answered_refuseIf, answered_pure]
    exact ⟨not_not.mpr hactive, fun h => h.2 hsecret, rfl⟩

/-- The client of `/introspect` and `/revoke`. -/
theorem queryClient_eq_some {query : TokenQuery} (hclient : client.clientType = .confidential) :
    s.queryClient w query = some client ↔
      w.findClient s.ports query.clientId = some client ∧ client.isActive = true ∧
        verifyClientSecret s.tokens.platform client query.clientSecret = true := by
  have hreader : (s.reader w).findById query.clientId = w.findClient s.ports query.clientId := rfl
  unfold queryClient authenticateConfidentialClient
  rw [hreader]
  cases hfound : w.findClient s.ports query.clientId with
  | none => simp
  | some found =>
      by_cases hsame : found = client
      · subst hsame
        simp [hclient]
      · simp [hsame]

/-- A confidential client is authenticated exactly when the request names it, the
endpoint admits it, and its credentials pass. -/
theorem authenticated_iff (hclient : client.clientType = .confidential)
    (request : ClientRequest) :
    s.authenticated w request = some client ↔
      s.named w request = some client ∧ s.Admits client request ∧
        s.Passes w.clock client request := by
  cases request with
  | token request =>
      have hcredentials : (ClientRequest.token (s.tokens.deduceClientId request)).credentials
          = (ClientRequest.token request).credentials := by
        unfold TokenUseCase.deduceClientId
        dsimp only
        split
        · rfl
        · split <;> rfl
      have hcertificate := congrArg Credentials.tlsCertificate hcredentials
      show (if request.grantType = jwtBearerGrantTypeUrn then none
        else s.answered (s.tokenClient (s.tokens.deduceClientId request)) w) = some client ↔ _
      by_cases hgrant : request.grantType = jwtBearerGrantTypeUrn
      · rw [if_pos hgrant]
        constructor
        · intro h
          cases h
        · rintro ⟨_, hadmits, _⟩
          exact absurd hgrant hadmits.1
      · rw [if_neg hgrant, tokenClient_answered, hcredentials]
        have hsame : (s.tokens.deduceClientId request).tlsCertificate = request.tlsCertificate :=
          hcertificate
        rw [hsame]
        constructor
        · rintro ⟨hfound, hactive, hcertificate, haccepts⟩
          exact ⟨hfound, ⟨hgrant, hactive, hcertificate⟩, haccepts⟩
        · rintro ⟨hfound, ⟨_, hactive, hcertificate⟩, haccepts⟩
          exact ⟨hfound, hactive, hcertificate, haccepts⟩
  | par params => exact pushClient_answered hclient
  | bcAuthorize caller => exact backchannelClient_answered
  | deviceAuthorization clientId clientSecret => exact deviceClient_answered hclient
  | introspect query => exact queryClient_eq_some hclient
  | revoke query => exact queryClient_eq_some hclient

/-! ## What passes without a proof -/

theorem verifyClientSecret_iff {secret : String} :
    verifyClientSecret s.tokens.platform client secret = true ↔
      s.tokens.platform.sha256Hex secret = client.clientSecretHash := by
  unfold verifyClientSecret
  exact decide_eq_true_iff

/-- A certificate that passes is the one the client is tied to. -/
theorem linked_of_verified {certificate : Option ClientCertificate}
    (h : verifyTlsClientCertificate s.tokens.platform client certificate = true) :
    s.Linked client certificate := by
  cases certificate with
  | none => cases h
  | some presented =>
      refine ⟨presented, rfl, ?_⟩
      simp only [verifyTlsClientCertificate] at h
      split at h
      · cases h
      split at h
      · rename_i hhash
        rw [if_pos hhash]
        cases hder : presented.der with
        | none =>
            rw [hder] at h
            cases h
        | some der =>
            rw [hder] at h
            exact ⟨der, rfl, of_decide_eq_true h⟩
      · rename_i hhash
        rw [if_neg hhash]
        split at h
        · simpa using h
        · cases h

/-- An endpoint that compares a secret reads nothing else. -/
theorem secretOnly_of_audiences {request : ClientRequest}
    (h : s.audiences client request = none) :
    request.credentials.assertion = "" ∧ request.credentials.tlsCertificate = none := by
  cases request with
  | token request => cases h
  | par params => cases h
  | bcAuthorize caller => cases h
  | deviceAuthorization clientId clientSecret => exact ⟨rfl, rfl⟩
  | introspect query => exact ⟨rfl, rfl⟩
  | revoke query => exact ⟨rfl, rfl⟩

theorem secret_unproven {secret : String} :
    verifyClientSecret s.tokens.platform client secret = true ∧
        ¬(secret ≠ "" ∧ s.tokens.platform.sha256Hex secret = client.clientSecretHash) ↔
      secret = "" ∧ client.clientSecretHash = s.tokens.platform.sha256Hex "" := by
  rw [verifyClientSecret_iff]
  constructor
  · rintro ⟨hsecret, hunproven⟩
    have hempty : secret = "" := not_not.mp fun hne => hunproven ⟨hne, hsecret⟩
    exact ⟨hempty, by rw [← hsecret, hempty]⟩
  · rintro ⟨rfl, hhash⟩
    exact ⟨hhash.symm, fun h => h.1 rfl⟩

/-- An assertion that passes is signed in the other way than `signed` exactly when
`other` accepts it. -/
theorem assertion_unproven {now : Instant} {signed : Prop} {own other : Members → Prop}
    (hverify : ∀ claims, s.keys.verify now credentials.assertion client audience true
      = .ok (some claims) ↔ own claims ∨ other claims)
    (hown : ∀ claims, own claims → signed) (hother : ∀ claims, other claims → ¬signed) :
    (s.CarriesAssertion credentials ∧ ∃ claims, OneAudience client claims ∧
        s.keys.verify now credentials.assertion client audience true = .ok (some claims)) ∧
        ¬(credentials.assertion ≠ "" ∧ signed) ↔
      s.CarriesAssertion credentials ∧ ∃ claims, OneAudience client claims ∧ other claims := by
  constructor
  · rintro ⟨⟨hcarries, claims, haud, haccepted⟩, hunproven⟩
    rcases (hverify claims).mp haccepted with h | h
    · exact absurd ⟨hcarries.2.2, hown claims h⟩ hunproven
    · exact ⟨hcarries, claims, haud, h⟩
  · rintro ⟨hcarries, claims, haud, h⟩
    exact ⟨⟨hcarries, claims, haud, (hverify claims).mpr (.inr h)⟩,
      fun hproves => hother claims h hproves.2⟩

/-- The credentials that pass and prove nothing of the client's method are those that
deviate. -/
theorem deviates_iff {now : Instant} {request : ClientRequest} :
    s.Passes now client request ∧ ¬s.Proves client request.credentials ↔
      s.Deviates now client request := by
  unfold Passes Proves Deviates
  cases haudience : s.audiences client request with
  | none =>
      obtain ⟨hassertion, hcertificate⟩ := secretOnly_of_audiences haudience
      have hunlinked : ¬s.Linked client request.credentials.tlsCertificate := by
        rw [hcertificate]
        rintro ⟨_, h, _⟩
        cases h
      cases client.effectiveAuthMethod with
      | clientSecretBasic | clientSecretPost => exact secret_unproven
      | clientSecretJwt | privateKeyJwt =>
          simp only [verifyClientSecret_iff, hassertion, ne_eq, not_true_eq_false, false_and,
            not_false_eq_true, and_true]
          exact eq_comm
      | tlsClientAuth | selfSignedTlsClientAuth =>
          simp only [verifyClientSecret_iff, hunlinked, not_false_eq_true, and_true]
          exact eq_comm
      | none => simp
  | some audience =>
      unfold Accepts
      cases client.effectiveAuthMethod with
      | clientSecretBasic | clientSecretPost => exact secret_unproven
      | clientSecretJwt =>
          apply assertion_unproven
          · exact fun claims => ClientKeys.verify_eq_some
          · exact fun claims h => h.signed
          · exact fun claims h hsigned => hsigned.not_signedByKey h.signed
      | privateKeyJwt =>
          apply assertion_unproven
          · exact fun claims => ClientKeys.verify_eq_some.trans or_comm
          · exact fun claims h => h.signed
          · exact fun claims h => h.signed.not_signedByKey
      | tlsClientAuth | selfSignedTlsClientAuth =>
          constructor
          · rintro ⟨hverified, hunlinked⟩
            exact absurd (linked_of_verified hverified) hunlinked
          · exact False.elim
      | none => simp

variable (s)

/-- An endpoint takes a confidential client for authenticated only on a proof of its
own method exactly when the credentials of the clients it admits do not deviate. -/
theorem proven_iff (w : World) (request : ClientRequest) :
    s.Uniform w request ↔
      ∀ client, s.named w request = some client → client.clientType = .confidential →
        s.Admits client request → ¬s.Deviates w.clock client request := by
  constructor
  · intro huniform client hnamed hclient hadmits hdeviates
    obtain ⟨hpasses, hunproven⟩ := deviates_iff.mpr hdeviates
    exact hunproven (huniform client
      ((authenticated_iff hclient request).mpr ⟨hnamed, hadmits, hpasses⟩) hclient)
  · intro hnone client hauthenticated hclient
    obtain ⟨hnamed, hadmits, hpasses⟩ := (authenticated_iff hclient request).mp hauthenticated
    by_contra hunproven
    exact hnone client hnamed hclient hadmits (deviates_iff.mp ⟨hpasses, hunproven⟩)

/-! ## The grants of the token endpoint -/

variable {s} {request : TokenRequest} {α : Type} {a : α}

/-- What a grant goes on from, once the client is found. -/
theorem run_activeClient {clientId description : String} {f : Client → M TokenError α} :
    (TokenUseCase.activeClient clientId description >>= f).run (exec s.ports) w = (.ok a, w') ↔
      ∃ client, w.findClient s.ports clientId = some client ∧ client.isActive = true ∧
        (f client).run (exec s.ports) w = (.ok a, w') := by
  unfold TokenUseCase.activeClient
  rw [Prog.bind_assoc', run_findClient_bind_ok]
  refine exists_congr fun client => and_congr_right fun _ => ?_
  rw [Prog.bind_assoc', run_refuseIf_bind_ok, not_not]
  rfl

/-- A grant goes on with the clients it authenticates. -/
theorem run_tokenAuthentication {f : Unit → M TokenError α}
    (h : (s.tokens.authenticateClient client request >>= f).run (exec s.ports) w = (.ok a, w')) :
    ¬LacksCertificate client request.tlsCertificate ∧
      s.Accepts w.clock (s.tokens.assertionAudiences client) client
        (ClientRequest.token request).credentials := by
  unfold TokenUseCase.authenticateClient at h
  rw [Prog.bind_assoc', run_refuseIf_bind_ok, Prog.bind_assoc'] at h
  obtain ⟨hcertificate, h⟩ := h
  obtain ⟨detail, w₁, hdetail, h⟩ := Prog.run_bind_ok.mp h
  cases detail with
  | some detail => cases h
  | none =>
      have haccepts := authenticateClient_run.mp
        (show (authenticateClient s.tokens.platform client
          (ClientRequest.token request).credentials.clientSecret s.tokens.clientAssertions
          _ _ _ _ : M TokenError _).run (exec s.ports) w = (.ok none, w₁) from hdetail)
      exact ⟨hcertificate, haccepts.1⟩

/-- The client of a grant that finds it and then authenticates it. -/
theorem tokenClient_of_run {description : String} {f : Client → Unit → M TokenError α}
    (h : (TokenUseCase.activeClient request.clientId description >>= fun client =>
      s.tokens.authenticateClient client request >>= f client).run (exec s.ports) w
        = (.ok a, w')) :
    ∃ client, s.answered (s.tokenClient request) w = some client := by
  obtain ⟨client, hfound, hactive, h⟩ := run_activeClient.mp h
  obtain ⟨hcertificate, haccepts⟩ := run_tokenAuthentication h
  exact ⟨client, tokenClient_answered.mpr ⟨hfound, hactive, hcertificate, haccepts⟩⟩

theorem run_readCode {code : String} {error : TokenError} {f : AuthorizationCode → M TokenError α} :
    (ask (.findByCode code) >>= orRefuse error >>= f).run (exec s.ports) w = (.ok a, w') ↔
      ∃ authCode, w.codes.find code = some authCode ∧
        (f authCode).run (exec s.ports) w = (.ok a, w') :=
  Prog.run_getOr_bind_ok

theorem run_now {f : Instant → M TokenError α} :
    (ask .now >>= f).run (exec s.ports) w = (f w.clock).run (exec s.ports) w := rfl

/-- A replayed code revokes what it issued and is refused. -/
theorem run_refuse_ne {p : M TokenError Unit} {error : TokenError} :
    (p >>= fun _ => refuse error : M TokenError α).run (exec s.ports) w ≠ (.ok a, w') := by
  intro h
  obtain ⟨_, _, _, h⟩ := Prog.run_bind_ok.mp h
  cases h

theorem exchangeCode_authenticates {response : TokenResponse}
    (h : (s.tokens.exchangeCode request).run (exec s.ports) w = (.ok response, w')) :
    ∃ client, s.answered (s.tokenClient request) w = some client := by
  obtain ⟨g, w₁, h, _⟩ := Prog.run_bind_ok.mp h
  unfold TokenUseCase.checkCode at h
  obtain ⟨authCode, _, h⟩ := run_readCode.mp h
  split at h
  · exact absurd h run_refuse_ne
  · rw [run_now, run_refuseIf_bind_ok] at h
    obtain ⟨client, w₂, h, _⟩ := Prog.run_bind_ok.mp h.2
    unfold TokenUseCase.validateCodeExchange at h
    obtain ⟨found, hfound, hactive, h⟩ := run_activeClient.mp h
    rw [run_refuseIf_bind_ok] at h
    obtain ⟨hcertificate, haccepts⟩ := run_tokenAuthentication h.2
    exact ⟨found, tokenClient_answered.mpr ⟨hfound, hactive, hcertificate, haccepts⟩⟩

theorem preAuthorizedCode_authenticates {response : TokenResponse}
    (h : (s.tokens.preAuthorizedCode request).run (exec s.ports) w = (.ok response, w')) :
    ∃ client, s.answered (s.tokenClient request) w = some client := by
  obtain ⟨g, w₁, h, _⟩ := Prog.run_bind_ok.mp h
  unfold TokenUseCase.checkPreAuthorizedCode TokenUseCase.resolvePreAuthorizedCode at h
  rw [run_now, Prog.bind_assoc'] at h
  obtain ⟨authCode, _, h⟩ := run_readCode.mp h
  rw [Prog.bind_assoc', run_refuseIf_bind_ok] at h
  obtain ⟨_, h⟩ := h
  split at h
  · rw [Prog.bind_assoc'] at h
    obtain ⟨_, _, _, h⟩ := Prog.run_bind_ok.mp h
    cases h
  · rw [Prog.bind_assoc', run_refuseIf_bind_ok] at h
    exact tokenClient_of_run h.2

theorem refresh_authenticates {response : TokenResponse}
    (h : (s.tokens.refresh request).run (exec s.ports) w = (.ok response, w')) :
    ∃ client, s.answered (s.tokenClient request) w = some client := by
  obtain ⟨g, w₁, h, _⟩ := Prog.run_bind_ok.mp h
  unfold TokenUseCase.checkRefresh at h
  rw [run_refuseIf_bind_ok] at h
  exact tokenClient_of_run h.2

theorem clientCredentials_authenticates {response : TokenResponse}
    (h : (s.tokens.clientCredentials request).run (exec s.ports) w = (.ok response, w')) :
    ∃ client, s.answered (s.tokenClient request) w = some client := by
  unfold TokenUseCase.clientCredentials at h
  obtain ⟨found, hfound, hactive, h⟩ := run_activeClient.mp h
  rw [run_refuseIf_bind_ok] at h
  obtain ⟨hcertificate, haccepts⟩ := run_tokenAuthentication h.2
  exact ⟨found, tokenClient_answered.mpr ⟨hfound, hactive, hcertificate, haccepts⟩⟩

theorem deviceCode_authenticates {response : TokenResponse}
    (h : (s.tokens.deviceCode request).run (exec s.ports) w = (.ok response, w')) :
    ∃ client, s.answered (s.tokenClient request) w = some client := by
  obtain ⟨g, w₁, h, _⟩ := Prog.run_bind_ok.mp h
  unfold TokenUseCase.checkDevice at h
  rw [run_refuseIf_bind_ok, run_refuseIf_bind_ok] at h
  exact tokenClient_of_run h.2.2

theorem ciba_authenticates {response : TokenResponse}
    (h : (s.tokens.ciba request).run (exec s.ports) w = (.ok response, w')) :
    ∃ client, s.answered (s.tokenClient request) w = some client := by
  obtain ⟨g, w₁, h, _⟩ := Prog.run_bind_ok.mp h
  unfold TokenUseCase.checkCiba at h
  rw [run_refuseIf_bind_ok, run_refuseIf_bind_ok] at h
  exact tokenClient_of_run h.2.2

/-- A token request that is answered has authenticated its client, unless it brings the
assertion of a delegation. -/
theorem execute_authenticates {response : TokenResponse}
    (h : (s.tokens.execute request).run (exec s.ports) w = (.ok response, w'))
    (hgrant : request.grantType ≠ jwtBearerGrantTypeUrn) :
    ∃ client, s.authenticated w (.token request) = some client := by
  have hsame : (s.tokens.deduceClientId request).grantType = request.grantType := by
    unfold TokenUseCase.deduceClientId
    dsimp only
    split
    · rfl
    · split <;> rfl
  show ∃ client, (if request.grantType = jwtBearerGrantTypeUrn then none
    else s.answered (s.tokenClient (s.tokens.deduceClientId request)) w) = some client
  rw [if_neg hgrant]
  unfold TokenUseCase.execute TokenUseCase.dispatch at h
  rw [hsame] at h
  split at h
  · exact exchangeCode_authenticates h
  split at h
  · exact refresh_authenticates h
  split at h
  · exact clientCredentials_authenticates h
  -- the branch of the delegation is excluded by `hgrant`
  split at h
  · exact deviceCode_authenticates h
  split at h
  · exact ciba_authenticates h
  split at h
  · exact preAuthorizedCode_authenticates h
  · cases h

end Endpoints

namespace Sample

/-! ## A seed whose secret is not set

The secret of a seeded client refers to a variable that the environment does not have. -/

def env : SeedEnvironment where
  getenv _ := none
  isWord c := c.isAlphanum || c == '_'

def seed : Members :=
  [("client_id", .str "admin"), ("client_type", .str "confidential"),
    ("client_secret", .str "$\x7bADMIN_SECRET\x7d")]

def seeded : Client where
  clientId := "admin"
  clientType := .confidential
  clientSecretHash := PurIdentityServer.Sample.sha256Hex ""

theorem seeded_of_seed :
    parseClient PurIdentityServer.Sample.platform env seed { clientId := "" } = .ok seeded := rfl

def server : ClientEndpoints Unit where
  tokens := PurIdentityServer.Sample.tokens
  par := {}
  backchannel := { issuer := "https://op.example" }
  keys := ⟨ServerToken.Sample.jwt, fun _ _ => none, fun _ => none⟩
  outside := PurIdentityServer.Sample.ports

def world : World where
  clock := 0
  clients := Table.empty.save seeded

def emptySecret : ClientRequest :=
  .token { grantType := "client_credentials", clientId := "admin" }

end Sample

open ClientEndpoints.Sample in
/-- A seeded client without a secret is authenticated on an empty one. -/
theorem emptySecret_not_uniform :
    parseClient PurIdentityServer.Sample.platform env seed { clientId := "" } = .ok seeded ∧
      world.clients.find "admin" = some seeded ∧ ¬server.Uniform world emptySecret := by
  refine ⟨seeded_of_seed, rfl, ?_⟩
  intro huniform
  have hauthenticated : server.authenticated world emptySecret = some seeded := rfl
  exact (huniform seeded hauthenticated rfl).1 rfl

end ClientEndpoints

end PurIdentityServer

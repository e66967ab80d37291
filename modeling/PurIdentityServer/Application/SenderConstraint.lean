import PurIdentityServer.Application.AuthorizeCalls
import PurIdentityServer.Application.ResourceAccess
import PurIdentityServer.Application.TokenTypes

/-!
# SenderConstraint — what binds an access token to who asks for it

A client with `tls_client_certificate_bound_access_tokens` or
`require_dpop` is to get access tokens that name its certificate or its
key. `honours_of_issued` says on which flows the tokens signed do: those
that authenticate the client and evaluate its proof. The assertion grant
skips the certificate, and the CIBA push and the authorization endpoint
look at neither.
-/

namespace PurIdentityServer

open Effects ResourceServer

/-! ## The flows that issue access tokens -/

/-- What makes the server sign access tokens. -/
inductive IssuanceFlow where
  | token (request : TokenRequest)
  | cibaPush (stored : BackchannelAuthenticationRequest)
  | authorization (request : AuthorizeRequest)

namespace IssuanceFlow

/-- The certificate the flow presents. -/
def certificate : IssuanceFlow → Option (List UInt8)
  | .token request => request.tlsCertificate.bind ClientCertificate.der
  | .cibaPush _ | .authorization _ => none

/-- The DPoP proof the flow presents. -/
def dpopProof : IssuanceFlow → String
  | .token request => request.dpopProof
  | .cibaPush _ | .authorization _ => ""

end IssuanceFlow

/-- The client a `jwt-bearer` request names: its `client_id`, or the issuer of its
assertion. -/
def jwtBearerClientId (p : Platform) (request : TokenRequest) : String :=
  if request.clientId ≠ "" then request.clientId
  else
    let claims := (p.jwtPayload request.assertion).getD []
    (Json.obj claims).member "iss" |>.bind Json.asStr |>.getD ""

/-- The access tokens a run signs. -/
def accessTokensOf (calls : List Call) : List AccessTokenClaims :=
  calls.filterMap fun
    | .createAccessToken claims => some claims
    | _ => none

/-- The use cases of a deployment that issue access tokens. -/
structure AccessTokenIssuers where
  tokens : TokenUseCase
  authorize : AuthorizeUseCase
  ports : Ports

namespace AccessTokenIssuers

variable (d : AccessTokenIssuers)

/-- The access tokens a flow signs, in the world it runs in. -/
def issued (flow : IssuanceFlow) (w : World) : List AccessTokenClaims :=
  match flow with
  | .token request => accessTokensOf ((d.tokens.execute request).calls (exec d.ports) w)
  | .cibaPush stored =>
      accessTokensOf ((d.tokens.issueCibaPushTokens stored).calls (exec d.ports) w)
  | .authorization request =>
      accessTokensOf ((d.authorize.execute request).calls (exec d.ports) w)

/-- The client a grant looks up. -/
def grantClientId (request : TokenRequest) : String :=
  if request.grantType = jwtBearerGrantTypeUrn then jwtBearerClientId d.tokens.platform request
  else request.clientId

/-- The client of a flow. -/
def clientId : IssuanceFlow → String
  | .token request => d.grantClientId (d.tokens.deduceClientId request)
  | .cibaPush stored => stored.clientId
  | .authorization request => request.clientId

/-- A proof that passes the checks of the token endpoint, at the moment of the flow. -/
def ValidatedProof (w : World) (proof : String) (validated : DPoPProof) : Prop :=
  d.ports.checkDpopProof proof d.tokens.tokenEndpoint "POST" w.clock = .ok validated

/-- The token names the certificate the flow presents. -/
def CertificateBound (flow : IssuanceFlow) (claims : AccessTokenClaims) : Prop :=
  ∃ der, flow.certificate = some der ∧
    ∀ jti, confirmation (claims.payload jti) "x5t#S256" =
      some (.str (derCertificateHash d.tokens.platform der))

/-- The token names the key of a proof the flow presents. -/
def KeyBound (flow : IssuanceFlow) (w : World) (claims : AccessTokenClaims) : Prop :=
  ∃ validated, d.ValidatedProof w flow.dpopProof validated ∧
    ∀ jti, confirmation (claims.payload jti) "jkt" = some (.str validated.jkt)

/-- The token is bound as the flags of the client ask. -/
def SenderConstrained (flow : IssuanceFlow) (w : World) (client : Client)
    (claims : AccessTokenClaims) : Prop :=
  (client.tlsClientCertificateBoundAccessTokens = true → d.CertificateBound flow claims) ∧
    (client.requireDpop = true → d.KeyBound flow w claims)

/-- The flow looks at what the flags of the client ask for. -/
def ChecksSender (client : Client) : IssuanceFlow → Prop
  | .token request =>
      (request.grantType = jwtBearerGrantTypeUrn →
        client.tlsClientCertificateBoundAccessTokens = true →
          (request.tlsCertificate.bind ClientCertificate.der).isSome) ∧
        (client.requireDpop = true → d.tokens.dpop = true)
  | .cibaPush _ | .authorization _ =>
      client.tlsClientCertificateBoundAccessTokens = false ∧ client.requireDpop = false

/-! ## The `cnf` claim of a token -/

theorem get_userinfoPayload_cnf (request : ClaimsRequest) :
    Dict.get (userinfoPayload request) "cnf" = none := by
  have hclaims : ∀ members : Members,
      Dict.get (if members = [] then [] else [("claims", Json.obj members)]) "cnf" = none := by
    intro members
    split <;> simp [Dict.get_cons]
  exact hclaims _

theorem get_accessTokenSubjectClaims_of_ne {k : String} (hid : k ≠ "client_id")
    (hmaterial : k ≠ "subject_material") (client : Client) (subject material : String) :
    Dict.get (accessTokenSubjectClaims client subject material) k = none := by
  unfold accessTokenSubjectClaims
  split
  · rfl
  · split <;> simp [Dict.get_cons, hid.symm, hmaterial.symm]

theorem get_details_of_ne {k : String} (hne : k ≠ "authorization_details") (details : List Json) :
    Dict.get (if details = [] then [] else [("authorization_details", Json.arr details)]) k =
      none := by
  split <;> simp [Dict.get_cons, hne.symm]

/-- No claim of its own of an access token is called `cnf`. -/
theorem get_payload_cnf (claims : AccessTokenClaims) (jti : String) :
    Dict.get (claims.payload jti) "cnf" = Dict.get claims.additionalClaims "cnf" := by
  unfold AccessTokenClaims.payload
  rw [Dict.get_setDefaults]
  simp [Dict.get_cons]

/-- The members of `cnf` an issuance of the token endpoint gives. -/
def cnfOf (i : Issuance) : Members :=
  (if i.dpopJkt = "" then [] else [("jkt", Json.str i.dpopJkt)]) ++
    (if i.tlsCertHash = "" then [] else [("x5t#S256", Json.str i.tlsCertHash)])

/-- The userinfo names a `claims` parameter adds to an access token. -/
def userinfoMembers (claimsRequest : Option ClaimsRequest) : Members :=
  (claimsRequest.map userinfoPayload).getD []

theorem get_userinfoMembers_cnf (claimsRequest : Option ClaimsRequest) :
    Dict.get (userinfoMembers claimsRequest) "cnf" = none := by
  cases claimsRequest with
  | none => rfl
  | some request => exact get_userinfoPayload_cnf request

theorem additionalClaims_eq (i : Issuance) (claimsRequest : Option ClaimsRequest) :
    TokenUseCase.accessTokenAdditionalClaims claimsRequest i =
      userinfoMembers claimsRequest ++
        (if cnfOf i = [] then [] else [("cnf", .obj (cnfOf i))]) ++
        accessTokenSubjectClaims i.client i.subject i.subjectMaterial ++
        (if i.authorizationDetails = [] then []
          else [("authorization_details", .arr i.authorizationDetails)]) := by
  cases claimsRequest <;> rfl

theorem get_accessTokenClaims_cnf (u : TokenUseCase) (i : Issuance) (audience : Audience)
    (claimsRequest : Option ClaimsRequest) :
    Dict.get (u.accessTokenClaims i audience claimsRequest).additionalClaims "cnf" =
      if cnfOf i = [] then none else some (.obj (cnfOf i)) := by
  show Dict.get (TokenUseCase.accessTokenAdditionalClaims claimsRequest i) "cnf" = _
  rw [additionalClaims_eq, Dict.get_append, Dict.get_append, Dict.get_append,
    get_userinfoMembers_cnf, get_details_of_ne (by simp),
    get_accessTokenSubjectClaims_of_ne (by simp) (by simp),
    Option.none_or, Option.or_none, Option.or_none]
  split <;> simp [Dict.get_cons]

/-- What `cnf` says of a token of the token endpoint. -/
theorem confirmation_accessTokenClaims (u : TokenUseCase) (i : Issuance) (audience : Audience)
    (claimsRequest : Option ClaimsRequest) (jti name : String) :
    confirmation ((u.accessTokenClaims i audience claimsRequest).payload jti) name =
      Dict.get (cnfOf i) name := by
  unfold confirmation
  rw [get_payload_cnf, get_accessTokenClaims_cnf]
  split
  · rename_i h
    rw [h]
    rfl
  · rfl

theorem get_cnfOf_jkt (i : Issuance) :
    Dict.get (cnfOf i) "jkt" = if i.dpopJkt = "" then none else some (.str i.dpopJkt) := by
  unfold cnfOf
  rw [Dict.get_append]
  split <;> split <;> simp [Dict.get_cons]

theorem get_cnfOf_x5t (i : Issuance) :
    Dict.get (cnfOf i) "x5t#S256" =
      if i.tlsCertHash = "" then none else some (.str i.tlsCertHash) := by
  unfold cnfOf
  rw [Dict.get_append]
  split <;> split <;> simp [Dict.get_cons]

theorem frontAdditionalClaims_eq (u : AuthorizeUseCase) (claimsRequest : Option ClaimsRequest)
    (client : Client) (subject material authorizationDetails : String) :
    ∃ details, u.accessTokenAdditionalClaims claimsRequest client subject material
        authorizationDetails =
      userinfoMembers claimsRequest ++ accessTokenSubjectClaims client subject material ++
        (if details = [] then [] else [("authorization_details", .arr details)]) := by
  cases claimsRequest with
  | none => exact ⟨_, rfl⟩
  | some request => exact ⟨_, rfl⟩

/-- A token of the authorization endpoint has no `cnf`. -/
theorem confirmation_frontClaims (u : AuthorizeUseCase) (i : AuthorizeUseCase.FrontIssuance)
    (audience : Audience) (jti name : String) :
    confirmation ((u.accessTokenClaims i audience).payload jti) name = none := by
  have hcnf : Dict.get (u.accessTokenClaims i audience).additionalClaims "cnf" = none := by
    obtain ⟨details, heq⟩ := frontAdditionalClaims_eq u i.claimsRequest i.client
      i.request.subject i.subjectMaterial i.request.authorizationDetails
    show Dict.get (u.accessTokenAdditionalClaims ..) "cnf" = none
    rw [heq, Dict.get_append, Dict.get_append, get_userinfoMembers_cnf,
      get_accessTokenSubjectClaims_of_ne (by simp) (by simp), get_details_of_ne (by simp)]
    rfl
  unfold confirmation
  rw [get_payload_cnf, hcnf]
  rfl

/-! ## Watching a run

The registry and the clock stand still while a flow runs alone: the lookups and the proof
checks of a run answer of the world it started in. -/

/-- The calls of a run that starts in `w`: every access token it signs fulfils `P`. -/
def watch (w : World) (P : AccessTokenClaims → Prop) : Monitor Call Reply Unit where
  good _ c r :=
    match c, r with
    | .findClient id, found => found = w.findClient d.ports id
    | .checkDpopProof proof htu method, checked =>
        checked = d.ports.checkDpopProof proof htu method w.clock
    | _, _ => True
  ok _ c :=
    match c with
    | .createAccessToken claims => P claims
    | _ => True
  next _ _ _ := ()

/-- The stores of a run that started in `w`. -/
structure Since (w s : World) : Prop where
  clients : s.clients = w.clients
  clock : s.clock = w.clock

theorem Since.exec {w s : World} (h : Since w s) (ports : Ports) (c : Call) :
    Since w (PurIdentityServer.exec ports c s).2 where
  clients := (exec_clients ports c s).trans h.clients
  clock := (exec_clock ports c s).trans h.clock

theorem Since.findClient {w s : World} (h : Since w s) (ports : Ports) (id : String) :
    s.findClient ports id = w.findClient ports id := by
  unfold World.findClient
  rw [h.clients, h.clock]

/-- The store answers as `watch` expects. -/
theorem Since.good {w s : World} (h : Since w s) (P : AccessTokenClaims → Prop) (c : Call) :
    (d.watch w P).good () c (PurIdentityServer.exec d.ports c s).1 := by
  cases c with
  | findClient id => exact h.findClient d.ports id
  | checkDpopProof proof htu method =>
      show d.ports.checkDpopProof proof htu method s.clock = _
      rw [h.clock]
  | _ => trivial

theorem of_mem_accessTokensOf {calls : List Call} {claims : AccessTokenClaims}
    (h : claims ∈ accessTokensOf calls) : Call.createAccessToken claims ∈ calls := by
  obtain ⟨c, hmem, hc⟩ := List.mem_filterMap.mp h
  cases c with
  | createAccessToken signed =>
      cases hc
      exact hmem
  | _ => cases hc

/-- A watched program signs access tokens of `P` only. -/
theorem of_safe {ε α : Type} {w : World} {P : AccessTokenClaims → Prop} {p : M ε α}
    (h : Safe (d.watch w P) p) {claims : AccessTokenClaims}
    (hmem : claims ∈ accessTokensOf (p.calls (exec d.ports) w)) : P claims :=
  ok_of_mem_calls (m := d.watch w P) (I := Since w)
    (fun c _ hs => ⟨hs.good d P c, hs.exec d.ports c⟩) (h ()) ⟨rfl, rfl⟩ _
    (of_mem_accessTokensOf hmem)

section
variable {ε α β : Type} {w : World} {P : AccessTokenClaims → Prop}

/-- A part that signs no access token. -/
theorem safe_of_areas {areas : List Area} {p : M ε α} (hp : p.Uses (Call.In areas))
    (h : areas.contains .accessTokens = false) : Safe (d.watch w P) p := by
  refine safe_of_uses hp fun _ c hc => ?_
  cases c with
  | createAccessToken claims =>
      exfalso
      have hin : areas.contains .accessTokens = true := hc
      rw [h] at hin
      cases hin
  | _ => trivial

theorem ensures_findClient (id : String) :
    Ensures (d.watch w P) (ask (.findClient id) : M ε (Option Client))
      fun found => found = w.findClient d.ports id :=
  ensures_op (fun _ => trivial) fun _ _ h => h

theorem ensures_refuseIf (b : Prop) [Decidable b] (error : ε) :
    Ensures (d.watch w P) (refuseIf b error) fun _ => ¬b :=
  ensures_stopIf b _

/-- The client looked up is the one of the registry. -/
theorem ensures_client (id : String) (error : ε) :
    Ensures (d.watch w P) (ask (.findClient id) >>= orRefuse error) fun client =>
      w.findClient d.ports id = some client := by
  refine (d.ensures_findClient id).bind fun found hfound => ?_
  refine (ensures_getOr _ found).mono fun client hclient => ?_
  rw [← hfound, hclient]

theorem ensures_activeClient (id description : String) :
    Ensures (d.watch w P) (TokenUseCase.activeClient id description) fun client =>
      w.findClient d.ports id = some client := by
  unfold TokenUseCase.activeClient
  refine (d.ensures_client id _).bind fun client hclient => ?_
  exact (d.ensures_refuseIf _ _).bind fun _ _ => ensures_pure hclient

/-- A call that signs no access token. -/
theorem safe_ask {c : Call} (hc : (c.area == .accessTokens) = false) :
    Safe (d.watch w P) (ask c : M ε (Reply c)) := by
  cases c with
  | createAccessToken claims => cases hc
  | _ => exact fun _ => wp_op.mpr ⟨trivial, fun _ _ => trivial⟩

theorem ensures_ask_bind {c : Call} {f : Reply c → M ε β} {Q : β → Prop}
    (hc : (c.area == .accessTokens) = false) (hf : ∀ r, Ensures (d.watch w P) (f r) Q) :
    Ensures (d.watch w P) (ask c >>= f) Q :=
  (d.safe_ask hc).ensures.bind fun r _ => hf r

/-- A part that signs no access token, in front of the rest. -/
theorem ensures_skip {areas : List Area} {p : M ε α} {f : α → M ε β} {Q : β → Prop}
    (hp : p.Uses (Call.In areas)) (h : areas.contains .accessTokens = false)
    (hf : ∀ a, Ensures (d.watch w P) (f a) Q) : Ensures (d.watch w P) (p >>= f) Q :=
  (d.safe_of_areas hp h).ensures.bind fun a _ => hf a

end

/-! ## What the checks of a grant settle -/

/-- What the evaluation of the proof of a request ends with. -/
structure Evaluated (w : World) (client : Client) (request : TokenRequest)
    (binding : DpopBinding) : Prop where
  validated : d.tokens.dpop = true → client.requireDpop = true →
    ∃ validated, d.ValidatedProof w request.dpopProof validated ∧
      binding = ⟨validated.jkt, true⟩
  unguarded : d.tokens.dpop = false → binding = {}

/-- What a grant has settled when it issues: the client `id` names, its certificate and
its proof. -/
structure Vetted (w : World) (id : String) (request : TokenRequest) (client : Client)
    (binding : DpopBinding) : Prop where
  found : w.findClient d.ports id = some client
  certificate : client.tlsClientCertificateBoundAccessTokens = true →
    request.grantType ≠ jwtBearerGrantTypeUrn →
      (request.tlsCertificate.bind ClientCertificate.der).isSome = true
  evaluated : d.Evaluated w client request binding

section
variable {w : World} {P : AccessTokenClaims → Prop}

theorem ensures_validateProof (proof htu : String) :
    Ensures (d.watch w P)
      (validateProof d.tokens.platform proof htu "POST" : M TokenError _) fun result =>
        ∀ validated, result = .ok validated →
          d.ports.checkDpopProof proof htu "POST" w.clock = .ok validated := by
  unfold validateProof
  split
  · refine ensures_pure fun validated h => ?_
    cases h
  have hcheck : Ensures (d.watch w P)
      (ask (.checkDpopProof proof htu "POST") : M TokenError _)
      fun checked => checked = d.ports.checkDpopProof proof htu "POST" w.clock :=
    ensures_op (fun _ => trivial) fun _ _ h => h
  refine hcheck.bind fun checked hchecked => ?_
  cases checked with
  | error e =>
      refine ensures_pure fun validated h => ?_
      cases h
  | ok payload =>
      refine d.ensures_ask_bind rfl fun now => ?_
      refine d.ensures_ask_bind rfl fun used => ?_
      split
      · refine ensures_pure fun validated h => ?_
        cases h
      · have hsave : (ask (.saveReplay ⟨d.tokens.platform.sha256Hex payload.jti,
            now + seconds (2 * dpopIatSkewSeconds)⟩) >>= orRaise : M TokenError Unit).Uses
              (Call.In [.passive]) :=
          Prog.uses_bind (Prog.uses_op rfl) fun _ => uses_orRaise _ _
        refine d.ensures_skip hsave rfl fun _ => ?_
        refine d.ensures_ask_bind rfl fun _ => ?_
        refine ensures_pure fun validated h => ?_
        cases h
        exact hchecked.symm

/-- A client that has to prove its key gets the binding of a validated proof. -/
theorem ensures_evaluate (client : Client) (request : TokenRequest) (boundJkt : String) :
    Ensures (d.watch w P)
      (DpopGuard.evaluate d.tokens.platform client request.dpopProof d.tokens.tokenEndpoint
        boundJkt : M TokenError _) fun result =>
        ∀ binding, result = .ok binding → client.requireDpop = true →
          ∃ validated, d.ValidatedProof w request.dpopProof validated ∧
            binding = ⟨validated.jkt, true⟩ := by
  unfold DpopGuard.evaluate
  split
  · refine ensures_pure fun binding h hrequire => ?_
    simp [DpopGuard.missingProof, hrequire] at h
  refine (d.ensures_validateProof _ _).bind fun result hresult => ?_
  cases result with
  | error e =>
      refine ensures_pure fun binding h => ?_
      cases h
  | ok validated =>
      dsimp only
      split
      · refine ensures_pure fun binding h => ?_
        cases h
      · refine ensures_pure fun binding h _ => ?_
        cases h
        exact ⟨validated, hresult validated rfl, rfl⟩

theorem ensures_evaluateDpop (client : Client) (request : TokenRequest) (boundJkt : String) :
    Ensures (d.watch w P) (d.tokens.evaluateDpop client request boundJkt)
      (d.Evaluated w client request) := by
  unfold TokenUseCase.evaluateDpop
  split
  · rename_i hguard
    split
    · exact ensures_fail _
    · exact ensures_pure ⟨fun h => absurd h hguard, fun _ => rfl⟩
  · rename_i hguard
    have hdpop : d.tokens.dpop = true := not_not.mp hguard
    refine (d.ensures_evaluate client request boundJkt).bind fun result hresult => ?_
    cases result with
    | error e => exact ensures_fail _
    | ok binding =>
        refine ensures_pure ⟨fun _ => hresult binding rfl, fun h => ?_⟩
        rw [hdpop] at h
        cases h

/-- A client bound to certificates is authenticated with one. -/
theorem ensures_authenticateClient (client : Client) (request : TokenRequest) :
    Ensures (d.watch w P) (d.tokens.authenticateClient client request) fun _ =>
      client.tlsClientCertificateBoundAccessTokens = true →
        (request.tlsCertificate.bind ClientCertificate.der).isSome = true := by
  unfold TokenUseCase.authenticateClient
  refine (d.ensures_refuseIf _ _).bind fun _ hlacks => ?_
  refine d.ensures_skip (PurIdentityServer.authenticateClient_uses ..) rfl fun detail => ?_
  cases detail with
  | some detail => exact ensures_fail _
  | none =>
      refine ensures_pure fun hbound => ?_
      by_contra hnone
      exact hlacks ⟨hbound, by simpa using hnone⟩

theorem ensures_validateCodeExchange (authCode : AuthorizationCode) (request : TokenRequest) :
    Ensures (d.watch w P) (d.tokens.validateCodeExchange authCode request) fun client =>
      w.findClient d.ports request.clientId = some client ∧
        (client.tlsClientCertificateBoundAccessTokens = true →
          (request.tlsCertificate.bind ClientCertificate.der).isSome = true) := by
  unfold TokenUseCase.validateCodeExchange
  refine (d.ensures_activeClient _ _).bind fun client hfound => ?_
  refine (d.ensures_refuseIf _ _).bind fun _ _ => ?_
  refine (d.ensures_authenticateClient _ _).bind fun _ hcertificate => ?_
  refine (d.ensures_refuseIf _ _).bind fun _ _ => ?_
  refine (d.ensures_refuseIf _ _).bind fun _ _ => ?_
  have hverify : (if authCode.codeChallenge = "" then pure true
      else orRaise (d.tokens.verifyPkce authCode request.codeVerifier) : M TokenError Bool).Uses
        (Call.In []) := by
    split
    · exact Prog.uses_pure _ _
    · exact uses_orRaise _ _
  refine d.ensures_skip hverify rfl fun verified => ?_
  exact (d.ensures_refuseIf _ _).bind fun _ _ => ensures_pure ⟨hfound, hcertificate⟩

theorem ensures_checkCode (request : TokenRequest) :
    Ensures (d.watch w P) (d.tokens.checkCode request) fun g =>
      d.Vetted w request.clientId request g.client g.binding := by
  unfold TokenUseCase.checkCode
  have hfind : ∀ (error : TokenError),
      (ask (.findByCode request.code) >>= orRefuse error).Uses (Call.In [.codes]) := fun _ =>
    Prog.uses_bind (Prog.uses_op rfl) fun _ => uses_orRefuse _ _ _
  refine d.ensures_skip (hfind _) rfl fun authCode => ?_
  split
  · exact d.ensures_skip (d.tokens.revokeIssuedTokens_uses _) rfl fun _ => ensures_fail _
  refine d.ensures_ask_bind rfl fun now => ?_
  refine (d.ensures_refuseIf _ _).bind fun _ _ => ?_
  refine (d.ensures_validateCodeExchange _ _).bind fun client hclient => ?_
  refine (d.ensures_evaluateDpop _ _ _).bind fun binding hbinding => ?_
  refine d.ensures_skip (d.tokens.effectiveResources_uses _ _) rfl fun resources => ?_
  exact ensures_pure ⟨hclient.1, fun h _ => hclient.2 h, hbinding⟩

theorem ensures_checkPreAuthorizedCode (request : TokenRequest) :
    Ensures (d.watch w P) (d.tokens.checkPreAuthorizedCode request) fun g =>
      d.Vetted w request.clientId request g.client g.binding := by
  unfold TokenUseCase.checkPreAuthorizedCode
  refine d.ensures_ask_bind rfl fun now => ?_
  refine d.ensures_skip (d.tokens.resolvePreAuthorizedCode_uses _ _) rfl fun authCode => ?_
  refine (d.ensures_activeClient _ _).bind fun client hfound => ?_
  refine (d.ensures_authenticateClient _ _).bind fun _ hcertificate => ?_
  refine (d.ensures_refuseIf _ _).bind fun _ _ => ?_
  refine (d.ensures_refuseIf _ _).bind fun _ _ => ?_
  refine (d.ensures_evaluateDpop _ _ _).bind fun binding hbinding => ?_
  refine d.ensures_skip (d.tokens.effectiveResources_uses _ _) rfl fun resources => ?_
  exact ensures_pure ⟨hfound, fun h _ => hcertificate h, hbinding⟩

theorem ensures_checkRefresh (request : TokenRequest) :
    Ensures (d.watch w P) (d.tokens.checkRefresh request) fun g =>
      d.Vetted w request.clientId request g.client g.binding := by
  unfold TokenUseCase.checkRefresh
  refine (d.ensures_refuseIf _ _).bind fun _ _ => ?_
  refine (d.ensures_activeClient _ _).bind fun client hfound => ?_
  refine (d.ensures_authenticateClient _ _).bind fun _ hcertificate => ?_
  refine d.ensures_skip (d.tokens.resolveRefreshGrant_uses _) rfl fun resolved => ?_
  refine (d.ensures_refuseIf _ _).bind fun _ _ => ?_
  refine d.ensures_ask_bind rfl fun now => ?_
  refine (d.ensures_evaluateDpop _ _ _).bind fun binding hbinding => ?_
  refine d.ensures_skip (d.tokens.effectiveResources_uses _ _) rfl fun resources => ?_
  exact ensures_pure ⟨hfound, fun h _ => hcertificate h, hbinding⟩

theorem ensures_checkDevice (request : TokenRequest) :
    Ensures (d.watch w P) (d.tokens.checkDevice request) fun g =>
      d.Vetted w request.clientId request g.client g.binding := by
  unfold TokenUseCase.checkDevice
  refine (d.ensures_refuseIf _ _).bind fun _ _ => ?_
  refine (d.ensures_refuseIf _ _).bind fun _ _ => ?_
  refine (d.ensures_activeClient _ _).bind fun client hfound => ?_
  refine (d.ensures_authenticateClient _ _).bind fun _ hcertificate => ?_
  refine (d.ensures_evaluateDpop _ _ _).bind fun binding hbinding => ?_
  refine d.ensures_skip (d.tokens.loadDeviceSession_uses _) rfl fun stored => ?_
  refine d.ensures_skip (d.tokens.effectiveResources_uses _ _) rfl fun resources => ?_
  refine d.ensures_ask_bind rfl fun now => ?_
  exact ensures_pure ⟨hfound, fun h _ => hcertificate h, hbinding⟩

theorem ensures_checkCiba (request : TokenRequest) :
    Ensures (d.watch w P) (d.tokens.checkCiba request) fun g =>
      d.Vetted w request.clientId request g.client g.binding := by
  unfold TokenUseCase.checkCiba
  refine (d.ensures_refuseIf _ _).bind fun _ _ => ?_
  refine (d.ensures_refuseIf _ _).bind fun _ _ => ?_
  refine (d.ensures_activeClient _ _).bind fun client hfound => ?_
  refine (d.ensures_authenticateClient _ _).bind fun _ hcertificate => ?_
  refine (d.ensures_evaluateDpop _ _ _).bind fun binding hbinding => ?_
  refine d.ensures_skip (d.tokens.loadCibaSession_uses _) rfl fun stored => ?_
  refine d.ensures_skip (d.tokens.effectiveResources_uses _ _) rfl fun resources => ?_
  refine d.ensures_ask_bind rfl fun now => ?_
  exact ensures_pure ⟨hfound, fun h _ => hcertificate h, hbinding⟩

/-- The assertion grant finds the client it names, and asks for no certificate. -/
theorem ensures_jwtBearerSubject (request : TokenRequest) :
    Ensures (d.watch w P) (d.tokens.jwtBearerSubject request) fun resolved =>
      w.findClient d.ports (jwtBearerClientId d.tokens.platform request) = some resolved.1 := by
  unfold TokenUseCase.jwtBearerSubject
  refine (d.ensures_refuseIf _ _).bind fun _ _ => ?_
  refine (d.ensures_refuseIf _ _).bind fun _ _ => ?_
  refine (ensures_getOr _ _).bind fun preliminary hpayload => ?_
  refine (d.ensures_refuseIf _ _).bind fun _ _ => ?_
  refine (d.ensures_activeClient _ _).bind fun client hfound => ?_
  have hverify : ∀ (error : TokenError),
      (ask (.verifyAssertion request.assertion client [d.tokens.tokenEndpoint] false) >>=
        orRefuse error).Uses (Call.In [.passive]) := fun _ =>
    Prog.uses_bind (Prog.uses_op rfl) fun _ => uses_orRefuse _ _ _
  refine d.ensures_skip (hverify _) rfl fun verified => ?_
  have hclient : w.findClient d.ports (jwtBearerClientId d.tokens.platform request) =
      some client := by
    unfold jwtBearerClientId
    rw [hpayload]
    exact hfound
  split
  · exact ensures_fail _
  · exact ensures_pure hclient
  · exact ensures_fail _

/-! ## What an issuance signs -/

theorem safe_createAccessToken {u : TokenUseCase} {i : Issuance}
    (claimsRequest : Option ClaimsRequest)
    (h : ∀ audience, P (u.accessTokenClaims i audience claimsRequest)) :
    Safe (d.watch w P) (u.createAccessToken i claimsRequest) := by
  unfold TokenUseCase.createAccessToken
  refine (d.safe_of_areas (u.resolveAudience_uses _ _ _) rfl).bind fun audience => ?_
  have hsign : Safe (d.watch w P) (ask (.createAccessToken
      (u.accessTokenClaims i audience claimsRequest)) : M TokenError (Raising String)) :=
    fun _ => wp_op.mpr ⟨h audience, fun _ _ => trivial⟩
  exact hsign.bind fun signed => d.safe_of_areas (uses_orRaise (Call.In []) signed) rfl

theorem safe_issueAccessToken {u : TokenUseCase} {i : Issuance}
    (h : ∀ audience claimsRequest, P (u.accessTokenClaims i audience claimsRequest)) :
    Safe (d.watch w P) (u.issueAccessToken i) :=
  (d.safe_createAccessToken none fun audience => h audience none).bind fun _ => safe_pure _

theorem safe_issueTokens {u : TokenUseCase} {i : Issuance}
    (h : ∀ audience claimsRequest, P (u.accessTokenClaims i audience claimsRequest)) :
    Safe (d.watch w P) (u.issueTokens i) := by
  unfold TokenUseCase.issueTokens
  split
  · exact (d.safe_issueAccessToken h).bind fun _ => safe_pure _
  · refine (d.safe_of_areas (u.issueIdToken_uses _ _) rfl).bind fun idToken => ?_
    exact (d.safe_createAccessToken _ fun audience => h audience _).bind fun _ => safe_pure _

theorem safe_issueSession {u : TokenUseCase} {i : Issuance} (dpopBound : Bool)
    (h : ∀ audience claimsRequest, P (u.accessTokenClaims i audience claimsRequest)) :
    Safe (d.watch w P) (u.issueSession i dpopBound) := by
  unfold TokenUseCase.issueSession
  refine (d.safe_of_areas (u.offlineRefreshToken_uses _) rfl).bind fun refreshToken => ?_
  exact (d.safe_issueTokens h).bind fun _ => safe_pure _

end

/-! ## What the tokens of a flow are bound to

The digests and the thumbprints of a deployment are texts: a token that has no `cnf` is bound
to none of them. -/

/-- The token is signed for the client the flow names, and is bound as its flags ask if and
only if the flow looks at them. -/
def Honours (flow : IssuanceFlow) (w : World) (claims : AccessTokenClaims) : Prop :=
  ∃ client, w.findClient d.ports (d.clientId flow) = some client ∧
    (d.SenderConstrained flow w client claims ↔ d.ChecksSender client flow)

/-- The same of a request whose client is settled. -/
def HonoursGrant (request : TokenRequest) (w : World) (claims : AccessTokenClaims) : Prop :=
  ∃ client, w.findClient d.ports (d.grantClientId request) = some client ∧
    (d.SenderConstrained (.token request) w client claims ↔
      d.ChecksSender client (.token request))

section
variable {w : World} {client : Client} {request : TokenRequest} {binding : DpopBinding}
  {i : Issuance} {audience : Audience} {claimsRequest : Option ClaimsRequest}

theorem certificateBound_iff (hder : ∀ der, d.tokens.platform.sha256Der der ≠ "")
    (hbound : client.tlsClientCertificateBoundAccessTokens = true)
    (hhash : i.tlsCertHash = d.tokens.tlsCertificateBoundHash client request) :
    d.CertificateBound (.token request) (d.tokens.accessTokenClaims i audience claimsRequest) ↔
      (request.tlsCertificate.bind ClientCertificate.der).isSome = true := by
  have hflow : (IssuanceFlow.token request).certificate =
    request.tlsCertificate.bind ClientCertificate.der := rfl
  unfold CertificateBound
  rw [hflow]
  cases hcertificate : request.tlsCertificate.bind ClientCertificate.der with
  | none => simp
  | some der =>
      have hvalue : i.tlsCertHash = derCertificateHash d.tokens.platform der := by
        rw [hhash]
        simp [TokenUseCase.tlsCertificateBoundHash, hbound, hcertificate]
      have hne : i.tlsCertHash ≠ "" := by
        rw [hvalue]
        exact hder der
      constructor
      · intro _
        rfl
      · intro _
        refine ⟨der, rfl, fun jti => ?_⟩
        rw [confirmation_accessTokenClaims, get_cnfOf_x5t, if_neg hne, hvalue]

theorem keyBound_iff
    (hjkt : ∀ proof htu method now validated,
      d.ports.checkDpopProof proof htu method now = .ok validated → validated.jkt ≠ "")
    (hrequire : client.requireDpop = true) (h : d.Evaluated w client request binding)
    (hi : i.dpopJkt = binding.boundJkt) :
    d.KeyBound (.token request) w (d.tokens.accessTokenClaims i audience claimsRequest) ↔
      d.tokens.dpop = true := by
  constructor
  · rintro ⟨validated, -, hconfirmed⟩
    by_contra hguard
    have hempty : i.dpopJkt = "" := by
      rw [hi, h.unguarded (by simpa using hguard)]
      rfl
    have hnone := hconfirmed ""
    rw [confirmation_accessTokenClaims, get_cnfOf_jkt, if_pos hempty] at hnone
    cases hnone
  · intro hguard
    obtain ⟨validated, hvalidated, rfl⟩ := h.validated hguard hrequire
    have hvalue : i.dpopJkt = validated.jkt := hi
    have hne : i.dpopJkt ≠ "" := by
      rw [hvalue]
      exact hjkt _ _ _ _ _ hvalidated
    refine ⟨validated, hvalidated, fun jti => ?_⟩
    rw [confirmation_accessTokenClaims, get_cnfOf_jkt, if_neg hne, hvalue]

/-- A grant that has settled its client, its certificate and its proof. -/
theorem honoursGrant_of_vetted (hder : ∀ der, d.tokens.platform.sha256Der der ≠ "")
    (hjkt : ∀ proof htu method now validated,
      d.ports.checkDpopProof proof htu method now = .ok validated → validated.jkt ≠ "")
    (h : d.Vetted w (d.grantClientId request) request client binding)
    (hi : i.dpopJkt = binding.boundJkt)
    (hhash : i.tlsCertHash = d.tokens.tlsCertificateBoundHash client request) :
    d.HonoursGrant request w (d.tokens.accessTokenClaims i audience claimsRequest) := by
  refine ⟨client, h.found, ?_⟩
  constructor
  · intro hconstrained
    constructor
    · intro _ hbound
      exact (d.certificateBound_iff hder hbound hhash).mp (hconstrained.1 hbound)
    · intro hrequire
      exact (d.keyBound_iff hjkt hrequire h.evaluated hi).mp (hconstrained.2 hrequire)
  · intro hchecks
    constructor
    · intro hbound
      rw [d.certificateBound_iff hder hbound hhash]
      by_cases hgrant : request.grantType = jwtBearerGrantTypeUrn
      · exact hchecks.1 hgrant hbound
      · exact h.certificate hbound hgrant
    · intro hrequire
      exact (d.keyBound_iff hjkt hrequire h.evaluated hi).mpr (hchecks.2 hrequire)

/-- A token without a `cnf` suits the clients that ask for none. -/
theorem senderConstrained_of_unbound {flow : IssuanceFlow} {claims : AccessTokenClaims}
    (h : ∀ jti name, confirmation (claims.payload jti) name = none) :
    d.SenderConstrained flow w client claims ↔
      client.tlsClientCertificateBoundAccessTokens = false ∧ client.requireDpop = false := by
  have hcertificate : ¬d.CertificateBound flow claims := by
    rintro ⟨der, -, hconfirmed⟩
    have hnone := hconfirmed ""
    rw [h] at hnone
    cases hnone
  have hkey : ¬d.KeyBound flow w claims := by
    rintro ⟨validated, -, hconfirmed⟩
    have hnone := hconfirmed ""
    rw [h] at hnone
    cases hnone
  simp [SenderConstrained, hcertificate, hkey]

end

/-! ## The grants of the token endpoint -/

theorem grantClientId_of_ne {request : TokenRequest}
    (h : request.grantType ≠ jwtBearerGrantTypeUrn) :
    d.grantClientId request = request.clientId := if_neg h

theorem grantClientId_jwtBearer {request : TokenRequest}
    (h : request.grantType = jwtBearerGrantTypeUrn) :
    d.grantClientId request = jwtBearerClientId d.tokens.platform request := if_pos h

variable {d} in
theorem Vetted.of_ne {w : World} {request : TokenRequest} {client : Client}
    {binding : DpopBinding} (h : d.Vetted w request.clientId request client binding)
    (hgrant : request.grantType ≠ jwtBearerGrantTypeUrn) :
    d.Vetted w (d.grantClientId request) request client binding := by
  rw [d.grantClientId_of_ne hgrant]
  exact h

section
variable (hder : ∀ der, d.tokens.platform.sha256Der der ≠ "")
  (hjkt : ∀ proof htu method now validated,
    d.ports.checkDpopProof proof htu method now = .ok validated → validated.jkt ≠ "")
  (w : World) (request : TokenRequest)
include hder hjkt

/-- What the two grants without a stored session issue. -/
theorem safe_accessTokenOnly {client : Client} (subject : String)
    (hfound : w.findClient d.ports (d.grantClientId request) = some client)
    (hcertificate : client.tlsClientCertificateBoundAccessTokens = true →
      request.grantType ≠ jwtBearerGrantTypeUrn →
        (request.tlsCertificate.bind ClientCertificate.der).isSome = true) :
    Safe (d.watch w (d.HonoursGrant request w))
      (d.tokens.accessTokenOnly client subject request) := by
  unfold TokenUseCase.accessTokenOnly
  refine (d.safe_of_areas (d.tokens.effectiveScope_uses _ _ _) rfl).bind fun scopes => ?_
  refine (d.ensures_evaluateDpop _ _ _).safe_bind fun binding hbinding => ?_
  refine (d.safe_of_areas (d.tokens.effectiveResources_uses _ _) rfl).bind fun resources => ?_
  refine (d.safe_ask rfl).bind fun now => ?_
  refine (d.safe_issueAccessToken fun audience claimsRequest => ?_).bind fun _ => safe_pure _
  exact d.honoursGrant_of_vetted hder hjkt ⟨hfound, hcertificate, hbinding⟩ rfl rfl

theorem safe_clientCredentials (hgrant : request.grantType ≠ jwtBearerGrantTypeUrn) :
    Safe (d.watch w (d.HonoursGrant request w)) (d.tokens.clientCredentials request) := by
  unfold TokenUseCase.clientCredentials
  refine (d.ensures_activeClient _ _).safe_bind fun client hfound => ?_
  refine (d.ensures_refuseIf _ _).safe_bind fun _ _ => ?_
  refine (d.ensures_authenticateClient _ _).safe_bind fun _ hcertificate => ?_
  have hclient : w.findClient d.ports (d.grantClientId request) = some client := by
    rw [d.grantClientId_of_ne hgrant]
    exact hfound
  exact d.safe_accessTokenOnly hder hjkt w request _ hclient fun hbound _ => hcertificate hbound

theorem safe_jwtBearer (hgrant : request.grantType = jwtBearerGrantTypeUrn) :
    Safe (d.watch w (d.HonoursGrant request w)) (d.tokens.jwtBearer request) := by
  unfold TokenUseCase.jwtBearer
  refine (d.ensures_jwtBearerSubject request).safe_bind fun resolved hfound => ?_
  have hclient : w.findClient d.ports (d.grantClientId request) = some resolved.1 := by
    rw [d.grantClientId_jwtBearer hgrant]
    exact hfound
  exact d.safe_accessTokenOnly hder hjkt w request _ hclient fun _ hne => absurd hgrant hne

theorem safe_exchangeCode (hgrant : request.grantType ≠ jwtBearerGrantTypeUrn) :
    Safe (d.watch w (d.HonoursGrant request w)) (d.tokens.exchangeCode request) := by
  refine (d.ensures_checkCode request).safe_bind fun g hvetted => ?_
  unfold TokenUseCase.redeemCode
  refine (d.safe_ask rfl).bind fun _ => ?_
  refine (d.safe_of_areas (d.tokens.offlineRefreshToken_uses _) rfl).bind fun refreshToken => ?_
  refine (d.safe_issueTokens fun audience claimsRequest => ?_).bind fun tokens => ?_
  · exact d.honoursGrant_of_vetted hder hjkt (hvetted.of_ne hgrant) rfl rfl
  · exact (d.safe_ask rfl).bind fun _ => safe_pure _

theorem safe_preAuthorizedCode (hgrant : request.grantType ≠ jwtBearerGrantTypeUrn) :
    Safe (d.watch w (d.HonoursGrant request w)) (d.tokens.preAuthorizedCode request) := by
  refine (d.ensures_checkPreAuthorizedCode request).safe_bind fun g hvetted => ?_
  unfold TokenUseCase.redeemPreAuthorizedCode
  refine (d.safe_ask rfl).bind fun _ => ?_
  refine (d.safe_issueAccessToken fun audience claimsRequest => ?_).bind fun _ => safe_pure _
  exact d.honoursGrant_of_vetted hder hjkt (hvetted.of_ne hgrant) rfl rfl

theorem safe_refresh (hgrant : request.grantType ≠ jwtBearerGrantTypeUrn) :
    Safe (d.watch w (d.HonoursGrant request w)) (d.tokens.refresh request) := by
  refine (d.ensures_checkRefresh request).safe_bind fun g hvetted => ?_
  unfold TokenUseCase.renew
  refine (d.safe_of_areas (d.tokens.rotate_uses _ _) rfl).bind fun refreshToken => ?_
  refine (d.safe_issueTokens fun audience claimsRequest => ?_).bind fun _ => safe_pure _
  exact d.honoursGrant_of_vetted hder hjkt (hvetted.of_ne hgrant) rfl rfl

theorem safe_deviceCode (hgrant : request.grantType ≠ jwtBearerGrantTypeUrn) :
    Safe (d.watch w (d.HonoursGrant request w)) (d.tokens.deviceCode request) := by
  refine (d.ensures_checkDevice request).safe_bind fun g hvetted => ?_
  unfold TokenUseCase.pollDevice
  split
  · unfold TokenUseCase.deviceApprovedFlow
    refine (d.ensures_refuseIf _ _).safe_bind fun _ _ => ?_
    refine (d.safe_ask rfl).bind fun _ => ?_
    refine d.safe_issueSession _ fun audience claimsRequest => ?_
    exact d.honoursGrant_of_vetted hder hjkt (hvetted.of_ne hgrant) rfl rfl
  · exact d.safe_of_areas (TokenUseCase.devicePendingResponse_uses _ _) rfl

theorem safe_ciba (hgrant : request.grantType ≠ jwtBearerGrantTypeUrn) :
    Safe (d.watch w (d.HonoursGrant request w)) (d.tokens.ciba request) := by
  refine (d.ensures_checkCiba request).safe_bind fun g hvetted => ?_
  unfold TokenUseCase.pollCiba
  split
  · unfold TokenUseCase.cibaApprovedFlow
    refine (d.ensures_refuseIf _ _).safe_bind fun _ _ => ?_
    refine (d.safe_ask rfl).bind fun _ => ?_
    refine d.safe_issueSession _ fun audience claimsRequest => ?_
    exact d.honoursGrant_of_vetted hder hjkt (hvetted.of_ne hgrant) rfl rfl
  · exact d.safe_of_areas (TokenUseCase.cibaPendingResponse_uses _ _) rfl

theorem safe_dispatch :
    Safe (d.watch w (d.HonoursGrant request w)) (d.tokens.dispatch request) := by
  unfold TokenUseCase.dispatch
  by_cases hgrant : request.grantType = jwtBearerGrantTypeUrn
  · rw [hgrant]
    simp only [jwtBearerGrantTypeUrn, String.reduceEq, if_false, if_true]
    exact d.safe_jwtBearer hder hjkt w request hgrant
  · simp only [hgrant, if_false]
    split
    · exact d.safe_exchangeCode hder hjkt w request hgrant
    split
    · exact d.safe_refresh hder hjkt w request hgrant
    split
    · exact d.safe_clientCredentials hder hjkt w request hgrant
    split
    · exact d.safe_deviceCode hder hjkt w request hgrant
    split
    · exact d.safe_ciba hder hjkt w request hgrant
    split
    · exact d.safe_preAuthorizedCode hder hjkt w request hgrant
    · exact safe_fail _

end

/-- The endpoint runs a grant on the request with the client it deduces. -/
theorem honours_of_honoursGrant {request : TokenRequest} {w : World} {claims : AccessTokenClaims}
    (h : d.HonoursGrant (d.tokens.deduceClientId request) w claims) :
    d.Honours (.token request) w claims := by
  have hrequest : ∃ id, d.tokens.deduceClientId request = { request with clientId := id } := by
    unfold TokenUseCase.deduceClientId
    split
    · exact ⟨request.clientId, rfl⟩
    dsimp only
    split
    · exact ⟨_, rfl⟩
    · exact ⟨request.clientId, rfl⟩
  obtain ⟨client, hfound, hiff⟩ := h
  refine ⟨client, hfound, ?_⟩
  obtain ⟨id, hid⟩ := hrequest
  rw [hid] at hiff
  exact hiff

/-! ## The flows that look at no proof -/

theorem safe_issueCibaPushTokens (stored : BackchannelAuthenticationRequest) (w : World) :
    Safe (d.watch w (d.Honours (.cibaPush stored) w)) (d.tokens.issueCibaPushTokens stored) := by
  unfold TokenUseCase.issueCibaPushTokens
  refine (d.ensures_refuseIf _ _).safe_bind fun _ _ => ?_
  refine (d.ensures_client _ _).safe_bind fun client hfound => ?_
  refine (d.safe_ask rfl).bind fun now => ?_
  unfold TokenUseCase.cibaApprovedFlow
  refine (d.ensures_refuseIf _ _).safe_bind fun _ _ => ?_
  refine (d.safe_ask rfl).bind fun _ => ?_
  refine d.safe_issueSession _ fun audience claimsRequest => ?_
  refine ⟨client, hfound, d.senderConstrained_of_unbound fun jti name => ?_⟩
  rw [confirmation_accessTokenClaims]
  rfl

section
variable {w : World} {P : AccessTokenClaims → Prop}

theorem ensures_validateForClient (p : Platform) (registry : Option ScopeRegistry)
    (request : AuthorizeRequest) (mode : ResponseMode) :
    Ensures (d.watch w P) (validateForClient p registry request mode) fun validated =>
      w.findClient d.ports request.clientId = some validated.client := by
  unfold validateForClient
  refine (d.ensures_client _ _).bind fun client hfound => ?_
  refine (d.ensures_refuseIf _ _).bind fun _ _ => ?_
  refine d.ensures_skip (checkClientRequest_uses ..) rfl fun _ => ?_
  refine (d.ensures_refuseIf _ _).bind fun _ _ => ?_
  refine d.ensures_skip (checkClientProfile_uses ..) rfl fun _ => ?_
  refine d.ensures_skip (checkParameters_uses ..) rfl fun _ => ?_
  refine d.ensures_skip (checkScopes_uses ..) rfl fun _ => ?_
  refine (d.ensures_refuseIf _ _).bind fun _ _ => ?_
  exact ensures_pure hfound

theorem ensures_validateAuthorizationRequest (p : Platform) (registry : Option ScopeRegistry)
    (request : AuthorizeRequest) :
    Ensures (d.watch w P) (validateAuthorizationRequest p registry request) fun validated =>
      w.findClient d.ports request.clientId = some validated.client := by
  unfold validateAuthorizationRequest
  dsimp only
  refine (d.ensures_refuseIf _ _).bind fun _ _ => ?_
  split
  · exact ensures_fail _
  · exact d.ensures_validateForClient p registry request _

/-- What the endpoint signs for a client. -/
theorem safe_frontTokens (u : AuthorizeUseCase) (request : AuthorizeRequest)
    (scopes : Finset Scope) (client : Client) (code : String) (wantsIdToken wantsToken : Bool)
    (h : ∀ i audience, P (u.accessTokenClaims i audience)) :
    Safe (d.watch w P)
      (u.issueTokens request scopes client code wantsIdToken wantsToken) := by
  unfold AuthorizeUseCase.issueTokens
  refine (d.safe_ask rfl).bind fun now => ?_
  dsimp only
  refine Safe.bind ?_ fun signed =>
    (d.safe_of_areas (u.issueIdToken_uses _ _ _ _) rfl).bind fun _ => safe_pure _
  unfold AuthorizeUseCase.issueAccessToken
  split
  · refine (d.safe_of_areas (u.resolveAudience_uses _ _ _) rfl).bind fun audience => ?_
    refine Safe.bind (Safe.bind (fun _ => wp_op.mpr ⟨h _ audience, fun _ _ => trivial⟩)
      fun signed => d.safe_of_areas (uses_orRaise (Call.In []) signed) rfl) fun accessToken => ?_
    exact (d.safe_of_areas (uses_orRaise (Call.In []) _) rfl).bind fun _ => safe_pure _
  · exact safe_pure _

end

theorem safe_authorize (request : AuthorizeRequest) (w : World) :
    Safe (d.watch w (d.Honours (.authorization request) w)) (d.authorize.execute request) := by
  unfold AuthorizeUseCase.execute
  refine (d.ensures_validateAuthorizationRequest _ _ request).safe_bind
    fun validated hfound => ?_
  unfold AuthorizeUseCase.respond
  dsimp only
  refine Safe.bind ?_ fun code => ?_
  · split
    · exact d.safe_of_areas (d.authorize.issueCode_uses _ _ _) rfl
    · exact safe_pure _
  refine Safe.bind ?_ fun tokens => ?_
  · split
    · refine d.safe_frontTokens d.authorize request _ _ _ _ _ fun i audience => ?_
      refine ⟨validated.client, hfound, d.senderConstrained_of_unbound fun jti name => ?_⟩
      exact confirmation_frontClaims _ _ _ _ _
    · exact safe_pure _
  refine (d.safe_of_areas (d.authorize.resolveSessionState_uses _) rfl).bind
    fun sessionState => ?_
  exact (d.safe_of_areas (d.authorize.responseRedirectUri_uses _ _ _) rfl).bind
    fun _ => safe_pure _

/-- Every access token a flow signs is bound as its client asks, if and only if the flow
looks at the certificate and the proof the client has to present. -/
theorem honours_of_issued (hder : ∀ der, d.tokens.platform.sha256Der der ≠ "")
    (hjkt : ∀ proof htu method now validated,
      d.ports.checkDpopProof proof htu method now = .ok validated → validated.jkt ≠ "")
    (flow : IssuanceFlow) (w : World) (claims : AccessTokenClaims)
    (h : claims ∈ d.issued flow w) :
    ∃ client, w.findClient d.ports (d.clientId flow) = some client ∧
      (d.SenderConstrained flow w client claims ↔ d.ChecksSender client flow) := by
  cases flow with
  | token request =>
      exact d.honours_of_honoursGrant (d.of_safe (d.safe_dispatch hder hjkt w _) h)
  | cibaPush stored => exact d.of_safe (d.safe_issueCibaPushTokens stored w) h
  | authorization request => exact d.of_safe (d.safe_authorize request w) h

/-! ## An assertion grant without a certificate -/

namespace Sample

/-- A client whose access tokens are to name its certificate. -/
def client : Client :=
  { PurIdentityServer.Sample.client with tlsClientCertificateBoundAccessTokens := true }

def world : World := { clock := 0, clients := Table.empty.save client }

def platform : Platform :=
  { PurIdentityServer.Sample.platform with
    sha256Der := fun _ => "thumbprint"
    jwtPayload := fun _ => some [("sub", .str "alice")] }

def deployment : AccessTokenIssuers where
  tokens := { PurIdentityServer.Sample.tokens with platform := platform }
  authorize := { platform := platform, config := {}, halfDigest := fun _ value => value }
  ports :=
    { PurIdentityServer.Sample.ports with
      verifyAssertion := fun _ _ _ _ _ => some [("sub", .str "alice")] }

/-- An assertion about alice, presented without a certificate. -/
def flow : IssuanceFlow :=
  .token { grantType := jwtBearerGrantTypeUrn, clientId := "app", assertion := "assertion" }

/-- The claims signed for alice. -/
def claims : AccessTokenClaims :=
  deployment.tokens.accessTokenClaims
    { client := client, subject := "alice", scopes := client.scopes, now := 0 } (.one "app") none

theorem issued_eq : deployment.issued flow world = [claims] := by rfl

theorem client_found : world.findClient deployment.ports (deployment.clientId flow) =
    some client := by rfl

end Sample

open AccessTokenIssuers.Sample in
/-- The token signed for a bound client, of which nothing says the certificate. -/
theorem assertionGrant_unbound :
    claims ∈ deployment.issued flow world ∧
      world.findClient deployment.ports (deployment.clientId flow) = some client ∧
      ¬deployment.SenderConstrained flow world client claims := by
  refine ⟨?_, client_found, ?_⟩
  · rw [issued_eq]
    exact List.mem_singleton_self _
  · intro h
    obtain ⟨der, hder, -⟩ := h.1 rfl
    cases hder

open AccessTokenIssuers.Sample in
theorem honours_of_issued_assertion :
    ∃ client, world.findClient deployment.ports (deployment.clientId flow) = some client ∧
      (deployment.SenderConstrained flow world client claims ↔
        deployment.ChecksSender client flow) := by
  refine deployment.honours_of_issued ?_ ?_ flow world claims ?_
  · intro der
    show "thumbprint" ≠ ""
    decide
  · intro proof htu method now validated h
    cases h
  · rw [issued_eq]
    exact List.mem_singleton_self _

end AccessTokenIssuers

end PurIdentityServer

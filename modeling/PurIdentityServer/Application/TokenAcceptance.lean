import PurIdentityServer.Application.ResourceAccess
import PurIdentityServer.Application.TokenTypes

/-!
# TokenAcceptance — what each endpoint asks of an access token

A token that is revoked, bound to a DPoP key or bound to a certificate
should open no endpoint without what it is bound to. What each endpoint
checks is spelled out (`Passes`), and a request is answered exactly when
it passes (`serve_ok_iff`). The constraints an endpoint leaves unchecked
(`Unchecked`) are then the only ones a request can violate and still be
answered (`uniform_iff`).
-/

namespace PurIdentityServer

open Effects

namespace ResourceServer

section Acceptance

variable {κ : Type} (server : ResourceServer κ)

/-! ## The constraints -/

/-- The `jti` of the claims is that of a revoked token. -/
def RevokedJti (denylist : Denylist) (claims : Members) : Prop :=
  ∃ token found jti, server.isRevoked denylist token = true ∧
    server.tokens.jwt.payload token = some found ∧ Dict.get found "jti" = some jti ∧
    Dict.get claims "jti" = some jti

/-- The request proves the key: a proof is presented, and it is valid for that key
and for the token. -/
def ProvesKey (request : BearerRequest) (jkt : String) : Prop :=
  request.dpopProof ≠ "" ∧ ∃ validate proof, server.dpop = some validate ∧
    validate request.dpopProof request.htu request.htm
      (server.accessTokenHash request.accessToken) = .ok proof ∧ proof.jkt = jkt

/-- The claims are bound to a key the request does not prove. -/
def UnprovenKey (request : BearerRequest) (claims : Members) : Prop :=
  boundJkt claims ≠ "" ∧ ¬server.ProvesKey request (boundJkt claims)

/-- The claims are bound to a certificate that is not the one presented. -/
def ForeignCertificate (request : BearerRequest) (claims : Members) : Prop :=
  boundTo claims "x5t#S256" ≠ "" ∧
    ∀ der, request.tlsCertificate.bind ClientCertificate.der = some der →
      derCertificateHash server.platform der ≠ boundTo claims "x5t#S256"

/-- The token is revoked or not presented with what it is bound to. -/
def Violates (state : ResourceState) (request : BearerRequest) (claims : Members) : Prop :=
  server.RevokedJti state.denylist claims ∨ server.UnprovenKey request claims ∨
    server.ForeignCertificate request claims

/-- Whatever the token violates, the request is not answered. -/
def Uniform (now : Instant) (state : ResourceState) (draws : OfferDraws)
    (request : ResourceRequest) : Prop :=
  ∀ claims, server.tokens.jwt.payload request.bearer.accessToken = some claims →
    server.Violates state request.bearer claims →
      ∀ response, server.serve now state draws request ≠ .ok response

/-! ## What is checked -/

/-- The issuer an endpoint validates its tokens against. -/
def issuerFor : ResourceRequest → String
  | .userinfo _ => server.issuer
  | .protectedResource _ => server.issuer
  | .credential _ _ => server.credentialIssuer
  | .deferredCredential _ _ => server.credentialIssuer
  | .notification _ _ _ => server.credentialIssuer
  | .credentialOffer _ _ _ _ => server.credentialIssuer

/-- The checks of `/userinfo` and of the protected resource. -/
structure Accepts (denylist : Denylist) (paragraph : String) (request : BearerRequest)
    (claims : Members) : Prop where
  unlisted : server.isRevoked denylist request.accessToken = false
  certificate : server.certificateBindingError claims request.tlsCertificate = ""
  key : server.validateDpopBinding paragraph request claims = none

/-- The checks an endpoint makes on a valid token and on the request. -/
def Passes (state : ResourceState) : ResourceRequest → Members → Prop
  | .userinfo request, claims => server.Accepts state.denylist "§7.2" request claims ∧
      ∃ subject profile, Dict.get claims "sub" = some (.str subject) ∧
        server.profile claims subject = .ok profile
  | .protectedResource request, claims => server.Accepts state.denylist "§7.1" request claims
  | .credential request target, claims => server.dpopAuthorized claims request = true ∧
      server.credentialSubject claims ≠ "" ∧
      ∃ configuration bindings issued,
        server.resolveRequestedConfiguration claims target = .ok configuration ∧
        server.bindingKeys target.proofs = .ok bindings ∧
        server.issue (server.credentialSubject claims) bindings configuration = .ok issued
  | .deferredCredential _ _, _ => False
  | .notification _ notificationId event, _ =>
      notificationId ∈ state.notifications ∧ event ∈ notificationEvents
  | .credentialOffer _ configurationIds subject _, claims =>
      ∃ caller configurations resolved, server.offerCaller claims = .ok caller ∧
        offeredConfigurations configurationIds = .ok configurations ∧
        offerSubject caller subject = .ok resolved

/-- The constraints an endpoint does not check. -/
def Unchecked (state : ResourceState) : ResourceRequest → Members → Prop
  | .userinfo _, claims => server.RevokedJti state.denylist claims
  | .protectedResource _, claims => server.RevokedJti state.denylist claims
  | .credential request _, claims =>
      server.RevokedJti state.denylist claims ∨ server.ForeignCertificate request claims
  | .deferredCredential _ _, _ => False
  | .notification request _ _, claims => server.Violates state request claims
  | .credentialOffer request _ _ _, claims => server.Violates state request claims

/-! ## A request is answered exactly when it passes -/

variable {server} {now : Instant} {state : ResourceState} {draws : OfferDraws}

theorem validated_eq_ok {token issuer description : String} {claims : Members} :
    server.validated now token issuer description = .ok claims ↔
      server.tokens.validateAccessToken now token issuer = .ok (some claims) := by
  unfold validated
  split
  · rename_i found hvalidate
    rw [hvalidate]
    simp
  · rename_i hvalidate
    rw [hvalidate]
    simp [deny]
  · rename_i e hvalidate
    rw [hvalidate]
    simp

/-- A check that refuses under a condition. -/
theorem check_ite {c : Prop} [Decidable c] {e : AccessError} {u : Unit} :
    check (if c then some e else none) = .ok u ↔ ¬c := by
  rw [check_eq_ok]
  by_cases h : c <;> simp [h]

theorem check_ite_not {c : Prop} [Decidable c] {e : AccessError} {u : Unit} :
    check (if c then none else some e) = .ok u ↔ c := by
  rw [check_eq_ok]
  by_cases h : c <;> simp [h]

theorem accept_eq_ok {denylist : Denylist} {paragraph : String} {request : BearerRequest}
    {claims : Members} :
    server.accept now denylist paragraph request = .ok claims ↔
      server.tokens.validateAccessToken now request.accessToken server.issuer
          = .ok (some claims) ∧
        server.Accepts denylist paragraph request claims := by
  unfold accept
  simp only [bind_eq_ok, validated_eq_ok, check_ite, check_ite_not]
  constructor
  · rintro ⟨found, hvalidate, _, hlisted, _, hcertificate, _, hkey, hclaims⟩
    cases hclaims
    exact ⟨hvalidate, by simpa using hlisted, hcertificate, check_eq_ok.mp hkey⟩
  · rintro ⟨hvalidate, haccepts⟩
    refine ⟨claims, hvalidate, (), ?_, (), haccepts.certificate, (),
      check_eq_ok.mpr haccepts.key, rfl⟩
    rw [haccepts.unlisted]
    exact Bool.false_ne_true

theorem subject_eq_some {claims : Members} {subject : String} :
    (Dict.get claims "sub").bind Json.asStr = some subject ↔
      Dict.get claims "sub" = some (.str subject) := by
  constructor
  · intro h
    obtain ⟨value, hvalue, htext⟩ := Option.bind_eq_some_iff.mp h
    cases value with
    | str s =>
        cases htext
        exact hvalue
    | _ => cases htext
  · intro h
    rw [h]
    rfl

theorem userinfo_ok_iff {request : BearerRequest} :
    (∃ response, server.userinfo now state.denylist request = .ok response) ↔
      ∃ claims, server.tokens.validateAccessToken now request.accessToken server.issuer
          = .ok (some claims) ∧ server.Passes state (.userinfo request) claims := by
  unfold userinfo
  simp only [bind_eq_ok, accept_eq_ok]
  constructor
  · rintro ⟨response, claims, ⟨hvalidate, haccepts⟩, h⟩
    cases hsub : (Dict.get claims "sub").bind Json.asStr with
    | none =>
        simp only [hsub] at h
        exact absurd h deny_ne_ok
    | some subject =>
        simp only [hsub] at h
        cases hprofile : server.profile claims subject with
        | error e =>
            rw [hprofile] at h
            cases h
        | ok profile => exact ⟨claims, hvalidate, haccepts, subject, profile,
            subject_eq_some.mp hsub, hprofile⟩
  · rintro ⟨claims, hvalidate, haccepts, subject, profile, hsub, hprofile⟩
    refine ⟨.userinfo profile, claims, ⟨hvalidate, haccepts⟩, ?_⟩
    simp only [subject_eq_some.mpr hsub, hprofile]
    rfl

theorem protectedResource_ok_iff {request : BearerRequest} :
    (∃ response, server.protectedResource now state.denylist request = .ok response) ↔
      ∃ claims, server.tokens.validateAccessToken now request.accessToken server.issuer
          = .ok (some claims) ∧ server.Passes state (.protectedResource request) claims := by
  unfold protectedResource
  simp only [bind_eq_ok, accept_eq_ok]
  constructor
  · rintro ⟨_, claims, haccepted, _⟩
    exact ⟨claims, haccepted⟩
  · rintro ⟨claims, haccepted⟩
    exact ⟨_, claims, haccepted, rfl⟩

theorem issueCredential_ok_iff {request : BearerRequest} {target : CredentialTarget}
    {notificationId : String} :
    (∃ response, server.issueCredential now notificationId request target = .ok response) ↔
      ∃ claims, server.tokens.validateAccessToken now request.accessToken server.credentialIssuer
          = .ok (some claims) ∧ server.Passes state (.credential request target) claims := by
  unfold issueCredential
  simp only [bind_eq_ok, validated_eq_ok, check_ite, check_ite_not, orRefuseAccess_eq_ok]
  constructor
  · rintro ⟨_, claims, hvalidate, _, hkey, _, hsubject, configuration, hconfiguration, bindings,
      hbindings, issued, hissued, _⟩
    exact ⟨claims, hvalidate, hkey, hsubject, configuration, bindings, issued, hconfiguration,
      hbindings, hissued⟩
  · rintro ⟨claims, hvalidate, hkey, hsubject, configuration, bindings, issued, hconfiguration,
      hbindings, hissued⟩
    exact ⟨_, claims, hvalidate, (), hkey, (), hsubject, configuration, hconfiguration, bindings,
      hbindings, issued, hissued, rfl⟩

theorem deferredCredential_ne_ok {request : BearerRequest} (transactionId : String)
    {response : ResourceResponse} :
    server.deferredCredential now request transactionId ≠ .ok response := by
  intro h
  unfold deferredCredential at h
  obtain ⟨_, _, h⟩ := bind_eq_ok.mp h
  exact absurd h deny_ne_ok

theorem notify_ok_iff {request : BearerRequest} {notificationId event : String} :
    (∃ response, server.notify now state.notifications request notificationId event
        = .ok response) ↔
      ∃ claims, server.tokens.validateAccessToken now request.accessToken server.credentialIssuer
          = .ok (some claims) ∧
        server.Passes state (.notification request notificationId event) claims := by
  unfold notify
  simp only [bind_eq_ok, validated_eq_ok, check_ite, not_not]
  constructor
  · rintro ⟨_, claims, hvalidate, _, hknown, _, hevent, _⟩
    exact ⟨claims, hvalidate, hknown, hevent⟩
  · rintro ⟨claims, hvalidate, hknown, hevent⟩
    exact ⟨_, claims, hvalidate, (), hknown, (), hevent, rfl⟩

theorem createOffer_ok_iff {request : BearerRequest} {configurationIds : List String}
    {subject : String} {txCode : Bool} :
    (∃ response, server.createOffer now draws request configurationIds subject txCode
        = .ok response) ↔
      ∃ claims, server.tokens.validateAccessToken now request.accessToken server.credentialIssuer
          = .ok (some claims) ∧
        server.Passes state (.credentialOffer request configurationIds subject txCode) claims := by
  unfold createOffer
  simp only [bind_eq_ok, validated_eq_ok, orRefuseAccess_eq_ok]
  constructor
  · rintro ⟨_, claims, hvalidate, caller, hcaller, configurations, hconfigurations, resolved,
      hresolved, _⟩
    exact ⟨claims, hvalidate, caller, configurations, resolved, hcaller, hconfigurations,
      hresolved⟩
  · rintro ⟨claims, hvalidate, caller, configurations, resolved, hcaller, hconfigurations,
      hresolved⟩
    exact ⟨_, claims, hvalidate, caller, hcaller, configurations, hconfigurations, resolved,
      hresolved, rfl⟩

/-- A request is answered exactly when its token is valid and it passes the checks. -/
theorem serve_ok_iff {request : ResourceRequest} :
    (∃ response, server.serve now state draws request = .ok response) ↔
      ∃ claims, server.tokens.validateAccessToken now request.bearer.accessToken
          (server.issuerFor request) = .ok (some claims) ∧ server.Passes state request claims := by
  cases request with
  | userinfo request => exact userinfo_ok_iff
  | protectedResource request => exact protectedResource_ok_iff
  | credential request target => exact issueCredential_ok_iff
  | deferredCredential request transactionId =>
      constructor
      · rintro ⟨response, h⟩
        exact absurd h (deferredCredential_ne_ok transactionId)
      · rintro ⟨_, _, hpasses⟩
        exact hpasses.elim
  | notification request notificationId event => exact notify_ok_iff
  | credentialOffer request configurationIds subject txCode => exact createOffer_ok_iff

/-! ## What the checks exclude -/

theorem certificateBindingError_eq_empty {claims : Members} {request : BearerRequest} :
    server.certificateBindingError claims request.tlsCertificate = "" ↔
      ¬server.ForeignCertificate request claims := by
  unfold certificateBindingError ForeignCertificate
  dsimp only
  split
  · rename_i hunbound
    simp [hunbound]
  · rename_i hbound
    cases hder : request.tlsCertificate.bind ClientCertificate.der with
    | none => simp [hbound]
    | some der =>
        by_cases hhash : derCertificateHash server.platform der = boundTo claims "x5t#S256"
        · simp [hhash]
        · simp [hbound, hhash]

theorem not_unprovenKey_of_binding {paragraph : String} {request : BearerRequest}
    {claims : Members} (h : server.validateDpopBinding paragraph request claims = none) :
    ¬server.UnprovenKey request claims := by
  rintro ⟨hbound, hunproven⟩
  apply hunproven
  unfold validateDpopBinding at h
  rw [if_neg hbound] at h
  split at h
  · cases h
  · split at h
    · cases h
    · rename_i validate hdpop
      split at h
      · cases h
      · rename_i hproof
        split at h
        · cases h
        · rename_i proof hvalidate
          split at h
          · cases h
          · rename_i hjkt
            exact ⟨hproof, validate, proof, hdpop, hvalidate, not_not.mp hjkt⟩

/-- The bound key is a string, which `/credential` reads the same. -/
theorem confirmation_of_bound {claims : Members} (h : boundJkt claims ≠ "") :
    ((confirmation claims "jkt").map server.asText).getD "" = boundJkt claims := by
  unfold boundJkt boundTo at h ⊢
  cases hmember : confirmation claims "jkt" with
  | none =>
      rw [hmember] at h
      exact absurd rfl h
  | some value =>
      rw [hmember] at h
      cases value with
      | str s => rfl
      | _ => exact absurd rfl h

theorem not_unprovenKey_of_authorized {request : BearerRequest} {claims : Members}
    (h : server.dpopAuthorized claims request = true) : ¬server.UnprovenKey request claims := by
  rintro ⟨hbound, hunproven⟩
  apply hunproven
  unfold dpopAuthorized at h
  dsimp only at h
  rw [confirmation_of_bound hbound, if_neg hbound] at h
  split at h
  · cases h
  · rename_i validate hdpop
    split at h
    · cases h
    · rename_i hpresented
      split at h
      · cases h
      · rename_i proof hvalidate
        exact ⟨fun hempty => hpresented (.inr hempty), validate, proof, hdpop, hvalidate,
          of_decide_eq_true h⟩

/-- A violation that passes the checks is one the endpoint does not check. -/
theorem unchecked_of_violates {request : ResourceRequest} {claims : Members}
    (hpasses : server.Passes state request claims)
    (h : server.Violates state request.bearer claims) :
    server.Unchecked state request claims := by
  have haccepts : ∀ paragraph bearer, server.Accepts state.denylist paragraph bearer claims →
      server.Violates state bearer claims → server.RevokedJti state.denylist claims := by
    intro paragraph bearer haccepts hviolates
    rcases hviolates with hrevoked | hunproven | hforeign
    · exact hrevoked
    · exact absurd hunproven (not_unprovenKey_of_binding haccepts.key)
    · exact absurd hforeign (certificateBindingError_eq_empty.mp haccepts.certificate)
  cases request with
  | userinfo request => exact haccepts _ _ hpasses.1 h
  | protectedResource request => exact haccepts _ _ hpasses h
  | credential request target =>
      rcases h with hrevoked | hunproven | hforeign
      · exact .inl hrevoked
      · exact absurd hunproven (not_unprovenKey_of_authorized hpasses.1)
      · exact .inr hforeign
  | deferredCredential request transactionId => exact hpasses.elim
  | notification request notificationId event => exact h
  | credentialOffer request configurationIds subject txCode => exact h

theorem violates_of_unchecked {request : ResourceRequest} {claims : Members}
    (h : server.Unchecked state request claims) :
    server.Violates state request.bearer claims := by
  cases request with
  | userinfo request => exact .inl h
  | protectedResource request => exact .inl h
  | credential request target =>
      rcases h with hrevoked | hforeign
      · exact .inl hrevoked
      · exact .inr (.inr hforeign)
  | deferredCredential request transactionId => exact h.elim
  | notification request notificationId event => exact h
  | credentialOffer request configurationIds subject txCode => exact h

variable (server now state draws)

/-- An endpoint refuses every violation exactly when a valid token that violates a
constraint it does not check fails one of the checks it makes. -/
theorem uniform_iff (request : ResourceRequest) :
    server.Uniform now state draws request ↔
      ∀ claims, server.tokens.validateAccessToken now request.bearer.accessToken
          (server.issuerFor request) = .ok (some claims) →
        server.Unchecked state request claims → ¬server.Passes state request claims := by
  constructor
  · intro huniform claims hvalid hunchecked hpasses
    have hserved : ∃ response, server.serve now state draws request = .ok response :=
      serve_ok_iff.mpr ⟨claims, hvalid, hpasses⟩
    obtain ⟨response, hresponse⟩ := hserved
    exact huniform claims (TokenManager.validate_payload hvalid)
      (violates_of_unchecked hunchecked) response hresponse
  · intro hchecked claims hpayload hviolates response hresponse
    obtain ⟨found, hvalid, hpasses⟩ := serve_ok_iff.mp ⟨response, hresponse⟩
    rw [TokenManager.validate_payload hvalid] at hpayload
    cases hpayload
    exact hchecked claims hvalid (unchecked_of_violates hpasses hviolates) hpasses

end Acceptance

namespace Sample

open ServerToken.Sample (manager accessTokenOf)

/-! ## A revoked token

A hash is the token itself; the access token is on the denylist. -/

def platform : Platform where
  sha256Hex := id
  sha256Base64Url := id
  sha256Der _ := ""
  hmacBase64Url _ message := message
  jsonLoads _ := none
  jsonDumps _ := ""
  pyStr _ := ""
  upper := id
  urlsplit _ := .ok {}
  jwtDecode _ := none
  jwtPayload _ := none

def server : ResourceServer Unit where
  platform := platform
  tokens := manager
  issuer := "https://op"
  dpop := none
  profile _ _ := .ok []
  bindingKeys _ := .ok []
  issue _ _ _ := .ok []

def state : ResourceState where
  denylist := Table.empty.save ⟨"access", seconds 100⟩
  notifications := ["n"]

def notification : ResourceRequest :=
  .notification { accessToken := "access" } "n" "credential_accepted"

theorem revokedJti : server.RevokedJti state.denylist accessTokenOf.payload :=
  ⟨"access", accessTokenOf.payload, .str "j", by decide +kernel, rfl, rfl, rfl⟩

end Sample

open ResourceServer.Sample in
/-- A notification is taken with a revoked token. -/
theorem notification_not_uniform :
    ¬server.Uniform (seconds 1) state ⟨"", "", ""⟩ notification := by
  intro huniform
  exact huniform ServerToken.Sample.accessTokenOf.payload rfl (.inl revokedJti) .notified rfl

end ResourceServer

end PurIdentityServer

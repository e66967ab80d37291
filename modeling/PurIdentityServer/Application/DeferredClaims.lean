import PurIdentityServer.Application.VerifiedClaims
import PurIdentityServer.Application.SenderConstraint

/-!
# DeferredClaims — a request of verified claims that waits in the access token

For the `id_token` a request is evaluated as it was read; for the userinfo
endpoint it travels in the access token, and is read again there.

The two evaluations of one request agree, whichever endpoint issues the
token, except for a request that is `null` (`deferred_agrees_iff`): it is
issued as the absence of a request, and the userinfo endpoint then serves
nothing where the direct evaluation serves the profile.
-/

namespace PurIdentityServer

open Effects IdentityAssurance
open AccessTokenIssuers (additionalClaims_eq frontAdditionalClaims_eq
  get_accessTokenSubjectClaims_of_ne get_details_of_ne)

/-! ## What the access token carries -/

/-- An access token of the claims is issued for the request: by the token endpoint, or
by the authorization endpoint. -/
inductive IssuedFor (claimsRequest : ClaimsRequest) : AccessTokenClaims → Prop
  | token (u : TokenUseCase) (i : Issuance) (audience : Audience) :
      IssuedFor claimsRequest (u.accessTokenClaims i audience (some claimsRequest))
  | authorize (u : AuthorizeUseCase) (i : AuthorizeUseCase.FrontIssuance) (audience : Audience)
      (hrequest : i.claimsRequest = some claimsRequest) :
      IssuedFor claimsRequest (u.accessTokenClaims i audience)

theorem get_cnf_claims (members : Members) :
    Dict.get (if members = [] then [] else [("cnf", Json.obj members)]) "claims" = none := by
  split <;> simp [Dict.get_cons]

/-- The `claims` member of the token is the one made of the request. -/
theorem get_payload_claims {claimsRequest : ClaimsRequest} {claims : AccessTokenClaims}
    (h : IssuedFor claimsRequest claims) (jti : String) :
    Dict.get (claims.payload jti) "claims" = Dict.get (userinfoPayload claimsRequest) "claims" := by
  have hadditional : Dict.get claims.additionalClaims "claims" =
      Dict.get (userinfoPayload claimsRequest) "claims" := by
    have hsubject := get_accessTokenSubjectClaims_of_ne (k := "claims") (by simp) (by simp)
    have hdetails := get_details_of_ne (k := "claims") (by simp)
    cases h with
    | token u i audience =>
        show Dict.get (TokenUseCase.accessTokenAdditionalClaims (some claimsRequest) i) "claims" = _
        rw [additionalClaims_eq]
        simp only [Dict.get_append, get_cnf_claims, hsubject, hdetails, Option.or_none]
        rfl
    | authorize u i audience hrequest =>
        obtain ⟨details, heq⟩ := frontAdditionalClaims_eq u i.claimsRequest i.client
          i.request.subject i.subjectMaterial i.request.authorizationDetails
        show Dict.get (u.accessTokenAdditionalClaims ..) "claims" = _
        rw [heq, hrequest]
        simp only [Dict.get_append, hsubject, hdetails, Option.or_none]
        rfl
  unfold AccessTokenClaims.payload
  rw [Dict.get_setDefaults, hadditional]
  simp [Dict.get_cons]

section ReadAgain

variable (p : Platform) {claimsRequest : ClaimsRequest}

/-- The raw request a token carries: the one of the parameter, unless it is `null`. -/
theorem rawRequest_userinfoPayload (claimsRequest : ClaimsRequest) :
    ((Dict.get (userinfoPayload claimsRequest) "claims").bind Json.asMembers).bind
        (fun members => Dict.get members verifiedClaimsRequestKey) =
      (Dict.get claimsRequest.rawUserinfo verifiedClaimsMember).filter
        fun member => !member.isNull := by
  cases hget : Dict.get claimsRequest.rawUserinfo verifiedClaimsMember with
  | none =>
      have hfind : (claimsRequest.rawUserinfo.find? fun m => m.1 = verifiedClaimsMember).map
        Prod.snd = none := hget
      unfold userinfoPayload
      rw [hfind]
      by_cases hnames : claimsRequest.userinfo = []
      · simp [hnames]
      · simp [hnames, Dict.get_cons, Json.asMembers, verifiedClaimsRequestKey]
  | some member =>
      have hfind : (claimsRequest.rawUserinfo.find? fun m => m.1 = verifiedClaimsMember).map
        Prod.snd = some member := hget
      unfold userinfoPayload
      rw [hfind]
      by_cases hnames : claimsRequest.userinfo = []
      · cases member <;>
          simp [hnames, Dict.get_cons, Json.asMembers, verifiedClaimsRequestKey] <;> rfl
      · cases member <;>
          simp [hnames, Dict.get_cons, Json.asMembers, verifiedClaimsRequestKey] <;> rfl

/-- The request is read again as it was, when it is not `null`. -/
theorem requestFromPayload_userinfoPayload
    (hnull : Dict.get claimsRequest.rawUserinfo verifiedClaimsMember ≠ some .null) :
    verifiedClaimsRequestFromPayload p (Dict.get (userinfoPayload claimsRequest) "claims") =
      verifiedClaimsRequest p claimsRequest .userinfo := by
  rw [requestFromPayload_eq, rawRequest_userinfoPayload, verifiedClaimsRequest_eq]
  show Option.bind (Option.filter _ (Dict.get claimsRequest.rawUserinfo _)) _ =
    Option.bind (Dict.get claimsRequest.rawUserinfo _) _
  cases hget : Dict.get claimsRequest.rawUserinfo verifiedClaimsMember with
  | none => rfl
  | some member =>
      cases member with
      | null => exact absurd hget hnull
      | bool | num | str | arr | obj => rfl

/-- A `null` request is not there when the token is read. -/
theorem requestFromPayload_null
    (hnull : Dict.get claimsRequest.rawUserinfo verifiedClaimsMember = some .null) :
    verifiedClaimsRequestFromPayload p (Dict.get (userinfoPayload claimsRequest) "claims") =
      none := by
  rw [requestFromPayload_eq, rawRequest_userinfoPayload, hnull]
  rfl

end ReadAgain

/-! ## The two evaluations -/

/-- Verified claims can be served to a request without constraints: there is a provider,
and what it answers for the subject, if it answers, holds a profile. -/
def Provides (identityAssurance : Option IdentityAssuranceUseCase) (subject : String) : Prop :=
  ∃ u getClaims, identityAssurance = some u ∧ u.claims = some getClaims ∧ subject ≠ "" ∧
    ∀ claims, getClaims subject = .ok claims → profileOf u.platform claims ≠ none

section Evaluations

variable {u : IdentityAssuranceUseCase} {subject : String}

/-- A request without constraints is served whenever there is a profile. -/
theorem served_unconstrained (profile : VerifiedClaims) :
    served profile {} = some (Json.setMember profile.toPayload "claims" (.obj [])) := rfl

theorem resolve_unconstrained :
    u.resolve {} subject ≠ .ok none ↔ Provides (some u) subject := by
  unfold IdentityAssuranceUseCase.resolve
  constructor
  · intro h
    cases hclaims : u.claims with
    | none => simp [hclaims] at h
    | some getClaims =>
        simp only [hclaims] at h
        by_cases hsubject : subject = ""
        · simp [hsubject] at h
        · refine ⟨u, getClaims, rfl, hclaims, hsubject, ?_⟩
          intro claims hget hprofile
          simp [hsubject, hget, hprofile, Except.map] at h
  · rintro ⟨_, getClaims, hu, hclaims, hsubject, hprofile⟩ h
    cases hu
    simp only [hclaims, hsubject, if_false] at h
    cases hget : getClaims subject with
    | error e => simp [hget, Except.map] at h
    | ok claims =>
        obtain ⟨profile, hfound⟩ := Option.ne_none_iff_exists'.mp (hprofile claims hget)
        simp [hget, hfound, served_unconstrained, Except.map] at h

end Evaluations

/-- Read again from an access token issued for it, a request is evaluated as it is
directly, exactly when it is not a `null` one that finds a profile. -/
theorem deferred_agrees_iff {κ : Type} {manager : TokenManager κ} {claimsRequest : ClaimsRequest}
    {claims : AccessTokenClaims} (hissued : IssuedFor claimsRequest claims) {token jti : String}
    (hsigned : manager.Signed token (claims.payload jti)) {now : Instant} {issuer : String}
    {decoded : Members}
    (haccepted : manager.validateAccessToken now token issuer = .ok (some decoded))
    (userinfo : UserInfoUseCase) (subject : String) :
    userinfo.verifiedClaims decoded subject =
        verifiedClaimsOf userinfo.identityAssurance claimsRequest .userinfo subject ↔
      ¬ (Dict.get claimsRequest.rawUserinfo verifiedClaimsMember = some .null ∧
        Provides userinfo.identityAssurance subject) := by
  have hdecoded : Dict.get decoded "claims" = Dict.get (userinfoPayload claimsRequest) "claims" := by
    have hpayload := TokenManager.validate_payload haccepted
    rw [hsigned.payload_eq] at hpayload
    cases hpayload
    exact get_payload_claims hissued jti
  unfold UserInfoUseCase.verifiedClaims verifiedClaimsOf
  cases hassurance : userinfo.identityAssurance with
  | none =>
      simp only [true_iff]
      rintro ⟨_, _, _, hu, _⟩
      cases hu
  | some u =>
      simp only
      rw [hdecoded]
      by_cases hnull : Dict.get claimsRequest.rawUserinfo verifiedClaimsMember = some .null
      · have hdirect : verifiedClaimsRequest u.platform claimsRequest .userinfo = some {} := by
          rw [verifiedClaimsRequest_eq]
          show Option.bind (Dict.get claimsRequest.rawUserinfo _) _ = _
          rw [hnull]
          rfl
        rw [requestFromPayload_null u.platform hnull, hdirect]
        simp only [hnull, true_and]
        rw [← resolve_unconstrained, not_not, eq_comm]
      · rw [requestFromPayload_userinfoPayload u.platform hnull]
        simp [hnull]

/-! ## A request that is `null` -/

namespace DeferredSample

/-- `json.loads`, on a text that asks for verified claims and one that constrains nothing. -/
def platform : Platform :=
  { PurIdentityServer.Sample.platform with
    jsonLoads := fun text => some (.obj [("userinfo", .obj [(verifiedClaimsMember,
      if text = "null" then .null else .obj [("claims", .obj [("name", .null)])])])]) }

/-- The `claims` parameter of each text, as it is parsed. -/
def requestOf (text : String) : ClaimsRequest where
  userinfo := [verifiedClaimsMember]
  rawUserinfo := [(verifiedClaimsMember,
    if text = "null" then .null else .obj [("claims", .obj [("name", .null)])])]

/-- The access token the token endpoint signs for it. -/
def claimsOf (text : String) : AccessTokenClaims :=
  PurIdentityServer.Sample.tokens.accessTokenClaims
    { client := PurIdentityServer.Sample.client, subject := "alice"
      scopes := PurIdentityServer.Sample.client.scopes, now := 0 }
    (.one "app") (some (requestOf text))

/-- A token is the text it is issued for. -/
def jwt : PyJwt Unit where
  header _ := some ServerToken.Sample.header
  payload token := some ((claimsOf token).payload "j")
  signed _ _ algorithms := algorithms.contains "RS256"
  publicKey _ := none
  secretKey _ := ()
  importRaises_none := ServerToken.Sample.no_import_raises
  signed_algorithm := by
    intro token key algorithms h
    exact ⟨_, "RS256", rfl, rfl, by simpa using h⟩

def manager : TokenManager Unit := { ServerToken.Sample.manager with jwt := jwt }

theorem signed (text : String) : manager.Signed text ((claimsOf text).payload "j") where
  signed := ⟨⟨.rs256, "k", (), true⟩, by simp [manager, ServerToken.Sample.manager],
    ServerToken.Sample.header, rfl, rfl, rfl, rfl⟩
  payload_eq := rfl

theorem issuedFor (text : String) : IssuedFor (requestOf text) (claimsOf text) := .token _ _ _

theorem accepted_named : manager.validateAccessToken 0 "named"
    PurIdentityServer.Sample.tokens.config.issuer =
      .ok (some ((claimsOf "named").payload "j")) := by rfl

theorem accepted_null : manager.validateAccessToken 0 "null"
    PurIdentityServer.Sample.tokens.config.issuer =
      .ok (some ((claimsOf "null").payload "j")) := by rfl

/-- The profile of every end-user. -/
def profile : Members :=
  [("verification", .obj [("trust_framework", .str "de_aml")]),
    ("claims", .obj [("name", .str "Alice")])]

def userinfo : UserInfoUseCase where
  identityAssurance := some
    { platform := platform, claims := some fun _ => .ok [(verifiedClaimsMember, .obj profile)] }

end DeferredSample

open DeferredSample in
/-- A request that names a claim is evaluated the same. -/
theorem deferred_agrees_iff_named :
    userinfo.verifiedClaims ((claimsOf "named").payload "j") "alice" =
      verifiedClaimsOf userinfo.identityAssurance (requestOf "named") .userinfo "alice" := by
  refine (deferred_agrees_iff (issuedFor "named") (signed "named") accepted_named userinfo
    "alice").mpr ?_
  rintro ⟨hnull, _⟩
  cases hnull

open DeferredSample in
/-- A `null` request, which the `claims` parameter admits, is served directly and not from
the access token issued for it. -/
theorem null_request_lost :
    parseClaimsParameter platform "null" = some (requestOf "null") ∧
    IssuedFor (requestOf "null") (claimsOf "null") ∧
    manager.validateAccessToken 0 "null" PurIdentityServer.Sample.tokens.config.issuer =
      .ok (some ((claimsOf "null").payload "j")) ∧
    userinfo.verifiedClaims ((claimsOf "null").payload "j") "alice" = .ok none ∧
    verifiedClaimsOf userinfo.identityAssurance (requestOf "null") .userinfo "alice" =
      .ok (some [("verification", .obj [("trust_framework", .str "de_aml")]),
        ("claims", .obj [])]) :=
  ⟨rfl, issuedFor "null", accepted_null, rfl, rfl⟩

end PurIdentityServer

import PurIdentityServer.Application.MdocIssuance
import PurIdentityServer.Application.TokenAcceptance
import PurIdentityServer.Lib.JsonText

/-!
# CredentialIssuance — what a credential request is answered with

A request that passes the checks of `/credential` is granted a subject, the
keys of its proofs and a configuration (`credentialGrant`). From these
`_issue` makes one credential for each key: an mdoc, which takes nothing of
the subject, or an SD-JWT, which carries it as its `sub`
(`mem_issueCredential`).
-/

namespace PurIdentityServer

open Effects

/-! ## The credentials -/

/-- `CREDENTIAL_CONFIGURATION_ID` -/
def credentialConfigurationId : String := "puridentityserver-sdjwt-vc"

/-- `MDOC_CREDENTIAL_CONFIGURATION_ID` -/
def mdocCredentialConfigurationId : String := "puridentityserver-mso-mdoc"

/-- `_SELECTIVE_CLAIMS` -/
def selectiveClaims : List (String × String) :=
  [("given_name", "Alice"), ("family_name", "Martin")]

/-- `credential_vct` -/
def credentialVct (issuer : String) : String := Text.rstripSlash issuer ++ "/credentials/example"

/-- `json.dumps` of a list of texts, without spaces. -/
def dumpsTexts (values : List String) : String :=
  let quoted := values.map fun value => JsonText.quote value.toList
  String.ofList ('[' :: (List.intercalate [','] quoted ++ [']']))

/-- base64url of an ASCII text, without padding. -/
def encodedText (text : String) : String :=
  String.ofList (Base64.rstripPad (Base64.urlsafeB64encode text.toUTF8.toList))

/-- An SD-JWT, before it is signed. -/
structure SdJwtVc where
  payload : Members
  disclosures : List String

/-- A credential a wallet receives. -/
inductive Credential (κ : Type) where
  | sdJwt (vc : SdJwtVc) (combined : String)
  | mdoc (document : Mdoc.IssuerSigned κ)

namespace Credential

variable {κ : Type}

/-- The published configuration whose format the credential has. -/
def configuration : Credential κ → String
  | sdJwt _ _ => credentialConfigurationId
  | mdoc _ => mdocCredentialConfigurationId

/-- Whom the credential names. -/
def subject : Credential κ → Option String
  | sdJwt vc _ => (vc.payload.get "sub").bind Json.asStr
  | mdoc _ => none

end Credential

/-! ## What a request is granted -/

/-- What a credential is issued for. -/
structure CredentialGrant where
  subject : String
  bindings : List Members
  configuration : String

namespace ResourceServer

variable {κ : Type} (server : ResourceServer κ)

/-- `issue_credential` up to `_issue`. -/
def credentialGrant (now : Instant) (request : BearerRequest) (target : CredentialTarget) :
    AccessResult CredentialGrant := do
  let claims ← server.validated now request.accessToken server.credentialIssuer
    invalidAccessTokenError
  check (if server.dpopAuthorized claims request then none
    else some ⟨"invalid_token", "preuve DPoP absente ou non conforme au jeton", "", 401⟩)
  check (if server.credentialSubject claims = "" then
    some ⟨"invalid_token", "access token sans sujet", "", 401⟩ else none)
  let configuration ← orRefuseAccess (server.resolveRequestedConfiguration claims target)
  let bindings ← orRefuseAccess (server.bindingKeys target.proofs)
  .ok ⟨server.credentialSubject claims, bindings, configuration⟩

/-- The endpoint issues what the request is granted. -/
theorem issueCredential_eq (now : Instant) (notificationId : String) (request : BearerRequest)
    (target : CredentialTarget) :
    server.issueCredential now notificationId request target =
      (do
        let grant ← server.credentialGrant now request target
        let issued ← orRefuseAccess (server.issue grant.subject grant.bindings
          grant.configuration)
        .ok (.credential (Dict.set issued "notification_id" (.str notificationId)))) := by
  unfold issueCredential credentialGrant
  simp only [bind_assoc]
  rfl

variable {server} {now : Instant} {request : BearerRequest} {target : CredentialTarget}
  {grant : CredentialGrant}

/-- What is granted is read off the claims of the token. -/
theorem credentialGrant_ok (h : server.credentialGrant now request target = .ok grant) :
    ∃ claims, server.tokens.jwt.payload request.accessToken = some claims ∧
      grant.subject = server.credentialSubject claims ∧
      server.resolveRequestedConfiguration claims target = .ok grant.configuration := by
  unfold credentialGrant at h
  simp only [bind_eq_ok, validated_eq_ok, orRefuseAccess_eq_ok] at h
  obtain ⟨claims, hvalidate, -, -, -, -, configuration, hconfiguration, bindings, -, hgrant⟩ := h
  cases hgrant
  exact ⟨claims, TokenManager.validate_payload hvalidate, rfl, hconfiguration⟩

/-- A request that names a configuration by its identifier names a supported one. -/
theorem requestedConfiguration_ok {configuration : String}
    (h : requestedConfiguration target = .ok configuration) :
    target.configurationId = some configuration ∧
      configuration ∈ supportedCredentialConfigurationIds := by
  unfold requestedConfiguration at h
  split at h
  · cases h
  split at h
  · cases h
  · rename_i requested hrequested
    obtain ⟨hsupported, heq⟩ := guard_eq_ok.mp h
    cases heq
    exact ⟨hrequested, not_not.mp hsupported⟩

/-- Without `authorization_details` in the token, the request names the configuration. -/
theorem resolveRequestedConfiguration_scope {claims : Members} {configuration : String}
    (hdetails : claims.get "authorization_details" = none)
    (h : server.resolveRequestedConfiguration claims target = .ok configuration) :
    target.configurationId = some configuration ∧
      configuration ∈ supportedCredentialConfigurationIds := by
  unfold resolveRequestedConfiguration at h
  simp only [hdetails] at h
  obtain ⟨resolved, hresolved, h⟩ := bind_eq_ok.mp h
  have hconfiguration : resolved = configuration := by
    split at h
    · cases h
    · cases h
      rfl
  subst hconfiguration
  split at hresolved
  · cases hresolved
  · exact requestedConfiguration_ok hresolved

end ResourceServer

/-! ## The issuance -/

/-- `OID4VCIIssuerUseCase`, apart from the checks on the token and the proofs. -/
structure CredentialIssuer (κ μ : Type) where
  resources : ResourceServer κ
  mdoc : Mdoc.MdocPlatform μ
  /-- the payload signed with the first active key, with the header of an SD-JWT -/
  signVc : Members → Raising String
  /-- the `n`-th salt -/
  salt : Nat → String

/-- What the issuer keeps: its mdoc keys, and the salts drawn. -/
structure IssuerState (μ : Type) where
  mdoc : Mdoc.MdocIssuer μ
  salts : Nat := 0

namespace CredentialIssuer

variable {κ μ : Type} (issuer : CredentialIssuer κ μ)

def name : String := issuer.resources.credentialIssuer

/-- The claims to disclose, each as a salted text. -/
def disclosed (salts : Nat) : List String :=
  selectiveClaims.zipIdx.map fun claim =>
    dumpsTexts [issuer.salt (salts + claim.2), claim.1.1, claim.1.2]

/-- The two decoys. -/
def decoys (salts : Nat) : List String :=
  (List.range 2).map fun n => dumpsTexts [issuer.salt (salts + selectiveClaims.length + n)]

/-- The salts of one SD-JWT. -/
def saltsPerVc : Nat := selectiveClaims.length + 2

/-- One turn of the loop of `_issue_sd_jwt`, before the signature. -/
def sdJwtVc (subject : String) (roundedNow : Int) (salts : Nat) (binding : Option Members) :
    SdJwtVc where
  payload :=
    [("iss", .str issuer.name), ("sub", .str subject), ("iat", numberClaim roundedNow),
      ("exp", numberClaim (roundedNow + 3600)), ("vct", .str (credentialVct issuer.name)),
      ("_sd", .arr ((issuer.disclosed salts ++ issuer.decoys salts).map fun text =>
        .str (issuer.resources.platform.sha256Base64Url text))),
      ("_sd_alg", .str "sha-256")] ++
      match binding with
      | some jwk => [("cnf", .obj [("jwk", .obj jwk)])]
      | none => []
  disclosures := (issuer.disclosed salts).map encodedText

/-- The loop of `_issue_sd_jwt`. -/
def issueSdJwts (subject : String) (roundedNow : Int) :
    Nat → List (Option Members) → Raising (List (Credential μ))
  | _, [] => .ok []
  | salts, binding :: rest => do
      let vc := issuer.sdJwtVc subject roundedNow salts binding
      let credential ← issuer.signVc vc.payload
      let others ← issueSdJwts subject roundedNow (salts + saltsPerVc) rest
      .ok (.sdJwt vc (credential ++ "~" ++ Text.join "~" vc.disclosures ++ "~") :: others)

/-- `_issue_sd_jwt` -/
def issueSdJwt (now : Instant) (subject : String) (bindings : List Members) (salts : Nat) :
    Raising (List (Credential μ)) :=
  issuer.issueSdJwts subject (Instant.epoch now / 3600 * 3600) salts
    (if bindings = [] then [none] else bindings.map some)

/-- What `_issue_mdoc` answers. -/
def ofMdocAnswer : Mdoc.MdocAnswer μ → AccessResult (List (Credential μ))
  | .credentials documents => .ok (documents.map Credential.mdoc)
  | .credentialError error description => deny (ResourceServer.credentialError error description)
  | .raised => .error (.raised (.other "ValueError"))

/-- `_issue` -/
def issue (now : Instant) (grant : CredentialGrant) (s : IssuerState μ) :
    AccessResult (List (Credential μ)) × IssuerState μ :=
  if grant.configuration = mdocCredentialConfigurationId then
    let (answer, mdoc) := Mdoc.issueMdoc issuer.mdoc issuer.name now (some grant.bindings) s.mdoc
    (ofMdocAnswer answer, { s with mdoc })
  else
    (orInterrupt (issuer.issueSdJwt now grant.subject grant.bindings s.salts),
      { s with salts := s.salts + saltsPerVc * max 1 grant.bindings.length })

/-- `issue_credential`, with the credentials as they are made. -/
def issueCredential (now : Instant) (request : BearerRequest) (target : CredentialTarget)
    (s : IssuerState μ) : AccessResult (List (Credential μ)) × IssuerState μ :=
  match issuer.resources.credentialGrant now request target with
  | .ok grant => issuer.issue now grant s
  | .error e => (.error e, s)

theorem sdJwtVc_subject (subject : String) (roundedNow : Int) (salts : Nat)
    (binding : Option Members) :
    ((issuer.sdJwtVc subject roundedNow salts binding).payload.get "sub").bind Json.asStr =
      some subject := rfl

variable {issuer}

theorem mem_issueSdJwts {subject : String} {roundedNow : Int} {salts : Nat}
    {bindings : List (Option Members)} {credentials : List (Credential μ)}
    (h : issuer.issueSdJwts subject roundedNow salts bindings = .ok credentials) :
    ∀ credential ∈ credentials, credential.configuration = credentialConfigurationId ∧
      credential.subject = some subject := by
  induction bindings generalizing salts credentials with
  | nil =>
      cases h
      intro credential hmem
      cases hmem
  | cons binding rest ih =>
      unfold issueSdJwts at h
      obtain ⟨text, -, h⟩ := bind_eq_ok.mp h
      obtain ⟨others, hothers, h⟩ := bind_eq_ok.mp h
      cases h
      intro credential hmem
      rcases List.mem_cons.mp hmem with rfl | hmem
      · exact ⟨rfl, issuer.sdJwtVc_subject subject roundedNow salts binding⟩
      · exact ih hothers credential hmem

/-- An mdoc names nobody, an SD-JWT the subject; either has the format asked for. -/
theorem mem_issue {now : Instant} {grant : CredentialGrant} {s : IssuerState μ}
    {credentials : List (Credential μ)} (h : (issuer.issue now grant s).1 = .ok credentials)
    (hsupported : grant.configuration ∈ supportedCredentialConfigurationIds) :
    ∀ credential ∈ credentials, credential.configuration = grant.configuration ∧
      credential.subject =
        if grant.configuration = mdocCredentialConfigurationId then none
        else some grant.subject := by
  intro credential hmem
  unfold issue at h
  split at h
  · rename_i hmdoc
    rw [if_pos hmdoc, hmdoc]
    dsimp only at h
    cases hanswer : (Mdoc.issueMdoc issuer.mdoc issuer.name now (some grant.bindings)
        s.mdoc).1 with
    | credentials documents =>
        rw [hanswer] at h
        cases h
        obtain ⟨document, -, rfl⟩ := List.mem_map.mp hmem
        exact ⟨rfl, rfl⟩
    | credentialError error description =>
        rw [hanswer] at h
        exact absurd h deny_ne_ok
    | raised =>
        rw [hanswer] at h
        cases h
  · rename_i hother
    have hconfiguration : grant.configuration = credentialConfigurationId := by
      rcases List.mem_cons.mp hsupported with heq | hsupported
      · exact heq
      · exact absurd (List.mem_singleton.mp hsupported) hother
    rw [if_neg hother, hconfiguration]
    exact mem_issueSdJwts (orInterrupt_eq_ok.mp h) credential hmem

/-- The credentials of an answered request, when the token has no
`authorization_details`: those of the configuration it names, for the subject of the token. -/
theorem mem_issueCredential {now : Instant} {request : BearerRequest} {target : CredentialTarget}
    {s : IssuerState μ} {credentials : List (Credential μ)} {claims : Members}
    (hpayload : issuer.resources.tokens.jwt.payload request.accessToken = some claims)
    (hdetails : claims.get "authorization_details" = none)
    (h : (issuer.issueCredential now request target s).1 = .ok credentials) :
    ∀ credential ∈ credentials, target.configurationId = some credential.configuration ∧
      credential.subject =
        if credential.configuration = mdocCredentialConfigurationId then none
        else some (issuer.resources.credentialSubject claims) := by
  unfold issueCredential at h
  split at h
  · rename_i grant hgrant
    obtain ⟨found, hfound, hsubject, hresolved⟩ := ResourceServer.credentialGrant_ok hgrant
    cases hpayload.symm.trans hfound
    obtain ⟨hrequested, hsupported⟩ :=
      ResourceServer.resolveRequestedConfiguration_scope hdetails hresolved
    intro credential hmem
    obtain ⟨hconfiguration, hnamed⟩ := mem_issue h hsupported credential hmem
    rw [hconfiguration, ← hsubject]
    exact ⟨hrequested, hnamed⟩
  · cases h

end CredentialIssuer

end PurIdentityServer

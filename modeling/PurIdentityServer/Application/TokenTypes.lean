import PurIdentityServer.Application.Token
import PurIdentityServer.Infrastructure.Tokens

/-!
# TokenTypes — which tokens the two validators take

The server signs access tokens, `id_token`s, logout tokens, userinfo
responses, backchannel notifications, OpenID 2.0 states and handles and
credential nonces with one family of keys, and neither validator looks at
anything that would tell one from another. A token is refused by the
validator of another kind exactly when its registered claims do not suit
that validator, which for a token that has not expired comes down to its
issuer (`separated_iff`).
-/

namespace PurIdentityServer

open Effects

/-- An integer claim. -/
def numberClaim (n : Int) : Json := .num (toString n)

/-- A claim that is there when its text is not empty. -/
def textClaim (name value : String) : Members :=
  if value = "" then [] else [(name, .str value)]

/-! ## The payloads -/

/-- The payload of `create_id_token`. -/
def IdTokenClaims.payload (claims : IdTokenClaims) : Members :=
  Dict.setDefaults
    ([("iss", .str claims.issuer), ("sub", .str claims.subject), ("aud", .str claims.audience),
        ("exp", numberClaim claims.expiresAt), ("iat", numberClaim claims.issuedAt)]
      ++ textClaim "nonce" claims.nonce ++ textClaim "sid" claims.sessionId
      ++ textClaim "at_hash" claims.atHash ++ textClaim "c_hash" claims.cHash
      ++ textClaim "s_hash" claims.sHash
      ++ (if claims.authTime = 0 then [] else [("auth_time", numberClaim claims.authTime)]))
    claims.additionalClaims

def Audience.claim : Audience → Json
  | .one name => .str name
  | .many names => .arr (names.map Json.str)

/-- The payload of `create_access_token`, with the `jti` it draws. -/
def AccessTokenClaims.payload (claims : AccessTokenClaims) (jti : String) : Members :=
  Dict.setDefaults
    [("iss", .str claims.issuer), ("sub", .str claims.subject), ("aud", claims.audience.claim),
      ("exp", numberClaim claims.expiresAt), ("iat", numberClaim claims.issuedAt),
      ("jti", .str jti), ("scope", .str (Text.join " " (Text.sorted claims.scopes)))]
    claims.additionalClaims

/-- The payload of `create_userinfo_jwt`. -/
def signedUserinfoPayload (issuer audience : String) (now : Int) (claims : Members) : Members :=
  Dict.setDefaults [("iss", .str issuer), ("aud", .str audience), ("iat", numberClaim now)] claims

/-- `OPENID20_STATE_TTL_SECONDS` -/
def openid20StateTtlSeconds : Int := 600

/-- `C_NONCE_LIFETIME` -/
def cNonceLifetime : Int := 300

/-- The payload of `OpenID20ProviderUseCase._sign`. -/
def openid20Payload (issuer : String) (now : Int) (payload : Members) : Members :=
  payload ++ [("iss", .str issuer), ("iat", numberClaim now),
    ("exp", numberClaim (now + openid20StateTtlSeconds))]

/-- What the server signs with its managed keys: the eight kinds, and anything else. -/
inductive ServerToken where
  | accessToken (claims : AccessTokenClaims) (jti : String)
  | idToken (claims : IdTokenClaims)
  | logoutToken (issuer subject audience sid : String) (expiresAt issuedAt : Int) (jwtId : String)
  | userinfo (issuer audience : String) (now : Int) (claims : Members)
  | cibaPush (issuer audience authReqId jti : String) (now : Int) (response : Option TokenResponse)
  | openid20State (issuer namespaceUri realm returnTo : String) (now : Int)
  | openid20Handle (issuer subject namespaceUri realm claimedId : String) (now : Int)
  | cNonce (issuer jti : String) (now : Int)
  | other (payload : Members)

namespace ServerToken

/-- The event of `create_logout_token`. -/
def logoutEvent : Members :=
  [("events", .obj [("http://schemas.openid.net/event/backchannel-logout", .obj [])])]

/-- The signed payload. -/
def payload : ServerToken → Members
  | accessToken claims jti => claims.payload jti
  | idToken claims => claims.payload
  | logoutToken issuer subject audience sid expiresAt issuedAt jwtId =>
      [("iss", .str issuer), ("aud", .str audience), ("sub", .str subject),
        ("iat", numberClaim issuedAt), ("exp", numberClaim expiresAt), ("jti", .str jwtId)]
        ++ logoutEvent ++ textClaim "sid" sid
  | userinfo issuer audience now claims => signedUserinfoPayload issuer audience now claims
  | cibaPush issuer audience authReqId jti now response =>
      signedUserinfoPayload issuer audience now
        ([("auth_req_id", .str authReqId), ("exp", numberClaim (now + 300)), ("jti", .str jti)]
          ++ (response.map TokenUseCase.notifiedTokens).getD [])
  | openid20State issuer namespaceUri realm returnTo now =>
      openid20Payload issuer now
        [("kind", .str "state"), ("ns", .str namespaceUri), ("realm", .str realm),
          ("return_to", .str returnTo)]
  | openid20Handle issuer subject namespaceUri realm claimedId now =>
      openid20Payload issuer now
        [("kind", .str "handle"), ("sub", .str subject), ("ns", .str namespaceUri),
          ("realm", .str realm), ("claimed_id", .str claimedId)]
  | cNonce issuer jti now =>
      [("iss", .str issuer), ("iat", numberClaim now), ("exp", numberClaim (now + cNonceLifetime)),
        ("jti", .str jti)]
  | other payload => payload

/-- The issuer a producer was given, `none` for a payload of another producer. -/
def producerIssuer : ServerToken → Option String
  | accessToken claims _ => some claims.issuer
  | idToken claims => some claims.issuer
  | logoutToken issuer _ _ _ _ _ _ => some issuer
  | userinfo issuer _ _ _ => some issuer
  | cibaPush issuer _ _ _ _ _ => some issuer
  | openid20State issuer _ _ _ _ => some issuer
  | openid20Handle issuer _ _ _ _ _ => some issuer
  | cNonce issuer _ _ => some issuer
  | other _ => none

/-- No claim that a producer is handed replaces its issuer. -/
theorem payload_issuer (token : ServerToken) {issuer : String}
    (h : token.producerIssuer = some issuer) :
    Dict.get token.payload "iss" = some (.str issuer) := by
  cases token with
  | other payload => cases h
  | idToken claims =>
      cases h
      exact Dict.get_setDefaults_of_some rfl _
  | accessToken claims jti =>
      cases h
      exact Dict.get_setDefaults_of_some rfl _
  | userinfo issuer audience now claims =>
      cases h
      exact Dict.get_setDefaults_of_some rfl _
  | cibaPush issuer audience authReqId jti now response =>
      cases h
      exact Dict.get_setDefaults_of_some rfl _
  | logoutToken issuer subject audience sid expiresAt issuedAt jwtId =>
      cases h
      rfl
  | openid20State issuer namespaceUri realm returnTo now =>
      cases h
      rfl
  | openid20Handle issuer subject namespaceUri realm claimedId now =>
      cases h
      rfl
  | cNonce issuer jti now =>
      cases h
      rfl

end ServerToken

/-! ## The validators -/

/-- The two validators of the token manager. -/
inductive Validator where
  | accessToken
  | idToken (allowExpired : Bool)

namespace Validator

variable {κ : Type}

def validate (manager : TokenManager κ) (now : Instant) (token issuer : String) :
    Validator → Except Raised (Option Members)
  | accessToken => manager.validateAccessToken now token issuer
  | idToken allowExpired => manager.validateIdToken now token issuer allowExpired

/-- The token is of the kind the validator is for. -/
def Produces : Validator → ServerToken → Prop
  | accessToken, .accessToken _ _ => True
  | idToken _, .idToken _ => True
  | _, _ => False

/-- The validator accepts a token of its own kind only. -/
def Separates (validator : Validator) (manager : TokenManager κ) (now : Instant)
    (token issuer : String) (produced : ServerToken) : Prop :=
  (∃ claims, validator.validate manager now token issuer = .ok (some claims)) →
    validator.Produces produced

theorem validate_signed {manager : TokenManager κ} {validator : Validator} {now : Instant}
    {token issuer : String} {produced : ServerToken}
    (hsigned : manager.Signed token produced.payload)
    (hunexpired : PyJwt.validateExp produced.payload now 0 = .ok ()) :
    (∃ claims, validator.validate manager now token issuer = .ok (some claims)) ↔
      TokenManager.Registered now issuer produced.payload := by
  have hcase : ∀ allowExpired,
      (∃ claims, manager.validate now token issuer allowExpired = .ok (some claims)) ↔
        TokenManager.Registered now issuer produced.payload := by
    intro allowExpired
    rw [TokenManager.validate_signed hsigned]
    exact and_iff_left fun _ => hunexpired
  cases validator with
  | accessToken => exact hcase false
  | idToken allowExpired => exact hcase allowExpired

/-- A validator refuses a token of another kind that has not expired exactly when
its registered claims are not those it checks. -/
theorem separated_iff {manager : TokenManager κ} {token : String} {produced : ServerToken}
    (hsigned : manager.Signed token produced.payload) {now : Instant}
    (hunexpired : PyJwt.validateExp produced.payload now 0 = .ok ()) (validator : Validator)
    (issuer : String) :
    validator.Separates manager now token issuer produced ↔
      validator.Produces produced ∨ ¬TokenManager.Registered now issuer produced.payload := by
  unfold Separates
  rw [validate_signed hsigned hunexpired]
  constructor
  · intro hseparates
    by_cases hregistered : TokenManager.Registered now issuer produced.payload
    · exact .inl (hseparates hregistered)
    · exact .inr hregistered
  · rintro (hproduces | hunregistered) hregistered
    · exact hproduces
    · exact absurd hregistered hunregistered

/-- A token made for another issuer is separated from every kind. -/
theorem separated_of_issuer {manager : TokenManager κ} {token : String} {produced : ServerToken}
    (hsigned : manager.Signed token produced.payload) {now : Instant}
    (hunexpired : PyJwt.validateExp produced.payload now 0 = .ok ()) (validator : Validator)
    {issuer other : String} (hissuer : produced.producerIssuer = some other)
    (hne : other ≠ issuer) : validator.Separates manager now token issuer produced := by
  rw [separated_iff hsigned hunexpired]
  right
  intro hregistered
  have hget := hregistered.issuer
  rw [produced.payload_issuer hissuer] at hget
  cases hget
  exact hne rfl

end Validator

namespace ServerToken.Sample

/-! ## One key, three tokens

An access token, an `id_token` and a credential nonce, under the only key of the
server. -/

def header : Members := [("alg", .str "RS256"), ("kid", .str "k")]

def accessTokenOf : ServerToken := .accessToken
  { algorithm := .rs256, issuer := "https://op", subject := "alice", audience := .one "rp"
    expiresAt := 100, issuedAt := 0, scopes := ∅ } "j"

def idTokenOf : ServerToken := .idToken
  { algorithm := .rs256, issuer := "https://op", subject := "alice", audience := "rp"
    expiresAt := 100, issuedAt := 0 }

def nonceOf : ServerToken := .cNonce "https://op" "n" 0

def tokens : Dict String Members :=
  [("access", accessTokenOf.payload), ("id", idTokenOf.payload), ("nonce", nonceOf.payload)]

theorem no_import_raises (_jwk : Members) (h : false = true) : (none : Option Unit) = none := by
  cases h

def jwt : PyJwt Unit where
  header token := (Dict.get tokens token).map fun _ => header
  payload token := Dict.get tokens token
  signed token _ algorithms := (Dict.get tokens token).isSome && algorithms.contains "RS256"
  publicKey _ := none
  secretKey _ := ()
  importRaises_none := no_import_raises
  signed_algorithm := by
    intro token key algorithms h
    rw [Bool.and_eq_true] at h
    obtain ⟨claims, hclaims⟩ := Option.isSome_iff_exists.mp h.1
    exact ⟨header, "RS256", by rw [hclaims]; rfl, rfl, by simpa using h.2⟩

def manager : TokenManager Unit where
  jwt := jwt
  keys := ⟨[⟨.rs256, "k", (), true⟩], by decide⟩
  kid_ne := by decide

theorem signed_idToken : manager.Signed "id" idTokenOf.payload where
  signed := ⟨⟨.rs256, "k", (), true⟩, by simp [manager], header, rfl, rfl, rfl, rfl⟩
  payload_eq := rfl

theorem signed_nonce : manager.Signed "nonce" nonceOf.payload where
  signed := ⟨⟨.rs256, "k", (), true⟩, by simp [manager], header, rfl, rfl, rfl, rfl⟩
  payload_eq := rfl

theorem accepts_idToken :
    ∃ claims, manager.validateAccessToken (seconds 1) "id" "https://op" = .ok (some claims) :=
  ⟨_, rfl⟩

end ServerToken.Sample

open ServerToken.Sample in
/-- An `id_token` is accepted as an access token. -/
theorem Validator.idToken_not_separated :
    manager.Signed "id" idTokenOf.payload ∧
      PyJwt.validateExp idTokenOf.payload (seconds 1) 0 = .ok () ∧
      ¬Validator.accessToken.Separates manager (seconds 1) "id" "https://op" idTokenOf :=
  ⟨signed_idToken, rfl, fun h => h accepts_idToken⟩

open ServerToken.Sample in
/-- The equivalence on a nonce and the two validators. -/
theorem Validator.separated_iff_nonce :
    (Validator.accessToken.Separates manager (seconds 1) "nonce" "https://other" nonceOf ↔
      Validator.accessToken.Produces nonceOf ∨
        ¬TokenManager.Registered (seconds 1) "https://other" nonceOf.payload) ∧
    ((Validator.idToken true).Separates manager (seconds 1) "nonce" "https://op" nonceOf ↔
      (Validator.idToken true).Produces nonceOf ∨
        ¬TokenManager.Registered (seconds 1) "https://op" nonceOf.payload) :=
  ⟨Validator.separated_iff signed_nonce rfl _ _, Validator.separated_iff signed_nonce rfl _ _⟩

end PurIdentityServer

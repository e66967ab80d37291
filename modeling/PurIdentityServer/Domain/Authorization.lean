import PurIdentityServer.Domain.Text

/-!
# Authorization — the entities of the authorization perimeter

Clients, authorization codes, refresh tokens, device and backchannel
sessions, pushed requests and consents, with the fields the modelled use
cases read or write. Scopes are plain strings (`Scope` is a `str`), sets
of them are finsets, and each enumeration is an inductive type.
-/

namespace PurIdentityServer

/-! ## Scopes and enumerations -/

abbrev Scope := String

namespace Scope

def openid : Scope := "openid"
def offlineAccess : Scope := "offline_access"
def openid20 : Scope := "openid2"
def oid4vci : Scope := "openid4vci"

/-- `Scope.from_space_separated`. -/
def fromSpaceSeparated (value : String) : Finset Scope := (Text.split value).toFinset

end Scope

inductive ResponseMode where
  | query | fragment | formPost | jwt
  deriving DecidableEq, Repr

inductive ClientType where
  | confidential | publicClient
  deriving DecidableEq, Repr

inductive SubjectType where
  | publicSubject | pairwise | ephemeral
  deriving DecidableEq, Repr

inductive TokenEndpointAuthMethod where
  | none | clientSecretBasic | clientSecretPost | clientSecretJwt | privateKeyJwt
  | tlsClientAuth | selfSignedTlsClientAuth
  deriving DecidableEq, Repr

namespace ClientType

def value : ClientType → String
  | .confidential => "confidential"
  | .publicClient => "public"

def ofValue? (s : String) : Option ClientType :=
  [confidential, publicClient].find? fun t => t.value = s

theorem ofValue?_value (t : ClientType) : ofValue? t.value = some t := by
  cases t <;> rfl

end ClientType

namespace SubjectType

def value : SubjectType → String
  | .publicSubject => "public"
  | .pairwise => "pairwise"
  | .ephemeral => "ephemeral"

def ofValue? (s : String) : Option SubjectType :=
  [publicSubject, pairwise, ephemeral].find? fun t => t.value = s

theorem ofValue?_value (t : SubjectType) : ofValue? t.value = some t := by
  cases t <;> rfl

end SubjectType

namespace TokenEndpointAuthMethod

def value : TokenEndpointAuthMethod → String
  | .none => "none"
  | .clientSecretBasic => "client_secret_basic"
  | .clientSecretPost => "client_secret_post"
  | .clientSecretJwt => "client_secret_jwt"
  | .privateKeyJwt => "private_key_jwt"
  | .tlsClientAuth => "tls_client_auth"
  | .selfSignedTlsClientAuth => "self_signed_tls_client_auth"

def all : List TokenEndpointAuthMethod :=
  [none, clientSecretBasic, clientSecretPost, clientSecretJwt, privateKeyJwt, tlsClientAuth,
    selfSignedTlsClientAuth]

def ofValue? (s : String) : Option TokenEndpointAuthMethod := all.find? fun m => m.value = s

theorem ofValue?_value (m : TokenEndpointAuthMethod) : ofValue? m.value = some m := by
  cases m <;> rfl

end TokenEndpointAuthMethod

/-- A client certificate presented over mutual TLS. -/
structure ClientCertificate where
  der : Option (List UInt8) := none
  subjectDn : String := ""
  isSelfSigned : Bool := false

/-! ## Clients -/

/-- A `datetime`: the reading of a clock and, of an aware one, its offset from UTC. -/
structure Datetime where
  reading : Instant
  offset : Option Int := some 0
  deriving DecidableEq, Repr

namespace Datetime

/-- The moment an aware date names. -/
def moment (date : Datetime) : Option Instant := date.offset.map (date.reading - ·)

/-- `==` of two dates: by their moments, and a naive date is no aware one. -/
def Same (a b : Datetime) : Prop :=
  match a.moment, b.moment with
  | some x, some y => x = y
  | none, none => a.reading = b.reading
  | _, _ => False

end Datetime

/-- What a client changes of the password policy of the server. -/
structure PasswordPolicyPatch where
  minLength : Option Int := none
  maxLength : Option Int := none
  minUppercase : Option Int := none
  minLowercase : Option Int := none
  minDigits : Option Int := none
  minSpecial : Option Int := none
  denyCommonPasswords : Option Bool := none
  forbidEmailContainment : Option Bool := none
  forbidSequences : Option Bool := none
  historyDepth : Option Int := none
  deriving DecidableEq, Repr

structure Client where
  clientId : String
  redirectUris : Finset String := ∅
  postLogoutRedirectUris : Finset String := ∅
  webOrigins : Finset String := ∅
  scopes : Finset Scope := {Scope.openid}
  clientType : ClientType := .publicClient
  clientSecretHash : String := ""
  registrationAccessTokenHash : String := ""
  createdAt : Datetime := { reading := 0 }
  isActive : Bool := true
  sessionLifetimeSeconds : Option Int := none
  accessTokenLifetimeSeconds : Option Int := none
  authorizationCodeLifetimeSeconds : Option Int := none
  refreshTokenLifetimeSeconds : Option Int := none
  parRequired : Bool := false
  fapiEnabled : Bool := false
  fapi2Enabled : Bool := false
  federated : Bool := false
  requireConsent : Bool := false
  requireDpop : Bool := false
  tokenEndpointAuthMethod : Option TokenEndpointAuthMethod := none
  clientSecretCiphertext : String := ""
  jwksUri : String := ""
  jwks : List Json := []
  tlsClientAuthSubjectDn : String := ""
  tlsClientCertificateHash : String := ""
  tlsClientCertificateBoundAccessTokens : Bool := false
  idTokenSignedResponseAlg : String := ""
  idTokenEncryptedResponseAlg : String := ""
  idTokenEncryptedResponseEnc : String := ""
  authorizationSignedResponseAlg : String := ""
  userinfoSignedResponseAlg : String := ""
  frontchannelLogoutUri : String := ""
  frontchannelLogoutSessionRequired : Bool := false
  backchannelLogoutUri : String := ""
  backchannelLogoutSessionRequired : Bool := false
  backchannelTokenDeliveryMode : String := ""
  backchannelClientNotificationEndpoint : String := ""
  backchannelUserCodeParameter : Bool := false
  backchannelAuthenticationRequestSigningAlg : String := ""
  bindingMessageMaxLength : Option Int := none
  deviceCodeLifetimeSeconds : Option Int := none
  deviceCodeIntervalSeconds : Option Int := none
  passwordPolicy : PasswordPolicyPatch := {}
  subjectType : SubjectType := .publicSubject
  sectorIdentifierUri : String := ""

namespace Client

/-- `Client.effective_auth_method`. -/
def effectiveAuthMethod (c : Client) : TokenEndpointAuthMethod :=
  match c.tokenEndpointAuthMethod with
  | some method => method
  | none => if c.clientType = .publicClient then .none else .clientSecretBasic

/-- The host names of a list of URIs, the URIs without a host left out. -/
def hostsOf (p : Platform) : List String → Except Raised (Finset String)
  | [] => .ok ∅
  | uri :: rest => do
      let parts ← p.urlsplit uri
      let hosts ← hostsOf p rest
      match parts.hostname with
      | some host => .ok (if host = "" then hosts else insert host hosts)
      | none => .ok hosts

/-- `Client.subject_sector`. -/
def subjectSector (p : Platform) (c : Client) : Except Raised String := do
  if c.sectorIdentifierUri ≠ "" then
    let parts ← p.urlsplit c.sectorIdentifierUri
    .ok (parts.hostname.getD "")
  else
    let hosts ← hostsOf p (Text.sorted c.redirectUris)
    match Text.sorted hosts with
    | [host] => .ok host
    | _ => .ok ""

end Client

/-- A registry of clients: it answers a client under its own name. -/
structure ClientReader where
  findById : String → Option Client
  find_id : ∀ clientId client, findById clientId = some client → client.clientId = clientId

/-- `resolve_lifetime_seconds`. -/
def resolveLifetimeSeconds (configured : Option Int) (default : Int) : Int :=
  match configured with
  | some n => if n > 0 then n else default
  | none => default

/-! ## Grants -/

structure AuthorizationCode where
  code : String
  clientId : String := ""
  redirectUri : String := ""
  subject : String := ""
  sessionId : String := ""
  subjectMaterial : String := ""
  scopes : Finset Scope := ∅
  codeChallenge : String := ""
  codeChallengeMethod : String := "S256"
  nonce : String := ""
  authTime : Int := 0
  acr : String := ""
  claims : String := ""
  openid2Realm : String := ""
  expiresAt : Instant
  isConsumed : Bool := false
  accessTokenHash : String := ""
  accessTokenExpiresAt : Option Instant := none
  refreshTokenHash : String := ""
  dpopJkt : String := ""
  resourceUris : List String := []
  preAuthorized : Bool := false
  txCodeHash : String := ""
  authorizationDetails : String := ""
  deriving DecidableEq

structure RefreshToken where
  tokenHash : String
  clientId : String := ""
  subject : String := ""
  subjectMaterial : String := ""
  scopes : Finset Scope := ∅
  expiresAt : Instant
  isConsumed : Bool := false
  dpopJkt : String := ""
  resourceUris : List String := []
  tlsCertHash : String := ""
  deriving DecidableEq

/-- `DeviceAuthorizationStatus` and `BackchannelAuthenticationStatus`. -/
inductive DecisionStatus where
  | pending | approved | denied
  deriving DecidableEq, Repr

structure DeviceAuthorization where
  deviceCodeHash : String
  userCode : String
  clientId : String
  scopes : Finset Scope := ∅
  subject : String := ""
  status : DecisionStatus := .pending
  expiresAt : Instant
  interval : Int := 5
  lastPolledAt : Option Instant := none
  deriving DecidableEq

def cibaGrantType : String := "urn:openid:params:grant-type:ciba"

def preAuthorizedCodeGrantType : String :=
  "urn:ietf:params:oauth:grant-type:pre-authorized_code"

def deviceCodeGrantType : String := "urn:ietf:params:oauth:grant-type:device_code"

structure BackchannelAuthenticationRequest where
  authReqIdHash : String
  clientId : String
  scopes : Finset Scope := ∅
  subject : String := ""
  status : DecisionStatus := .pending
  deliveryMode : String := "poll"
  clientNotificationToken : String := ""
  clientNotificationEndpoint : String := ""
  bindingMessage : String := ""
  acr : String := ""
  userCode : String := ""
  interval : Int := 5
  lastPolledAt : Option Instant := none
  expiresAt : Instant
  resourceUris : List String := []
  deriving DecidableEq

/-- The URN prefix of the references issued by `POST /par`. -/
def pushedRequestUriPrefix : String := "urn:ietf:params:oauth:request_uri:"

/-- A pushed authorization request; `params` is the dictionary of the
request, read through `PushedAuthorization.get`. -/
structure PushedAuthorization where
  requestUri : String
  clientId : String := ""
  params : List (String × String) := []
  expiresAt : Instant
  isConsumed : Bool := false
  deriving DecidableEq

structure Consent where
  subject : String
  clientId : String
  scopes : Finset Scope := ∅
  grantedAt : Instant
  authorizationDetails : Finset String := ∅
  deriving DecidableEq

/-- `Consent.covers`. -/
def Consent.covers (c : Consent) (requestedScopes : Finset Scope)
    (requestedDetails : Finset String) : Bool :=
  decide (requestedScopes ⊆ c.scopes) && decide (requestedDetails ⊆ c.authorizationDetails)

structure RevokedToken where
  tokenHash : String
  expiresAt : Instant
  deriving DecidableEq

structure DPoPReplay where
  jtiHash : String
  expiresAt : Instant
  deriving DecidableEq

/-! ## Resources -/

structure IdentityResource where
  name : String
  userClaims : Finset String := ∅

structure ApiResource where
  name : String
  scopes : Finset String := ∅
  indicator : String := ""

/-! ## Signing and encryption algorithms -/

inductive JWTAlgorithm where
  | rs256 | rs384 | rs512 | ps256 | ps384 | ps512 | es256 | es384 | es512
  | hs256 | hs384 | hs512 | none
  deriving DecidableEq, Repr

namespace JWTAlgorithm

/-- The value of the enumeration member. -/
def value : JWTAlgorithm → String
  | rs256 => "RS256" | rs384 => "RS384" | rs512 => "RS512"
  | ps256 => "PS256" | ps384 => "PS384" | ps512 => "PS512"
  | es256 => "ES256" | es384 => "ES384" | es512 => "ES512"
  | hs256 => "HS256" | hs384 => "HS384" | hs512 => "HS512"
  | none => "none"

def all : List JWTAlgorithm :=
  [rs256, rs384, rs512, ps256, ps384, ps512, es256, es384, es512, hs256, hs384, hs512,
    none]

/-- `JWTAlgorithm._value2member_map_.get`. -/
def ofValue? (s : String) : Option JWTAlgorithm := all.find? fun a => a.value = s

/-- `algorithm in SYMMETRIC_ALGORITHMS`. -/
def isSymmetric : JWTAlgorithm → Bool
  | hs256 | hs384 | hs512 => true
  | _ => false

theorem ofValue?_value (a : JWTAlgorithm) : ofValue? a.value = some a := by
  cases a <;> decide

end JWTAlgorithm

inductive JWEKeyManagementAlgorithm where
  | rsaOaep | rsaOaep256 | a128kw | a256kw | direct
  deriving DecidableEq, Repr

namespace JWEKeyManagementAlgorithm

def value : JWEKeyManagementAlgorithm → String
  | rsaOaep => "RSA-OAEP" | rsaOaep256 => "RSA-OAEP-256"
  | a128kw => "A128KW" | a256kw => "A256KW" | direct => "dir"

def ofValue? (s : String) : Option JWEKeyManagementAlgorithm :=
  [rsaOaep, rsaOaep256, a128kw, a256kw, direct].find? fun a => a.value = s

/-- `algorithm in ASYMMETRIC_ENCRYPTION_ALGORITHMS`. -/
def isAsymmetric : JWEKeyManagementAlgorithm → Bool
  | rsaOaep | rsaOaep256 => true
  | _ => false

end JWEKeyManagementAlgorithm

/-- The values of `JWEEncryptionMethod`. -/
def jweEncryptionMethods : List String :=
  ["A128CBC-HS256", "A192CBC-HS384", "A256CBC-HS512", "A128GCM", "A192GCM", "A256GCM"]

/-- `DEFAULT_ENCRYPTION_METHOD`. -/
def defaultEncryptionMethod : String := "A128CBC-HS256"

end PurIdentityServer

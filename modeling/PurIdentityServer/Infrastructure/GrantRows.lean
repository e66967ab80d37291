import PurIdentityServer.Infrastructure.Columns

/-!
# GrantRows — the rows of the grants and their columns

One row structure for each table of grants, with the declared types of its
text and integer columns, and the two conversions between a row and the
value of the domain. A value that was stored is read back as it was.
-/

namespace PurIdentityServer

open Effects

namespace DecisionStatus

/-- The value of a status of a session. -/
def value : DecisionStatus → String
  | .pending => "pending"
  | .approved => "approved"
  | .denied => "denied"

def all : List DecisionStatus := [.pending, .approved, .denied]

/-- The status of a value, unless the value names none. -/
def ofValue? (value : String) : Option DecisionStatus := all.find? fun s => s.value = value

theorem ofValue?_value (status : DecisionStatus) : ofValue? status.value = some status := by
  cases status <;> rfl

end DecisionStatus

/-- A column that holds the value of a status. -/
abbrev StatusColumn := EnumColumn DecisionStatus.ofValue?

def StatusColumn.write (status : DecisionStatus) : StatusColumn :=
  EnumColumn.write DecisionStatus.ofValue?_value status

theorem StatusColumn.read_write (status : DecisionStatus) : (write status).read = status :=
  EnumColumn.read_write DecisionStatus.ofValue?_value status

/-! ## Authorization codes -/

structure AuthorizationCodeRow where
  code : String
  clientId : String
  redirectUri : String
  subject : String
  sessionId : String
  subjectMaterial : String
  scopes : List String
  codeChallenge : String
  codeChallengeMethod : String
  nonce : String
  authTime : Int
  acr : String
  claims : String
  openid2Realm : String
  expiresAt : DateColumn
  isConsumed : Bool
  accessTokenHash : String
  accessTokenExpiresAt : Option DateColumn
  refreshTokenHash : String
  dpopJkt : String
  resourceUris : List String
  preAuthorized : Bool
  txCodeHash : String
  authorizationDetails : String

namespace AuthorizationCodeRow

def columns (row : AuthorizationCodeRow) : List Column :=
  [.varchar 128 row.code, .varchar 128 row.clientId, .varchar 1024 row.redirectUri,
    .varchar 256 row.subject, .varchar 256 row.sessionId, .varchar 256 row.subjectMaterial,
    .varchar 512 row.codeChallenge, .varchar 8 row.codeChallengeMethod, .varchar 256 row.nonce,
    .integer row.authTime, .varchar 256 row.acr, .text row.claims, .varchar 512 row.openid2Realm,
    .varchar 64 row.accessTokenHash, .varchar 64 row.refreshTokenHash, .varchar 80 row.dpopJkt,
    .varchar 64 row.txCodeHash, .text row.authorizationDetails]

/-- `_to_row` -/
def toRow (keepsZone : Bool) (code : AuthorizationCode) : AuthorizationCodeRow where
  code := code.code
  clientId := code.clientId
  redirectUri := code.redirectUri
  subject := code.subject
  sessionId := code.sessionId
  subjectMaterial := code.subjectMaterial
  scopes := Text.sorted code.scopes
  codeChallenge := code.codeChallenge
  codeChallengeMethod := code.codeChallengeMethod
  nonce := code.nonce
  authTime := code.authTime
  acr := code.acr
  claims := code.claims
  openid2Realm := code.openid2Realm
  expiresAt := .write keepsZone code.expiresAt
  isConsumed := code.isConsumed
  accessTokenHash := code.accessTokenHash
  accessTokenExpiresAt := code.accessTokenExpiresAt.map (.write keepsZone)
  refreshTokenHash := code.refreshTokenHash
  dpopJkt := code.dpopJkt
  resourceUris := code.resourceUris
  preAuthorized := code.preAuthorized
  txCodeHash := code.txCodeHash
  authorizationDetails := code.authorizationDetails

/-- `_from_row` -/
def fromRow (row : AuthorizationCodeRow) : AuthorizationCode where
  code := row.code
  clientId := row.clientId
  redirectUri := row.redirectUri
  subject := row.subject
  sessionId := row.sessionId
  subjectMaterial := row.subjectMaterial
  scopes := row.scopes.toFinset
  codeChallenge := row.codeChallenge
  codeChallengeMethod := row.codeChallengeMethod
  nonce := row.nonce
  authTime := row.authTime
  acr := row.acr
  claims := row.claims
  openid2Realm := row.openid2Realm
  expiresAt := row.expiresAt.read
  isConsumed := row.isConsumed
  accessTokenHash := row.accessTokenHash
  accessTokenExpiresAt := row.accessTokenExpiresAt.map DateColumn.read
  refreshTokenHash := row.refreshTokenHash
  dpopJkt := row.dpopJkt
  resourceUris := row.resourceUris
  preAuthorized := row.preAuthorized
  txCodeHash := row.txCodeHash
  authorizationDetails := row.authorizationDetails

theorem code_toRow (keepsZone : Bool) (code : AuthorizationCode) :
    (toRow keepsZone code).code = code.code :=
  rfl

theorem fromRow_toRow (keepsZone : Bool) (code : AuthorizationCode) :
    fromRow (toRow keepsZone code) = code := by
  simp only [fromRow, toRow, toFinset_sorted, DateColumn.read_write,
    DateColumn.map_read_write]

end AuthorizationCodeRow

/-! ## Refresh tokens -/

structure RefreshTokenRow where
  tokenHash : String
  clientId : String
  subject : String
  subjectMaterial : String
  scopes : List String
  expiresAt : DateColumn
  isConsumed : Bool
  dpopJkt : String
  resourceUris : List String
  tlsCertHash : String

namespace RefreshTokenRow

def columns (row : RefreshTokenRow) : List Column :=
  [.varchar 64 row.tokenHash, .varchar 128 row.clientId, .varchar 256 row.subject,
    .varchar 256 row.subjectMaterial, .varchar 80 row.dpopJkt, .varchar 64 row.tlsCertHash]

/-- `_to_row` -/
def toRow (keepsZone : Bool) (token : RefreshToken) : RefreshTokenRow where
  tokenHash := token.tokenHash
  clientId := token.clientId
  subject := token.subject
  subjectMaterial := token.subjectMaterial
  scopes := Text.sorted token.scopes
  expiresAt := .write keepsZone token.expiresAt
  isConsumed := token.isConsumed
  dpopJkt := token.dpopJkt
  resourceUris := token.resourceUris
  tlsCertHash := token.tlsCertHash

/-- `_from_row` -/
def fromRow (row : RefreshTokenRow) : RefreshToken where
  tokenHash := row.tokenHash
  clientId := row.clientId
  subject := row.subject
  subjectMaterial := row.subjectMaterial
  scopes := row.scopes.toFinset
  expiresAt := row.expiresAt.read
  isConsumed := row.isConsumed
  dpopJkt := row.dpopJkt
  resourceUris := row.resourceUris
  tlsCertHash := row.tlsCertHash

theorem tokenHash_toRow (keepsZone : Bool) (token : RefreshToken) :
    (toRow keepsZone token).tokenHash = token.tokenHash :=
  rfl

theorem fromRow_toRow (keepsZone : Bool) (token : RefreshToken) :
    fromRow (toRow keepsZone token) = token := by
  simp only [fromRow, toRow, toFinset_sorted, DateColumn.read_write]

end RefreshTokenRow

/-! ## Device sessions -/

/-- A row of the table, where `user_code` is unique. -/
structure DeviceAuthorizationRow where
  deviceCodeHash : String
  userCode : String
  clientId : String
  subject : String
  scopes : List String
  status : StatusColumn
  expiresAt : DateColumn
  interval : Int
  lastPolledAt : Option DateColumn

namespace DeviceAuthorizationRow

def columns (row : DeviceAuthorizationRow) : List Column :=
  [.varchar 64 row.deviceCodeHash, .varchar 16 row.userCode, .varchar 128 row.clientId,
    .varchar 256 row.subject, .varchar 16 row.status.value, .integer row.interval]

/-- `_to_row` -/
def toRow (keepsZone : Bool) (session : DeviceAuthorization) : DeviceAuthorizationRow where
  deviceCodeHash := session.deviceCodeHash
  userCode := session.userCode
  clientId := session.clientId
  subject := session.subject
  scopes := Text.sorted session.scopes
  status := .write session.status
  expiresAt := .write keepsZone session.expiresAt
  interval := session.interval
  lastPolledAt := session.lastPolledAt.map (.write keepsZone)

/-- `_from_row` -/
def fromRow (row : DeviceAuthorizationRow) : DeviceAuthorization where
  deviceCodeHash := row.deviceCodeHash
  userCode := row.userCode
  clientId := row.clientId
  subject := row.subject
  scopes := row.scopes.toFinset
  status := row.status.read
  expiresAt := row.expiresAt.read
  interval := row.interval
  lastPolledAt := row.lastPolledAt.map DateColumn.read

theorem deviceCodeHash_toRow (keepsZone : Bool) (session : DeviceAuthorization) :
    (toRow keepsZone session).deviceCodeHash = session.deviceCodeHash :=
  rfl

theorem fromRow_toRow (keepsZone : Bool) (session : DeviceAuthorization) :
    fromRow (toRow keepsZone session) = session := by
  simp only [fromRow, toRow, toFinset_sorted, StatusColumn.read_write,
    DateColumn.read_write, DateColumn.map_read_write]

end DeviceAuthorizationRow

/-! ## Backchannel requests -/

structure BackchannelAuthenticationRow where
  authReqIdHash : String
  clientId : String
  subject : String
  scopes : List String
  status : StatusColumn
  deliveryMode : String
  clientNotificationToken : String
  clientNotificationEndpoint : String
  bindingMessage : String
  acr : String
  userCode : String
  interval : Int
  lastPolledAt : Option DateColumn
  expiresAt : DateColumn
  resourceUris : List String

namespace BackchannelAuthenticationRow

def columns (row : BackchannelAuthenticationRow) : List Column :=
  [.varchar 64 row.authReqIdHash, .varchar 128 row.clientId, .varchar 256 row.subject,
    .varchar 16 row.status.value, .varchar 16 row.deliveryMode,
    .varchar 1024 row.clientNotificationToken, .varchar 512 row.clientNotificationEndpoint,
    .varchar 512 row.bindingMessage, .varchar 256 row.acr, .varchar 32 row.userCode,
    .integer row.interval]

/-- `_to_row` -/
def toRow (keepsZone : Bool) (request : BackchannelAuthenticationRequest) :
    BackchannelAuthenticationRow where
  authReqIdHash := request.authReqIdHash
  clientId := request.clientId
  subject := request.subject
  scopes := Text.sorted request.scopes
  status := .write request.status
  deliveryMode := request.deliveryMode
  clientNotificationToken := request.clientNotificationToken
  clientNotificationEndpoint := request.clientNotificationEndpoint
  bindingMessage := request.bindingMessage
  acr := request.acr
  userCode := request.userCode
  interval := request.interval
  lastPolledAt := request.lastPolledAt.map (.write keepsZone)
  expiresAt := .write keepsZone request.expiresAt
  resourceUris := request.resourceUris

/-- `_from_row` -/
def fromRow (row : BackchannelAuthenticationRow) : BackchannelAuthenticationRequest where
  authReqIdHash := row.authReqIdHash
  clientId := row.clientId
  subject := row.subject
  scopes := row.scopes.toFinset
  status := row.status.read
  deliveryMode := row.deliveryMode
  clientNotificationToken := row.clientNotificationToken
  clientNotificationEndpoint := row.clientNotificationEndpoint
  bindingMessage := row.bindingMessage
  acr := row.acr
  userCode := row.userCode
  interval := row.interval
  lastPolledAt := row.lastPolledAt.map DateColumn.read
  expiresAt := row.expiresAt.read
  resourceUris := row.resourceUris

theorem authReqIdHash_toRow (keepsZone : Bool) (request : BackchannelAuthenticationRequest) :
    (toRow keepsZone request).authReqIdHash = request.authReqIdHash :=
  rfl

theorem fromRow_toRow (keepsZone : Bool) (request : BackchannelAuthenticationRequest) :
    fromRow (toRow keepsZone request) = request := by
  simp only [fromRow, toRow, toFinset_sorted, StatusColumn.read_write,
    DateColumn.read_write, DateColumn.map_read_write]

end BackchannelAuthenticationRow

/-! ## Pushed requests and consents -/

/-- The text columns of a pushed request; its parameters are JSON. -/
def PushedAuthorizationRow.columns (row : PushedAuthorizationRow) : List Column :=
  [.varchar 256 row.requestUri, .varchar 128 row.clientId]

theorem PushedAuthorizationRow.requestUri_toRow (keepsZone : Bool) (pushed : PushedAuthorization) :
    (toRow keepsZone pushed).requestUri = pushed.requestUri :=
  rfl

structure ConsentRow where
  subject : String
  clientId : String
  scopes : List String
  grantedAt : DateColumn
  authorizationDetails : List String

namespace ConsentRow

def columns (row : ConsentRow) : List Column :=
  [.varchar 256 row.subject, .varchar 128 row.clientId]

/-- `_to_row` -/
def toRow (keepsZone : Bool) (consent : Consent) : ConsentRow where
  subject := consent.subject
  clientId := consent.clientId
  scopes := Text.sorted consent.scopes
  grantedAt := .write keepsZone consent.grantedAt
  authorizationDetails := Text.sorted consent.authorizationDetails

/-- `_from_row` -/
def fromRow (row : ConsentRow) : Consent where
  subject := row.subject
  clientId := row.clientId
  scopes := row.scopes.toFinset
  grantedAt := row.grantedAt.read
  authorizationDetails := row.authorizationDetails.toFinset

theorem subject_clientId_toRow (keepsZone : Bool) (consent : Consent) :
    ((toRow keepsZone consent).subject, (toRow keepsZone consent).clientId) =
      (consent.subject, consent.clientId) :=
  rfl

theorem fromRow_toRow (keepsZone : Bool) (consent : Consent) :
    fromRow (toRow keepsZone consent) = consent := by
  simp only [fromRow, toRow, toFinset_sorted, DateColumn.read_write]

end ConsentRow

end PurIdentityServer

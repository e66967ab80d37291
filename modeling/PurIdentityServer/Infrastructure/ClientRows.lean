import PurIdentityServer.Infrastructure.Columns

/-!
# ClientRows — clients as rows of a database

The SQL registry writes a client field by field into a row and builds it
again from the row. Three fields have no column and a date loses its time
zone where the database keeps none, so a client is read back as it was
exactly when these fields have the values the row gives back.
-/

namespace PurIdentityServer

open Effects

/-! ## Dates -/

namespace Datetime

/-- What a column of type `DateTime(timezone=True)` gives back: the moment in UTC, a naive date
being given a zone, or the reading without its zone. -/
def stored (keepsZone : Bool) (date : Datetime) : Datetime :=
  if keepsZone then { reading := date.reading - date.offset.getD 0, offset := some 0 }
  else { reading := date.reading, offset := none }

/-- `_utc` -/
def utc (date : Datetime) : Datetime :=
  match date.offset with
  | none => { date with offset := some 0 }
  | some _ => date

/-- The date has a zone, and where the database keeps none the zone is UTC. -/
def Kept (keepsZone : Bool) (date : Datetime) : Prop :=
  ∃ offset, date.offset = some offset ∧ (keepsZone = true ∨ offset = 0)

theorem same_utc_stored_iff (keepsZone : Bool) (date : Datetime) :
    date.Same (date.stored keepsZone).utc ↔ date.Kept keepsZone := by
  obtain ⟨reading, offset⟩ := date
  cases offset with
  | none => cases keepsZone <;> simp [Same, Kept, stored, utc, moment]
  | some offset =>
      cases keepsZone with
      | true => simp [Same, Kept, stored, utc, moment]
      | false =>
          have hsub : ∀ a b : Int, a - b = a ↔ b = 0 := by
            intro a b
            omega
          simp only [Same, Kept, stored, utc, moment]
          simp [hsub reading offset]

end Datetime

/-! ## Rows -/

structure ClientRow where
  clientId : String
  redirectUris : List String
  postLogoutRedirectUris : List String
  webOrigins : List String
  scopes : List String
  clientType : EnumColumn ClientType.ofValue?
  clientSecretHash : String
  clientSecretCiphertext : String
  tokenEndpointAuthMethod : Option (EnumColumn TokenEndpointAuthMethod.ofValue?)
  jwksUri : String
  jwks : List Json
  tlsClientAuthSubjectDn : String
  tlsClientCertificateHash : String
  tlsClientCertificateBoundAccessTokens : Bool
  idTokenSignedResponseAlg : String
  userinfoSignedResponseAlg : String
  authorizationSignedResponseAlg : String
  idTokenEncryptedResponseAlg : String
  idTokenEncryptedResponseEnc : String
  frontchannelLogoutUri : String
  frontchannelLogoutSessionRequired : Bool
  backchannelLogoutUri : String
  backchannelLogoutSessionRequired : Bool
  backchannelTokenDeliveryMode : String
  backchannelClientNotificationEndpoint : String
  backchannelAuthenticationRequestSigningAlg : String
  bindingMessageMaxLength : Option Int
  registrationAccessTokenHash : String
  createdAt : Datetime
  isActive : Bool
  sessionLifetimeSeconds : Option Int
  accessTokenLifetimeSeconds : Option Int
  authorizationCodeLifetimeSeconds : Option Int
  refreshTokenLifetimeSeconds : Option Int
  deviceCodeLifetimeSeconds : Option Int
  deviceCodeIntervalSeconds : Option Int
  parRequired : Bool
  requireConsent : Bool
  requireDpop : Bool
  fapiEnabled : Bool
  fapi2Enabled : Bool
  subjectType : EnumColumn SubjectType.ofValue?
  sectorIdentifierUri : String

namespace ClientRow

/-- The text and integer columns; a column that may be `NULL` takes it. -/
def columns (row : ClientRow) : List Column :=
  [.varchar 128 row.clientId, .varchar 16 row.clientType.value, .varchar 64 row.clientSecretHash,
    .text row.clientSecretCiphertext, .varchar 512 row.jwksUri,
    .varchar 1024 row.tlsClientAuthSubjectDn, .varchar 64 row.tlsClientCertificateHash,
    .varchar 32 row.idTokenSignedResponseAlg, .varchar 32 row.userinfoSignedResponseAlg,
    .varchar 32 row.authorizationSignedResponseAlg, .varchar 32 row.idTokenEncryptedResponseAlg,
    .varchar 32 row.idTokenEncryptedResponseEnc, .varchar 512 row.frontchannelLogoutUri,
    .varchar 512 row.backchannelLogoutUri, .varchar 16 row.backchannelTokenDeliveryMode,
    .varchar 512 row.backchannelClientNotificationEndpoint,
    .varchar 16 row.backchannelAuthenticationRequestSigningAlg,
    .varchar 64 row.registrationAccessTokenHash, .varchar 16 row.subjectType.value,
    .varchar 512 row.sectorIdentifierUri] ++
    (row.tokenEndpointAuthMethod.toList.map fun method => .varchar 32 method.value) ++
    [row.bindingMessageMaxLength, row.sessionLifetimeSeconds, row.accessTokenLifetimeSeconds,
      row.authorizationCodeLifetimeSeconds, row.refreshTokenLifetimeSeconds,
      row.deviceCodeLifetimeSeconds, row.deviceCodeIntervalSeconds].reduceOption.map .integer

/-- `_to_row` -/
def toRow (keepsZone : Bool) (client : Client) : ClientRow where
  clientId := client.clientId
  redirectUris := Text.sorted client.redirectUris
  postLogoutRedirectUris := Text.sorted client.postLogoutRedirectUris
  webOrigins := Text.sorted client.webOrigins
  scopes := Text.sorted client.scopes
  clientType := .write ClientType.ofValue?_value client.clientType
  clientSecretHash := client.clientSecretHash
  clientSecretCiphertext := client.clientSecretCiphertext
  tokenEndpointAuthMethod :=
    client.tokenEndpointAuthMethod.map (.write TokenEndpointAuthMethod.ofValue?_value)
  jwksUri := client.jwksUri
  jwks := client.jwks
  tlsClientAuthSubjectDn := client.tlsClientAuthSubjectDn
  tlsClientCertificateHash := client.tlsClientCertificateHash
  tlsClientCertificateBoundAccessTokens := client.tlsClientCertificateBoundAccessTokens
  idTokenSignedResponseAlg := client.idTokenSignedResponseAlg
  userinfoSignedResponseAlg := client.userinfoSignedResponseAlg
  authorizationSignedResponseAlg := client.authorizationSignedResponseAlg
  idTokenEncryptedResponseAlg := client.idTokenEncryptedResponseAlg
  idTokenEncryptedResponseEnc := client.idTokenEncryptedResponseEnc
  frontchannelLogoutUri := client.frontchannelLogoutUri
  frontchannelLogoutSessionRequired := client.frontchannelLogoutSessionRequired
  backchannelLogoutUri := client.backchannelLogoutUri
  backchannelLogoutSessionRequired := client.backchannelLogoutSessionRequired
  backchannelTokenDeliveryMode := client.backchannelTokenDeliveryMode
  backchannelClientNotificationEndpoint := client.backchannelClientNotificationEndpoint
  backchannelAuthenticationRequestSigningAlg := client.backchannelAuthenticationRequestSigningAlg
  bindingMessageMaxLength := client.bindingMessageMaxLength
  registrationAccessTokenHash := client.registrationAccessTokenHash
  createdAt := client.createdAt.stored keepsZone
  isActive := client.isActive
  sessionLifetimeSeconds := client.sessionLifetimeSeconds
  accessTokenLifetimeSeconds := client.accessTokenLifetimeSeconds
  authorizationCodeLifetimeSeconds := client.authorizationCodeLifetimeSeconds
  refreshTokenLifetimeSeconds := client.refreshTokenLifetimeSeconds
  deviceCodeLifetimeSeconds := client.deviceCodeLifetimeSeconds
  deviceCodeIntervalSeconds := client.deviceCodeIntervalSeconds
  parRequired := client.parRequired
  requireConsent := client.requireConsent
  requireDpop := client.requireDpop
  fapiEnabled := client.fapiEnabled
  fapi2Enabled := client.fapi2Enabled
  subjectType := .write SubjectType.ofValue?_value client.subjectType
  sectorIdentifierUri := client.sectorIdentifierUri

/-- `_from_row` -/
def fromRow (row : ClientRow) : Client where
  clientId := row.clientId
  redirectUris := row.redirectUris.toFinset
  postLogoutRedirectUris := row.postLogoutRedirectUris.toFinset
  webOrigins := row.webOrigins.toFinset
  scopes := row.scopes.toFinset
  clientType := row.clientType.read
  clientSecretHash := row.clientSecretHash
  clientSecretCiphertext := row.clientSecretCiphertext
  tokenEndpointAuthMethod := row.tokenEndpointAuthMethod.map EnumColumn.read
  jwksUri := row.jwksUri
  jwks := row.jwks
  tlsClientAuthSubjectDn := row.tlsClientAuthSubjectDn
  tlsClientCertificateHash := row.tlsClientCertificateHash
  tlsClientCertificateBoundAccessTokens := row.tlsClientCertificateBoundAccessTokens
  idTokenSignedResponseAlg := row.idTokenSignedResponseAlg
  userinfoSignedResponseAlg := row.userinfoSignedResponseAlg
  authorizationSignedResponseAlg := row.authorizationSignedResponseAlg
  idTokenEncryptedResponseAlg := row.idTokenEncryptedResponseAlg
  idTokenEncryptedResponseEnc := row.idTokenEncryptedResponseEnc
  frontchannelLogoutUri := row.frontchannelLogoutUri
  frontchannelLogoutSessionRequired := row.frontchannelLogoutSessionRequired
  backchannelLogoutUri := row.backchannelLogoutUri
  backchannelLogoutSessionRequired := row.backchannelLogoutSessionRequired
  backchannelTokenDeliveryMode := row.backchannelTokenDeliveryMode
  backchannelClientNotificationEndpoint := row.backchannelClientNotificationEndpoint
  backchannelAuthenticationRequestSigningAlg := row.backchannelAuthenticationRequestSigningAlg
  bindingMessageMaxLength := row.bindingMessageMaxLength
  registrationAccessTokenHash := row.registrationAccessTokenHash
  createdAt := row.createdAt.utc
  isActive := row.isActive
  sessionLifetimeSeconds := row.sessionLifetimeSeconds
  accessTokenLifetimeSeconds := row.accessTokenLifetimeSeconds
  authorizationCodeLifetimeSeconds := row.authorizationCodeLifetimeSeconds
  refreshTokenLifetimeSeconds := row.refreshTokenLifetimeSeconds
  deviceCodeLifetimeSeconds := row.deviceCodeLifetimeSeconds
  deviceCodeIntervalSeconds := row.deviceCodeIntervalSeconds
  parRequired := row.parRequired
  requireConsent := row.requireConsent
  requireDpop := row.requireDpop
  fapiEnabled := row.fapiEnabled
  fapi2Enabled := row.fapi2Enabled
  subjectType := row.subjectType.read
  sectorIdentifierUri := row.sectorIdentifierUri

theorem clientId_toRow (keepsZone : Bool) (client : Client) :
    (toRow keepsZone client).clientId = client.clientId :=
  rfl

/-- What is left of a client that was stored: `federated`, `backchannel_user_code_parameter` and
`password_policy` have no column. -/
theorem fromRow_toRow (keepsZone : Bool) (client : Client) :
    fromRow (toRow keepsZone client) =
      { client with
        createdAt := (client.createdAt.stored keepsZone).utc
        federated := false
        backchannelUserCodeParameter := false
        passwordPolicy := {} } := by
  have hmethod : (client.tokenEndpointAuthMethod.map
      (EnumColumn.write TokenEndpointAuthMethod.ofValue?_value)).map EnumColumn.read =
      client.tokenEndpointAuthMethod := by
    cases client.tokenEndpointAuthMethod with
    | none => rfl
    | some method => exact congrArg some (EnumColumn.read_write _ method)
  simp only [fromRow, toRow, toFinset_sorted, EnumColumn.read_write, hmethod]

end ClientRow

/-! ## Clients that are read back -/

namespace Client

/-- `==` of two clients. -/
def Same (a b : Client) : Prop :=
  a.createdAt.Same b.createdAt ∧ { a with createdAt := b.createdAt } = b

/-- The fields without a column have their defaults, and the date of creation is kept. -/
def Kept (keepsZone : Bool) (client : Client) : Prop :=
  client.federated = false ∧ client.backchannelUserCodeParameter = false ∧
    client.passwordPolicy = {} ∧ client.createdAt.Kept keepsZone

theorem same_fromRow_toRow_iff (keepsZone : Bool) (client : Client) :
    client.Same (ClientRow.fromRow (.toRow keepsZone client)) ↔ client.Kept keepsZone := by
  rw [ClientRow.fromRow_toRow, Same, Kept, Datetime.same_utc_stored_iff]
  cases client
  simp only [Client.mk.injEq]
  tauto

end Client

end PurIdentityServer

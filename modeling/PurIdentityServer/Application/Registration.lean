import PurIdentityServer.Application.RegistrationMetadata
import PurIdentityServer.Lib.Raising
import PurIdentityServer.Lib.Table

/-!
# Registration — dynamic registration of clients and its management

`RegistrationUseCase` creates a client from its metadata, reads, replaces
and deletes it. What the server reads besides the registry of clients (the
clock, the keys, the scopes, the documents of a sector) is whatever it is
at the time of a call, a value of `κ`.
-/

namespace PurIdentityServer

open Effects

/-- `SecretCipher`; it reads the keys of the moment, and sealing draws a seed. -/
structure SecretCipher (κ : Type) where
  encrypt : κ → (seed : Nat) → (value : String) → Except Raised String
  decrypt : κ → (token : String) → Except Raised String
  isCurrent : κ → (token : String) → Except Raised Bool
  reencrypt : κ → (seed : Nat) → (token : String) → Except Raised String

/-- `RegistrationConfig` -/
structure RegistrationConfig where
  issuer : String
  baseUrl : String := ""
  requiresInitialAccessToken : Bool := true
  initialAccessTokenHashes : Finset String := ∅
  initialAccessTokenMode : String := "static"
  dcrAllowFullGrants : Bool := false
  subjectSeed : String := ""

structure RegisterRequest where
  metadata : Json
  initialAccessToken : String := ""

structure ReadClientRequest where
  clientId : String
  registrationAccessToken : String

structure UpdateClientRequest where
  clientId : String
  registrationAccessToken : String
  metadata : Json

structure DeleteClientRequest where
  clientId : String
  registrationAccessToken : String

/-- `ClientRegistration` -/
structure ClientRegistration where
  clientId : String
  clientIdIssuedAt : Int := 0
  clientType : ClientType := .confidential
  tokenEndpointAuthMethod : String := "client_secret_basic"
  grantTypes : List String := ["authorization_code"]
  responseTypes : List String := ["code"]
  scope : String := "openid"
  redirectUris : List String := []
  postLogoutRedirectUris : List String := []
  webOrigins : List String := []
  jwksUri : String := ""
  jwks : String := ""
  tlsClientAuthSubjectDn : String := ""
  tlsClientCertificateHash : String := ""
  clientSecret : String := ""
  clientSecretExpiresAt : Int := 0
  registrationAccessToken : String := ""
  registrationClientUri : String := ""
  requirePushedAuthorizationRequests : Bool := false
  requireConsent : Bool := false
  idTokenSignedResponseAlg : String := ""
  userinfoSignedResponseAlg : String := ""
  idTokenEncryptedResponseAlg : String := ""
  idTokenEncryptedResponseEnc : String := ""
  frontchannelLogoutUri : String := ""
  frontchannelLogoutSessionRequired : Bool := false
  backchannelLogoutUri : String := ""
  backchannelLogoutSessionRequired : Bool := false
  dpopBoundAccessTokens : Bool := false
  tlsClientCertificateBoundAccessTokens : Bool := false
  backchannelTokenDeliveryMode : String := ""
  backchannelClientNotificationEndpoint : String := ""
  backchannelAuthenticationRequestSigningAlg : String := ""
  subjectType : String := "public"
  sectorIdentifierUri : String := ""
  fapiEnabled : Bool := false
  fapi2Enabled : Bool := false

/-- `_SecretRotation` -/
structure SecretRotation where
  secretHash : String
  issuedSecret : String
  secretCiphertext : String := ""

/-- The clients, and how many values were drawn so far. -/
structure RegistryWorld where
  clients : Table Client.clientId := Table.empty
  draws : Nat := 0

abbrev RegistrationM := Effects.Raising RegistryWorld Refusal

/-- `RegistrationUseCase` -/
structure RegistrationUseCase (κ : Type) where
  config : RegistrationConfig
  platform : Platform
  urls : UrlLibrary
  /-- `base64.b64decode(value, validate=True)`, `none` when it raises -/
  b64decode : String → Option (List UInt8)
  /-- the `n`-th draw of `secrets.token_urlsafe` -/
  tokenUrlsafe : Nat → String
  now : κ → Instant
  /-- `int(date.timestamp())`; of a naive date it is read in the zone of the host -/
  timestamp : Datetime → Int
  /-- `known_scope_names` -/
  scopeRegistry : Option (κ → Except Raised (Finset String)) := none
  /-- `authorise` -/
  initialAccessAuthorizer : Option (κ → String → Except Raised Bool) := none
  secretCipher : Option (SecretCipher κ) := none
  /-- `fetch` -/
  sectorFetcher : Option (κ → String → Except Raised (Option String)) := none

namespace RegistrationUseCase

open Registration

variable {κ : Type} (useCase : RegistrationUseCase κ) (around : κ)

/-- `hash_secret` -/
def hashSecret (value : String) : String := useCase.platform.sha256Hex value

/-- The next random value is taken. -/
def draw : RegistrationM Nat := do
  let w ← get
  set { w with draws := w.draws + 1 }
  return w.draws

/-- `token_urlsafe(…)` -/
def drawToken : RegistrationM String := return useCase.tokenUrlsafe (← draw)

/-- `_known_scopes` -/
def knownScopes : Parsed (Finset String) :=
  match useCase.scopeRegistry with
  | none => .ok standardScopes
  | some knownScopeNames => mayRaise (knownScopeNames around)

/-! ## Validation -/

section Validation

variable (client : Client) (metadata : RegistrationMetadata)

def HasSymmetricSigning : Prop := metadata.idTokenSignedResponseAlg ∈ symmetricSigningValues

instance : Decidable (HasSymmetricSigning metadata) :=
  inferInstanceAs (Decidable (_ ∈ symmetricSigningValues))

def HasSymmetricEncryption : Prop :=
  metadata.idTokenEncryptedResponseAlg ∈ symmetricEncryptionValues

instance : Decidable (HasSymmetricEncryption metadata) :=
  inferInstanceAs (Decidable (_ ∈ symmetricEncryptionValues))

/-- `_validate_method_material` -/
def validateMethodMaterial : Parsed Unit :=
  let method := metadata.tokenEndpointAuthMethod
  if method = "client_secret_jwt" ∧ useCase.secretCipher.isNone then
    invalid ("client_secret_jwt exige un chiffreur de secrets disponible " ++
      "(clé de scellement KeyUse.SECRET)")
  else if method = "private_key_jwt" ∧ metadata.jwks = "" ∧ metadata.jwksUri = "" then
    invalid "private_key_jwt exige jwks ou jwks_uri"
  else if method ∈ tlsKeyAuthMethods ∧ metadata.tlsClientAuthSubjectDn = "" ∧
      metadata.tlsClientCertificateHash = "" then
    invalid (method ++ " exige tls_client_auth_subject_dn ou tls_client_certificate")
  else .ok ()

/-- `_require_strong_auth` -/
def requireStrongAuth (allowed : List String) (message : String) : Parsed Unit :=
  if metadata.tokenEndpointAuthMethod ∈ allowed then .ok () else invalid message

/-- `_validate_grant_profile` -/
def validateGrantProfile : Parsed Unit :=
  if metadata.grantTypes ∩ fullGrantNewGrants = ∅ then .ok ()
  else if useCase.config.dcrAllowFullGrants = false then
    invalid "Grants étendus désactivés (dcr_allow_full_grants=false)"
  else
    requireStrongAuth metadata fullGrantStrongAuthMethods
      "Les grants étendus exigent private_key_jwt, tls_client_auth ou client_secret_basic"

/-- `_validate_fapi_profile` -/
def validateFapiProfile : Parsed Unit :=
  if ¬ (metadata.fapiEnabled ∨ metadata.fapi2Enabled) then .ok ()
  else if metadata.fapiEnabled ∧ metadata.fapi2Enabled then
    invalid "fapi_enabled et fapi2_enabled sont exclusifs"
  else
    requireStrongAuth metadata fapiDcrStrongAuthMethods
      "Les profils FAPI en DCR exigent private_key_jwt ou tls_client_auth"

/-- A check of the registered keys: no problem, or the problem. -/
def checkKeys (check : List Members → Option String) : Parsed Unit := do
  match check (← keysFromJwksJson useCase.platform metadata.jwks) with
  | some problem => invalid problem
  | none => .ok ()

/-- `_validate_jwks_usage` -/
def validateJwksUsage : Parsed Unit :=
  if metadata.tokenEndpointAuthMethod ≠ TokenEndpointAuthMethod.privateKeyJwt.value ∨
      metadata.jwks = "" ∨ metadata.jwksUri ≠ "" then .ok ()
  else checkKeys useCase metadata (KeyValidation.requireSigningKey useCase.platform)

/-- `_validate_signing_material` -/
def validateSigningMaterial : Parsed Unit :=
  if ¬ HasSymmetricSigning metadata then .ok ()
  else if metadata.tokenEndpointAuthMethod ∈ keylessAuthMethods then
    invalid ("Un algorithme symétrique HS* signe l'id_token avec le secret partagé : " ++
      "la méthode d'authentification doit produire un secret client")
  else if useCase.secretCipher.isNone then
    invalid ("Un algorithme symétrique HS* exige un chiffreur de secrets disponible " ++
      "(clé de scellement KeyUse.SECRET)")
  else .ok ()

/-- `_validate_encryption_material` -/
def validateEncryptionMaterial : Parsed Unit :=
  let algorithm := metadata.idTokenEncryptedResponseAlg
  let method := metadata.idTokenEncryptedResponseEnc
  if algorithm = "" ∧ method = "" then .ok ()
  else if algorithm = "" then
    invalid "id_token_encrypted_response_enc exige id_token_encrypted_response_alg"
  else if method ≠ "" ∧ method ∉ jweEncryptionMethods then
    invalid "id_token_encrypted_response_enc non supporté (attendu une méthode JWE)"
  else if algorithm ∈ asymmetricEncryptionValues then
    checkKeys useCase metadata (KeyValidation.requireEncryptionRsaKey useCase.platform)
  else if algorithm ∉ algorithmEncryptionValues then
    invalid "id_token_encrypted_response_alg non supporté (attendu un algorithme JWE)"
  else if metadata.tokenEndpointAuthMethod ∈ keylessAuthMethods then
    invalid ("Un algorithme symétrique chiffre l'id_token avec le secret partagé : " ++
      "la méthode d'authentification doit produire un secret client")
  else if useCase.secretCipher.isNone then
    invalid ("Un algorithme symétrique exige un chiffreur de secrets disponible " ++
      "(clé de scellement KeyUse.SECRET)")
  else .ok ()

/-- The secret of a client whose tokens are to be protected with it can be known. -/
def validateSecretAtHand (missing unchanged : String) : Parsed Unit :=
  let method := metadata.tokenEndpointAuthMethod
  if method = "client_secret_basic" ∨ method = "client_secret_post" then
    match metadata.requestedSecret with
    | none => if client.clientSecretCiphertext = "" then invalid missing else .ok ()
    | some secret =>
        if useCase.hashSecret secret = client.clientSecretHash ∧
            client.clientSecretCiphertext = "" then invalid unchanged
        else .ok ()
  else .ok ()

/-- `_validate_signing_rotation` -/
def validateSigningRotation : Parsed Unit :=
  if ¬ HasSymmetricSigning metadata then .ok ()
  else
    validateSecretAtHand useCase client metadata
      ("Passage vers un algorithme HS* : le secret du client n'étant pas " ++
        "conservé, fournir un nouveau client_secret")
      ("Passage vers un algorithme HS* : fournir un nouveau client_secret " ++
        "(le secret actuel n'est pas récupérable)")

/-- `_validate_encryption_rotation` -/
def validateEncryptionRotation : Parsed Unit :=
  if ¬ HasSymmetricEncryption metadata then .ok ()
  else
    validateSecretAtHand useCase client metadata
      ("Passage vers un chiffrement symétrique : le secret du client " ++
        "n'étant pas conservé, fournir un nouveau client_secret")
      ("Passage vers un chiffrement symétrique : fournir un nouveau " ++
        "client_secret (le secret actuel n'est pas récupérable)")

/-- The hosts of the URIs, those without a host left out. -/
def hostsOf : List String → Except Raised (Finset (List Char))
  | [] => .ok ∅
  | uri :: rest => do
      let parsed ← Urls.urlsplit useCase.urls uri
      let hosts ← hostsOf rest
      .ok (match parsed.hostname useCase.urls with
        | some host => insert host hosts
        | none => hosts)

/-- `_validate_sector` -/
def validateSector : Parsed Unit :=
  if metadata.sectorIdentifierUri = "" then .ok ()
  else
    match useCase.sectorFetcher with
    | none => invalid "sector_identifier_uri non vérifiable : fetcher de secteur non configuré"
    | some fetch => do
        match ← mayRaise (fetch around metadata.sectorIdentifierUri) with
        | none => invalid "sector_identifier_uri inaccessible ou non conforme"
        | some document =>
            match (useCase.platform.jsonLoads document).bind textList with
            | none => invalid "sector_identifier_uri doit référencer un document JSON liste"
            | some payload =>
                let missing := metadata.redirectUris \ payload.toFinset
                if missing = ∅ then .ok ()
                else
                  invalid ("sector_identifier_uri ne couvre pas toutes les redirect_uris " ++
                    "déclarées " ++ Text.join ", " (Text.sorted missing))

/-- `_validate_subject_metadata` -/
def validateSubjectMetadata : Parsed Unit :=
  if metadata.subjectType ≠ "public" ∧ useCase.config.subjectSeed = "" then
    invalid ("subject_type=" ++ metadata.subjectType ++ " exige le seed serveur " ++
      "subject_pairwise_seed configuré sur l'OP")
  else if metadata.subjectType = "pairwise" then
    if metadata.sectorIdentifierUri = "" then do
      let hosts ← mayRaise (hostsOf useCase (Text.sorted metadata.redirectUris))
      if hosts.card ≠ 1 then
        invalid ("subject_type=pairwise exige un sector_identifier_uri " ++
          "ou des redirect_uris d'hôte unique")
      else .ok ()
    else validateSector useCase around metadata
  else .ok ()

/-- `_validate_new_metadata` -/
def validateNewMetadata : Parsed Unit := do
  validateMethodMaterial useCase metadata
  validateGrantProfile useCase metadata
  validateFapiProfile metadata
  validateJwksUsage useCase metadata
  validateSigningMaterial useCase metadata
  validateEncryptionMaterial useCase metadata
  validateSubjectMetadata useCase around metadata

end Validation

/-! ## Credentials -/

/-- A call of the cipher; without a cipher the attribute of `None` is missing. -/
def cipherCall (call : SecretCipher κ → Except Raised String) : RegistrationM String :=
  Effects.Raising.lift (match useCase.secretCipher with
    | some cipher => mayRaise (call cipher)
    | none => .error (.raised (.other "AttributeError")))

/-- `self._secret_cipher.encrypt(value)` -/
def sealSecret (value : String) : RegistrationM String := do
  let seed ← draw
  cipherCall useCase fun cipher => cipher.encrypt around seed value

/-- The ciphertext under the newest key, sealed again unless it is current. -/
def currentCiphertext (cipher : SecretCipher κ) (token : String) : RegistrationM String := do
  if ← Effects.Raising.lift (mayRaise (cipher.isCurrent around token)) then return token
  else
    let seed ← draw
    cipherCall useCase fun cipher => cipher.reencrypt around seed token

/-- `_credentials_for`: fingerprint, ciphertext, issued value -/
def credentialsFor (metadata : RegistrationMetadata) : RegistrationM (String × String × String) := do
  let method := metadata.tokenEndpointAuthMethod
  if method = "client_secret_jwt" ∨ HasSymmetricSigning metadata ∨
      HasSymmetricEncryption metadata then
    let secret ← useCase.drawToken
    let ciphertext ← sealSecret useCase around secret
    if method = "client_secret_jwt" then return ("", ciphertext, secret)
    else return (useCase.hashSecret secret, ciphertext, secret)
  else if method = "client_secret_basic" ∨ method = "client_secret_post" then
    let secret ← useCase.drawToken
    return (useCase.hashSecret secret, "", secret)
  else return ("", "", "")

/-- `_seal_secret` -/
def sealSecretWhen (needsSeal : Bool) (value : String) : RegistrationM String :=
  if needsSeal ∧ useCase.secretCipher.isSome then sealSecret useCase around value else return ""

/-- `_recover_ciphertext` -/
def recoverCiphertext (client : Client) (needsSeal : Bool) : RegistrationM String :=
  if needsSeal then
    match useCase.secretCipher with
    | some cipher =>
        if client.clientSecretCiphertext = "" then return ""
        else currentCiphertext useCase around cipher client.clientSecretCiphertext
    | none => return ""
  else return client.clientSecretCiphertext

/-- `_rotate_jwt_secret` -/
def rotateJwtSecret (client : Client) (metadata : RegistrationMetadata) :
    RegistrationM SecretRotation := do
  match useCase.secretCipher with
  | none => return { secretHash := "", issuedSecret := "" }
  | some cipher =>
      match metadata.requestedSecret with
      | some secret =>
          let ciphertext ← sealSecret useCase around secret
          return { secretHash := "", issuedSecret := secret, secretCiphertext := ciphertext }
      | none =>
          if client.clientSecretCiphertext = "" then
            return { secretHash := "", issuedSecret := "" }
          else
            let ciphertext ← currentCiphertext useCase around cipher client.clientSecretCiphertext
            return { secretHash := "", issuedSecret := "", secretCiphertext := ciphertext }

/-- A secret in force from now on, issued once. -/
def rotateTo (needsSeal : Bool) (secret : String) : RegistrationM SecretRotation := do
  let ciphertext ← sealSecretWhen useCase around needsSeal secret
  return { secretHash := useCase.hashSecret secret, issuedSecret := secret
           secretCiphertext := ciphertext }

/-- The current secret is kept, and not issued again. -/
def keepSecret (client : Client) (needsSeal : Bool) : RegistrationM SecretRotation := do
  let ciphertext ← recoverCiphertext useCase around client needsSeal
  return { secretHash := client.clientSecretHash, issuedSecret := ""
           secretCiphertext := ciphertext }

/-- `_updated_credentials` -/
def updatedCredentials (client : Client) (metadata : RegistrationMetadata) :
    RegistrationM SecretRotation := do
  let method := metadata.tokenEndpointAuthMethod
  if method ∈ keylessAuthMethods then return { secretHash := "", issuedSecret := "" }
  else if method = "client_secret_jwt" then rotateJwtSecret useCase around client metadata
  else
    let needsSeal : Bool := HasSymmetricSigning metadata ∨ HasSymmetricEncryption metadata
    match metadata.requestedSecret with
    | some secret =>
        if useCase.hashSecret secret = client.clientSecretHash ∧
            client.clientSecretCiphertext ≠ "" then keepSecret useCase around client needsSeal
        else rotateTo useCase around needsSeal secret
    | none =>
        if client.clientSecretHash ≠ "" then keepSecret useCase around client needsSeal
        else
          let generated ← useCase.drawToken
          rotateTo useCase around needsSeal generated

/-! ## Requests -/

/-- `_authorise_initial` -/
def authoriseInitial (token : String) : Except Raised Bool :=
  let mode := useCase.config.initialAccessTokenMode
  if mode = "disabled" then .ok true
  else if mode = "jwt" then
    match useCase.initialAccessAuthorizer with
    | none => .ok false
    | some authorise => if token = "" then .ok false else authorise around token
  else if useCase.config.requiresInitialAccessToken = false then .ok true
  else if token = "" then .ok false
  else .ok (useCase.hashSecret token ∈ useCase.config.initialAccessTokenHashes)

/-- `_authorise_registration` -/
def authoriseRegistration (client : Client) (token : String) : Bool :=
  token ≠ "" ∧ client.registrationAccessTokenHash ≠ "" ∧
    useCase.hashSecret token = client.registrationAccessTokenHash

/-- `_base_url` -/
def baseUrl : String :=
  Text.rstripSlash
    (if useCase.config.baseUrl ≠ "" then useCase.config.baseUrl else useCase.config.issuer)

/-- `_response` -/
def response (client : Client) (clientSecret registrationAccessToken : String) :
    ClientRegistration :=
  { clientId := client.clientId
    clientIdIssuedAt := useCase.timestamp client.createdAt
    clientType := client.clientType
    tokenEndpointAuthMethod := client.effectiveAuthMethod.value
    scope := Text.join " " (Text.sorted client.scopes)
    redirectUris := Text.sorted client.redirectUris
    postLogoutRedirectUris := Text.sorted client.postLogoutRedirectUris
    webOrigins := Text.sorted client.webOrigins
    jwksUri := client.jwksUri
    jwks := jwksJson useCase.platform client.jwks
    tlsClientAuthSubjectDn := client.tlsClientAuthSubjectDn
    tlsClientCertificateHash := client.tlsClientCertificateHash
    clientSecret, registrationAccessToken
    registrationClientUri := useCase.baseUrl ++ "/register/" ++ client.clientId
    requirePushedAuthorizationRequests := client.parRequired
    requireConsent := client.requireConsent
    dpopBoundAccessTokens := client.requireDpop
    tlsClientCertificateBoundAccessTokens := client.tlsClientCertificateBoundAccessTokens
    idTokenSignedResponseAlg := client.idTokenSignedResponseAlg
    userinfoSignedResponseAlg := client.userinfoSignedResponseAlg
    idTokenEncryptedResponseAlg := client.idTokenEncryptedResponseAlg
    idTokenEncryptedResponseEnc := client.idTokenEncryptedResponseEnc
    frontchannelLogoutUri := client.frontchannelLogoutUri
    frontchannelLogoutSessionRequired := client.frontchannelLogoutSessionRequired
    backchannelLogoutUri := client.backchannelLogoutUri
    backchannelLogoutSessionRequired := client.backchannelLogoutSessionRequired
    backchannelTokenDeliveryMode := client.backchannelTokenDeliveryMode
    backchannelClientNotificationEndpoint := client.backchannelClientNotificationEndpoint
    backchannelAuthenticationRequestSigningAlg := client.backchannelAuthenticationRequestSigningAlg
    subjectType := client.subjectType.value
    sectorIdentifierUri := client.sectorIdentifierUri
    fapiEnabled := client.fapiEnabled
    fapi2Enabled := client.fapi2Enabled }

/-- A member of an enumeration from its value, `ValueError` when there is none. -/
def enumMember {α : Type} (member : Option α) : Parsed α :=
  match member with
  | some a => .ok a
  | none => .error (.raised (.other "ValueError"))

/-- The client that metadata describe; `kept` is what a request does not set. -/
def clientOf (kept : Client) (metadata : RegistrationMetadata)
    (secretHash secretCiphertext : String) : Parsed Client := do
  let method ← enumMember (TokenEndpointAuthMethod.ofValue? metadata.tokenEndpointAuthMethod)
  let keys ← keysFromJwksJson useCase.platform metadata.jwks
  let subjectType ← enumMember (SubjectType.ofValue? metadata.subjectType)
  .ok { kept with
    redirectUris := metadata.redirectUris
    postLogoutRedirectUris := metadata.postLogoutRedirectUris
    webOrigins := metadata.webOrigins
    scopes := metadata.scopes
    clientType := metadata.clientType
    clientSecretHash := secretHash
    clientSecretCiphertext := secretCiphertext
    tokenEndpointAuthMethod := some method
    jwksUri := metadata.jwksUri
    jwks := keys.map .obj
    tlsClientAuthSubjectDn := metadata.tlsClientAuthSubjectDn
    tlsClientCertificateHash := metadata.tlsClientCertificateHash
    parRequired := metadata.parRequired
    requireConsent := metadata.requireConsent
    requireDpop := metadata.dpopBoundAccessTokens
    tlsClientCertificateBoundAccessTokens := metadata.tlsClientCertificateBoundAccessTokens
    fapiEnabled := metadata.fapiEnabled
    fapi2Enabled := metadata.fapi2Enabled
    backchannelUserCodeParameter := metadata.backchannelUserCodeParameter
    idTokenSignedResponseAlg := metadata.idTokenSignedResponseAlg
    userinfoSignedResponseAlg := metadata.userinfoSignedResponseAlg
    idTokenEncryptedResponseAlg := metadata.idTokenEncryptedResponseAlg
    idTokenEncryptedResponseEnc := metadata.idTokenEncryptedResponseEnc
    frontchannelLogoutUri := metadata.frontchannelLogoutUri
    frontchannelLogoutSessionRequired := metadata.frontchannelLogoutSessionRequired
    backchannelLogoutUri := metadata.backchannelLogoutUri
    backchannelLogoutSessionRequired := metadata.backchannelLogoutSessionRequired
    backchannelTokenDeliveryMode := metadata.backchannelTokenDeliveryMode
    backchannelClientNotificationEndpoint := metadata.backchannelClientNotificationEndpoint
    backchannelAuthenticationRequestSigningAlg :=
      metadata.backchannelAuthenticationRequestSigningAlg
    subjectType
    sectorIdentifierUri := metadata.sectorIdentifierUri }

/-- `self._clients.save(client)` -/
def saveClient (client : Client) : RegistrationM Unit :=
  modify fun w => { w with clients := w.clients.save client }

/-- The metadata of a request, valid for this server. -/
def validMetadata (raw : Json) : Parsed RegistrationMetadata := do
  let known ← knownScopes useCase around
  let metadata ← parseMetadata useCase.urls useCase.platform useCase.b64decode known raw
  validateNewMetadata useCase around metadata
  return metadata

/-- `RegistrationError("invalid_client", description, status)` -/
def invalidClient {α : Type} (errorDescription : String) (statusCode : Nat) : Parsed α :=
  .error (.refused { error := "invalid_client", errorDescription, statusCode })

/-- `register` -/
def register (request : RegisterRequest) : RegistrationM ClientRegistration := do
  let authorised ← Effects.Raising.lift (mayRaise (authoriseInitial useCase around request.initialAccessToken))
  if authorised = false then
    Effects.Raising.lift (invalidClient "Initial access token manquant ou invalide" 401)
  else
    let metadata ← Effects.Raising.lift (validMetadata useCase around request.metadata)
    let clientId ← useCase.drawToken
    let (secretHash, secretCiphertext, clientSecret) ← credentialsFor useCase around metadata
    let registrationToken ← useCase.drawToken
    let kept : Client :=
      { clientId
        registrationAccessTokenHash := useCase.hashSecret registrationToken
        createdAt := { reading := useCase.now around } }
    let client ← Effects.Raising.lift (clientOf useCase kept metadata secretHash secretCiphertext)
    saveClient client
    return response useCase client clientSecret registrationToken

/-- `_resolve_managed` -/
def resolveManaged (request : ReadClientRequest) : RegistrationM Client := do
  match (← get).clients.find request.clientId with
  | none => Effects.Raising.lift (invalidClient "Client inconnu" 404)
  | some client =>
      if useCase.authoriseRegistration client request.registrationAccessToken then return client
      else Effects.Raising.lift (invalidClient "Registration access token manquant ou invalide" 401)

/-- `read` -/
def read (request : ReadClientRequest) : RegistrationM ClientRegistration := do
  let client ← resolveManaged useCase request
  return response useCase client "" ""

/-- The members of a client that an update keeps. -/
def keptMembers (client : Client) : Client :=
  { clientId := client.clientId
    registrationAccessTokenHash := client.registrationAccessTokenHash
    createdAt := client.createdAt
    isActive := client.isActive
    sessionLifetimeSeconds := client.sessionLifetimeSeconds
    accessTokenLifetimeSeconds := client.accessTokenLifetimeSeconds
    authorizationCodeLifetimeSeconds := client.authorizationCodeLifetimeSeconds
    refreshTokenLifetimeSeconds := client.refreshTokenLifetimeSeconds
    deviceCodeLifetimeSeconds := client.deviceCodeLifetimeSeconds
    deviceCodeIntervalSeconds := client.deviceCodeIntervalSeconds
    bindingMessageMaxLength := client.bindingMessageMaxLength }

/-- `update` -/
def update (request : UpdateClientRequest) : RegistrationM ClientRegistration := do
  let client ← resolveManaged useCase
    { clientId := request.clientId, registrationAccessToken := request.registrationAccessToken }
  let metadata ← Effects.Raising.lift (validMetadata useCase around request.metadata)
  Effects.Raising.lift (validateSigningRotation useCase client metadata)
  Effects.Raising.lift (validateEncryptionRotation useCase client metadata)
  let rotation ← updatedCredentials useCase around client metadata
  let updated ← Effects.Raising.lift (clientOf useCase (keptMembers client) metadata rotation.secretHash
    rotation.secretCiphertext)
  saveClient updated
  return response useCase updated rotation.issuedSecret ""

/-- `delete` -/
def delete (request : DeleteClientRequest) : RegistrationM Unit := do
  let client ← resolveManaged useCase
    { clientId := request.clientId, registrationAccessToken := request.registrationAccessToken }
  modify fun w => { w with clients := w.clients.delete client.clientId }

end RegistrationUseCase

end PurIdentityServer

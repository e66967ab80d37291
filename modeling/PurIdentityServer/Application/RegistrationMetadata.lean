import PurIdentityServer.Application.ClientAuth
import PurIdentityServer.Domain.KeyValidation
import PurIdentityServer.Domain.Origins

/-!
# RegistrationMetadata — the metadata of a client that is registered

Every member of the metadata has a parser that gives its value, or the
refusal of RFC 7591. The members are read in the order of the source, so
that the first refusal is the one that is answered.
-/

namespace PurIdentityServer

open Effects

/-- `RegistrationError` -/
structure RegistrationError where
  error : String
  errorDescription : String := ""
  statusCode : Nat := 400
  deriving DecidableEq, Repr

/-- A request that is refused, or an exception. -/
inductive Refusal where
  | refused (error : RegistrationError)
  | raised (exception : Raised)
  deriving DecidableEq, Repr

namespace Registration

/-- `RegistrationMetadata` -/
structure RegistrationMetadata where
  redirectUris : Finset String
  postLogoutRedirectUris : Finset String
  webOrigins : Finset String
  scopes : Finset Scope
  clientType : ClientType
  tokenEndpointAuthMethod : String
  jwksUri : String
  jwks : String
  tlsClientAuthSubjectDn : String
  tlsClientCertificateHash : String
  requestedSecret : Option String
  grantTypes : Finset String
  parRequired : Bool
  requireConsent : Bool
  idTokenSignedResponseAlg : String
  userinfoSignedResponseAlg : String
  idTokenEncryptedResponseAlg : String
  idTokenEncryptedResponseEnc : String
  frontchannelLogoutUri : String
  frontchannelLogoutSessionRequired : Bool
  backchannelLogoutUri : String
  backchannelLogoutSessionRequired : Bool
  dpopBoundAccessTokens : Bool
  tlsClientCertificateBoundAccessTokens : Bool
  backchannelTokenDeliveryMode : String
  backchannelClientNotificationEndpoint : String
  backchannelAuthenticationRequestSigningAlg : String
  subjectType : String
  sectorIdentifierUri : String
  fapiEnabled : Bool
  fapi2Enabled : Bool
  backchannelUserCodeParameter : Bool

/-! ## Tables -/

def allowedGrantTypes : Finset String :=
  {"authorization_code", "refresh_token", "implicit", "client_credentials",
    "urn:ietf:params:oauth:grant-type:device_code",
    "urn:ietf:params:oauth:grant-type:jwt-bearer", "urn:openid:params:grant-type:ciba"}

def allowedResponseTypes : Finset String :=
  {"code", "id_token", "token", "id_token token", "code id_token", "code token",
    "code id_token token"}

def cibaDeliveryModes : List String := ["poll", "ping", "push"]

def allowedAuthMethods : List String := TokenEndpointAuthMethod.all.map TokenEndpointAuthMethod.value

def tlsKeyAuthMethods : List String := ["tls_client_auth", "self_signed_tls_client_auth"]

def keylessAuthMethods : List String := ["none", "private_key_jwt"] ++ tlsKeyAuthMethods

def fullGrantStrongAuthMethods : List String :=
  ["client_secret_basic", "client_secret_jwt", "private_key_jwt", "tls_client_auth",
    "self_signed_tls_client_auth"]

def fullGrantNewGrants : Finset String :=
  {"client_credentials", "urn:ietf:params:oauth:grant-type:device_code",
    "urn:ietf:params:oauth:grant-type:jwt-bearer"}

def fapiDcrStrongAuthMethods : List String :=
  ["private_key_jwt", "tls_client_auth", "self_signed_tls_client_auth", "client_secret_jwt"]

def symmetricSigningValues : List String :=
  (JWTAlgorithm.all.filter JWTAlgorithm.isSymmetric).map JWTAlgorithm.value

def asymmetricEncryptionValues : List String :=
  ([.rsaOaep, .rsaOaep256] : List JWEKeyManagementAlgorithm).map JWEKeyManagementAlgorithm.value

def symmetricEncryptionValues : List String :=
  ([.a128kw, .a256kw, .direct] : List JWEKeyManagementAlgorithm).map
    JWEKeyManagementAlgorithm.value

def algorithmEncryptionValues : List String :=
  asymmetricEncryptionValues ++ symmetricEncryptionValues

/-- PS256, ES256 and RS256, for `userinfo` and for the requests of CIBA -/
def requestSigningAlgorithms : List String :=
  ([.ps256, .es256, .rs256] : List JWTAlgorithm).map JWTAlgorithm.value

def minSecretLength : Nat := 8

/-- The names of `DEFAULT_IDENTITY_RESOURCES`. -/
def standardScopes : Finset String :=
  {"openid", "profile", "email", "address", "phone", "offline_access"}

/-! ## Parsers -/

abbrev Parsed (α : Type) := Except Refusal α

/-- `RegistrationError("invalid_client_metadata", description)` -/
def invalid {α : Type} (description : String) : Parsed α :=
  .error (.refused { error := "invalid_client_metadata", errorDescription := description })

def invalidUri {α : Type} (description : String) : Parsed α :=
  .error (.refused { error := "invalid_redirect_uri", errorDescription := description })

/-- A call that raises leaves the parser with its exception. -/
def mayRaise {α : Type} (x : Except Raised α) : Parsed α := x.mapError .raised

section Parsers

variable (lib : UrlLibrary) (p : Platform) (raw : Members)

/-- A list of strings, `none` when the member is something else. -/
def textList : Json → Option (List String)
  | .arr items => Json.strings items
  | _ => none

/-- `raw.get(key)`, `None` as absent. -/
def present (key : String) : Option Json :=
  match Dict.get raw key with
  | some .null => none
  | value => value

/-- The member, as a text that satisfies the check; absent or empty it is `absent`. -/
def parseText (key absent : String) (check : String → Parsed Unit) (message : String) :
    Parsed String :=
  match present raw key with
  | none => .ok absent
  | some (.str text) => if text = "" then .ok absent else (check text).map fun _ => text
  | some _ => invalid message

/-- A text that is one of the values, or the message. -/
def parseChoice (key absent : String) (values : List String) (message : String) :
    Parsed String :=
  parseText raw key absent (fun text => if text ∈ values then .ok () else invalid message) message

/-- `_parse_members` -/
def parseMembers (key : String) (allowed : Finset String) (default : String) :
    Parsed (Finset String) :=
  match present raw key with
  | none => .ok {default}
  | some value =>
      match textList value with
      | none => invalid (key ++ " doit être une liste de chaînes")
      | some names =>
          let unknown := names.toFinset \ allowed
          if unknown = ∅ then .ok names.toFinset
          else invalid (key ++ " non supporté : " ++ Text.join ", " (Text.sorted unknown))

/-- `_uses_redirect_flows` -/
def usesRedirectFlows : Bool :=
  match present raw "grant_types" with
  | none => true
  | some (.arr items) => items.any fun
      | .str member => member = "authorization_code" || member = "implicit"
      | _ => false
  | some _ => false

/-- Every URI of the list passes the check. -/
def checkUris (check : String → Except Raised Bool) (message : String) :
    List String → Parsed Unit
  | [] => .ok ()
  | uri :: rest => do
      let valid ← mayRaise (check uri)
      if valid then checkUris check message rest else invalidUri (message ++ uri)

/-- `_parse_uri_list` -/
def parseUriList (key : String) (required : Bool) : Parsed (Finset String) :=
  match present raw key with
  | none => if required then invalid "redirect_uris manquant" else .ok ∅
  | some value =>
      match textList value with
      | none => invalid (key ++ " doit être une liste de chaînes")
      | some uris => do
          checkUris (Urls.isRedirectUri lib) (key ++ " contient une URI invalide : ") uris
          .ok uris.toFinset

/-- The origins of the URIs that have one. -/
def originsOf : List String → Except Raised (Finset String)
  | [] => .ok ∅
  | uri :: rest => do
      let origin ← Urls.originOfUri lib uri
      let origins ← originsOf rest
      .ok (match origin with
        | some o => insert o origins
        | none => origins)

/-- `_parse_web_origins` -/
def parseWebOrigins : Parsed (Finset String) :=
  match present raw "web_origins" with
  | none => .ok ∅
  | some value =>
      match textList value with
      | none => invalid "web_origins doit être une liste de chaînes"
      | some uris => do
          checkUris (Urls.isWebOrigin lib) "web_origins contient une origine invalide : " uris
          mayRaise (originsOf lib uris)

/-- `_parse_logout_uri` -/
def parseLogoutUri (key : String) : Parsed String :=
  parseText raw key ""
    (checkUris (Urls.isRedirectUri lib) (key ++ " contient une URI invalide : ") [·])
    (key ++ " doit être une chaîne")

/-- `_parse_bool_flag` -/
def parseBoolFlag (key : String) (default : Bool) : Parsed Bool :=
  match present raw key with
  | none => .ok default
  | some (.bool flag) => .ok flag
  | some _ => invalid (key ++ " doit être un booléen")

/-- `_parse_session_required` -/
def parseSessionRequired (key : String) : Parsed Bool := parseBoolFlag raw key false

/-- `_parse_subject_type` -/
def parseSubjectType : Parsed String :=
  parseChoice raw "subject_type" "public"
    (([.publicSubject, .pairwise, .ephemeral] : List SubjectType).map SubjectType.value)
    "subject_type doit être public, pairwise ou ephemeral"

/-- `_parse_sector_identifier_uri` -/
def parseSectorIdentifierUri : Parsed String :=
  parseText raw "sector_identifier_uri" ""
    (fun text => do
      let parsed ← mayRaise (Urls.urlsplit lib text)
      if parsed.scheme ≠ "https".toList ∨ parsed.netloc = [] ∨ parsed.fragment ≠ [] then
        invalid "sector_identifier_uri doit être une URI https absolue sans fragment"
      else .ok ())
    "sector_identifier_uri doit être une chaîne"

/-- `_parse_scopes` -/
def parseScopes (knownScopes : Finset String) : Parsed (Finset Scope) :=
  match present raw "scope" with
  | none | some (.str "") => .ok standardScopes
  | some (.str value) =>
      let tokens := Text.split value
      let unknown := tokens.filter fun token => token ∉ knownScopes
      if unknown = [] then .ok tokens.toFinset
      else invalid ("scope(s) non enregistré(s) : " ++
        Text.join ", " (unknown.mergeSort fun a b => a ≤ b))
  | some _ => invalid "scope doit être une chaîne"

/-- `_parse_auth_method`; the empty text is no method. -/
def parseAuthMethod : Parsed String :=
  match present raw "token_endpoint_auth_method" with
  | none => .ok "client_secret_basic"
  | some value =>
      match value with
      | .str method => if method ∈ allowedAuthMethods then .ok method else unsupported
      | _ => unsupported
where
  unsupported : Parsed String :=
    invalid ("token_endpoint_auth_method non supporté (attendu : " ++
      Text.join ", " (Text.sorted allowedAuthMethods.toFinset))

/-- `_parse_id_token_signing_alg` -/
def parseIdTokenSigningAlg : Parsed String :=
  parseChoice raw "id_token_signed_response_alg" "" (JWTAlgorithm.all.map JWTAlgorithm.value)
    "id_token_signed_response_alg non supporté (attendu un algorithme JWS)"

/-- `_parse_userinfo_signing_alg` -/
def parseUserinfoSigningAlg : Parsed String :=
  parseChoice raw "userinfo_signed_response_alg" "" requestSigningAlgorithms
    ("userinfo_signed_response_alg non supporté (attendu : " ++
      Text.join ", " requestSigningAlgorithms ++ ")")

/-- `_parse_id_token_encryption_alg` -/
def parseIdTokenEncryptionAlg : Parsed String :=
  parseChoice raw "id_token_encrypted_response_alg" "" algorithmEncryptionValues
    "id_token_encrypted_response_alg non supporté (attendu un algorithme JWE)"

/-- `_parse_id_token_encryption_enc` -/
def parseIdTokenEncryptionEnc : Parsed String :=
  parseChoice raw "id_token_encrypted_response_enc" "" jweEncryptionMethods
    "id_token_encrypted_response_enc non supporté (attendu une méthode JWE)"

/-- `_parse_requested_secret` -/
def parseRequestedSecret : Parsed (Option String) :=
  match present raw "client_secret" with
  | none => .ok none
  | some (.str secret) => if secret.length < minSecretLength then tooShort else .ok (some secret)
  | some _ => tooShort
where
  tooShort : Parsed (Option String) :=
    invalid ("client_secret doit comporter au moins " ++ toString minSecretLength ++ " caractères")

/-- `_parse_ciba_delivery_mode` -/
def parseCibaDeliveryMode : Parsed String :=
  parseChoice raw "backchannel_token_delivery_mode" "" cibaDeliveryModes
    "backchannel_token_delivery_mode doit être poll, ping ou push"

/-- `_parse_ciba_notification_endpoint` -/
def parseCibaNotificationEndpoint : Parsed String :=
  parseText raw "backchannel_client_notification_endpoint" ""
    (fun text => do
      let valid ← mayRaise (Urls.isRedirectUri lib text)
      if valid then .ok ()
      else invalid ("backchannel_client_notification_endpoint doit être une URI http(s) " ++
        "sans fragment"))
    "backchannel_client_notification_endpoint doit être une chaîne"

/-- `_parse_ciba_request_signing_alg` -/
def parseCibaRequestSigningAlg : Parsed String :=
  parseChoice raw "backchannel_authentication_request_signing_alg" "" requestSigningAlgorithms
    "backchannel_authentication_request_signing_alg doit être PS256, ES256 ou RS256"

/-- `_is_jwks_uri` -/
def isJwksUri (uri : String) : Except Raised Bool := do
  let parsed ← Urls.urlsplit lib uri
  if ¬ parsed.Web ∨ parsed.netloc = [] ∨ parsed.fragment ≠ [] then .ok false
  else if parsed.scheme = "https".toList then .ok true
  else
    .ok ((parsed.hostname lib).getD [] ∈ ["localhost", "127.0.0.1", "::1"].map String.toList)

/-- `_parse_jwks_uri` -/
def parseJwksUri : Parsed String :=
  let message := "jwks_uri doit être une URI http(s) sans fragment"
  parseText raw "jwks_uri" ""
    (fun text => do
      let valid ← mayRaise (isJwksUri lib text)
      if valid then .ok () else invalid message)
    message

/-- The dictionaries of a list, `none` when an item is something else. -/
def dictionaries : List Json → Option (List Members)
  | [] => some []
  | .obj members :: rest => (dictionaries rest).map (members :: ·)
  | _ :: _ => none

/-- `json.dumps({"keys": keys}, …)` -/
def dumpKeys (keys : List Members) : String := p.jsonDumps (.obj [("keys", .arr (keys.map .obj))])

/-- `_parse_jwks` -/
def parseJwks : Parsed String :=
  match present raw "jwks" with
  | none => .ok ""
  | some (.obj value) =>
      match Dict.get value "keys" with
      | some (.arr items) =>
          match dictionaries items with
          | some keys =>
              match KeyValidation.validateClientJwks p keys with
              | [] => .ok (dumpKeys p keys)
              | problem :: _ => invalid problem
          | none => invalid "jwks doit porter une liste keys de JWK"
      | _ => invalid "jwks doit porter une liste keys de JWK"
  | some _ => invalid "jwks doit être un objet JSON (JWK Set)"

/-- `_keys_from_jwks_json` -/
def keysFromJwksJson (jwks : String) : Parsed (List Members) :=
  if jwks = "" then .ok []
  else
    match p.jsonLoads jwks with
    | some (.obj value) =>
        match Dict.get value "keys" with
        | none => .ok []
        | some (.arr items) =>
            match dictionaries items with
            | some keys => .ok keys
            | none => .error (.raised (.other "ValueError"))
        | some _ => .error (.raised (.other "TypeError"))
    | some _ => .error (.raised (.other "AttributeError"))
    | none => .error (.raised (.other "ValueError"))

/-- `_jwks_json` -/
def jwksJson (keys : List Json) : String :=
  if keys = [] then "" else p.jsonDumps (.obj [("keys", .arr keys)])

/-- `_parse_tls_subject_dn` -/
def parseTlsSubjectDn : Parsed String :=
  parseText raw "tls_client_auth_subject_dn" "" (fun _ => .ok ())
    "tls_client_auth_subject_dn doit être une chaîne"

/-- `_parse_tls_certificate`; `b64decode` is `base64.b64decode(…, validate=True)`, `none` when it
raises. -/
def parseTlsCertificate (b64decode : String → Option (List UInt8)) : Parsed String :=
  match present raw "tls_client_certificate" with
  | none | some (.str "") => .ok ""
  | some (.str value) =>
      match b64decode value with
      | none => invalid "tls_client_certificate n'est pas du base64 valide"
      | some [] => invalid "tls_client_certificate ne contient aucun octet"
      | some der => .ok (derCertificateHash p der)
  | some _ => invalid "tls_client_certificate doit être une chaîne base64"

/-- `_parse_members(raw, "grant_types", …)` -/
def parseGrantTypes : Parsed (Finset String) :=
  parseMembers raw "grant_types" allowedGrantTypes "authorization_code"

/-- The members that `_parse_metadata_extras` reads. -/
structure MetadataExtras where
  scopes : Finset Scope
  authMethod : String
  requestedSecret : Option String
  parRequired : Bool
  requireConsent : Bool
  jwksUri : String
  jwks : String
  tlsSubjectDn : String
  tlsCertificateHash : String
  idTokenSigningAlg : String
  idTokenEncryptionAlg : String
  idTokenEncryptionEnc : String
  frontchannelLogoutUri : String
  frontchannelLogoutSessionRequired : Bool
  backchannelLogoutUri : String
  backchannelLogoutSessionRequired : Bool
  dpopBoundAccessTokens : Bool
  tlsClientCertificateBoundAccessTokens : Bool
  backchannelTokenDeliveryMode : String
  backchannelClientNotificationEndpoint : String
  backchannelAuthenticationRequestSigningAlg : String

/-- `_parse_metadata_extras` -/
def parseMetadataExtras (b64decode : String → Option (List UInt8))
    (knownScopes : Finset String) : Parsed MetadataExtras := do
  let scopes ← parseScopes raw knownScopes
  let authMethod ← parseAuthMethod raw
  let _ ← parseGrantTypes raw
  let _ ← parseMembers raw "response_types" allowedResponseTypes "code"
  let requestedSecret ← parseRequestedSecret raw
  let parRequired ← parseBoolFlag raw "require_pushed_authorization_requests" false
  let requireConsent ← parseBoolFlag raw "require_consent" false
  let jwksUri ← parseJwksUri lib raw
  let jwks ← parseJwks p raw
  let tlsSubjectDn ← parseTlsSubjectDn raw
  let tlsCertificateHash ← parseTlsCertificate p raw b64decode
  let idTokenSigningAlg ← parseIdTokenSigningAlg raw
  let idTokenEncryptionAlg ← parseIdTokenEncryptionAlg raw
  let idTokenEncryptionEnc ← parseIdTokenEncryptionEnc raw
  let frontchannelLogoutUri ← parseLogoutUri lib raw "frontchannel_logout_uri"
  let frontchannelLogoutSessionRequired ←
    parseSessionRequired raw "frontchannel_logout_session_required"
  let backchannelLogoutUri ← parseLogoutUri lib raw "backchannel_logout_uri"
  let backchannelLogoutSessionRequired ←
    parseSessionRequired raw "backchannel_logout_session_required"
  let dpopBoundAccessTokens ← parseBoolFlag raw "dpop_bound_access_tokens" false
  let tlsClientCertificateBoundAccessTokens ←
    parseBoolFlag raw "tls_client_certificate_bound_access_tokens" false
  let backchannelTokenDeliveryMode ← parseCibaDeliveryMode raw
  let backchannelClientNotificationEndpoint ← parseCibaNotificationEndpoint lib raw
  let backchannelAuthenticationRequestSigningAlg ← parseCibaRequestSigningAlg raw
  let _ ← parseBoolFlag raw "backchannel_user_code_parameter" false
  .ok { scopes, authMethod, requestedSecret, parRequired, requireConsent, jwksUri, jwks,
        tlsSubjectDn, tlsCertificateHash, idTokenSigningAlg, idTokenEncryptionAlg,
        idTokenEncryptionEnc, frontchannelLogoutUri, frontchannelLogoutSessionRequired,
        backchannelLogoutUri, backchannelLogoutSessionRequired, dpopBoundAccessTokens,
        tlsClientCertificateBoundAccessTokens, backchannelTokenDeliveryMode,
        backchannelClientNotificationEndpoint, backchannelAuthenticationRequestSigningAlg }

end Parsers

/-- `_parse_metadata` -/
def parseMetadata (lib : UrlLibrary) (p : Platform) (b64decode : String → Option (List UInt8))
    (knownScopes : Finset String) : Json → Parsed RegistrationMetadata
  | .obj raw => do
      let grantTypes ← parseGrantTypes raw
      let redirectUris ← parseUriList lib raw "redirect_uris" (usesRedirectFlows raw)
      let postLogoutRedirectUris ← parseUriList lib raw "post_logout_redirect_uris" false
      let webOrigins ← parseWebOrigins lib raw
      let subjectType ← parseSubjectType raw
      let sectorIdentifierUri ← parseSectorIdentifierUri lib raw
      let userinfoSignedResponseAlg ← parseUserinfoSigningAlg raw
      let extras ← parseMetadataExtras lib p raw b64decode knownScopes
      let fapiEnabled ← parseBoolFlag raw "fapi_enabled" false
      let fapi2Enabled ← parseBoolFlag raw "fapi2_enabled" false
      if fapiEnabled ∧ fapi2Enabled then
        invalid "fapi_enabled et fapi2_enabled sont exclusifs"
      else
        let backchannelUserCodeParameter ← parseBoolFlag raw "backchannel_user_code_parameter" false
        .ok
          { redirectUris, postLogoutRedirectUris, webOrigins
            scopes := extras.scopes
            clientType := if extras.authMethod = "none" then .publicClient else .confidential
            tokenEndpointAuthMethod := extras.authMethod
            jwksUri := extras.jwksUri
            jwks := extras.jwks
            tlsClientAuthSubjectDn := extras.tlsSubjectDn
            tlsClientCertificateHash := extras.tlsCertificateHash
            requestedSecret := extras.requestedSecret
            grantTypes
            parRequired := extras.parRequired
            requireConsent := extras.requireConsent
            idTokenSignedResponseAlg := extras.idTokenSigningAlg
            userinfoSignedResponseAlg
            idTokenEncryptedResponseAlg := extras.idTokenEncryptionAlg
            idTokenEncryptedResponseEnc := extras.idTokenEncryptionEnc
            frontchannelLogoutUri := extras.frontchannelLogoutUri
            frontchannelLogoutSessionRequired := extras.frontchannelLogoutSessionRequired
            backchannelLogoutUri := extras.backchannelLogoutUri
            backchannelLogoutSessionRequired := extras.backchannelLogoutSessionRequired
            dpopBoundAccessTokens := extras.dpopBoundAccessTokens
            tlsClientCertificateBoundAccessTokens := extras.tlsClientCertificateBoundAccessTokens
            backchannelTokenDeliveryMode := extras.backchannelTokenDeliveryMode
            backchannelClientNotificationEndpoint := extras.backchannelClientNotificationEndpoint
            backchannelAuthenticationRequestSigningAlg :=
              extras.backchannelAuthenticationRequestSigningAlg
            subjectType, sectorIdentifierUri, fapiEnabled, fapi2Enabled
            backchannelUserCodeParameter }
  | _ => invalid "Métadonnées non conforme (objet JSON attendu)"

end Registration

end PurIdentityServer

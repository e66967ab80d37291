import PurIdentityServer.Domain.Json
import PurIdentityServer.Domain.Authorization
import PurIdentityServer.Lib.Fallible

/-!
# Settings — how a seeded client authenticates

A client of the configuration is read from a table of strings, numbers
and lists. Its secret may name a variable of the environment; it is
hashed whatever it is, an empty one too.
-/

namespace PurIdentityServer

open Effects

/-- The environment of the server. -/
structure SeedEnvironment where
  getenv : String → Option String
  /-- `\w` of a regular expression -/
  isWord : Char → Bool

namespace SeedEnvironment

variable (env : SeedEnvironment)

/-- The name in a placeholder, `^\$\{(\w+)\}$`. -/
def placeholder (value : String) : Option String :=
  match value.toList with
  | '$' :: '\x7b' :: rest =>
      let name := rest.takeWhile env.isWord
      let ending := rest.dropWhile env.isWord
      -- `$` also matches before a final line feed
      if name ≠ [] ∧ (ending = ['\x7d'] ∨ ending = ['\x7d', '\n']) then some (String.ofList name)
      else none
  | _ => none

/-- `_resolve_secret` -/
def resolveSecret (value : String) : String :=
  match env.placeholder value with
  | none => value
  | some name => (env.getenv name).getD ""

end SeedEnvironment

section Seeds

variable (p : Platform) (env : SeedEnvironment)

/-- `str(raw.get(name, default))` -/
def seedText (raw : Members) (name default : String) : String :=
  match Dict.get raw name with
  | none => default
  | some (.str text) => text
  | some value => p.pyStr value

/-- `bool(raw.get(name))` -/
def seedFlag (raw : Members) (name : String) : Bool :=
  match Dict.get raw name with
  | none => false
  | some value => value.truthy

/-- `_hash_client_secret` -/
def hashClientSecret (secret : String) : String := p.sha256Hex secret

/-- The methods by their names. -/
def authMethods : Dict String TokenEndpointAuthMethod :=
  [("none", .none), ("client_secret_basic", .clientSecretBasic),
    ("client_secret_post", .clientSecretPost), ("client_secret_jwt", .clientSecretJwt),
    ("private_key_jwt", .privateKeyJwt), ("tls_client_auth", .tlsClientAuth),
    ("self_signed_tls_client_auth", .selfSignedTlsClientAuth)]

/-- `_parse_auth_method` -/
def parseAuthMethod (raw : Members) : Except Raised (Option TokenEndpointAuthMethod) :=
  match Dict.get raw "token_endpoint_auth_method" with
  | none | some .null => .ok none
  | some value =>
      let name := match value with
        | .str text => text
        | other => p.pyStr other
      match authMethods.get name with
      | some method => .ok (some method)
      | none => .error (.other "ValueError")

/-- `_parse_client_type` -/
def parseClientType (raw : Members) : Except Raised ClientType :=
  match seedText p raw "client_type" "public" with
  | "confidential" => .ok .confidential
  | "public" => .ok .publicClient
  | _ => .error (.other "ValueError")

/-- `_fapi_profile_flags` -/
def fapiProfileFlags (raw : Members) : Except Raised (Bool × Bool) :=
  let fapi := seedFlag raw "fapi_enabled"
  let fapi2 := seedFlag raw "fapi2_enabled"
  if fapi && fapi2 then .error (.other "ValueError") else .ok (fapi, fapi2)

/-- The keys of a seed, when it gives a list. -/
def seedKeys (raw : Members) : List Json :=
  match Dict.get raw "jwks" with
  | some (.arr keys) => keys
  | _ => []

/-- `str(raw["client_id"])` -/
def seedClientId (raw : Members) : Except Raised String :=
  match Dict.get raw "client_id" with
  | none => .error (.other "KeyError")
  | some _ => .ok (seedText p raw "client_id" "")

/-- `_parse_client`: the fields a client is authenticated by, over its others. -/
def parseClient (raw : Members) (others : Client) : Except Raised Client := do
  let clientId ← seedClientId p raw
  let clientType ← parseClientType p raw
  let authMethod ← parseAuthMethod p raw
  let (fapiEnabled, fapi2Enabled) ← fapiProfileFlags raw
  .ok { others with
    clientId := clientId
    clientType := clientType
    clientSecretHash := hashClientSecret p (env.resolveSecret (seedText p raw "client_secret" ""))
    clientSecretCiphertext := seedText p raw "client_secret_encrypted" ""
    tokenEndpointAuthMethod := authMethod
    jwksUri := seedText p raw "jwks_uri" ""
    jwks := seedKeys raw
    tlsClientAuthSubjectDn := seedText p raw "tls_client_auth_subject_dn" ""
    tlsClientCertificateHash := seedText p raw "tls_client_certificate_hash" ""
    tlsClientCertificateBoundAccessTokens :=
      seedFlag raw "tls_client_certificate_bound_access_tokens"
    fapiEnabled := fapiEnabled
    fapi2Enabled := fapi2Enabled
    isActive := true }

variable {p env}

/-- A placeholder without a value is an empty secret. -/
theorem SeedEnvironment.resolveSecret_unset {value name : String}
    (hname : env.placeholder value = some name) (hunset : env.getenv name = none) :
    env.resolveSecret value = "" := by
  unfold resolveSecret
  rw [hname]
  show (env.getenv name).getD "" = ""
  rw [hunset]
  rfl

/-- A seeded client is active, and its hash is that of its secret, an empty one too. -/
theorem parseClient_secret {raw : Members} {others client : Client}
    (h : parseClient p env raw others = .ok client) :
    client.isActive = true ∧ client.clientSecretHash =
      p.sha256Hex (env.resolveSecret (seedText p raw "client_secret" "")) := by
  unfold parseClient at h
  obtain ⟨clientId, _, h⟩ := bind_eq_ok.mp h
  obtain ⟨clientType, _, h⟩ := bind_eq_ok.mp h
  obtain ⟨authMethod, _, h⟩ := bind_eq_ok.mp h
  obtain ⟨flags, _, h⟩ := bind_eq_ok.mp h
  cases h
  exact ⟨rfl, rfl⟩

end Seeds

end PurIdentityServer

import PurIdentityServer.Infrastructure.SignedRequestObject

/-!
# RequestObject — the resolver of request objects

`resolve` completes the parameters of `/authorize` and `/par` with the
claims of a request object, given by value or by reference, possibly
encrypted. The client under whose profile the object is read is looked up
by the transport's `client_id`, else by the object's unverified `iss`. An
object of a FAPI client goes to the FAPI profile; any other is read
without verification when its header says `none`, and verified when it
says `RS256`.
-/

namespace PurIdentityServer

open Effects

/-- The parameters of a request. -/
abbrev Params := Dict String String

/-- `params.get(name, "")` -/
def Params.text (params : Params) (name : String) : String := (Dict.get params name).getD ""

structure RequestObjectError where
  error : String
  errorDescription : String
  state : String := ""
  deriving DecidableEq, Repr

/-- The pieces between the dots of a compact token. -/
def segments (document : String) : List String :=
  (document.toList.splitOn '.').map String.ofList

/-- `REQUEST_OBJECT_SIGNING_ALGORITHMS` -/
def unsignedAlgorithms : List String := ["none"]

/-- `STANDARD_SIGNED_REQUEST_OBJECT_ALGORITHMS` -/
def standardSignedAlgorithms : List String := ["RS256"]

/-- `FAPI_REQUEST_OBJECT_SIGNING_ALGORITHMS` -/
def fapiSignedAlgorithms : List String := ["PS256", "ES256"]

/-- `STANDARD_SIGNED_REQUIRED_CLAIMS` -/
def standardRequiredClaims : List String := ["iss", "aud"]

/-- `FEDERATED_SIGNED_REQUIRED_CLAIMS` -/
def federatedRequiredClaims : List String := ["iss", "aud", "exp", "jti"]

/-- `FAPI_REQUIRED_CLAIMS` -/
def fapiRequiredClaims : List String :=
  ["iss", "aud", "exp", "nbf", "scope", "nonce", "redirect_uri"]

/-- `FEDERATED_JTI_NAMESPACE` -/
def federatedJtiNamespace : String := "federation:"

/-- The namespace of a browser session. -/
def sessionNamespace (sessionScope : String) : String :=
  federatedJtiNamespace ++ (if sessionScope = "" then "-" else sessionScope)

/-- `_EMBEDDED` -/
def embedded : List String := ["request", "request_uri"]

/-- `_FAPI_TRANSPORT_KEYS` -/
def fapiTransportKeys : List String :=
  ["client_id", "client_secret", "client_assertion", "client_assertion_type"]

/-- `PUSHED_REQUEST_URI_PREFIX` -/
def pushedRequestUriHead : String := "urn:ietf:params:oauth:request_uri:"

/-- The resolver: its configuration and what is injected. `clients` is
there when it was injected and `hasVerifier` tells whether `verifier` was; a
document reference, an encrypted document and a segment are read by functions
of the outside. -/
structure RequestObjectResolver (κ : Type) where
  issuer : String := ""
  encryptionAlgorithms : List String := []
  encryptionMethods : List String := []
  fetch : String → Option String
  clients : Option ClientReader
  verifier : SignedObjects κ
  hasVerifier : Bool := true
  /-- the plaintext, or the reason of the refusal -/
  decrypt : Option ((document algorithm method keyId : String) → Except String String)
  /-- `_decode_segment` -/
  decodeSegment : String → Option Members
  /-- `json.dumps` of a claim, in compact form -/
  dumps : Json → String
  /-- `str(value)` of a header's algorithm -/
  asText : Json → String
  /-- the header and claims PyJWT reads are the first two segments of three -/
  header_segment : ∀ token header, verifier.jwt.header token = some header →
    ∃ first second third, segments token = [first, second, third] ∧
      decodeSegment first = some header
  payload_segment : ∀ token claims, verifier.jwt.payload token = some claims →
    ∃ first second third, segments token = [first, second, third] ∧
      decodeSegment second = some claims
  /-- a decoded object has one value for a name -/
  segment_keys : ∀ segment members, decodeSegment segment = some members →
    (Dict.keys members).Nodup

namespace RequestObjectResolver

variable {κ : Type} (resolver : RequestObjectResolver κ)

/-- `_malformed` -/
def malformed (reason : String) : RequestObjectError where
  error := "invalid_request_object"
  errorDescription := "request object invalide : " ++ reason

/-- The payload of a document of two or three segments. -/
def unverifiedPayload (document : String) : Option Members :=
  match segments document with
  | [_, payload] => resolver.decodeSegment payload
  | [_, payload, _] => resolver.decodeSegment payload
  | _ => none

/-- `_unverified_claim` -/
def unverifiedClaim (document name : String) : String :=
  match (resolver.unverifiedPayload document).bind fun payload => payload.get name with
  | some (.str value) => value
  | _ => ""

/-- `unverified_issuer` -/
def unverifiedIssuer (document : String) : String := resolver.unverifiedClaim document "iss"

/-- `_with_state` -/
def withState (error : RequestObjectError) (document : String) : RequestObjectError :=
  let state := resolver.unverifiedClaim document "state"
  if state = "" ∨ state = error.state then error else { error with state }

/-- `_stringify` -/
def stringify : Json → String
  | .str s => s
  | value => resolver.dumps value

/-- The claims as parameters. -/
def asParams (claims : Members) : Params :=
  claims.map fun claim => (claim.1, resolver.stringify claim.2)

/-- Drop the items of the given names. -/
def without (names : List String) (params : Params) : Params :=
  params.filter fun item => item.1 ∉ names

/-- `_merge` -/
def merge (params claims : Params) : Params :=
  Dict.update (without embedded params) (without embedded claims)

/-- `_merge_fapi` -/
def mergeFapi (params : Params) (claims : Members) : Params :=
  Dict.update (params.filter fun item => item.1 ∈ fapiTransportKeys)
    (without embedded (resolver.asParams claims))

/-- `_find_client` -/
def findClient (clientId : String) : Option Client :=
  if clientId = "" then none else resolver.clients.bind fun reader => reader.findById clientId

/-- `_document`: the request object given by value or by reference, `""` without one. -/
def document (params : Params) : Except RequestObjectError String :=
  let byValue := params.text "request"
  let reference := params.text "request_uri"
  if byValue ≠ "" ∧ reference ≠ "" then
    .error ⟨"invalid_request",
      "request et request_uri sont mutuellement exclusifs (RFC 9101 §4)", ""⟩
  else if byValue ≠ "" then .ok byValue
  else if reference = "" ∨ Text.startsWith reference pushedRequestUriHead then .ok ""
  else
    match (resolver.fetch reference).filter (· ≠ "") with
    | some found => .ok found
    | none => .error ⟨"invalid_request_uri",
        "request_uri injoignable ou refusée (RFC 9101 §5.2)", ""⟩

/-- The string a header gives for a name. -/
def textOf (header : Members) (name : String) : Option String :=
  (header.get name).bind Json.asStr

/-- `_decrypt` -/
def decrypted (document : String) : Except RequestObjectError String :=
  match segments document with
  | [head, _, _, _, _] =>
      match resolver.decrypt with
      | none => .error (malformed "chiffrement des request objects non supporté")
      | some decrypt =>
          if resolver.encryptionAlgorithms.isEmpty ∨ resolver.encryptionMethods.isEmpty then
            .error (malformed "chiffrement des request objects non supporté")
          else
            let header := (resolver.decodeSegment head).getD []
            match textOf header "alg", textOf header "enc" with
            | none, _ => .error (malformed "en-tête JWE illisible (base64url JSON attendu)")
            | some algorithm, method =>
                if algorithm ∉ resolver.encryptionAlgorithms then
                  .error ⟨"invalid_request_object", "algorithme de chiffrement non publié : "
                    ++ resolver.verifier.printed algorithm, ""⟩
                else
                  match method with
                  | none => .error (malformed
                      "en-tête JWE sans algorithme de chiffrement du contenu (enc)")
                  | some method =>
                      if method ∉ resolver.encryptionMethods then
                        .error ⟨"invalid_request_object", "méthode de chiffrement non publiée : "
                          ++ resolver.verifier.printed method, ""⟩
                      else
                        match decrypt document algorithm method
                          ((textOf header "kid").getD "") with
                        | .ok plaintext =>
                            if plaintext = "" then
                              .error (malformed "déchiffrement impossible : ")
                            else .ok plaintext
                        | .error reason =>
                            .error (malformed ("déchiffrement impossible : " ++ reason))
  | _ => .ok document

/-- `_client_id_mismatch` -/
def clientIdMismatch (params : Params) (document : String) : Option RequestObjectError :=
  let transport := params.text "client_id"
  let claimed := resolver.unverifiedClaim document "client_id"
  let named := if claimed ≠ "" then claimed else resolver.unverifiedIssuer document
  if transport = "" ∨ named = "" ∨ named = transport then none
  else some ⟨"invalid_request",
    "client_id de la requête différent de celui du request object (OIDC Core 1.0 §6.1)", ""⟩

/-- `_header_algorithm` -/
def headerAlgorithm (document : String) : String :=
  let head := match segments document with
    | [head, _] => resolver.decodeSegment head
    | [head, _, _] => resolver.decodeSegment head
    | _ => none
  match head with
  | none => ""
  | some header =>
      match header.get "alg" with
      | none => "none"
      | some (.str algorithm) => algorithm
      | some value => resolver.asText value

/-- `_claims`: an object read without verification. -/
def unsignedClaims (document : String) : Except RequestObjectError Params :=
  match segments document with
  | head :: payload :: rest =>
      if rest.length > 1 then
        .error (malformed "JWT compact attendu (trois segments séparés par un point)")
      else if rest ≠ [] ∧ rest ≠ [""] then
        .error (malformed "alg=none ne porte aucune signature (JWA RFC 7519 §6)")
      else
        match resolver.decodeSegment head, resolver.decodeSegment payload with
        | some header, some claims =>
            match (header.get "alg").getD (.str "none") with
            | .str algorithm =>
                if algorithm ∈ unsignedAlgorithms then .ok (resolver.asParams claims)
                else .error ⟨"invalid_request_object",
                  "algorithme de request object non supporté : "
                    ++ resolver.verifier.printed algorithm, ""⟩
            | value => .error ⟨"invalid_request_object",
                "algorithme de request object non supporté : " ++ resolver.asText value, ""⟩
        | _, _ => .error (malformed "en-tête ou claims illisibles (base64url JSON attendu)")
  | _ => .error (malformed "JWT compact attendu (trois segments séparés par un point)")

/-- What a resolution answers: the parameters or a refusal. -/
abbrev Resolved := Except RequestObjectError Params

open SignedObjects (Verification)

/-- The refusal of a `sub` in a federated client's object. -/
def subForbidden : String :=
  "claim 'sub' interdit dans un request object de client fédéré " ++
    "(OpenID Federation 1.1 §12.1.1.1)"

/-- The signed branch of `_resolve_standard`. -/
def resolveSigned (at_ : Readings) (document : String) (client : Client)
    (sessionScope : String) : Verification Resolved := do
  if !resolver.hasVerifier || resolver.issuer = "" then
    return .error ⟨"invalid_request",
      "vérification du request object signé non configurée", ""⟩
  else
    let errorCode := if client.federated then "invalid_request" else "invalid_request_object"
    match ← resolver.verifier.verifySigned at_ document client resolver.issuer
        standardSignedAlgorithms
        (if client.federated then federatedRequiredClaims else standardRequiredClaims)
        client.federated (sessionNamespace sessionScope) with
    | .refused reason => return .error ⟨errorCode, reason, ""⟩
    | .accepted claims =>
        if client.federated && (claims.get "sub").isSome then
          return .error ⟨errorCode, subForbidden, ""⟩
        else return .ok (resolver.asParams claims)

/-- Whether a standard object is read without verification. -/
def readsUnsigned (document : String) : Bool :=
  resolver.headerAlgorithm document = "" ||
    decide (resolver.headerAlgorithm document ∈ unsignedAlgorithms)

/-- `_resolve_standard` -/
def resolveStandard (at_ : Readings) (document : String) (client : Option Client)
    (sessionScope : String) : Verification Resolved := do
  if resolver.readsUnsigned document then
    return resolver.unsignedClaims document
  else if resolver.headerAlgorithm document ∉ standardSignedAlgorithms then
    return .error ⟨"invalid_request_object", "algorithme de request object non supporté : "
      ++ resolver.verifier.printed (resolver.headerAlgorithm document), ""⟩
  else
    match client with
    | none => return .error (malformed
        "client inconnu : la signature du request object n'est pas vérifiable")
    | some client => resolver.resolveSigned at_ document client sessionScope

/-- `_resolve_fapi` -/
def resolveFapi (at_ : Readings) (params : Params) (document : String) (client : Client) :
    Verification Resolved := do
  if !resolver.hasVerifier || resolver.issuer = "" then
    return .error ⟨"invalid_request",
      "vérification du request object FAPI non configurée", ""⟩
  else
    match ← resolver.verifier.verifySigned at_ document client resolver.issuer
        fapiSignedAlgorithms fapiRequiredClaims false "ciba:" with
    | .refused reason => return .error ⟨"invalid_request_object", reason, ""⟩
    | .accepted claims =>
        match embedded.find? fun name => (claims.get name).isSome with
        | some forbidden => return .error ⟨"invalid_request_object",
            "claim " ++ resolver.verifier.printed forbidden
              ++ " interdit dans un request object (RFC 9101 §4, PAR-2.1)", ""⟩
        | none => return .ok (resolver.mergeFapi params claims)

/-- `_without_request_object` -/
def withoutRequestObject (params : Params) (client : Option Client) :
    Except RequestObjectError Params :=
  match client with
  | some client =>
      if client.fapiEnabled then
        .error ⟨"invalid_request",
          "request object obligatoire pour un client FAPI1 (FAPI1-ADV-5.2.2-1)", ""⟩
      else .ok params
  | none => .ok params

/-- The client under whose profile a document is read. -/
def pickClient (params : Params) (document : String) : Option Client :=
  match resolver.findClient (params.text "client_id") with
  | some client => some client
  | none => resolver.findClient (resolver.unverifiedIssuer document)

/-- A refusal with the `state` of a document. -/
def stated {α : Type} (document : String) :
    Except RequestObjectError α → Except RequestObjectError α
  | .error e => .error (resolver.withState e document)
  | .ok a => .ok a

/-- `resolve`, once there is a document and its names agree. -/
def resolveDocument (at_ : Readings) (params : Params) (document sessionScope : String) :
    Verification Resolved := do
  match resolver.pickClient params document with
  | some client =>
      if client.fapiEnabled then
        let resolved ← resolver.resolveFapi at_ params document client
        return resolver.stated document resolved
      else
        let claims ← resolver.resolveStandard at_ document (some client) sessionScope
        return (resolver.stated document claims).map (merge params)
  | none =>
      let claims ← resolver.resolveStandard at_ document none sessionScope
      return (resolver.stated document claims).map (merge params)

/-- The request object a request presents, decrypted; `""` without one. -/
def presented (params : Params) : Except RequestObjectError String :=
  match resolver.document params with
  | .error e => .error (resolver.withState e (params.text "request"))
  | .ok found =>
      if found = "" then .ok ""
      else
        match resolver.decrypted found with
        | .error e => .error (resolver.withState e (params.text "request"))
        | .ok document =>
            match resolver.clientIdMismatch params document with
            | some e => .error (resolver.withState e document)
            | none => .ok document

/-- `resolve` -/
def resolve (at_ : Readings) (params : Params) (sessionScope : String) : Verification Resolved := do
  match resolver.presented params with
  | .error e => return .error e
  | .ok document =>
      if document = "" then
        return withoutRequestObject params
          (resolver.findClient (params.text "client_id"))
      else resolver.resolveDocument at_ params document sessionScope

end RequestObjectResolver

end PurIdentityServer

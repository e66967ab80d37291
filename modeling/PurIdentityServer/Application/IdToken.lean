import PurIdentityServer.Application.Resources

/-!
# IdToken — what goes into a token and what signs and encrypts it

The subject a client sees, the `claims` and `authorization_details`
parameters, and the material of the `id_token`: its signature
(`resolveIdTokenMaterial`) and its encryption
(`encryptIdTokenForClient`). The two material lookups are where an
issuance can still be refused.
-/

namespace PurIdentityServer

open Effects

section
variable {ε : Type} (p : Platform)

/-! ## Subjects -/

/-- `_derive_subject`. -/
def deriveSubject (seed domain : String) (parts : List String) : String :=
  p.hmacBase64Url seed (Text.join "\x00" (domain :: parts))

def pairwiseSubject (seed sector subject : String) : String :=
  deriveSubject p seed "pairwise" [sector, subject]

def ephemeralSubject (seed subject material : String) : String :=
  deriveSubject p seed "ephemeral" [subject, material]

/-- `display_subject`. -/
def displaySubject (client : Client) (subject material seed : String) : Raising String :=
  if subject = "" then .ok subject
  else
    match client.subjectType with
    | .pairwise => do
        let sector ← client.subjectSector p
        if sector = "" ∨ seed = "" then .ok subject
        else .ok (pairwiseSubject p seed sector subject)
    | .ephemeral =>
        if seed = "" then .ok subject else .ok (ephemeralSubject p seed subject material)
    | .publicSubject => .ok subject

/-- `access_token_subject_claims`. -/
def accessTokenSubjectClaims (client : Client) (subject material : String) :
    List (String × Json) :=
  if subject = "" then []
  else
    ("client_id", .str client.clientId) ::
      if client.subjectType = .ephemeral ∧ material ≠ "" then
        [("subject_material", .str material)]
      else []

/-! ## The `claims` parameter -/

structure ClaimsRequest where
  userinfo : List String := []
  idToken : List String := []
  rawUserinfo : List (String × Json) := []
  rawIdToken : List (String × Json) := []

/-- A constraint of a requested claim: an object or `null`. -/
def isConstraint : Json → Bool
  | .null => true
  | .obj _ => true
  | _ => false

/-- One known member of the parameter: absent, or an object of constraints. -/
def claimsMember (name : String) (parsed : Json) : Option (List (String × Json)) :=
  match parsed.member name with
  | none => some []
  | some (.obj members) => if members.all fun m => isConstraint m.2 then some members else none
  | some _ => none

/-- `parse_claims_parameter`. -/
def parseClaimsParameter (value : String) : Option ClaimsRequest :=
  match p.jsonLoads value with
  | some (.obj members) => do
      let userinfo ← claimsMember "userinfo" (.obj members)
      let idToken ← claimsMember "id_token" (.obj members)
      some
        { userinfo := userinfo.map Prod.fst
          idToken := idToken.map Prod.fst
          rawUserinfo := userinfo
          rawIdToken := idToken }
  | _ => none

/-- `resolve_requested_claims`. -/
def resolveRequestedClaims (names : List String) (subject : String)
    (claimsProvider : Bool) : M ε (List (String × Json)) :=
  if names = [] ∨ ¬ claimsProvider ∨ subject = "" then pure []
  else do
    let claims ← ask (.getClaims subject) >>= orRaise
    pure (claims.filter fun m => m.1 ∈ names)

def verifiedClaimsMember : String := "verified_claims"

/-- The `claims` member of an access token: the requested userinfo names
(`requested_userinfo_payload`) and the raw eKYC request
(`verified_claims_payload`). -/
def userinfoPayload (request : ClaimsRequest) : List (String × Json) :=
  let names := if request.userinfo = [] then []
    else [("userinfo", Json.arr (request.userinfo.map Json.str))]
  let ekyc :=
    match (request.rawUserinfo.find? fun m => m.1 = verifiedClaimsMember).map Prod.snd with
    | none | some .null => []
    | some member => [("verified_claims_request", member)]
  if names ++ ekyc = [] then [] else [("claims", .obj (names ++ ekyc))]

/-! ## The `authorization_details` parameter -/

def openidCredentialType : String := "openid_credential"

def supportedCredentialConfigurationIds : List String :=
  ["puridentityserver-sdjwt-vc", "puridentityserver-mso-mdoc"]

/-- `_parse_detail`: the normalised detail, `none` for an ignored type. -/
def parseDetail (item : Json) : Except String (Option Json) :=
  match item with
  | .obj _ =>
      match (item.member "type").bind Json.asStr with
      | none => .error
          "type manquant ou invalide dans un détail d'autorisation (RFC 9396 §2)"
      | some detailType =>
          if detailType = "" then .error
            "type manquant ou invalide dans un détail d'autorisation (RFC 9396 §2)"
          else if detailType ≠ openidCredentialType then .ok none
          else
            let config := ((item.member "credential_configuration_id").bind Json.asStr).getD ""
            if config = "" then .error
              ("credential_configuration_id requis pour un détail openid_credential "
                ++ "(OpenID4VCI 1.0 §5.1.1)")
            else if config ∉ supportedCredentialConfigurationIds then
              .error ("credential_configuration_id inconnu : " ++ config)
            else
              let detail := [("type", Json.str openidCredentialType),
                ("credential_configuration_id", Json.str config)]
              match item.member "claims" with
              | none | some .null => .ok (some (.obj detail))
              | some (.obj claims) => .ok (some (.obj (detail ++ [("claims", .obj claims)])))
              | some _ => .error
                  "claims doit être un objet JSON dans un détail openid_credential"
  | _ => .error "chaque détail d'autorisation doit être un objet JSON (RFC 9396 §2)"

def parseDetails : List Json → Except String (List Json)
  | [] => .ok []
  | item :: rest => do
      let parsed ← parseDetail item
      let details ← parseDetails rest
      .ok (parsed.toList ++ details)

/-- `parse_authorization_details`; the error is the message of
`AuthorizationDetailsError`. -/
def parseAuthorizationDetails (raw : String) : Except String (List Json) :=
  if raw = "" then .ok []
  else
    match p.jsonLoads raw with
    | none => .error "authorization_details doit être un tableau JSON valide (RFC 9396 §2)"
    | some (.arr items) => parseDetails items
    | some _ => .error "authorization_details doit être un tableau JSON (RFC 9396 §2)"

/-- `grant_authorization_details`. -/
def grantAuthorizationDetails (details : List Json) : List Json :=
  details.map fun detail =>
    match detail with
    | .obj members =>
        .obj (members ++ [("credential_identifiers",
          .arr [(detail.member "credential_configuration_id").getD (.str "")])])
    | _ => detail

/-! ## Signature and encryption material -/

/-- `resolve_id_token_material`: algorithm and shared secret, `none` when
the secret of an `HS*` client cannot be recovered. -/
def resolveIdTokenMaterial (client : Client) (defaultAlgorithm : JWTAlgorithm)
    (secretCipher : Bool) : M ε (Option (JWTAlgorithm × String)) :=
  let configured := client.idTokenSignedResponseAlg
  if configured = "" then pure (some (defaultAlgorithm, ""))
  else
    match JWTAlgorithm.ofValue? configured with
    | none => pure (some (defaultAlgorithm, ""))
    | some algorithm =>
        if ¬ algorithm.isSymmetric then pure (some (algorithm, ""))
        else if ¬ secretCipher ∨ client.clientSecretCiphertext = "" then pure none
        else do
          let secret ← ask (.decryptSecret client.clientSecretCiphertext) >>= orRaise
          pure (some (algorithm, secret))

/-- `_resolve_method`. -/
def resolveMethod (configured : String) : Option String :=
  if configured = "" then some defaultEncryptionMethod
  else if configured ∈ jweEncryptionMethods then some configured
  else none

/-- `resolve_id_token_encryption`. -/
def resolveIdTokenEncryption (client : Client) (secretCipher : Bool) :
    M ε (Option (JWEKeyManagementAlgorithm × String × String)) :=
  match JWEKeyManagementAlgorithm.ofValue? client.idTokenEncryptedResponseAlg with
  | none => pure none
  | some algorithm =>
      match resolveMethod client.idTokenEncryptedResponseEnc with
      | none => pure none
      | some method =>
          if algorithm.isAsymmetric then pure (some (algorithm, method, ""))
          else if ¬ secretCipher ∨ client.clientSecretCiphertext = "" then pure none
          else do
            let secret ← ask (.decryptSecret client.clientSecretCiphertext) >>= orRaise
            pure (some (algorithm, method, secret))

/-- `encrypt_id_token_for_client`; `encrypter` tells whether one is
injected. -/
def encryptIdTokenForClient (idToken : String) (client : Client) (secretCipher : Bool)
    (encrypter : Bool) : M ε String :=
  if client.idTokenEncryptedResponseAlg = "" then pure idToken
  else if ¬ encrypter then
    raise (.jweUnavailable "aucun chiffreur d'id_token disponible")
  else do
    let material ← resolveIdTokenEncryption client secretCipher
    match material with
    | none => raise (.jweUnavailable "matériel de chiffrement d'id_token indisponible")
    | some (_, _, sharedSecret) =>
        ask (.encryptIdToken idToken client sharedSecret) >>= orRaise

/-! ## Footprints -/

theorem resolveRequestedClaims_services (names : List String) (subject : String)
    (claimsProvider : Bool) :
    (resolveRequestedClaims names subject claimsProvider : M ε _).Uses Call.Service := by
  unfold resolveRequestedClaims
  split
  · exact Prog.uses_pure _ _
  · exact Prog.uses_bind (Prog.uses_bind (Prog.uses_op trivial) fun _ => uses_orRaise _ _)
      fun _ => Prog.uses_pure _ _

theorem resolveIdTokenMaterial_services (client : Client) (defaultAlgorithm : JWTAlgorithm)
    (secretCipher : Bool) :
    (resolveIdTokenMaterial client defaultAlgorithm secretCipher : M ε _).Uses
      Call.Service := by
  unfold resolveIdTokenMaterial
  dsimp only
  split
  · exact Prog.uses_pure _ _
  split
  · exact Prog.uses_pure _ _
  split
  · exact Prog.uses_pure _ _
  split
  · exact Prog.uses_pure _ _
  exact Prog.uses_bind (Prog.uses_bind (Prog.uses_op trivial) fun _ => uses_orRaise _ _)
    fun _ => Prog.uses_pure _ _

theorem resolveIdTokenEncryption_services (client : Client) (secretCipher : Bool) :
    (resolveIdTokenEncryption client secretCipher : M ε _).Uses Call.Service := by
  unfold resolveIdTokenEncryption
  split
  · exact Prog.uses_pure _ _
  split
  · exact Prog.uses_pure _ _
  split
  · exact Prog.uses_pure _ _
  split
  · exact Prog.uses_pure _ _
  exact Prog.uses_bind (Prog.uses_bind (Prog.uses_op trivial) fun _ => uses_orRaise _ _)
    fun _ => Prog.uses_pure _ _

theorem encryptIdTokenForClient_services (idToken : String) (client : Client)
    (secretCipher encrypter : Bool) :
    (encryptIdTokenForClient idToken client secretCipher encrypter : M ε _).Uses
      Call.Service := by
  unfold encryptIdTokenForClient
  split
  · exact Prog.uses_pure _ _
  split
  · exact Prog.uses_fail _ _
  refine Prog.uses_bind (resolveIdTokenEncryption_services client secretCipher) fun material => ?_
  split
  · exact Prog.uses_fail _ _
  · exact Prog.uses_bind (Prog.uses_op trivial) fun _ => uses_orRaise _ _

theorem resolveRequestedClaims_uses (names : List String) (subject : String)
    (claimsProvider : Bool) :
    (resolveRequestedClaims names subject claimsProvider : M ε _).Uses (Call.In [.keys]) :=
  (resolveRequestedClaims_services names subject claimsProvider).mono fun _ => Call.Service.in_keys

theorem resolveIdTokenMaterial_uses (client : Client) (defaultAlgorithm : JWTAlgorithm)
    (secretCipher : Bool) :
    (resolveIdTokenMaterial client defaultAlgorithm secretCipher : M ε _).Uses
      (Call.In [.keys]) :=
  (resolveIdTokenMaterial_services client defaultAlgorithm secretCipher).mono
    fun _ => Call.Service.in_keys

theorem encryptIdTokenForClient_uses (idToken : String) (client : Client)
    (secretCipher encrypter : Bool) :
    (encryptIdTokenForClient idToken client secretCipher encrypter : M ε _).Uses
      (Call.In [.keys]) :=
  (encryptIdTokenForClient_services idToken client secretCipher encrypter).mono
    fun _ => Call.Service.in_keys

end

end PurIdentityServer

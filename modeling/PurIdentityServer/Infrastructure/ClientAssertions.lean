import PurIdentityServer.Domain.Authorization
import PurIdentityServer.Infrastructure.Jwt

/-!
# ClientAssertions — verifying what a client signed

The key that verifies a client's JWT comes from the JWK Set it registered,
inline or at its `jwks_uri`, or is its shared secret. An assertion is
dispatched on the algorithm its header names: an HMAC one is verified
with the client's decrypted secret, any other with a registered key.
-/

namespace PurIdentityServer

open Effects

/-- What the verification of client signatures asks of the outside. -/
structure ClientKeys (κ : Type) where
  jwt : PyJwt κ
  /-- the key `PyJWKClient(jwks_uri)` finds for a `kid` (`""` when the header has
  none), `none` when it raises -/
  remoteKey : (jwksUri kid : String) → Option κ
  /-- `secret_cipher.decrypt`, `none` when it raises -/
  decryptSecret : (ciphertext : String) → Option String

namespace ClientKeys

variable {κ : Type} (keys : ClientKeys κ)

/-- `_HMAC_ALGORITHMS` -/
def hmacAlgorithms : List String := ["HS256", "HS384", "HS512"]

/-- A registered JWK that is not declared for encryption. -/
def usableForSigning : Json → Option Members
  | .obj jwk =>
      match Dict.get jwk "use" with
      | some (.str "enc") => none
      | _ => some jwk
  | _ => none

/-- The keys `PyJWKSet` builds, with their `kid`: it skips the ones `PyJWK` refuses, and
lets any other exception of an import through. -/
def keySet (jwks : List Json) : Option (List (Option Json × κ)) :=
  let signing := jwks.filterMap usableForSigning
  if signing.any keys.jwt.importRaises then none
  else some (signing.filterMap fun jwk =>
    (keys.jwt.publicKey jwk).map fun key => (jwk.get "kid", key))

/-- `candidate.key_id == kid` -/
def hasKeyId (kid : String) (candidate : Option Json × κ) : Bool :=
  match candidate.1 with
  | some (.str value) => value = kid
  | _ => false

/-- `_embedded_signing_key` -/
def embeddedSigningKey (jwks : List Json) (kid : String) : Option κ :=
  match keys.keySet jwks with
  | none => none
  | some candidates =>
      if kid = "" then
        match candidates with
        | [candidate] => some candidate.2
        | _ => none
      else (candidates.find? (hasKeyId kid)).map Prod.snd

/-- The `kid` of a header, `""` when it has none. -/
def keyId (header : Members) : String :=
  match header.get "kid" with
  | some (.str kid) => kid
  | _ => ""

/-- `resolve_signing_key`; what it raises and the key it does not find are both `none`. -/
def resolveSigningKey (token : String) (jwks : List Json) (jwksUri : String) : Option κ :=
  match keys.jwt.header token with
  | none => none
  | some header =>
      if !jwks.isEmpty then keys.embeddedSigningKey jwks (keyId header)
      else if jwksUri = "" then none
      else keys.remoteKey jwksUri (keyId header)

/-- The keys a client has registered: built from its inline JWK Set, or
published at its `jwks_uri`. -/
def Registered (client : Client) (key : κ) : Prop :=
  (∃ jwk, .obj jwk ∈ client.jwks ∧ keys.jwt.publicKey jwk = some key) ∨
    client.jwksUri ≠ "" ∧ ∃ kid, keys.remoteKey client.jwksUri kid = some key

theorem mem_keySet {jwks : List Json} {candidates : List (Option Json × κ)}
    {candidate : Option Json × κ} (hset : keys.keySet jwks = some candidates)
    (h : candidate ∈ candidates) :
    ∃ jwk, .obj jwk ∈ jwks ∧ keys.jwt.publicKey jwk = some candidate.2 := by
  unfold keySet at hset
  dsimp only at hset
  split at hset
  · cases hset
  cases hset
  obtain ⟨jwk, hjwk, hkey⟩ := List.mem_filterMap.mp h
  obtain ⟨value, hvalue, husable⟩ := List.mem_filterMap.mp hjwk
  obtain ⟨key, hpublic, heq⟩ := Option.map_eq_some_iff.mp hkey
  have hobj : value = .obj jwk := by
    unfold usableForSigning at husable
    split at husable
    · split at husable <;> cases husable
      rfl
    · cases husable
  refine ⟨jwk, hobj ▸ hvalue, ?_⟩
  rw [hpublic, ← heq]

/-- A resolved key is one the client registered. -/
theorem resolveSigningKey_registered {token : String} {client : Client} {key : κ}
    (h : keys.resolveSigningKey token client.jwks client.jwksUri = some key) :
    keys.Registered client key := by
  unfold resolveSigningKey at h
  split at h
  · cases h
  · rename_i header _
    split at h
    · left
      unfold embeddedSigningKey at h
      split at h
      · cases h
      rename_i candidates hset
      split at h
      · split at h
        · rename_i candidate
          cases h
          exact keys.mem_keySet hset (List.mem_singleton_self _)
        · cases h
      · obtain ⟨candidate, hfind, hkey⟩ := Option.map_eq_some_iff.mp h
        subst hkey
        exact keys.mem_keySet hset (List.mem_of_find?_eq_some hfind)
    · split at h
      · cases h
      · rename_i huri
        exact .inr ⟨huri, _, h⟩

/-! ## Assertions -/

/-- `_decode` -/
def decodeAssertion (now : Instant) (token : String) (key : κ) (algorithms : List String)
    (audience : List String) (issuer : String) (requireIssEqSub : Bool) :
    Except Raised (Option Members) :=
  let options : DecodeOptions :=
    { require := ["exp", "iss", "aud"], verifySub := !requireIssEqSub
      audience := some audience, issuer := some issuer, leeway := 30 }
  match keys.jwt.decode options now token key algorithms with
  | .error e => if e.isPyJWTError then .ok none else .error (.other "TypeError")
  | .ok claims =>
      match claims.get "sub", claims.get "iss" with
      | some (.str sub), some (.str iss) =>
          .ok (if (requireIssEqSub && sub ≠ iss) || sub = "" then none else some claims)
      | some sub, _ =>
          -- a `sub` that is not a string differs from `iss`, which is one
          .ok (if requireIssEqSub || !sub.truthy then none else some claims)
      | none, _ => .ok none

/-- The header's `alg`. -/
def headerAlgorithm (token : String) : Option String :=
  ((keys.jwt.header token).bind fun header => header.get "alg").bind Json.asStr

/-- `_hmac_secret` -/
def hmacSecret (client : Client) : Option String :=
  if client.clientSecretCiphertext = "" then none
  else keys.decryptSecret client.clientSecretCiphertext

/-- `verify_hmac_assertion` -/
def verifyHmacAssertion (now : Instant) (token secret : String) (audience : List String)
    (issuer : String) (requireIssEqSub : Bool) : Except Raised (Option Members) :=
  if secret = "" then .ok none
  else keys.decodeAssertion now token (keys.jwt.secretKey secret) hmacAlgorithms audience issuer
    requireIssEqSub

/-- `verify_jwks_assertion` -/
def verifyJwksAssertion (now : Instant) (token algorithm : String) (audience : List String)
    (client : Client) (requireIssEqSub : Bool) : Except Raised (Option Members) :=
  match keys.resolveSigningKey token client.jwks client.jwksUri with
  | none => .ok none
  | some key =>
      keys.decodeAssertion now token key [algorithm] audience client.clientId requireIssEqSub

/-- `PyJWTClientAssertionVerifier.verify` -/
def verify (now : Instant) (token : String) (client : Client) (audience : List String)
    (requireIssEqSub : Bool) : Except Raised (Option Members) :=
  match keys.headerAlgorithm token with
  | none => .ok none
  | some algorithm =>
      if algorithm ∈ hmacAlgorithms then
        match keys.hmacSecret client with
        | none => .ok none
        | some secret =>
            keys.verifyHmacAssertion now token secret audience client.clientId requireIssEqSub
      else keys.verifyJwksAssertion now token algorithm audience client requireIssEqSub

/-! ## What a verification accepts -/

/-- The assertion is signed with the secret shared with the client. -/
def SignedBySecret (client : Client) (token : String) : Prop :=
  ∃ secret, secret ≠ "" ∧ keys.hmacSecret client = some secret ∧
    keys.jwt.signed token (keys.jwt.secretKey secret) hmacAlgorithms = true

/-- The assertion is signed with a key the client registered. -/
def SignedByKey (client : Client) (token : String) : Prop :=
  ∃ algorithm key, algorithm ∉ hmacAlgorithms ∧ keys.Registered client key ∧
    keys.jwt.signed token key [algorithm] = true

/-- The verification with the shared secret ends with the claims. -/
def AcceptedBySecret (now : Instant) (token : String) (client : Client) (audience : List String)
    (requireIssEqSub : Bool) (claims : Members) : Prop :=
  (∃ algorithm ∈ hmacAlgorithms, keys.headerAlgorithm token = some algorithm) ∧
    ∃ secret, secret ≠ "" ∧ keys.hmacSecret client = some secret ∧
      keys.decodeAssertion now token (keys.jwt.secretKey secret) hmacAlgorithms audience
        client.clientId requireIssEqSub = .ok (some claims)

/-- The verification with a registered key ends with the claims. -/
def AcceptedByKey (now : Instant) (token : String) (client : Client) (audience : List String)
    (requireIssEqSub : Bool) (claims : Members) : Prop :=
  ∃ algorithm, algorithm ∉ hmacAlgorithms ∧ keys.headerAlgorithm token = some algorithm ∧
    ∃ key, keys.resolveSigningKey token client.jwks client.jwksUri = some key ∧
      keys.decodeAssertion now token key [algorithm] audience client.clientId requireIssEqSub
        = .ok (some claims)

variable {keys} {now : Instant} {token issuer : String} {client : Client}
  {audience algorithms : List String} {requireIssEqSub : Bool} {claims : Members}

theorem decodeAssertion_signed {key : κ}
    (h : keys.decodeAssertion now token key algorithms audience issuer requireIssEqSub
      = .ok (some claims)) : keys.jwt.signed token key algorithms = true := by
  unfold decodeAssertion at h
  dsimp only at h
  split at h
  · split at h <;> cases h
  · rename_i found hdecode
    exact (keys.jwt.decode_eq_ok.mp hdecode).2.1

theorem AcceptedBySecret.signed
    (h : keys.AcceptedBySecret now token client audience requireIssEqSub claims) :
    keys.SignedBySecret client token := by
  obtain ⟨_, secret, hne, hsecret, hdecode⟩ := h
  exact ⟨secret, hne, hsecret, decodeAssertion_signed hdecode⟩

theorem AcceptedByKey.signed
    (h : keys.AcceptedByKey now token client audience requireIssEqSub claims) :
    keys.SignedByKey client token := by
  obtain ⟨algorithm, halgorithm, _, key, hkey, hdecode⟩ := h
  exact ⟨algorithm, key, halgorithm, keys.resolveSigningKey_registered hkey,
    decodeAssertion_signed hdecode⟩

/-- A header names one algorithm: no assertion is signed both ways. -/
theorem SignedBySecret.not_signedByKey (h : keys.SignedBySecret client token) :
    ¬keys.SignedByKey client token := by
  rintro ⟨algorithm, key, halgorithm, _, hkey⟩
  obtain ⟨secret, _, _, hsecret⟩ := h
  obtain ⟨header, named, hheader, hnamed, hmem⟩ := keys.jwt.signed_algorithm _ _ _ hsecret
  obtain ⟨header', named', hheader', hnamed', hmem'⟩ := keys.jwt.signed_algorithm _ _ _ hkey
  rw [hheader] at hheader'
  cases hheader'
  rw [hnamed] at hnamed'
  cases hnamed'
  rw [List.mem_singleton.mp hmem'] at hmem
  exact halgorithm hmem

/-- The header decides which of the two verifications an assertion passes. -/
theorem verify_eq_some :
    keys.verify now token client audience requireIssEqSub = .ok (some claims) ↔
      keys.AcceptedBySecret now token client audience requireIssEqSub claims ∨
        keys.AcceptedByKey now token client audience requireIssEqSub claims := by
  unfold verify AcceptedBySecret AcceptedByKey
  cases halgorithm : keys.headerAlgorithm token with
  | none => simp
  | some algorithm =>
      by_cases hhmac : algorithm ∈ hmacAlgorithms
      · cases hsecret : keys.hmacSecret client with
        | none => simp [hhmac]
        | some secret =>
            by_cases hempty : secret = ""
            · simp [hhmac, verifyHmacAssertion, hempty]
            · simp [hhmac, verifyHmacAssertion, hempty]
      · cases hkey : keys.resolveSigningKey token client.jwks client.jwksUri with
        | none => simp [hhmac, verifyJwksAssertion, hkey]
        | some key => simp [hhmac, verifyJwksAssertion, hkey]

end ClientKeys

end PurIdentityServer

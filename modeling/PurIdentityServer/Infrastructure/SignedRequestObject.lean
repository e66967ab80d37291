import PurIdentityServer.Infrastructure.ClientAssertions
import PurIdentityServer.Lib.Fallible
import PurIdentityServer.Lib.Table

/-!
# SignedRequestObject — verifying a signed request object

The verifier checks the header's algorithm, the signature under a
registered key of the client, the registered claims and, when asked, the
replay store: a digest of the namespaced `jti` that is already there is a
replay, and a new one is recorded until the object expires. The store is
shared with the DPoP proofs, which record the digest of their bare `jti`.
-/

namespace PurIdentityServer

open Effects

/-- The replay store, one row for a digest. -/
abbrev ReplayStore := Table DPoPReplay.jtiHash

/-- `purge_expired` -/
def purgeReplays (replays : ReplayStore) (now : Instant) : ReplayStore :=
  replays.filter fun row => now < row.expiresAt

/-- The clock of one verification, read when the claims are validated, when the
time bounds are checked and when the store is purged. -/
structure Readings where
  decode : Instant
  bounds : Instant
  purge : Instant
  decode_le : decode ≤ bounds
  bounds_le : bounds ≤ purge

/-- `SignedRequestObjectResult` -/
inductive SignedRequestObjectResult where
  | accepted (claims : Members)
  | refused (reason : String)

/-- What a verifier of signed request objects is built on. -/
structure SignedObjects (κ : Type) extends ClientKeys κ where
  /-- `jti_hash` -/
  jtiHash : String → String
  /-- `repr(value)` of a string -/
  printed : String → String

namespace SignedObjects

variable {κ : Type} (verifier : SignedObjects κ)

/-- A verification: it may change the replay store, and may raise. -/
abbrev Verification (α : Type) := StateT ReplayStore (Except Raised) α

/-- `MAX_REQUEST_OBJECT_LIFETIME_SECONDS` -/
def maxLifetimeSeconds : Int := 3600

/-- `_timestamp` -/
def timestamp (claims : Members) (name : String) : Except Json.ConversionError Int :=
  match claims.get name with
  | some (.num text) => .ok (Json.truncated text)
  | some (.str text) => (Json.str text).toInt
  | _ => .error .typeError

/-- The reason for which the claims are refused. -/
def refusal (client : Client) : JwtError → String
  | .missingRequiredClaim name =>
      "claim requis absent : Token is missing the \"" ++ name ++ "\" claim"
  | .expiredSignature => "request object expiré (claim exp)"
  | .immatureSignature => "request object pas encore valide (claim nbf)"
  | .invalidIssuer => "claim iss différent du client " ++ verifier.printed client.clientId
  | .invalidAudience => "claim aud différent de l'issuer"
  | _ => "signature du request object invalide"

/-- The options of `_claims`. -/
def claimsOptions (issuer : String) (client : Client) (required : List String) :
    DecodeOptions where
  require := required
  audience := some [issuer]
  issuer := some client.clientId

/-- `_claims` -/
def claims (now : Instant) (token algorithm : String) (key : κ) (issuer : String)
    (client : Client) (required : List String) : Except Raised (Except String Members) :=
  match verifier.jwt.decode (claimsOptions issuer client required) now token key [algorithm] with
  | .ok claims => .ok (.ok claims)
  | .error e =>
      if e.isPyJWTError then .ok (.error (verifier.refusal client e))
      else .error (.other "TypeError")

/-- `_temporal_bounds`; the reason of a refusal. -/
def temporalBounds (now : Instant) (claims : Members) (required : List String) : Option String :=
  if "nbf" ∉ required then none
  else
    match timestamp claims "exp", timestamp claims "nbf" with
    | .ok exp, .ok nbf =>
        if exp - nbf > maxLifetimeSeconds then
          some "durée de vie (exp - nbf) supérieure à 60 minutes (FAPI-CIBA-ID1 §5.2.2)"
        else if exp > now.epoch + maxLifetimeSeconds then
          some "claim exp plus de 60 minutes dans le futur (FAPI1-ADV-5.2.2-13)"
        else if nbf < now.epoch - maxLifetimeSeconds then
          some "claim nbf plus de 60 minutes dans le passé (FAPI1-ADV-5.2.2-17)"
        else none
    | _, _ => some "claims exp/nbf invalides (entiers attendus)"

/-- The largest second `datetime.fromtimestamp` knows, in year 9999. -/
def maxTimestamp : Int := 253402300799

/-- `datetime.fromtimestamp` of a claim's integer, which raises beyond year 9999. -/
def expiration (claims : Members) : Except Raised Instant :=
  match timestamp claims "exp" with
  | .ok exp =>
      if -62135596800 ≤ exp ∧ exp ≤ maxTimestamp then .ok (seconds exp)
      else .error (.other "ValueError")
  | .error _ => .error (.other "ValueError")

/-- The refusal of a `jti` seen before. -/
def replayed : String := "claim jti déjà présenté (anti-replay)"

/-- The digest under which a `jti` is remembered. -/
def digest (namespaceText jti : String) : String := verifier.jtiHash (namespaceText ++ jti)

/-- `_remember_jti` -/
def rememberJti (now : Instant) (claims : Members) (namespaceText : String) :
    Verification SignedRequestObjectResult := fun replays =>
  match claims.get "jti" with
  | some (.str jti) =>
      if jti = "" then .ok (.refused "claim jti absent ou vide", replays)
      else if (replays.find (verifier.digest namespaceText jti)).isSome then
        .ok (.refused replayed, replays)
      else do
        let expiresAt ← expiration claims
        let recorded := replays.save ⟨verifier.digest namespaceText jti, expiresAt⟩
        .ok (.accepted claims, purgeReplays recorded now)
  | _ => .ok (.refused "claim jti absent ou vide", replays)

/-- `_signing_key` -/
def signingKey (token : String) (client : Client) : Option κ :=
  verifier.resolveSigningKey token client.jwks client.jwksUri

/-- The header's algorithm as the verifier reads it. -/
def algorithmOf (token : String) : Option String :=
  (verifier.jwt.header token).map fun header =>
    match header.get "alg" with
    | some (.str algorithm) => algorithm
    | _ => ""

/-- `PyJWTSignedRequestObjectVerifier.verify` -/
def verifySigned (at_ : Readings) (token : String) (client : Client) (issuer : String)
    (allowed required : List String) (enforceJti : Bool) (namespaceText : String) :
    Verification SignedRequestObjectResult := fun replays =>
  match verifier.algorithmOf token with
  | none => .ok (.refused "JWT attendu (en-tête illisible)", replays)
  | some algorithm =>
      if algorithm ∉ allowed then
        .ok (.refused ("algorithme de signature non admis : " ++ verifier.printed algorithm),
          replays)
      else
        match verifier.signingKey token client with
        | none =>
            .ok (.refused "aucune clé du client ne correspond à l'en-tête du jeton", replays)
        | some key => do
            match ← verifier.claims at_.decode token algorithm key issuer client required with
            | .error reason => .ok (.refused reason, replays)
            | .ok claims =>
                match temporalBounds at_.bounds claims required with
                | some reason => .ok (.refused reason, replays)
                | none =>
                    if enforceJti then
                      verifier.rememberJti at_.purge claims namespaceText replays
                    else .ok (.accepted claims, replays)

/-! ## What an accepted object has passed -/

/-- The object is signed, by one of the algorithms, with a key the client has
registered; the claims are its own, its `iss` is the client and none of the
required ones is missing. -/
structure VerifiedFor (client : Client) (algorithms required : List String) (token : String)
    (claims : Members) : Prop where
  signed : ∃ algorithm key, verifier.algorithmOf token = some algorithm ∧
    algorithm ∈ algorithms ∧ verifier.Registered client key ∧
    verifier.jwt.signed token key [algorithm] = true
  payload : verifier.jwt.payload token = some claims
  issuer : claims.get "iss" = some (.str client.clientId)
  required : ∀ name ∈ required, PyJwt.hasClaim claims name = true

variable {verifier}

theorem claims_ok {now : Instant} {token algorithm issuer : String} {key : κ} {client : Client}
    {required : List String} {found : Members}
    (h : verifier.claims now token algorithm key issuer client required = .ok (.ok found)) :
    verifier.jwt.decode (claimsOptions issuer client required) now token key [algorithm]
      = .ok found := by
  unfold claims at h
  split at h
  · rename_i decoded hdecode
    cases h
    exact hdecode
  · split at h <;> cases h

theorem rememberJti_accepted {now : Instant} {claims found : Members} {namespaceText : String}
    {replays replays' : ReplayStore}
    (h : verifier.rememberJti now claims namespaceText replays
      = .ok (.accepted found, replays')) :
    found = claims ∧ ∃ jti expiresAt, claims.get "jti" = some (.str jti) ∧
      replays.find (verifier.digest namespaceText jti) = none ∧
      expiration claims = .ok expiresAt ∧
      replays' = purgeReplays
        (replays.save ⟨verifier.digest namespaceText jti, expiresAt⟩) now := by
  unfold rememberJti at h
  split at h
  · rename_i jti hjti
    split at h
    · cases h
    split at h
    · cases h
    · rename_i hunused
      obtain ⟨expiresAt, hexpires, h⟩ := bind_eq_ok.mp h
      cases h
      have hnone : replays.find (verifier.digest namespaceText jti) = none := by
        simpa using hunused
      exact ⟨rfl, jti, expiresAt, hjti, hnone, hexpires, rfl⟩
  · cases h

/-- The token is signed by one of the algorithms with a key the client's header resolves to. -/
def CorrectlySigned (verifier : SignedObjects κ) (client : Client) (allowed : List String)
    (token : String) (claims : Members) : Prop :=
  ∃ algorithm key, verifier.algorithmOf token = some algorithm ∧ algorithm ∈ allowed ∧
    verifier.signingKey token client = some key ∧ verifier.jwt.payload token = some claims ∧
    verifier.jwt.signed token key [algorithm] = true

/-- What is left of the verification once PyJWT has let the claims through. -/
def settled (verifier : SignedObjects κ) (at_ : Readings) (claims : Members)
    (required : List String) (enforceJti : Bool) (namespaceText : String) :
    Verification SignedRequestObjectResult := fun replays =>
  match temporalBounds at_.bounds claims required with
  | some reason => .ok (.refused reason, replays)
  | none =>
      if enforceJti then verifier.rememberJti at_.purge claims namespaceText replays
      else .ok (.accepted claims, replays)

/-- A correctly signed token whose claims PyJWT lets through. -/
theorem verifySigned_validated {at_ : Readings} {token issuer : String} {client : Client}
    {allowed required : List String} {claims : Members}
    (hsigned : verifier.CorrectlySigned client allowed token claims)
    (hvalid : PyJwt.validateClaims (claimsOptions issuer client required) at_.decode claims
      = .ok ()) (enforceJti : Bool) (namespaceText : String) (replays : ReplayStore) :
    verifier.verifySigned at_ token client issuer allowed required enforceJti namespaceText
      replays = verifier.settled at_ claims required enforceJti namespaceText replays := by
  obtain ⟨algorithm, key, halgorithm, hallowed, hkey, hpayload, hverifies⟩ := hsigned
  have hdecode := verifier.jwt.decode_eq_ok.mpr ⟨hpayload, hverifies, hvalid⟩
  unfold verifySigned SignedObjects.claims settled
  simp only [halgorithm, hallowed, not_true_eq_false, if_false, hkey, hdecode]
  rfl

/-- An accepted token is correctly signed and PyJWT lets its claims through. -/
theorem verifySigned_settled {at_ : Readings} {token issuer namespaceText : String}
    {client : Client} {allowed required : List String} {enforceJti : Bool} {claims : Members}
    {replays replays' : ReplayStore}
    (h : verifier.verifySigned at_ token client issuer allowed required enforceJti namespaceText
      replays = .ok (.accepted claims, replays')) :
    verifier.CorrectlySigned client allowed token claims ∧
      PyJwt.validateClaims (claimsOptions issuer client required) at_.decode claims = .ok () ∧
      verifier.settled at_ claims required enforceJti namespaceText replays
        = .ok (.accepted claims, replays') := by
  unfold verifySigned at h
  split at h
  · cases h
  · rename_i algorithm halgorithm
    split at h
    · cases h
    · rename_i hallowed
      have hallowed : algorithm ∈ allowed := not_not.mp hallowed
      split at h
      · cases h
      · rename_i key hkey
        obtain ⟨result, hclaims, h⟩ := bind_eq_ok.mp h
        cases result with
        | error reason => cases h
        | ok found =>
            simp only at h
            obtain ⟨hpayload, hsigned, hvalid⟩ := verifier.jwt.decode_eq_ok.mp (claims_ok hclaims)
            have hsettled : verifier.settled at_ found required enforceJti namespaceText replays
                = .ok (.accepted claims, replays') := h
            have hfound : claims = found := by
              split at h
              · cases h
              · cases enforceJti with
                | true => exact (rememberJti_accepted h).1
                | false =>
                    cases h
                    rfl
            subst hfound
            exact ⟨⟨algorithm, key, halgorithm, hallowed, hkey, hpayload, hsigned⟩, hvalid,
              hsettled⟩

/-- A settled verification that accepts has passed the time bounds. -/
theorem settled_accepted {at_ : Readings} {claims found : Members} {required : List String}
    {enforceJti : Bool} {namespaceText : String} {replays replays' : ReplayStore}
    (h : verifier.settled at_ claims required enforceJti namespaceText replays
      = .ok (.accepted found, replays')) :
    temporalBounds at_.bounds claims required = none ∧
      if enforceJti then
        verifier.rememberJti at_.purge claims namespaceText replays
          = .ok (.accepted found, replays')
      else replays' = replays := by
  unfold settled at h
  split at h
  · cases h
  · rename_i hbounds
    refine ⟨hbounds, ?_⟩
    cases enforceJti with
    | true => exact h
    | false =>
        cases h
        rfl

theorem verifySigned_accepted {at_ : Readings} {token issuer namespaceText : String}
    {client : Client} {allowed required : List String} {enforceJti : Bool} {claims : Members}
    {replays replays' : ReplayStore}
    (h : verifier.verifySigned at_ token client issuer allowed required enforceJti namespaceText
      replays = .ok (.accepted claims, replays')) :
    verifier.VerifiedFor client allowed required token claims ∧
      PyJwt.validateClaims (claimsOptions issuer client required) at_.decode claims = .ok () ∧
      if enforceJti then
        verifier.rememberJti at_.purge claims namespaceText replays
          = .ok (.accepted claims, replays')
      else replays' = replays := by
  obtain ⟨hcorrect, hvalid, hsettled⟩ := verifySigned_settled h
  obtain ⟨algorithm, key, halgorithm, hallowed, hkey, hpayload, hsigned⟩ := hcorrect
  obtain ⟨hrequired, _, _, _, hiss, _⟩ := PyJwt.validateClaims_ok.mp hvalid
  have hregistered : verifier.Registered client key := verifier.resolveSigningKey_registered hkey
  refine ⟨⟨⟨algorithm, key, halgorithm, hallowed, hregistered, hsigned⟩, hpayload,
    PyJwt.validateIss_ok.mp hiss, PyJwt.validateRequired_ok.mp hrequired⟩, hvalid, ?_⟩
  exact (settled_accepted hsettled).2

end SignedObjects

end PurIdentityServer

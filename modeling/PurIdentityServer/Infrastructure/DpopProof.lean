import PurIdentityServer.Application.ClientAuth
import PurIdentityServer.Infrastructure.Jwt

/-!
# DpopProof — validating a DPoP proof

`PyJWTDpopProofValidator.validate`, with every check it makes before it
records the `jti`: the header and its public key, the claims against the
request, the times against the clock, the signature. Reading a proof,
building a key and converting a number to a date are the libraries' own;
the order of the checks, their bounds and what each refuses are the
server's.

The token endpoint sees the validator through a port
(`validateProof`); `validateProof_run` says that nothing is lost there.
-/

namespace PurIdentityServer

open Effects

/-- `DPOP_PROOF_TYPE` -/
def dpopProofType : String := "dpop+jwt"

/-- `DPOP_MAX_LIFETIME_SECONDS` -/
def dpopMaxLifetimeSeconds : Int := 50 * 365 * 24 * 3600

/-- `DPOP_SIGNING_ALGORITHMS` -/
def dpopSigningAlgorithms : List String :=
  ["PS256", "PS384", "PS512", "ES256", "ES384", "ES512"]

/-- The validator, with what it asks of the libraries about keys `κ`. -/
structure PyJWTDpopProofValidator (κ : Type) where
  platform : Platform
  jwt : PyJwt κ
  /-- `PyJWK(jwk, algorithm=alg).key`, `none` on the exceptions that are caught -/
  publicKeyFor : (jwk : Members) → (alg : String) → Option κ
  /-- `datetime.fromtimestamp` of a number, in UTC -/
  fromTimestamp : (number : String) → Raising Instant
  /-- `number > moment.timestamp()` -/
  exceeds : (number : String) → Instant → Bool

namespace PyJWTDpopProofValidator

/-- A check: its value, a rejection of the proof, or an exception nothing catches. -/
abbrev Checked (α : Type) := Except (Stop DpopValidationError) α

/-- `_reject` -/
def reject (description : String) : DpopValidationError := ⟨"invalid_dpop_proof", description⟩

def rejected {α : Type} (description : String) : Checked α :=
  .error (.refused (reject description))

/-- A library call that may raise. -/
def uncaught {α : Type} : Raising α → Checked α
  | .ok a => .ok a
  | .error x => .error (.raised x)

/-! ## Header and key -/

/-- `_PRIVATE_JWK_MEMBERS` -/
def privateJwkMembers : List String := ["d", "p", "q", "dp", "dq", "qi", "k", "oth"]

/-- `_ES_CURVES.get(alg)` -/
def esCurve : String → Option String
  | "ES256" => some "P-256"
  | "ES384" => some "P-384"
  | "ES512" => some "P-521"
  | _ => none

/-- `members.get(name) == value`, for a string. -/
def holds (members : Members) (name value : String) : Bool :=
  (members.get name).bind Json.asStr = some value

/-- `_check_header` -/
def checkHeader (header : Members) : Checked (String × Members) :=
  if !holds header "typ" dpopProofType then rejected "En-tête 'typ' doit valoir 'dpop+jwt'"
  else
    match header.get "alg" with
    | some (.str alg) =>
        if alg ∉ dpopSigningAlgorithms then
          rejected "En-tête 'alg' absent ou algorithme non autorisé pour une preuve DPoP"
        else
          match header.get "jwk" with
          | some (.obj jwk) => .ok (alg, jwk)
          | _ => rejected "En-tête 'jwk' absent ou non objet"
    | _ => rejected "En-tête 'alg' absent ou algorithme non autorisé pour une preuve DPoP"

/-- The members the thumbprint of a key is made of; `none` for another family. -/
def thumbprintMembers (jwk : Members) : Option (List String) :=
  if holds jwk "kty" "RSA" then some ["e", "kty", "n"]
  else if holds jwk "kty" "EC" then some ["crv", "kty", "x", "y"]
  else if holds jwk "kty" "OKP" then some ["crv", "kty", "x"]
  else none

/-- `jwk[name] for name in required`, `none` on a `KeyError`. -/
def membersOf (jwk : Members) : List String → Option Members
  | [] => some []
  | name :: rest => do
      let value ← jwk.get name
      let members ← membersOf jwk rest
      some ((name, value) :: members)

variable {κ : Type} (v : PyJWTDpopProofValidator κ)

/-- `jwk_thumbprint`, `none` when it raises. -/
def jwkThumbprint (jwk : Members) : Option String := do
  let required ← thumbprintMembers jwk
  let members ← membersOf jwk required
  some (v.platform.sha256Base64Url (v.platform.jsonDumps (.obj members)))

/-- `_check_jwk` -/
def checkJwk (jwk : Members) (alg : String) : Checked (κ × String) :=
  if jwk.keys.any (privateJwkMembers.contains ·) then
    rejected "La 'jwk' de la preuve contient une clé privée ou symétrique"
  else if holds jwk "kty" "RSA" && !(Text.startsWith alg "RS" || Text.startsWith alg "PS") then
    rejected "La 'jwk' (RSA) ne correspond pas à l'algorithme 'alg'"
  else if holds jwk "kty" "EC" && !Text.startsWith alg "ES" then
    rejected "La 'jwk' (EC) ne correspond pas à l'algorithme 'alg'"
  else if (esCurve alg).any fun curve => !holds jwk "crv" curve then
    rejected ("Courbe 'crv' inattendue pour " ++ alg)
  else
    match v.publicKeyFor jwk alg, v.jwkThumbprint jwk with
    | some key, some thumbprint => .ok (key, thumbprint)
    | _, _ => rejected "La 'jwk' de la preuve est invalide"

/-! ## Claims -/

/-- `_strip_query_fragment` -/
def stripQueryFragment (url : String) : String :=
  String.ofList ((url.toList.takeWhile (· ≠ '?')).takeWhile (· ≠ '#'))

/-- `default_port` of `_normalize_htu` -/
def defaultPort : String → Option Nat
  | "http" => some 80
  | "https" => some 443
  | _ => none

/-- `_normalize_htu` -/
def normalizeHtu (url : String) : Raising String := do
  let parts ← v.platform.urlsplit url
  let hostname := parts.hostname.getD ""
  let host := if ':' ∈ hostname.toList then "[" ++ hostname ++ "]" else hostname
  let netloc :=
    match parts.port with
    | none => host
    | some port =>
        if defaultPort parts.scheme = some port then host else host ++ ":" ++ toString port
  .ok (parts.scheme ++ "://" ++ netloc ++ (if parts.path = "" then "/" else parts.path))

/-- `_htu_matches` -/
def htuMatches (claimUrl endpointUrl : String) : Raising Bool := do
  let claimed ← v.normalizeHtu claimUrl
  let expected ← v.normalizeHtu (stripQueryFragment endpointUrl)
  .ok (claimed = expected)

/-- `_check_optional_times`, for `exp`. -/
def checkExp (claims : Members) (now : Instant) : Checked Unit :=
  match claims.get "exp" with
  | none | some .null => .ok ()
  | some (.num exp) =>
      if v.exceeds exp (now + seconds dpopMaxLifetimeSeconds) then
        rejected "Claim 'exp' démesurée (probablement en millisecondes)"
      else do
        let moment ← uncaught (v.fromTimestamp exp)
        if moment < now - seconds dpopIatSkewSeconds then
          rejected "Preuve DPoP expirée (claim 'exp')"
        else .ok ()
  | some _ => rejected "Claim 'exp' non numérique"

/-- `_check_optional_times`, for `nbf`. -/
def checkNbf (claims : Members) (now : Instant) : Checked Unit :=
  match claims.get "nbf" with
  | none | some .null => .ok ()
  | some (.num nbf) => do
      let moment ← uncaught (v.fromTimestamp nbf)
      if moment > now + seconds dpopIatSkewSeconds then
        rejected "Claim 'nbf' située dans le futur"
      else .ok ()
  | some _ => rejected "Claim 'nbf' non numérique"

/-- `_check_timestamps` -/
def checkTimestamps (claims : Members) (now : Instant) : Checked Unit :=
  match claims.get "iat" with
  | some (.num iat) => do
      let moment ← uncaught (v.fromTimestamp iat)
      if moment > now + seconds dpopIatSkewSeconds then
        rejected "Claim 'iat' située dans le futur"
      else if moment < now - seconds dpopIatSkewSeconds then
        rejected "Claim 'iat' trop ancienne (RFC 9449 §11.1)"
      else do
        v.checkExp claims now
        v.checkNbf claims now
  | _ => rejected "Claim 'iat' absente ou non numérique"

/-- `_check_ath` -/
def checkAth (claims : Members) (ath : String) : Checked Unit :=
  let provided := claims.get "ath"
  if ath ≠ "" then
    match provided with
    | some (.str value) =>
        if value = "" then rejected "Claim 'ath' absente (requis avec un access token)"
        else if value ≠ ath then
          rejected "Claim 'ath' ne correspond pas à l'access token présenté"
        else .ok ()
    | _ => rejected "Claim 'ath' absente (requis avec un access token)"
  else
    match provided with
    | none | some .null => .ok ()
    | some _ => rejected "La preuve du token endpoint ne doit pas porter de claim 'ath'"

/-- `_Payload` -/
structure Payload where
  jti : String
  htm : String
  htu : String
  nonce : String := ""

/-- The `jti` of `_check_payload`. -/
def jtiClaim (claims : Members) : Option String :=
  match claims.get "jti" with
  | some (.str jti) => if jti = "" then none else some jti
  | _ => none

/-- `_check_payload`, at the instant `now` it reads. -/
def checkPayload (claims : Members) (htu method ath : String) (now : Instant) :
    Checked Payload :=
  match jtiClaim claims with
  | none => rejected "Claim 'jti' absente ou vide"
  | some jti =>
      if !holds claims "htm" method then
        rejected ("Claim 'htm' inattendue (attendu '" ++ method ++ "')")
      else
        match (claims.get "htu").bind Json.asStr with
        | none | some "" => rejected "Claim 'htu' absente"
        | some htuClaim => do
            if ← uncaught (v.htuMatches (stripQueryFragment htuClaim) htu) then do
              v.checkTimestamps claims now
              checkAth claims ath
              .ok { jti, htm := method, htu := stripQueryFragment htuClaim
                    nonce := ((claims.get "nonce").bind Json.asStr).getD "" }
            else rejected "Claim 'htu' ne correspond pas à l'endpoint appelé"

/-- `_check_signature` -/
def checkSignature (proof : String) (key : κ) (alg : String) : Checked Unit :=
  if !v.jwt.signed proof key [alg] then rejected "Signature de la preuve DPoP invalide"
  else .ok ()

/-- What `validate` checks before it turns to the store of the `jti`. -/
def check (proof htu method ath : String) (now : Instant) : Checked DPoPProof :=
  if proof = "" then rejected "En-tête DPoP vide ou preuve absente"
  else
    match v.jwt.header proof, v.jwt.payload proof with
    | some header, some claims => do
        let (alg, jwk) ← checkHeader header
        let (key, thumbprint) ← v.checkJwk jwk alg
        let payload ← v.checkPayload claims htu method ath now
        v.checkSignature proof key alg
        .ok { jkt := thumbprint, jti := payload.jti, htm := payload.htm, htu := payload.htu
              nonce := payload.nonce }
    | _, _ => rejected "Preuve DPoP malformée (JWT invalide)"

/-! ## Validation -/

variable {ε : Type}

/-- The end of `validate`: the `jti` of a checked proof is refused when the store has it,
and recorded otherwise. -/
def remember (payload : DPoPProof) : M ε (Except DpopValidationError DPoPProof) := do
  let now ← ask .now
  let digest := v.platform.sha256Hex payload.jti
  if ← ask (.isUsedJti digest) then
    pure (.error (reject "Le jti de la preuve DPoP a déjà été présenté (RFC 9449 §11)"))
  else do
    let _ ← ask (.saveReplay ⟨digest, now + seconds (2 * dpopIatSkewSeconds)⟩) >>= orRaise
    let _ ← ask .purgeReplays
    pure (.ok payload)

/-- `PyJWTDpopProofValidator.validate`: one reading of the clock for the
times of the proof, another for the row. -/
def validate (proof htu method ath : String) : M ε (Except DpopValidationError DPoPProof) := do
  let checkedAt ← ask .now
  match v.check proof htu method ath checkedAt with
  | .error (.refused e) => pure (.error e)
  | .error (.raised x) => raise x
  | .ok payload => v.remember payload

/-! ## What an accepted proof has passed -/

/-- The `jti` a proof presents. -/
def presents (proof : String) : Option String := (v.jwt.payload proof).bind jtiClaim

/-- The moment a proof says it was issued at. -/
def issuedAt (proof : String) : Option Instant :=
  match (v.jwt.payload proof).bind fun claims => claims.get "iat" with
  | some (.num iat) => (v.fromTimestamp iat).toOption
  | _ => none

theorem uncaught_eq_ok {α : Type} {r : Raising α} {a : α} : uncaught r = .ok a ↔ r = .ok a := by
  cases r <;> simp [uncaught]

theorem checkPayload_eq_ok {claims : Members} {htu method ath : String} {now : Instant}
    {payload : Payload} (h : v.checkPayload claims htu method ath now = .ok payload) :
    jtiClaim claims = some payload.jti ∧ v.checkTimestamps claims now = .ok () := by
  unfold checkPayload at h
  cases hjti : jtiClaim claims with
  | none => simp [hjti, rejected] at h
  | some jti =>
      simp only [hjti] at h
      split at h
      · cases h
      split at h
      · cases h
      · cases h
      · obtain ⟨found, -, h⟩ := bind_eq_ok.mp h
        cases found with
        | false => cases h
        | true =>
            obtain ⟨_, htimes, h⟩ := bind_eq_ok.mp h
            obtain ⟨_, -, h⟩ := bind_eq_ok.mp h
            cases h
            exact ⟨rfl, htimes⟩

theorem check_eq_ok {proof htu method ath : String} {now : Instant} {payload : DPoPProof}
    (h : v.check proof htu method ath now = .ok payload) :
    ∃ claims, v.jwt.payload proof = some claims ∧ jtiClaim claims = some payload.jti ∧
      v.checkTimestamps claims now = .ok () := by
  unfold check at h
  split at h
  · cases h
  split at h
  · rename_i header claims hheader hclaims
    obtain ⟨⟨alg, jwk⟩, -, h⟩ := bind_eq_ok.mp h
    obtain ⟨⟨key, thumbprint⟩, -, h⟩ := bind_eq_ok.mp h
    obtain ⟨checked, hchecked, h⟩ := bind_eq_ok.mp h
    obtain ⟨_, -, h⟩ := bind_eq_ok.mp h
    cases h
    exact ⟨claims, hclaims, v.checkPayload_eq_ok hchecked⟩
  · cases h

theorem presents_of_check {proof htu method ath : String} {now : Instant} {payload : DPoPProof}
    (h : v.check proof htu method ath now = .ok payload) :
    v.presents proof = some payload.jti := by
  obtain ⟨claims, hclaims, hjti, -⟩ := v.check_eq_ok h
  simp [presents, hclaims, hjti]

/-- An accepted proof was issued at most the skew away from the clock, bounds included. -/
theorem issuedAt_of_check {proof htu method ath : String} {now : Instant} {payload : DPoPProof}
    (h : v.check proof htu method ath now = .ok payload) :
    ∃ iat, v.issuedAt proof = some iat ∧ now - seconds dpopIatSkewSeconds ≤ iat ∧
      iat ≤ now + seconds dpopIatSkewSeconds := by
  obtain ⟨claims, hclaims, -, htimes⟩ := v.check_eq_ok h
  unfold checkTimestamps at htimes
  split at htimes
  · rename_i number hiat
    obtain ⟨iat, hmoment, htimes⟩ := bind_eq_ok.mp htimes
    rw [uncaught_eq_ok] at hmoment
    split at htimes
    · cases htimes
    rename_i hfuture
    split at htimes
    · cases htimes
    rename_i hold
    refine ⟨iat, ?_, not_lt.mp hold, not_lt.mp hfuture⟩
    simp [issuedAt, hclaims, hiat, hmoment, Except.toOption]
  · cases htimes

/-- The outcome of a check that raises nothing. -/
def answered : Checked DPoPProof → Option (Except DpopValidationError DPoPProof)
  | .ok payload => some (.ok payload)
  | .error (.refused e) => some (.error e)
  | .error (.raised _) => none

/-- Validating through the port of the token endpoint is validating, when the port answers
what the validator's checks say. -/
theorem validateProof_run {ports : Ports} {proof htu method : String} {w : World}
    (h : answered (v.check proof htu method "" w.clock) =
      some (ports.checkDpopProof proof htu method w.clock)) :
    (validateProof v.platform proof htu method : M ε _).run (exec ports) w =
      (v.validate proof htu method "" : M ε _).run (exec ports) w := by
  by_cases hproof : proof = ""
  · subst hproof
    rfl
  unfold validateProof validate
  rw [if_neg hproof, run_ask_bind, run_ask_bind]
  simp only [exec]
  cases hcheck : v.check proof htu method "" w.clock with
  | error stop =>
      rw [hcheck] at h
      cases stop with
      | refused e =>
          rw [← Option.some.inj h]
      | raised x => cases h
  | ok payload =>
      rw [hcheck] at h
      rw [← Option.some.inj h]
      rfl

end PyJWTDpopProofValidator

end PurIdentityServer

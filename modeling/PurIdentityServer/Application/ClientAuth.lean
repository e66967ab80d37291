import PurIdentityServer.Domain.Ports

/-!
# ClientAuth — client authentication and DPoP proofs

`authenticateClient` follows the `token_endpoint_auth_method` of the
client: shared secret, signed assertion, mutual TLS certificate or none.
`DpopGuard.evaluate` decides whether the token to issue is bound to a
key, after the proof was validated and its `jti` recorded.

Both are written for any error response `ε`, and both make passive calls
only: they read no grant and write none.
-/

namespace PurIdentityServer

open Effects

/-! ## Client authentication -/

def clientUnknownError : String := "Client inconnu ou désactivé"
def assertionInvalidError : String := "Assertion client invalide ou expirée"

def clientAssertionTypeUrn : String :=
  "urn:ietf:params:oauth:client-assertion-type:jwt-bearer"

def jwtBearerGrantTypeUrn : String := "urn:ietf:params:oauth:grant-type:jwt-bearer"

section
variable {ε : Type} (p : Platform)

/-- `der_certificate_hash`. -/
def derCertificateHash (der : List UInt8) : String := p.sha256Der der

/-- `token_hash`. -/
def tokenHash (token : String) : String := p.sha256Hex token

/-- `verify_client_secret`. -/
def verifyClientSecret (client : Client) (secret : String) : Bool :=
  p.sha256Hex secret = client.clientSecretHash

/-- `verify_tls_client_certificate`. -/
def verifyTlsClientCertificate (client : Client) : Option ClientCertificate → Bool
  | none => false
  | some presented =>
      if client.effectiveAuthMethod = .selfSignedTlsClientAuth ∧ ¬ presented.isSelfSigned then
        false
      else if client.tlsClientCertificateHash ≠ "" then
        match presented.der with
        | some der => derCertificateHash p der = client.tlsClientCertificateHash
        | none => false
      else if client.tlsClientAuthSubjectDn ≠ "" then
        presented.subjectDn ≠ "" && presented.subjectDn = client.tlsClientAuthSubjectDn
      else false

/-- `_authenticate_assertion`; `assertions` tells whether a verifier is
injected. -/
def authenticateAssertion (client : Client) (assertions : Bool)
    (assertionType assertion : String) (audience : List String) : M ε (Option String) :=
  if ¬ assertions then pure (some assertionInvalidError)
  else if assertionType ≠ clientAssertionTypeUrn then pure (some assertionInvalidError)
  else if assertion = "" then pure (some assertionInvalidError)
  else do
    match ← ask (.verifyAssertion assertion client audience true) with
    | none => pure (some assertionInvalidError)
    | some claims =>
        let aud := ((claims.find? fun m => m.1 = "aud").map Prod.snd).bind Json.asStr
        -- a list of audiences is refused to FAPI2 clients
        if client.fapi2Enabled ∧ aud.isNone then pure (some assertionInvalidError)
        else pure none

/-- `authenticate_client`: `none` when the client is authenticated, the
reason otherwise. -/
def authenticateClient (client : Client) (clientSecret : String) (assertions : Bool)
    (assertionType assertion : String) (assertionAudience : List String)
    (tlsCertificate : Option ClientCertificate) : M ε (Option String) :=
  match client.effectiveAuthMethod with
  | .clientSecretBasic | .clientSecretPost =>
      if ¬ verifyClientSecret p client clientSecret then
        pure (some "Secret client invalide")
      else pure none
  | .clientSecretJwt | .privateKeyJwt =>
      authenticateAssertion client assertions assertionType assertion assertionAudience
  | .tlsClientAuth | .selfSignedTlsClientAuth =>
      if ¬ verifyTlsClientCertificate p client tlsCertificate then
        pure (some "Certificat client invalide")
      else pure none
  | .none => pure none

theorem authenticateAssertion_uses (client : Client) (assertions : Bool)
    (assertionType assertion : String) (audience : List String) :
    (authenticateAssertion client assertions assertionType assertion audience :
      M ε (Option String)).Uses (Call.In [.passive]) := by
  unfold authenticateAssertion
  split
  · exact Prog.uses_pure _ _
  split
  · exact Prog.uses_pure _ _
  split
  · exact Prog.uses_pure _ _
  refine Prog.uses_bind (Prog.uses_op rfl) fun claims => ?_
  cases claims with
  | none => exact Prog.uses_pure _ _
  | some claims =>
      dsimp only
      split <;> exact Prog.uses_pure _ _

theorem authenticateClient_uses (client : Client) (clientSecret : String)
    (assertions : Bool) (assertionType assertion : String) (audience : List String)
    (tlsCertificate : Option ClientCertificate) :
    (authenticateClient p client clientSecret assertions assertionType assertion audience
      tlsCertificate : M ε (Option String)).Uses (Call.In [.passive]) := by
  unfold authenticateClient
  split
  case h_3 | h_4 => exact authenticateAssertion_uses _ _ _ _ _
  case h_7 => exact Prog.uses_pure _ _
  all_goals split <;> exact Prog.uses_pure _ _

/-! ## DPoP proofs -/

structure DpopBinding where
  jkt : String := ""
  bound : Bool := false
  deriving DecidableEq

structure DpopGuardError where
  error : String
  errorDescription : String := ""

/-- `DPOP_IAT_SKEW_SECONDS`. -/
def dpopIatSkewSeconds : Int := 300

/-- `PyJWTDpopProofValidator.validate`: the `jti` is recorded only once the
proof passed every other check. -/
def validateProof (proof htu method : String) :
    M ε (Except DpopValidationError DPoPProof) :=
  if proof = "" then
    pure (.error ⟨"invalid_dpop_proof", "En-tête DPoP vide ou preuve absente"⟩)
  else do
    match ← ask (.checkDpopProof proof htu method) with
    | .error e => pure (.error e)
    | .ok payload =>
        let now ← ask .now
        let digest := p.sha256Hex payload.jti
        if ← ask (.isUsedJti digest) then
          pure (.error ⟨"invalid_dpop_proof",
            "Le jti de la preuve DPoP a déjà été présenté (RFC 9449 §11)"⟩)
        else do
          let _ ← ask (.saveReplay ⟨digest, now + seconds (2 * dpopIatSkewSeconds)⟩) >>= orRaise
          let _ ← ask .purgeReplays
          pure (.ok payload)

namespace DpopGuard

/-- `DpopGrantGuard._missing_proof`. -/
def missingProof (client : Client) (boundJkt : String) :
    Except DpopGuardError DpopBinding :=
  if client.requireDpop then
    .error ⟨"invalid_dpop_proof", "Ce client exige une preuve DPoP (RFC 9449 §5.2)"⟩
  else if boundJkt ≠ "" then
    .error ⟨"invalid_dpop_proof",
      "La demande est liée à une clé DPoP : preuve DPoP absente"⟩
  else .ok {}

/-- `DpopGrantGuard.evaluate`. -/
def evaluate (client : Client) (proof htu boundJkt : String) :
    M ε (Except DpopGuardError DpopBinding) :=
  if proof = "" then pure (missingProof client boundJkt)
  else do
    match ← validateProof p proof htu "POST" with
    | .error e => pure (.error ⟨e.error, e.errorDescription⟩)
    | .ok validated =>
        if boundJkt ≠ "" ∧ validated.jkt ≠ boundJkt then
          pure (.error ⟨"invalid_grant",
            "La preuve DPoP ne correspond pas à la clé liée (dpop_jkt, RFC 9449 §10)"⟩)
        else pure (.ok { jkt := validated.jkt, bound := true })

end DpopGuard

theorem uses_orRaise {α : Type} (S : Call → Prop) (x : Raising α) :
    (orRaise x : M ε α).Uses S := by
  cases x with
  | error e => exact Prog.uses_fail _ _
  | ok a => exact Prog.uses_pure _ _

theorem validateProof_uses (proof htu method : String) :
    (validateProof p proof htu method : M ε _).Uses (Call.In [.passive]) := by
  unfold validateProof
  split
  · exact Prog.uses_pure _ _
  refine Prog.uses_bind (Prog.uses_op rfl) fun checked => ?_
  cases checked with
  | error e => exact Prog.uses_pure _ _
  | ok payload =>
      refine Prog.uses_bind (Prog.uses_op rfl) fun now => ?_
      refine Prog.uses_bind (Prog.uses_op rfl) fun used => ?_
      split
      · exact Prog.uses_pure _ _
      refine Prog.uses_bind (Prog.uses_bind (Prog.uses_op rfl) fun _ => uses_orRaise _ _)
        fun _ => ?_
      exact Prog.uses_bind (Prog.uses_op rfl) fun _ => Prog.uses_pure _ _

theorem DpopGuard.evaluate_uses (client : Client) (proof htu boundJkt : String) :
    (DpopGuard.evaluate p client proof htu boundJkt : M ε _).Uses (Call.In [.passive]) := by
  unfold DpopGuard.evaluate
  split
  · exact Prog.uses_pure _ _
  refine Prog.uses_bind (validateProof_uses p _ _ _) fun validated => ?_
  cases validated with
  | error e => exact Prog.uses_pure _ _
  | ok proof =>
      dsimp only
      split <;> exact Prog.uses_pure _ _

end

end PurIdentityServer

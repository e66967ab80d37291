import PurIdentityServer.Domain.Json
import PurIdentityServer.Lib.Fallible

/-!
# Jwt — decoding a signed token with PyJWT

PyJWT splits a compact token, checks its signature and then validates the
registered claims of its payload. The first two are the library's own
(`PyJwt`); the validation of the claims is spelled out, because every
verifier of the server relies on which claims it checks, in which order
and against which clock.
-/

namespace PurIdentityServer

open Effects

/-- What PyJWT answers about a token, for public keys `κ`. -/
structure PyJwt (κ : Type) where
  /-- `get_unverified_header`, `none` when it raises -/
  header : String → Option Members
  /-- the claims of a token, read without a key; `none` when unreadable -/
  payload : String → Option Members
  /-- the signature verifies under the key, by the header's algorithm, and
  that algorithm is one of the list -/
  signed : (token : String) → κ → (algorithms : List String) → Bool
  /-- `PyJWK(jwk)`, `none` when it raises -/
  publicKey : Members → Option κ
  /-- `PyJWK(jwk)` raises a `ValueError` of `cryptography`, which is no `PyJWTError` -/
  importRaises : Members → Bool := fun _ => false
  /-- the HMAC key a shared secret is -/
  secretKey : String → κ
  /-- a token signed by an algorithm outside the list is never accepted -/
  signed_algorithm : ∀ token key algorithms, signed token key algorithms = true →
    ∃ h algorithm, header token = some h ∧ h.get "alg" = some (.str algorithm) ∧
      algorithm ∈ algorithms
  /-- a key whose import raises is not there -/
  importRaises_none : ∀ jwk, importRaises jwk = true → publicKey jwk = none := by
    intro jwk h
    cases h

/-- The exceptions of `jwt.decode`; a claim `int()` cannot read at all leaves
as the conversion's own exception. -/
inductive JwtError where
  | decode | invalidSignature
  | missingRequiredClaim (name : String)
  | immatureSignature | expiredSignature
  | invalidIssuer | invalidAudience | invalidSubject | invalidJti
  | conversion
  deriving DecidableEq, Repr

/-- Whether the exception is a `PyJWTError`. -/
def JwtError.isPyJWTError : JwtError → Bool
  | .conversion => false
  | _ => true

/-- The options a caller passes to `jwt.decode`. -/
structure DecodeOptions where
  require : List String := []
  verifyExp : Bool := true
  verifyAud : Bool := true
  verifySub : Bool := true
  audience : Option (List String) := none
  issuer : Option String := none
  leeway : Int := 0

namespace PyJwt

/-- A claim that is there and not `null`. -/
def hasClaim (claims : Members) (name : String) : Bool :=
  match claims.get name with
  | none => false
  | some value => !value.isNull

/-- `_validate_required_claims` -/
def validateRequired (claims : Members) (require : List String) : Except JwtError Unit :=
  match require.find? fun name => !hasClaim claims name with
  | some name => .error (.missingRequiredClaim name)
  | none => .ok ()

/-- The time a claim gives, in seconds. -/
def timeClaim (value : Json) : Except JwtError Int :=
  match value.toInt with
  | .ok n => .ok n
  | .error .valueError => .error .decode
  | .error .typeError => .error .conversion

/-- `_validate_iat` and `_validate_nbf` -/
def validateNotBefore (claims : Members) (name : String) (now : Instant) (leeway : Int) :
    Except JwtError Unit :=
  match claims.get name with
  | none => .ok ()
  | some value => do
      let moment ← timeClaim value
      if now + seconds leeway < seconds moment then .error .immatureSignature else .ok ()

/-- `_validate_exp` -/
def validateExp (claims : Members) (now : Instant) (leeway : Int) : Except JwtError Unit :=
  match claims.get "exp" with
  | none => .ok ()
  | some value => do
      let moment ← timeClaim value
      if seconds moment ≤ now - seconds leeway then .error .expiredSignature else .ok ()

/-- `_validate_iss` -/
def validateIss (claims : Members) : Option String → Except JwtError Unit
  | none => .ok ()
  | some issuer =>
      match claims.get "iss" with
      | none => .error (.missingRequiredClaim "iss")
      | some (.str iss) => if iss = issuer then .ok () else .error .invalidIssuer
      | some _ => .error .invalidIssuer

/-- The audiences a payload names. -/
def audienceClaims : Json → Option (List String)
  | .str name => some [name]
  | .arr items => Json.strings items
  | _ => none

/-- `_validate_aud` -/
def validateAud (claims : Members) (audience : Option (List String)) : Except JwtError Unit :=
  match claims.get "aud", audience with
  | none, none => .ok ()
  | none, some _ => .error (.missingRequiredClaim "aud")
  | some value, none => if value.truthy then .error .invalidAudience else .ok ()
  | some value, some expected =>
      if !value.truthy then .error (.missingRequiredClaim "aud")
      else match audienceClaims value with
        | none => .error .invalidAudience
        | some names => if expected.any (· ∈ names) then .ok () else .error .invalidAudience

/-- `_validate_sub` and `_validate_jti`: a string when present. -/
def validateString (claims : Members) (name : String) (e : JwtError) : Except JwtError Unit :=
  match claims.get name with
  | none => .ok ()
  | some (.str _) => .ok ()
  | some _ => .error e

/-- `if options[name]: check` -/
def onlyIf (option : Bool) (check : Except JwtError Unit) : Except JwtError Unit :=
  if option then check else .ok ()

/-- `_validate_claims` -/
def validateClaims (o : DecodeOptions) (now : Instant) (claims : Members) :
    Except JwtError Unit := do
  validateRequired claims o.require
  validateNotBefore claims "iat" now o.leeway
  validateNotBefore claims "nbf" now o.leeway
  onlyIf o.verifyExp (validateExp claims now o.leeway)
  validateIss claims o.issuer
  onlyIf o.verifyAud (validateAud claims o.audience)
  onlyIf o.verifySub (validateString claims "sub" .invalidSubject)
  validateString claims "jti" .invalidJti

variable {κ : Type} (jwt : PyJwt κ)

/-- `jwt.decode(token, key, algorithms, …)` -/
def decode (o : DecodeOptions) (now : Instant) (token : String) (key : κ)
    (algorithms : List String) : Except JwtError Members :=
  match jwt.payload token with
  | none => .error .decode
  | some claims =>
      if !jwt.signed token key algorithms then .error .invalidSignature
      else do
        validateClaims o now claims
        .ok claims

/-! ## What validated claims satisfy -/

theorem onlyIf_ok {option : Bool} {check : Except JwtError Unit} :
    onlyIf option check = .ok () ↔ (option = true → check = .ok ()) := by
  cases option <;> simp [onlyIf]

theorem validateRequired_ok {claims : Members} {require : List String} :
    validateRequired claims require = .ok () ↔ ∀ name ∈ require, hasClaim claims name = true := by
  unfold validateRequired
  cases hfind : require.find? fun name => !hasClaim claims name with
  | some name =>
      obtain ⟨hmem, hlacks⟩ : name ∈ require ∧ (!hasClaim claims name) = true :=
        ⟨List.mem_of_find?_eq_some hfind, List.find?_some (p := fun n => !hasClaim claims n) hfind⟩
      constructor
      · intro h
        cases h
      · intro h
        rw [h name hmem] at hlacks
        cases hlacks
  | none =>
      constructor
      · intro _ name hmem
        have hhas := List.find?_eq_none.mp hfind name hmem
        simpa using hhas
      · intro _
        rfl

theorem validateIss_ok {claims : Members} {issuer : String} :
    validateIss claims (some issuer) = .ok () ↔ claims.get "iss" = some (.str issuer) := by
  unfold validateIss
  split
  · rename_i h
    cases h
  · rename_i issuer' h
    cases h
    split
    · rename_i hget
      simp [hget]
    · rename_i iss hget
      rw [hget]
      by_cases heq : iss = issuer <;> simp [heq]
    · rename_i value hnot hget
      rw [hget]
      constructor
      · intro h
        cases h
      · intro h
        cases h
        exact absurd rfl (hnot issuer)

/-- Validation is each of its checks. -/
theorem validateClaims_ok {o : DecodeOptions} {now : Instant} {claims : Members} :
    validateClaims o now claims = .ok () ↔
      validateRequired claims o.require = .ok () ∧
      validateNotBefore claims "iat" now o.leeway = .ok () ∧
      validateNotBefore claims "nbf" now o.leeway = .ok () ∧
      (o.verifyExp = true → validateExp claims now o.leeway = .ok ()) ∧
      validateIss claims o.issuer = .ok () ∧
      (o.verifyAud = true → validateAud claims o.audience = .ok ()) ∧
      (o.verifySub = true → validateString claims "sub" .invalidSubject = .ok ()) ∧
      validateString claims "jti" .invalidJti = .ok () := by
  unfold validateClaims
  simp only [bind_eq_ok]
  constructor
  · rintro ⟨_, hrequired, _, hiat, _, hnbf, _, hexp, _, hiss, _, haud, _, hsub, hjti⟩
    exact ⟨hrequired, hiat, hnbf, onlyIf_ok.mp hexp, hiss, onlyIf_ok.mp haud,
      onlyIf_ok.mp hsub, hjti⟩
  · rintro ⟨hrequired, hiat, hnbf, hexp, hiss, haud, hsub, hjti⟩
    exact ⟨(), hrequired, (), hiat, (), hnbf, (), onlyIf_ok.mpr hexp, (), hiss, (),
      onlyIf_ok.mpr haud, (), onlyIf_ok.mpr hsub, hjti⟩

/-- What an accepted token has passed. -/
theorem decode_eq_ok {o : DecodeOptions} {now : Instant} {token : String} {key : κ}
    {algorithms : List String} {claims : Members} :
    jwt.decode o now token key algorithms = .ok claims ↔
      jwt.payload token = some claims ∧ jwt.signed token key algorithms = true ∧
        validateClaims o now claims = .ok () := by
  unfold decode
  cases hpayload : jwt.payload token with
  | none => simp
  | some found =>
      by_cases hsigned : jwt.signed token key algorithms = true
      · cases hvalid : validateClaims o now found with
        | error e =>
            simp only [hsigned, hvalid, Bool.not_true, Bool.false_eq_true, if_false]
            constructor
            · intro h
              cases h
            · rintro ⟨hfound, _, h⟩
              cases hfound
              rw [hvalid] at h
              cases h
        | ok _ =>
            simp only [hsigned, hvalid, Bool.not_true, Bool.false_eq_true, if_false]
            constructor
            · intro h
              cases h
              exact ⟨rfl, trivial, hvalid⟩
            · rintro ⟨hfound, _, _⟩
              cases hfound
              rfl
      · simp [hsigned]

end PyJwt

end PurIdentityServer

import PurIdentityServer.Infrastructure.Jwt
import PurIdentityServer.Domain.Ports

/-!
# Tokens — validating the tokens the server signs

`PyJWTTokenManager` signs every kind of token with the keys of one family
and validates the access tokens and the `id_token`s with one function:
the header names the key, the signature and the registered claims decide.
What a validation accepts is said once (`validate_eq_some`), and for a
token the server has signed it is a matter of its claims alone
(`validate_signed`).
-/

namespace PurIdentityServer

open Effects

/-- A key of the signing family. -/
structure KeyPair (κ : Type) where
  algorithm : JWTAlgorithm
  kid : String
  publicKey : κ
  isActive : Bool := true

/-- `PyJWTTokenManager`, with the keys its key manager holds. -/
structure TokenManager (κ : Type) where
  jwt : PyJwt κ
  keys : Table fun pair : KeyPair κ => pair.kid
  kid_ne : ∀ pair ∈ keys.rows, pair.kid ≠ ""

namespace TokenManager

variable {κ : Type} (manager : TokenManager κ)

/-- `get_key_by_kid` -/
def keyByKid (kid : String) : Option (KeyPair κ) := manager.keys.find kid

/-- The first active key of an algorithm. -/
def activeKey (algorithm : JWTAlgorithm) : Option (KeyPair κ) :=
  manager.keys.rows.find? fun pair => pair.isActive && decide (pair.algorithm = algorithm)

/-- `_key_for` -/
def keyFor (kid : Option Json) (algorithm : JWTAlgorithm) : Option (KeyPair κ) :=
  match kid with
  | some (.str kid) =>
      if kid = "" then manager.activeKey algorithm
      else (manager.keyByKid kid).filter fun pair => pair.algorithm = algorithm
  | _ => manager.activeKey algorithm

/-- `JWTAlgorithm(header["alg"])` -/
def headerAlgorithm (header : Members) : Option JWTAlgorithm :=
  ((Dict.get header "alg").bind Json.asStr).bind JWTAlgorithm.ofValue?

/-- The options of `_validate`. -/
def validateOptions (issuer : String) (allowExpired : Bool) : DecodeOptions where
  verifyExp := !allowExpired
  verifyAud := false
  issuer := some issuer

/-- `_validate` -/
def validate (now : Instant) (token issuer : String) (allowExpired : Bool) :
    Except Raised (Option Members) :=
  match manager.jwt.header token with
  | none => .ok none
  | some header =>
      match headerAlgorithm header with
      | none => .ok none
      | some algorithm =>
          match manager.keyFor (header.get "kid") algorithm with
          | none => .ok none
          | some pair =>
              match manager.jwt.decode (validateOptions issuer allowExpired) now token
                  pair.publicKey [algorithm.value] with
              | .ok claims => .ok (some claims)
              | .error e =>
                  if e.isPyJWTError then .ok none else .error (.other "TypeError")

/-- `validate_access_token` -/
def validateAccessToken (now : Instant) (token issuer : String) :
    Except Raised (Option Members) :=
  manager.validate now token issuer false

/-- `validate_id_token` -/
def validateIdToken (now : Instant) (token issuer : String) (allowExpired : Bool) :
    Except Raised (Option Members) :=
  manager.validate now token issuer allowExpired

/-! ## What a validation accepts -/

/-- The claims `_validate` has checked, the expiry apart. -/
structure Registered (now : Instant) (issuer : String) (claims : Members) : Prop where
  issuer : claims.get "iss" = some (.str issuer)
  issued : PyJwt.validateNotBefore claims "iat" now 0 = .ok ()
  not_before : PyJwt.validateNotBefore claims "nbf" now 0 = .ok ()
  subject : PyJwt.validateString claims "sub" .invalidSubject = .ok ()
  jti : PyJwt.validateString claims "jti" .invalidJti = .ok ()

/-- The claims have not expired, when expiry is checked. -/
def Unexpired (now : Instant) (allowExpired : Bool) (claims : Members) : Prop :=
  allowExpired = false → PyJwt.validateExp claims now 0 = .ok ()

theorem validateClaims_registered {now : Instant} {issuer : String} {allowExpired : Bool}
    {claims : Members} :
    PyJwt.validateClaims (validateOptions issuer allowExpired) now claims = .ok () ↔
      Registered now issuer claims ∧ Unexpired now allowExpired claims := by
  rw [PyJwt.validateClaims_ok]
  constructor
  · rintro ⟨_, hiat, hnbf, hexp, hiss, _, hsub, hjti⟩
    refine ⟨⟨PyJwt.validateIss_ok.mp hiss, hiat, hnbf, hsub rfl, hjti⟩, ?_⟩
    intro hchecked
    apply hexp
    simp [validateOptions, hchecked]
  · rintro ⟨hregistered, hexp⟩
    refine ⟨rfl, hregistered.issued, hregistered.not_before, ?_,
      PyJwt.validateIss_ok.mpr hregistered.issuer, ?_, fun _ => hregistered.subject,
      hregistered.jti⟩
    · intro hchecked
      apply hexp
      simpa [validateOptions] using hchecked
    · intro h
      cases h

variable {manager}

theorem validate_eq_some {now : Instant} {token issuer : String} {allowExpired : Bool}
    {claims : Members} :
    manager.validate now token issuer allowExpired = .ok (some claims) ↔
      ∃ header algorithm pair, manager.jwt.header token = some header ∧
        headerAlgorithm header = some algorithm ∧
        manager.keyFor (header.get "kid") algorithm = some pair ∧
        manager.jwt.payload token = some claims ∧
        manager.jwt.signed token pair.publicKey [algorithm.value] = true ∧
        Registered now issuer claims ∧ Unexpired now allowExpired claims := by
  constructor
  · intro h
    unfold validate at h
    split at h
    · cases h
    · rename_i header hheader
      split at h
      · cases h
      · rename_i algorithm halgorithm
        split at h
        · cases h
        · rename_i pair hpair
          split at h
          · rename_i found hdecode
            cases h
            obtain ⟨hpayload, hsigned, hvalid⟩ := (PyJwt.decode_eq_ok _).mp hdecode
            exact ⟨header, algorithm, pair, hheader, halgorithm, hpair, hpayload, hsigned,
              validateClaims_registered.mp hvalid⟩
          · split at h <;> cases h
  · rintro ⟨header, algorithm, pair, hheader, halgorithm, hpair, hpayload, hsigned, hvalid⟩
    have hdecode := (PyJwt.decode_eq_ok manager.jwt).mpr
      ⟨hpayload, hsigned, validateClaims_registered.mpr hvalid⟩
    unfold validate
    simp only [hheader, halgorithm, hpair, hdecode]

/-- An accepted token carries the claims of its payload. -/
theorem validate_payload {now : Instant} {token issuer : String} {allowExpired : Bool}
    {claims : Members} (h : manager.validate now token issuer allowExpired = .ok (some claims)) :
    manager.jwt.payload token = some claims := by
  obtain ⟨_, _, _, _, _, _, hpayload, _⟩ := validate_eq_some.mp h
  exact hpayload

/-! ## Tokens the server signs -/

/-- The token is signed, by its key pair, with one of the managed keys. -/
structure Signed (manager : TokenManager κ) (token : String) (payload : Members) : Prop where
  signed : ∃ pair ∈ manager.keys.rows, ∃ header, manager.jwt.header token = some header ∧
    header.get "alg" = some (.str pair.algorithm.value) ∧
    header.get "kid" = some (.str pair.kid) ∧
    manager.jwt.signed token pair.publicKey [pair.algorithm.value] = true
  payload_eq : manager.jwt.payload token = some payload

theorem keyFor_mem {pair : KeyPair κ} (h : pair ∈ manager.keys.rows) :
    manager.keyFor (some (.str pair.kid)) pair.algorithm = some pair := by
  have hfind : manager.keyByKid pair.kid = some pair := Table.find_of_mem h
  unfold keyFor
  simp only [manager.kid_ne pair h, if_false]
  rw [hfind, Option.filter_some]
  simp

/-- A token the server has signed is accepted by its claims alone. -/
theorem validate_signed {token : String} {payload : Members}
    (h : Signed manager token payload) {now : Instant} {issuer : String} {allowExpired : Bool} :
    (∃ claims, manager.validate now token issuer allowExpired = .ok (some claims)) ↔
      Registered now issuer payload ∧ Unexpired now allowExpired payload := by
  obtain ⟨⟨pair, hmem, header, hheader, halg, hkid, hsigned⟩, hpayload⟩ := h
  constructor
  · rintro ⟨claims, hvalidate⟩
    obtain ⟨_, _, _, _, _, _, hfound, _, hvalid⟩ := validate_eq_some.mp hvalidate
    rw [hpayload] at hfound
    cases hfound
    exact hvalid
  · intro hvalid
    refine ⟨payload, validate_eq_some.mpr ⟨header, pair.algorithm, pair, hheader, ?_, ?_, hpayload,
      hsigned, hvalid⟩⟩
    · unfold headerAlgorithm
      rw [halg]
      exact JWTAlgorithm.ofValue?_value pair.algorithm
    · rw [hkid]
      exact keyFor_mem hmem

end TokenManager

end PurIdentityServer

import PurIdentityServer.Application.RegisteredKeys
import PurIdentityServer.Infrastructure.ClientAssertions

/-!
# RegisteredSigningKeys — the keys that verify the assertions of a client

`require_signing_key` counts the keys of a JWK Set that may sign for the
client; the verifier finds one by the `kid` of the assertion, and PyJWT
reads it. A correctly signed assertion verifies where both agree on the
keys: PyJWT reads the key that is named, and no other key of the set makes
it raise.
-/

namespace PurIdentityServer

open Effects

namespace PyJwt

variable {claims : Members} {now : Instant} {leeway : Int}

/-! ## The claims PyJWT checks -/

theorem timeClaim_ok {value : Json} {moment : Int} :
    timeClaim value = .ok moment ↔ value.toInt = .ok moment := by
  unfold timeClaim
  cases h : value.toInt with
  | ok n => simp
  | error e => cases e <;> simp

/-- A time in the past, or none. -/
def Begun (claims : Members) (name : String) (now : Instant) (leeway : Int) : Prop :=
  ∀ value, claims.get name = some value →
    ∃ moment, value.toInt = .ok moment ∧ seconds moment ≤ now + seconds leeway

theorem validateNotBefore_ok {name : String} :
    validateNotBefore claims name now leeway = .ok () ↔ Begun claims name now leeway := by
  unfold validateNotBefore Begun
  cases hget : claims.get name with
  | none => simp
  | some value =>
      constructor
      · intro h found hfound
        cases hfound
        obtain ⟨moment, hmoment, hcheck⟩ := bind_eq_ok.mp h
        refine ⟨moment, timeClaim_ok.mp hmoment, ?_⟩
        split at hcheck
        · cases hcheck
        · rename_i hbegun
          exact not_lt.mp hbegun
      · intro h
        obtain ⟨moment, hmoment, hbegun⟩ := h value rfl
        refine bind_eq_ok.mpr ⟨moment, timeClaim_ok.mpr hmoment, ?_⟩
        rw [if_neg (not_lt.mpr hbegun)]

/-- A text, or none. -/
def Textual (claims : Members) (name : String) : Prop :=
  ∀ value, claims.get name = some value → ∃ text, value = .str text

theorem validateString_ok {name : String} {e : JwtError} :
    validateString claims name e = .ok () ↔ Textual claims name := by
  unfold validateString Textual
  split
  · rename_i hget
    simp [hget]
  · rename_i text hget
    simp [hget]
  · rename_i value hnot hget
    constructor
    · intro h
      cases h
    · intro h
      obtain ⟨text, rfl⟩ := h value hget
      exact absurd rfl (hnot text)

theorem validateExp_ok {value : Json} {moment : Int} (hget : claims.get "exp" = some value)
    (hmoment : value.toInt = .ok moment) (hlater : now - seconds leeway < seconds moment) :
    validateExp claims now leeway = .ok () := by
  unfold validateExp
  rw [hget]
  refine bind_eq_ok.mpr ⟨moment, timeClaim_ok.mpr hmoment, ?_⟩
  rw [if_neg (not_le.mpr hlater)]

theorem truthy_of_names {value : Json} {names : List String} {name : String}
    (hnames : audienceClaims value = some names) (hmem : name ∈ names) (hne : name ≠ "") :
    value.truthy = true := by
  cases value with
  | str text =>
      cases hnames
      obtain rfl : name = text := List.mem_singleton.mp hmem
      simp [Json.truthy, hne]
  | arr items =>
      cases items with
      | nil =>
          cases hnames
          cases hmem
      | cons item rest => rfl
  | null | bool | num | obj => cases hnames

theorem validateAud_named {value : Json} {names audience : List String} {name : String}
    (hget : claims.get "aud" = some value) (hnames : audienceClaims value = some names)
    (hmem : name ∈ names) (haudience : name ∈ audience) (hne : name ≠ "") :
    validateAud claims (some audience) = .ok () := by
  have htruthy := truthy_of_names hnames hmem hne
  have hany : (audience.any (· ∈ names)) = true :=
    List.any_eq_true.mpr ⟨name, haudience, decide_eq_true hmem⟩
  unfold validateAud
  rw [hget]
  simp [htruthy, hnames, hany]

end PyJwt

namespace ClientKeys

open KeyValidation (use kty supportedKtys algorithmsByKty)

variable {κ : Type} {keys : ClientKeys κ} {jwks : List Members} {jwk : Members}

/-! ## The candidates -/

theorem usableForSigning_obj (jwk : Members) :
    usableForSigning (.obj jwk) = if use jwk ≠ "enc" then some jwk else none := by
  unfold usableForSigning use
  dsimp only
  split
  · rename_i hget
    simp [hget]
  · rename_i hnot
    split
    · rename_i value hget
      by_cases hvalue : value = "enc"
      · exact absurd (hvalue ▸ hget) hnot
      · simp [hvalue]
    · simp

/-- The keys of an inline set that are not declared for encryption. -/
theorem filterMap_usableForSigning (jwks : List Members) :
    (jwks.map Json.obj).filterMap usableForSigning = KeyValidation.usableForSigning jwks := by
  unfold KeyValidation.usableForSigning
  induction jwks with
  | nil => rfl
  | cons jwk rest ih =>
      rw [List.map_cons, List.filterMap_cons, List.filter_cons, usableForSigning_obj, ih]
      by_cases huse : use jwk = "enc"
      · simp [huse]
      · simp [huse]

/-- `PyJWK(jwk)` with its `key_id` -/
def candidate (keys : ClientKeys κ) (jwk : Members) : Option (Option Json × κ) :=
  (keys.jwt.publicKey jwk).map fun key => (jwk.get "kid", key)

/-- No key of the set makes its import raise. -/
def Imports (keys : ClientKeys κ) (jwks : List Members) : Prop :=
  ∀ other ∈ KeyValidation.usableForSigning jwks, keys.jwt.importRaises other = false

theorem keySet_of_imports (h : keys.Imports jwks) :
    keys.keySet (jwks.map .obj) =
      some ((KeyValidation.usableForSigning jwks).filterMap keys.candidate) := by
  have hquiet : (KeyValidation.usableForSigning jwks).any keys.jwt.importRaises = false := by
    rw [List.any_eq_false]
    intro other hother
    simp [h other hother]
  unfold keySet
  rw [filterMap_usableForSigning]
  simp only [hquiet, Bool.false_eq_true, if_false]
  rfl

theorem keySet_of_raises (h : ¬ keys.Imports jwks) : keys.keySet (jwks.map .obj) = none := by
  have hraises : (KeyValidation.usableForSigning jwks).any keys.jwt.importRaises = true := by
    by_contra hquiet
    rw [Bool.not_eq_true, List.any_eq_false] at hquiet
    exact h fun other hother => Bool.eq_false_iff.mpr (hquiet other hother)
  unfold keySet
  rw [filterMap_usableForSigning]
  simp only [hraises, if_true]

/-! ## The key that a header names -/

/-- `key.get("kid") == kid` -/
def isNamed (kid : String) (key : Members) : Bool :=
  match key.get "kid" with
  | some (.str value) => value = kid
  | _ => false

/-- The header names the key by a `kid` no other key of the set has, or has none where the key
is the only one for signatures. -/
inductive Names (header : Members) (jwks : List Members) (jwk : Members) : Prop
  | kid (kid : String) (named : header.get "kid" = some (.str kid))
      (unique : jwks.filter (isNamed kid) = [jwk])
  | alone (unnamed : header.get "kid" = none) (only : KeyValidation.usableForSigning jwks = [jwk])

/-- The key that PyJWT finds for a `kid`: all the keys are read or skipped, and the key that is
named is read; for the empty one, exactly one key is. -/
structure Finds (keys : ClientKeys κ) (jwks : List Members) (jwk : Members) (kid : String)
    (key : κ) : Prop where
  imports : keys.Imports jwks
  read : if kid = "" then
      (KeyValidation.usableForSigning jwks).filterMap keys.jwt.publicKey = [key]
    else keys.jwt.publicKey jwk = some key

theorem mem_candidates {found : Option Json × κ} {usable : List Members} :
    found ∈ usable.filterMap keys.candidate ↔
      ∃ key ∈ usable, keys.jwt.publicKey key = some found.2 ∧ key.get "kid" = found.1 := by
  rw [List.mem_filterMap]
  constructor
  · rintro ⟨key, hkey, hcandidate⟩
    obtain ⟨read, hread, rfl⟩ := Option.map_eq_some_iff.mp hcandidate
    exact ⟨key, hkey, hread, rfl⟩
  · rintro ⟨key, hkey, hread, hkid⟩
    refine ⟨key, hkey, ?_⟩
    unfold candidate
    rw [hread, hkid]
    rfl

/-- Of the candidates, the one with a unique `kid` is the key it names. -/
theorem find?_candidates {kid : String} {usable : List Members} (hjwk : jwk ∈ usable)
    (hnamed : isNamed kid jwk = true)
    (hunique : ∀ key ∈ usable, isNamed kid key = true → key = jwk) :
    ((usable.filterMap keys.candidate).find? (hasKeyId kid)).map Prod.snd =
      keys.jwt.publicKey jwk := by
  have hnames : ∀ found ∈ usable.filterMap keys.candidate, hasKeyId kid found = true →
      keys.jwt.publicKey jwk = some found.2 := by
    intro found hfound hkid
    obtain ⟨key, hkey, hread, hname⟩ := mem_candidates.mp hfound
    have hkeyNamed : isNamed kid key = true := by
      simp only [isNamed, hasKeyId, hname] at hkid ⊢
      exact hkid
    rw [← hunique key hkey hkeyNamed, hread]
  cases hfind : (usable.filterMap keys.candidate).find? (hasKeyId kid) with
  | some found =>
      exact (hnames found (List.mem_of_find?_eq_some hfind)
        (List.find?_some (p := hasKeyId kid) hfind)).symm
  | none =>
      cases hread : keys.jwt.publicKey jwk with
      | none => rfl
      | some key =>
          have hmem : (jwk.get "kid", key) ∈ usable.filterMap keys.candidate :=
            mem_candidates.mpr ⟨jwk, hjwk, hread, rfl⟩
          exact absurd hnamed (List.find?_eq_none.mp hfind _ hmem)

/-- The only candidate is the only key that is read. -/
theorem candidates_eq_singleton {usable : List Members} {key : κ} :
    usable.filterMap keys.jwt.publicKey = [key] ↔
      ∃ found, usable.filterMap keys.candidate = [found] ∧ found.2 = key := by
  have hread : usable.filterMap keys.jwt.publicKey =
      (usable.filterMap keys.candidate).map Prod.snd := by
    rw [List.map_filterMap]
    congr
    funext jwk
    unfold candidate
    cases keys.jwt.publicKey jwk <;> rfl
  rw [hread, List.map_eq_singleton_iff]

theorem keyId_of_kid {header : Members} {kid : String} (h : header.get "kid" = some (.str kid)) :
    keyId header = kid := by
  unfold keyId
  rw [h]

theorem keyId_of_none {header : Members} (h : header.get "kid" = none) : keyId header = "" := by
  unfold keyId
  rw [h]

/-- The lookup of an inline set finds the key that the header names, where PyJWT finds it. -/
theorem embeddedSigningKey_iff {header : Members} {key : κ} (hjwk : jwk ∈ jwks)
    (huse : use jwk ≠ "enc") (hnames : Names header jwks jwk) :
    keys.embeddedSigningKey (jwks.map .obj) (keyId header) = some key ↔
      keys.Finds jwks jwk (keyId header) key := by
  unfold embeddedSigningKey
  by_cases himports : keys.Imports jwks
  · rw [keySet_of_imports himports]
    have hread : ∀ found, keys.Finds jwks jwk (keyId header) found ↔
        if keyId header = "" then
          (KeyValidation.usableForSigning jwks).filterMap keys.jwt.publicKey = [found]
        else keys.jwt.publicKey jwk = some found :=
      fun found => ⟨fun h => h.read, fun h => ⟨himports, h⟩⟩
    rw [hread key]
    by_cases hkid : keyId header = ""
    · simp only [hkid, if_true]
      rw [candidates_eq_singleton]
      split
      · rename_i found hfound
        rw [hfound]
        simp
      · rename_i hsingle
        constructor
        · intro h
          cases h
        · rintro ⟨found, hfound, -⟩
          exact absurd hfound (hsingle found)
    · simp only [hkid, if_false]
      have husable : jwk ∈ KeyValidation.usableForSigning jwks := by
        unfold KeyValidation.usableForSigning
        rw [List.mem_filter]
        exact ⟨hjwk, decide_eq_true huse⟩
      cases hnames with
      | alone unnamed => exact absurd (keyId_of_none unnamed) hkid
      | kid kid named unique =>
          rw [keyId_of_kid named]
          have hunique : ∀ other ∈ jwks, isNamed kid other = true → other = jwk := by
            intro other hother hnamed
            have hmem : other ∈ jwks.filter (isNamed kid) := List.mem_filter.mpr ⟨hother, hnamed⟩
            rw [unique] at hmem
            exact List.mem_singleton.mp hmem
          have hnamed : isNamed kid jwk = true := by
            have hmem : jwk ∈ jwks.filter (isNamed kid) := by
              rw [unique]
              exact List.mem_singleton_self _
            exact (List.mem_filter.mp hmem).2
          rw [find?_candidates husable hnamed fun other hother => hunique other
            (List.mem_filter.mp hother).1]
  · rw [keySet_of_raises himports]
    constructor
    · intro h
      cases h
    · intro h
      exact absurd h.imports himports

/-! ## The assertion of a client -/

variable {now : Instant} {token issuer algorithm : String} {audience : List String}
  {claims header : Members} {client : Client}

/-- The checks of `_decode` for the assertion a client authenticates with. -/
def assertionOptions (audience : List String) (issuer : String) : DecodeOptions :=
  { require := ["exp", "iss", "aud"], verifySub := false
    audience := some audience, issuer := some issuer, leeway := 30 }

/-- An assertion with the same issuer and subject is accepted after its signature and claims. -/
theorem decodeAssertion_eq_some {key : κ} {algorithms : List String}
    (hiss : claims.get "iss" = some (.str issuer)) (hsub : claims.get "sub" = some (.str issuer)) :
    keys.decodeAssertion now token key algorithms audience issuer true = .ok (some claims) ↔
      keys.jwt.payload token = some claims ∧ keys.jwt.signed token key algorithms = true ∧
        PyJwt.validateClaims (assertionOptions audience issuer) now claims = .ok () ∧
          issuer ≠ "" := by
  constructor
  · intro h
    unfold decodeAssertion at h
    dsimp only at h
    split at h
    · split at h <;> cases h
    · rename_i found hdecode
      have hfound : found = claims ∧ issuer ≠ "" := by
        split at h
        · rename_i sub iss hsub' hiss'
          split at h
          · cases h
          · rename_i haccepted
            cases h
            refine ⟨rfl, ?_⟩
            rintro rfl
            cases hsub'.symm.trans hsub
            simp at haccepted
        · cases h
        · cases h
      obtain ⟨rfl, hne⟩ := hfound
      obtain ⟨hpayload, hsigned, hvalid⟩ := keys.jwt.decode_eq_ok.mp hdecode
      exact ⟨hpayload, hsigned, hvalid, hne⟩
  · rintro ⟨hpayload, hsigned, hvalid, hne⟩
    have hdecode := keys.jwt.decode_eq_ok.mpr ⟨hpayload, hsigned, hvalid⟩
    unfold decodeAssertion
    dsimp only
    split
    · rename_i e herror
      cases hdecode.symm.trans herror
    · rename_i found hfound
      cases hdecode.symm.trans hfound
      rw [hsub, hiss]
      simp [hne]

/-- The algorithm that a key is for: the one it declares, or the one of its family and curve. -/
def keyAlgorithm (p : Platform) (jwk : Members) : String :=
  match jwk.get "alg" with
  | some (.str declared) => declared
  | _ =>
      if kty p jwk = "RSA" then JWTAlgorithm.rs256.value
      else match jwk.get "crv" with
        | some (.str "P-384") => JWTAlgorithm.es384.value
        | some (.str "P-521") => JWTAlgorithm.es512.value
        | _ => JWTAlgorithm.es256.value

/-- `require_signing_key` counts the key. -/
def CountsForSigning (p : Platform) (jwk : Members) : Prop :=
  use jwk ≠ "enc" ∧ kty p jwk ∈ supportedKtys

/-- Signatures with the keys that clients register, whatever PyJWT makes of a key. -/
structure Signatures (p : Platform) (jwt : PyJwt κ) where
  /-- the token is correctly signed with the key, by its algorithm -/
  signedWith : Members → (token : String) → Prop
  /-- a `PyJWK` verifies with its own algorithm -/
  verified : ∀ {jwk key token header}, jwt.publicKey jwk = some key → signedWith jwk token →
    jwt.header token = some header → header.get "alg" = some (.str (keyAlgorithm p jwk)) →
    jwt.signed token key [keyAlgorithm p jwk] = true

variable {p : Platform} {signatures : Signatures p keys.jwt}

/-- A correctly signed, unexpired assertion of the client, made with the key and its algorithm. -/
structure MadeWith (signatures : Signatures p keys.jwt) (jwk : Members) (client : Client)
    (now : Instant) (audience : List String) (token : String) (header claims : Members) :
    Prop where
  headed : keys.jwt.header token = some header
  family : keyAlgorithm p jwk ∈ algorithmsByKty (kty p jwk)
  named : header.get "alg" = some (.str (keyAlgorithm p jwk))
  signed : signatures.signedWith jwk token
  payload : keys.jwt.payload token = some claims
  issuer : claims.get "iss" = some (.str client.clientId)
  subject : claims.get "sub" = some (.str client.clientId)
  directed : ∃ value names name, claims.get "aud" = some value ∧
    PyJwt.audienceClaims value = some names ∧ name ∈ names ∧ name ∈ audience ∧ name ≠ ""
  unexpired : ∃ value moment, claims.get "exp" = some value ∧ value.toInt = .ok moment ∧
    now < seconds moment

/-- What PyJWT checks of the other claims: the times are readable and not ahead of the clock, and
`jti` is a text; the client has an identifier. -/
structure InOrder (now : Instant) (client : Client) (claims : Members) : Prop where
  identified : client.clientId ≠ ""
  issuedAt : PyJwt.Begun claims "iat" now 30
  notBefore : PyJwt.Begun claims "nbf" now 30
  tokenId : PyJwt.Textual claims "jti"

/-- No key of the set makes its import raise, and PyJWT reads the key that is named; for an empty
`kid`, it reads exactly one, and the token is signed with that one. -/
def Agrees (keys : ClientKeys κ) (jwks : List Members) (jwk : Members)
    (kid token algorithm : String) : Prop :=
  keys.Imports jwks ∧
    if kid = "" then
      ∃ key, (KeyValidation.usableForSigning jwks).filterMap keys.jwt.publicKey = [key] ∧
        keys.jwt.signed token key [algorithm] = true
    else (keys.jwt.publicKey jwk).isSome = true

theorem not_hmac {family algorithm : String} (h : algorithm ∈ algorithmsByKty family) :
    algorithm ∉ hmacAlgorithms := by
  have hrsa : ∀ a ∈ algorithmsByKty "RSA", a ∉ hmacAlgorithms := by decide
  have hec : ∀ a ∈ algorithmsByKty "EC", a ∉ hmacAlgorithms := by decide
  by_cases hfamily : family = "RSA"
  · exact hrsa algorithm (hfamily ▸ h)
  · have hother : algorithmsByKty family = algorithmsByKty "EC" := by
      unfold algorithmsByKty
      rw [if_neg hfamily]
      rfl
    exact hec algorithm (hother ▸ h)

namespace MadeWith

theorem headerAlgorithm (h : MadeWith signatures jwk client now audience token header claims) :
    keys.headerAlgorithm token = some (keyAlgorithm p jwk) := by
  unfold ClientKeys.headerAlgorithm
  rw [h.headed]
  show (header.get "alg").bind Json.asStr = _
  rw [h.named]
  rfl

/-- The claims pass the checks of `_decode` but for the ones on the other claims. -/
theorem validateClaims_iff
    (h : MadeWith signatures jwk client now audience token header claims) :
    PyJwt.validateClaims (assertionOptions audience client.clientId) now claims = .ok () ↔
      PyJwt.Begun claims "iat" now 30 ∧ PyJwt.Begun claims "nbf" now 30 ∧
        PyJwt.Textual claims "jti" := by
  obtain ⟨value, names, name, haud, hnames, hmem, haudience, hne⟩ := h.directed
  obtain ⟨exp, moment, hexp, hmoment, hlater⟩ := h.unexpired
  have hrequired : PyJwt.validateRequired claims ["exp", "iss", "aud"] = .ok () := by
    rw [PyJwt.validateRequired_ok]
    intro required hrequired
    unfold PyJwt.hasClaim
    rcases List.mem_cons.mp hrequired with rfl | hrequired
    · rw [hexp]
      cases exp with
      | null => cases hmoment
      | bool | num | str | arr | obj => rfl
    · rcases List.mem_cons.mp hrequired with rfl | hrequired
      · rw [h.issuer]
        rfl
      · obtain rfl := List.mem_singleton.mp hrequired
        rw [haud]
        cases value with
        | null => cases hnames
        | bool | num | str | arr | obj => rfl
  have hunexpired : PyJwt.validateExp claims now 30 = .ok () := by
    refine PyJwt.validateExp_ok hexp hmoment (lt_trans ?_ hlater)
    exact Int.sub_lt_self now (by decide)
  have hnamed : PyJwt.validateAud claims (some audience) = .ok () :=
    PyJwt.validateAud_named haud hnames hmem haudience hne
  rw [PyJwt.validateClaims_ok]
  constructor
  · rintro ⟨-, hiat, hnbf, -, -, -, -, hjti⟩
    exact ⟨PyJwt.validateNotBefore_ok.mp hiat, PyJwt.validateNotBefore_ok.mp hnbf,
      PyJwt.validateString_ok.mp hjti⟩
  · rintro ⟨hiat, hnbf, hjti⟩
    exact ⟨hrequired, PyJwt.validateNotBefore_ok.mpr hiat, PyJwt.validateNotBefore_ok.mpr hnbf,
      fun _ => hunexpired, PyJwt.validateIss_ok.mpr h.issuer, fun _ => hnamed,
      (fun hsub => by cases hsub), PyJwt.validateString_ok.mpr hjti⟩

/-- The key that is found verifies the assertion, where there is agreement. -/
theorem agrees_iff (h : MadeWith signatures jwk client now audience token header claims)
    (kid : String) :
    (∃ key, keys.Finds jwks jwk kid key ∧
        keys.jwt.signed token key [keyAlgorithm p jwk] = true) ↔
      keys.Agrees jwks jwk kid token (keyAlgorithm p jwk) := by
  unfold Agrees
  constructor
  · rintro ⟨key, ⟨himports, hread⟩, hsigned⟩
    refine ⟨himports, ?_⟩
    split at hread
    · rename_i hkid
      rw [if_pos hkid]
      exact ⟨key, hread, hsigned⟩
    · rename_i hkid
      rw [if_neg hkid, hread]
      rfl
  · rintro ⟨himports, hread⟩
    split at hread
    · rename_i hkid
      obtain ⟨key, hread, hsigned⟩ := hread
      exact ⟨key, ⟨himports, by rw [if_pos hkid]; exact hread⟩, hsigned⟩
    · rename_i hkid
      obtain ⟨key, hkey⟩ := Option.isSome_iff_exists.mp hread
      exact ⟨key, ⟨himports, by rw [if_neg hkid]; exact hkey⟩,
        signatures.verified hkey h.signed h.headed h.named⟩

/-- The assertion verifies where there is agreement and its other claims are in order. -/
theorem verify_iff (h : MadeWith signatures jwk client now audience token header claims)
    (hjwks : client.jwks = jwks.map .obj) (hjwk : jwk ∈ jwks) (huse : use jwk ≠ "enc")
    (hnames : Names header jwks jwk) :
    keys.verify now token client audience true = .ok (some claims) ↔
      InOrder now client claims ∧
        keys.Agrees jwks jwk (keyId header) token (keyAlgorithm p jwk) := by
  have hhmac := not_hmac h.family
  have hresolve : ∀ key, keys.resolveSigningKey token client.jwks client.jwksUri = some key ↔
      keys.Finds jwks jwk (keyId header) key := by
    intro key
    have hinline : client.jwks.isEmpty = false := by
      rw [hjwks, List.isEmpty_map, List.isEmpty_eq_false_iff]
      exact List.ne_nil_of_mem hjwk
    unfold resolveSigningKey
    rw [h.headed]
    simp only [hinline, Bool.not_false, if_true]
    rw [hjwks, embeddedSigningKey_iff hjwk huse hnames]
  rw [verify_eq_some, ← h.agrees_iff]
  constructor
  · rintro (⟨⟨algorithm, hmem, halgorithm⟩, -⟩ | ⟨algorithm, -, halgorithm, key, hkey, hdecode⟩)
    · cases h.headerAlgorithm.symm.trans halgorithm
      exact absurd hmem hhmac
    · cases h.headerAlgorithm.symm.trans halgorithm
      rw [decodeAssertion_eq_some h.issuer h.subject, h.validateClaims_iff] at hdecode
      obtain ⟨-, hsigned, ⟨hiat, hnbf, hjti⟩, hne⟩ := hdecode
      exact ⟨⟨hne, hiat, hnbf, hjti⟩, key, (hresolve key).mp hkey, hsigned⟩
  · rintro ⟨⟨hne, hiat, hnbf, hjti⟩, key, hfinds, hsigned⟩
    refine .inr ⟨_, hhmac, h.headerAlgorithm, key, (hresolve key).mpr hfinds, ?_⟩
    rw [decodeAssertion_eq_some h.issuer h.subject, h.validateClaims_iff]
    exact ⟨h.payload, hsigned, ⟨hiat, hnbf, hjti⟩, hne⟩

end MadeWith

/-- A key that the inline set resolves to is one of its candidates. -/
theorem mem_of_embeddedSigningKey {set : List Json} {kid : String} {key : κ}
    (h : keys.embeddedSigningKey set kid = some key) :
    ∃ candidates, keys.keySet set = some candidates ∧ ∃ found ∈ candidates, found.2 = key := by
  unfold embeddedSigningKey at h
  split at h
  · cases h
  · rename_i candidates hset
    refine ⟨candidates, hset, ?_⟩
    split at h
    · split at h
      · rename_i found
        cases h
        exact ⟨found, List.mem_singleton_self _, rfl⟩
      · cases h
    · obtain ⟨found, hfind, hkey⟩ := Option.map_eq_some_iff.mp h
      exact ⟨found, List.mem_of_find?_eq_some hfind, hkey⟩

/-! ## Keys for encryption -/

/-- A key that an inline set resolves to is not declared for encryption. -/
theorem resolveSigningKey_usable {uri : String} {key : κ} (hne : jwks ≠ [])
    (h : keys.resolveSigningKey token (jwks.map .obj) uri = some key) :
    ∃ jwk ∈ jwks, use jwk ≠ "enc" ∧ keys.jwt.publicKey jwk = some key := by
  have hinline : (jwks.map Json.obj).isEmpty = false := by
    rw [List.isEmpty_map, List.isEmpty_eq_false_iff]
    exact hne
  unfold resolveSigningKey at h
  split at h
  · cases h
  · simp only [hinline, Bool.not_false, if_true] at h
    obtain ⟨candidates, hset, found, hfound, rfl⟩ := mem_of_embeddedSigningKey h
    by_cases himports : keys.Imports jwks
    · rw [keySet_of_imports himports] at hset
      cases hset
      obtain ⟨jwk, hjwk, hread, -⟩ := mem_candidates.mp hfound
      unfold KeyValidation.usableForSigning at hjwk
      obtain ⟨hmem, huse⟩ := List.mem_filter.mp hjwk
      exact ⟨jwk, hmem, of_decide_eq_true huse, hread⟩
    · rw [keySet_of_raises himports] at hset
      cases hset

end ClientKeys

namespace RegistrationUseCase

open Registration
open ClientKeys
open KeyValidation (use)

variable {κ μ : Type} {useCase : RegistrationUseCase κ} {client : Client}

/-- The inline JWK Set of an accepted client holds keys. -/
theorem accepted_jwks (h : useCase.Accepted client) :
    ∃ jwks : List Members, client.jwks = jwks.map .obj := by
  obtain ⟨around, raw, kept, metadata, secretHash, token, -, hclient⟩ := h
  obtain ⟨_, -, hclient⟩ := bind_eq_ok.mp hclient
  obtain ⟨jwks, -, hclient⟩ := bind_eq_ok.mp hclient
  obtain ⟨_, -, hclient⟩ := bind_eq_ok.mp hclient
  cases hclient
  exact ⟨jwks, rfl⟩

/-- What a key of the inline set is good for: an assertion that is accepted is one signed with the
shared secret, or one verified with a key of the set that is not declared for encryption. -/
def OnlyUsableKeys (keys : ClientKeys μ) (client : Client) (jwks : List Members) : Prop :=
  ∀ now token audience requireIssEqSub claims,
    keys.verify now token client audience requireIssEqSub = .ok (some claims) →
    keys.AcceptedBySecret now token client audience requireIssEqSub claims ∨
      ∃ jwk ∈ jwks, use jwk ≠ "enc" ∧ ∃ key algorithm, keys.jwt.publicKey jwk = some key ∧
        keys.resolveSigningKey token client.jwks client.jwksUri = some key ∧
        keys.decodeAssertion now token key [algorithm] audience client.clientId requireIssEqSub =
          .ok (some claims)

theorem onlyUsableKeys {keys : ClientKeys μ} {jwks : List Members}
    (hjwks : client.jwks = jwks.map .obj) (hne : jwks ≠ []) : OnlyUsableKeys keys client jwks := by
  intro now token audience requireIssEqSub claims h
  rcases verify_eq_some.mp h with hsecret | ⟨algorithm, -, -, key, hkey, hdecode⟩
  · exact .inl hsecret
  · right
    have hresolved := hkey
    rw [hjwks] at hresolved
    obtain ⟨jwk, hjwk, huse, hread⟩ := resolveSigningKey_usable hne hresolved
    exact ⟨jwk, hjwk, huse, key, algorithm, hread, hkey, hdecode⟩

theorem validateMethodMaterial_of_keys {metadata : RegistrationMetadata}
    (hmethod : metadata.tokenEndpointAuthMethod = TokenEndpointAuthMethod.privateKeyJwt.value)
    (hjwks : metadata.jwks ≠ "") : validateMethodMaterial useCase metadata = .ok () := by
  have hkeys : ¬(TokenEndpointAuthMethod.privateKeyJwt.value = "private_key_jwt" ∧
      metadata.jwks = "" ∧ metadata.jwksUri = "") := fun h => hjwks h.2.1
  unfold validateMethodMaterial
  dsimp only
  rw [hmethod, if_neg hkeys]
  rfl

theorem validateJwksUsage_of_keys {metadata : RegistrationMetadata} {keys : List Members}
    (hkeys : keysFromJwksJson useCase.platform metadata.jwks = .ok keys)
    (hsigning : KeyValidation.requireSigningKey useCase.platform keys = none) :
    validateJwksUsage useCase metadata = .ok () := by
  unfold validateJwksUsage
  rw [checkKeys_ok_iff.mpr ⟨keys, hkeys, hsigning⟩]
  exact ite_self _

end RegistrationUseCase

/-! ## A key whose family is in lower case, and a point off the curve -/

namespace RegistrationUseCase.Sample

open Registration ClientKeys

/-- The coordinates of the base point of the curve P-256. -/
def baseX : String := "axfR8uEsQkf4vOblY6RA8ncDfYEt6zOg9KE5RdiYwpY"
def baseY : String := "T-NC4v4af5uO5-tKfA-eFivOM1drMV7Oy7ZAaDe_UfU"

/-- The abscissa after the one of the base point: no point of the curve has both coordinates. -/
def offCurveX : String := "axfR8uEsQkf4vOblY6RA8ncDfYEt6zOg9KE5RdiYwpc"

/-- A key on the curve P-256. -/
structure EcKey where
  kid : String
  kty : String
  x : String

def EcKey.jwk (key : EcKey) : Members :=
  [("crv", .str "P-256"), ("kid", .str key.kid), ("kty", .str key.kty), ("x", .str key.x),
    ("y", .str baseY)]

def EcKey.text (key : EcKey) : String :=
  "\x7b\"crv\":\"P-256\",\"kid\":\"" ++ key.kid ++ "\",\"kty\":\"" ++ key.kty ++
    "\",\"x\":\"" ++ key.x ++ "\",\"y\":\"" ++ baseY ++ "\"\x7d"

def ecKeysText (keys : List EcKey) : String :=
  "\x7b\"keys\":[" ++ Text.join "," (keys.map EcKey.text) ++ "]\x7d"

/-- The server, with a library that writes and reads these keys. -/
def signingServer (keys : List EcKey) : RegistrationUseCase Unit :=
  { useCase with
    platform :=
      { PurIdentityServer.Sample.platform with
        upper := fun text => if text = "ec" then "EC" else text
        jsonDumps := fun _ => ecKeysText keys
        jsonLoads := fun text =>
          if text = ecKeysText keys then
            some (.obj [("keys", .arr (keys.map fun key => .obj key.jwk))])
          else none } }

/-- The metadata of a client that authenticates with one of the keys. -/
def registrant (keys : List EcKey) : Json :=
  .obj [("grant_types", .arr [.str "refresh_token"]),
    ("token_endpoint_auth_method", .str "private_key_jwt"),
    ("jwks", .obj [("keys", .arr (keys.map fun key => .obj key.jwk))])]

/-- The client is accepted with the keys. -/
structure AcceptsSigning (keys : List EcKey) (client : Client) : Prop where
  accepted : (signingServer keys).Accepted client
  method : client.tokenEndpointAuthMethod = some .privateKeyJwt
  clientId : client.clientId = "rp"
  jwks : client.jwks = (keys.map EcKey.jwk).map .obj

def goodKey : EcKey := { kid := "a", kty := "EC", x := baseX }
def lowerCaseKey : EcKey := { kid := "a", kty := "ec", x := baseX }
def offCurveKey : EcKey := { kid := "b", kty := "EC", x := offCurveX }

/-- A point whose coordinates are numbers, in a family that is read as EC. -/
structure EcKey.Readable (key : EcKey) : Prop where
  family : key.kty = "EC" ∨ key.kty = "ec"
  x : (KeyValidation.positiveInt (some (.str key.x))).isSome = true

theorem baseX_readable : (KeyValidation.positiveInt (some (.str baseX))).isSome = true := by
  decide +kernel

theorem baseY_readable : (KeyValidation.positiveInt (some (.str baseY))).isSome = true := by
  decide +kernel

theorem offCurveX_readable :
    (KeyValidation.positiveInt (some (.str offCurveX))).isSome = true := by
  decide +kernel

theorem goodKey_readable : goodKey.Readable := ⟨.inl rfl, baseX_readable⟩
theorem lowerCaseKey_readable : lowerCaseKey.Readable := ⟨.inr rfl, baseX_readable⟩
theorem offCurveKey_readable : offCurveKey.Readable := ⟨.inl rfl, offCurveX_readable⟩

section
variable {keys : List EcKey}

theorem EcKey.Readable.kty_eq {key : EcKey} (h : key.Readable) :
    KeyValidation.kty (signingServer keys).platform key.jwk = "EC" := by
  show (if key.kty = "ec" then "EC" else key.kty) = "EC"
  rcases h.family with hupper | hlower
  · rw [hupper]
    rfl
  · exact if_pos hlower

theorem EcKey.Readable.jwkProblem {key : EcKey} (h : key.Readable) :
    KeyValidation.jwkProblem (signingServer keys).platform key.jwk = "" := by
  have hx : (KeyValidation.positiveInt (Dict.get key.jwk "x")).isNone = false :=
    Option.isNone_eq_false_iff.mpr h.x
  have hy : (KeyValidation.positiveInt (Dict.get key.jwk "y")).isNone = false :=
    Option.isNone_eq_false_iff.mpr baseY_readable
  have hec : KeyValidation.ecProblem (signingServer keys).platform key.jwk = "" := by
    unfold KeyValidation.ecProblem
    rw [hx, hy]
    rfl
  unfold KeyValidation.jwkProblem
  rw [h.kty_eq, hec]
  rfl

/-- The metadata with a text of keys: what is parsed passes every check that reads no key. -/
theorem parseMetadata_registrant {text : String}
    (hjwks : ∀ raw, present raw "jwks" =
        some (.obj [("keys", .arr (keys.map fun key => .obj key.jwk))]) →
      parseJwks (signingServer keys).platform raw = .ok text) :
    ∃ metadata, parseMetadata (signingServer keys).urls (signingServer keys).platform
        (signingServer keys).b64decode standardScopes (registrant keys) = .ok metadata ∧
      metadata.jwks = text ∧
      (validateMethodMaterial (signingServer keys) metadata = .ok () →
        validateJwksUsage (signingServer keys) metadata = .ok () →
        validateNewMetadata (signingServer keys) () metadata = .ok ()) ∧
      metadata.tokenEndpointAuthMethod = TokenEndpointAuthMethod.privateKeyJwt.value ∧
      ∀ keys', keysFromJwksJson (signingServer keys).platform metadata.jwks = .ok keys' →
        ∃ client, clientOf (signingServer keys) { clientId := "rp" } metadata "" "" =
            .ok client ∧
          client.tokenEndpointAuthMethod = some .privateKeyJwt ∧ client.clientId = "rp" ∧
          client.jwks = keys'.map .obj := by
  unfold registrant parseMetadata parseMetadataExtras
  dsimp only
  rw [hjwks]
  · refine ⟨_, rfl, rfl, ?_, rfl, ?_⟩
    · intro hmethod husage
      unfold validateNewMetadata
      rw [hmethod, husage]
      rfl
    · intro keys' hkeys
      exact ⟨_, bind_eq_ok.mpr ⟨_, rfl, bind_eq_ok.mpr ⟨keys', hkeys, rfl⟩⟩, rfl, rfl, rfl⟩
  · rfl

/-- The client is accepted with keys that are read, one at least. -/
theorem accepts_readable (hkeys : ∀ key ∈ keys, key.Readable) (hsome : ∃ key, key ∈ keys) :
    ∃ client, AcceptsSigning keys client := by
  have hmap : (keys.map fun key => Json.obj key.jwk) = (keys.map EcKey.jwk).map .obj := by
    rw [List.map_map]
    rfl
  have hwrites : WritesKeys (signingServer keys).platform (ecKeysText keys)
      (keys.map EcKey.jwk) := by
    refine ⟨by simp [ecKeysText], rfl, ?_⟩
    rw [← hmap]
    exact if_pos rfl
  have hproblems : ∀ jwk ∈ keys.map EcKey.jwk,
      KeyValidation.jwkProblem (signingServer keys).platform jwk = "" :=
    List.forall_mem_map.mpr fun key hkey => (hkeys key hkey).jwkProblem
  have hsigning : KeyValidation.requireSigningKey (signingServer keys).platform
      (keys.map EcKey.jwk) = none := by
    obtain ⟨key, hkey⟩ := hsome
    have husable : key.jwk ∈ KeyValidation.usableForSigning (keys.map EcKey.jwk) :=
      List.mem_filter.mpr ⟨List.mem_map_of_mem hkey, rfl⟩
    refine if_pos (List.any_eq_true.mpr ⟨key.jwk, husable, ?_⟩)
    rw [(hkeys key hkey).kty_eq]
    rfl
  obtain ⟨metadata, hparse, hjwks, hchecks, hmethod, hclient⟩ :=
    parseMetadata_registrant fun raw hraw => hwrites.parseJwks hproblems (hmap ▸ hraw)
  have hne : metadata.jwks ≠ "" := hjwks ▸ hwrites.named
  have hread : keysFromJwksJson (signingServer keys).platform metadata.jwks =
      .ok (keys.map EcKey.jwk) := by
    rw [hjwks]
    exact hwrites.keysFromJwksJson
  obtain ⟨client, hclient, hclientMethod, hclientId, hclientKeys⟩ := hclient _ hread
  have hmetadata : validMetadata (signingServer keys) () (registrant keys) = .ok metadata :=
    bind_eq_ok.mpr ⟨_, rfl, bind_eq_ok.mpr ⟨_, hparse, bind_eq_ok.mpr ⟨_,
      hchecks (validateMethodMaterial_of_keys hmethod hne)
        (validateJwksUsage_of_keys hread hsigning), rfl⟩⟩⟩
  exact ⟨client, ⟨(), registrant keys, { clientId := "rp" }, metadata, "", "", hmetadata, hclient⟩,
    hclientMethod, hclientId, hclientKeys⟩

end

theorem accepts_goodKey : ∃ client, AcceptsSigning [goodKey] client :=
  accepts_readable (List.forall_mem_singleton.mpr goodKey_readable)
    ⟨_, List.mem_singleton_self _⟩

theorem accepts_lowerCaseKey : ∃ client, AcceptsSigning [lowerCaseKey] client :=
  accepts_readable (List.forall_mem_singleton.mpr lowerCaseKey_readable)
    ⟨_, List.mem_singleton_self _⟩

theorem accepts_offCurveKey : ∃ client, AcceptsSigning [goodKey, offCurveKey] client :=
  accepts_readable (List.forall_mem_cons.mpr ⟨goodKey_readable,
    List.forall_mem_singleton.mpr offCurveKey_readable⟩) ⟨_, List.mem_cons_self⟩

/-- `PyJWT` on these keys: the family as it is written, and a point of the curve. -/
def isFamily (kty : String) (jwk : Members) : Bool :=
  match jwk.get "kty" with
  | some (.str value) => value = kty
  | _ => false

def hasBase (jwk : Members) : Bool :=
  match jwk.get "x" with
  | some (.str value) => value = baseX
  | _ => false

/-- The headers of the client's assertions: with the `kid` of the key, or with none. -/
def namedHeader : Members := [("alg", .str "ES256"), ("kid", .str "a")]
def unnamedHeader : Members := [("alg", .str "ES256")]

def assertionHeader (token : String) : Option Members :=
  if token = "named" then some namedHeader
  else if token = "unnamed" then some unnamedHeader
  else none

theorem assertionHeader_algorithm {token : String} {header : Members}
    (h : assertionHeader token = some header) : header.get "alg" = some (.str "ES256") := by
  unfold assertionHeader at h
  split at h
  · cases h
    rfl
  · split at h
    · cases h
      rfl
    · cases h

def assertionClaims : Members :=
  [("iss", .str "rp"), ("sub", .str "rp"), ("aud", .str "https://op.example"),
    ("exp", .num "2000000000")]

/-- `PyJWK(jwk)` -/
def basePublicKey (jwk : Members) : Option Unit :=
  if isFamily "EC" jwk && hasBase jwk then some () else none

/-- The point of the key is not on the curve. -/
def offCurve (jwk : Members) : Bool := isFamily "EC" jwk && !hasBase jwk

theorem offCurve_none (jwk : Members) (h : offCurve jwk = true) : basePublicKey jwk = none := by
  unfold offCurve at h
  rw [Bool.and_eq_true, Bool.not_eq_true'] at h
  unfold basePublicKey
  simp [h.2]

/-- The signature of the token verifies. -/
def baseSigned (token : String) (_ : Unit) (algorithms : List String) : Bool :=
  (assertionHeader token).isSome && decide ("ES256" ∈ algorithms)

theorem baseSigned_algorithm (token : String) (key : Unit) (algorithms : List String)
    (h : baseSigned token key algorithms = true) :
    ∃ header algorithm, assertionHeader token = some header ∧
      header.get "alg" = some (.str algorithm) ∧ algorithm ∈ algorithms := by
  unfold baseSigned at h
  rw [Bool.and_eq_true, decide_eq_true_iff] at h
  obtain ⟨header, hheader⟩ := Option.isSome_iff_exists.mp h.1
  exact ⟨header, "ES256", hheader, assertionHeader_algorithm hheader, h.2⟩

/-- The client keys for tokens signed with the private key of the base point. -/
def signingKeys : ClientKeys Unit where
  jwt :=
    { header := assertionHeader
      payload := fun _ => some assertionClaims
      signed := baseSigned
      publicKey := basePublicKey
      importRaises := offCurve
      secretKey := fun _ => ()
      signed_algorithm := baseSigned_algorithm
      importRaises_none := offCurve_none }
  remoteKey _ _ := none
  decryptSecret _ := none

theorem baseVerified {p : Platform} {jwk header : Members} {key : Unit} {token : String}
    (_ : basePublicKey jwk = some key)
    (hsigned : hasBase jwk = true ∧ (assertionHeader token).isSome = true)
    (hheader : assertionHeader token = some header)
    (halgorithm : header.get "alg" = some (.str (keyAlgorithm p jwk))) :
    baseSigned token key [keyAlgorithm p jwk] = true := by
  have hnamed := halgorithm.symm.trans (assertionHeader_algorithm hheader)
  rw [Json.str.inj (Option.some.inj hnamed)]
  unfold baseSigned
  rw [hsigned.2]
  decide

/-- The tokens are signed with the private key of the base point, whatever the family of the JWK is
written as. -/
def baseSignatures (p : Platform) : Signatures p signingKeys.jwt where
  signedWith jwk token := hasBase jwk = true ∧ (assertionHeader token).isSome = true
  verified := baseVerified

theorem madeWith_base {keys : List EcKey} {client : Client} (h : AcceptsSigning keys client)
    {key : EcKey} (hx : key.x = baseX)
    (hkty : KeyValidation.kty (signingServer keys).platform key.jwk = "EC")
    {token : String} {header : Members} (hheader : assertionHeader token = some header) :
    MadeWith (baseSignatures (signingServer keys).platform) key.jwk client 0 ["https://op.example"]
      token header assertionClaims := by
  have halgorithm : keyAlgorithm (signingServer keys).platform key.jwk = "ES256" := by
    unfold keyAlgorithm
    rw [hkty]
    rfl
  have hclient : assertionClaims.get "iss" = some (.str client.clientId) ∧
      assertionClaims.get "sub" = some (.str client.clientId) := by
    rw [h.clientId]
    exact ⟨rfl, rfl⟩
  constructor
  case headed => exact hheader
  case family =>
    rw [halgorithm, hkty]
    decide
  case named =>
    rw [halgorithm]
    exact assertionHeader_algorithm hheader
  case signed =>
    refine ⟨?_, ?_⟩
    · show decide (key.x = baseX) = true
      exact decide_eq_true hx
    · rw [hheader]
      rfl
  case payload => rfl
  case issuer => exact hclient.1
  case subject => exact hclient.2
  case directed =>
    exact ⟨_, _, "https://op.example", rfl, rfl, List.mem_singleton_self _,
      List.mem_singleton_self _, by decide⟩
  case unexpired => exact ⟨_, 2000000000, rfl, by decide, by decide⟩

theorem inOrder_base {keys : List EcKey} {client : Client} (h : AcceptsSigning keys client) :
    InOrder 0 client assertionClaims := by
  constructor
  case identified =>
    rw [h.clientId]
    decide
  case issuedAt =>
    intro value hget
    cases hget
  case notBefore =>
    intro value hget
    cases hget
  case tokenId =>
    intro value hget
    cases hget

/-- The accepted client's assertion, correctly signed with a key that counts for signatures and that
its header names, does not verify. -/
def Refuses (keys : List EcKey) (key : EcKey) (token : String) : Prop :=
  ∃ client header, AcceptsSigning keys client ∧ key ∈ keys ∧
    CountsForSigning (signingServer keys).platform key.jwk ∧
    MadeWith (baseSignatures (signingServer keys).platform) key.jwk client 0 ["https://op.example"]
      token header assertionClaims ∧
    Names header (keys.map EcKey.jwk) key.jwk ∧ InOrder 0 client assertionClaims ∧
    signingKeys.verify 0 token client ["https://op.example"] true ≠ .ok (some assertionClaims)

/-- A key whose family is in lower case verifies no assertion; and a point off the curve, which the
registration does not look for, disables the other key of the set. -/
theorem signing_keys_disagree :
    Refuses [lowerCaseKey] lowerCaseKey "unnamed" ∧
      Refuses [goodKey, offCurveKey] goodKey "named" := by
  constructor
  · obtain ⟨client, h⟩ := accepts_lowerCaseKey
    have hmade : MadeWith (baseSignatures (signingServer [lowerCaseKey]).platform) lowerCaseKey.jwk
        client 0 ["https://op.example"] "unnamed" unnamedHeader assertionClaims :=
      madeWith_base h rfl rfl rfl
    have hnames : Names unnamedHeader [lowerCaseKey.jwk] lowerCaseKey.jwk := .alone rfl rfl
    refine ⟨client, _, h, List.mem_singleton_self _, ⟨by decide, by decide⟩, hmade, hnames,
      inOrder_base h, ?_⟩
    rw [ne_eq, hmade.verify_iff h.jwks (List.mem_singleton_self _) (by decide) hnames]
    rintro ⟨-, -, key, hread, -⟩
    cases hread
  · obtain ⟨client, h⟩ := accepts_offCurveKey
    have hmade : MadeWith (baseSignatures (signingServer [goodKey, offCurveKey]).platform)
        goodKey.jwk client 0 ["https://op.example"] "named" namedHeader assertionClaims :=
      madeWith_base h rfl rfl rfl
    have hnames : Names namedHeader [goodKey.jwk, offCurveKey.jwk] goodKey.jwk := .kid "a" rfl rfl
    refine ⟨client, _, h, List.mem_cons_self, ⟨by decide, by decide⟩, hmade, hnames,
      inOrder_base h, ?_⟩
    rw [ne_eq, hmade.verify_iff h.jwks List.mem_cons_self (by decide) hnames]
    rintro ⟨-, himports, -⟩
    have husable : offCurveKey.jwk ∈ KeyValidation.usableForSigning
        ([goodKey, offCurveKey].map EcKey.jwk) :=
      List.mem_filter.mpr ⟨List.mem_cons_of_mem _ (List.mem_singleton_self _), by decide⟩
    cases himports offCurveKey.jwk husable

end RegistrationUseCase.Sample
end PurIdentityServer

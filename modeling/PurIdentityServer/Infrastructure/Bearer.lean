import PurIdentityServer.Infrastructure.Tokens

/-!
# Bearer — the management tokens, verified locally or from the JWK Set

An administration server that shares the process of the protocol verifies
a management token with the keys of the store (`LocalBearerVerifier`); one
deployed apart verifies it with the keys the issuer publishes
(`JwksBearerVerifier`), which its client fetches and keeps for a while.

The two take their key differently: the local one falls back on the first
active key of the algorithm for a token that names none. They check the
claims differently: only the remote one reads the configured audience.
What each accepts is said once (`LocalBearerVerifier.verify_eq_some`,
`JwksBearerVerifier.verify_eq_some`); they are compared on these.
-/

namespace PurIdentityServer

open Effects

/-! ## The verifiers -/

structure LocalBearerVerifier (κ : Type) where
  tokenManager : TokenManager κ
  issuer : String

/-- `LocalBearerVerifier.verify` -/
def LocalBearerVerifier.verify {κ : Type} (v : LocalBearerVerifier κ) (now : Instant)
    (token : String) : Except Raised (Option Members) :=
  v.tokenManager.validateAccessToken now token v.issuer

structure JwksBearerVerifier (κ : Type) where
  jwt : PyJwt κ
  /-- `PyJWKClient.get_signing_key_from_jwt`, with the algorithm of the key;
  `none` when it raises (no key, no answer of the endpoint) -/
  signingKey : (token : String) → Option (κ × String)
  issuer : String
  audience : String := ""

namespace JwksBearerVerifier

variable {κ : Type} (v : JwksBearerVerifier κ)

def options : DecodeOptions where
  issuer := some v.issuer
  audience := if v.audience = "" then none else some [v.audience]
  verifyAud := v.audience != ""

/-- `JwksBearerVerifier.verify` -/
def verify (now : Instant) (token : String) : Except Raised (Option Members) :=
  match v.signingKey token with
  | none => .ok none
  | some (key, algorithm) =>
      match v.jwt.decode v.options now token key [algorithm] with
      | .ok claims => .ok (some claims)
      | .error e => if e.isPyJWTError then .ok none else .error (.other "TypeError")

end JwksBearerVerifier

/-- The settings `build_bearer_verifier` reads. -/
structure ManagementSettings where
  issuer : String
  managementJwtIssuer : String := ""
  managementJwtJwksUrl : String := ""
  managementJwtAudience : String := ""

namespace ManagementSettings

variable (settings : ManagementSettings)

/-- `Settings.management_issuer` -/
def managementIssuer : String :=
  if settings.managementJwtIssuer = "" then settings.issuer else settings.managementJwtIssuer

/-- The management tokens are verified from the JWK Set. -/
def Remote : Prop :=
  settings.managementJwtJwksUrl ≠ "" ∨ settings.managementIssuer ≠ settings.issuer

instance : Decidable settings.Remote := inferInstanceAs (Decidable (_ ∨ _))

end ManagementSettings

/-- The port `BearerTokenVerifier`. -/
inductive BearerTokenVerifier (κ : Type) where
  | onKeys (v : LocalBearerVerifier κ)
  | onJwks (v : JwksBearerVerifier κ)

def BearerTokenVerifier.verify {κ : Type} : BearerTokenVerifier κ → Instant → String →
    Except Raised (Option Members)
  | .onKeys v => v.verify
  | .onJwks v => v.verify

/-- `build_bearer_verifier`; `signingKey` is the client of the URL there is. -/
def buildBearerVerifier {κ : Type} (settings : ManagementSettings) (tokenManager : TokenManager κ)
    (signingKey : String → Option (κ × String)) : BearerTokenVerifier κ :=
  if settings.Remote then
    .onJwks
      { jwt := tokenManager.jwt, signingKey := signingKey, issuer := settings.managementIssuer
        audience := settings.managementJwtAudience }
  else .onKeys { tokenManager := tokenManager, issuer := settings.managementIssuer }

/-! ## What each accepts -/

/-- The claims name the audience, when there is one to name. -/
def NamesAudience (audience : String) (claims : Members) : Prop :=
  audience ≠ "" → ∃ value names, claims.get "aud" = some value ∧
    PyJwt.audienceClaims value = some names ∧ audience ∈ names

theorem PyJwt.validateAud_ok {claims : Members} {audience : String} (hne : audience ≠ "") :
    PyJwt.validateAud claims (some [audience]) = .ok () ↔
      ∃ value names, claims.get "aud" = some value ∧ PyJwt.audienceClaims value = some names ∧
        audience ∈ names := by
  unfold PyJwt.validateAud
  cases hget : claims.get "aud" with
  | none => simp
  | some value =>
      cases hnames : PyJwt.audienceClaims value with
      | none =>
          by_cases htruthy : value.truthy = true
          · simp [htruthy, hnames]
          · simp [htruthy, hnames]
      | some names =>
          by_cases hmem : audience ∈ names
          · -- a value that names an audience is not empty
            have htruthy : value.truthy = true := by
              cases value with
              | str name =>
                  cases hnames
                  obtain rfl : audience = name := List.mem_singleton.mp hmem
                  simp [Json.truthy, hne]
              | arr items =>
                  cases items with
                  | nil =>
                      cases hnames
                      cases hmem
                  | cons item rest => rfl
              | null | bool | num | obj => cases hnames
            simp [htruthy, hnames, hmem]
          · by_cases htruthy : value.truthy = true
            · simp [htruthy, hnames, hmem]
            · simp [htruthy, hnames, hmem]

/-- The claims both verifiers check, and the same way. -/
def ClaimsValid (now : Instant) (issuer : String) (claims : Members) : Prop :=
  TokenManager.Registered now issuer claims ∧ TokenManager.Unexpired now false claims

theorem JwksBearerVerifier.validateClaims_options {κ : Type} {v : JwksBearerVerifier κ}
    {now : Instant} {claims : Members} :
    PyJwt.validateClaims v.options now claims = .ok () ↔
      ClaimsValid now v.issuer claims ∧ NamesAudience v.audience claims := by
  unfold ClaimsValid NamesAudience
  rw [← TokenManager.validateClaims_registered, PyJwt.validateClaims_ok, PyJwt.validateClaims_ok]
  have haud : (v.options.verifyAud = true → PyJwt.validateAud claims v.options.audience = .ok ()) ↔
      (v.audience ≠ "" → ∃ value names, claims.get "aud" = some value ∧
        PyJwt.audienceClaims value = some names ∧ v.audience ∈ names) := by
    by_cases hne : v.audience = ""
    · simp [options, hne]
    · simp only [options, bne_iff_ne, ne_eq, hne, not_false_eq_true, if_false, true_implies]
      exact PyJwt.validateAud_ok hne
  constructor
  · rintro ⟨hrequire, hiat, hnbf, hexp, hiss, hnamed, hsub, hjti⟩
    exact ⟨⟨hrequire, hiat, hnbf, hexp, hiss, (fun h => by cases h), hsub, hjti⟩,
      haud.mp hnamed⟩
  · rintro ⟨⟨hrequire, hiat, hnbf, hexp, hiss, _, hsub, hjti⟩, hnamed⟩
    exact ⟨hrequire, hiat, hnbf, hexp, hiss, haud.mpr hnamed, hsub, hjti⟩

/-- The token is signed with the key, by its algorithm. -/
def SignedBy {κ : Type} (jwt : PyJwt κ) (token : String) (key : κ) (algorithm : String) : Prop :=
  jwt.signed token key [algorithm] = true

/-- A key of the store verifies the token. -/
def LocalKey {κ : Type} (manager : TokenManager κ) (token : String) : Prop :=
  ∃ header algorithm pair, manager.jwt.header token = some header ∧
    TokenManager.headerAlgorithm header = some algorithm ∧
    manager.keyFor (header.get "kid") algorithm = some pair ∧
    SignedBy manager.jwt token pair.publicKey algorithm.value

theorem LocalBearerVerifier.verify_eq_some {κ : Type} {v : LocalBearerVerifier κ} {now : Instant}
    {token : String} {claims : Members} :
    v.verify now token = .ok (some claims) ↔
      LocalKey v.tokenManager token ∧ v.tokenManager.jwt.payload token = some claims ∧
        ClaimsValid now v.issuer claims := by
  unfold verify TokenManager.validateAccessToken
  rw [TokenManager.validate_eq_some]
  constructor
  · rintro ⟨header, algorithm, pair, hheader, halg, hpair, hpayload, hsigned, hvalid⟩
    exact ⟨⟨header, algorithm, pair, hheader, halg, hpair, hsigned⟩, hpayload, hvalid⟩
  · rintro ⟨⟨header, algorithm, pair, hheader, halg, hpair, hsigned⟩, hpayload, hvalid⟩
    exact ⟨header, algorithm, pair, hheader, halg, hpair, hpayload, hsigned, hvalid⟩

theorem JwksBearerVerifier.verify_eq_some {κ : Type} {v : JwksBearerVerifier κ} {now : Instant}
    {token : String} {claims : Members} :
    v.verify now token = .ok (some claims) ↔
      (∃ key algorithm, v.signingKey token = some (key, algorithm) ∧
        SignedBy v.jwt token key algorithm) ∧
      v.jwt.payload token = some claims ∧ ClaimsValid now v.issuer claims ∧
        NamesAudience v.audience claims := by
  unfold verify
  cases hkey : v.signingKey token with
  | none => simp
  | some found =>
      simp only
      constructor
      · intro h
        split at h
        · rename_i decoded hdecode
          cases h
          obtain ⟨hpayload, hsigned, hvalid⟩ := (PyJwt.decode_eq_ok _).mp hdecode
          obtain ⟨hclaims, hnamed⟩ := validateClaims_options.mp hvalid
          exact ⟨⟨found.1, found.2, rfl, hsigned⟩, hpayload, hclaims, hnamed⟩
        · split at h <;> cases h
      · rintro ⟨⟨key, algorithm, hfound, hsigned⟩, hpayload, hclaims, hnamed⟩
        cases hfound
        have hdecode := (PyJwt.decode_eq_ok v.jwt).mpr
          ⟨hpayload, hsigned, validateClaims_options.mpr ⟨hclaims, hnamed⟩⟩
        rw [hdecode]

/-! ## The keys the remote verifier finds -/

/-- The `kid` in the header of a token, `""` when it names no key. -/
def kidOf {κ : Type} (jwt : PyJwt κ) (token : String) : String :=
  (((jwt.header token).bind fun header => header.get "kid").bind Json.asStr).getD ""

/-- The JWK of a name, in a set. -/
def jwkOf {κ : Type} (jwkSet : List (KeyPair κ)) (kid : String) : Option (KeyPair κ) :=
  jwkSet.find? fun pair => pair.kid = kid

/-- What `PyJWKClient` documents: it answers the JWK named in the header of a
readable token, and raises when the header names none or there is none. Its
set is what it holds, then what it fetches anew. -/
def Serves {κ : Type} (signingKey : String → Option (κ × String)) (jwkSet : List (KeyPair κ))
    (jwt : PyJwt κ) : Prop :=
  ∀ token claims, jwt.payload token = some claims →
    signingKey token =
      if kidOf jwt token = "" then none
      else (jwkOf jwkSet (kidOf jwt token)).map fun pair => (pair.publicKey, pair.algorithm.value)

/-- The JWK Set comes from publications of the store: a `kid` names one key for
all time. -/
def Consistent {κ : Type} (jwkSet : List (KeyPair κ)) (manager : TokenManager κ) : Prop :=
  ∀ pair ∈ jwkSet, ∀ stored, manager.keyByKid pair.kid = some stored →
    stored.publicKey = pair.publicKey ∧ stored.algorithm = pair.algorithm

/-- A key of the JWK Set verifies the token. -/
def RemoteKey {κ : Type} (jwkSet : List (KeyPair κ)) (jwt : PyJwt κ) (token : String) : Prop :=
  kidOf jwt token ≠ "" ∧ ∃ pair, jwkOf jwkSet (kidOf jwt token) = some pair ∧
    SignedBy jwt token pair.publicKey pair.algorithm.value

section Agreement

variable {κ : Type} {manager : TokenManager κ} {signingKey : String → Option (κ × String)}
  {jwkSet : List (KeyPair κ)} {token : String}

theorem kid_of_kidOf {jwt : PyJwt κ} {header : Members} (hheader : jwt.header token = some header)
    (hkid : kidOf jwt token ≠ "") : header.get "kid" = some (.str (kidOf jwt token)) := by
  unfold kidOf at hkid ⊢
  simp only [hheader, Option.bind_some] at hkid ⊢
  cases hget : header.get "kid" with
  | none => simp [hget] at hkid
  | some value =>
      cases value with
      | str kid => rfl
      | null | bool | num | arr | obj => simp [hget, Json.asStr] at hkid

/-- The local verifier takes the key a token names, when it names one. -/
theorem localKey_named (hkid : kidOf manager.jwt token ≠ "") :
    LocalKey manager token ↔ ∃ stored, manager.keyByKid (kidOf manager.jwt token) = some stored ∧
      SignedBy manager.jwt token stored.publicKey stored.algorithm.value := by
  constructor
  · rintro ⟨header, algorithm, pair, hheader, _, hpair, hsigned⟩
    rw [kid_of_kidOf hheader hkid] at hpair
    unfold TokenManager.keyFor at hpair
    simp only [hkid, if_false] at hpair
    obtain ⟨hstored, halgorithm⟩ := Option.filter_eq_some_iff.mp hpair
    obtain rfl : pair.algorithm = algorithm := of_decide_eq_true halgorithm
    exact ⟨pair, hstored, hsigned⟩
  · rintro ⟨stored, hstored, hsigned⟩
    -- the header names the algorithm of the key, or the signature is refused
    obtain ⟨header, named, hheader, hnamed, hmem⟩ := manager.jwt.signed_algorithm _ _ _ hsigned
    obtain rfl : named = stored.algorithm.value := List.mem_singleton.mp hmem
    have halgorithm : TokenManager.headerAlgorithm header = some stored.algorithm := by
      unfold TokenManager.headerAlgorithm
      rw [hnamed]
      exact JWTAlgorithm.ofValue?_value stored.algorithm
    have hkey : manager.keyFor (header.get "kid") stored.algorithm = some stored := by
      rw [kid_of_kidOf hheader hkid]
      unfold TokenManager.keyFor
      simp only [hkid, if_false]
      rw [hstored, Option.filter_some]
      simp
    exact ⟨header, stored.algorithm, stored, hheader, halgorithm, hkey, hsigned⟩

/-- A key that is both stored and in the JWK Set verifies the same tokens. -/
theorem remoteKey_iff_localKey (hconsistent : Consistent jwkSet manager)
    (hkid : kidOf manager.jwt token ≠ "")
    {stored pair : KeyPair κ} (hstored : manager.keyByKid (kidOf manager.jwt token) = some stored)
    (hpair : jwkOf jwkSet (kidOf manager.jwt token) = some pair) :
    RemoteKey jwkSet manager.jwt token ↔ LocalKey manager token := by
  have hnamed : pair.kid = kidOf manager.jwt token := by simpa using List.find?_some hpair
  obtain ⟨hkey, halgorithm⟩ := hconsistent pair (List.mem_of_find?_eq_some hpair) stored
    (by rw [hnamed]; exact hstored)
  rw [localKey_named hkid]
  constructor
  · rintro ⟨_, found, hfound, hsigned⟩
    obtain rfl : pair = found := Option.some.inj (hpair.symm.trans hfound)
    refine ⟨stored, hstored, ?_⟩
    rw [hkey, halgorithm]
    exact hsigned
  · rintro ⟨found, hfound, hsigned⟩
    obtain rfl : stored = found := Option.some.inj (hstored.symm.trans hfound)
    refine ⟨hkid, pair, hpair, ?_⟩
    rw [hkey, halgorithm] at hsigned
    exact hsigned

/-- What the remote verifier accepts, of what its client serves. -/
theorem JwksBearerVerifier.verify_served {v : JwksBearerVerifier κ}
    (hserves : Serves v.signingKey jwkSet v.jwt) {now : Instant} {claims : Members} :
    v.verify now token = .ok (some claims) ↔
      RemoteKey jwkSet v.jwt token ∧ v.jwt.payload token = some claims ∧
        ClaimsValid now v.issuer claims ∧ NamesAudience v.audience claims := by
  rw [verify_eq_some]
  constructor
  · rintro ⟨⟨key, algorithm, hkey, hsigned⟩, hpayload, hvalid⟩
    rw [hserves token claims hpayload] at hkey
    split at hkey
    · cases hkey
    · rename_i hkid
      obtain ⟨pair, hpair, hfound⟩ := Option.map_eq_some_iff.mp hkey
      cases hfound
      exact ⟨⟨hkid, pair, hpair, hsigned⟩, hpayload, hvalid⟩
  · rintro ⟨⟨hkid, pair, hpair, hsigned⟩, hpayload, hvalid⟩
    refine ⟨⟨pair.publicKey, pair.algorithm.value, ?_, hsigned⟩, hpayload, hvalid⟩
    rw [hserves token claims hpayload]
    simp [hkid, hpair]

theorem buildBearerVerifier_shared {shared : ManagementSettings} (hshared : ¬ shared.Remote)
    {now : Instant} {claims : Members} :
    (buildBearerVerifier shared manager signingKey).verify now token = .ok (some claims) ↔
      LocalKey manager token ∧ manager.jwt.payload token = some claims ∧
        ClaimsValid now shared.managementIssuer claims := by
  unfold buildBearerVerifier
  rw [if_neg hshared]
  exact LocalBearerVerifier.verify_eq_some

theorem buildBearerVerifier_apart {apart : ManagementSettings} (hapart : apart.Remote)
    (hserves : Serves signingKey jwkSet manager.jwt) {now : Instant} {claims : Members} :
    (buildBearerVerifier apart manager signingKey).verify now token = .ok (some claims) ↔
      RemoteKey jwkSet manager.jwt token ∧ manager.jwt.payload token = some claims ∧
        ClaimsValid now apart.managementIssuer claims ∧
          NamesAudience apart.managementJwtAudience claims := by
  unfold buildBearerVerifier
  rw [if_pos hapart]
  exact JwksBearerVerifier.verify_served hserves

end Agreement

/-- A token a key of the store verifies names that key, which the client finds,
and the configured audience; a key the client finds is still in the store. -/
structure Settled {κ : Type} (manager : TokenManager κ) (jwkSet : List (KeyPair κ))
    (audience token : String) (claims : Members) : Prop where
  stored : LocalKey manager token →
    kidOf manager.jwt token ≠ "" ∧ jwkOf jwkSet (kidOf manager.jwt token) ≠ none ∧
      NamesAudience audience claims
  found : RemoteKey jwkSet manager.jwt token → NamesAudience audience claims →
    manager.keyByKid (kidOf manager.jwt token) ≠ none

/-- The verifier of the shared process and the one of a server apart accept a
token with the same claims exactly when, for the valid claims in it, it is
settled: the first reads no audience, takes any active key for a token without
a `kid`, and forgets a purged key at once. -/
theorem verifiers_agree_iff {κ : Type} {manager : TokenManager κ}
    {signingKey : String → Option (κ × String)} {jwkSet : List (KeyPair κ)}
    (hserves : Serves signingKey jwkSet manager.jwt) (hconsistent : Consistent jwkSet manager)
    {shared apart : ManagementSettings} (hshared : ¬ shared.Remote) (hapart : apart.Remote)
    (hissuer : apart.managementIssuer = shared.managementIssuer)
    (haudience : apart.managementJwtAudience = shared.managementJwtAudience)
    (now : Instant) (token : String) :
    (∀ claims,
      (buildBearerVerifier shared manager signingKey).verify now token = .ok (some claims) ↔
        (buildBearerVerifier apart manager signingKey).verify now token = .ok (some claims)) ↔
      ∀ claims, manager.jwt.payload token = some claims →
        ClaimsValid now shared.managementIssuer claims →
        Settled manager jwkSet shared.managementJwtAudience token claims := by
  constructor
  · intro hagree claims hpayload hvalid
    have h := hagree claims
    rw [buildBearerVerifier_shared hshared, buildBearerVerifier_apart hapart hserves, hissuer,
      haudience] at h
    constructor
    · intro hkey
      obtain ⟨⟨hkid, pair, hpair, _⟩, _, _, hnamed⟩ := h.mp ⟨hkey, hpayload, hvalid⟩
      exact ⟨hkid, by simp [hpair], hnamed⟩
    · intro hkey hnamed
      obtain ⟨hstored, _⟩ := h.mpr ⟨hkey, hpayload, hvalid, hnamed⟩
      obtain ⟨stored, hfound, _⟩ := (localKey_named hkey.1).mp hstored
      simp [hfound]
  · intro hsettled claims
    rw [buildBearerVerifier_shared hshared, buildBearerVerifier_apart hapart hserves, hissuer,
      haudience]
    constructor
    · rintro ⟨hkey, hpayload, hvalid⟩
      obtain ⟨hkid, hlisted, hnamed⟩ := (hsettled claims hpayload hvalid).stored hkey
      obtain ⟨stored, hstored, _⟩ := (localKey_named hkid).mp hkey
      obtain ⟨pair, hpair⟩ := Option.ne_none_iff_exists'.mp hlisted
      exact ⟨(remoteKey_iff_localKey hconsistent hkid hstored hpair).mpr hkey, hpayload, hvalid,
        hnamed⟩
    · rintro ⟨hkey, hpayload, hvalid, hnamed⟩
      have hheld := (hsettled claims hpayload hvalid).found hkey hnamed
      obtain ⟨stored, hstored⟩ := Option.ne_none_iff_exists'.mp hheld
      obtain ⟨pair, hpair, _⟩ := hkey.2
      exact ⟨(remoteKey_iff_localKey hconsistent hkey.1 hstored hpair).mp hkey, hpayload, hvalid⟩

/-! ## Two tokens -/

namespace BearerSample

def key : KeyPair String := { algorithm := .rs256, kid := "k1", publicKey := "pem" }

theorem no_import_raises (_jwk : Members) (h : false = true) : some "" = none := by
  cases h

/-- The claims for an audience. -/
def claimsFor (audience : String) : Members :=
  [("iss", .str "https://op"), ("exp", .num "300"), ("aud", .str audience)]

/-- A token is signed with the key there is; `anonymous` names no key, `foreign`
another audience. -/
def jwt : PyJwt String where
  header token :=
    some (("alg", .str "RS256") :: if token = "anonymous" then [] else [("kid", .str "k1")])
  payload token :=
    some (claimsFor (if token = "foreign" then "https://other" else "https://admin"))
  signed _ key algorithms := key == "pem" && algorithms.contains "RS256"
  publicKey _ := some ""
  secretKey secret := secret
  importRaises_none := no_import_raises
  signed_algorithm := by
    intro token key algorithms h
    have hmem : "RS256" ∈ algorithms := by
      simp only [Bool.and_eq_true, List.contains_iff_mem] at h
      exact h.2
    exact ⟨_, "RS256", rfl, rfl, hmem⟩

def manager : TokenManager String where
  jwt := jwt
  keys := { rows := [key], nodup := by simp }
  kid_ne := by simp [key]

def shared : ManagementSettings where
  issuer := "https://op"
  managementJwtAudience := "https://admin"

def apart : ManagementSettings where
  issuer := "https://op"
  managementJwtJwksUrl := "https://op/.well-known/jwks.json"
  managementJwtAudience := "https://admin"

/-- `PyJWKClient`, on a set that holds the key. -/
def signingKey (token : String) : Option (String × String) :=
  if kidOf jwt token = "" then none
  else (jwkOf [key] (kidOf jwt token)).map fun pair => (pair.publicKey, pair.algorithm.value)

theorem serves : Serves signingKey [key] manager.jwt := fun _ _ _ => rfl

theorem consistent : Consistent [key] manager := by
  intro pair hmem stored hstored
  obtain rfl : pair = key := List.mem_singleton.mp hmem
  cases hstored
  exact ⟨rfl, rfl⟩

/-- The verifier in the process of the protocol, and the one of a server apart. -/
def onKeys : BearerTokenVerifier String := buildBearerVerifier shared manager signingKey

def onJwks : BearerTokenVerifier String := buildBearerVerifier apart manager signingKey

end BearerSample

/-- A token that names its key and the audience. -/
theorem verifiers_agree_iff_named :
    BearerSample.onKeys.verify 0 "named" =
        .ok (some (BearerSample.claimsFor "https://admin")) ↔
      BearerSample.onJwks.verify 0 "named" =
        .ok (some (BearerSample.claimsFor "https://admin")) := by
  have hshared : ¬ BearerSample.shared.Remote := by decide
  have hapart : BearerSample.apart.Remote := by decide
  refine (verifiers_agree_iff BearerSample.serves BearerSample.consistent hshared hapart rfl rfl 0
    "named").mpr ?_ _
  intro claims hpayload _
  cases hpayload
  constructor
  · intro _
    have hlisted : jwkOf [BearerSample.key] (kidOf BearerSample.jwt "named") =
        some BearerSample.key := by rfl
    refine ⟨by decide, ?_, fun _ => ⟨_, _, rfl, rfl, List.mem_singleton.mpr rfl⟩⟩
    intro hnone
    cases hlisted.symm.trans hnone
  · intro _ _ hnone
    cases hnone

/-- A token for another audience, and one that names no key, are accepted in
the process of the protocol and refused apart. -/
theorem verifiers_disagree :
    (¬ ∀ token claims, BearerSample.onKeys.verify 0 token = .ok (some claims) ↔
      BearerSample.onJwks.verify 0 token = .ok (some claims)) ∧
    (∃ claims, BearerSample.onKeys.verify 0 "foreign" = .ok (some claims)) ∧
    BearerSample.onJwks.verify 0 "foreign" = .ok none ∧
    (∃ claims, BearerSample.onKeys.verify 0 "anonymous" = .ok (some claims)) ∧
    BearerSample.onJwks.verify 0 "anonymous" = .ok none := by
  have hforeign : BearerSample.onKeys.verify 0 "foreign" =
      .ok (BearerSample.jwt.payload "foreign") := by rfl
  have hrefused : BearerSample.onJwks.verify 0 "foreign" = .ok none := by rfl
  refine ⟨fun h => ?_, ⟨_, hforeign⟩, hrefused, ⟨_, by rfl⟩, by rfl⟩
  have haccepted := (h "foreign" _).mp hforeign
  rw [hrefused] at haccepted
  cases haccepted

end PurIdentityServer

import PurIdentityServer.Domain.Numbers
import PurIdentityServer.Lib.JsonList
import PurIdentityServer.Application.Jwks
import PurIdentityServer.Infrastructure.Jwt
import PurIdentityServer.Infrastructure.OpenID20Identifiers

/-!
# OpenID20Handles — the signed values of the OpenID 2.0 provider

`checkid_setup` and the handle it ends with are tokens the provider signs
with the first active key of its algorithm and reads back, within ten
minutes, with the first active key of that moment. No `kid` is looked at.

What a read answers is decided by two keys, the one that signed and the
one that checks (`readsBack_iff`): a rotation in between replaces the
first, which stays published, and the value is refused.
-/

namespace PurIdentityServer

open Jwks (KeyWorld KeyM KeyError KeyPorts DefaultKeyManager KeyDeployment Signed KeyEvent)
open Effects (Dict Table)

/-! ## The key of the moment -/

namespace Jwks.DefaultKeyManager

open Effects.Raising

variable (m : DefaultKeyManager)

/-- The pair `ensure_active_key` draws for an algorithm, when it can. -/
def nextPair (algorithm : JWTAlgorithm) (w : KeyWorld) : Option KeyPair :=
  if algorithm.isSymmetric || (!algorithm.isRsa && !algorithm.hasCurve) then none
  else (m.ports.pems w.draws 4096 algorithm).map fun pems =>
    { algorithm := algorithm
      use := m.use
      kid := m.ports.kid w.draws
      privateKeyPem := pems.1
      publicKeyPem := pems.2
      createdAt := w.clock }

/-- The first active key of an algorithm, or the pair that becomes it. -/
def currentKey (algorithm : JWTAlgorithm) (w : KeyWorld) : Option KeyPair :=
  match activeOf m.use algorithm w with
  | key :: _ => some key
  | [] => m.nextPair algorithm w

variable {m} {w : KeyWorld}

theorem wp_generateNextPair (algorithm : JWTAlgorithm) :
    wp (m.generateKeyPair 4096 algorithm)
      (fun key w' => m.nextPair algorithm w = some key ∧
        w' = { w with keys := w.keys.save key, draws := w.draws + 1 })
      (fun _ w' => m.nextPair algorithm w = none ∧ w' = w) w := by
  unfold generateKeyPair
  rw [wp_bind]
  unfold generateMaterial nextPair
  split
  case isTrue hsymmetric => exact ⟨by simp [hsymmetric], rfl⟩
  case isFalse hsymmetric =>
      split
      case isTrue hnone => exact ⟨by simp [hnone], rfl⟩
      case isFalse hsome =>
          have hkind :
              ¬(algorithm.isSymmetric || !algorithm.isRsa && !algorithm.hasCurve) = true := by
            simp only [Bool.or_eq_true, not_or]
            exact ⟨hsymmetric, hsome⟩
          rw [if_neg hkind, wp_bind, wp_get]
          cases m.ports.pems w.draws 4096 algorithm with
          | none => exact ⟨rfl, rfl⟩
          | some pems => exact ⟨rfl, rfl⟩

/-- Without an active key the next pair becomes one. -/
theorem wp_ensureNextPair {algorithm : JWTAlgorithm} (hnone : activeOf m.use algorithm w = []) :
    wp (m.ensureActiveKey 4096 algorithm)
      (fun _ w' => ∃ key, m.nextPair algorithm w = some key ∧ key ∈ activeOf m.use algorithm w')
      (fun _ _ => m.nextPair algorithm w = none) w := by
  unfold ensureActiveKey
  rw [wp_bind, wp_of_outcome (outcome_activeKeysOf algorithm), hnone, if_pos List.isEmpty_nil,
    wp_bind]
  refine wp_mono (wp_and (wp_generateNextPair algorithm) (wp_generateKeyPair m 4096 algorithm w))
    ?_ fun _ _ h => h.1.1
  intro key w' ⟨⟨hnext, hworld⟩, _, _, halg, huse, _, hactive⟩
  have hself : Table.find (w.keys.save key) key.kid = some key := Table.find_save_self _ _
  refine ⟨key, hnext, mem_activeOf.mpr ⟨?_, huse, hactive, halg⟩⟩
  rw [hworld]
  exact Table.find_mem hself

/-- `first_active_key` answers the key of the moment, and fails when there is
none. -/
theorem wp_currentKey (age : Int) (algorithm : JWTAlgorithm) (hdraws : m.ports.Draws)
    (hfresh : w.Fresh m.ports) :
    wp (m.firstActiveKey algorithm)
      (fun key w' => m.currentKey algorithm w = some key ∧ KeyWorld.Ages m.ports age w w')
      (fun _ _ => m.currentKey algorithm w = none) w := by
  unfold firstActiveKey currentKey
  rw [wp_bind, wp_of_outcome (outcome_activeKeysOf algorithm)]
  cases hactive : activeOf m.use algorithm w with
  | cons key rest => exact ⟨rfl, .refl hfresh⟩
  | nil =>
      show wp (m.ensureActiveKey 4096 algorithm >>= _) _ _ w
      rw [wp_bind]
      refine wp_mono (wp_and (wp_ensureNextPair hactive)
        (wp_ensureActiveKey age hdraws 4096 algorithm hfresh)) ?_ fun _ _ h => h.1
      intro _ w' ⟨⟨key, hnext, hmem⟩, hages, _, hone⟩
      obtain ⟨generated, _, _, hall⟩ := hone hactive
      rw [wp_bind, wp_of_outcome (outcome_activeKeysOf algorithm)]
      cases hactive' : activeOf m.use algorithm w' with
      | nil =>
          rw [hactive'] at hmem
          cases hmem
      | cons first rest =>
          have hfirst : first = generated := hall first (by simp [hactive'])
          have hkey : key = generated := hall key hmem
          refine ⟨?_, hages⟩
          show m.nextPair algorithm w = some first
          rw [hnext, hkey, hfirst]

end Jwks.DefaultKeyManager

namespace OpenID20

open Effects.Raising

/-! ## The provider -/

/-- Claims PyJWT writes and reads back as they are: named once, with strings
and integers for values. -/
def Plain (claims : Members) : Prop :=
  (Dict.keys claims).Nodup ∧ ∀ claim ∈ claims, ∃ text, claim.2 = .str text ∨ claim.2 = .num text

/-- The loader of private keys and PyJWT, which signs with them. -/
structure JoseLibrary (κ : Type) extends PyJwt κ where
  /-- `load_pem_private_key(…).public_key()`, `none` when it raises -/
  loadKey : Jwks.KeyPair → Option κ
  /-- `jwt.encode(claims, private_key, algorithm, headers={"kid": key.kid})` -/
  encode : (claims : Members) → (key : Jwks.KeyPair) → (algorithm : String) → String
  /-- `str(error)` -/
  describe : JwtError → String
  /-- `str(value)` of a claim that is not a string -/
  pyStr : Json → String
  payload_encode : ∀ claims key algorithm, Plain claims →
    payload (encode claims key algorithm) = some claims
  /-- a signature verifies under the public key of the pair it was made with -/
  signed_encode : ∀ claims key algorithm k k', loadKey key = some k →
    (signed (encode claims key algorithm) k' [algorithm] = true ↔ k' = k)

inductive HandleError where
  /-- `OpenID20ProviderError` -/
  | provider (error description : String)
  /-- an exception of the key manager -/
  | keys (e : KeyError)
  | valueError
  | typeError
  deriving DecidableEq

abbrev HandleM := Effects.Raising KeyWorld HandleError

/-- What `read_state` answers. -/
structure SetupState where
  ns : String
  realm : String
  returnTo : String
  deriving DecidableEq

/-- What `read_handle` answers. -/
structure Assertion where
  sub : String
  ns : String
  realm : String
  claimedId : String
  identifier : String
  deriving DecidableEq

/-- `OPENID20_STATE_TTL_SECONDS` -/
def stateTtlSeconds : Int := 600

/-- `OpenID20ProviderUseCase`: its keys and its signed values. -/
structure HandleUseCase (κ : Type) where
  library : JoseLibrary κ
  keyManager : DefaultKeyManager
  migration : MigrationUseCase
  issuer : String
  enabled : Bool := false
  algorithm : JWTAlgorithm := .rs256

namespace HandleUseCase

variable {κ : Type} (p : HandleUseCase κ)

/-- `_require_enabled` -/
def requireEnabled : HandleM Unit :=
  if p.enabled then pure ()
  else throw (.provider "invalid_request" "Le support OpenID 2.0 n'est pas activé")

/-- The claims of `_sign`. -/
def signedClaims (payload : Members) (now : Int) : Members :=
  payload ++
    [("iss", .str p.issuer),
     ("iat", .num (toString now)),
     ("exp", .num (toString (now + stateTtlSeconds)))]

/-- `_sign` -/
def sign (payload : Members) : HandleM String := do
  let key ← adapt .keys (p.keyManager.firstActiveKey p.algorithm)
  match p.library.loadKey key with
  | none => throw .valueError
  | some _ =>
      let now := (← get).clock.epoch
      return p.library.encode (p.signedClaims payload now) key p.algorithm.value

/-- The options of `_verify`. -/
def verifyOptions : DecodeOptions where
  issuer := some p.issuer
  require := ["exp", "iat"]

/-- `claims.get("kind") != kind` -/
def kindDiffers (claims : Members) (kind : String) : Bool :=
  match Dict.get claims "kind" with
  | some (.str found) => found ≠ kind
  | _ => true

/-- `_verify` -/
def verify (token kind : String) : HandleM Members := do
  let key ← adapt .keys (p.keyManager.firstActiveKey p.algorithm)
  match p.library.loadKey key with
  | none => throw .valueError
  | some publicKey =>
      let now := (← get).clock
      match p.library.decode p.verifyOptions now token publicKey [p.algorithm.value] with
      | .error e =>
          if e.isPyJWTError then
            throw (.provider "invalid_request"
              ("État OpenID 2.0 invalide : " ++ p.library.describe e))
          else throw .typeError
      | .ok claims =>
          if kindDiffers claims kind then
            throw (.provider "invalid_request" "État OpenID 2.0 : type inattendu")
          else return claims

/-- `str(claims.get(name, ""))` -/
def claimText (claims : Members) (name : String) : String :=
  match Dict.get claims name with
  | none => ""
  | some (.str text) => text
  | some value => p.library.pyStr value

def stateClaims (content : SetupState) : Members :=
  [("kind", .str "state"), ("ns", .str content.ns), ("realm", .str content.realm),
   ("return_to", .str content.returnTo)]

/-- `issue_state` -/
def issueState (ns realm returnTo : String) : HandleM String := do
  p.requireEnabled
  p.sign (stateClaims ⟨ns, realm, returnTo⟩)

/-- `read_state` -/
def readState (state : String) : HandleM SetupState := do
  let claims ← p.verify state "state"
  return { ns := p.claimText claims "ns"
           realm := p.claimText claims "realm"
           returnTo := p.claimText claims "return_to" }

def handleClaims (subject ns realm claimedId : String) : Members :=
  [("kind", .str "handle"), ("sub", .str subject), ("ns", .str ns), ("realm", .str realm),
   ("claimed_id", .str claimedId)]

/-- `issue_handle` -/
def issueHandle (subject ns realm claimedId : String) : HandleM String := do
  p.requireEnabled
  p.sign (handleClaims subject ns realm claimedId)

/-- `read_handle`, with the associations of the moment. -/
def readHandle (store : IdentifierRepository) (handle : String) : HandleM Assertion := do
  let claims ← p.verify handle "handle"
  let subject := p.claimText claims "sub"
  let realm := p.claimText claims "realm"
  return { sub := subject
           ns := p.claimText claims "ns"
           realm := realm
           claimedId := p.claimText claims "claimed_id"
           identifier := p.migration.identifierFor subject realm store }

/-! ## What a read accepts -/

/-- The public key a value is checked with now. -/
def verifyingKey (w : KeyWorld) : Option κ :=
  (p.keyManager.currentKey p.algorithm w).bind p.library.loadKey

/-- When a value signed now expires. -/
def expiresAt (w : KeyWorld) : Instant := seconds (w.clock.epoch + stateTtlSeconds)

/-- A token of the provider, for the key of the moment. -/
structure Accepts (w : KeyWorld) (token kind : String) (claims : Members) : Prop where
  signed : ∃ k, p.verifyingKey w = some k ∧ p.library.signed token k [p.algorithm.value] = true
  payload : p.library.payload token = some claims
  valid : PyJwt.validateClaims p.verifyOptions w.clock claims = .ok ()
  kind : kindDiffers claims kind = false

/-- A token that verifies under the key of the moment, has not expired, and
names the provider and its kind. -/
structure Genuine (w : KeyWorld) (token kind : String) : Prop where
  signed : ∃ k, p.verifyingKey w = some k ∧ p.library.signed token k [p.algorithm.value] = true
  claims : ∃ claims value expiry, p.library.payload token = some claims ∧
    Dict.get claims "iss" = some (.str p.issuer) ∧ Dict.get claims "kind" = some (.str kind) ∧
    Dict.get claims "exp" = some value ∧ PyJwt.timeClaim value = .ok expiry ∧
    w.clock < seconds expiry

variable {p} {w : KeyWorld}

theorem Accepts.genuine {token kind : String} {claims : Members}
    (h : p.Accepts w token kind claims) : p.Genuine w token kind := by
  have hvalid := PyJwt.validateClaims_ok.mp h.valid
  have hkind : Dict.get claims "kind" = some (.str kind) := by
    have hdiffers := h.kind
    unfold kindDiffers at hdiffers
    split at hdiffers
    · rename_i found hget
      rw [hget]
      simpa using hdiffers
    · cases hdiffers
  have hrequired := PyJwt.validateRequired_ok.mp hvalid.1 "exp" (by simp [verifyOptions])
  have hunexpired := hvalid.2.2.2.1 rfl
  unfold PyJwt.hasClaim at hrequired
  unfold PyJwt.validateExp at hunexpired
  cases hexp : Dict.get claims "exp" with
  | none =>
      rw [hexp] at hrequired
      cases hrequired
  | some value =>
      rw [hexp] at hunexpired
      dsimp only at hunexpired
      obtain ⟨expiry, htime, hlate⟩ := Effects.bind_eq_ok.mp hunexpired
      split at hlate
      · cases hlate
      · rename_i hlt
        refine ⟨h.signed, claims, value, expiry, h.payload, PyJwt.validateIss_ok.mp hvalid.2.2.2.2.1,
          hkind, hexp, htime, ?_⟩
        have hafter : ∀ a b : Int, ¬b ≤ a - 0 → a < b := by
          intro a b
          omega
        exact hafter _ _ hlt

/-- `_verify` answers the claims of an accepted token, and fails on any other. -/
theorem wp_verify (hdraws : p.keyManager.ports.Draws) (hfresh : w.Fresh p.keyManager.ports)
    (token kind : String) :
    wp (p.verify token kind) (fun claims _ => p.Accepts w token kind claims)
      (fun _ _ => ∀ claims, ¬p.Accepts w token kind claims) w := by
  unfold verify
  rw [wp_bind, wp_adapt]
  refine wp_mono (DefaultKeyManager.wp_currentKey 0 p.algorithm hdraws hfresh) ?_ ?_
  case refine_2 =>
      intro _ _ hnone claims haccepts
      obtain ⟨k, hk, _⟩ := haccepts.signed
      rw [verifyingKey, hnone] at hk
      cases hk
  intro key w' ⟨hcurrent, hages⟩
  have hverifying : p.verifyingKey w = p.library.loadKey key := by
    rw [verifyingKey, hcurrent, Option.bind_some]
  cases hload : p.library.loadKey key with
  | none =>
      intro claims haccepts
      obtain ⟨k, hk, _⟩ := haccepts.signed
      rw [hverifying, hload] at hk
      cases hk
  | some publicKey =>
      rw [hload] at hverifying
      show wp (get >>= fun v : KeyWorld => _) _ _ w'
      rw [wp_bind, wp_get, hages.clock]
      dsimp only
      -- an accepted token decodes to its claims
      have hdecode : ∀ claims, p.Accepts w token kind claims →
          p.library.decode p.verifyOptions w.clock token publicKey [p.algorithm.value] =
            .ok claims := by
        intro claims haccepts
        obtain ⟨k, hk, hsigned⟩ := haccepts.signed
        rw [hverifying] at hk
        cases hk
        exact (PyJwt.decode_eq_ok _).mpr ⟨haccepts.payload, hsigned, haccepts.valid⟩
      cases hresult : p.library.decode p.verifyOptions w.clock token publicKey
          [p.algorithm.value] with
      | error e =>
          have hnot : ∀ claims, ¬p.Accepts w token kind claims := by
            intro claims haccepts
            have := hdecode claims haccepts
            rw [hresult] at this
            cases this
          dsimp only
          split
          · exact hnot
          · exact hnot
      | ok claims =>
          dsimp only
          split
          case isTrue hkind =>
              intro claims' haccepts
              have hsame := hdecode claims' haccepts
              rw [hresult] at hsame
              cases hsame
              rw [haccepts.kind] at hkind
              cases hkind
          case isFalse hkind =>
              obtain ⟨hpayload, hsigned, hvalid⟩ := (PyJwt.decode_eq_ok _).mp hresult
              exact ⟨⟨publicKey, hverifying, hsigned⟩, hpayload, hvalid, by simpa using hkind⟩

/-- A read succeeds on the accepted tokens, with their claims. -/
theorem verify_eq_ok (hdraws : p.keyManager.ports.Draws) (hfresh : w.Fresh p.keyManager.ports)
    {token kind : String} {claims : Members} :
    (∃ w', Effects.Raising.outcome (p.verify token kind) w = (.ok claims, w')) ↔
      p.Accepts w token kind claims := by
  have hverify := wp_verify hdraws hfresh token kind
  constructor
  · rintro ⟨w', hout⟩
    exact of_wp_ok hverify hout
  · intro haccepts
    unfold wp at hverify
    rcases hout : Effects.Raising.outcome (p.verify token kind) w with ⟨_ | found, w'⟩
    · rw [hout] at hverify
      exact absurd haccepts (hverify claims)
    · rw [hout] at hverify
      have hsame : some found = some claims := hverify.payload.symm.trans haccepts.payload
      cases hsame
      exact ⟨w', rfl⟩

/-! ## Reading what was signed -/

/-- The provider's own claims are named once, and none is a registered one but
`sub`, which is a string. -/
structure Payload (payload : Members) : Prop where
  plain : Plain payload
  unregistered : ∀ name ∈ ["iss", "iat", "exp", "nbf", "aud", "jti"], Dict.get payload name = none
  subject : ∀ value, Dict.get payload "sub" = some value → ∃ text, value = .str text

theorem payload_stateClaims (content : SetupState) : Payload (stateClaims content) where
  plain := by
    refine ⟨by simp [stateClaims, Dict.keys], ?_⟩
    intro claim h
    simp only [stateClaims, List.mem_cons, List.not_mem_nil, or_false] at h
    rcases h with rfl | rfl | rfl | rfl
    all_goals exact ⟨_, .inl rfl⟩
  unregistered := by
    intro name h
    simp only [List.mem_cons, List.not_mem_nil, or_false] at h
    rcases h with rfl | rfl | rfl | rfl | rfl | rfl
    all_goals rfl
  subject := by
    intro value h
    simp [stateClaims, Dict.get_cons] at h

theorem payload_handleClaims (subject ns realm claimedId : String) :
    Payload (handleClaims subject ns realm claimedId) where
  plain := by
    refine ⟨by simp [handleClaims, Dict.keys], ?_⟩
    intro claim h
    simp only [handleClaims, List.mem_cons, List.not_mem_nil, or_false] at h
    rcases h with rfl | rfl | rfl | rfl | rfl
    all_goals exact ⟨_, .inl rfl⟩
  unregistered := by
    intro name h
    simp only [List.mem_cons, List.not_mem_nil, or_false] at h
    rcases h with rfl | rfl | rfl | rfl | rfl | rfl
    all_goals rfl
  subject := by
    intro value h
    have hsub : some (Json.str subject) = some value := h
    cases hsub
    exact ⟨subject, rfl⟩

section SignedClaims

variable {payload : Members} (hpayload : Payload payload) (now : Int)
include hpayload

theorem plain_signedClaims : Plain (p.signedClaims payload now) := by
  obtain ⟨hnodup, htexts⟩ := hpayload.plain
  constructor
  · rw [signedClaims, Dict.keys, List.map_append, List.nodup_append]
    refine ⟨hnodup, by simp, ?_⟩
    intro name hname other hother heq
    have hnone : Dict.get payload other = none := by
      apply hpayload.unregistered
      simp only [List.map_cons, List.map_nil, List.mem_cons, List.not_mem_nil, or_false] at hother
      rcases hother with rfl | rfl | rfl
      all_goals simp
    exact Dict.get_eq_none.mp hnone (heq ▸ hname)
  · intro claim h
    rcases List.mem_append.mp h with h | h
    · exact htexts claim h
    · simp only [List.mem_cons, List.not_mem_nil, or_false] at h
      rcases h with rfl | rfl | rfl
      · exact ⟨_, .inl rfl⟩
      · exact ⟨_, .inr rfl⟩
      · exact ⟨_, .inr rfl⟩

theorem get_signedClaims {name : String} (h : name ∈ ["iss", "iat", "exp", "nbf", "aud", "jti"]) :
    Dict.get (p.signedClaims payload now) name =
      Dict.get [("iss", Json.str p.issuer), ("iat", .num (toString now)),
        ("exp", .num (toString (now + stateTtlSeconds)))] name := by
  rw [signedClaims, Dict.get_append, hpayload.unregistered name h, Option.none_or]

omit hpayload in
theorem timeClaim_num (n : Int) : PyJwt.timeClaim (.num (toString n)) = .ok n := by
  rw [PyJwt.timeClaim, Json.toInt_num]

/-- What the provider signed validates until it expires. -/
theorem validateClaims_signedClaims {t : Instant} (hsigned : seconds now ≤ t) :
    PyJwt.validateClaims p.verifyOptions t (p.signedClaims payload now) = .ok () ↔
      t < seconds (now + stateTtlSeconds) := by
  have hiss : Dict.get (p.signedClaims payload now) "iss" = some (.str p.issuer) :=
    get_signedClaims hpayload now (by simp)
  have hiat : Dict.get (p.signedClaims payload now) "iat" = some (.num (toString now)) :=
    get_signedClaims hpayload now (by simp)
  have hexp : Dict.get (p.signedClaims payload now) "exp" =
      some (.num (toString (now + stateTtlSeconds))) :=
    get_signedClaims hpayload now (by simp)
  have hnbf : Dict.get (p.signedClaims payload now) "nbf" = none :=
    get_signedClaims hpayload now (by simp)
  have haud : Dict.get (p.signedClaims payload now) "aud" = none :=
    get_signedClaims hpayload now (by simp)
  have hjti : Dict.get (p.signedClaims payload now) "jti" = none :=
    get_signedClaims hpayload now (by simp)
  have hsub : ∀ value, Dict.get (p.signedClaims payload now) "sub" = some value →
      ∃ text, value = .str text := by
    intro value h
    rw [signedClaims, Dict.get_append] at h
    cases hget : Dict.get payload "sub" with
    | none =>
        rw [hget] at h
        cases h
    | some found =>
        rw [hget] at h
        cases h
        exact hpayload.subject value hget
  have hzero : seconds p.verifyOptions.leeway = 0 := rfl
  have hnever : ∀ a b : Int, b ≤ a → ¬a + 0 < b := by
    intro a b h
    omega
  have hafter : ∀ a b : Int, ¬b ≤ a - 0 ↔ a < b := by
    intro a b
    omega
  rw [PyJwt.validateClaims_ok]
  constructor
  · intro ⟨_, _, _, hunexpired, _⟩
    have h := hunexpired rfl
    rw [PyJwt.validateExp, hexp] at h
    dsimp only at h
    rw [timeClaim_num, hzero, Effects.bind_eq_ok] at h
    obtain ⟨_, hmoment, h⟩ := h
    cases hmoment
    split at h
    · cases h
    · rename_i hlt
      exact (hafter _ _).mp hlt
  · intro hlt
    refine ⟨?_, ?_, ?_, fun _ => ?_, PyJwt.validateIss_ok.mpr hiss, fun _ => ?_, fun _ => ?_, ?_⟩
    · rw [PyJwt.validateRequired_ok]
      intro name hname
      simp only [verifyOptions, List.mem_cons, List.not_mem_nil, or_false] at hname
      rcases hname with rfl | rfl
      · rw [PyJwt.hasClaim, hexp]
        rfl
      · rw [PyJwt.hasClaim, hiat]
        rfl
    · rw [PyJwt.validateNotBefore, hiat]
      dsimp only
      rw [timeClaim_num, hzero]
      exact if_neg (hnever _ _ hsigned)
    · rw [PyJwt.validateNotBefore, hnbf]
    · rw [PyJwt.validateExp, hexp]
      dsimp only
      rw [timeClaim_num, hzero]
      exact if_neg ((hafter _ _).mpr hlt)
    · unfold PyJwt.validateAud
      rw [haud]
      rfl
    · unfold PyJwt.validateString
      cases hget : Dict.get (p.signedClaims payload now) "sub" with
      | none => rfl
      | some value =>
          obtain ⟨text, rfl⟩ := hsub value hget
          rfl
    · rw [PyJwt.validateString, hjti]

end SignedClaims

/-- A token signed with the key of the moment, and until when. -/
structure SignedAt (p : HandleUseCase κ) (w : KeyWorld) (payload : Members) (token : String) :
    Prop where
  made : ∃ key k, p.keyManager.currentKey p.algorithm w = some key ∧
    p.library.loadKey key = some k ∧
    token = p.library.encode (p.signedClaims payload w.clock.epoch) key p.algorithm.value

theorem wp_sign (hdraws : p.keyManager.ports.Draws) (hfresh : w.Fresh p.keyManager.ports)
    (age : Int) (payload : Members) :
    wp (p.sign payload)
      (fun token w' => p.SignedAt w payload token ∧ KeyWorld.Ages p.keyManager.ports age w w')
      (fun _ _ => True) w := by
  unfold sign
  rw [wp_bind, wp_adapt]
  refine wp_mono (DefaultKeyManager.wp_currentKey age p.algorithm hdraws hfresh) ?_
    fun _ _ _ => trivial
  intro key w' ⟨hcurrent, hages⟩
  cases hload : p.library.loadKey key with
  | none => trivial
  | some k =>
      refine ⟨⟨key, k, hcurrent, hload, ?_⟩, hages⟩
      show p.library.encode (p.signedClaims payload w'.clock.epoch) key p.algorithm.value = _
      rw [hages.clock]

/-- A signed value is accepted until it expires, when it is checked with the
key it was signed with. -/
theorem accepts_signed {w₀ : KeyWorld} {payload claims : Members} {token kind : String}
    (hsigned : p.SignedAt w₀ payload token) (hpayload : Payload payload)
    (hkind : Dict.get payload "kind" = some (.str kind)) (hstart : 0 ≤ w₀.clock)
    (hclock : w₀.clock ≤ w.clock) :
    p.Accepts w token kind claims ↔
      claims = p.signedClaims payload w₀.clock.epoch ∧
        p.verifyingKey w = p.verifyingKey w₀ ∧ w.clock < expiresAt w₀ := by
  obtain ⟨key, k, hcurrent, hload, rfl⟩ := hsigned.made
  have hkey : p.verifyingKey w₀ = some k := by
    rw [verifyingKey, hcurrent, Option.bind_some, hload]
  have hread := p.library.payload_encode _ key p.algorithm.value
    (plain_signedClaims (p := p) hpayload w₀.clock.epoch)
  have hissued : seconds w₀.clock.epoch ≤ w.clock :=
    (KeyDeployment.epoch_le w₀.clock hstart).trans hclock
  have hvalid := validateClaims_signedClaims (p := p) hpayload w₀.clock.epoch hissued
  constructor
  · intro haccepts
    have hsame : some claims = some _ := haccepts.payload.symm.trans hread
    cases hsame
    obtain ⟨k', hk', hverified⟩ := haccepts.signed
    rw [p.library.signed_encode _ key _ k k' hload] at hverified
    rw [hk', hkey, hverified]
    exact ⟨rfl, rfl, hvalid.mp haccepts.valid⟩
  · rintro ⟨rfl, hsame, hunexpired⟩
    refine ⟨⟨k, hsame.trans hkey, ?_⟩, hread, hvalid.mpr hunexpired, ?_⟩
    · exact (p.library.signed_encode _ key _ k k hload).mpr rfl
    · have hget : Dict.get (p.signedClaims payload w₀.clock.epoch) "kind" = some (.str kind) :=
        Dict.get_append_of_some hkind
      rw [kindDiffers, hget]
      simp

/-! ## The values of the provider -/

/-- The program answers `a`. -/
def Answers {α : Type} (x : HandleM α) (a : α) (w : KeyWorld) : Prop :=
  ∃ w', Effects.Raising.outcome x w = (.ok a, w')

/-- The program refuses. -/
def Refuses {α : Type} (x : HandleM α) (w : KeyWorld) : Prop :=
  ∃ e w', Effects.Raising.outcome x w = (.error e, w')

theorem answers_readState (hdraws : p.keyManager.ports.Draws)
    (hfresh : w.Fresh p.keyManager.ports) {token : String} {content : SetupState} :
    Answers (p.readState token) content w ↔
      ∃ claims, p.Accepts w token "state" claims ∧
        content = ⟨p.claimText claims "ns", p.claimText claims "realm",
          p.claimText claims "return_to"⟩ := by
  unfold Answers readState
  simp only [outcome_bind_eq_ok, outcome_pure, Prod.mk.injEq, Except.ok.injEq]
  constructor
  · rintro ⟨_, claims, u, hout, hcontent, _⟩
    exact ⟨claims, (verify_eq_ok hdraws hfresh).mp ⟨u, hout⟩, hcontent.symm⟩
  · rintro ⟨claims, haccepts, rfl⟩
    obtain ⟨u, hout⟩ := (verify_eq_ok hdraws hfresh).mpr haccepts
    exact ⟨u, claims, u, hout, rfl, rfl⟩

theorem answers_readHandle (hdraws : p.keyManager.ports.Draws)
    (hfresh : w.Fresh p.keyManager.ports) (store : IdentifierRepository) {token : String}
    {content : Assertion} :
    Answers (p.readHandle store token) content w ↔
      ∃ claims, p.Accepts w token "handle" claims ∧
        content = ⟨p.claimText claims "sub", p.claimText claims "ns", p.claimText claims "realm",
          p.claimText claims "claimed_id", p.migration.identifierFor (p.claimText claims "sub")
            (p.claimText claims "realm") store⟩ := by
  unfold Answers readHandle
  simp only [outcome_bind_eq_ok, outcome_pure, Prod.mk.injEq, Except.ok.injEq]
  constructor
  · rintro ⟨_, claims, u, hout, hcontent, _⟩
    exact ⟨claims, (verify_eq_ok hdraws hfresh).mp ⟨u, hout⟩, hcontent.symm⟩
  · rintro ⟨claims, haccepts, rfl⟩
    obtain ⟨u, hout⟩ := (verify_eq_ok hdraws hfresh).mpr haccepts
    exact ⟨u, claims, u, hout, rfl, rfl⟩

/-- A program that answers nothing refuses. -/
theorem refuses_of_not_answers {α : Type} {x : HandleM α} (h : ∀ a, ¬Answers x a w) :
    Refuses x w := by
  rcases hout : Effects.Raising.outcome x w with ⟨e | a, w'⟩
  · exact ⟨e, w', hout⟩
  · exact absurd ⟨w', hout⟩ (h a)

theorem claimText_signedClaims {payload : Members} {now : Int} {name text : String}
    (h : Dict.get payload name = some (.str text)) :
    p.claimText (p.signedClaims payload now) name = text := by
  have hget : Dict.get (p.signedClaims payload now) name = some (.str text) :=
    Dict.get_append_of_some h
  rw [claimText, hget]

/-- A signed state is read back until it expires, when it is checked with the
key it was signed with. -/
theorem readState_signed (hdraws : p.keyManager.ports.Draws)
    (hfresh : w.Fresh p.keyManager.ports) {w₀ : KeyWorld} {token : String}
    {content : SetupState} (hsigned : p.SignedAt w₀ (stateClaims content) token)
    (hstart : 0 ≤ w₀.clock) (hclock : w₀.clock ≤ w.clock) {found : SetupState} :
    Answers (p.readState token) found w ↔
      found = content ∧ p.verifyingKey w = p.verifyingKey w₀ ∧ w.clock < expiresAt w₀ := by
  have haccepts : ∀ claims, p.Accepts w token "state" claims ↔ _ := fun claims =>
    accepts_signed hsigned (payload_stateClaims content) rfl hstart hclock
  rw [answers_readState hdraws hfresh]
  simp only [haccepts, and_assoc, exists_eq_left]
  have hns : Dict.get (stateClaims content) "ns" = some (.str content.ns) := rfl
  have hrealm : Dict.get (stateClaims content) "realm" = some (.str content.realm) := rfl
  have hreturn : Dict.get (stateClaims content) "return_to" = some (.str content.returnTo) := rfl
  rw [claimText_signedClaims hns, claimText_signedClaims hrealm, claimText_signedClaims hreturn]
  tauto

/-- A signed handle is read back until it expires, when it is checked with the
key it was signed with. -/
theorem readHandle_signed (hdraws : p.keyManager.ports.Draws)
    (hfresh : w.Fresh p.keyManager.ports) (store : IdentifierRepository) {w₀ : KeyWorld}
    {token subject ns realm claimedId : String}
    (hsigned : p.SignedAt w₀ (handleClaims subject ns realm claimedId) token)
    (hstart : 0 ≤ w₀.clock) (hclock : w₀.clock ≤ w.clock) {found : Assertion} :
    Answers (p.readHandle store token) found w ↔
      found = ⟨subject, ns, realm, claimedId, p.migration.identifierFor subject realm store⟩ ∧
        p.verifyingKey w = p.verifyingKey w₀ ∧ w.clock < expiresAt w₀ := by
  have haccepts : ∀ claims, p.Accepts w token "handle" claims ↔ _ := fun claims =>
    accepts_signed hsigned (payload_handleClaims subject ns realm claimedId) rfl hstart hclock
  rw [answers_readHandle hdraws hfresh]
  simp only [haccepts, and_assoc, exists_eq_left]
  have hsub : Dict.get (handleClaims subject ns realm claimedId) "sub" = some (.str subject) := rfl
  have hns : Dict.get (handleClaims subject ns realm claimedId) "ns" = some (.str ns) := rfl
  have hrealm : Dict.get (handleClaims subject ns realm claimedId) "realm" = some (.str realm) := rfl
  have hclaimed : Dict.get (handleClaims subject ns realm claimedId) "claimed_id" =
      some (.str claimedId) := rfl
  rw [claimText_signedClaims hsub, claimText_signedClaims hns, claimText_signedClaims hrealm,
    claimText_signedClaims hclaimed]
  tauto

/-! ## Runs of the key store -/

section Runs

variable {d : KeyDeployment} (hdraws : d.ports.Draws)
include hdraws

theorem later_fresh {v v' : Signed} (h : d.Later v v') (hfresh : v.world.Fresh d.ports) :
    v'.world.Fresh d.ports ∧ v.world.clock ≤ v'.world.clock := by
  induction h with
  | refl => exact ⟨hfresh, le_rfl⟩
  | @step v' _ event ih =>
      rcases KeyDeployment.exec_ages hdraws v' event ih.1 with hages | ⟨elapsed, rfl⟩
      · rw [hages.clock]
        exact ⟨hages.fresh, ih.2⟩
      · exact ⟨⟨ih.1.unused, ih.1.named⟩,
          ih.2.trans (Int.le_add_of_nonneg_right (Int.natCast_nonneg elapsed))⟩

/-- What a signature of a run leaves. -/
theorem signedAt_of_sign (hkeys : p.keyManager = d.manager .sig) {v v' : Signed}
    (hrun : d.Run (fun _ _ => True) v) {payload : Members} {token : String} {w' : KeyWorld}
    (hout : Effects.Raising.outcome (p.requireEnabled >>= fun _ => p.sign payload) v.world =
      (.ok token, w'))
    (hlater : d.Later { v with world := w' } v') :
    p.SignedAt v.world payload token ∧ 0 ≤ v.world.clock ∧
      v.world.clock ≤ v'.world.clock ∧ v'.world.Fresh d.ports := by
  obtain ⟨hfresh, hclock⟩ := KeyDeployment.run_fresh hdraws hrun
  obtain ⟨_, u, hrequired, hsign⟩ := outcome_bind_eq_ok.mp hout
  have hworld : u = v.world := by
    rw [requireEnabled] at hrequired
    split at hrequired
    · exact (congrArg Prod.snd hrequired).symm
    · cases congrArg Prod.fst hrequired
  rw [hworld] at hsign
  have hports : p.keyManager.ports = d.ports := by rw [hkeys]; rfl
  obtain ⟨hsigned, hages⟩ := of_wp_ok
    (wp_sign (hports ▸ hdraws) (hports ▸ hfresh) d.purgeAge payload) hsign
  have hlaterFresh := later_fresh hdraws hlater (hports ▸ hages.fresh)
  have hsame : w'.clock = v.world.clock := hages.clock
  exact ⟨hsigned, hclock, hsame ▸ hlaterFresh.2, hlaterFresh.1⟩

theorem readState_of_issued (hkeys : p.keyManager = d.manager .sig) {v v' : Signed}
    (hrun : d.Run (fun _ _ => True) v) {ns realm returnTo token : String} {w' : KeyWorld}
    (hout : Effects.Raising.outcome (p.issueState ns realm returnTo) v.world = (.ok token, w'))
    (hlater : d.Later { v with world := w' } v') (found : SetupState) :
    Answers (p.readState token) found v'.world ↔
      found = ⟨ns, realm, returnTo⟩ ∧ p.verifyingKey v'.world = p.verifyingKey v.world ∧
        v'.world.clock < expiresAt v.world := by
  have hports : p.keyManager.ports = d.ports := by rw [hkeys]; rfl
  obtain ⟨hsigned, hstart, hclock, hfresh⟩ := signedAt_of_sign hdraws hkeys hrun hout hlater
  exact readState_signed (hports ▸ hdraws) (hports ▸ hfresh) hsigned hstart hclock

theorem readHandle_of_issued (hkeys : p.keyManager = d.manager .sig) {v v' : Signed}
    (hrun : d.Run (fun _ _ => True) v) {subject ns realm claimedId token : String} {w' : KeyWorld}
    (hout : Effects.Raising.outcome (p.issueHandle subject ns realm claimedId) v.world =
      (.ok token, w'))
    (hlater : d.Later { v with world := w' } v') (store : IdentifierRepository)
    (found : Assertion) :
    Answers (p.readHandle store token) found v'.world ↔
      found = ⟨subject, ns, realm, claimedId, p.migration.identifierFor subject realm store⟩ ∧
        p.verifyingKey v'.world = p.verifyingKey v.world ∧
          v'.world.clock < expiresAt v.world := by
  have hports : p.keyManager.ports = d.ports := by rw [hkeys]; rfl
  obtain ⟨hsigned, hstart, hclock, hfresh⟩ := signedAt_of_sign hdraws hkeys hrun hout hlater
  exact readHandle_signed (hports ▸ hdraws) (hports ▸ hfresh) store hsigned hstart hclock

/-- In every run of the key store, a signed state or handle is read back within
its ten minutes exactly when it is checked with the key it was signed with,
and is refused afterwards; a value that does not verify under the key of the
moment, or has expired, is refused. -/
theorem survives_iff (hkeys : p.keyManager = d.manager .sig) {v : Signed}
    (hrun : d.Run (fun _ _ => True) v) :
    (∀ ns realm returnTo token w',
      Effects.Raising.outcome (p.issueState ns realm returnTo) v.world = (.ok token, w') →
      ∀ v', d.Later { v with world := w' } v' →
        (v'.world.clock < expiresAt v.world →
          (Answers (p.readState token) ⟨ns, realm, returnTo⟩ v'.world ↔
            p.verifyingKey v'.world = p.verifyingKey v.world)) ∧
        (expiresAt v.world ≤ v'.world.clock → Refuses (p.readState token) v'.world)) ∧
    (∀ subject ns realm claimedId token w',
      Effects.Raising.outcome (p.issueHandle subject ns realm claimedId) v.world = (.ok token, w') →
      ∀ v' store, d.Later { v with world := w' } v' →
        (v'.world.clock < expiresAt v.world →
          (Answers (p.readHandle store token)
              ⟨subject, ns, realm, claimedId, p.migration.identifierFor subject realm store⟩
              v'.world ↔
            p.verifyingKey v'.world = p.verifyingKey v.world)) ∧
        (expiresAt v.world ≤ v'.world.clock → Refuses (p.readHandle store token) v'.world)) ∧
    (∀ token, ¬p.Genuine v.world token "state" → Refuses (p.readState token) v.world) ∧
    (∀ token store, ¬p.Genuine v.world token "handle" →
      Refuses (p.readHandle store token) v.world) := by
  have hports : p.keyManager.ports = d.ports := by rw [hkeys]; rfl
  have hfresh := (KeyDeployment.run_fresh hdraws hrun).1
  refine ⟨?_, ?_, ?_, ?_⟩
  · intro ns realm returnTo token w' hout v' hlater
    have hread := readState_of_issued hdraws hkeys hrun hout hlater
    constructor
    · intro hclock
      rw [hread]
      exact ⟨fun h => h.2.1, fun h => ⟨rfl, h, hclock⟩⟩
    · intro hexpired
      refine refuses_of_not_answers fun found hfound => ?_
      exact absurd ((hread found).mp hfound).2.2 (Int.not_lt.mpr hexpired)
  · intro subject ns realm claimedId token w' hout v' store hlater
    have hread := readHandle_of_issued hdraws hkeys hrun hout hlater store
    constructor
    · intro hclock
      rw [hread]
      exact ⟨fun h => h.2.1, fun h => ⟨rfl, h, hclock⟩⟩
    · intro hexpired
      refine refuses_of_not_answers fun found hfound => ?_
      exact absurd ((hread found).mp hfound).2.2 (Int.not_lt.mpr hexpired)
  · intro token hforged
    refine refuses_of_not_answers fun found hfound => hforged ?_
    obtain ⟨claims, haccepts, _⟩ :=
      (answers_readState (hports ▸ hdraws) (hports ▸ hfresh)).mp hfound
    exact haccepts.genuine
  · intro token store hforged
    refine refuses_of_not_answers fun found hfound => hforged ?_
    obtain ⟨claims, haccepts, _⟩ :=
      (answers_readHandle (hports ▸ hdraws) (hports ▸ hfresh) store).mp hfound
    exact haccepts.genuine

end Runs

end HandleUseCase

namespace HandleUseCase.Sample

/-! A library whose tokens are readable: the secret of the pair, the
algorithm and the claims, in a list of strings. -/

/-- A claim as three strings; what is not plain is written as nothing. -/
def fields (claim : String × Json) : List String :=
  match claim.2 with
  | .str text => [claim.1, "str", text]
  | .num text => [claim.1, "num", text]
  | _ => []

def unfields : List String → Option Members
  | [] => some []
  | name :: tag :: text :: rest =>
      (unfields rest).map fun claims =>
        (name, if tag = "str" then .str text else .num text) :: claims
  | _ => none

def encode (claims : Members) (key : Jwks.KeyPair) (algorithm : String) : String :=
  JsonList.dumps (key.privateKeyPem :: algorithm :: claims.flatMap fields)

def header (token : String) : Option Members :=
  match JsonList.loads token with
  | some (_ :: algorithm :: _) => some [("alg", .str algorithm)]
  | _ => none

def payload (token : String) : Option Members :=
  match JsonList.loads token with
  | some (_ :: _ :: rest) => unfields rest
  | _ => none

def signed (token key : String) (algorithms : List String) : Bool :=
  match JsonList.loads token with
  | some (secret :: algorithm :: _) => decide (key = secret) && decide (algorithm ∈ algorithms)
  | _ => false

theorem unfields_fields {claims : Members}
    (h : ∀ claim ∈ claims, ∃ text, claim.2 = .str text ∨ claim.2 = .num text) :
    unfields (claims.flatMap fields) = some claims := by
  induction claims with
  | nil => rfl
  | cons claim rest ih =>
      obtain ⟨name, value⟩ := claim
      have hrest := ih fun claim hclaim => h claim (List.mem_cons_of_mem _ hclaim)
      obtain ⟨text, rfl | rfl⟩ := h _ List.mem_cons_self
      · simp [fields, unfields, hrest]
      · simp [fields, unfields, hrest]

theorem signed_algorithm (token key : String) (algorithms : List String)
    (h : signed token key algorithms = true) :
    ∃ members algorithm, header token = some members ∧
      Dict.get members "alg" = some (.str algorithm) ∧ algorithm ∈ algorithms := by
  unfold signed at h
  unfold header
  split at h
  · rename_i secret algorithm rest hloads
    simp only [Bool.and_eq_true, decide_eq_true_eq] at h
    exact ⟨_, algorithm, rfl, rfl, h.2⟩
  · cases h

def library : JoseLibrary String where
  header := header
  payload := payload
  signed := signed
  publicKey := fun _ => none
  secretKey := id
  signed_algorithm := signed_algorithm
  loadKey key := some key.privateKeyPem
  encode := encode
  describe := fun _ => "Signature verification failed"
  pyStr := fun _ => ""
  payload_encode := by
    intro claims key algorithm hplain
    rw [payload, encode, JsonList.loads_dumps]
    exact unfields_fields hplain.2
  signed_encode := by
    intro claims key algorithm k k' hload
    cases hload
    rw [signed, encode, JsonList.loads_dumps]
    simp

def provider : HandleUseCase String where
  library := library
  keyManager := Jwks.Sample.deployment.manager .sig
  migration := { enabled := true, order := id }
  issuer := "https://op"
  enabled := true

/-- The store with the first key, which signs. -/
def before : Signed := Jwks.Sample.run [.initialise false]

def issued : String :=
  provider.library.encode
    (provider.signedClaims (HandleUseCase.stateClaims ⟨"ns", "https://rp/", "https://rp/back"⟩) 0)
    Jwks.Sample.key "RS256"

theorem issueState_before :
    Effects.Raising.outcome (provider.issueState "ns" "https://rp/" "https://rp/back") before.world =
      (.ok issued, before.world) := by
  rfl

theorem run_before : Jwks.Sample.deployment.Run (fun _ _ => True) before :=
  .step (Jwks.Sample.start _) (.initialise false) trivial

/-- The same store after a rotation on demand. -/
def rotated : Signed := Jwks.Sample.deployment.exec before (.rotateSigningKeys false)

theorem verifyingKey_before : provider.verifyingKey before.world = some "s" := by
  decide +kernel

theorem verifyingKey_rotated : provider.verifyingKey rotated.world = some "ss" := by
  decide +kernel

end HandleUseCase.Sample

namespace HandleUseCase

/-- A state is read back at once. -/
theorem survives_iff_at_once :
    Answers (Sample.provider.readState Sample.issued) ⟨"ns", "https://rp/", "https://rp/back"⟩
      Sample.before.world :=
  ((survives_iff Jwks.Sample.draws rfl Sample.run_before).1 _ _ _ _ _ Sample.issueState_before
    _ .refl).1 (by decide +kernel) |>.mpr rfl

/-- A rotation right after the signature: the old key is still stored, found by
its `kid` and published, and the state is refused all the same. -/
theorem rotation_refuses_state :
    ¬∀ v, Jwks.Sample.deployment.Run (fun _ _ => True) v →
      ∀ ns realm returnTo token w',
        Effects.Raising.outcome (Sample.provider.issueState ns realm returnTo) v.world =
          (.ok token, w') →
        ∀ v', Jwks.Sample.deployment.Later { v with world := w' } v' →
          v'.world.clock < expiresAt v.world →
          (∀ key, Sample.provider.keyManager.currentKey .rs256 v.world = some key →
            Jwks.Sample.deployment.TokenVerifiable v'.world key) →
          Answers (Sample.provider.readState token) ⟨ns, realm, returnTo⟩ v'.world := by
  intro hall
  have hlater : Jwks.Sample.deployment.Later Sample.before Sample.rotated :=
    .step .refl (.rotateSigningKeys false)
  have hread := hall _ Sample.run_before _ _ _ _ _ Sample.issueState_before Sample.rotated hlater
    (by decide +kernel) ?_
  · rw [readState_of_issued Jwks.Sample.draws rfl Sample.run_before Sample.issueState_before hlater,
      Sample.verifyingKey_before, Sample.verifyingKey_rotated] at hread
    exact absurd hread.2.1 (by decide)
  · intro key hkey
    have hfirst : Sample.provider.keyManager.currentKey .rs256 Sample.before.world =
        some Jwks.Sample.key := by decide +kernel
    cases hfirst.symm.trans hkey
    have hfresh := (later_fresh Jwks.Sample.draws hlater
      (KeyDeployment.run_fresh Jwks.Sample.draws Sample.run_before).1).1
    have hkept : KeyDeployment.Kept Jwks.Sample.deployment Sample.rotated.world
        ⟨Jwks.Sample.key, 600000000⟩ := by
      refine ⟨by decide, fun _ => ⟨{ Jwks.Sample.key with isActive := false }, ?_, rfl⟩⟩
      decide +kernel
    exact KeyDeployment.tokenVerifiable_of_kept Jwks.Sample.draws hfresh rfl hkept (by decide +kernel)

end HandleUseCase

end OpenID20

end PurIdentityServer

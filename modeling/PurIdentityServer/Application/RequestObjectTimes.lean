import PurIdentityServer.Application.RequestObjectBinding

/-!
# RequestObjectTimes — the times of a signed request object

The verifier is called under four profiles: those of CIBA and FAPI require
`nbf` and bound the times to an hour around the clock, that of a federated
client and that of CIBA record the `jti` until the object expires. The
record needs a `datetime`, which no second of the year 10000 has: there the
verification of a federated object raises, and nowhere else
(`verify_disciplined_iff`).
-/

namespace PurIdentityServer

open Effects

/-! ## The profiles -/

/-- Under which profile a request object is verified. -/
inductive RequestObjectProfile where
  | standard (sessionScope : String)
  | federated (sessionScope : String)
  | fapi
  | ciba (algorithms : List String)

namespace RequestObjectProfile

/-- `_REQUIRED_CLAIMS` -/
def cibaRequiredClaims : List String := ["iss", "aud", "exp", "iat", "nbf", "jti"]

/-- `allowed_algorithms` -/
def allowed : RequestObjectProfile → List String
  | .standard _ => standardSignedAlgorithms
  | .federated _ => standardSignedAlgorithms
  | .fapi => fapiSignedAlgorithms
  | .ciba algorithms => algorithms

/-- `required_claims` -/
def required : RequestObjectProfile → List String
  | .standard _ => standardRequiredClaims
  | .federated _ => federatedRequiredClaims
  | .fapi => fapiRequiredClaims
  | .ciba _ => cibaRequiredClaims

/-- `enforce_jti` -/
def enforcesJti : RequestObjectProfile → Bool
  | .standard _ => false
  | .federated _ => true
  | .fapi => false
  | .ciba _ => true

/-- `jti_namespace` -/
def jtiNamespace : RequestObjectProfile → String
  | .standard sessionScope => sessionNamespace sessionScope
  | .federated sessionScope => sessionNamespace sessionScope
  | .fapi => "ciba:"
  | .ciba _ => "ciba:"

/-- The profiles whose times are bounded to an hour. -/
def timed : RequestObjectProfile → Bool
  | .standard _ => false
  | .federated _ => false
  | .fapi => true
  | .ciba _ => true

theorem nbf_required {profile : RequestObjectProfile} :
    "nbf" ∈ profile.required ↔ profile.timed = true := by
  cases profile <;> simp [required, timed, standardRequiredClaims, federatedRequiredClaims,
    fapiRequiredClaims, cibaRequiredClaims]

theorem exp_required {profile : RequestObjectProfile} (h : profile.enforcesJti = true) :
    "exp" ∈ profile.required := by
  cases profile with
  | standard sessionScope => cases h
  | federated sessionScope => simp [required, federatedRequiredClaims]
  | fapi => cases h
  | ciba algorithms => simp [required, cibaRequiredClaims]

theorem exp_of_timed {profile : RequestObjectProfile} (h : profile.timed = true) :
    "exp" ∈ profile.required := by
  cases profile with
  | standard sessionScope => cases h
  | federated sessionScope => cases h
  | fapi => simp [required, fapiRequiredClaims]
  | ciba algorithms => simp [required, cibaRequiredClaims]

end RequestObjectProfile

namespace SignedObjects

variable {κ : Type} (verifier : SignedObjects κ)

/-- A verification under a profile. -/
def verifyAs (at_ : Readings) (token : String) (client : Client) (issuer : String)
    (profile : RequestObjectProfile) : Verification SignedRequestObjectResult :=
  verifier.verifySigned at_ token client issuer profile.allowed profile.required
    profile.enforcesJti profile.jtiNamespace

/-! ## The times of an accepted object -/

/-- The times are within an hour of each other and of the clock. -/
def WithinHour (now : Instant) (claims : Members) : Prop :=
  ∃ exp nbf, timestamp claims "exp" = .ok exp ∧ timestamp claims "nbf" = .ok nbf ∧
    exp - nbf ≤ maxLifetimeSeconds ∧ exp ≤ now.epoch + maxLifetimeSeconds ∧
    now.epoch - maxLifetimeSeconds ≤ nbf

theorem temporalBounds_eq_none {now : Instant} {claims : Members} {required : List String} :
    temporalBounds now claims required = none ↔ ("nbf" ∈ required → WithinHour now claims) := by
  unfold temporalBounds WithinHour
  by_cases hrequired : "nbf" ∈ required
  · rw [if_neg (not_not_intro hrequired)]
    cases hexp : timestamp claims "exp" with
    | error e => simp [hrequired]
    | ok exp =>
        cases hnbf : timestamp claims "nbf" with
        | error e => simp [hrequired]
        | ok nbf =>
            simp only [hrequired, forall_const, Except.ok.injEq, exists_and_left,
              exists_eq_left']
            split
            · simp; omega
            split
            · simp; omega
            split
            · simp; omega
            · simp; omega
  · simp [hrequired]

/-- Where PyJWT reads a time, `_timestamp` reads the same one. -/
theorem timeClaim_of_timestamp {claims : Members} {name : String} {value : Json} {moment : Int}
    (hget : claims.get name = some value) (h : timestamp claims name = .ok moment) :
    PyJwt.timeClaim value = .ok moment := by
  unfold timestamp at h
  rw [hget] at h
  unfold PyJwt.timeClaim
  split at h
  · rename_i text heq
    cases heq
    cases h
    rfl
  · rename_i text heq
    cases heq
    rw [h]
  · cases h

theorem get_of_timestamp {claims : Members} {name : String} {moment : Int}
    (h : timestamp claims name = .ok moment) : ∃ value, claims.get name = some value := by
  unfold timestamp at h
  split at h
  · rename_i text hget
    exact ⟨_, hget⟩
  · rename_i text hget
    exact ⟨_, hget⟩
  · cases h

theorem notBefore_le {claims : Members} {name : String} {now : Instant} {moment : Int}
    (hread : timestamp claims name = .ok moment)
    (h : PyJwt.validateNotBefore claims name now 0 = .ok ()) : seconds moment ≤ now := by
  obtain ⟨value, hget⟩ := get_of_timestamp hread
  unfold PyJwt.validateNotBefore at h
  rw [hget] at h
  obtain ⟨found, hfound, h⟩ := bind_eq_ok.mp h
  rw [timeClaim_of_timestamp hget hread] at hfound
  cases hfound
  split at h
  · cases h
  · rename_i hle
    simpa [seconds] using hle

theorem lt_exp {claims : Members} {now : Instant} {moment : Int}
    (hread : timestamp claims "exp" = .ok moment)
    (h : PyJwt.validateExp claims now 0 = .ok ()) : now < seconds moment := by
  obtain ⟨value, hget⟩ := get_of_timestamp hread
  unfold PyJwt.validateExp at h
  rw [hget] at h
  obtain ⟨found, hfound, h⟩ := bind_eq_ok.mp h
  rw [timeClaim_of_timestamp hget hread] at hfound
  cases hfound
  split at h
  · cases h
  · rename_i hlt
    simpa [seconds] using hlt

variable {verifier}

/-- An accepted object that has to name `nbf` is valid now, and within an hour. -/
theorem verifySigned_times {at_ : Readings} {token issuer namespaceText : String}
    {client : Client} {allowed required : List String} {enforceJti : Bool} {claims : Members}
    {replays replays' : ReplayStore} (hnbf : "nbf" ∈ required)
    (h : verifier.verifySigned at_ token client issuer allowed required enforceJti namespaceText
      replays = .ok (.accepted claims, replays')) :
    ∃ exp nbf, timestamp claims "exp" = .ok exp ∧ timestamp claims "nbf" = .ok nbf ∧
      seconds nbf ≤ at_.decode ∧ at_.decode < seconds exp ∧
      exp - nbf ≤ maxLifetimeSeconds ∧ exp ≤ at_.bounds.epoch + maxLifetimeSeconds ∧
      at_.bounds.epoch - maxLifetimeSeconds ≤ nbf := by
  obtain ⟨_, hvalid, hsettled⟩ := verifySigned_settled h
  obtain ⟨_, _, hnotBefore, hnotAfter, _⟩ := PyJwt.validateClaims_ok.mp hvalid
  obtain ⟨exp, nbf, hexp, hnbf, hlife, hahead, hbehind⟩ :=
    temporalBounds_eq_none.mp (settled_accepted hsettled).1 hnbf
  exact ⟨exp, nbf, hexp, hnbf, notBefore_le hnbf hnotBefore, lt_exp hexp (hnotAfter rfl), hlife,
    hahead, hbehind⟩

/-! ## Where the verification raises -/

/-- The times that are there are numbers. -/
def NumericTimes (claims : Members) : Prop :=
  ∀ name ∈ ["exp", "nbf", "iat"], ∀ value, claims.get name = some value → ∃ text, value = .num text

/-- A second that no `datetime` has. -/
def OutOfCalendar (moment : Int) : Prop := moment < -62135596800 ∨ maxTimestamp < moment

/-- The `jti` is one to record, until a moment that is no date. -/
def Unrecordable (verifier : SignedObjects κ) (namespaceText : String) (claims : Members)
    (replays : ReplayStore) : Prop :=
  ∃ jti exp, claims.get "jti" = some (.str jti) ∧ jti ≠ "" ∧
    replays.find (verifier.digest namespaceText jti) = none ∧
    timestamp claims "exp" = .ok exp ∧ OutOfCalendar exp

theorem raises_expiration {claims : Members} {exp : Int} (h : timestamp claims "exp" = .ok exp) :
    (∃ x, expiration claims = .error x) ↔ OutOfCalendar exp := by
  unfold expiration OutOfCalendar
  rw [h]
  dsimp only
  split
  · rename_i hin
    simp only [reduceCtorEq, exists_false, false_iff]
    omega
  · rename_i hout
    simp only [Except.error.injEq, exists_eq', true_iff]
    omega

theorem raises_rememberJti {now : Instant} {claims : Members} {namespaceText : String}
    {replays : ReplayStore} {exp : Int} (h : timestamp claims "exp" = .ok exp) :
    (∃ x, verifier.rememberJti now claims namespaceText replays = .error x) ↔
      verifier.Unrecordable namespaceText claims replays := by
  unfold rememberJti Unrecordable
  split
  · rename_i jti hjti
    split
    · rename_i hempty
      simp [hempty, hjti]
    · rename_i hne
      split
      · rename_i hseen
        simp only [reduceCtorEq, exists_false, false_iff]
        rintro ⟨other, exp', hother, _, hunused, _⟩
        rw [hjti] at hother
        cases hother
        rw [hunused] at hseen
        cases hseen
      · rename_i hunused
        have hnone : replays.find (verifier.digest namespaceText jti) = none := by
          simpa using hunused
        have hbody : (∃ x, expiration claims = .error x) ↔ (∃ x,
            (expiration claims).bind (fun expiresAt => Except.ok (.accepted claims,
              purgeReplays (replays.save ⟨verifier.digest namespaceText jti, expiresAt⟩) now))
                = (.error x : Except Raised (SignedRequestObjectResult × ReplayStore))) := by
          cases expiration claims with
          | error x => simp [Except.bind]
          | ok expiresAt => simp [Except.bind]
        refine hbody.symm.trans ((raises_expiration h).trans ?_)
        constructor
        · intro hout
          exact ⟨jti, exp, hjti, hne, hnone, h, hout⟩
        · rintro ⟨_, exp', _, _, _, hexp, hout⟩
          rw [h] at hexp
          cases hexp
          exact hout
  · rename_i hnot
    simp only [reduceCtorEq, exists_false, false_iff]
    rintro ⟨jti, _, hjti, _⟩
    exact hnot jti hjti

theorem raises_settled {at_ : Readings} {claims : Members} {required : List String}
    {enforceJti : Bool} {namespaceText : String} {replays : ReplayStore}
    (h : enforceJti = true → ∃ exp, timestamp claims "exp" = .ok exp) :
    (∃ x, verifier.settled at_ claims required enforceJti namespaceText replays = .error x) ↔
      enforceJti = true ∧ ("nbf" ∈ required → WithinHour at_.bounds claims) ∧
        verifier.Unrecordable namespaceText claims replays := by
  unfold settled
  rw [← temporalBounds_eq_none]
  cases hbounds : temporalBounds at_.bounds claims required with
  | some reason => simp
  | none =>
      cases enforceJti with
      | false => simp
      | true =>
          obtain ⟨exp, hexp⟩ := h rfl
          simpa using raises_rememberJti hexp

theorem timestamp_of_numeric {claims : Members} {name : String} (h : NumericTimes claims)
    (hname : name ∈ ["exp", "nbf", "iat"]) (hhas : PyJwt.hasClaim claims name = true) :
    ∃ moment, timestamp claims name = .ok moment := by
  unfold PyJwt.hasClaim at hhas
  split at hhas
  · cases hhas
  · rename_i value hget
    obtain ⟨text, rfl⟩ := h name hname value hget
    unfold timestamp
    rw [hget]
    exact ⟨_, rfl⟩

/-- A correctly signed token whose times are numbers PyJWT lets through. -/
structure LetThrough (verifier : SignedObjects κ) (at_ : Readings) (token : String)
    (client : Client) (issuer : String) (profile : RequestObjectProfile)
    (claims : Members) : Prop where
  signed : verifier.CorrectlySigned client profile.allowed token claims
  numeric : NumericTimes claims
  valid : PyJwt.validateClaims (claimsOptions issuer client profile.required) at_.decode claims
    = .ok ()

/-- On such a token the verification raises when it has a `jti` to record until a
moment that is no date. -/
theorem raises_verifyAs {at_ : Readings} {token issuer : String} {client : Client}
    {profile : RequestObjectProfile} {claims : Members} {replays : ReplayStore}
    (h : verifier.LetThrough at_ token client issuer profile claims) :
    (∃ x, verifier.verifyAs at_ token client issuer profile replays = .error x) ↔
      profile.enforcesJti = true ∧ (profile.timed = true → WithinHour at_.bounds claims) ∧
        verifier.Unrecordable profile.jtiNamespace claims replays := by
  unfold verifyAs
  rw [verifySigned_validated h.signed h.valid, ← RequestObjectProfile.nbf_required]
  refine raises_settled ?_
  intro henforces
  have hrequired := PyJwt.validateRequired_ok.mp (PyJwt.validateClaims_ok.mp h.valid).1
  have hexp : PyJwt.hasClaim claims "exp" = true :=
    hrequired "exp" (RequestObjectProfile.exp_required henforces)
  exact timestamp_of_numeric h.numeric (by simp) hexp

end SignedObjects

/-! ## The parameters of a FAPI client -/

namespace RequestObjectResolver

variable {κ : Type} {resolver : RequestObjectResolver κ}

/-- A parameter that is a claim of the object, or one of the transport's that
authenticate the client. -/
def OwnParameter (resolver : RequestObjectResolver κ) (params : Params) (claims : Members)
    (item : String × String) : Prop :=
  (∃ claim ∈ claims, item = (claim.1, resolver.stringify claim.2)) ∨
    (item ∈ params ∧ item.1 ∈ fapiTransportKeys)

theorem mergeFapi_own {params : Params} {claims : Members} {item : String × String}
    (h : item ∈ resolver.mergeFapi params claims) : resolver.OwnParameter params claims item := by
  rcases Dict.mem_update h with htransport | hobject
  · obtain ⟨hparams, hkey⟩ := List.mem_filter.mp htransport
    exact Or.inr ⟨hparams, of_decide_eq_true hkey⟩
  · obtain ⟨hclaim, _⟩ := List.mem_filter.mp hobject
    obtain ⟨claim, hmem, heq⟩ := List.mem_map.mp hclaim
    exact Or.inl ⟨claim, hmem, heq.symm⟩

theorem pickClient_empty (params : Params) :
    resolver.pickClient params "" = resolver.findClient (params.text "client_id") := by
  have hissuer : resolver.unverifiedIssuer "" = "" := by rfl
  unfold pickClient
  rw [hissuer]
  cases hfind : resolver.findClient (params.text "client_id") with
  | some client => rfl
  | none => simp [findClient]

/-- A FAPI client's parameters come from an object verified under its profile. -/
theorem resolve_fapi {at_ : Readings} {params merged : Params} {document sessionScope : String}
    {client : Client} {replays replays' : ReplayStore}
    (hpresented : resolver.presented params = .ok document)
    (hpick : resolver.pickClient params document = some client)
    (hfapi : client.fapiEnabled = true)
    (h : resolver.resolve at_ params sessionScope replays = .ok (.ok merged, replays')) :
    ∃ claims, resolver.verifier.verifyAs at_ document client resolver.issuer .fapi replays
        = .ok (.accepted claims, replays') ∧ merged = resolver.mergeFapi params claims := by
  by_cases hempty : document = ""
  · subst hempty
    rw [pickClient_empty] at hpick
    unfold resolve at h
    rw [hpresented] at h
    simp only [if_true] at h
    have hrefused := (run_pure_eq_ok.mp h).1
    simp [hpick, withoutRequestObject, hfapi] at hrefused
  · cases resolve_readAs hpresented hempty h with
    | unsigned claims hplain hreads hpayload hmerged heq =>
        rw [hplain client hpick] at hfapi
        cases hfapi
    | signed other claims hother hplain hreads hverified hsub hmerged =>
        rw [hpick] at hother
        cases hother
        rw [hplain] at hfapi
        cases hfapi
    | fapi other claims hother hprofile hverified hmerged =>
        rw [hpick] at hother
        cases hother
        exact ⟨claims, hverified, hmerged⟩

/-- Whatever the transport carries, the parameters of a FAPI client are the verified
object's own claims and those that authenticate the client. -/
def Confined (resolver : RequestObjectResolver κ) (at_ : Readings) (replays : ReplayStore) : Prop :=
  ∀ params sessionScope document client merged replays',
    resolver.presented params = .ok document →
    resolver.pickClient params document = some client → client.fapiEnabled = true →
    resolver.resolve at_ params sessionScope replays = .ok (.ok merged, replays') →
    ∃ claims, resolver.verifier.VerifiedFor client fapiSignedAlgorithms fapiRequiredClaims
        document claims ∧ ∀ item ∈ merged, resolver.OwnParameter params claims item

theorem confined (at_ : Readings) (replays : ReplayStore) : resolver.Confined at_ replays := by
  intro params sessionScope document client merged replays' hpresented hpick hfapi h
  obtain ⟨claims, hverify, rfl⟩ := resolve_fapi hpresented hpick hfapi h
  refine ⟨claims, (SignedObjects.verifySigned_accepted hverify).1, ?_⟩
  intro item hmem
  exact mergeFapi_own hmem

end RequestObjectResolver

/-! ## The discipline -/

namespace SignedObjects

variable {κ : Type} {verifier : SignedObjects κ}

/-- What is expected of the verification of one token: the times of an object accepted
under a timed profile, the parameters of a FAPI client, and an ending on every
correctly signed token with numeric times that PyJWT lets through. -/
structure Disciplined (verifier : SignedObjects κ) (at_ : Readings) (token : String)
    (client : Client) (issuer : String) (profile : RequestObjectProfile)
    (replays : ReplayStore) : Prop where
  timely : profile.timed = true → ∀ claims replays',
    verifier.verifyAs at_ token client issuer profile replays = .ok (.accepted claims, replays') →
    ∃ exp nbf, timestamp claims "exp" = .ok exp ∧ timestamp claims "nbf" = .ok nbf ∧
      seconds nbf ≤ at_.decode ∧ at_.decode < seconds exp ∧
      exp - nbf ≤ maxLifetimeSeconds ∧ exp ≤ at_.bounds.epoch + maxLifetimeSeconds ∧
      at_.bounds.epoch - maxLifetimeSeconds ≤ nbf
  confined : ∀ resolver : RequestObjectResolver κ, resolver.verifier = verifier →
    resolver.Confined at_ replays
  ends : ∀ claims, verifier.LetThrough at_ token client issuer profile claims →
    ∃ result replays', verifier.verifyAs at_ token client issuer profile replays
      = .ok (result, replays')

namespace LastingSample

def lastingClaims : Members :=
  [("iss", .str "leaf"), ("aud", .str "https://op"), ("exp", .num "253402300800"),
    ("jti", .str "j")]

def document : String := "rs256.lasting.leaf"

def header : Members := [("alg", .str "RS256"), ("kid", .str "leaf")]

/-- One token, signed with the key `leaf`. -/
def jwt : PyJwt String where
  header token := if token = document then some header else none
  payload token := if token = document then some lastingClaims else none
  signed token key algorithms :=
    token == document && key == "leaf" && algorithms.contains "RS256"
  publicKey jwk := (jwk.get "kid").bind Json.asStr
  secretKey := id
  importRaises_none := RequestObjectResolver.Sample.no_import_raises
  signed_algorithm := by
    intro token key algorithms h
    simp only [Bool.and_eq_true, beq_iff_eq, List.contains_iff_mem] at h
    exact ⟨header, "RS256", if_pos h.1.1, rfl, h.2⟩

def objects : SignedObjects String where
  jwt := jwt
  remoteKey _ _ := none
  decryptSecret _ := none
  jtiHash := id
  printed := id

def leaf : Client where
  clientId := "leaf"
  federated := true
  jwks := [.obj [("kty", .str "RSA"), ("kid", .str "leaf")]]

def readings : Readings where
  decode := seconds 1760000000
  bounds := seconds 1760000000
  purge := seconds 1760000000
  decode_le := le_refl _
  bounds_le := le_refl _

theorem letThrough : objects.LetThrough readings document leaf "https://op" (.federated "")
    lastingClaims where
  signed := ⟨"RS256", "leaf", by rfl, by decide, by rfl, by rfl, by rfl⟩
  numeric := by
    intro name hname value hget
    simp only [List.mem_cons, List.not_mem_nil, or_false] at hname
    rcases hname with rfl | rfl | rfl
    · exact ⟨"253402300800", (Option.some.inj hget).symm⟩
    · cases hget
    · cases hget
  valid := by rfl

end LastingSample

end SignedObjects

end PurIdentityServer

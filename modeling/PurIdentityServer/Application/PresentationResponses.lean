import PurIdentityServer.Infrastructure.EmbeddedKeys
import PurIdentityServer.Infrastructure.Keys

/-!
# Presentation responses — the tokens and the nonces of a presentation

`OID4VPVerifierUseCase` signs presentation requests, each with a nonce of
its own, and receives the answers: a `vp_token` is one token, a list of
tokens or an object of them, and each token is verified under the key its
own header carries. A nonce is outstanding from its request until a
response that carries it is accepted.

The collector takes the non-empty strings of a `vp_token` and leaves out
every other member; `jwt.decode` checks an `exp` that is there and does
not ask for one. The nonces stand apart from that: no run consumes one
twice, and a refused response consumes none.
-/

namespace PurIdentityServer.OID4VP

open Effects.Raising

/-! ## The tokens of a response -/

def allowedVpAlgorithms : List String := ["RS256", "ES256"]

/-- `isinstance(value, str) and value`. -/
def tokenOf : Json → Option String
  | .str token => if token = "" then none else some token
  | _ => none

/-- `_all_tokens`. -/
def allTokens : Json → List String
  | .obj members => (members.map Prod.snd).filterMap tokenOf
  | .arr items => items.filterMap tokenOf
  | .str token => if token = "" then [] else [token]
  | _ => []

/-- The presentations a `vp_token` holds: its members, or itself. -/
def elements : Json → List Json
  | .obj members => members.map Prod.snd
  | .arr items => items
  | value => [value]

theorem allTokens_eq (vpToken : Json) :
    allTokens vpToken = (elements vpToken).filterMap tokenOf := by
  cases vpToken with
  | str token =>
      by_cases hempty : token = ""
      · simp [allTokens, elements, tokenOf, hempty]
      · simp [allTokens, elements, tokenOf, hempty]
  | obj members => rfl
  | arr items => rfl
  | null => rfl
  | bool b => rfl
  | num text => rfl

theorem tokenOf_eq_some {value : Json} {token : String} :
    tokenOf value = some token ↔ value = .str token ∧ token ≠ "" := by
  cases value with
  | str text =>
      by_cases hempty : text = ""
      · simp only [tokenOf, hempty, if_true, Json.str.injEq]
        grind
      · simp only [tokenOf, hempty, if_false, Json.str.injEq, Option.some.injEq]
        grind
  | obj | arr | null | bool | num => simp [tokenOf]

/-! ## The verifier -/

/-- What the verifier asks of PyJWT, `cryptography` and `uuid`, for public
keys `κ`. -/
structure VpLibrary (κ : Type) where
  imports : KeyImports κ
  /-- `load_pem_private_key` reads the private key -/
  loads : Jwks.KeyPair → Bool
  /-- `pyjwt.encode` of a payload under a key, with these headers; `none` when
  it raises -/
  encode : Members → Jwks.KeyPair → Members → Option String
  /-- the `n`-th `uuid4().hex` -/
  uuid4Hex : Nat → String
  uuid4Hex_injective : Function.Injective uuid4Hex

/-- `OID4VPVerifierUseCase`, the outstanding nonces apart. -/
structure Verifier (κ : Type) where
  lib : VpLibrary κ
  configuredIssuer : String
  keyManager : Jwks.DefaultKeyManager
  algorithm : JWTAlgorithm

/-- The keys, the clock and the outstanding nonces. -/
structure VpWorld where
  keys : Jwks.KeyWorld
  nonces : List String := []
  draws : Nat := 0

/-- What `create_presentation_request` returns. -/
structure PresentationRequest where
  request : String
  nonce : String
  responseMode : String
  dcqlQuery : Option Members := none

/-- What `validate_presentation_response` returns: a status, or an error code. -/
inductive VpAnswer where
  | received
  | error (code : String)
  deriving DecidableEq, Repr

namespace Verifier

variable {κ : Type} (p : Verifier κ)

/-- `self._issuer`. -/
def issuer : String := Text.rstripSlash p.configuredIssuer

/-- The claims of a request object. -/
def requestPayload (now : Int) (nonce : String) (presentationDefinition dcqlQuery : Option Members)
    (responseMode : String) : Members :=
  [("iss", .str p.issuer), ("aud", .str "wallet"), ("iat", .num (toString now)),
    ("exp", .num (toString (now + 300))), ("nonce", .str nonce),
    ("response_type", .str "vp_token"), ("response_mode", .str responseMode),
    ("client_id", .str p.issuer)] ++
  (presentationDefinition.toList.map fun definition =>
    ("presentation_definition", .obj definition)) ++
  (dcqlQuery.toList.map fun query => ("dcql_query", .obj query))

def requestHeaders (kid : String) : Members :=
  [("typ", .str "oauth-authz-req+jwt"), ("kid", .str kid), ("alg", .str p.algorithm.value)]

/-- `create_presentation_request`: the nonce is outstanding before the request
is signed. -/
def createPresentationRequest (presentationDefinition dcqlQuery : Option Members)
    (responseMode : String) : Effects.Raising VpWorld Jwks.KeyError PresentationRequest := do
  let key ← within VpWorld.keys (fun keys w => { w with keys := keys })
    (p.keyManager.firstActiveKey p.algorithm)
  if !p.lib.loads key then throw (.valueError "load_pem_private_key")
  else do
    let w ← get
    let nonce := p.lib.uuid4Hex w.draws
    set { w with nonces := w.nonces.insert nonce, draws := w.draws + 1 }
    let payload := p.requestPayload w.keys.clock.epoch nonce presentationDefinition dcqlQuery
      responseMode
    match p.lib.encode payload key (p.requestHeaders key.kid) with
    | none => throw (.valueError "encode")
    | some request =>
        return { request := request, nonce := nonce, responseMode := responseMode,
                 dcqlQuery := dcqlQuery }

/-- What `jwt.decode` is told to check: the audience, and by default the times. -/
def vpOptions : DecodeOptions := { audience := some [p.issuer] }

/-- `_verify_vp_token`. -/
def verifyVpToken (now : Instant) (token : String) : Except Raised (Option Members) :=
  (p.lib.imports.decodeEmbedded allowedVpAlgorithms p.vpOptions now token).map
    (Option.map Prod.fst)

/-- The nonces of the tokens, collected in `nonces`; `none` at the first token
that is not verified or whose nonce is not outstanding. -/
def collectNonces (now : Instant) (outstanding : List String) :
    List String → List String → Except Raised (Option (List String))
  | [], nonces => .ok (some nonces)
  | token :: rest, nonces =>
      match p.verifyVpToken now token with
      | .error e => .error e
      | .ok none => .ok none
      | .ok (some claims) =>
          match claims.get "nonce" with
          | some (.str nonce) =>
              if nonce ∈ outstanding then
                collectNonces now outstanding rest (nonces.insert nonce)
              else .ok none
          | _ => .ok none

/-- `validate_presentation_response`. -/
def validatePresentationResponse (vpToken : Json) : Effects.Raising VpWorld Raised VpAnswer := do
  let w ← get
  let tokens := allTokens vpToken
  if tokens.isEmpty then return .error "invalid_request"
  else
    match ← lift (p.collectNonces w.keys.clock w.nonces tokens []) with
    | none => return .error "invalid_presentation"
    | some nonces =>
        set { w with nonces := w.nonces.filter fun nonce => nonce ∉ nonces }
        return .received

/-! ## What a response has been checked for -/

/-- The token verifies under the key of its own header, and its claims are
valid for the issuer at `now`. -/
def Passed (now : Instant) (token : String) (claims : Members) : Prop :=
  ∃ jwk, p.lib.imports.Embedded allowedVpAlgorithms p.vpOptions now token claims jwk

variable {p} {now : Instant}

theorem passed_of_verify {token : String} {claims : Members}
    (h : p.verifyVpToken now token = .ok (some claims)) : p.Passed now token claims := by
  unfold verifyVpToken at h
  cases hdecode : p.lib.imports.decodeEmbedded allowedVpAlgorithms p.vpOptions now token with
  | error e =>
      rw [hdecode] at h
      cases h
  | ok found =>
      rw [hdecode] at h
      cases found with
      | none => cases h
      | some found =>
          cases h
          exact ⟨found.2, KeyImports.decodeEmbedded_eq_some.mp hdecode⟩

theorem Passed.payload {token : String} {claims : Members} (h : p.Passed now token claims) :
    p.lib.imports.jwt.payload token = some claims := by
  obtain ⟨_, hembedded⟩ := h
  exact hembedded.payload

/-- A valid audience names the issuer. -/
theorem Passed.audience {token : String} {claims : Members} (h : p.Passed now token claims) :
    ∃ value names, claims.get "aud" = some value ∧ PyJwt.audienceClaims value = some names ∧
      p.issuer ∈ names := by
  obtain ⟨_, hembedded⟩ := h
  obtain ⟨_, _, _, _, _, haud, _⟩ := PyJwt.validateClaims_ok.mp hembedded.valid
  have haud : PyJwt.validateAud claims (some [p.issuer]) = .ok () := haud rfl
  unfold PyJwt.validateAud at haud
  cases hget : claims.get "aud" with
  | none =>
      rw [hget] at haud
      cases haud
  | some value =>
      rw [hget] at haud
      simp only at haud
      split at haud
      · cases haud
      · split at haud
        · cases haud
        · rename_i names hnames
          refine ⟨value, names, rfl, hnames, ?_⟩
          by_cases hmem : p.issuer ∈ names
          · exact hmem
          · simp [hmem] at haud

/-- An `exp` that is there is still to come. -/
theorem Passed.expiry {token : String} {claims : Members} {value : Json}
    (h : p.Passed now token claims) (hexp : claims.get "exp" = some value) :
    ∃ moment, PyJwt.timeClaim value = .ok moment ∧ now < seconds moment := by
  obtain ⟨_, hembedded⟩ := h
  obtain ⟨_, _, _, hvalid, _⟩ := PyJwt.validateClaims_ok.mp hembedded.valid
  have hvalid : PyJwt.validateExp claims now 0 = .ok () := hvalid rfl
  unfold PyJwt.validateExp at hvalid
  rw [hexp] at hvalid
  obtain ⟨moment, hmoment, hvalid⟩ := Effects.bind_eq_ok.mp hvalid
  refine ⟨moment, hmoment, ?_⟩
  by_contra hlate
  have hexpired : seconds moment ≤ now - seconds 0 := by
    simpa [seconds] using hlate
  rw [if_pos hexpired] at hvalid
  cases hvalid

/-- The loop goes through every token, and collects nothing else. -/
theorem collectNonces_some {outstanding tokens acc nonces : List String}
    (h : p.collectNonces now outstanding tokens acc = .ok (some nonces)) :
    (∀ token ∈ tokens, ∃ claims nonce, p.Passed now token claims ∧
      claims.get "nonce" = some (.str nonce) ∧ nonce ∈ outstanding ∧ nonce ∈ nonces) ∧
    ∀ nonce ∈ acc, nonce ∈ nonces := by
  induction tokens generalizing acc with
  | nil =>
      rw [collectNonces] at h
      cases h
      exact ⟨fun _ hmem => (List.not_mem_nil hmem).elim, fun _ hmem => hmem⟩
  | cons token rest ih =>
      rw [collectNonces] at h
      split at h
      · cases h
      · cases h
      · rename_i claims hverify
        split at h
        · rename_i nonce hnonce
          split at h
          · rename_i houtstanding
            obtain ⟨hrest, hacc⟩ := ih h
            refine ⟨fun other hother => ?_, fun other hother => ?_⟩
            · rcases List.mem_cons.mp hother with rfl | hother
              · exact ⟨claims, nonce, passed_of_verify hverify, hnonce, houtstanding,
                  hacc nonce (List.mem_insert_self)⟩
              · exact hrest other hother
            · exact hacc other (List.mem_insert_of_mem hother)
          · cases h
        · cases h

/-- An accepted response: its tokens have passed, and their nonces are gone. -/
theorem validate_received {vpToken : Json} {w w' : VpWorld}
    (h : Effects.Raising.outcome (p.validatePresentationResponse vpToken) w = (.ok .received, w')) :
    ∃ nonces, p.collectNonces w.keys.clock w.nonces (allTokens vpToken) [] = .ok (some nonces) ∧
      w' = { w with nonces := w.nonces.filter fun nonce => nonce ∉ nonces } := by
  unfold validatePresentationResponse at h
  obtain ⟨_, _, hget, h⟩ := outcome_bind_eq_ok.mp h
  cases hget
  by_cases hempty : (allTokens vpToken).isEmpty = true
  · rw [if_pos hempty] at h
    cases h
  · rw [if_neg hempty] at h
    obtain ⟨collected, _, hlift, h⟩ := outcome_bind_eq_ok.mp h
    rw [outcome_lift] at hlift
    obtain ⟨hcollected, rfl⟩ := Prod.mk.inj hlift
    cases collected with
    | none => cases h
    | some nonces =>
        cases h
        exact ⟨nonces, hcollected, rfl⟩

/-- Any other outcome leaves everything as it was. -/
theorem validate_refused {vpToken : Json} {w w' : VpWorld} {answer : Except Raised VpAnswer}
    (h : Effects.Raising.outcome (p.validatePresentationResponse vpToken) w = (answer, w'))
    (hrefused : answer ≠ .ok .received) : w' = w := by
  have hwp : wp (p.validatePresentationResponse vpToken)
      (fun answer w' => answer ≠ .received → w' = w) (fun _ w' => w' = w) w := by
    unfold validatePresentationResponse
    rw [wp_bind, wp_get]
    by_cases hempty : (allTokens vpToken).isEmpty = true
    · rw [if_pos hempty, wp_pure]
      exact fun _ => rfl
    · rw [if_neg hempty]
      refine wp_lift_bind (fun _ _ => rfl) fun collected _ => ?_
      cases collected with
      | none => exact fun _ => rfl
      | some nonces => exact fun hne => absurd rfl hne
  unfold wp at hwp
  rw [h] at hwp
  cases answer with
  | error e => exact hwp
  | ok answer => exact hwp fun heq => hrefused (by rw [heq])

/-! ## Runs -/

/-- What `create_presentation_request` does to the nonces, whether it answers
or raises: nothing, or it adds the one it draws. -/
def Draws (w w' : VpWorld) : Prop :=
  (w'.nonces = w.nonces ∧ w'.draws = w.draws) ∨
    (w'.nonces = w.nonces.insert (p.lib.uuid4Hex w.draws) ∧ w'.draws = w.draws + 1)

variable (p) in
theorem wp_createPresentationRequest (presentationDefinition dcqlQuery : Option Members)
    (responseMode : String) (w : VpWorld) :
    wp (p.createPresentationRequest presentationDefinition dcqlQuery responseMode)
      (fun request w' => Draws (p := p) w w' ∧ request.nonce ∈ w'.nonces)
      (fun _ w' => Draws (p := p) w w') w := by
  unfold createPresentationRequest
  rw [wp_bind, wp_within]
  refine wp_of_forall (fun key keys => ?_) fun _ _ => .inl ⟨rfl, rfl⟩
  by_cases hloads : p.lib.loads key = true
  · rw [hloads]
    show wp (get >>= _) _ _ _
    rw [wp_bind, wp_get, wp_bind, wp_set]
    dsimp only
    cases p.lib.encode _ key (p.requestHeaders key.kid) with
    | none => exact .inr ⟨rfl, rfl⟩
    | some request => exact ⟨.inr ⟨rfl, rfl⟩, List.mem_insert_self⟩
  · rw [Bool.not_eq_true] at hloads
    rw [hloads]
    exact .inl ⟨rfl, rfl⟩

end Verifier

/-- A response that was accepted, with the nonces it consumed. -/
structure Acceptance where
  vpToken : Json
  consumed : List String

structure Presented where
  world : VpWorld
  accepted : List Acceptance := []

inductive VpEvent where
  /-- time passes and the keys change -/
  | environment (keys : Jwks.KeyWorld)
  | request (presentationDefinition dcqlQuery : Option Members) (responseMode : String)
  | respond (vpToken : Json)

namespace Verifier

variable {κ : Type} (p : Verifier κ)

def exec (v : Presented) : VpEvent → Presented
  | .environment keys => { v with world := { v.world with keys := keys } }
  | .request presentationDefinition dcqlQuery responseMode =>
      { v with world :=
          (Effects.Raising.outcome
            (p.createPresentationRequest presentationDefinition dcqlQuery responseMode)
            v.world).2 }
  | .respond vpToken =>
      match Effects.Raising.outcome (p.validatePresentationResponse vpToken) v.world with
      | (.ok .received, w) =>
          { world := w
            accepted :=
              ⟨vpToken, v.world.nonces.filter fun nonce => nonce ∉ w.nonces⟩ :: v.accepted }
      | (_, w) => { v with world := w }

/-- The states of the runs, from any keys. -/
inductive Run : Presented → Prop where
  | start (keys : Jwks.KeyWorld) : Run { world := { keys := keys } }
  | step {v : Presented} (h : Run v) (event : VpEvent) : Run (p.exec v event)

/-- A nonce of one of the requests so far. -/
def Issued (v : Presented) (nonce : String) : Prop :=
  ∃ n < v.world.draws, nonce = p.lib.uuid4Hex n

/-- The outstanding nonces were issued; a consumed one is outstanding no more,
and one acceptance consumed it. -/
structure Ledger (v : Presented) : Prop where
  issued : ∀ nonce ∈ v.world.nonces, p.Issued v nonce
  consumed : ∀ acceptance ∈ v.accepted, ∀ nonce ∈ acceptance.consumed,
    p.Issued v nonce ∧ nonce ∉ v.world.nonces
  once : v.accepted.Pairwise fun a b => ∀ nonce ∈ a.consumed, nonce ∉ b.consumed

variable {p}

theorem Ledger.draws {v : Presented} {w' : VpWorld} (h : p.Ledger v)
    (hdraws : Draws (p := p) v.world w') : p.Ledger { v with world := w' } := by
  have hissued : ∀ nonce, p.Issued v nonce → p.Issued { v with world := w' } nonce := by
    intro nonce ⟨n, hn, heq⟩
    refine ⟨n, ?_, heq⟩
    rcases hdraws with ⟨_, hsame⟩ | ⟨_, hnext⟩
    · show n < w'.draws
      omega
    · show n < w'.draws
      omega
  rcases hdraws with ⟨hsame, _⟩ | ⟨hnew, hnext⟩
  · refine ⟨fun nonce hmem => ?_, fun a ha nonce hmem => ?_, h.once⟩
    · exact hissued nonce (h.issued nonce (hsame ▸ hmem))
    · obtain ⟨hwas, hgone⟩ := h.consumed a ha nonce hmem
      exact ⟨hissued nonce hwas, fun hin => hgone (hsame ▸ hin)⟩
  · refine ⟨fun nonce hmem => ?_, fun a ha nonce hmem => ?_, h.once⟩
    · have hmem : nonce ∈ v.world.nonces.insert (p.lib.uuid4Hex v.world.draws) := hnew ▸ hmem
      rcases List.mem_insert_iff.mp hmem with heq | hmem
      · refine ⟨v.world.draws, ?_, heq⟩
        show v.world.draws < w'.draws
        omega
      · exact hissued nonce (h.issued nonce hmem)
    · obtain ⟨hwas, hgone⟩ := h.consumed a ha nonce hmem
      refine ⟨hissued nonce hwas, fun hin => ?_⟩
      have hin : nonce ∈ v.world.nonces.insert (p.lib.uuid4Hex v.world.draws) := hnew ▸ hin
      rcases List.mem_insert_iff.mp hin with heq | hin
      · -- the drawn nonce is none of the earlier ones
        obtain ⟨n, hn, hold⟩ := hwas
        have hdraw := p.lib.uuid4Hex_injective (hold.symm.trans heq)
        omega
      · exact hgone hin

theorem Ledger.respond {v : Presented} {w' : VpWorld} {vpToken : Json} (h : p.Ledger v)
    (hout : Effects.Raising.outcome (p.validatePresentationResponse vpToken) v.world =
      (.ok .received, w')) :
    p.Ledger
      { world := w'
        accepted := ⟨vpToken, v.world.nonces.filter fun nonce => nonce ∉ w'.nonces⟩ ::
          v.accepted } := by
  obtain ⟨nonces, _, rfl⟩ := validate_received hout
  refine ⟨fun nonce hmem => ?_, fun a ha nonce hmem => ?_, ?_⟩
  · exact h.issued nonce (List.mem_filter.mp hmem).1
  · rcases List.mem_cons.mp ha with rfl | ha
    · obtain ⟨hwas, hgone⟩ := List.mem_filter.mp hmem
      exact ⟨h.issued nonce hwas, of_decide_eq_true hgone⟩
    · obtain ⟨hissued, hgone⟩ := h.consumed a ha nonce hmem
      exact ⟨hissued, fun hin => hgone (List.mem_filter.mp hin).1⟩
  · refine List.pairwise_cons.mpr ⟨fun earlier hearlier nonce hmem hother => ?_, h.once⟩
    exact (h.consumed earlier hearlier nonce hother).2 (List.mem_filter.mp hmem).1

theorem ledger_of_run {v : Presented} (h : p.Run v) : p.Ledger v := by
  induction h with
  | start keys =>
      refine ⟨fun _ hmem => (List.not_mem_nil hmem).elim, fun _ hmem => ?_, List.Pairwise.nil⟩
      exact (List.not_mem_nil hmem).elim
  | @step v _ event ih =>
      cases event with
      | environment keys => exact ⟨ih.issued, ih.consumed, ih.once⟩
      | request presentationDefinition dcqlQuery responseMode =>
          have hwp := wp_mono
            (p.wp_createPresentationRequest presentationDefinition dcqlQuery responseMode v.world)
            (fun _ _ hd => hd.1) fun _ _ hd => hd
          exact ih.draws (state_of_wp hwp)
      | respond vpToken =>
          rw [exec]
          rcases hout :
            Effects.Raising.outcome (p.validatePresentationResponse vpToken) v.world with
            ⟨_ | _ | code, w'⟩
          · rw [validate_refused hout (by simp)]
            exact ih
          · exact ih.respond hout
          · rw [validate_refused hout (by simp)]
            exact ih

/-! ## Accepted and refused responses -/

/-- The element is a token that was verified: its signature, its audience, an
`exp` still to come, and a nonce that was issued, that no earlier response
consumed and that this one takes out of the outstanding ones. -/
def Verified (p : Verifier κ) (v : Presented) (w' : VpWorld) (element : Json) : Prop :=
  ∃ token claims nonce, element = .str token ∧ token ≠ "" ∧
    p.Passed v.world.keys.clock token claims ∧
    (∃ value names, claims.get "aud" = some value ∧ PyJwt.audienceClaims value = some names ∧
      p.issuer ∈ names) ∧
    (∃ value moment, claims.get "exp" = some value ∧ PyJwt.timeClaim value = .ok moment ∧
      v.world.keys.clock < seconds moment) ∧
    claims.get "nonce" = some (.str nonce) ∧ p.Issued v nonce ∧
    nonce ∈ v.world.nonces ∧ (∀ earlier ∈ v.accepted, nonce ∉ earlier.consumed) ∧
    nonce ∉ w'.nonces

/-- Every member of the `vp_token` is a non-empty string, and none is a token
without an `exp`. -/
def Plain (p : Verifier κ) (vpToken : Json) : Prop :=
  ∀ element ∈ elements vpToken, ∃ token, element = .str token ∧ token ≠ "" ∧
    ∀ claims, p.lib.imports.jwt.payload token = some claims → claims.get "exp" ≠ none

/-- The elements of an accepted response are verified when it is plain. -/
theorem verified_iff_plain {v : Presented} {w' : VpWorld} {vpToken : Json} (h : p.Ledger v)
    (hout : Effects.Raising.outcome (p.validatePresentationResponse vpToken) v.world =
      (.ok .received, w')) :
    (∀ element ∈ elements vpToken, p.Verified v w' element) ↔ p.Plain vpToken := by
  constructor
  · intro hverified element hmem
    obtain ⟨token, claims, _, heq, hne, hpassed, _, ⟨value, _, hexp, _⟩, _⟩ :=
      hverified element hmem
    refine ⟨token, heq, hne, fun found hfound hnone => ?_⟩
    obtain rfl : claims = found := Option.some.inj (hpassed.payload.symm.trans hfound)
    rw [hnone] at hexp
    cases hexp
  · intro hplain element hmem
    obtain ⟨token, heq, hne, hexp⟩ := hplain element hmem
    obtain ⟨nonces, hcollected, rfl⟩ := validate_received hout
    have htoken : token ∈ allTokens vpToken := by
      rw [allTokens_eq]
      exact List.mem_filterMap.mpr ⟨element, hmem, tokenOf_eq_some.mpr ⟨heq, hne⟩⟩
    obtain ⟨claims, nonce, hpassed, hnonce, houtstanding, hin⟩ :=
      (collectNonces_some hcollected).1 token htoken
    obtain ⟨value, hvalue⟩ := Option.ne_none_iff_exists'.mp (hexp claims hpassed.payload)
    obtain ⟨moment, hmoment, hlater⟩ := hpassed.expiry hvalue
    refine ⟨token, claims, nonce, heq, hne, hpassed, hpassed.audience,
      ⟨value, moment, hvalue, hmoment, hlater⟩, hnonce, h.issued nonce houtstanding,
      houtstanding, fun earlier hearlier hconsumed => ?_, fun hleft => ?_⟩
    · exact (h.consumed earlier hearlier nonce hconsumed).2 houtstanding
    · exact of_decide_eq_true (List.mem_filter.mp hleft).2 hin

/-- In every run: an accepted response is verified in all its elements exactly
when it is plain; no nonce is consumed by two accepted responses; and any other
response leaves the outstanding nonces as they were. -/
theorem presentations_verified_iff {v : Presented} (hrun : p.Run v) :
    (∀ vpToken w',
      Effects.Raising.outcome (p.validatePresentationResponse vpToken) v.world =
        (.ok .received, w') →
      ((∀ element ∈ elements vpToken, p.Verified v w' element) ↔ p.Plain vpToken)) ∧
    (v.accepted.Pairwise fun a b => ∀ nonce ∈ a.consumed, nonce ∉ b.consumed) ∧
    ∀ vpToken answer w',
      Effects.Raising.outcome (p.validatePresentationResponse vpToken) v.world = (answer, w') →
      answer ≠ .ok .received → w'.nonces = v.world.nonces := by
  have hledger := ledger_of_run hrun
  refine ⟨fun vpToken w' hout => verified_iff_plain hledger hout, hledger.once, ?_⟩
  intro vpToken answer w' hout hrefused
  rw [validate_refused hout hrefused]

end Verifier

namespace Sample

theorem no_import_raises (_jwk : Members) (h : false = true) : some () = none := by
  cases h

/-- Each token is signed by the key of its header; the nonce of the first
request is in both, an `exp` in one. -/
def jwt : PyJwt Unit where
  header _ := some [("alg", .str "RS256"), ("jwk", .obj [])]
  payload token :=
    some ([("aud", .str "https://op"), ("nonce", .str "n")] ++
      if token = "endless" then [] else [("exp", .num "300")])
  signed _ _ algorithms := decide ("RS256" ∈ algorithms)
  publicKey _ := some ()
  secretKey _ := ()
  importRaises_none := no_import_raises
  signed_algorithm := by
    intro token key algorithms h
    exact ⟨_, "RS256", rfl, rfl, of_decide_eq_true h⟩

def lib : VpLibrary Unit where
  imports := { jwt := jwt, fromJwk := fun _ _ => .ok () }
  loads _ := true
  encode _ _ _ := some "request"
  uuid4Hex n := String.ofList (List.replicate (n + 1) 'n')
  uuid4Hex_injective := by
    intro m n h
    have hlen := congrArg String.length h
    simpa using hlen

def verifier : Verifier Unit where
  lib := lib
  configuredIssuer := "https://op/"
  keyManager := { ports := { kid := fun _ => "k", pems := fun _ _ _ => some ("", "") } }
  algorithm := .rs256

/-- One request has been made. -/
def asked : Presented :=
  verifier.exec { world := { keys := { clock := 0 } } } (.request none none "direct_post")

theorem run : verifier.Run asked := .step (.start _) _

/-- The world once a response has consumed the nonce. -/
def answered : VpWorld := { asked.world with nonces := [] }

theorem received_plain :
    Effects.Raising.outcome (verifier.validatePresentationResponse (.str "plain")) asked.world =
      (.ok .received, answered) := by rfl

theorem received_number :
    Effects.Raising.outcome
        (verifier.validatePresentationResponse (.arr [.str "plain", .num "5"])) asked.world =
      (.ok .received, answered) := by rfl

theorem received_endless :
    Effects.Raising.outcome (verifier.validatePresentationResponse (.str "endless")) asked.world =
      (.ok .received, answered) := by rfl

theorem plain : verifier.Plain (.str "plain") := by
  intro element hmem
  obtain rfl : element = .str "plain" := List.mem_singleton.mp hmem
  refine ⟨"plain", rfl, by decide, fun claims hpayload hnone => ?_⟩
  cases Option.some.inj hpayload
  cases hnone

end Sample

/-- The answer to the first request is verified. -/
theorem Verifier.presentations_verified_iff_first :
    Sample.verifier.Verified Sample.asked Sample.answered (.str "plain") := by
  have hverified := ((Verifier.presentations_verified_iff Sample.run).1 (.str "plain")
    Sample.answered Sample.received_plain).mpr Sample.plain
  exact hverified (.str "plain") (List.mem_singleton.mpr rfl)

/-- A list with a number in it is accepted, and so is a token that never
expires. -/
theorem Verifier.unverified_accepted :
    (¬ ∀ v, Sample.verifier.Run v → ∀ vpToken w',
      Effects.Raising.outcome (Sample.verifier.validatePresentationResponse vpToken) v.world =
        (.ok .received, w') →
      ∀ element ∈ elements vpToken, Sample.verifier.Verified v w' element) ∧
    Effects.Raising.outcome
        (Sample.verifier.validatePresentationResponse (.str "endless")) Sample.asked.world =
      (.ok .received, Sample.answered) ∧
    ¬ Sample.verifier.Verified Sample.asked Sample.answered (.str "endless") := by
  refine ⟨fun h => ?_, Sample.received_endless, fun h => ?_⟩
  · have hlist := h Sample.asked Sample.run _ _ Sample.received_number (.num "5")
      (List.mem_cons_of_mem _ List.mem_cons_self)
    obtain ⟨_, _, _, hstr, _⟩ := hlist
    cases hstr
  · obtain ⟨token, claims, _, hstr, _, hpassed, _, ⟨value, _, hexp, _⟩, _⟩ := h
    cases hstr
    cases Option.some.inj hpassed.payload
    cases hexp

end PurIdentityServer.OID4VP

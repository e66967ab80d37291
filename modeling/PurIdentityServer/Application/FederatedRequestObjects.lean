import PurIdentityServer.Lib.Expiring
import PurIdentityServer.Lib.History
import PurIdentityServer.Application.RequestObjectBinding

/-!
# FederatedRequestObjects — the replay store over whole runs

Three kinds of tokens are used once: the request objects of federated
clients, the signed requests of the backchannel endpoint and the DPoP
proofs. They share one store of digests, each kept until its token has
expired. A sequence of presentations at nondecreasing times is a
history; the store it leaves is that of a run of an expiring table
(`replays_expiring`), from which the uses of a `jti` are read off.
-/

namespace PurIdentityServer

open Effects

namespace RequestObjectResolver

open SignedObjects (Verification replayed expiration)

/-! ## Presentations -/

/-- What is presented to the server and consults the replay store. A proof
is one that has passed every other check of the DPoP guard. -/
inductive Presentation where
  | requestObject (params : Params) (sessionScope : String)
  | backchannelRequest (token : String) (client : Client) (issuer : String)
      (allowed : List String)
  | dpopProof (jti : String)

inductive Answer where
  | resolved (result : Resolved)
  | verified (result : SignedRequestObjectResult)
  | proved (fresh : Bool)
  | raised (e : Raised)

/-- `_REQUIRED_CLAIMS` -/
def backchannelRequiredClaims : List String := ["iss", "aud", "exp", "iat", "nbf", "jti"]

/-- `DPOP_IAT_SKEW_SECONDS` -/
def dpopIatSkewSeconds : Int := 300

/-- An answer and the store it leaves, which nothing has changed when it raises. -/
def answering {α : Type} (answer : α → Answer) (verification : Verification α)
    (replays : ReplayStore) : Answer × ReplayStore :=
  match verification replays with
  | .ok (a, replays') => (answer a, replays')
  | .error e => (.raised e, replays)

section Presentations

variable {κ : Type} (resolver : RequestObjectResolver κ)

/-- The end of the guard's `validate`: the `jti` of a proof is remembered. -/
def rememberProof (at_ : Readings) (jti : String) : Verification Bool := fun replays =>
  let digest := resolver.verifier.jtiHash jti
  if (replays.find digest).isSome then .ok (false, replays)
  else
    let expiresAt := at_.decode + seconds (2 * dpopIatSkewSeconds)
    .ok (true, purgeReplays (replays.save ⟨digest, expiresAt⟩) at_.purge)

/-- Answer a presentation. -/
def present (at_ : Readings) : Presentation → ReplayStore → Answer × ReplayStore
  | .requestObject params sessionScope =>
      answering .resolved (resolver.resolve at_ params sessionScope)
  | .backchannelRequest token client issuer allowed =>
      answering .verified (resolver.verifier.verifySigned at_ token client issuer allowed
        backchannelRequiredClaims true "ciba:")
  | .dpopProof jti => answering .proved (resolver.rememberProof at_ jti)

/-- The replay store as a service: a presentation takes from its first reading of the
clock to its last. -/
def replayService : Service ReplayStore (Presentation × Readings) Answer Instant where
  handle request := resolver.present request.2 request.1
  begins request := request.2.decode
  ends request := request.2.purge
  begins_le_ends request := le_trans request.2.decode_le request.2.bounds_le

/-- A presentation, when it was made and how it was answered. -/
abbrev ReplayEntry := Entry (Presentation × Readings) Answer

/-! ## The objects of federated clients -/

/-- The parameters present a document that is read as a signed object of a federated client. -/
structure Federated (params : Params) (document : String) (client : Client) : Prop where
  presented : resolver.presented params = .ok document
  ne : document ≠ ""
  picked : resolver.pickClient params document = some client
  federated : client.federated = true
  plain : client.fapiEnabled = false
  signed : resolver.readsUnsigned document = false

/-- The entry accepted a signed object of the federated client. -/
def AcceptedFor (entry : ReplayEntry) (client : Client) (sessionScope document : String)
    (claims : Members) : Prop :=
  ∃ params merged, entry.request.1 = .requestObject params sessionScope ∧
    resolver.Federated params document client ∧
    resolver.unverifiedPayload document = some claims ∧ entry.answer = .resolved (.ok merged)

/-- The entry refused a signed object of the federated client as a replay. -/
def RefusedAsReplay (entry : ReplayEntry) (client : Client) (sessionScope document : String) : Prop :=
  ∃ params error, entry.request.1 = .requestObject params sessionScope ∧
    resolver.Federated params document client ∧ entry.answer = .resolved (.error error) ∧
    error.errorDescription = replayed

/-- A row that stands for a namespaced `jti` of these claims. -/
def RowOf (namespaceText : String) (claims : Members) (row : DPoPReplay) : Prop :=
  ∃ jti, claims.get "jti" = some (.str jti) ∧
    row.jtiHash = resolver.verifier.digest namespaceText jti ∧
    expiration claims = .ok row.expiresAt

/-- The entry presented a verified token whose `jti` has this digest. -/
def Presented (entry : ReplayEntry) (digest : String) : Prop :=
  match entry.request.1 with
  | .requestObject params sessionScope => ∃ document client claims jti,
      resolver.Federated params document client ∧
      resolver.verifier.VerifiedFor client standardSignedAlgorithms federatedRequiredClaims
        document claims ∧
      claims.get "jti" = some (.str jti) ∧
      digest = resolver.verifier.digest (sessionNamespace sessionScope) jti
  | .backchannelRequest token client _ allowed => ∃ claims jti,
      resolver.verifier.VerifiedFor client allowed backchannelRequiredClaims token claims ∧
      claims.get "jti" = some (.str jti) ∧ digest = resolver.verifier.digest "ciba:" jti
  | .dpopProof jti => digest = resolver.verifier.jtiHash jti

section Runs

variable {resolver}

/-! ## What one verification does to the store -/

/-- The row is saved under an unseen digest, and the expired rows are purged. -/
def Saves (replays : ReplayStore) (now : Instant) (row : DPoPReplay) (replays' : ReplayStore) :
    Prop :=
  replays.find row.jtiHash = none ∧ replays' = purgeReplays (replays.save row) now

theorem rememberJti_refused {now : Instant} {claims : Members} {namespaceText reason : String}
    {replays replays' : ReplayStore}
    (h : resolver.verifier.rememberJti now claims namespaceText replays
      = .ok (.refused reason, replays')) :
    replays' = replays ∧ (reason = replayed → ∃ jti, claims.get "jti" = some (.str jti) ∧
      (replays.find (resolver.verifier.digest namespaceText jti)).isSome = true) := by
  unfold SignedObjects.rememberJti at h
  split at h
  · rename_i jti hjti
    split at h
    · cases h
      refine ⟨rfl, ?_⟩
      intro hreason
      exact absurd hreason (by decide)
    split at h
    · rename_i hseen
      cases h
      exact ⟨rfl, fun _ => ⟨jti, hjti, hseen⟩⟩
    · obtain ⟨_, _, h⟩ := bind_eq_ok.mp h
      cases h
  · cases h
    refine ⟨rfl, ?_⟩
    intro hreason
    exact absurd hreason (by decide)

/-- A text does not begin with what it does not begin with. -/
theorem append_ne {front rest text : String} (h : ¬front.toList <+: text.toList) :
    front ++ rest ≠ text := by
  intro heq
  apply h
  rw [← heq, String.toList_append]
  exact List.prefix_append _ _

theorem refusal_ne_replayed (client : Client) (e : JwtError) :
    resolver.verifier.refusal client e ≠ replayed := by
  unfold SignedObjects.refusal
  split
  · rw [String.append_assoc]
    exact append_ne (by decide +kernel)
  · decide +kernel
  · decide +kernel
  · exact append_ne (by decide +kernel)
  · decide +kernel
  · decide +kernel

theorem temporalBounds_ne_replayed {now : Instant} {claims : Members} {required : List String}
    {reason : String} (h : SignedObjects.temporalBounds now claims required = some reason) :
    reason ≠ replayed := by
  unfold SignedObjects.temporalBounds at h
  split at h
  · cases h
  · split at h
    · split at h
      · cases h
        decide +kernel
      split at h
      · cases h
        decide +kernel
      split at h
      · cases h
        decide +kernel
      · cases h
    · cases h
      decide +kernel

/-- A refused token leaves the store unchanged, and is refused as a replay for a digest
that is there. -/
theorem verifySigned_refused {at_ : Readings} {token issuer namespaceText reason : String}
    {client : Client} {allowed required : List String} {enforceJti : Bool}
    {replays replays' : ReplayStore}
    (h : resolver.verifier.verifySigned at_ token client issuer allowed required enforceJti
      namespaceText replays = .ok (.refused reason, replays')) :
    replays' = replays ∧ (reason = replayed → ∃ claims jti,
      resolver.verifier.jwt.payload token = some claims ∧ claims.get "jti" = some (.str jti) ∧
      (replays.find (resolver.verifier.digest namespaceText jti)).isSome = true) := by
  unfold SignedObjects.verifySigned at h
  split at h
  · cases h
    exact ⟨rfl, fun hreason => absurd hreason (by decide +kernel)⟩
  · split at h
    · cases h
      exact ⟨rfl, fun hreason => absurd hreason (append_ne (by decide +kernel))⟩
    · split at h
      · cases h
        exact ⟨rfl, fun hreason => absurd hreason (by decide +kernel)⟩
      · obtain ⟨result, hclaims, h⟩ := bind_eq_ok.mp h
        cases result with
        | error text =>
            cases h
            refine ⟨rfl, ?_⟩
            intro hreason
            unfold SignedObjects.claims at hclaims
            split at hclaims
            · cases hclaims
            · split at hclaims
              · cases hclaims
                exact absurd hreason (refusal_ne_replayed client _)
              · cases hclaims
        | ok claims =>
            have hdecode := SignedObjects.claims_ok hclaims
            obtain ⟨hpayload, _, _⟩ := (PyJwt.decode_eq_ok _).mp hdecode
            simp only at h
            split at h
            · rename_i text hbounds
              cases h
              exact ⟨rfl, fun hreason => absurd hreason (temporalBounds_ne_replayed hbounds)⟩
            · split at h
              · obtain ⟨hsame, hreplayed⟩ := rememberJti_refused h
                refine ⟨hsame, ?_⟩
                intro hreason
                obtain ⟨jti, hjti, hseen⟩ := hreplayed hreason
                exact ⟨claims, jti, hpayload, hjti, hseen⟩
              · cases h

/-- An accepted token is verified, and the row of its `jti` is saved. -/
theorem verifySigned_saves {at_ : Readings} {token issuer namespaceText : String}
    {client : Client} {allowed required : List String} {claims : Members}
    {replays replays' : ReplayStore}
    (h : resolver.verifier.verifySigned at_ token client issuer allowed required true
      namespaceText replays = .ok (.accepted claims, replays')) :
    resolver.verifier.VerifiedFor client allowed required token claims ∧
      ∃ row, resolver.RowOf namespaceText claims row ∧ Saves replays at_.purge row replays' := by
  obtain ⟨hverified, _, hremembered⟩ := SignedObjects.verifySigned_accepted h
  rw [if_pos rfl] at hremembered
  obtain ⟨_, jti, expiresAt, hjti, hunseen, hexpires, hreplays⟩ :=
    SignedObjects.rememberJti_accepted hremembered
  exact ⟨hverified, ⟨_, expiresAt⟩, ⟨jti, hjti, rfl, hexpires⟩, hunseen, hreplays⟩

/-! ## What one resolution does to the store -/

/-- A signed object of a federated client: an unsupported algorithm aside, its
verification decides the answer. -/
inductive Examined (resolver : RequestObjectResolver κ) (at_ : Readings)
    (sessionScope document : String) (client : Client) (replays : ReplayStore) :
    Resolved → ReplayStore → Prop
  | unread (error : RequestObjectError) (other : error.errorDescription ≠ replayed) :
      Examined resolver at_ sessionScope document client replays (.error error) replays
  | refused (error : RequestObjectError) (replays' : ReplayStore)
      (verified : resolver.verifier.verifySigned at_ document client resolver.issuer
          standardSignedAlgorithms federatedRequiredClaims true (sessionNamespace sessionScope)
          replays = .ok (.refused error.errorDescription, replays')) :
      Examined resolver at_ sessionScope document client replays (.error error) replays'
  | forbidden (claims : Members) (error : RequestObjectError) (replays' : ReplayStore)
      (verified : resolver.verifier.verifySigned at_ document client resolver.issuer
          standardSignedAlgorithms federatedRequiredClaims true (sessionNamespace sessionScope)
          replays = .ok (.accepted claims, replays'))
      (other : error.errorDescription ≠ replayed) :
      Examined resolver at_ sessionScope document client replays (.error error) replays'
  | accepted (claims : Members) (merged : Params) (replays' : ReplayStore)
      (verified : resolver.verifier.verifySigned at_ document client resolver.issuer
          standardSignedAlgorithms federatedRequiredClaims true (sessionNamespace sessionScope)
          replays = .ok (.accepted claims, replays'))
      (no_sub : claims.get "sub" = none) :
      Examined resolver at_ sessionScope document client replays (.ok merged) replays'

theorem withState_description (error : RequestObjectError) (document : String) :
    (resolver.withState error document).errorDescription = error.errorDescription := by
  unfold withState
  dsimp only
  split <;> rfl

/-- The answer for the claims of an object, stated and merged, changes no description. -/
theorem Examined.merged {at_ : Readings} {sessionScope document : String} {client : Client}
    {replays replays' : ReplayStore} {result : Resolved} {params : Params}
    (h : Examined resolver at_ sessionScope document client replays result replays') :
    Examined resolver at_ sessionScope document client replays
      ((resolver.stated document result).map (merge params)) replays' := by
  cases h with
  | unread error other =>
      refine .unread (resolver.withState error document) ?_
      rw [withState_description]
      exact other
  | refused error _ verified =>
      refine .refused (resolver.withState error document) _ ?_
      rw [withState_description]
      exact verified
  | forbidden claims error _ verified other =>
      refine .forbidden claims (resolver.withState error document) _ verified ?_
      rw [withState_description]
      exact other
  | accepted claims found _ verified no_sub => exact .accepted claims _ _ verified no_sub

theorem resolveSigned_examined {at_ : Readings} {document sessionScope : String}
    {client : Client} {result : Resolved} {replays replays' : ReplayStore}
    (hfederated : client.federated = true)
    (h : resolver.resolveSigned at_ document client sessionScope replays
      = .ok (result, replays')) :
    Examined resolver at_ sessionScope document client replays result replays' := by
  unfold resolveSigned at h
  split at h
  · obtain ⟨rfl, rfl⟩ := run_pure_eq_ok.mp h
    exact .unread _ (by decide +kernel)
  · obtain ⟨answer, replays₁, hverify, h⟩ := run_bind_eq_ok.mp h
    rw [hfederated] at hverify
    cases answer with
    | refused reason =>
        obtain ⟨rfl, rfl⟩ := run_pure_eq_ok.mp h
        exact .refused _ _ hverify
    | accepted claims =>
        simp only [hfederated, Bool.true_and] at h
        split at h
        · obtain ⟨rfl, rfl⟩ := run_pure_eq_ok.mp h
          exact .forbidden claims _ _ hverify (by decide +kernel)
        · rename_i hsub
          obtain ⟨rfl, rfl⟩ := run_pure_eq_ok.mp h
          exact .accepted claims _ _ hverify (by simpa using hsub)

theorem resolve_document {at_ : Readings} {params : Params} {document sessionScope : String}
    (hpresented : resolver.presented params = .ok document) (hne : document ≠ "") :
    resolver.resolve at_ params sessionScope
      = resolver.resolveDocument at_ params document sessionScope := by
  unfold resolve
  rw [hpresented]
  simp only [hne, if_false]

/-- A signed object of a federated client is examined. -/
theorem resolve_examined {at_ : Readings} {params : Params} {document sessionScope : String}
    {client : Client} {result : Resolved} {replays replays' : ReplayStore}
    (hobject : resolver.Federated params document client)
    (h : resolver.resolve at_ params sessionScope replays = .ok (result, replays')) :
    Examined resolver at_ sessionScope document client replays result replays' := by
  rw [resolve_document hobject.presented hobject.ne] at h
  unfold resolveDocument at h
  simp only [hobject.picked, hobject.plain, Bool.false_eq_true, if_false] at h
  obtain ⟨answer, replays₁, hstandard, h⟩ := run_bind_eq_ok.mp h
  obtain ⟨rfl, rfl⟩ := run_pure_eq_ok.mp h
  apply Examined.merged
  unfold resolveStandard at hstandard
  simp only [hobject.signed, Bool.false_eq_true, if_false] at hstandard
  split at hstandard
  · obtain ⟨rfl, rfl⟩ := run_pure_eq_ok.mp hstandard
    exact .unread _ (append_ne (by decide +kernel))
  · exact resolveSigned_examined hobject.federated hstandard

theorem verifySigned_unenforced {at_ : Readings} {token issuer namespaceText : String}
    {client : Client} {allowed required : List String} {result : SignedRequestObjectResult}
    {replays replays' : ReplayStore}
    (h : resolver.verifier.verifySigned at_ token client issuer allowed required false
      namespaceText replays = .ok (result, replays')) : replays' = replays := by
  cases result with
  | refused reason => exact (verifySigned_refused h).1
  | accepted claims =>
      obtain ⟨_, _, hsame⟩ := SignedObjects.verifySigned_accepted h
      simpa using hsame

theorem resolveSigned_unfederated {at_ : Readings} {document sessionScope : String}
    {client : Client} {result : Resolved} {replays replays' : ReplayStore}
    (hplain : client.federated = false)
    (h : resolver.resolveSigned at_ document client sessionScope replays
      = .ok (result, replays')) : replays' = replays := by
  unfold resolveSigned at h
  split at h
  · exact (run_pure_eq_ok.mp h).2.symm
  · obtain ⟨answer, replays₁, hverify, h⟩ := run_bind_eq_ok.mp h
    rw [hplain] at hverify
    have hsame := verifySigned_unenforced hverify
    cases answer with
    | refused reason => exact (run_pure_eq_ok.mp h).2 ▸ hsame
    | accepted claims =>
        simp only at h
        split at h
        · exact (run_pure_eq_ok.mp h).2 ▸ hsame
        · exact (run_pure_eq_ok.mp h).2 ▸ hsame

theorem resolveFapi_store {at_ : Readings} {params : Params} {document : String}
    {client : Client} {result : Resolved} {replays replays' : ReplayStore}
    (h : resolver.resolveFapi at_ params document client replays = .ok (result, replays')) :
    replays' = replays := by
  unfold resolveFapi at h
  split at h
  · exact (run_pure_eq_ok.mp h).2.symm
  · obtain ⟨answer, replays₁, hverify, h⟩ := run_bind_eq_ok.mp h
    have hsame := verifySigned_unenforced hverify
    cases answer with
    | refused reason => exact (run_pure_eq_ok.mp h).2 ▸ hsame
    | accepted claims =>
        cases hfind : embedded.find? fun name => (Dict.get claims name).isSome with
        | some forbidden =>
            simp only [hfind] at h
            exact (run_pure_eq_ok.mp h).2 ▸ hsame
        | none =>
            simp only [hfind] at h
            exact (run_pure_eq_ok.mp h).2 ▸ hsame

theorem resolveStandard_unfederated {at_ : Readings} {document sessionScope : String}
    {client : Option Client} {result : Resolved} {replays replays' : ReplayStore}
    (hplain : resolver.readsUnsigned document = false → ∀ found, client = some found →
      found.federated = false)
    (h : resolver.resolveStandard at_ document client sessionScope replays
      = .ok (result, replays')) : replays' = replays := by
  unfold resolveStandard at h
  split at h
  · exact (run_pure_eq_ok.mp h).2.symm
  · rename_i hsigned
    split at h
    · exact (run_pure_eq_ok.mp h).2.symm
    · cases client with
      | none => exact (run_pure_eq_ok.mp h).2.symm
      | some found =>
          exact resolveSigned_unfederated
            (hplain (Bool.eq_false_iff.mpr hsigned) found rfl) h

/-- Without a signed object of a federated client the store is unchanged. -/
theorem resolve_unfederated {at_ : Readings} {params : Params} {sessionScope : String}
    {result : Resolved} {replays replays' : ReplayStore}
    (hnone : ∀ document client, ¬resolver.Federated params document client)
    (h : resolver.resolve at_ params sessionScope replays = .ok (result, replays')) :
    replays' = replays := by
  cases hpresented : resolver.presented params with
  | error e =>
      unfold resolve at h
      rw [hpresented] at h
      exact (run_pure_eq_ok.mp h).2.symm
  | ok document =>
      by_cases hempty : document = ""
      · unfold resolve at h
        rw [hpresented] at h
        simp only [hempty, if_true] at h
        exact (run_pure_eq_ok.mp h).2.symm
      · rw [resolve_document hpresented hempty] at h
        unfold resolveDocument at h
        cases hpick : resolver.pickClient params document with
        | none =>
            simp only [hpick] at h
            obtain ⟨answer, replays₁, hstandard, h⟩ := run_bind_eq_ok.mp h
            rw [← (run_pure_eq_ok.mp h).2]
            apply resolveStandard_unfederated _ hstandard
            intro _ found hfound
            cases hfound
        | some client =>
            simp only [hpick] at h
            split at h
            · obtain ⟨answer, replays₁, hfapi, h⟩ := run_bind_eq_ok.mp h
              rw [← (run_pure_eq_ok.mp h).2]
              exact resolveFapi_store hfapi
            · rename_i hplain
              obtain ⟨answer, replays₁, hstandard, h⟩ := run_bind_eq_ok.mp h
              rw [← (run_pure_eq_ok.mp h).2]
              apply resolveStandard_unfederated _ hstandard
              intro hsigned found hfound
              cases hfound
              cases hfederated : client.federated with
              | false => rfl
              | true => exact absurd ⟨hpresented, hempty, hpick, hfederated,
                  Bool.eq_false_iff.mpr hplain, hsigned⟩ (hnone document client)

/-! ## What one presentation does to the store -/

/-- The store is unchanged, or a row is saved in it. -/
inductive Moved (replays : ReplayStore) (now : Instant) : Option DPoPReplay → ReplayStore → Prop
  | unchanged : Moved replays now none replays
  | saved {row : DPoPReplay} {replays' : ReplayStore} (saves : Saves replays now row replays') :
      Moved replays now (some row) replays'

/-- What an entry presented and accepted is accounted for by the row it saved. -/
structure Accounts (resolver : RequestObjectResolver κ) (entry : ReplayEntry)
    (row : Option DPoPReplay) : Prop where
  presented : ∀ saved, row = some saved → resolver.Presented entry saved.jtiHash
  accepted : ∀ client sessionScope document claims,
    resolver.AcceptedFor entry client sessionScope document claims →
      ∃ saved, row = some saved ∧ resolver.RowOf (sessionNamespace sessionScope) claims saved

theorem not_acceptedFor_raised {presentation : Presentation} {at_ : Readings} {e : Raised}
    {client : Client} {sessionScope document : String} {claims : Members} :
    ¬resolver.AcceptedFor ⟨(presentation, at_), .raised e⟩ client sessionScope document claims := by
  rintro ⟨_, _, _, _, _, hanswer⟩
  cases hanswer

/-- Nothing saved accounts for an entry that accepted no signed object of a federated client. -/
theorem accounts_none {entry : ReplayEntry}
    (h : ∀ client sessionScope document claims,
      ¬resolver.AcceptedFor entry client sessionScope document claims) :
    Accounts resolver entry none where
  presented := by
    intro saved hsaved
    cases hsaved
  accepted := by
    intro client sessionScope document claims haccepted
    exact absurd haccepted (h client sessionScope document claims)

theorem verified_unique {client : Client} {allowed required : List String} {document : String}
    {claims claims' : Members}
    (h : resolver.verifier.VerifiedFor client allowed required document claims)
    (hpayload : resolver.unverifiedPayload document = some claims') : claims = claims' := by
  rw [payload_unverified h.payload] at hpayload
  exact Option.some.inj hpayload

/-- The row of a verified object accounts for its presentation. -/
theorem accounts_some {at_ : Readings} {params : Params} {sessionScope document : String}
    {client : Client} {claims : Members} {row : DPoPReplay} {answer : Answer}
    (hobject : resolver.Federated params document client)
    (hverified : resolver.verifier.VerifiedFor client standardSignedAlgorithms
      federatedRequiredClaims document claims)
    (hrow : resolver.RowOf (sessionNamespace sessionScope) claims row) :
    Accounts resolver ⟨(.requestObject params sessionScope, at_), answer⟩ (some row) where
  presented := by
    intro saved hsaved
    cases hsaved
    obtain ⟨jti, hjti, hdigest, _⟩ := hrow
    exact ⟨document, client, claims, jti, hobject, hverified, hjti, hdigest⟩
  accepted := by
    rintro client' sessionScope' document' claims' ⟨params', _, hpresentation, hobject', hpayload, _⟩
    cases hpresentation
    have hdocument := hobject.presented.symm.trans hobject'.presented
    cases hdocument
    rw [← verified_unique hverified hpayload]
    exact ⟨row, rfl, hrow⟩

theorem requestObject_moved {at_ : Readings} {params : Params} {sessionScope : String}
    {result : Resolved} {replays replays' : ReplayStore}
    (h : resolver.resolve at_ params sessionScope replays = .ok (result, replays')) :
    ∃ row, Moved replays at_.purge row replays' ∧
      Accounts resolver ⟨(.requestObject params sessionScope, at_), .resolved result⟩ row := by
  by_cases hfederated : ∃ document client, resolver.Federated params document client
  · obtain ⟨document, client, hobject⟩ := hfederated
    have hrefused : ∀ error, result = .error error →
        Accounts resolver ⟨(.requestObject params sessionScope, at_), .resolved result⟩ none := by
      rintro error rfl
      apply accounts_none
      rintro _ _ _ _ ⟨_, _, _, _, _, hanswer⟩
      cases hanswer
    cases resolve_examined hobject h with
    | unread error _ => exact ⟨none, .unchanged, hrefused error rfl⟩
    | refused error _ hverify =>
        rw [(verifySigned_refused hverify).1]
        exact ⟨none, .unchanged, hrefused error rfl⟩
    | forbidden claims error _ hverify _ =>
        obtain ⟨hverified, row, hrow, hsaves⟩ := verifySigned_saves hverify
        exact ⟨some row, .saved hsaves, accounts_some hobject hverified hrow⟩
    | accepted claims merged _ hverify _ =>
        obtain ⟨hverified, row, hrow, hsaves⟩ := verifySigned_saves hverify
        exact ⟨some row, .saved hsaves, accounts_some hobject hverified hrow⟩
  · have hnone : ∀ document client, ¬resolver.Federated params document client :=
      fun document client hobject => hfederated ⟨document, client, hobject⟩
    rw [resolve_unfederated hnone h]
    refine ⟨none, .unchanged, accounts_none ?_⟩
    rintro client _ document _ ⟨params', _, hpresentation, hobject, _, _⟩
    cases hpresentation
    exact hnone document client hobject

theorem backchannelRequest_moved {at_ : Readings} {token issuer : String} {client : Client}
    {allowed : List String} {result : SignedRequestObjectResult} {replays replays' : ReplayStore}
    (h : resolver.verifier.verifySigned at_ token client issuer allowed backchannelRequiredClaims
      true "ciba:" replays = .ok (result, replays')) :
    ∃ row, Moved replays at_.purge row replays' ∧
      Accounts resolver ⟨(.backchannelRequest token client issuer allowed, at_), .verified result⟩
        row := by
  cases result with
  | refused reason =>
      rw [(verifySigned_refused h).1]
      refine ⟨none, .unchanged, accounts_none ?_⟩
      rintro _ _ _ _ ⟨_, _, hpresentation, _⟩
      cases hpresentation
  | accepted claims =>
      obtain ⟨hverified, row, ⟨jti, hjti, hdigest, _⟩, hsaves⟩ := verifySigned_saves h
      refine ⟨some row, .saved hsaves, ?_, ?_⟩
      · intro saved hsaved
        cases hsaved
        exact ⟨claims, jti, hverified, hjti, hdigest⟩
      · rintro _ _ _ _ ⟨_, _, hpresentation, _⟩
        cases hpresentation

theorem dpopProof_moved {at_ : Readings} {jti : String} {fresh : Bool}
    {replays replays' : ReplayStore}
    (h : resolver.rememberProof at_ jti replays = .ok (fresh, replays')) :
    ∃ row, Moved replays at_.purge row replays' ∧
      Accounts resolver ⟨(.dpopProof jti, at_), .proved fresh⟩ row := by
  unfold rememberProof at h
  dsimp only at h
  split at h
  · cases h
    refine ⟨none, .unchanged, accounts_none ?_⟩
    rintro _ _ _ _ ⟨_, _, hpresentation, _⟩
    cases hpresentation
  · rename_i hunseen
    cases h
    have hnone : replays.find (resolver.verifier.jtiHash jti) = none := by
      simpa using hunseen
    refine ⟨some _, .saved ⟨hnone, rfl⟩, ?_, ?_⟩
    · intro saved hsaved
      cases hsaved
      rfl
    · rintro _ _ _ _ ⟨_, _, hpresentation, _⟩
      cases hpresentation

theorem answering_ok {α : Type} {answer : α → Answer} {verification : Verification α} {a : α}
    {replays replays' : ReplayStore} (h : verification replays = .ok (a, replays')) :
    answering answer verification replays = (answer a, replays') := by
  unfold answering
  rw [h]

theorem answering_error {α : Type} {answer : α → Answer} {verification : Verification α}
    {e : Raised} {replays : ReplayStore} (h : verification replays = .error e) :
    answering answer verification replays = (.raised e, replays) := by
  unfold answering
  rw [h]

/-- The answers of a verification are accounted for when its own are. -/
theorem answering_moved {α : Type} {answer : α → Answer} {verification : Verification α}
    {at_ : Readings} {presentation : Presentation} {replays : ReplayStore}
    (h : ∀ a replays', verification replays = .ok (a, replays') →
      ∃ row, Moved replays at_.purge row replays' ∧
        Accounts resolver ⟨(presentation, at_), answer a⟩ row) :
    ∃ row, Moved replays at_.purge row (answering answer verification replays).2 ∧
      Accounts resolver ⟨(presentation, at_), (answering answer verification replays).1⟩ row := by
  cases hanswer : verification replays with
  | error e =>
      rw [answering_error hanswer]
      exact ⟨none, .unchanged, accounts_none fun _ _ _ _ => not_acceptedFor_raised⟩
  | ok answered =>
      rw [answering_ok hanswer]
      exact h answered.1 answered.2 hanswer

variable (resolver) in
/-- One presentation leaves the store unchanged or saves the row that accounts for it. -/
theorem present_moved (at_ : Readings) (presentation : Presentation) (replays : ReplayStore) :
    ∃ row, Moved replays at_.purge row (resolver.present at_ presentation replays).2 ∧
      Accounts resolver ⟨(presentation, at_), (resolver.present at_ presentation replays).1⟩ row := by
  cases presentation with
  | requestObject params sessionScope =>
      exact answering_moved fun _ _ hresolve => requestObject_moved hresolve
  | backchannelRequest token client issuer allowed =>
      exact answering_moved fun _ _ hverify => backchannelRequest_moved hverify
  | dpopProof jti => exact answering_moved fun _ _ hproof => dpopProof_moved hproof

theorem Moved.eq_of_none {replays replays' : ReplayStore} {now : Instant}
    (h : Moved replays now none replays') : replays' = replays := by
  cases h
  rfl

theorem Moved.saves {replays replays' : ReplayStore} {now : Instant} {row : DPoPReplay}
    (h : Moved replays now (some row) replays') : Saves replays now row replays' := by
  cases h with
  | saved saves => exact saves

/-! ## Whole runs -/

/-- The store of a history is that of a run of an expiring table, whose saved rows
account for every entry. -/
theorem replays_expiring {entries : List ReplayEntry} {now : Instant} {replays : ReplayStore}
    (h : History resolver.replayService Table.empty entries now replays) :
    ∃ saved, Expiring.Run DPoPReplay.expiresAt (fun row => row.expiresAt) saved now replays ∧
      (∀ row ∈ saved, ∃ entry ∈ entries, resolver.Presented entry row.jtiHash) ∧
      ∀ entry ∈ entries, ∀ client sessionScope document claims,
        resolver.AcceptedFor entry client sessionScope document claims →
          ∃ row ∈ saved, resolver.RowOf (sessionNamespace sessionScope) claims row := by
  induction h with
  | start now =>
      refine ⟨[], .start now, ?_, ?_⟩
      · intro row hmem
        cases hmem
      · intro entry hmem
        cases hmem
  | @step entries now replays history request le _ ih =>
      obtain ⟨presentation, at_⟩ := request
      obtain ⟨saved, hrun, hpresented, haccepted⟩ := ih
      have hlater : now ≤ at_.purge := le_trans le (le_trans at_.decode_le at_.bounds_le)
      obtain ⟨row, hmoved, haccounts⟩ := present_moved resolver at_ presentation replays
      cases row with
      | none =>
          have hsame := hmoved.eq_of_none
          refine ⟨saved, hsame.symm ▸ hrun.wait hlater, ?_, ?_⟩
          · intro row hmem
            obtain ⟨entry, hentry, hdigest⟩ := hpresented row hmem
            exact ⟨entry, List.mem_append_left _ hentry, hdigest⟩
          · intro entry hmem client sessionScope document claims hfor
            rcases List.mem_append.mp hmem with hold | hnew
            · exact haccepted entry hold client sessionScope document claims hfor
            · rw [List.mem_singleton.mp hnew] at hfor
              obtain ⟨_, hrow, _⟩ := haccounts.accepted _ _ _ _ hfor
              cases hrow
      | some row =>
          obtain ⟨hunseen, hsame⟩ := hmoved.saves
          have hrun' : Expiring.Run DPoPReplay.expiresAt (fun row => row.expiresAt)
              (saved ++ [row]) at_.purge (purgeReplays (replays.save row) at_.purge) := by
            refine .purge (.save row (hrun.wait hlater) (le_refl _) ?_)
            intro other hother
            rw [hunseen] at hother
            cases hother
          refine ⟨saved ++ [row], hsame.symm ▸ hrun', ?_, ?_⟩
          · intro found hmem
            rcases List.mem_append.mp hmem with hold | hnew
            · obtain ⟨entry, hentry, hdigest⟩ := hpresented found hold
              exact ⟨entry, List.mem_append_left _ hentry, hdigest⟩
            · rw [List.mem_singleton.mp hnew]
              exact ⟨_, List.mem_append_right _ (List.mem_singleton_self _),
                haccounts.presented row rfl⟩
          · intro entry hmem client sessionScope document claims hfor
            rcases List.mem_append.mp hmem with hold | hnew
            · obtain ⟨found, hfound, hrow⟩ :=
                haccepted entry hold client sessionScope document claims hfor
              exact ⟨found, List.mem_append_left _ hfound, hrow⟩
            · rw [List.mem_singleton.mp hnew] at hfor
              obtain ⟨found, hfound, hrow⟩ := haccounts.accepted _ _ _ _ hfor
              cases hfound
              exact ⟨row, List.mem_append_right _ (List.mem_singleton_self _), hrow⟩

theorem resolve_of_present {at_ : Readings} {params : Params} {sessionScope : String}
    {store : ReplayStore} {result : Resolved}
    (h : Answer.resolved result
      = (resolver.present at_ (.requestObject params sessionScope) store).1) :
    ∃ store', resolver.resolve at_ params sessionScope store = .ok (result, store') := by
  unfold present answering at h
  dsimp only at h
  split at h
  · rename_i answered store' hresolve
    cases h
    exact ⟨store', hresolve⟩
  · cases h

/-- What an accepting entry has verified, from the store of the entries before it. -/
theorem AcceptedFor.examined {entry : ReplayEntry} {client : Client} {sessionScope document : String}
    {claims : Members} {store : ReplayStore}
    (h : resolver.AcceptedFor entry client sessionScope document claims)
    (hanswer : entry.answer = (resolver.present entry.request.2 entry.request.1 store).1) :
    ∃ store', resolver.verifier.verifySigned entry.request.2 document client resolver.issuer
        standardSignedAlgorithms federatedRequiredClaims true (sessionNamespace sessionScope)
        store = .ok (.accepted claims, store') ∧ claims.get "sub" = none := by
  obtain ⟨params, merged, hpresentation, hobject, hpayload, hresolved⟩ := h
  rw [hpresentation, hresolved] at hanswer
  obtain ⟨store', hresolve⟩ := resolve_of_present hanswer
  cases resolve_examined hobject hresolve with
  | accepted found _ _ hverify hsub =>
      obtain ⟨hverified, _⟩ := verifySigned_saves hverify
      rw [verified_unique hverified hpayload] at hverify hsub
      exact ⟨store', hverify, hsub⟩

/-- A replay is refused for a digest the store holds. -/
theorem RefusedAsReplay.seen {entry : ReplayEntry} {client : Client} {sessionScope document : String}
    {store : ReplayStore}
    (h : resolver.RefusedAsReplay entry client sessionScope document)
    (hanswer : entry.answer = (resolver.present entry.request.2 entry.request.1 store).1) :
    ∃ claims jti, resolver.unverifiedPayload document = some claims ∧
      claims.get "jti" = some (.str jti) ∧
      (store.find (resolver.verifier.digest (sessionNamespace sessionScope) jti)).isSome = true := by
  obtain ⟨params, error, hpresentation, hobject, hrefused, hdescription⟩ := h
  rw [hpresentation, hrefused] at hanswer
  obtain ⟨store', hresolve⟩ := resolve_of_present hanswer
  cases resolve_examined hobject hresolve with
  | unread _ other => exact absurd hdescription other
  | forbidden _ _ _ _ other => exact absurd hdescription other
  | refused _ _ hverify =>
      obtain ⟨claims, jti, hpayload, hjti, hseen⟩ := (verifySigned_refused hverify).2 hdescription
      exact ⟨claims, jti, payload_unverified hpayload, hjti, hseen⟩

theorem seen_of_found {replays : ReplayStore} {digest : String}
    (h : (replays.find digest).isSome = true) : ∃ row, replays.find digest = some row ∧
      row.jtiHash = digest := by
  obtain ⟨row, hfind⟩ := Option.isSome_iff_exists.mp h
  exact ⟨row, hfind, Table.find_key hfind⟩

/-- A signed object accepted for a federated client was verified with a key of it
and carries the claims of the profile; its `jti` was not accepted before under the
session scope unless that object has expired; and an object is refused as a replay
only for a digest presented before. -/
theorem federated_objects_used_once {older newer : List ReplayEntry} {entry : ReplayEntry} {now : Instant}
    {replays : ReplayStore} (h : History resolver.replayService Table.empty (older ++ entry :: newer) now replays)
    {client : Client} {sessionScope document : String} :
    (∀ claims, resolver.AcceptedFor entry client sessionScope document claims →
      resolver.verifier.VerifiedFor client standardSignedAlgorithms federatedRequiredClaims
          document claims ∧
        claims.get "sub" = none ∧
        ∀ first ∈ older, ∀ document' claims',
          resolver.AcceptedFor first client sessionScope document' claims' →
          claims'.get "jti" = claims.get "jti" →
            ∃ expiresAt, expiration claims' = .ok expiresAt ∧ expiresAt ≤ entry.request.2.decode) ∧
    (resolver.RefusedAsReplay entry client sessionScope document →
      ∃ claims jti, resolver.unverifiedPayload document = some claims ∧
        claims.get "jti" = some (.str jti) ∧
        ∃ first ∈ older,
          resolver.Presented first
            (resolver.verifier.digest (sessionNamespace sessionScope) jti)) := by
  obtain ⟨earlier, store, hbefore, hle, _, hanswer⟩ := h.before
  obtain ⟨saved, hrun, hpresented, hsaved⟩ := replays_expiring hbefore
  constructor
  · intro claims haccepted
    obtain ⟨store', hverify, hsub⟩ := haccepted.examined hanswer
    obtain ⟨hverified, row, ⟨jti, hjti, hdigest, _⟩, hunseen, _⟩ := verifySigned_saves hverify
    refine ⟨hverified, hsub, ?_⟩
    intro first hfirst document' claims' haccepted' hsame
    obtain ⟨row', hrow', jti', hjti', hdigest', hexpires⟩ :=
      hsaved first hfirst client sessionScope document' claims' haccepted'
    rw [hsame, hjti] at hjti'
    cases hjti'
    have habsent : store.find row'.jtiHash = none := by
      rw [hdigest', ← hdigest]
      exact hunseen
    have hexpired := WithBot.coe_le_coe.mp (Expiring.passed_of_absent hrun hrow' habsent)
    exact ⟨row'.expiresAt, hexpires, le_trans hexpired hle⟩
  · intro hrefused
    obtain ⟨claims, jti, hpayload, hjti, hseen⟩ := hrefused.seen hanswer
    obtain ⟨row, hfind, hkey⟩ := seen_of_found hseen
    obtain ⟨first, hfirst, hdigest⟩ := hpresented row (Expiring.origin hrun _ row hfind)
    exact ⟨claims, jti, hpayload, hjti, first, hfirst, hkey ▸ hdigest⟩

end Runs

end Presentations

namespace Sample

/-! ## A `jti` twice

The object with the `jti` of the first comes after the first has expired, and
after another presentation has purged it. -/

/-- The presentation of a document by an anonymous browser. -/
def presents (signed : SignedDocument) : Presentation :=
  .requestObject [("request", signed.document)] ""

/-- The store after the document was presented at a second. -/
def after (moment : Int) (signed : SignedDocument) (replays : ReplayStore) : ReplayStore :=
  (resolver.present (readingsAt moment) (presents signed) replays).2

def entryOf (moment : Int) (signed : SignedDocument) (replays : ReplayStore) : ReplayEntry where
  request := (presents signed, readingsAt moment)
  answer := (resolver.present (readingsAt moment) (presents signed) replays).1

def accepts : Answer → Bool
  | .resolved (.ok _) => true
  | _ => false

theorem exists_of_accepts (answer : Answer) (h : accepts answer = true) :
    ∃ merged, answer = .resolved (.ok merged) := by
  unfold accepts at h
  split at h
  · exact ⟨_, rfl⟩
  · cases h

def firstEntry : ReplayEntry := entryOf 1 firstObject Table.empty

def otherEntry : ReplayEntry := entryOf 20 otherObject (after 1 firstObject Table.empty)

def secondEntry : ReplayEntry :=
  entryOf 30 secondObject (after 20 otherObject (after 1 firstObject Table.empty))

theorem history : History resolver.replayService Table.empty ([firstEntry, otherEntry] ++ secondEntry :: []) (seconds 30)
    (after 30 secondObject (after 20 otherObject (after 1 firstObject Table.empty))) := by
  have hstart : History resolver.replayService Table.empty [] (seconds 1) Table.empty :=
    .start (seconds 1)
  have hfirst := hstart.step (presents firstObject, readingsAt 1) (le_refl _) trivial
  have hother := hfirst.step (presents otherObject, readingsAt 20) (by decide) trivial
  exact hother.step (presents secondObject, readingsAt 30) (by decide) trivial

theorem leaf_signed {signed : SignedDocument}
    (hpresented : resolver.presented [("request", signed.document)] = .ok signed.document)
    (hne : signed.document ≠ "")
    (hpicked : resolver.pickClient [("request", signed.document)] signed.document = some leaf)
    (hreads : resolver.readsUnsigned signed.document = false) :
    resolver.Federated [("request", signed.document)] signed.document leaf where
  presented := hpresented
  ne := hne
  picked := hpicked
  federated := rfl
  plain := rfl
  signed := hreads

theorem acceptedFor_first :
    resolver.AcceptedFor firstEntry leaf "" firstObject.document firstObject.claims := by
  obtain ⟨merged, hmerged⟩ := exists_of_accepts firstEntry.answer (by decide +kernel)
  exact ⟨_, merged, rfl, leaf_signed rfl (by decide) rfl (by decide +kernel), rfl, hmerged⟩

theorem acceptedFor_second :
    resolver.AcceptedFor secondEntry leaf "" secondObject.document secondObject.claims := by
  obtain ⟨merged, hmerged⟩ := exists_of_accepts secondEntry.answer (by decide +kernel)
  exact ⟨_, merged, rfl, leaf_signed rfl (by decide) rfl (by decide +kernel), rfl, hmerged⟩

end Sample

open RequestObjectResolver.Sample in
/-- One `jti` is accepted twice for a federated client under one session scope. -/
theorem federated_jti_accepted_twice :
    ∃ first other second replays,
      History resolver.replayService Table.empty ([first, other] ++ second :: []) (seconds 30) replays ∧
      resolver.AcceptedFor first leaf "" firstObject.document firstObject.claims ∧
      resolver.AcceptedFor second leaf "" secondObject.document secondObject.claims ∧
      Dict.get firstObject.claims "jti" = Dict.get secondObject.claims "jti" :=
  ⟨_, _, _, _, history, acceptedFor_first, acceptedFor_second, rfl⟩

open RequestObjectResolver.Sample in
/-- The guarantees on the run that accepts a `jti` again. -/
theorem federated_objects_used_once_twice :
    resolver.verifier.VerifiedFor leaf standardSignedAlgorithms federatedRequiredClaims
        secondObject.document secondObject.claims ∧
      ∃ expiresAt, SignedObjects.expiration firstObject.claims = .ok expiresAt ∧
        expiresAt ≤ seconds 30 := by
  obtain ⟨hverified, _, hexpired⟩ :=
    (federated_objects_used_once history).1 _ acceptedFor_second
  exact ⟨hverified, hexpired firstEntry (by simp) _ _ acceptedFor_first rfl⟩

end RequestObjectResolver

end PurIdentityServer

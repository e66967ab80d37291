import PurIdentityServer.Application.RequestObject

/-!
# RequestObjectBinding — whose request object it was

An accepted request object was read in one of three ways (`ReadAs`):
without verification, verified for the client that was looked up, or
verified under the FAPI profile of that client. The parameters it yields
carry the `client_id` the object claims, which is checked against the
transport's only, and only when both are there. The object is bound to
the client the parameters name exactly when a signed one claims its own
issuer and an unsigned one claims no FAPI client (`resolved_bound_iff`).
-/

namespace PurIdentityServer

open Effects

namespace RequestObjectResolver

section Binding

variable {κ : Type} {resolver : RequestObjectResolver κ}

/-! ## The three readings -/

/-- How an accepted request object was read, and what it left in the replay store. -/
inductive ReadAs (resolver : RequestObjectResolver κ) (at_ : Readings) (params : Params)
    (document sessionScope : String) (replays : ReplayStore) (merged : Params)
    (replays' : ReplayStore) : Prop
  | unsigned (claims : Members)
      (plain : ∀ client, resolver.pickClient params document = some client →
        client.fapiEnabled = false)
      (reads : resolver.readsUnsigned document = true)
      (payload : resolver.unverifiedPayload document = some claims)
      (merged_eq : merged = merge params (resolver.asParams claims))
      (replays_eq : replays' = replays)
  | signed (client : Client) (claims : Members)
      (picked : resolver.pickClient params document = some client)
      (plain : client.fapiEnabled = false)
      (reads : resolver.readsUnsigned document = false)
      (verified : resolver.verifier.verifySigned at_ document client resolver.issuer
          standardSignedAlgorithms
          (if client.federated then federatedRequiredClaims else standardRequiredClaims)
          client.federated (sessionNamespace sessionScope) replays
        = .ok (.accepted claims, replays'))
      (no_sub : client.federated = true → claims.get "sub" = none)
      (merged_eq : merged = merge params (resolver.asParams claims))
  | fapi (client : Client) (claims : Members)
      (picked : resolver.pickClient params document = some client)
      (profile : client.fapiEnabled = true)
      (verified : resolver.verifier.verifySigned at_ document client resolver.issuer
          fapiSignedAlgorithms fapiRequiredClaims false "ciba:" replays
        = .ok (.accepted claims, replays'))
      (merged_eq : merged = resolver.mergeFapi params claims)

theorem stated_ok {α : Type} {document : String} {x : Except RequestObjectError α} {a : α}
    (h : resolver.stated document x = .ok a) : x = .ok a := by
  cases x with
  | error e => cases h
  | ok b =>
      cases h
      rfl

theorem unsignedClaims_ok {document : String} {params : Params}
    (h : resolver.unsignedClaims document = .ok params) :
    ∃ claims, resolver.unverifiedPayload document = some claims ∧
      params = resolver.asParams claims := by
  unfold unsignedClaims at h
  split at h
  · rename_i head payload rest hsegments
    split at h
    · cases h
    · rename_i hlength
      split at h
      · cases h
      · rename_i hrest
        have hpayload : resolver.unverifiedPayload document = resolver.decodeSegment payload := by
          unfold unverifiedPayload
          rw [hsegments]
          match rest with
          | [] => rfl
          | [_] => rfl
          | _ :: _ :: _ => exact absurd (by simp) hlength
        split at h
        · rename_i header claims _ hclaims
          split at h
          · split at h
            · cases h
              exact ⟨claims, hpayload.trans hclaims, rfl⟩
            · cases h
          · cases h
        · cases h
  · cases h

theorem resolveSigned_accepted {at_ : Readings} {document sessionScope : String} {client : Client}
    {params : Params} {replays replays' : ReplayStore}
    (h : resolver.resolveSigned at_ document client sessionScope replays
      = .ok (.ok params, replays')) :
    ∃ claims, resolver.verifier.verifySigned at_ document client resolver.issuer
          standardSignedAlgorithms
          (if client.federated then federatedRequiredClaims else standardRequiredClaims)
          client.federated (sessionNamespace sessionScope) replays
        = .ok (.accepted claims, replays') ∧
      (client.federated = true → claims.get "sub" = none) ∧
      params = resolver.asParams claims := by
  unfold resolveSigned at h
  split at h
  · exact absurd (run_pure_eq_ok.mp h).1 (by simp)
  · obtain ⟨result, replays₁, hverify, h⟩ := run_bind_eq_ok.mp h
    cases result with
    | refused reason => exact absurd (run_pure_eq_ok.mp h).1 (by simp)
    | accepted claims =>
        simp only at h
        split at h
        · exact absurd (run_pure_eq_ok.mp h).1 (by simp)
        · rename_i hsub
          obtain ⟨hparams, rfl⟩ := run_pure_eq_ok.mp h
          cases hparams
          refine ⟨claims, hverify, ?_, rfl⟩
          intro hfederated
          rw [hfederated, Bool.true_and] at hsub
          simpa using hsub

theorem resolveStandard_accepted {at_ : Readings} {document sessionScope : String}
    {client : Option Client} {params : Params} {replays replays' : ReplayStore}
    (h : resolver.resolveStandard at_ document client sessionScope replays
      = .ok (.ok params, replays')) :
    (resolver.readsUnsigned document = true ∧ resolver.unsignedClaims document = .ok params ∧
      replays' = replays) ∨
    (resolver.readsUnsigned document = false ∧ ∃ found, client = some found ∧
      resolver.resolveSigned at_ document found sessionScope replays
        = .ok (.ok params, replays')) := by
  unfold resolveStandard at h
  split at h
  · rename_i hreads
    obtain ⟨hclaims, rfl⟩ := run_pure_eq_ok.mp h
    exact .inl ⟨hreads, hclaims, rfl⟩
  · rename_i hreads
    right
    refine ⟨Bool.eq_false_iff.mpr hreads, ?_⟩
    split at h
    · exact absurd (run_pure_eq_ok.mp h).1 (by simp)
    · cases client with
      | none => exact absurd (run_pure_eq_ok.mp h).1 (by simp)
      | some found => exact ⟨found, rfl, h⟩

theorem resolveFapi_accepted {at_ : Readings} {document : String} {client : Client}
    {params merged : Params} {replays replays' : ReplayStore}
    (h : resolver.resolveFapi at_ params document client replays = .ok (.ok merged, replays')) :
    ∃ claims, resolver.verifier.verifySigned at_ document client resolver.issuer
          fapiSignedAlgorithms fapiRequiredClaims false "ciba:" replays
        = .ok (.accepted claims, replays') ∧ merged = resolver.mergeFapi params claims := by
  unfold resolveFapi at h
  split at h
  · exact absurd (run_pure_eq_ok.mp h).1 (by simp)
  · obtain ⟨result, replays₁, hverify, h⟩ := run_bind_eq_ok.mp h
    cases result with
    | refused reason => exact absurd (run_pure_eq_ok.mp h).1 (by simp)
    | accepted claims =>
        cases hfind : embedded.find? fun name => (Dict.get claims name).isSome with
        | some forbidden =>
            simp only [hfind] at h
            exact absurd (run_pure_eq_ok.mp h).1 (by simp)
        | none =>
            simp only [hfind] at h
            obtain ⟨hmerged, rfl⟩ := run_pure_eq_ok.mp h
            cases hmerged
            exact ⟨claims, hverify, rfl⟩

/-- A standard object, merged into the parameters. -/
theorem merged_accepted {at_ : Readings} {params merged : Params}
    {document sessionScope : String} {client : Option Client} {replays replays' : ReplayStore}
    (h : (do
        let claims ← resolver.resolveStandard at_ document client sessionScope
        pure ((resolver.stated document claims).map (merge params)) :
          SignedObjects.Verification Resolved) replays = .ok (.ok merged, replays')) :
    ∃ claims, resolver.resolveStandard at_ document client sessionScope replays
        = .ok (.ok claims, replays') ∧ merged = merge params claims := by
  obtain ⟨result, replays₁, hresult, h⟩ := run_bind_eq_ok.mp h
  obtain ⟨hmerged, rfl⟩ := run_pure_eq_ok.mp h
  cases result with
  | error e => cases hmerged
  | ok claims =>
      cases hmerged
      exact ⟨claims, hresult, rfl⟩

/-- An accepted request object was read in one of the three ways. -/
theorem resolve_readAs {at_ : Readings} {params merged : Params} {document sessionScope : String}
    {replays replays' : ReplayStore} (hpresented : resolver.presented params = .ok document)
    (hne : document ≠ "")
    (h : resolver.resolve at_ params sessionScope replays = .ok (.ok merged, replays')) :
    ReadAs resolver at_ params document sessionScope replays merged replays' := by
  unfold resolve at h
  rw [hpresented] at h
  simp only [hne, if_false] at h
  unfold resolveDocument at h
  cases hpick : resolver.pickClient params document with
  | none =>
      rw [hpick] at h
      obtain ⟨claims, hstandard, hmerged⟩ := merged_accepted h
      rcases resolveStandard_accepted hstandard with ⟨hreads, hclaims, heq⟩ | ⟨_, found, hfound, _⟩
      · obtain ⟨payload, hpayload, hasParams⟩ := unsignedClaims_ok hclaims
        have hplain : ∀ client, resolver.pickClient params document = some client →
            client.fapiEnabled = false := by
          intro client hclient
          rw [hpick] at hclient
          cases hclient
        exact .unsigned payload hplain hreads hpayload (hasParams ▸ hmerged) heq
      · cases hfound
  | some client =>
      rw [hpick] at h
      simp only at h
      split at h
      · rename_i hfapi
        obtain ⟨result, replays₁, hresolved, h⟩ := run_bind_eq_ok.mp h
        obtain ⟨hstated, rfl⟩ := run_pure_eq_ok.mp h
        rw [stated_ok hstated] at hresolved
        obtain ⟨claims, hverified, hmerged⟩ := resolveFapi_accepted hresolved
        exact .fapi client claims hpick hfapi hverified hmerged
      · rename_i hplain
        have hplain := Bool.eq_false_iff.mpr hplain
        obtain ⟨claims, hstandard, hmerged⟩ := merged_accepted h
        rcases resolveStandard_accepted hstandard with
          ⟨hreads, hclaims, heq⟩ | ⟨hreads, found, hfound, hsigned⟩
        · obtain ⟨payload, hpayload, hasParams⟩ := unsignedClaims_ok hclaims
          have hplain' : ∀ other, resolver.pickClient params document = some other →
              other.fapiEnabled = false := by
            intro other hother
            rw [hpick] at hother
            cases hother
            exact hplain
          exact .unsigned payload hplain' hreads hpayload (hasParams ▸ hmerged) heq
        · cases hfound
          obtain ⟨signedClaims, hverified, hsub, hasParams⟩ := resolveSigned_accepted hsigned
          exact .signed client signedClaims hpick hplain hreads hverified hsub
            (hasParams ▸ hmerged)

/-! ## What the two decoders agree on -/

theorem payload_unverified {token : String} {claims : Members}
    (h : resolver.verifier.jwt.payload token = some claims) :
    resolver.unverifiedPayload token = some claims := by
  obtain ⟨first, second, third, hsegments, hdecode⟩ := resolver.payload_segment token claims h
  unfold unverifiedPayload
  rw [hsegments]
  exact hdecode

theorem headerAlgorithm_of_verifier {token algorithm : String}
    (h : resolver.verifier.algorithmOf token = some algorithm) (hne : algorithm ≠ "") :
    resolver.headerAlgorithm token = algorithm := by
  unfold SignedObjects.algorithmOf at h
  obtain ⟨header, hheader, halgorithm⟩ := Option.map_eq_some_iff.mp h
  obtain ⟨first, second, third, hsegments, hdecode⟩ := resolver.header_segment token header hheader
  unfold headerAlgorithm
  rw [hsegments]
  simp only [hdecode]
  split at halgorithm
  · rename_i found hget
    rw [hget]
    exact halgorithm
  · exact absurd halgorithm.symm hne

theorem unverifiedPayload_keys {document : String} {claims : Members}
    (h : resolver.unverifiedPayload document = some claims) : (Dict.keys claims).Nodup := by
  unfold unverifiedPayload at h
  split at h
  · exact resolver.segment_keys _ _ h
  · exact resolver.segment_keys _ _ h
  · cases h

/-- A verified object names its client as its issuer, and is not read as unsigned. -/
theorem verifiedFor_issuer {client : Client} {algorithms required : List String}
    {document : String} {claims : Members}
    (h : resolver.verifier.VerifiedFor client algorithms required document claims) :
    resolver.unverifiedIssuer document = client.clientId := by
  unfold unverifiedIssuer unverifiedClaim
  rw [payload_unverified h.payload]
  simp only [Option.bind_some, h.issuer]

theorem verifiedFor_reads {client : Client} {algorithms required : List String}
    {document : String} {claims : Members}
    (h : resolver.verifier.VerifiedFor client algorithms required document claims)
    (hsigned : ∀ algorithm ∈ algorithms, algorithm ≠ "" ∧ algorithm ∉ unsignedAlgorithms) :
    resolver.readsUnsigned document = false := by
  obtain ⟨algorithm, key, halgorithm, hmem, _, _⟩ := h.signed
  obtain ⟨hne, hnot⟩ := hsigned algorithm hmem
  unfold readsUnsigned
  rw [headerAlgorithm_of_verifier halgorithm hne]
  simp [hne, hnot]

theorem fapi_signed : ∀ algorithm ∈ fapiSignedAlgorithms,
    algorithm ≠ "" ∧ algorithm ∉ unsignedAlgorithms := by
  decide

/-! ## The client the parameters name -/

theorem findClient_some {clientId : String} {client : Client}
    (h : resolver.findClient clientId = some client) : client.clientId = clientId := by
  unfold findClient at h
  split at h
  · cases h
  · obtain ⟨reader, _, hfind⟩ := Option.bind_eq_some_iff.mp h
    exact reader.find_id clientId client hfind

theorem findClient_of_pick {params : Params} {document : String} {client : Client}
    (h : resolver.pickClient params document = some client) :
    resolver.findClient client.clientId = some client := by
  unfold pickClient at h
  split at h
  · rename_i found hfound
    cases h
    rw [findClient_some hfound]
    exact hfound
  · rw [findClient_some h]
    exact h

/-- The `client_id` of the object, or of the transport where the object has none. -/
def carriedClientId (resolver : RequestObjectResolver κ) (params : Params) (claims : Members) :
    Option String :=
  ((claims.get "client_id").map resolver.stringify).or (Dict.get params "client_id")

theorem asParams_get (claims : Members) (name : String) :
    Dict.get (resolver.asParams claims) name = (claims.get name).map resolver.stringify :=
  Dict.get_map resolver.stringify claims name

theorem keys_without_asParams {claims : Members} (h : (Dict.keys claims).Nodup) :
    (Dict.keys (without embedded (resolver.asParams claims))).Nodup := by
  have hkeys : (Dict.keys (resolver.asParams claims)).Nodup := by
    rw [asParams, Dict.keys_map resolver.stringify claims]
    exact h
  exact Dict.nodup_keys_filter hkeys _

theorem without_get (names : List String) (params : Params) {name : String} (h : name ∉ names) :
    Dict.get (without names params) name = Dict.get params name := by
  have hfilter := Dict.get_filter (fun k => decide (k ∉ names)) params name
  rw [if_pos (by simpa using h)] at hfilter
  exact hfilter

theorem merge_clientId (params : Params) {claims : Members} (h : (Dict.keys claims).Nodup) :
    Dict.get (merge params (resolver.asParams claims)) "client_id"
      = carriedClientId resolver params claims := by
  unfold merge carriedClientId
  rw [Dict.get_update (keys_without_asParams h), without_get embedded _ (by decide),
    without_get embedded _ (by decide), asParams_get]

theorem mergeFapi_clientId (params : Params) {claims : Members} (h : (Dict.keys claims).Nodup) :
    Dict.get (resolver.mergeFapi params claims) "client_id"
      = carriedClientId resolver params claims := by
  have hfilter := Dict.get_filter (fun k => decide (k ∈ fapiTransportKeys)) params "client_id"
  rw [if_pos (by decide)] at hfilter
  unfold mergeFapi carriedClientId
  rw [Dict.get_update (keys_without_asParams h), without_get embedded _ (by decide), asParams_get,
    hfilter]

/-! ## Binding -/

/-- The object was read under the profile of the named client: verified under the
FAPI profile for a FAPI client, and with a key of that client whenever it is signed. -/
structure Bound (resolver : RequestObjectResolver κ) (document clientId : String) : Prop where
  fapi : ∀ client, resolver.findClient clientId = some client → client.fapiEnabled = true →
    ∃ claims, resolver.verifier.VerifiedFor client fapiSignedAlgorithms fapiRequiredClaims
      document claims
  signed : resolver.readsUnsigned document = false →
    ∃ client algorithms required claims, resolver.findClient clientId = some client ∧
      resolver.verifier.VerifiedFor client algorithms required document claims

/-- The client the object and the transport name: the issuer itself when the object
is signed, and no FAPI client when it is not. -/
def Identified (resolver : RequestObjectResolver κ) (params : Params) (document : String) :
    Prop :=
  ∀ claims clientId, resolver.unverifiedPayload document = some claims →
    carriedClientId resolver params claims = some clientId →
      if resolver.readsUnsigned document then
        ∀ client, resolver.findClient clientId = some client → client.fapiEnabled = false
      else resolver.unverifiedIssuer document = clientId

/-- An object verified for the client that was looked up. -/
theorem bound_iff_of_verified {params : Params} {document clientId : String} {client : Client}
    {algorithms required : List String} {claims : Members}
    (hpick : resolver.pickClient params document = some client)
    (hverified : resolver.verifier.VerifiedFor client algorithms required document claims)
    (hreads : resolver.readsUnsigned document = false)
    (hfapi : client.fapiEnabled = true → resolver.verifier.VerifiedFor client
      fapiSignedAlgorithms fapiRequiredClaims document claims)
    (hcarried : carriedClientId resolver params claims = some clientId) :
    Bound resolver document clientId ↔ Identified resolver params document := by
  have hissuer := verifiedFor_issuer hverified
  have hpayload := payload_unverified hverified.payload
  constructor
  · intro hbound claims' clientId' hpayload' hcarried'
    rw [hpayload] at hpayload'
    cases hpayload'
    rw [hcarried] at hcarried'
    cases hcarried'
    rw [hreads, if_neg Bool.false_ne_true]
    obtain ⟨named, _, _, _, hnamed, hverifiedNamed⟩ := hbound.signed hreads
    rw [verifiedFor_issuer hverifiedNamed]
    exact findClient_some hnamed
  · intro hidentified
    have hsame := hidentified claims clientId hpayload hcarried
    rw [hreads, if_neg Bool.false_ne_true, hissuer] at hsame
    have hfind := findClient_of_pick hpick
    rw [hsame] at hfind
    refine ⟨?_, fun _ => ⟨client, algorithms, required, claims, hfind, hverified⟩⟩
    intro named hnamed henabled
    rw [hfind] at hnamed
    cases hnamed
    exact ⟨claims, hfapi henabled⟩

/-- An accepted request object is bound to the client its parameters name exactly
when it is identified. -/
theorem resolved_bound_iff {at_ : Readings} {params merged : Params}
    {document sessionScope clientId : String} {replays replays' : ReplayStore}
    (hpresented : resolver.presented params = .ok document) (hne : document ≠ "")
    (h : resolver.resolve at_ params sessionScope replays = .ok (.ok merged, replays'))
    (hnamed : Dict.get merged "client_id" = some clientId) :
    Bound resolver document clientId ↔ Identified resolver params document := by
  cases resolve_readAs hpresented hne h with
  | unsigned claims hplain hreads hpayload hmerged _ =>
      have hcarried : carriedClientId resolver params claims = some clientId := by
        rw [← merge_clientId params (unverifiedPayload_keys hpayload), ← hmerged]
        exact hnamed
      constructor
      · intro hbound claims' clientId' hpayload' hcarried'
        rw [hpayload] at hpayload'
        cases hpayload'
        rw [hcarried] at hcarried'
        cases hcarried'
        rw [if_pos hreads]
        intro client hfind
        cases henabled : client.fapiEnabled with
        | false => rfl
        | true =>
            obtain ⟨verified, hverified⟩ := hbound.fapi client hfind henabled
            rw [verifiedFor_reads hverified fapi_signed] at hreads
            cases hreads
      · intro hidentified
        have hnone := hidentified claims clientId hpayload hcarried
        rw [if_pos hreads] at hnone
        refine ⟨?_, ?_⟩
        · intro client hfind henabled
          rw [hnone client hfind] at henabled
          cases henabled
        · intro hsigned
          rw [hreads] at hsigned
          cases hsigned
  | signed client claims hpick hplain hreads hverify _ hmerged =>
      have hverified := (SignedObjects.verifySigned_accepted hverify).1
      have hkeys := unverifiedPayload_keys (payload_unverified hverified.payload)
      have hcarried : carriedClientId resolver params claims = some clientId := by
        rw [← merge_clientId params hkeys, ← hmerged]
        exact hnamed
      have hfapi : client.fapiEnabled = true → resolver.verifier.VerifiedFor client
          fapiSignedAlgorithms fapiRequiredClaims document claims := by
        intro henabled
        rw [hplain] at henabled
        cases henabled
      exact bound_iff_of_verified hpick hverified hreads hfapi hcarried
  | fapi client claims hpick _ hverify hmerged =>
      have hverified := (SignedObjects.verifySigned_accepted hverify).1
      have hkeys := unverifiedPayload_keys (payload_unverified hverified.payload)
      have hcarried : carriedClientId resolver params claims = some clientId := by
        rw [← mergeFapi_clientId params hkeys, ← hmerged]
        exact hnamed
      exact bound_iff_of_verified hpick hverified (verifiedFor_reads hverified fapi_signed)
        (fun _ => hverified) hcarried

end Binding

namespace Sample

/-! ## Three clients

A FAPI client, a relying party and a federated one, and documents the last two
have signed, with a key named as their client; and one nobody signed that claims
to be of the FAPI client. -/

/-- A signed document, its signer and its claims. -/
structure SignedDocument where
  document : String
  payload : String
  signer : String
  claims : Members
  segments_eq : segments document = ["rs256", payload, signer]
  keys_nodup : (Dict.keys claims).Nodup

def header : Members := [("alg", .str "RS256")]

def signedDocument : SignedDocument where
  document := "rs256.claims.rp"
  payload := "claims"
  signer := "rp"
  claims := [("iss", .str "rp"), ("aud", .str "https://op"), ("client_id", .str "rp")]
  segments_eq := by decide +kernel
  keys_nodup := by decide +kernel

/-- An object of the federated client that expires at second 10. -/
def firstObject : SignedDocument where
  document := "rs256.first.leaf"
  payload := "first"
  signer := "leaf"
  claims := [("iss", .str "leaf"), ("aud", .str "https://op"), ("exp", .num "10"),
    ("jti", .str "j")]
  segments_eq := by decide +kernel
  keys_nodup := by decide +kernel

def otherObject : SignedDocument where
  document := "rs256.other.leaf"
  payload := "other"
  signer := "leaf"
  claims := [("iss", .str "leaf"), ("aud", .str "https://op"), ("exp", .num "40"),
    ("jti", .str "k")]
  segments_eq := by decide +kernel
  keys_nodup := by decide +kernel

/-- An object with the `jti` of the first. -/
def secondObject : SignedDocument where
  document := "rs256.second.leaf"
  payload := "second"
  signer := "leaf"
  claims := [("iss", .str "leaf"), ("aud", .str "https://op"), ("exp", .num "40"),
    ("jti", .str "j")]
  segments_eq := by decide +kernel
  keys_nodup := by decide +kernel

def signedDocuments : List SignedDocument :=
  [signedDocument, firstObject, otherObject, secondObject]

def findDocument (token : String) : Option SignedDocument :=
  signedDocuments.find? fun signed => signed.document = token

def decodeSegment (segment : String) : Option Members :=
  if segment = "none" then some [("alg", .str "none")]
  else if segment = "forged" then some [("client_id", .str "bank")]
  else if segment = "rs256" then some header
  else (signedDocuments.find? fun signed => signed.payload = segment).map SignedDocument.claims

theorem no_import_raises (jwk : Members) (h : false = true) :
    (jwk.get "kid").bind Json.asStr = none := by
  cases h

def jwt : PyJwt String where
  header token := (findDocument token).map fun _ => header
  payload token := (findDocument token).map SignedDocument.claims
  signed token key algorithms :=
    (findDocument token).any fun signed => signed.signer = key && algorithms.contains "RS256"
  publicKey jwk := (jwk.get "kid").bind Json.asStr
  secretKey := id
  importRaises_none := no_import_raises
  signed_algorithm := by
    intro token key algorithms h
    cases hfind : findDocument token with
    | none =>
        rw [hfind] at h
        cases h
    | some signed =>
        rw [hfind, Option.any_some, Bool.and_eq_true] at h
        exact ⟨header, "RS256", rfl, rfl, by simpa using h.2⟩

def verifier : SignedObjects String where
  jwt := jwt
  remoteKey _ _ := none
  decryptSecret _ := none
  jtiHash := id
  printed := id

def bank : Client where
  clientId := "bank"
  fapiEnabled := true

def relyingParty : Client where
  clientId := "rp"
  jwks := [.obj [("kid", .str "rp")]]

def leaf : Client where
  clientId := "leaf"
  federated := true
  jwks := [.obj [("kid", .str "leaf")]]

def clients : ClientReader where
  findById clientId := [bank, relyingParty, leaf].find? fun client => client.clientId = clientId
  find_id := by
    intro clientId client h
    simpa using List.find?_some h

theorem findDocument_some {token : String} {signed : SignedDocument}
    (h : findDocument token = some signed) : signed ∈ signedDocuments ∧ signed.document = token := by
  refine ⟨List.mem_of_find?_eq_some h, ?_⟩
  simpa using List.find?_some h

theorem decodeSegment_payload : ∀ signed ∈ signedDocuments,
    decodeSegment signed.payload = some signed.claims := by
  intro signed hmem
  simp only [signedDocuments, List.mem_cons, List.not_mem_nil, or_false] at hmem
  rcases hmem with rfl | rfl | rfl | rfl <;> rfl

theorem decodeSegment_keys (segment : String) (members : Members)
    (h : decodeSegment segment = some members) : (Dict.keys members).Nodup := by
  unfold decodeSegment at h
  split at h
  · cases h
    decide +kernel
  split at h
  · cases h
    decide +kernel
  split at h
  · cases h
    decide +kernel
  · obtain ⟨signed, _, rfl⟩ := Option.map_eq_some_iff.mp h
    exact signed.keys_nodup

def resolver : RequestObjectResolver String where
  issuer := "https://op"
  fetch _ := none
  clients := some clients
  verifier := verifier
  decrypt := none
  decodeSegment := decodeSegment
  dumps _ := ""
  asText _ := ""
  header_segment := by
    intro token members h
    obtain ⟨signed, hfind, rfl⟩ := Option.map_eq_some_iff.mp h
    obtain ⟨_, rfl⟩ := findDocument_some hfind
    exact ⟨_, _, _, signed.segments_eq, by rfl⟩
  payload_segment := by
    intro token claims h
    obtain ⟨signed, hfind, rfl⟩ := Option.map_eq_some_iff.mp h
    obtain ⟨hmem, rfl⟩ := findDocument_some hfind
    exact ⟨_, _, _, signed.segments_eq, decodeSegment_payload signed hmem⟩
  segment_keys := decodeSegment_keys

/-- A clock that stands still during a verification. -/
def readingsAt (moment : Int) : Readings where
  decode := seconds moment
  bounds := seconds moment
  purge := seconds moment
  decode_le := le_refl _
  bounds_le := le_refl _

/-- The parameters a document alone resolves to, for an anonymous browser. -/
def resolvesTo (document clientId : String) : Bool :=
  match resolver.resolve (readingsAt 1) [("request", document)] "" Table.empty with
  | .ok (.ok merged, _) => Dict.get merged "client_id" = some clientId
  | _ => false

theorem exists_of_resolvesTo {document clientId : String}
    (h : resolvesTo document clientId = true) :
    ∃ merged replays, resolver.resolve (readingsAt 1) [("request", document)] "" Table.empty
        = .ok (.ok merged, replays) ∧ Dict.get merged "client_id" = some clientId := by
  unfold resolvesTo at h
  split at h
  · rename_i merged replays hresolve
    exact ⟨merged, replays, hresolve, of_decide_eq_true h⟩
  · cases h

theorem forged_resolves : resolvesTo "none.forged" "bank" = true := by
  decide +kernel

theorem signed_resolves : resolvesTo signedDocument.document "rp" = true := by
  decide +kernel

end Sample

open RequestObjectResolver.Sample in
/-- An unsigned object yields the parameters of a FAPI client. -/
theorem unsigned_for_fapi_client :
    ∃ merged replays, resolver.presented [("request", "none.forged")] = .ok "none.forged" ∧
      resolver.resolve (readingsAt 1) [("request", "none.forged")] "" Table.empty
        = .ok (.ok merged, replays) ∧
      Dict.get merged "client_id" = some "bank" ∧ ¬Bound resolver "none.forged" "bank" := by
  obtain ⟨merged, replays, hresolve, hnamed⟩ := exists_of_resolvesTo forged_resolves
  refine ⟨merged, replays, by rfl, hresolve, hnamed, ?_⟩
  intro hbound
  obtain ⟨claims, hverified⟩ := hbound.fapi bank rfl rfl
  have hreads := verifiedFor_reads hverified fapi_signed
  exact absurd hreads (by decide +kernel)

open RequestObjectResolver.Sample in
/-- The equivalence on the object of the relying party. -/
theorem resolved_bound_iff_signed :
    ∃ merged replays, resolver.resolve (readingsAt 1) [("request", signedDocument.document)] "" Table.empty
        = .ok (.ok merged, replays) ∧
      (Bound resolver signedDocument.document "rp" ↔
        Identified resolver [("request", signedDocument.document)] signedDocument.document) := by
  obtain ⟨merged, replays, hresolve, hnamed⟩ := exists_of_resolvesTo signed_resolves
  exact ⟨merged, replays, hresolve, resolved_bound_iff (by rfl) (by decide) hresolve hnamed⟩

end RequestObjectResolver

end PurIdentityServer

import PurIdentityServer.Application.CredentialIssuance
import PurIdentityServer.Infrastructure.EmbeddedKeys

/-!
# Key attestation — the keys the credentials of a request are bound to

Each proof of a credential request carries the key its credential is to be
bound to, and may carry an attestation: a token whose `attested_keys` name
the keys somebody vouches for. `_binding_keys` checks every proof in turn
and answers one key for each; the credentials are made from these keys, in
their order (`credentials_bound`).

`_key_attestation_covers` compares the key of the proof with the attested
ones, by the whole JWK or by its `kid` alone; a JWK without a `kid` has
the `kid` of every other such JWK. An attestation that names its keys in
another way than a JWK Set, or names none, covers every key.
-/

namespace PurIdentityServer

open Effects

/-! ## Equality of decoded JSON -/

namespace Json

mutual

/-- `==` on decoded JSON: objects in any order, `True` as the number one;
`numEq` compares two numbers by their texts. -/
def pyEq (numEq : String → String → Bool) : Json → Json → Bool
  | .null, .null => true
  | .bool a, .bool b => a == b
  | .bool a, .num text => numEq (if a then "1" else "0") text
  | .num text, .bool b => numEq text (if b then "1" else "0")
  | .num s, .num t => numEq s t
  | .str s, .str t => s == t
  | .arr items, .arr others => pyEqItems numEq items others
  | .obj members, .obj others =>
      pyEqMembers numEq members others && others.all fun m => (Dict.get members m.1).isSome
  | _, _ => false

def pyEqItems (numEq : String → String → Bool) : List Json → List Json → Bool
  | [], [] => true
  | item :: rest, other :: others => pyEq numEq item other && pyEqItems numEq rest others
  | _, _ => false

def pyEqMembers (numEq : String → String → Bool) : List (String × Json) → Members → Bool
  | [], _ => true
  | (name, value) :: rest, others =>
      (match Dict.get others name with
        | some other => pyEq numEq value other
        | none => false) && pyEqMembers numEq rest others

end

theorem get_of_pyEqMembers {numEq : String → String → Bool} {members others : Members}
    (h : pyEqMembers numEq members others = true) {k : String} {value : Json}
    (hget : Dict.get members k = some value) :
    ∃ other, Dict.get others k = some other ∧ pyEq numEq value other = true := by
  induction members with
  | nil => cases hget
  | cons m rest ih =>
      rw [pyEqMembers, Bool.and_eq_true] at h
      rw [Dict.get_cons] at hget
      by_cases hname : m.1 = k
      · rw [if_pos hname] at hget
        cases hget
        rw [← hname]
        cases hother : Dict.get others m.1 with
        | none =>
            rw [hother] at h
            cases h.1
        | some other =>
            rw [hother] at h
            exact ⟨other, rfl, h.1⟩
      · rw [if_neg hname] at hget
        exact ih h.2 hget

/-- Equal objects have the same texts under each name. -/
theorem text_of_pyEq {numEq : String → String → Bool} {members others : Members}
    (h : pyEq numEq (.obj members) (.obj others) = true) (k : String) :
    (Dict.get members k).bind asStr = (Dict.get others k).bind asStr := by
  rw [pyEq, Bool.and_eq_true] at h
  cases hget : Dict.get members k with
  | some value =>
      obtain ⟨other, hother, heq⟩ := get_of_pyEqMembers h.1 hget
      rw [hother]
      cases value with
      | str s =>
          cases other with
          | str t => simpa [pyEq, asStr] using heq
          | null | bool | num | arr | obj => simp [pyEq] at heq
      | null | bool | num | arr | obj =>
          cases other with
          | str t => simp [pyEq] at heq
          | null | bool | num | arr | obj => rfl
  | none =>
      cases hother : Dict.get others k with
      | none => rfl
      | some other =>
          have hmem := List.all_eq_true.mp h.2 (k, other) (Dict.mem_of_get hother)
          rw [hget] at hmem
          cases hmem

/-- Only an object equals an object. -/
theorem eq_obj_of_pyEq {numEq : String → String → Bool} {members : Members} {value : Json}
    (h : pyEq numEq (.obj members) value = true) : ∃ others, value = .obj others := by
  cases value with
  | obj others => exact ⟨others, rfl⟩
  | null | bool | num | str | arr => simp [pyEq] at h

end Json

/-! ## The checks of the proofs -/

/-- `PROOF_TYPES` -/
def proofTypes : List String := ["openid4vci-proof+jwt", "jwt"]

/-- `PROOF_ALGORITHMS` -/
def proofAlgorithms : List String := ["ES256", "RS256"]

/-- `C_NONCE_TYP` -/
def cNonceTyp : String := "c_nonce+jwt"

/-- `OID4VCIIssuerUseCase`, as far as it checks proofs. -/
structure ProofChecker (κ : Type) where
  tokens : TokenManager κ
  /-- `algorithm.from_jwk(json.dumps(jwk))` -/
  fromJwk : (algorithm : String) → Members → Except ImportError κ
  /-- the public key of the certificate in `x5c[0]`, `none` when it cannot be read -/
  certificateKey : String → Option κ
  /-- `RSAAlgorithm` or `ECAlgorithm`, `.from_jwk(jwk)`, `none` when it raises -/
  attestationJwk : (rsa : Bool) → Members → Option κ
  /-- two numbers are equal -/
  numEq : String → String → Bool
  algorithm : JWTAlgorithm
  issuer : String

namespace ProofChecker

variable {κ : Type} (c : ProofChecker κ)

def imports : KeyImports κ := ⟨c.tokens.jwt, c.fromJwk⟩

/-- `_audience_matches` -/
def audienceMatches : Option Json → Bool
  | some (.str audience) => audience == c.issuer
  | some (.arr items) => (items.filterMap Json.asStr).contains c.issuer
  | _ => false

def proofOptions : DecodeOptions := { verifyAud := false }

/-- `_decode_proof`; a list or an object under `typ` is not hashable. -/
def decodeProof (now : Instant) (proof : String) : Except Raised (Option (Members × Members)) :=
  match c.tokens.jwt.header proof with
  | none => .ok none
  | some header =>
      match header.get "typ" with
      | some (.arr _) | some (.obj _) => .error (.other "TypeError")
      | typ =>
          if (typ.bind Json.asStr).any (proofTypes.contains ·) then
            c.imports.decodeEmbedded proofAlgorithms proofOptions now proof
          else .ok none

/-- `_c_nonce_valid` -/
def cNonceValid (now : Instant) (nonce : String) : Bool :=
  match c.tokens.jwt.header nonce with
  | none => false
  | some header =>
      if (header.get "typ").bind Json.asStr ≠ some cNonceTyp then false
      else
        match (header.get "kid").bind Json.asStr with
        | none => false
        | some kid =>
            match c.tokens.keyByKid kid with
            | none => false
            | some pair =>
                if pair.algorithm ≠ c.algorithm then false
                else
                  (c.tokens.jwt.decode { issuer := some c.issuer } now nonce pair.publicKey
                    [c.algorithm.value]).isOk

/-- `_key_attestation_public_key` -/
def keyAttestationPublicKey (header : Members) : Option κ :=
  match header.get "x5c" with
  | some (.arr (.str certificate :: _)) => c.certificateKey certificate
  | _ =>
      match header.get "jwk" with
      | some (.obj jwk) =>
          c.attestationJwk ((Dict.get jwk "kty").bind Json.asStr == some "RSA") jwk
      | _ => none

/-- `item.get("kid") == binding_kid`; a member that is not there is `None`. -/
def sameKid (item bindingJwk : Members) : Bool :=
  Json.pyEq c.numEq ((item.get "kid").getD .null) ((bindingJwk.get "kid").getD .null)

/-- `_key_attestation_covers` -/
def keyAttestationCovers (bindingJwk claims : Members) : Bool :=
  match claims.get "attested_keys" with
  | some (.obj attested) =>
      match Dict.get attested "keys" with
      | some (.arr keys) =>
          keys.isEmpty || keys.any (Json.pyEq c.numEq (.obj bindingJwk)) ||
            keys.any fun item =>
              match item with
              | .obj members => c.sameKid members bindingJwk
              | _ => false
      | _ => true
  | _ => true

/-- The claims of an attestation whose signature verifies. -/
def keyAttestationClaims (now : Instant) (attestation : String) : Option Members :=
  match c.tokens.jwt.header attestation with
  | none => none
  | some header =>
      match (header.get "alg").bind Json.asStr, c.keyAttestationPublicKey header with
      | some algorithm, some key =>
          (c.tokens.jwt.decode { verifyAud := false } now attestation key [algorithm]).toOption
      | _, _ => none

/-- `_key_attestation_valid` -/
def keyAttestationValid (now : Instant) (attestation : String) (bindingJwk : Members) : Bool :=
  (c.keyAttestationClaims now attestation).any (c.keyAttestationCovers bindingJwk)

/-- A refusal of a proof. -/
def refuseProof (condition : Bool) (error description : String) : AccessResult Unit :=
  check (if condition then none else some (ResourceServer.credentialError error description))

/-- The attestation the header of a proof carries. -/
def attestationOf (proof : String) : Option String :=
  ((c.tokens.jwt.header proof).bind fun header => header.get "key_attestation").bind Json.asStr

/-- The nonce of a proof, `""` without one. -/
def nonceOf (claims : Members) : String := ((claims.get "nonce").bind Json.asStr).getD ""

/-- The turn of the loop of `_binding_keys` for one proof. -/
def bindingKey (now : Instant) (proof : String) : AccessResult Members := do
  match ← orInterrupt (c.decodeProof now proof) with
  | none => deny (ResourceServer.credentialError "invalid_proof" "preuve JWT invalide")
  | some (claims, jwk) =>
      refuseProof (c.audienceMatches (claims.get "aud")) "invalid_proof"
        "audience de la preuve differente de l'emetteur"
      refuseProof (nonceOf claims != "") "invalid_proof" "nonce absent de la preuve"
      refuseProof (c.cNonceValid now (nonceOf claims)) "invalid_nonce"
        "c_nonce inconnu, invalide ou expire"
      refuseProof ((c.attestationOf proof).all fun attestation =>
        c.keyAttestationValid now attestation jwk) "invalid_proof" "attestation de cle invalide"
      return jwk

/-- The proofs that are looked at. -/
def candidates (proofs : List String) : List String := proofs.filter (· ≠ "")

/-- `_binding_keys` -/
def bindingKeys (now : Instant) (proofs : List String) : AccessResult (List Members) :=
  if (candidates proofs).isEmpty then
    deny (ResourceServer.credentialError "invalid_proof"
      "preuve cryptographique (proofs.jwt) requise")
  else (candidates proofs).mapM (c.bindingKey now)

/-! ## What a proof that passes has been checked for -/

variable {c} {now : Instant} {proof : String} {claims jwk : Members}

theorem refuseProof_eq_ok {condition : Bool} {error description : String} {u : Unit} :
    refuseProof condition error description = .ok u ↔ condition = true := by
  unfold refuseProof
  rw [check_eq_ok]
  cases condition <;> simp

/-- The checks of `_binding_keys` before the attestation. -/
structure Proven (c : ProofChecker κ) (now : Instant) (proof : String) (claims jwk : Members) :
    Prop where
  decoded : c.decodeProof now proof = .ok (some (claims, jwk))
  audience : c.audienceMatches (claims.get "aud") = true
  nonce : nonceOf claims ≠ ""
  nonce_valid : c.cNonceValid now (nonceOf claims) = true

theorem bindingKey_eq_ok :
    c.bindingKey now proof = .ok jwk ↔
      (∃ claims, Proven c now proof claims jwk) ∧
        ∀ attestation, c.attestationOf proof = some attestation →
          c.keyAttestationValid now attestation jwk = true := by
  have hall : ∀ found : Members, ((c.attestationOf proof).all fun attestation =>
      c.keyAttestationValid now attestation found) = true ↔
        ∀ attestation, c.attestationOf proof = some attestation →
          c.keyAttestationValid now attestation found = true := by
    intro found
    cases c.attestationOf proof with
    | none => simp
    | some attestation => simp
  unfold bindingKey
  rw [bind_eq_ok]
  constructor
  · intro ⟨found, hdecoded, h⟩
    rw [orInterrupt_eq_ok] at hdecoded
    cases found with
    | none => exact absurd h deny_ne_ok
    | some found =>
        simp only [bind_eq_ok, refuseProof_eq_ok, pure_eq_ok] at h
        obtain ⟨_, haudience, _, hnonce, _, hvalid, _, hattested, rfl⟩ := h
        exact ⟨⟨found.1, hdecoded, haudience, by simpa using hnonce, hvalid⟩,
          (hall found.2).mp hattested⟩
  · intro ⟨⟨claims, hproven⟩, hattested⟩
    refine ⟨some (claims, jwk), orInterrupt_eq_ok.mpr hproven.decoded, ?_⟩
    simp only [bind_eq_ok, refuseProof_eq_ok, pure_eq_ok]
    exact ⟨(), hproven.audience, (), by simpa using hproven.nonce, (), hproven.nonce_valid, (),
      (hall jwk).mpr hattested, trivial⟩

/-- What a proof binds its credential to is the `jwk` of its header. -/
theorem Proven.header_jwk (h : Proven c now proof claims jwk) :
    (c.tokens.jwt.header proof).bind (Dict.get · "jwk") = some (.obj jwk) := by
  have hdecoded := h.decoded
  unfold decodeProof at hdecoded
  split at hdecoded
  · cases hdecoded
  · split at hdecoded
    · cases hdecoded
    · cases hdecoded
    · split at hdecoded
      · exact (KeyImports.decodeEmbedded_eq_some.mp hdecoded).header_jwk
      · cases hdecoded

/-- The key of a proof that is decoded can be imported. -/
theorem Proven.imported (h : Proven c now proof claims jwk) :
    ∃ algorithm ∈ proofAlgorithms, ∃ key, c.fromJwk algorithm jwk = .ok key := by
  have hdecoded := h.decoded
  unfold decodeProof at hdecoded
  split at hdecoded
  · cases hdecoded
  · split at hdecoded
    · cases hdecoded
    · cases hdecoded
    · split at hdecoded
      · obtain ⟨_, algorithm, key, _, _, hallowed, _, hkey, _⟩ :=
          (KeyImports.decodeEmbedded_eq_some.mp hdecoded).signed
        exact ⟨algorithm, hallowed, key, hkey⟩
      · cases hdecoded

/-- The keys an attestation lists: a JWK Set, or the list of the JWKs itself. -/
def Lists (attestation : Members) (keys : List Json) : Prop :=
  attestation.get "attested_keys" = some (.arr keys) ∨
    ∃ set, attestation.get "attested_keys" = some (.obj set) ∧
      Dict.get set "keys" = some (.arr keys)

/-- The keys come as a JWK Set that is not empty. -/
def ListsSet (attestation : Members) (keys : List Json) : Prop :=
  keys ≠ [] ∧ ∃ set, attestation.get "attested_keys" = some (.obj set) ∧
    Dict.get set "keys" = some (.arr keys)

/-- Two JWKs import to one public key. -/
def SameMaterial (c : ProofChecker κ) (a b : Members) : Prop :=
  ∃ algorithm ∈ proofAlgorithms, ∃ key,
    c.fromJwk algorithm a = .ok key ∧ c.fromJwk algorithm b = .ok key

/-- One of the attested keys has the material of the key. -/
def Attests (c : ProofChecker κ) (keys : List Json) (jwk : Members) : Prop :=
  ∃ members, .obj members ∈ keys ∧ c.SameMaterial jwk members

/-- The import of a JWK depends on what it is equal to. -/
def EqualImports (c : ProofChecker κ) : Prop :=
  ∀ a b, Json.pyEq c.numEq (.obj a) (.obj b) = true →
    ∀ algorithm, c.fromJwk algorithm a = c.fromJwk algorithm b

/-- `_key_attestation_covers` refuses a JWK Set when the key is none of it, and
so is its `kid`. -/
theorem keyAttestationCovers_eq_true {attestation : Members} :
    c.keyAttestationCovers jwk attestation = true ↔
      ∀ keys, ListsSet attestation keys →
        (∃ members, .obj members ∈ keys ∧
          Json.pyEq c.numEq (.obj jwk) (.obj members) = true) ∨
        ∃ members, .obj members ∈ keys ∧ c.sameKid members jwk = true := by
  have hkids : ∀ keys : List Json, (keys.any fun item =>
      match item with
      | .obj members => c.sameKid members jwk
      | _ => false) = true ↔ ∃ members, .obj members ∈ keys ∧ c.sameKid members jwk = true := by
    intro keys
    rw [List.any_eq_true]
    constructor
    · intro ⟨item, hmem, hitem⟩
      cases item with
      | obj members => exact ⟨members, hmem, hitem⟩
      | null | bool | num | str | arr => cases hitem
    · intro ⟨members, hmem, hkid⟩
      exact ⟨.obj members, hmem, hkid⟩
  have hequal : ∀ keys : List Json, keys.any (Json.pyEq c.numEq (.obj jwk)) = true ↔
      ∃ members, .obj members ∈ keys ∧ Json.pyEq c.numEq (.obj jwk) (.obj members) = true := by
    intro keys
    rw [List.any_eq_true]
    constructor
    · intro ⟨item, hmem, hitem⟩
      obtain ⟨members, rfl⟩ := Json.eq_obj_of_pyEq hitem
      exact ⟨members, hmem, hitem⟩
    · intro ⟨members, hmem, heq⟩
      exact ⟨.obj members, hmem, heq⟩
  unfold keyAttestationCovers ListsSet
  cases hclaim : attestation.get "attested_keys" with
  | none => simp
  | some value =>
      cases value with
      | obj set =>
          cases hkeys : Dict.get set "keys" with
          | none => simp [hkeys]
          | some listed =>
              cases listed with
              | arr keys =>
                  simp only [hkeys, Bool.or_eq_true, hkids, hequal]
                  constructor
                  · intro h listed ⟨hne, other, hother, hlisted⟩
                    cases hother
                    cases hkeys.symm.trans hlisted
                    rcases h with (hempty | h) | h
                    · exact absurd (List.isEmpty_iff.mp hempty) hne
                    · exact .inl h
                    · exact .inr h
                  · intro h
                    by_cases hne : keys = []
                    · exact .inl (.inl (List.isEmpty_iff.mpr hne))
                    · rcases h keys ⟨hne, set, rfl, hkeys⟩ with h | h
                      · exact .inl (.inr h)
                      · exact .inr h
              | null | bool | num | str | obj => simp [hkeys]
      | null | bool | num | str | arr => simp

/-- Every list of keys that a verified attestation of the proof gives has the
key of the proof among it, or comes as a JWK Set none of which has the `kid`
of that key. -/
def Discerned (c : ProofChecker κ) (now : Instant) (proof : String) : Prop :=
  ∀ claims jwk attestation attested keys, Proven c now proof claims jwk →
    c.attestationOf proof = some attestation →
    c.keyAttestationClaims now attestation = some attested → Lists attested keys →
    c.Attests keys jwk ∨
      (ListsSet attested keys ∧ ∀ members, .obj members ∈ keys → c.sameKid members jwk = false)

/-- The keys the attestation of a proof lists, when its signature verifies. -/
def Listed (c : ProofChecker κ) (now : Instant) (proof : String) (keys : List Json) : Prop :=
  ∃ attestation attested, c.attestationOf proof = some attestation ∧
    c.keyAttestationClaims now attestation = some attested ∧ Lists attested keys

/-- A proof that passes has an attestation that covers its key. -/
theorem covers_of_bindingKey {attestation : String} (h : c.bindingKey now proof = .ok jwk)
    (hattestation : c.attestationOf proof = some attestation) :
    ∃ attested, c.keyAttestationClaims now attestation = some attested ∧
      c.keyAttestationCovers jwk attested = true := by
  have hvalid := (bindingKey_eq_ok.mp h).2 attestation hattestation
  unfold keyAttestationValid at hvalid
  cases hclaims : c.keyAttestationClaims now attestation with
  | none =>
      rw [hclaims] at hvalid
      cases hvalid
  | some attested =>
      rw [hclaims] at hvalid
      exact ⟨attested, rfl, hvalid⟩

/-- The key of a proof that passes is attested wherever the proof is discerned. -/
theorem attests_of_discerned (himports : EqualImports c) (hdiscerned : Discerned c now proof)
    (h : c.bindingKey now proof = .ok jwk) {keys : List Json} (hkeys : Listed c now proof keys) :
    c.Attests keys jwk := by
  obtain ⟨attestation, attested, hattestation, hclaims, hlists⟩ := hkeys
  obtain ⟨⟨claims, hproven⟩, _⟩ := bindingKey_eq_ok.mp h
  rcases hdiscerned claims jwk attestation attested keys hproven hattestation hclaims hlists with
    hattests | ⟨hset, hkids⟩
  · exact hattests
  · obtain ⟨found, hfound, hcovers⟩ := covers_of_bindingKey h hattestation
    obtain rfl : attested = found := Option.some.inj (hclaims.symm.trans hfound)
    rcases keyAttestationCovers_eq_true.mp hcovers keys hset with
      ⟨members, hmem, hequal⟩ | ⟨members, hmem, hkid⟩
    · obtain ⟨algorithm, hallowed, key, hkey⟩ := hproven.imported
      exact ⟨members, hmem, algorithm, hallowed, key, hkey, himports _ _ hequal algorithm ▸ hkey⟩
    · rw [hkids members hmem] at hkid
      cases hkid

/-- A proof that is not discerned passes with a key that is not attested. -/
theorem bindingKey_of_not_discerned (h : ¬ Discerned c now proof) :
    ∃ jwk keys, c.bindingKey now proof = .ok jwk ∧ Listed c now proof keys ∧
      ¬ c.Attests keys jwk := by
  unfold Discerned at h
  push Not at h
  obtain ⟨claims, jwk, attestation, attested, keys, hproven, hattestation, hclaims, hlists,
    hattests, hundiscerned⟩ := h
  refine ⟨jwk, keys, bindingKey_eq_ok.mpr ⟨⟨claims, hproven⟩, ?_⟩,
    ⟨attestation, attested, hattestation, hclaims, hlists⟩, hattests⟩
  intro other hother
  obtain rfl : attestation = other := Option.some.inj (hattestation.symm.trans hother)
  unfold keyAttestationValid
  rw [hclaims, Option.any_some, keyAttestationCovers_eq_true]
  intro listed hset
  -- a JWK Set has one list of keys
  have hsame : listed = keys := by
    obtain ⟨_, set, hclaim, hlisted⟩ := hset
    rcases hlists with hlist | ⟨other, hother, hkeys⟩
    · cases hclaim.symm.trans hlist
    · cases hclaim.symm.trans hother
      cases hlisted.symm.trans hkeys
      rfl
  rw [hsame] at hset ⊢
  obtain ⟨members, hmem, hkid⟩ := hundiscerned hset
  exact .inr ⟨members, hmem, by simpa using hkid⟩

end ProofChecker

/-! ## The key of a credential -/

/-- The key the holder of the credential has to prove: the `jwk` of its `cnf`,
or the device key made of the JWK. -/
def Credential.BoundTo {κ : Type} : Credential κ → Members → Prop
  | .sdJwt vc _, jwk => (Dict.get vc.payload "cnf").bind (·.member "jwk") = some (.obj jwk)
  | .mdoc document, jwk =>
      Mdoc.deviceCoseKey jwk = .ok document.issuerAuth.mso.deviceKey

namespace Mdoc

variable {κ : Type} {platform : MdocPlatform κ} {pki : MdocIssuerPki κ} {now : Instant}

theorem deviceKey_of_issue {jwk : List (String × Json)} {claims : List (String × Cbor)}
    {docType : String} {draws : Nat} {issued : IssuerSigned κ}
    (h : pki.issue platform jwk claims docType draws now = .ok issued) :
    deviceCoseKey jwk = .ok issued.issuerAuth.mso.deviceKey := by
  unfold MdocIssuerPki.issue at h
  simp only [bind_eq_ok, pure_eq_ok] at h
  obtain ⟨deviceKey, hkey, mso, hmso, rfl⟩ := h
  rw [hkey]
  unfold mobileSecurityObject at hmso
  split at hmso
  · cases hmso
  · cases hmso
    rfl

/-- Each document is bound to the device key of its own JWK. -/
theorem issueAll_bound {jwks : List (List (String × Json))} {draws : Nat}
    {documents : List (IssuerSigned κ)}
    (h : (issueAll platform pki now jwks draws).1 = .credentials documents) :
    List.Forall₂ (fun document jwk => deviceCoseKey jwk = .ok document.issuerAuth.mso.deviceKey)
      documents jwks := by
  induction jwks generalizing draws documents with
  | nil =>
      cases h
      exact .nil
  | cons jwk rest ih =>
      unfold issueAll at h
      simp only at h
      split at h
      · cases h
      · cases h
      · rename_i issued hissued
        split at h
        · rename_i others _ hothers
          cases h
          exact .cons (deviceKey_of_issue hissued) (ih (by rw [hothers]))
        · rename_i hfailed
          exact (hfailed documents _ (Prod.ext h rfl)).elim

end Mdoc

namespace CredentialIssuer

variable {κ μ : Type} {issuer : CredentialIssuer κ μ}

/-- Each SD-JWT carries its own JWK. -/
theorem issueSdJwts_bound {subject : String} {roundedNow : Int} {salts : Nat}
    {bindings : List Members} {credentials : List (Credential μ)}
    (h : issuer.issueSdJwts subject roundedNow salts (bindings.map some) = .ok credentials) :
    List.Forall₂ Credential.BoundTo credentials bindings := by
  induction bindings generalizing salts credentials with
  | nil =>
      cases h
      exact .nil
  | cons jwk rest ih =>
      unfold issueSdJwts at h
      obtain ⟨text, -, h⟩ := bind_eq_ok.mp h
      obtain ⟨others, hothers, h⟩ := bind_eq_ok.mp h
      cases h
      exact .cons rfl (ih hothers)

/-- The credentials of a grant are bound to its keys, one each. -/
theorem issue_bound {now : Instant} {grant : CredentialGrant} {s : IssuerState μ}
    {credentials : List (Credential μ)} (hne : grant.bindings ≠ [])
    (h : (issuer.issue now grant s).1 = .ok credentials) :
    List.Forall₂ Credential.BoundTo credentials grant.bindings := by
  unfold issue at h
  split at h
  · simp only at h
    unfold Mdoc.issueMdoc at h
    cases hpki : Mdoc.ensureMdocPki issuer.mdoc issuer.name now s.mdoc with
    | none =>
        rw [hpki] at h
        cases h
    | some found =>
        rw [hpki] at h
        cases hanswer : (Mdoc.issueAll issuer.mdoc found.1 (Mdoc.roundedNow now) grant.bindings
            found.2.draws).1 with
        | credentials documents =>
            have hbound := Mdoc.issueAll_bound hanswer
            have heq : ofMdocAnswer (.credentials documents) = .ok credentials := by
              rw [← hanswer]
              exact h
            cases heq
            rw [List.forall₂_map_left_iff]
            exact hbound
        | credentialError error description =>
            have heq : ofMdocAnswer (μ := μ) (.credentialError error description) =
                .ok credentials := by
              rw [← hanswer]
              exact h
            exact absurd heq deny_ne_ok
        | raised =>
            have heq : ofMdocAnswer (μ := μ) .raised = .ok credentials := by
              rw [← hanswer]
              exact h
            cases heq
  · unfold issueSdJwt at h
    simp only [if_neg hne, orInterrupt_eq_ok] at h
    exact issueSdJwts_bound h

end CredentialIssuer

/-! ## The request -/

namespace ProofChecker

variable {κ : Type} {c : ProofChecker κ} {now : Instant}

/-- The key in the header of a proof. -/
def HeaderKey (c : ProofChecker κ) (proof : String) (jwk : Members) : Prop :=
  (c.tokens.jwt.header proof).bind (Dict.get · "jwk") = some (.obj jwk)

theorem headerKey_of_bindingKey {proof : String} {jwk : Members}
    (h : c.bindingKey now proof = .ok jwk) : c.HeaderKey proof jwk := by
  obtain ⟨⟨claims, hproven⟩, _⟩ := bindingKey_eq_ok.mp h
  exact hproven.header_jwk

/-- A request with proofs is answered a key for each, in their order. -/
theorem bindingKeys_eq_ok {proofs : List String} {bindings : List Members} :
    c.bindingKeys now proofs = .ok bindings ↔
      candidates proofs ≠ [] ∧ (candidates proofs).mapM (c.bindingKey now) = .ok bindings := by
  unfold bindingKeys
  by_cases hempty : candidates proofs = []
  · simp [hempty, deny_ne_ok]
  · rw [if_neg (by simpa using hempty)]
    simp [hempty]

/-- `_binding_keys` in the place of the port; an exception, which interrupts
the request, refuses it here. -/
def port (c : ProofChecker κ) (now : Instant) (proofs : List String) :
    Except AccessError (List Members) :=
  match c.bindingKeys now proofs with
  | .ok bindings => .ok bindings
  | .error (.refused e) => .error e
  | .error (.raised _) => .error (ResourceServer.credentialError "server_error" "")

theorem port_eq_ok {proofs : List String} {bindings : List Members} :
    c.port now proofs = .ok bindings ↔ c.bindingKeys now proofs = .ok bindings := by
  unfold port
  cases c.bindingKeys now proofs with
  | ok found => simp
  | error e => cases e <;> simp

/-- The issuer with the checks of the proofs in place. -/
def guarding {ι μ : Type} (c : ProofChecker κ) (now : Instant) (issuer : CredentialIssuer ι μ) :
    CredentialIssuer ι μ :=
  { issuer with resources := { issuer.resources with bindingKeys := c.port now } }

/-- The credentials of an answered request are bound to the keys of its proofs,
one each. -/
theorem credentials_bound {ι μ : Type} {issuer : CredentialIssuer ι μ} {request : BearerRequest}
    {target : CredentialTarget} {s : IssuerState μ} {credentials : List (Credential μ)}
    (h : ((c.guarding now issuer).issueCredential now request target s).1 = .ok credentials) :
    ∃ bindings, c.bindingKeys now target.proofs = .ok bindings ∧
      List.Forall₂ Credential.BoundTo credentials bindings := by
  unfold CredentialIssuer.issueCredential at h
  split at h
  · rename_i grant hgrant
    unfold ResourceServer.credentialGrant at hgrant
    simp only [bind_eq_ok, ResourceServer.orRefuseAccess_eq_ok] at hgrant
    obtain ⟨_, _, _, _, _, _, configuration, _, bindings, hbindings, heq⟩ := hgrant
    cases heq
    have hkeys : c.bindingKeys now target.proofs = .ok bindings := port_eq_ok.mp hbindings
    have hne : bindings ≠ [] := by
      obtain ⟨hsome, hall⟩ := bindingKeys_eq_ok.mp hkeys
      rintro rfl
      exact hsome (List.forall₂_nil_right_iff.mp (mapM_eq_ok.mp hall))
    exact ⟨bindings, hkeys, CredentialIssuer.issue_bound hne h⟩
  · cases h

/-- The keys of a request: for a proof with a verified attestation, the key its
credential is bound to is one of the listed ones in every request exactly when
the proof is discerned; and the credentials are bound to the keys in the
headers of the proofs, one each. -/
theorem attestation_binds_iff (himports : EqualImports c) :
    (∀ proof, proof ≠ "" →
      ((∀ proofs bindings, proof ∈ proofs → c.bindingKeys now proofs = .ok bindings →
          ∀ keys, Listed c now proof keys →
            ∃ jwk ∈ bindings, c.HeaderKey proof jwk ∧ c.Attests keys jwk) ↔
        Discerned c now proof)) ∧
    ∀ {ι μ : Type} (issuer : CredentialIssuer ι μ) request target s credentials,
      ((c.guarding now issuer).issueCredential now request target s).1 = .ok credentials →
      ∃ bindings, c.bindingKeys now target.proofs = .ok bindings ∧
        List.Forall₂ c.HeaderKey (candidates target.proofs) bindings ∧
        List.Forall₂ Credential.BoundTo credentials bindings := by
  constructor
  · intro proof hne
    constructor
    · intro h
      by_contra hundiscerned
      obtain ⟨jwk, keys, hkey, hlisted, hattests⟩ := bindingKey_of_not_discerned hundiscerned
      have hcandidates : candidates [proof] = [proof] := by simp [candidates, hne]
      have hkeys : c.bindingKeys now [proof] = .ok [jwk] := by
        rw [bindingKeys_eq_ok, hcandidates]
        exact ⟨List.cons_ne_nil _ _, mapM_eq_ok.mpr (.cons hkey .nil)⟩
      obtain ⟨found, hfound, _, hattested⟩ := h [proof] [jwk] List.mem_cons_self hkeys keys hlisted
      obtain rfl : found = jwk := List.mem_singleton.mp hfound
      exact hattests hattested
    · intro hdiscerned proofs bindings hmem hkeys keys hlisted
      have hcandidate : proof ∈ candidates proofs :=
        List.mem_filter.mpr ⟨hmem, decide_eq_true hne⟩
      obtain ⟨jwk, hjwk, hkey⟩ := exists_of_mapM (bindingKeys_eq_ok.mp hkeys).2 hcandidate
      exact ⟨jwk, hjwk, headerKey_of_bindingKey hkey,
        attests_of_discerned himports hdiscerned hkey hlisted⟩
  · intro _ _ issuer request target s credentials h
    obtain ⟨bindings, hkeys, hbound⟩ := credentials_bound h
    exact ⟨bindings, hkeys,
      (mapM_eq_ok.mp (bindingKeys_eq_ok.mp hkeys).2).imp fun _ _ hkey => headerKey_of_bindingKey hkey,
      hbound⟩

end ProofChecker

namespace AttestationSample

def firstJwk : Members :=
  [("kty", .str "EC"), ("crv", .str "P-256"),
    ("x", .str "MKBCTNIcKUSDii11ySs3526iDZ8AiTo7Tu6KPAqv7D4"),
    ("y", .str "4Etl6SRW2YiLUrN5vfvVHuhp7x8PxltmWWlbbM4IFyM")]

def secondJwk : Members :=
  [("kty", .str "EC"), ("crv", .str "P-256"),
    ("x", .str "f83OJ3D2xF1Bg8vub9tLe1gHMzV76e8Tus9uPHvRVEU"),
    ("y", .str "x_FEzRu9m36HLN_tue659LNpXW6pCyStikYjKIWI5a0")]

def proofHeader (attestation : String) : Members :=
  [("typ", .str "jwt"), ("alg", .str "ES256"), ("jwk", .obj firstJwk),
    ("key_attestation", .str attestation)]

def attestationHeader : Members := [("alg", .str "ES256"), ("jwk", .obj secondJwk)]

def headers : Dict String Members :=
  [("bound", proofHeader "own"), ("loose", proofHeader "other"),
    ("own", attestationHeader), ("other", attestationHeader),
    ("nonce", [("typ", .str cNonceTyp), ("kid", .str "k"), ("alg", .str "RS256")])]

def attestedKeys (jwk : Members) : Members :=
  [("attested_keys", .obj [("keys", .arr [.obj jwk])])]

def payloads : Dict String Members :=
  [("bound", [("aud", .str "https://op"), ("nonce", .str "nonce")]),
    ("loose", [("aud", .str "https://op"), ("nonce", .str "nonce")]),
    ("own", attestedKeys firstJwk), ("other", attestedKeys secondJwk),
    ("nonce", [("iss", .str "https://op")])]

/-- The algorithm in the header of a token. -/
def algorithmOf (token : String) : Option String :=
  ((Dict.get headers token).bind fun header => header.get "alg").bind Json.asStr

theorem no_import_raises (_jwk : Members) (h : false = true) :
    (none : Option (String × String)) = none := by
  cases h

/-- Keys are the coordinates of a point; every token here is signed. -/
def jwt : PyJwt (String × String) where
  header token := Dict.get headers token
  payload token := Dict.get payloads token
  signed token _ algorithms := (algorithmOf token).any (algorithms.contains ·)
  publicKey _ := none
  secretKey secret := (secret, "")
  importRaises_none := no_import_raises
  signed_algorithm := by
    intro token key algorithms h
    rw [Option.any_eq_true] at h
    obtain ⟨algorithm, halgorithm, hmem⟩ := h
    obtain ⟨value, hvalue, hstr⟩ := Option.bind_eq_some_iff.mp halgorithm
    obtain ⟨header, hheader, hget⟩ := Option.bind_eq_some_iff.mp hvalue
    refine ⟨header, algorithm, hheader, ?_, by simpa using hmem⟩
    rw [hget]
    cases value with
    | str s => exact congrArg _ (congrArg _ (Option.some.inj hstr))
    | null | bool | num | arr | obj => cases hstr

def checker : ProofChecker (String × String) where
  tokens :=
    { jwt := jwt
      keys := ⟨[⟨.rs256, "k", ("", ""), true⟩], by decide⟩
      kid_ne := by decide }
  fromJwk _ jwk :=
    match (Dict.get jwk "x").bind Json.asStr, (Dict.get jwk "y").bind Json.asStr with
    | some x, some y => .ok (x, y)
    | _, _ => .error .caught
  certificateKey _ := none
  attestationJwk _ jwk :=
    ((Dict.get jwk "x").bind Json.asStr).bind fun x =>
      ((Dict.get jwk "y").bind Json.asStr).map fun y => (x, y)
  numEq s t := s == t
  algorithm := .rs256
  issuer := "https://op"

theorem equalImports : checker.EqualImports := by
  intro a b h algorithm
  simp only [checker, Json.text_of_pyEq h "x", Json.text_of_pyEq h "y"]

theorem bound : checker.bindingKeys 0 ["bound"] = .ok [firstJwk] := by rfl

theorem loose : checker.bindingKeys 0 ["loose"] = .ok [firstJwk] := by rfl

theorem listed_own : checker.Listed 0 "bound" [.obj firstJwk] :=
  ⟨"own", attestedKeys firstJwk, rfl, rfl, .inr ⟨_, rfl, rfl⟩⟩

theorem listed_other : checker.Listed 0 "loose" [.obj secondJwk] :=
  ⟨"other", attestedKeys secondJwk, rfl, rfl, .inr ⟨_, rfl, rfl⟩⟩

theorem not_attests : ¬ checker.Attests [.obj secondJwk] firstJwk := by
  intro ⟨members, hmem, algorithm, _, key, hfirst, hsecond⟩
  cases List.mem_singleton.mp hmem
  cases hfirst
  have hx := (Prod.mk.inj (Except.ok.inj hsecond)).1
  exact absurd hx (by decide)

theorem attests_own : checker.Attests [.obj firstJwk] firstJwk :=
  ⟨firstJwk, List.mem_cons_self, "ES256", by decide, _, rfl, rfl⟩

theorem discerned : checker.Discerned 0 "bound" := by
  intro claims jwk attestation attested keys hproven hattestation hclaims hlists
  left
  have hjwk : (Dict.get headers "bound").bind (Dict.get · "jwk") = some (.obj jwk) :=
    hproven.header_jwk
  cases hjwk
  cases hattestation
  cases hclaims
  rcases hlists with hlist | ⟨set, hset, hkeys⟩
  · cases hlist
  · cases hset
    cases hkeys
    exact attests_own

end AttestationSample

/-- A proof attested by name: its credential is bound to the attested key. -/
theorem ProofChecker.attestation_binds_iff_own :
    ∃ jwk ∈ [AttestationSample.firstJwk], AttestationSample.checker.HeaderKey "bound" jwk ∧
      AttestationSample.checker.Attests [.obj AttestationSample.firstJwk] jwk :=
  ((ProofChecker.attestation_binds_iff AttestationSample.equalImports).1 "bound"
    (by decide)).mpr AttestationSample.discerned ["bound"] _ List.mem_cons_self
    AttestationSample.bound _ AttestationSample.listed_own

/-- An attestation for another key covers the proof when neither JWK has a
`kid`. -/
theorem ProofChecker.unattested_key_bound :
    ¬ ∀ proof proofs bindings, proof ∈ proofs →
      AttestationSample.checker.bindingKeys 0 proofs = .ok bindings →
      ∀ keys, AttestationSample.checker.Listed 0 proof keys →
        ∃ jwk ∈ bindings, AttestationSample.checker.HeaderKey proof jwk ∧
          AttestationSample.checker.Attests keys jwk := by
  intro h
  obtain ⟨jwk, hjwk, _, hattests⟩ := h "loose" ["loose"] _ List.mem_cons_self
    AttestationSample.loose _ AttestationSample.listed_other
  obtain rfl : jwk = AttestationSample.firstJwk := List.mem_singleton.mp hjwk
  exact AttestationSample.not_attests hattests

end PurIdentityServer

import PurIdentityServer.Infrastructure.Jwt

/-!
# Embedded keys — tokens that carry the key they are verified with

A presentation (`_verify_vp_token`) and a credential proof
(`_decode_proof`) name their key in their own header: the algorithm is one
of a few, the `jwk` is imported for it, and the token is decoded under
that key. What is accepted is said once (`decodeEmbedded_eq_some`).
-/

namespace PurIdentityServer

open Effects

/-- What `algorithm.from_jwk` raises: an exception both verifiers catch
(`PyJWTError`, `ValueError`, `TypeError`), or another one. -/
inductive ImportError where
  | caught | other
  deriving DecidableEq, Repr

/-- PyJWT with the import of a JWK for an algorithm, for public keys `κ`. -/
structure KeyImports (κ : Type) where
  jwt : PyJwt κ
  /-- `get_default_algorithms().get(alg).from_jwk(json.dumps(jwk))` -/
  fromJwk : (algorithm : String) → Members → Except ImportError κ

namespace KeyImports

variable {κ : Type} (imports : KeyImports κ)

/-- The claims of a token decoded under the `jwk` of its header, with that
`jwk`. -/
def decodeEmbedded (allowed : List String) (o : DecodeOptions) (now : Instant) (token : String) :
    Except Raised (Option (Members × Members)) :=
  match imports.jwt.header token with
  | none => .ok none
  | some header =>
      match header.get "alg", header.get "jwk" with
      | some (.str algorithm), some (.obj jwk) =>
          if algorithm ∈ allowed then
            match imports.fromJwk algorithm jwk with
            | .error .caught => .ok none
            | .error .other => .error (.other "from_jwk")
            | .ok key =>
                match imports.jwt.decode o now token key [algorithm] with
                | .ok claims => .ok (some (claims, jwk))
                | .error _ => .ok none
          else .ok none
      | _, _ => .ok none

/-- The token verifies under the key of its own header, and its claims are
valid. -/
structure Embedded (allowed : List String) (o : DecodeOptions) (now : Instant) (token : String)
    (claims jwk : Members) : Prop where
  signed : ∃ header algorithm key, imports.jwt.header token = some header ∧
    header.get "alg" = some (.str algorithm) ∧ algorithm ∈ allowed ∧
    header.get "jwk" = some (.obj jwk) ∧ imports.fromJwk algorithm jwk = .ok key ∧
    imports.jwt.signed token key [algorithm] = true
  payload : imports.jwt.payload token = some claims
  valid : PyJwt.validateClaims o now claims = .ok ()

variable {imports} {allowed : List String} {o : DecodeOptions} {now : Instant} {token : String}
  {claims jwk : Members}

theorem decodeEmbedded_eq_some :
    imports.decodeEmbedded allowed o now token = .ok (some (claims, jwk)) ↔
      imports.Embedded allowed o now token claims jwk := by
  constructor
  · intro h
    unfold decodeEmbedded at h
    split at h
    · cases h
    · rename_i header hheader
      split at h
      · rename_i algorithm found halg hjwk
        split at h
        · rename_i hallowed
          split at h
          · cases h
          · cases h
          · rename_i key hkey
            split at h
            · rename_i decoded hdecode
              cases h
              obtain ⟨hpayload, hsigned, hvalid⟩ := (PyJwt.decode_eq_ok _).mp hdecode
              exact ⟨⟨header, algorithm, key, hheader, halg, hallowed, hjwk, hkey, hsigned⟩,
                hpayload, hvalid⟩
            · cases h
        · cases h
      · cases h
  · intro ⟨⟨header, algorithm, key, hheader, halg, hallowed, hjwk, hkey, hsigned⟩, hpayload, hvalid⟩
    have hdecode := (PyJwt.decode_eq_ok imports.jwt).mpr ⟨hpayload, hsigned, hvalid⟩
    unfold decodeEmbedded
    simp only [hheader, halg, hjwk, hkey, hdecode, if_pos hallowed]

/-- The `jwk` a token was decoded with is that of its header. -/
theorem Embedded.header_jwk (h : imports.Embedded allowed o now token claims jwk) :
    (imports.jwt.header token).bind (Dict.get · "jwk") = some (.obj jwk) := by
  obtain ⟨header, _, _, hheader, _, _, hjwk, _⟩ := h.signed
  rw [hheader]
  exact hjwk

end KeyImports

end PurIdentityServer

import PurIdentityServer.Application.Token
import PurIdentityServer.Infrastructure.JweRoundTrip

/-!
# IdTokenEncryption — the encrypted id_token of a client

`encryptIdTokenForClient` looks up the shared secret of a symmetric
algorithm and leaves the rest to the encrypter. Here the encrypter is the
one of `Jwe`, under any entropy, and what it answers is what the use case
answers (`run_encryptIdTokenForClient`); the client decrypts it with the
private key of its JWK Set or with the key derived from its secret.
-/

namespace PurIdentityServer

open Effects

namespace Jwe

/-- How an exception of the encrypter reaches a use case. -/
def JweError.raised : JweError → Raised
  | .jweUnavailable message => .jweUnavailable message
  | .valueError message => .other message
  | .typeError message => .other message
  | .invalidTag => .other "InvalidTag"
  | .invalidUnwrap => .other "InvalidUnwrap"
  | .unsupportedAlgorithm => .other "UnsupportedAlgorithm"
  | .attributeError => .other "AttributeError"

/-- The ports of a server whose encrypter is `JWEIdTokenEncrypter`. -/
def withEncrypter (lib : Cryptography) (p : Platform) (entropy : Entropy) (ports : Ports) :
    Ports :=
  { ports with
    encryptIdToken := fun idToken client sharedSecret =>
      (encryptIdToken lib p entropy idToken client sharedSecret).mapError JweError.raised }

/-- The shared secret the use case hands to the encrypter: the one the client's ciphertext
holds, none for RSA. -/
def SharedSecret (ports : Ports) (client : Client) (secretCipher : Bool)
    (algorithm : JWEKeyManagementAlgorithm) (sharedSecret : String) : Prop :=
  if algorithm.isAsymmetric then sharedSecret = ""
  else secretCipher = true ∧ client.clientSecretCiphertext ≠ "" ∧
    ports.decryptSecret client.clientSecretCiphertext = .ok sharedSecret

/-- The client is configured for the algorithm and the method. -/
structure Configured (client : Client) (algorithm : JWEKeyManagementAlgorithm)
    (method : JWEEncryptionMethod) : Prop where
  algorithm : client.idTokenEncryptedResponseAlg = algorithm.value
  method : configuredMethod client.idTokenEncryptedResponseEnc = .ok method

variable {lib : Cryptography} {p : Platform} {ε : Type}

theorem ofValue?_algorithm (algorithm : JWEKeyManagementAlgorithm) :
    JWEKeyManagementAlgorithm.ofValue? algorithm.value = some algorithm := by
  cases algorithm <;> decide

theorem value_ne_empty (algorithm : JWEKeyManagementAlgorithm) : algorithm.value ≠ "" := by
  cases algorithm <;> decide

/-- Both modules resolve the same methods. -/
theorem resolveMethod_of_configured {configured : String} {method : JWEEncryptionMethod}
    (h : configuredMethod configured = .ok method) : ∃ name, resolveMethod configured = some name := by
  unfold configuredMethod at h
  unfold resolveMethod
  split at h
  · rename_i hempty
    exact ⟨_, if_pos hempty⟩
  · rename_i hnonempty
    rw [if_neg hnonempty]
    split at h
    · rename_i found hfound
      have hvalue : found.value = configured := by
        simpa using List.find?_some hfound
      refine ⟨configured, if_pos ?_⟩
      rw [← JWEEncryptionMethod.values_eq, ← hvalue]
      exact List.mem_map_of_mem (List.mem_of_find?_eq_some hfound)
    · cases h

theorem run_decryptSecret {ports : Ports} {ciphertext secret : String} {w : World}
    (h : ports.decryptSecret ciphertext = .ok secret) {entropy : Entropy} :
    (ask (.decryptSecret ciphertext) >>= orRaise : M ε String).run
      (exec (withEncrypter lib p entropy ports)) w = (.ok secret, w) := by
  show (orRaise (ports.decryptSecret ciphertext) : M ε String).run
    (exec (withEncrypter lib p entropy ports)) w = _
  rw [h]
  rfl

/-- The use case hands the shared secret to the encrypter and answers what it answers. -/
theorem run_encryptIdTokenForClient {ports : Ports} (entropy : Entropy) (w : World)
    {client : Client} {secretCipher : Bool} {algorithm : JWEKeyManagementAlgorithm}
    {method : JWEEncryptionMethod} {sharedSecret : String} (idToken : String)
    (hconfigured : Configured client algorithm method)
    (hsecret : SharedSecret ports client secretCipher algorithm sharedSecret) :
    (encryptIdTokenForClient idToken client secretCipher true : M ε String).run
        (exec (withEncrypter lib p entropy ports)) w =
      (orRaise ((encryptIdToken lib p entropy idToken client sharedSecret).mapError
        JweError.raised) : M ε String).run (exec (withEncrypter lib p entropy ports)) w := by
  have halg : client.idTokenEncryptedResponseAlg ≠ "" := by
    rw [hconfigured.algorithm]
    exact value_ne_empty algorithm
  have hfound : JWEKeyManagementAlgorithm.ofValue? client.idTokenEncryptedResponseAlg
      = some algorithm := by
    rw [hconfigured.algorithm]
    exact ofValue?_algorithm algorithm
  obtain ⟨name, hname⟩ := resolveMethod_of_configured hconfigured.method
  unfold encryptIdTokenForClient resolveIdTokenEncryption
  simp only [halg, if_false, not_true_eq_false, hfound, hname]
  unfold SharedSecret at hsecret
  cases hasymmetric : algorithm.isAsymmetric with
  | true =>
      rw [if_pos hasymmetric] at hsecret
      subst hsecret
      rfl
  | false =>
      rw [hasymmetric, if_neg Bool.false_ne_true] at hsecret
      obtain ⟨rfl, hciphertext, hdecrypt⟩ := hsecret
      simp only [Bool.false_eq_true, if_false, not_true_eq_false, hciphertext, or_self]
      rw [Prog.run_bind, Prog.run_bind, run_decryptSecret hdecrypt]
      rfl

/-- The client's own side of its `id_token`: the private key of the RSA key of its JWK Set,
or the key derived from the secret its ciphertext holds. -/
def ClientDecrypts (lib : Cryptography) (p : Platform) (ports : Ports) (client : Client)
    (secretCipher : Bool) (algorithm : JWEKeyManagementAlgorithm)
    (method : JWEEncryptionMethod) (sharedKek : Bytes) (rsaPrivateKey : Option lib.PrivateKey) :
    Prop :=
  ∃ sharedSecret, SharedSecret ports client secretCipher algorithm sharedSecret ∧
    ClientSide lib p client.jwks sharedSecret algorithm method sharedKek rsaPrivateKey

/-- The `id_token` a use case encrypts for a client is decrypted by the client. -/
theorem idToken_decrypted {ports : Ports} (entropy : Entropy) (w : World) {client : Client}
    {secretCipher : Bool} {algorithm : JWEKeyManagementAlgorithm} {method : JWEEncryptionMethod}
    {sharedKek : Bytes} {rsaPrivateKey : Option lib.PrivateKey} (idToken : String)
    (hconfigured : Configured client algorithm method)
    (hclient : ClientDecrypts lib p ports client secretCipher algorithm method sharedKek
      rsaPrivateKey) :
    ∃ segments : Segments, segments.WellFormed ∧
      (encryptIdTokenForClient idToken client secretCipher true : M ε String).run
        (exec (withEncrypter lib p entropy ports)) w = (.ok segments.compact, w) ∧
      decryptCompact lib segments.compact algorithm method sharedKek rsaPrivateKey
        = .ok (Jwks.utf8Encode idToken) := by
  obtain ⟨sharedSecret, hsecret, hside⟩ := hclient
  obtain ⟨segments, hformed, hseal, hopen⟩ :=
    decryptCompact_sealIdToken entropy hside idToken
  have hencrypt : encryptIdToken lib p entropy idToken client sharedSecret
      = .ok segments.compact := by
    have halgorithm : configuredAlgorithm client.idTokenEncryptedResponseAlg = .ok algorithm := by
      rw [hconfigured.algorithm, configuredAlgorithm, if_neg (value_ne_empty algorithm),
        ofValue?_algorithm]
    unfold encryptIdToken
    rw [halgorithm, hconfigured.method]
    exact hseal
  refine ⟨segments, hformed, ?_, hopen⟩
  rw [run_encryptIdTokenForClient entropy w idToken hconfigured hsecret, hencrypt]
  rfl

namespace Transparent

/-- A client whose `id_token` is encrypted under a key wrapped with its secret. -/
def wrapped : Client where
  clientId := "rp"
  clientSecretCiphertext := "sealed"
  idTokenEncryptedResponseAlg := "A128KW"
  idTokenEncryptedResponseEnc := "A256GCM"

theorem wrapped_configured : Configured wrapped .a128kw .a256gcm where
  algorithm := by rfl
  method := by rfl

theorem wrapped_decrypts : ClientDecrypts cryptography PurIdentityServer.Sample.platform
    PurIdentityServer.Sample.ports wrapped true .a128kw .a256gcm
    (deriveContentKey cryptography "secret" 16) none := by
  refine ⟨"secret", ?_, .secret (by rfl) (by decide)⟩
  exact ⟨rfl, by decide, by rfl⟩

end Transparent

end Jwe

end PurIdentityServer

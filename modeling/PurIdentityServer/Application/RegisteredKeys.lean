import PurIdentityServer.Application.IdTokenEncryption
import PurIdentityServer.Application.RegistrationOutcomes

/-!
# RegisteredKeys — the key an `id_token` is encrypted with

The registration of a client looks for an RSA key that may encrypt; an
issuance scans the same list again and takes the first RSA key it can
read, whatever its use. The two agree where that first key is one the
registration counts (`encryption_key_agreement`).
-/

namespace PurIdentityServer

open Effects Effects.Raising

/-! ## The clients of a run -/

namespace RegistrationUseCase

variable {κ : Type} {useCase : RegistrationUseCase κ}

/-- Every client of `w'` was in `w`, or was accepted. -/
def AddsAccepted (useCase : RegistrationUseCase κ) (w w' : RegistryWorld) : Prop :=
  ∀ client ∈ w'.clients.rows, client ∈ w.clients.rows ∨ useCase.Accepted client

theorem AddsAccepted.same {w w' : RegistryWorld} (h : w'.clients = w.clients) :
    AddsAccepted useCase w w' := by
  intro client hmem
  rw [h] at hmem
  exact .inl hmem

theorem AddsAccepted.save {w w' : RegistryWorld}
    (h : ∃ client, useCase.Accepted client ∧ w'.clients = w.clients.save client) :
    AddsAccepted useCase w w' := by
  obtain ⟨saved, haccepted, hsave⟩ := h
  intro client hmem
  rw [hsave] at hmem
  rcases Table.mem_save hmem with rfl | hold
  · exact .inr haccepted
  · exact .inl hold

/-- One request adds no client but one it accepted. -/
theorem addsAccepted_exec (w : RegistryWorld) (call : RegistryCall κ) :
    AddsAccepted useCase w (useCase.exec w call) := by
  cases call with
  | register around request =>
      apply state_of_wp
      exact wp_mono (wp_register_saves request w) (fun _ _ => .save) fun _ _ => .same
  | read request =>
      apply state_of_wp
      refine Raising.wp_bind.mpr (wp_mono (wp_resolveManaged request w) ?_ ?_)
      · rintro found w' ⟨rfl, -⟩
        exact .same rfl
      · rintro _ w' rfl
        exact .same rfl
  | update around request =>
      apply state_of_wp
      exact wp_mono (wp_update_saves request w) (fun _ _ => .save) fun _ _ => .same
  | delete request =>
      apply state_of_wp
      refine Raising.wp_bind.mpr (wp_mono (wp_resolveManaged _ w) ?_ ?_)
      · rintro found w' ⟨rfl, -⟩ client hmem
        exact .inl (List.mem_filter.mp hmem).1
      · rintro _ w' rfl
        exact .same rfl

/-- The clients of a run were there before it, or were accepted. -/
theorem addsAccepted_run (calls : List (RegistryCall κ)) (start : RegistryWorld) :
    AddsAccepted useCase start (useCase.run calls start) := by
  induction calls generalizing start with
  | nil => exact .same rfl
  | cons call rest ih =>
      intro client hmem
      rcases ih (useCase.exec start call) client hmem with hstored | haccepted
      · exact addsAccepted_exec start call client hstored
      · exact .inr haccepted

end RegistrationUseCase

namespace Jwe

open KeyValidation (kty use positiveInt bitLength minRsaModulusBits)
open Jwks (utf8Encode)

variable {lib : Cryptography} {p : Platform}

/-! ## The scan of an issuance -/

/-- The issuance can read the numbers of an RSA key. -/
def readsNumbers (p : Platform) : Json → Bool
  | .obj key => (rsaNumbers p key).isSome
  | _ => false

/-- The loop of `rsa_public_key_from_jwks` returns at the key. -/
inductive Takes (p : Platform) : List Json → Members → Prop
  | here {key : Members} {rest : List Json} (read : (rsaNumbers p key).isSome) :
      Takes p (.obj key :: rest) key
  | later {other key : Members} {rest : List Json} (passed : rsaNumbers p other = none)
      (taken : Takes p rest key) : Takes p (.obj other :: rest) key

theorem Takes.numbers (lib : Cryptography) {jwks : List Json} {key : Members} (h : Takes p jwks key) :
    ∃ n e, rsaNumbers p key = some (n, e) ∧
      rsaPublicKeyFromJwks lib p jwks = lib.rsaPublicKey e n := by
  induction h with
  | here read =>
      obtain ⟨⟨n, e⟩, hnumbers⟩ := Option.isSome_iff_exists.mp read
      refine ⟨n, e, hnumbers, ?_⟩
      unfold rsaPublicKeyFromJwks
      rw [hnumbers]
  | later passed _ ih =>
      obtain ⟨n, e, hnumbers, hkey⟩ := ih
      refine ⟨n, e, hnumbers, ?_⟩
      unfold rsaPublicKeyFromJwks
      rw [passed]
      exact hkey

/-- Among keys, the one the loop returns at is the first whose numbers it reads. -/
theorem takes_iff_find? {keys : List Members} {key : Members} :
    Takes p (keys.map .obj) key ↔ (keys.map Json.obj).find? (readsNumbers p) = some (.obj key) := by
  induction keys with
  | nil =>
      constructor
      · intro h
        cases h
      · intro h
        cases h
  | cons first rest ih =>
      rw [List.map_cons, List.find?_cons]
      cases hnumbers : rsaNumbers p first with
      | none =>
          have hread : readsNumbers p (.obj first) = false := by simp [readsNumbers, hnumbers]
          rw [hread, ← ih]
          constructor
          · intro h
            cases h with
            | here read =>
                rw [hnumbers] at read
                cases read
            | later _ taken => exact taken
          · exact .later hnumbers
      | some numbers =>
          have hread : readsNumbers p (.obj first) = true := by simp [readsNumbers, hnumbers]
          rw [hread]
          constructor
          · intro h
            cases h with
            | here _ => rfl
            | later passed _ =>
                rw [hnumbers] at passed
                cases passed
          · intro h
            cases h
            exact .here (by rw [hnumbers]; rfl)

/-! ## The issuances of a client -/

/-- The key is one `require_encryption_rsa_key` counts. -/
def UsableForEncryption (p : Platform) (key : Members) : Prop :=
  kty p key = "RSA" ∧ use key ≠ "sig" ∧
    ∃ modulus, positiveInt (Dict.get key "n") = some modulus ∧
      minRsaModulusBits ≤ bitLength modulus

/-- Every issuance for the client encrypts its `id_token`, and takes the key `key` for it. -/
structure EncryptsWith (lib : Cryptography) (p : Platform) (client : Client) (key : Members) :
    Prop where
  taken : Takes p client.jwks key
  encrypts : ∀ (ε : Type) (entropy : Entropy) (ports : Ports) (w : World) (secretCipher : Bool)
    (idToken : String), ∃ token,
      (encryptIdTokenForClient idToken client secretCipher true : M ε String).run
        (exec (withEncrypter lib p entropy ports)) w = (.ok token, w)

/-- The first RSA key that an issuance can read is usable, and its exponent is one of an RSA
key. -/
def FirstKeyUsable (p : Platform) (jwks : List Json) : Prop :=
  ∃ key n e, jwks.find? (readsNumbers p) = some (.obj key) ∧ rsaNumbers p key = some (n, e) ∧
    UsableForEncryption p key ∧ e % 2 = 1 ∧ 3 ≤ e ∧ e < n

/-- What is sealed under a content key of the right length is a token. -/
theorem sealContent_ok (lib : Cryptography) (entropy : Entropy) {method : JWEEncryptionMethod}
    {cek : Bytes} (hcek : cek.length = method.cekSize) {header : String}
    (hheader : IsBase64Url header) (encryptedKey plaintext : Bytes) :
    ∃ token, sealContent lib entropy method header cek encryptedKey plaintext = .ok token := by
  obtain ⟨iv, ciphertext, tag, hencrypt, -⟩ :=
    decryptContent_encryptContent lib entropy hcek (utf8Encode header) plaintext
  unfold sealContent
  rw [encodeAscii_isBase64Url hheader]
  dsimp only [bind, Except.bind]
  rw [hencrypt]
  exact ⟨_, rfl⟩

/-- An `id_token` is encrypted for RSA exactly where the JWK Set gives a key. -/
theorem sealIdToken_asymmetric {entropy : Entropy} {idToken sharedSecret : String}
    {jwks : List Json} {algorithm : JWEKeyManagementAlgorithm} {method : JWEEncryptionMethod}
    (hasymmetric : algorithm.isAsymmetric = true) :
    (∃ token, sealIdToken lib p entropy idToken jwks algorithm method sharedSecret = .ok token) ↔
      ∃ key, rsaPublicKeyFromJwks lib p jwks = .ok key := by
  unfold sealIdToken sealKey
  simp only [hasymmetric, if_true]
  constructor
  · rintro ⟨token, h⟩
    obtain ⟨keys, hkeys, -⟩ := bind_eq_ok.mp h
    obtain ⟨key, hkey, -⟩ := bind_eq_ok.mp hkeys
    exact ⟨key, hkey⟩
  · rintro ⟨key, hkey⟩
    have hdrawn : (entropy.contentKey method.cekSize).length = method.cekSize :=
      entropy.contentKey_length _
    obtain ⟨encrypted, hencrypted⟩ := oaep_contentKey (oaep_size algorithm) hdrawn
      (rsaPublicKeyFromJwks_bits hkey) entropy.seed
    rw [hkey]
    dsimp only [bind, Except.bind]
    rw [hencrypted]
    exact sealContent_ok lib entropy hdrawn (protectedB64_isBase64Url _) _ _

/-- The use case answers a token where the encrypter does. -/
theorem run_orRaise {ε : Type} {x : Except JweError String} {ports : Ports} {w : World} :
    (∃ token, (orRaise (x.mapError JweError.raised) : M ε String).run (exec ports) w =
      (.ok token, w)) ↔
      ∃ token, x = .ok token := by
  cases x with
  | ok token => exact ⟨fun _ => ⟨token, rfl⟩, fun _ => ⟨token, rfl⟩⟩
  | error e =>
      constructor
      · rintro ⟨token, h⟩
        cases h
      · rintro ⟨token, h⟩
        cases h

/-- An issuance for a client with an RSA algorithm answers a token exactly where its JWK Set
gives a key. -/
theorem issuance_iff {ε : Type} {client : Client} (entropy : Entropy) (ports : Ports) (w : World)
    (secretCipher : Bool) (idToken : String) {algorithm : JWEKeyManagementAlgorithm}
    {method : JWEEncryptionMethod} (hasymmetric : algorithm.isAsymmetric = true)
    (hconfigured : Configured client algorithm method) :
    (∃ token, (encryptIdTokenForClient idToken client secretCipher true : M ε String).run
        (exec (withEncrypter lib p entropy ports)) w = (.ok token, w)) ↔
      ∃ key, rsaPublicKeyFromJwks lib p client.jwks = .ok key := by
  have hsecret : SharedSecret ports client secretCipher algorithm "" := by
    unfold SharedSecret
    rw [if_pos hasymmetric]
  have halgorithm : configuredAlgorithm client.idTokenEncryptedResponseAlg = .ok algorithm := by
    rw [hconfigured.algorithm, configuredAlgorithm, if_neg (value_ne_empty algorithm),
      ofValue?_algorithm]
  have hencrypt : encryptIdToken lib p entropy idToken client "" =
      sealIdToken lib p entropy idToken client.jwks algorithm method "" := by
    unfold encryptIdToken
    rw [halgorithm, hconfigured.method]
    rfl
  rw [run_encryptIdTokenForClient entropy w idToken hconfigured hsecret, run_orRaise, hencrypt,
    sealIdToken_asymmetric hasymmetric]

end Jwe

namespace RegistrationUseCase

open Registration
open Jwe

variable {κ : Type} {useCase : RegistrationUseCase κ} {client : Client}

/-! ## The clients that are accepted -/

theorem checkKeys_ok_iff {metadata : RegistrationMetadata}
    {check : List Members → Option String} :
    checkKeys useCase metadata check = .ok () ↔
      ∃ keys, keysFromJwksJson useCase.platform metadata.jwks = .ok keys ∧ check keys = none := by
  refine bind_eq_ok.trans (exists_congr fun keys => and_congr_right fun _ => ?_)
  cases check keys with
  | none => exact ⟨fun _ => rfl, fun _ => rfl⟩
  | some problem => exact ⟨nofun, nofun⟩

/-- Metadata with an RSA algorithm name a method, and hold a key the algorithm may use. -/
theorem validateEncryptionMaterial_asymmetric {metadata : RegistrationMetadata}
    (h : validateEncryptionMaterial useCase metadata = .ok ())
    (halgorithm : metadata.idTokenEncryptedResponseAlg ∈ asymmetricEncryptionValues) :
    (metadata.idTokenEncryptedResponseEnc = "" ∨
      metadata.idTokenEncryptedResponseEnc ∈ jweEncryptionMethods) ∧
    ∃ keys, keysFromJwksJson useCase.platform metadata.jwks = .ok keys ∧
      KeyValidation.requireEncryptionRsaKey useCase.platform keys = none := by
  have hne : metadata.idTokenEncryptedResponseAlg ≠ "" := by
    intro hempty
    rw [hempty] at halgorithm
    exact absurd halgorithm (by decide)
  unfold validateEncryptionMaterial at h
  dsimp only at h
  rw [if_neg (fun hboth => hne hboth.1), if_neg hne] at h
  split at h
  · cases h
  · rename_i hmethod
    refine ⟨?_, checkKeys_ok_iff.mp h⟩
    by_cases hempty : metadata.idTokenEncryptedResponseEnc = ""
    · exact .inl hempty
    · by_contra hunknown
      exact hmethod ⟨hempty, fun hmem => hunknown (.inr hmem)⟩

/-- Metadata with an RSA algorithm and no method pass where their keys do. -/
theorem validateEncryptionMaterial_of_keys {metadata : RegistrationMetadata} {keys : List Members}
    (halgorithm : metadata.idTokenEncryptedResponseAlg = JWEKeyManagementAlgorithm.rsaOaep.value)
    (hmethod : metadata.idTokenEncryptedResponseEnc = "")
    (hkeys : keysFromJwksJson useCase.platform metadata.jwks = .ok keys)
    (husable : KeyValidation.requireEncryptionRsaKey useCase.platform keys = none) :
    validateEncryptionMaterial useCase metadata = .ok () := by
  have hcheck : checkKeys useCase metadata
      (KeyValidation.requireEncryptionRsaKey useCase.platform) = .ok () :=
    checkKeys_ok_iff.mpr ⟨keys, hkeys, husable⟩
  unfold validateEncryptionMaterial
  rw [halgorithm, hmethod, hcheck]
  rfl

/-- The configuration that the members of an accepted client give. -/
theorem configured_of_values (halgorithm : client.idTokenEncryptedResponseAlg ∈
      asymmetricEncryptionValues)
    (hmethod : client.idTokenEncryptedResponseEnc = "" ∨
      client.idTokenEncryptedResponseEnc ∈ jweEncryptionMethods) :
    ∃ algorithm method, algorithm.isAsymmetric = true ∧ Configured client algorithm method := by
  have hvalue : ∃ algorithm : JWEKeyManagementAlgorithm, algorithm.isAsymmetric = true ∧
      client.idTokenEncryptedResponseAlg = algorithm.value := by
    obtain ⟨algorithm, hmem, heq⟩ := List.mem_map.mp halgorithm
    refine ⟨algorithm, ?_, heq.symm⟩
    revert hmem
    cases algorithm <;> decide
  obtain ⟨algorithm, hasymmetric, halgorithm⟩ := hvalue
  have hconfigured : ∃ method,
      Jwe.configuredMethod client.idTokenEncryptedResponseEnc = .ok method := by
    unfold Jwe.configuredMethod
    rcases hmethod with hempty | hmem
    · exact ⟨_, if_pos hempty⟩
    · rw [← Jwe.JWEEncryptionMethod.values_eq] at hmem
      obtain ⟨method, -, heq⟩ := List.mem_map.mp hmem
      rw [← heq, Jwe.JWEEncryptionMethod.ofValue?_value]
      refine ⟨method, ?_⟩
      rw [if_neg]
      cases method <;> decide
  obtain ⟨method, hmethod⟩ := hconfigured
  exact ⟨algorithm, method, hasymmetric, halgorithm, hmethod⟩

/-- What an accepted client with an RSA algorithm stores. -/
theorem accepted_encryption (h : useCase.Accepted client)
    (halgorithm : client.idTokenEncryptedResponseAlg ∈ asymmetricEncryptionValues) :
    ∃ keys : List Members, client.jwks = keys.map .obj ∧
      KeyValidation.requireEncryptionRsaKey useCase.platform keys = none ∧
      ∃ algorithm method, algorithm.isAsymmetric = true ∧ Configured client algorithm method := by
  obtain ⟨around, raw, kept, metadata, secretHash, token, hvalid, hclient⟩ := h
  obtain ⟨_, -, hclient⟩ := bind_eq_ok.mp hclient
  obtain ⟨keys, hkeys, hclient⟩ := bind_eq_ok.mp hclient
  obtain ⟨_, -, hclient⟩ := bind_eq_ok.mp hclient
  cases hclient
  obtain ⟨_, -, hvalid⟩ := bind_eq_ok.mp hvalid
  obtain ⟨parsed, -, hvalid⟩ := bind_eq_ok.mp hvalid
  obtain ⟨_, hchecks, hvalid⟩ := bind_eq_ok.mp hvalid
  cases hvalid
  iterate 5 obtain ⟨_, -, hchecks⟩ := bind_eq_ok.mp hchecks
  obtain ⟨_, hencryption, -⟩ := bind_eq_ok.mp hchecks
  obtain ⟨hmethod, keys', hkeys', husable⟩ :=
    validateEncryptionMaterial_asymmetric hencryption halgorithm
  rw [hkeys] at hkeys'
  cases hkeys'
  exact ⟨keys, rfl, husable, configured_of_values halgorithm hmethod⟩

/-- Of an accepted client with an RSA algorithm, every issuance encrypts with a usable key exactly
where the first key it can read is one. -/
theorem encryptsWith_usable_iff (lib : Cryptography) (h : useCase.Accepted client)
    (halgorithm : client.idTokenEncryptedResponseAlg ∈ asymmetricEncryptionValues) :
    (∃ key, EncryptsWith lib useCase.platform client key ∧
      UsableForEncryption useCase.platform key) ↔
      FirstKeyUsable useCase.platform client.jwks := by
  obtain ⟨keys, hjwks, -, algorithm, method, hasymmetric, hconfigured⟩ :=
    accepted_encryption h halgorithm
  constructor
  · rintro ⟨key, ⟨htaken, hencrypts⟩, husable⟩
    obtain ⟨n, e, hnumbers, hlookup⟩ := htaken.numbers lib
    have hissued := hencrypts Empty Transparent.entropy PurIdentityServer.Sample.ports
      { clock := 0 } false ""
    rw [issuance_iff _ _ _ _ _ hasymmetric hconfigured] at hissued
    obtain ⟨built, hbuilt⟩ := hissued
    rw [hlookup] at hbuilt
    have hexponent := (rsaPublicKey_accepted hbuilt).1
    rw [hjwks, takes_iff_find?, ← hjwks] at htaken
    exact ⟨key, n, e, htaken, hnumbers, husable, hexponent⟩
  · rintro ⟨key, n, e, hfirst, hnumbers, husable, hodd, hthree, hlt⟩
    have htaken : Takes useCase.platform client.jwks key := by
      rw [hjwks, takes_iff_find?, ← hjwks]
      exact hfirst
    obtain ⟨n', e', hnumbers', hlookup⟩ := htaken.numbers lib
    rw [hnumbers] at hnumbers'
    cases hnumbers'
    refine ⟨key, ⟨htaken, ?_⟩, husable⟩
    intro ε entropy ports w secretCipher idToken
    rw [issuance_iff _ _ _ _ _ hasymmetric hconfigured, hlookup]
    obtain ⟨built, hbuilt, -⟩ := lib.rsaPublicKey_ok e n hodd hthree hlt
    exact ⟨built, hbuilt⟩

/-- After any run every new client was accepted; and every issuance for an accepted client with an
RSA algorithm encrypts with a key of its JWK Set that the registration counts as usable, if and
only if the first RSA key it can read is usable and has the exponent of an RSA key. -/
theorem encryption_key_agreement (useCase : RegistrationUseCase κ) (lib : Cryptography)
    (calls : List (RegistryCall κ)) (start : RegistryWorld) :
    (∀ client ∈ (useCase.run calls start).clients.rows,
      client ∈ start.clients.rows ∨ useCase.Accepted client) ∧
    ∀ client, useCase.Accepted client →
      client.idTokenEncryptedResponseAlg ∈ asymmetricEncryptionValues →
      ((∃ key, EncryptsWith lib useCase.platform client key ∧
          UsableForEncryption useCase.platform key) ↔
        FirstKeyUsable useCase.platform client.jwks) := by
  refine ⟨addsAccepted_run calls start, ?_⟩
  intro client haccepted halgorithm
  exact encryptsWith_usable_iff lib haccepted halgorithm

end RegistrationUseCase

/-! ## A key for signatures before the one for encryption -/

namespace RegistrationUseCase.Sample

open Registration Jwe

/-- The base64url of the modulus `2 ^ 2047`. -/
def modulusText : String := String.ofList ('g' :: List.replicate 341 'A')

/-- An RSA key, from its use and its exponent. -/
def rsaKey (key : String × String) : Members :=
  [("e", .str key.2), ("kty", .str "RSA"), ("n", .str modulusText), ("use", .str key.1)]

def rsaKeyText (key : String × String) : String :=
  "\x7b\"e\":\"" ++ key.2 ++ "\",\"kty\":\"RSA\",\"n\":\"" ++ modulusText ++
    "\",\"use\":\"" ++ key.1 ++ "\"\x7d"

def rsaKeysText (keys : List (String × String)) : String :=
  "\x7b\"keys\":[" ++ Text.join "," (keys.map rsaKeyText) ++ "]\x7d"

/-- The server, with a library that writes and reads these keys. -/
def keyServer (keys : List (String × String)) : RegistrationUseCase Unit :=
  { useCase with
    platform :=
      { PurIdentityServer.Sample.platform with
        jsonDumps := fun _ => rsaKeysText keys
        jsonLoads := fun text =>
          if text = rsaKeysText keys then
            some (.obj [("keys", .arr (keys.map fun key => .obj (rsaKey key)))])
          else none } }

/-- The metadata of a client whose `id_token` is encrypted for one of the keys. -/
def recipient (keys : List (String × String)) : Json :=
  .obj [("grant_types", .arr [.str "refresh_token"]),
    ("id_token_encrypted_response_alg", .str "RSA-OAEP"),
    ("jwks", .obj [("keys", .arr (keys.map fun key => .obj (rsaKey key)))])]

/-- The client is accepted with the keys. -/
def AcceptsKeys (keys : List (String × String)) (client : Client) : Prop :=
  (keyServer keys).Accepted client ∧
    client.idTokenEncryptedResponseAlg ∈ asymmetricEncryptionValues ∧
    client.jwks = keys.map fun key => .obj (rsaKey key)

/-- The bytes of `2 ^ (8 * k + 23)`. -/
def powerBytes (k : Nat) : List UInt8 := 128 :: 0 :: 0 :: List.replicate k 0

theorem encode_zeros (k : Nat) :
    Base64.encode (List.replicate (3 * k + 1) 0) = List.replicate (4 * k + 2) 'A' := by
  have hzero : Base64.digit 0 = 'A' := by decide
  induction k with
  | zero => exact congrArg₂ (fun c d => [c, d]) hzero hzero
  | succ k ih =>
      have hbytes : List.replicate (3 * (k + 1) + 1) (0 : UInt8) =
          0 :: 0 :: 0 :: List.replicate (3 * k + 1) 0 := rfl
      have hdigits : List.replicate (4 * (k + 1) + 2) 'A' =
          'A' :: 'A' :: 'A' :: 'A' :: List.replicate (4 * k + 2) 'A' := rfl
      rw [hbytes, hdigits, Base64.encode, ih]
      exact congrArg (fun c => c :: c :: c :: c :: _) hzero

theorem encode_powerBytes (k : Nat) :
    Base64.encode (powerBytes (3 * k + 1)) = 'g' :: List.replicate (4 * k + 5) 'A' := by
  have hfirst : Base64.digit 32 = 'g' := by decide
  have hzero : Base64.digit 0 = 'A' := by decide
  have hdigits : List.replicate (4 * k + 5) 'A' =
      'A' :: 'A' :: 'A' :: List.replicate (4 * k + 2) 'A' := rfl
  rw [powerBytes, Base64.encode, encode_zeros, hdigits]
  exact congrArg₂ (fun c d => c :: d :: d :: d :: _) hfirst hzero

theorem foldl_zeros (k n : Nat) :
    (List.replicate k (0 : UInt8)).foldl (fun n b => 256 * n + b.toNat) n = n * 256 ^ k := by
  induction k generalizing n with
  | zero => exact (Nat.mul_one n).symm
  | succ k ih =>
      rw [List.replicate_succ, List.foldl_cons, ih, Nat.pow_succ, UInt8.toNat_zero, Nat.add_zero,
        Nat.mul_comm 256 n, Nat.mul_assoc, Nat.mul_comm 256]

theorem fromBytes_powerBytes (k : Nat) :
    KeyValidation.fromBytes (powerBytes k) = 2 ^ (8 * k + 23) := by
  calc KeyValidation.fromBytes (powerBytes k)
      = (List.replicate k (0 : UInt8)).foldl (fun n b => 256 * n + b.toNat) (2 ^ 23) := rfl
    _ = 2 ^ 23 * (2 ^ 8) ^ k := foldl_zeros k (2 ^ 23)
    _ = 2 ^ (8 * k + 23) := by rw [Nat.pow_add, Nat.pow_mul, Nat.mul_comm]

theorem modulusText_toList : modulusText.toList = Base64.encode (powerBytes (3 * 84 + 1)) := by
  have hlength : 4 * 84 + 5 = 341 := rfl
  rw [encode_powerBytes, hlength]
  exact String.toList_ofList

/-- The text is the number, in base64url. -/
def WritesNumber (text : String) (number : Nat) : Prop :=
  ∃ raw, text.toList = Base64.encode raw ∧ KeyValidation.fromBytes raw = number ∧ number ≠ 0

theorem writesNumber_powerBytes {text : String} {k : Nat}
    (htext : text.toList = Base64.encode (powerBytes k)) : WritesNumber text (2 ^ (8 * k + 23)) :=
  ⟨_, htext, fromBytes_powerBytes k, (Nat.two_pow_pos _).ne'⟩

theorem writesNumber_modulusText : ∃ k, 2047 ≤ k ∧ WritesNumber modulusText (2 ^ k) :=
  ⟨_, by decide, writesNumber_powerBytes modulusText_toList⟩

theorem WritesNumber.positiveInt {text : String} {number : Nat} (h : WritesNumber text number) :
    KeyValidation.positiveInt (some (.str text)) = some number := by
  obtain ⟨raw, htext, rfl, hne⟩ := h
  rw [KeyValidation.positiveInt_encode htext, if_neg hne]

theorem WritesNumber.memberNumber {text name : String} {number : Nat} {key : Members}
    (h : WritesNumber text number) (hmember : Dict.get key name = some (.str text)) :
    Jwe.memberNumber key name = some number := by
  obtain ⟨raw, htext, rfl, -⟩ := h
  rw [Jwe.memberNumber, hmember]
  dsimp only
  rw [b64uDecode_encode htext]

/-- Both scans read the numbers of a key whose exponent is one. -/
structure ReadsKey (p : Platform) (key : String × String) (n e : Nat) : Prop where
  modulus : KeyValidation.positiveInt (Dict.get (rsaKey key) "n") = some n
  exponent : KeyValidation.positiveInt (Dict.get (rsaKey key) "e") = some e
  bits : KeyValidation.minRsaModulusBits ≤ KeyValidation.bitLength n
  numbers : rsaNumbers p (rsaKey key) = some (n, e)

theorem readsKey {keys : List (String × String)} {key : String × String} {e : Nat}
    (hexponent : WritesNumber key.2 e) : ∃ n, ReadsKey (keyServer keys).platform key n e := by
  obtain ⟨k, hk, hmodulus⟩ := writesNumber_modulusText
  have hbits : KeyValidation.minRsaModulusBits ≤ KeyValidation.bitLength (2 ^ k) := by
    rw [KeyValidation.bitLength_two_pow]
    exact Nat.succ_le_succ hk
  refine ⟨2 ^ k, hmodulus.positiveInt, hexponent.positiveInt, hbits, ?_⟩
  have hkty : ktyText (keyServer keys).platform (rsaKey key) = "RSA" := rfl
  have hn : memberNumber (rsaKey key) "n" = some (2 ^ k) := hmodulus.memberNumber rfl
  have he : memberNumber (rsaKey key) "e" = some e := hexponent.memberNumber rfl
  obtain ⟨-, -, -, hne⟩ := hexponent
  rw [rsaNumbers, if_neg (not_not.mpr hkty), hn, he]
  refine if_neg ?_
  rintro (hzero | hzero | hshort)
  · exact (Nat.two_pow_pos k).ne' hzero
  · exact hne hzero
  · exact absurd hbits (not_le.mpr hshort)

/-- A key for signatures or for encryption has no problem where its numbers are read. -/
theorem ReadsKey.jwkProblem {keys : List (String × String)} {key : String × String} {n e : Nat}
    (h : ReadsKey (keyServer keys).platform key n e) (huse : key.1 ∈ KeyValidation.useValues) :
    KeyValidation.jwkProblem (keyServer keys).platform (rsaKey key) = "" := by
  have hkty : KeyValidation.kty (keyServer keys).platform (rsaKey key) = "RSA" := rfl
  have hmember : Dict.get (rsaKey key) "use" = some (.str key.1) := rfl
  have halg : Dict.get (rsaKey key) "alg" = none := rfl
  have hrsa : KeyValidation.rsaProblem (rsaKey key) = "" := by
    rw [KeyValidation.rsaProblem, h.modulus, h.exponent]
    exact if_neg (not_lt.mpr h.bits)
  have huse' : KeyValidation.absentOrOneOf KeyValidation.useValues (some (.str key.1)) = true :=
    decide_eq_true huse
  unfold KeyValidation.jwkProblem
  rw [hkty, hmember, halg, huse', hrsa]
  rfl

/-- A key for encryption is one that may encrypt. -/
theorem ReadsKey.usable {keys : List (String × String)} {key : String × String} {n e : Nat}
    (h : ReadsKey (keyServer keys).platform key n e) (hkey : key ∈ keys) (huse : key.1 = "enc") :
    KeyValidation.requireEncryptionRsaKey (keyServer keys).platform (keys.map rsaKey) = none := by
  have hkty : KeyValidation.kty (keyServer keys).platform (rsaKey key) = "RSA" := rfl
  have hsig : KeyValidation.use (rsaKey key) ≠ "sig" := by
    show key.1 ≠ "sig"
    rw [huse]
    decide
  have hbits : ((KeyValidation.positiveInt (Dict.get (rsaKey key) "n")).any fun modulus =>
      KeyValidation.minRsaModulusBits ≤ KeyValidation.bitLength modulus) = true := by
    rw [h.modulus]
    exact decide_eq_true h.bits
  refine if_pos (List.any_eq_true.mpr ⟨rsaKey key, List.mem_map_of_mem hkey, ?_⟩)
  exact decide_eq_true ⟨hkty, hsig, hbits⟩

/-- The metadata without their keys: what is parsed passes every check that reads no key. -/
theorem parseMetadata_recipient {keys : List (String × String)} {text : String}
    (hjwks : ∀ raw, present raw "jwks" =
        some (.obj [("keys", .arr (keys.map fun key => .obj (rsaKey key)))]) →
      parseJwks (keyServer keys).platform raw = .ok text) :
    ∃ metadata, parseMetadata (keyServer keys).urls (keyServer keys).platform
        (keyServer keys).b64decode standardScopes (recipient keys) = .ok metadata ∧
      metadata.jwks = text ∧
      metadata.idTokenEncryptedResponseAlg = JWEKeyManagementAlgorithm.rsaOaep.value ∧
      metadata.idTokenEncryptedResponseEnc = "" ∧
      (validateEncryptionMaterial (keyServer keys) metadata = .ok () →
        validateNewMetadata (keyServer keys) () metadata = .ok ()) ∧
      ∀ keys', keysFromJwksJson (keyServer keys).platform metadata.jwks = .ok keys' →
        ∃ client, clientOf (keyServer keys) { clientId := "rp" } metadata "" "" = .ok client ∧
          client.idTokenEncryptedResponseAlg = JWEKeyManagementAlgorithm.rsaOaep.value ∧
          client.jwks = keys'.map .obj := by
  unfold recipient parseMetadata parseMetadataExtras
  dsimp only
  rw [hjwks]
  · refine ⟨_, rfl, rfl, rfl, rfl, ?_, ?_⟩
    · intro hencryption
      unfold validateNewMetadata
      rw [hencryption]
      rfl
    · intro keys' hkeys
      exact ⟨_, bind_eq_ok.mpr ⟨_, rfl, bind_eq_ok.mpr ⟨keys', hkeys, rfl⟩⟩, rfl, rfl⟩
  · rfl

/-- The client is accepted where the numbers of its keys are read and one key may encrypt. -/
theorem accepts {keys : List (String × String)}
    (hkeys : ∀ key ∈ keys, key.1 ∈ KeyValidation.useValues ∧ ∃ e, WritesNumber key.2 e)
    (hencryption : ∃ key ∈ keys, key.1 = "enc") : ∃ client, AcceptsKeys keys client := by
  have hmap : (keys.map fun key => Json.obj (rsaKey key)) = (keys.map rsaKey).map .obj := by
    rw [List.map_map]
    rfl
  have hwrites : WritesKeys (keyServer keys).platform (rsaKeysText keys) (keys.map rsaKey) := by
    refine ⟨by simp [rsaKeysText], rfl, ?_⟩
    rw [← hmap]
    exact if_pos rfl
  have hproblems : ∀ members ∈ keys.map rsaKey,
      KeyValidation.jwkProblem (keyServer keys).platform members = "" := by
    intro members hmembers
    obtain ⟨key, hkey, rfl⟩ := List.mem_map.mp hmembers
    obtain ⟨huse, e, hexponent⟩ := hkeys key hkey
    obtain ⟨n, hread⟩ := readsKey hexponent
    exact hread.jwkProblem huse
  obtain ⟨metadata, hparse, hjwks, halgorithm, hmethod, hchecks, hclient⟩ :=
    parseMetadata_recipient fun raw hraw => hwrites.parseJwks hproblems (hmap ▸ hraw)
  have hread : keysFromJwksJson (keyServer keys).platform metadata.jwks =
      .ok (keys.map rsaKey) := by
    rw [hjwks]
    exact hwrites.keysFromJwksJson
  obtain ⟨client, hclient, hclientAlgorithm, hclientKeys⟩ := hclient _ hread
  have husable : KeyValidation.requireEncryptionRsaKey (keyServer keys).platform
      (keys.map rsaKey) = none := by
    obtain ⟨key, hkey, huse⟩ := hencryption
    obtain ⟨-, e, hexponent⟩ := hkeys key hkey
    obtain ⟨n, hread⟩ := readsKey hexponent
    exact hread.usable hkey huse
  have hmetadata : validMetadata (keyServer keys) () (recipient keys) = .ok metadata :=
    bind_eq_ok.mpr ⟨_, rfl, bind_eq_ok.mpr ⟨_, hparse, bind_eq_ok.mpr ⟨_, hchecks
      (validateEncryptionMaterial_of_keys halgorithm hmethod hread husable), rfl⟩⟩⟩
  refine ⟨client, ⟨(), recipient keys, { clientId := "rp" }, metadata, "", "", hmetadata, hclient⟩,
    ?_, ?_⟩
  · rw [hclientAlgorithm]
    decide
  · rw [hclientKeys, hmap]

theorem writesNumber_odd : WritesNumber "AQAB" 65537 := ⟨[1, 0, 1], by decide, rfl, by decide⟩

theorem writesNumber_even : WritesNumber "AQAC" 65538 := ⟨[1, 0, 2], by decide, rfl, by decide⟩

theorem accepts_encryptionKey : ∃ client, AcceptsKeys [("enc", "AQAB")] client := by
  have hodd := writesNumber_odd
  refine accepts (List.forall_mem_singleton.mpr ⟨by decide, _, hodd⟩) ?_
  exact ⟨_, List.mem_singleton_self _, rfl⟩

theorem accepts_signingKeyFirst :
    ∃ client, AcceptsKeys [("sig", "AQAB"), ("enc", "AQAB")] client := by
  have hodd := writesNumber_odd
  refine accepts (List.forall_mem_cons.mpr ⟨⟨by decide, _, hodd⟩,
    List.forall_mem_singleton.mpr ⟨by decide, _, hodd⟩⟩) ?_
  exact ⟨_, List.mem_cons_of_mem _ (List.mem_singleton_self _), rfl⟩

theorem accepts_evenExponent : ∃ client, AcceptsKeys [("enc", "AQAC")] client := by
  have heven := writesNumber_even
  refine accepts (List.forall_mem_singleton.mpr ⟨by decide, _, heven⟩) ?_
  exact ⟨_, List.mem_singleton_self _, rfl⟩

/-- The agreement for a client with one key for encryption. -/
theorem encryption_key_agreement_once :
    ∃ client, AcceptsKeys [("enc", "AQAB")] client ∧
      ((∃ key, EncryptsWith Transparent.cryptography (keyServer [("enc", "AQAB")]).platform client
          key ∧ UsableForEncryption (keyServer [("enc", "AQAB")]).platform key) ↔
        FirstKeyUsable (keyServer [("enc", "AQAB")]).platform client.jwks) := by
  obtain ⟨client, haccepted, halgorithm, hjwks⟩ := accepts_encryptionKey
  refine ⟨client, ⟨haccepted, halgorithm, hjwks⟩, ?_⟩
  exact (encryption_key_agreement (keyServer [("enc", "AQAB")]) Transparent.cryptography [] {}).2
    client haccepted halgorithm

/-- No key of the client is the one its issuances encrypt with and a usable one. -/
def Disagrees (keys : List (String × String)) (client : Client) : Prop :=
  ¬∃ key, EncryptsWith Transparent.cryptography (keyServer keys).platform client key ∧
    UsableForEncryption (keyServer keys).platform key

/-- The key for signatures is the one an issuance encrypts with; and an even exponent, which the
registration does not look at, ends every issuance. -/
theorem encryption_keys_disagree :
    (∃ client, AcceptsKeys [("sig", "AQAB"), ("enc", "AQAB")] client ∧
      Disagrees [("sig", "AQAB"), ("enc", "AQAB")] client) ∧
    ∃ client, AcceptsKeys [("enc", "AQAC")] client ∧ Disagrees [("enc", "AQAC")] client := by
  constructor
  · obtain ⟨client, haccepted, halgorithm, hjwks⟩ := accepts_signingKeyFirst
    refine ⟨client, ⟨haccepted, halgorithm, hjwks⟩, ?_⟩
    unfold Disagrees
    rw [encryptsWith_usable_iff _ haccepted halgorithm, hjwks]
    rintro ⟨key, n, e, hfirst, -, ⟨-, huse, -⟩, -⟩
    obtain ⟨_, hread⟩ : ∃ n, ReadsKey (keyServer [("sig", "AQAB"), ("enc", "AQAB")]).platform
      ("sig", "AQAB") n 65537 := readsKey writesNumber_odd
    have hfound : ([("sig", "AQAB"), ("enc", "AQAB")].map fun key => Json.obj (rsaKey key)).find?
        (readsNumbers (keyServer [("sig", "AQAB"), ("enc", "AQAB")]).platform) =
        some (.obj (rsaKey ("sig", "AQAB"))) := by
      rw [List.map_cons, List.find?_cons_of_pos]
      rw [readsNumbers, hread.numbers]
      rfl
    rw [hfound] at hfirst
    cases hfirst
    exact huse (by decide)
  · obtain ⟨client, haccepted, halgorithm, hjwks⟩ := accepts_evenExponent
    refine ⟨client, ⟨haccepted, halgorithm, hjwks⟩, ?_⟩
    unfold Disagrees
    rw [encryptsWith_usable_iff _ haccepted halgorithm, hjwks]
    rintro ⟨key, n, e, hfirst, hnumbers, -, hodd, -⟩
    have hmem := List.mem_of_find?_eq_some hfirst
    rw [List.map_cons, List.map_nil, List.mem_singleton] at hmem
    cases hmem
    obtain ⟨_, hread⟩ : ∃ n, ReadsKey (keyServer [("enc", "AQAC")]).platform ("enc", "AQAC") n
      65538 := readsKey writesNumber_even
    rw [hread.numbers] at hnumbers
    cases hnumbers
    exact absurd hodd (by decide)

end RegistrationUseCase.Sample

end PurIdentityServer

import PurIdentityServer.Domain.KeyValidation
import PurIdentityServer.Infrastructure.Secrets
import PurIdentityServer.Lib.Fallible
import PurIdentityServer.Lib.Pkcs7

/-!
# Jwe — tokens encrypted in compact form

`encryptCompact` writes five base64url segments: the protected header, the
encrypted content key, the vector, the ciphertext and its tag.
`decryptCompact` takes them apart again. The content key is random and
encrypted for an RSA key or wrapped under a shared key, or it is the shared
key itself; the content is encrypted with AES-GCM, or with AES-CBC under
one half of the content key and authenticated by an HMAC under the other.

The primitives are those of `cryptography`: a parameter with the lengths it
documents, the exceptions it raises outside them, and the inverses.
-/

namespace PurIdentityServer.Jwe

open Effects
open Jwks (utf8Encode utf8Decode)

abbrev Bytes := List UInt8

/-! ## The methods -/

inductive JWEEncryptionMethod where
  | a128cbcHs256 | a192cbcHs384 | a256cbcHs512 | a128gcm | a192gcm | a256gcm
  deriving DecidableEq, Repr

namespace JWEEncryptionMethod

def value : JWEEncryptionMethod → String
  | a128cbcHs256 => "A128CBC-HS256" | a192cbcHs384 => "A192CBC-HS384"
  | a256cbcHs512 => "A256CBC-HS512" | a128gcm => "A128GCM" | a192gcm => "A192GCM"
  | a256gcm => "A256GCM"

def all : List JWEEncryptionMethod :=
  [a128cbcHs256, a192cbcHs384, a256cbcHs512, a128gcm, a192gcm, a256gcm]

def ofValue? (s : String) : Option JWEEncryptionMethod := all.find? fun m => m.value = s

/-- `cek_size` -/
def cekSize : JWEEncryptionMethod → Nat
  | a128cbcHs256 => 32 | a192cbcHs384 => 48 | a256cbcHs512 => 64
  | a128gcm => 16 | a192gcm => 24 | a256gcm => 32

/-- `method in GCM_ENCRYPTION_METHODS` -/
def isGcm : JWEEncryptionMethod → Bool
  | a128gcm | a192gcm | a256gcm => true
  | _ => false

theorem values_eq : all.map value = jweEncryptionMethods := by rfl

theorem ofValue?_value (m : JWEEncryptionMethod) : ofValue? m.value = some m := by
  cases m <;> decide

end JWEEncryptionMethod

/-! ## The library -/

/-- The exceptions that reach the server; only the first two are caught by
`except (TypeError, ValueError)`. -/
inductive JweError where
  | valueError (message : String)
  | typeError (message : String)
  | invalidTag
  | invalidUnwrap
  | unsupportedAlgorithm
  | attributeError
  | jweUnavailable (message : String)
  deriving DecidableEq

/-- What `except (TypeError, ValueError) as exc` catches, as `str(exc)`. -/
def JweError.caught : JweError → Option String
  | valueError message => some message
  | typeError message => some message
  | _ => none

inductive Digest where
  | sha1 | sha256 | sha384 | sha512
  deriving DecidableEq, Repr

/-- The bytes of a digest. -/
def Digest.size : Digest → Nat
  | sha1 => 20 | sha256 => 32 | sha384 => 48 | sha512 => 64

/-- The lengths of an AES key, in bytes. -/
def aesKeySizes : List Nat := [16, 24, 32]

/-- `_GCM_TAG_SIZE` -/
def gcmTagSize : Nat := 16

/-- `_GCM_IV_SIZE` -/
def gcmIvSize : Nat := 12

/-- `_CBC_IV_SIZE`, the block of AES. -/
def cbcIvSize : Nat := 16

/-- The primitives of `cryptography` the server calls. -/
structure Cryptography where
  PrivateKey : Type
  PublicKey : Type
  publicKey : PrivateKey → PublicKey
  /-- the bits of the modulus -/
  modulusBits : PublicKey → Nat
  /-- `load_pem_private_key(data, None)`, `none` on a key that is not RSA -/
  loadPem : String → Except JweError (Option PrivateKey)
  /-- `RSAPublicNumbers(e, n).public_key()` -/
  rsaPublicKey : (e n : Nat) → Except JweError PublicKey
  /-- `key.encrypt(message, OAEP)` under a random seed -/
  oaepEncrypt : Digest → PublicKey → (seed : Nat) → Bytes → Except JweError Bytes
  oaepDecrypt : Digest → PrivateKey → Bytes → Except JweError Bytes
  /-- `keywrap.aes_key_wrap(kek, key)` -/
  keyWrap : (kek key : Bytes) → Except JweError Bytes
  keyUnwrap : (kek wrapped : Bytes) → Except JweError Bytes
  /-- `AESGCM(key).encrypt(nonce, data, aad)`: the ciphertext, then the tag -/
  gcmEncrypt : (key nonce data aad : Bytes) → Except JweError Bytes
  gcmDecrypt : (key nonce data aad : Bytes) → Except JweError Bytes
  /-- AES in CBC mode over whole blocks -/
  cbcEncrypt : (key iv data : Bytes) → Except JweError Bytes
  cbcDecrypt : (key iv data : Bytes) → Except JweError Bytes
  hmac : Digest → (key data : Bytes) → Bytes
  /-- `HKDF(SHA256, size, salt=None, info=_HKDF_INFO).derive(secret)` -/
  hkdf : (secret : Bytes) → (size : Nat) → Bytes
  /-- an odd exponent below the modulus makes a key -/
  rsaPublicKey_ok : ∀ e n, e % 2 = 1 → 3 ≤ e → e < n →
    ∃ key, rsaPublicKey e n = .ok key ∧ modulusBits key = KeyValidation.bitLength n
  rsaPublicKey_refused : ∀ e n, e % 2 = 0 ∨ e < 3 ∨ n ≤ e →
    ∃ message, rsaPublicKey e n = .error (.valueError message)
  /-- a message is encrypted when the padding leaves room for it -/
  oaep_encrypts : ∀ digest key seed message,
    message.length + 2 * digest.size + 2 ≤ (modulusBits key + 7) / 8 →
    ∃ ciphertext, oaepEncrypt digest key seed message = .ok ciphertext
  oaep_opens : ∀ digest key seed message ciphertext,
    oaepEncrypt digest (publicKey key) seed message = .ok ciphertext →
    oaepDecrypt digest key ciphertext = .ok message
  oaep_refused : ∀ digest key ciphertext e, oaepDecrypt digest key ciphertext = .error e →
    ∃ message, e = .valueError message
  /-- whole words of eight bytes are wrapped, from two on -/
  wrap_opens : ∀ kek key, kek.length ∈ aesKeySizes → 16 ≤ key.length → key.length % 8 = 0 →
    ∃ wrapped, keyWrap kek key = .ok wrapped ∧ keyUnwrap kek wrapped = .ok key
  gcm_opens : ∀ key nonce data aad, key.length ∈ aesKeySizes → 8 ≤ nonce.length →
    nonce.length ≤ 128 → ∃ ciphered, gcmEncrypt key nonce data aad = .ok ciphered ∧
      ciphered.length = data.length + gcmTagSize ∧
      gcmDecrypt key nonce ciphered aad = .ok data
  /-- outside these lengths the key or the nonce is refused -/
  gcm_lengths : ∀ key nonce data aad,
    ¬(key.length ∈ aesKeySizes ∧ 8 ≤ nonce.length ∧ nonce.length ≤ 128) →
    ∃ message, gcmDecrypt key nonce data aad = .error (.valueError message)
  /-- within them the only exception is that of the tag -/
  gcm_tag : ∀ key nonce data aad e, key.length ∈ aesKeySizes → 8 ≤ nonce.length →
    nonce.length ≤ 128 → gcmDecrypt key nonce data aad = .error e → e = .invalidTag
  cbc_opens : ∀ key iv data, key.length ∈ aesKeySizes → iv.length = cbcIvSize →
    data.length % cbcIvSize = 0 → ∃ ciphertext, cbcEncrypt key iv data = .ok ciphertext ∧
      cbcDecrypt key iv ciphertext = .ok data
  cbc_refused : ∀ key iv data e, cbcDecrypt key iv data = .error e →
    ∃ message, e = .valueError message
  cbc_lengths : ∀ key iv data found, cbcDecrypt key iv data = .ok found →
    key.length ∈ aesKeySizes ∧ iv.length = cbcIvSize
  hmac_length : ∀ digest key data, (hmac digest key data).length = digest.size
  hkdf_length : ∀ secret size, (hkdf secret size).length = size

/-- What `os.urandom` answers during one encryption, and the seed of OAEP. -/
structure Entropy where
  contentKey : Nat → Bytes
  vector : Nat → Bytes
  seed : Nat
  contentKey_length : ∀ size, (contentKey size).length = size
  vector_length : ∀ size, (vector size).length = size

/-! ## Texts and segments -/

/-- `b64u` -/
def b64u (data : Bytes) : String :=
  String.ofList (Base64.rstripPad (Base64.urlsafeB64encode data))

/-- `b64u_decode` -/
def b64uDecode (value : String) : Except JweError Bytes :=
  match Base64.urlsafeB64decode (value.toList ++ Base64.groupPads value.toList.length) with
  | some data => .ok data
  | none => .error (.valueError "Incorrect padding")

/-- `value.encode("ascii")` -/
def encodeAscii (value : String) : Except JweError Bytes :=
  if Text.isAscii value then .ok (utf8Encode value)
  else .error (.valueError "'ascii' codec can't encode characters")

/-- `data.decode("utf-8")` -/
def decodeUtf8 (data : Bytes) : Except JweError String :=
  match utf8Decode data with
  | some text => .ok text
  | none => .error (.valueError "'utf-8' codec can't decode bytes")

/-- `json.dumps(header, separators=(",", ":"), sort_keys=True)` of names and values
that need no escape. -/
def dumpHeader (header : List (String × String)) : String :=
  let items := header.mergeSort fun a b => a.1 ≤ b.1
  "\x7b" ++ Text.join "," (items.map fun item =>
    "\"" ++ item.1 ++ "\":\"" ++ item.2 ++ "\"") ++ "\x7d"

/-- `_protected_b64` -/
def protectedB64 (header : List (String × String)) : String := b64u (utf8Encode (dumpHeader header))

/-- The five segments of a compact form. -/
structure Segments where
  header : String
  encryptedKey : String
  iv : String
  ciphertext : String
  tag : String
  deriving DecidableEq

/-- `".".join` of the segments -/
def Segments.compact (s : Segments) : String :=
  Text.join "." [s.header, s.encryptedKey, s.iv, s.ciphertext, s.tag]

/-- `_split_compact` -/
def splitCompact (token : String) : Except JweError Segments :=
  match (token.toList.splitOn '.').map String.ofList with
  | [header, encryptedKey, iv, ciphertext, tag] => .ok ⟨header, encryptedKey, iv, ciphertext, tag⟩
  | _ => .error (.valueError "JWE compact invalide (5 segments attendus)")

/-! ## The keys -/

section
variable (lib : Cryptography)

/-- `derive_content_key` -/
def deriveContentKey (sharedSecret : String) (size : Nat) : Bytes :=
  lib.hkdf (utf8Encode sharedSecret) size

/-- `_oaep` -/
def oaep : JWEKeyManagementAlgorithm → Digest
  | .rsaOaep => .sha1
  | _ => .sha256

/-- `_KW_KEK_SIZE`; the other algorithms have no entry. -/
def kwKekSize : JWEKeyManagementAlgorithm → Nat
  | .a128kw => 16
  | .a256kw => 32
  | _ => 0

/-- `_kek_size` -/
def kekSize (algorithm : JWEKeyManagementAlgorithm) (method : JWEEncryptionMethod) : Nat :=
  if algorithm = .direct then method.cekSize else kwKekSize algorithm

/-- The refusal of an envelope key of another length. -/
def kekRefusal (algorithm : JWEKeyManagementAlgorithm) : JweError :=
  .valueError (algorithm.value ++ " exige une clé d'enveloppe de "
    ++ toString (kwKekSize algorithm) ++ " octets")

/-- `_encrypt_key`: the content key and its encrypted form. -/
def encryptKey (entropy : Entropy) (algorithm : JWEKeyManagementAlgorithm)
    (method : JWEEncryptionMethod) (sharedKek : Bytes) (rsaPublicKey : Option lib.PublicKey) :
    Except JweError (Bytes × Bytes) :=
  if algorithm.isAsymmetric then
    match rsaPublicKey with
    | none => .error (.valueError (algorithm.value ++ " exige une clé publique RSA"))
    | some key => do
        let cek := entropy.contentKey method.cekSize
        let encrypted ← lib.oaepEncrypt (oaep algorithm) key entropy.seed cek
        .ok (cek, encrypted)
  else if algorithm = .direct then
    if sharedKek.length ≠ method.cekSize then
      .error (.valueError ("dir exige une clé de contenu de " ++ toString method.cekSize
        ++ " octets (reçu " ++ toString sharedKek.length ++ ")"))
    else .ok (sharedKek, [])
  else if sharedKek.length ≠ kwKekSize algorithm then .error (kekRefusal algorithm)
  else do
    let cek := entropy.contentKey method.cekSize
    let wrapped ← lib.keyWrap sharedKek cek
    .ok (cek, wrapped)

/-- `_decrypt_key` -/
def decryptKey (algorithm : JWEKeyManagementAlgorithm) (encryptedKey sharedKek : Bytes)
    (rsaPrivateKey : Option lib.PrivateKey) : Except JweError Bytes :=
  if algorithm.isAsymmetric then
    match rsaPrivateKey with
    | none => .error (.valueError (algorithm.value ++ " exige une clé privée RSA"))
    | some key => lib.oaepDecrypt (oaep algorithm) key encryptedKey
  else if algorithm = .direct then
    if encryptedKey ≠ [] then .error (.valueError "dir porte une encrypted_key non vide")
    else .ok sharedKek
  else if sharedKek.length ≠ kwKekSize algorithm then .error (kekRefusal algorithm)
  else lib.keyUnwrap sharedKek encryptedKey

/-! ## The content -/

/-- `_hmac_hash`; the methods of AES-GCM have no entry and never ask. -/
def hmacHash : JWEEncryptionMethod → Digest
  | .a128cbcHs256 => .sha256
  | .a192cbcHs384 => .sha384
  | _ => .sha512

/-- `int.to_bytes(length * 8, 8, "big")` -/
def lengthBytes (length : Nat) : Bytes :=
  (List.range 8).map fun i => UInt8.ofNat (length * 8 / Nat.pow 256 (7 - i) % 256)

/-- `_cbc_hmac`: the left half of the HMAC. -/
def cbcHmac (macKey aad iv ciphertext : Bytes) (method : JWEEncryptionMethod) : Bytes :=
  let digest := lib.hmac (hmacHash method) macKey
    (aad ++ iv ++ ciphertext ++ lengthBytes aad.length)
  digest.take (digest.length / 2)

/-- `_encrypt_content`: the vector, the ciphertext and the tag. -/
def encryptContent (entropy : Entropy) (method : JWEEncryptionMethod) (cek aad plaintext : Bytes) :
    Except JweError (Bytes × Bytes × Bytes) :=
  if method.isGcm then do
    let iv := entropy.vector gcmIvSize
    let ciphered ← lib.gcmEncrypt cek iv plaintext aad
    let split := ciphered.length - gcmTagSize
    .ok (iv, ciphered.take split, ciphered.drop split)
  else do
    let macKey := cek.take (method.cekSize / 2)
    let encKey := cek.drop (method.cekSize / 2)
    let iv := entropy.vector cbcIvSize
    let ciphertext ← lib.cbcEncrypt encKey iv (Pkcs7.pad cbcIvSize plaintext)
    .ok (iv, ciphertext, cbcHmac lib macKey aad iv ciphertext method)

/-- `unpadder.update(padded) + unpadder.finalize()` -/
def unpadded (padded : Bytes) : Except JweError Bytes :=
  match Pkcs7.unpad cbcIvSize padded with
  | some data => .ok data
  | none => .error (.valueError "Invalid padding bytes.")

/-- `_decrypt_content` -/
def decryptContent (method : JWEEncryptionMethod) (cek aad iv ciphertext tag : Bytes) :
    Except JweError Bytes :=
  if method.isGcm then lib.gcmDecrypt cek iv (ciphertext ++ tag) aad
  else
    let macKey := cek.take (method.cekSize / 2)
    let encKey := cek.drop (method.cekSize / 2)
    if tag ≠ cbcHmac lib macKey aad iv ciphertext method then
      .error (.valueError "tag JWE invalide (authentification rejetée)")
    else do
      let padded ← lib.cbcDecrypt encKey iv ciphertext
      unpadded padded

/-! ## The compact form -/

/-- What is left to do once the content key is known. -/
def sealContent (entropy : Entropy) (method : JWEEncryptionMethod) (header : String)
    (cek encryptedKey plaintext : Bytes) : Except JweError String := do
  let aad ← encodeAscii header
  let content ← encryptContent lib entropy method cek aad plaintext
  .ok (Segments.compact ⟨header, b64u encryptedKey, b64u content.1, b64u content.2.1,
    b64u content.2.2⟩)

/-- `encrypt_compact` -/
def encryptCompact (entropy : Entropy) (algorithm : JWEKeyManagementAlgorithm)
    (method : JWEEncryptionMethod) (plaintext sharedKek : Bytes)
    (rsaPublicKey : Option lib.PublicKey) : Except JweError String := do
  let header := protectedB64 [("alg", algorithm.value), ("enc", method.value)]
  let keys ← encryptKey lib entropy algorithm method sharedKek rsaPublicKey
  sealContent lib entropy method header keys.1 keys.2 plaintext

/-- `decrypt_compact` -/
def decryptCompact (token : String) (algorithm : JWEKeyManagementAlgorithm)
    (method : JWEEncryptionMethod) (sharedKek : Bytes) (rsaPrivateKey : Option lib.PrivateKey) :
    Except JweError Bytes := do
  let segments ← splitCompact token
  let encryptedKey ← b64uDecode segments.encryptedKey
  let cek ← decryptKey lib algorithm encryptedKey sharedKek rsaPrivateKey
  let aad ← encodeAscii segments.header
  let iv ← b64uDecode segments.iv
  let ciphertext ← b64uDecode segments.ciphertext
  let tag ← b64uDecode segments.tag
  decryptContent lib method cek aad iv ciphertext tag

/-! ## The id_token of a client -/

variable (p : Platform)

/-- `str(key.get("kty", "")).upper()` -/
def ktyText (key : Members) : String :=
  match Dict.get key "kty" with
  | none => p.upper ""
  | some (.str text) => p.upper text
  | some value => p.upper (p.pyStr value)

/-- `int.from_bytes(b64u_decode(value), "big")` of a string member -/
def memberNumber (key : Members) (name : String) : Option Nat :=
  match Dict.get key name with
  | some (.str text) =>
      match b64uDecode text with
      | .ok raw => some (KeyValidation.fromBytes raw)
      | .error _ => none
  | _ => none

/-- The modulus and the exponent of a key the loop of `rsa_public_key_from_jwks` stops at. -/
def rsaNumbers (key : Members) : Option (Nat × Nat) :=
  if ktyText p key ≠ "RSA" then none
  else
    match memberNumber key "n", memberNumber key "e" with
    | some n, some e =>
        if n = 0 ∨ e = 0 ∨ KeyValidation.bitLength n < KeyValidation.minRsaModulusBits then none
        else some (n, e)
    | _, _ => none

/-- `rsa_public_key_from_jwks` -/
def rsaPublicKeyFromJwks : List Json → Except JweError lib.PublicKey
  | [] => .error (.jweUnavailable "aucune clé publique RSA dans le jwks du client")
  | .obj key :: rest =>
      match rsaNumbers p key with
      | some (n, e) => lib.rsaPublicKey e n
      | none => rsaPublicKeyFromJwks rest
  | _ :: _ => .error .attributeError

/-- The content key of an `id_token` and its encrypted form. -/
def sealKey (entropy : Entropy) (jwks : List Json) (algorithm : JWEKeyManagementAlgorithm)
    (method : JWEEncryptionMethod) (sharedSecret : String) : Except JweError (Bytes × Bytes) :=
  if algorithm.isAsymmetric then do
    let cek := entropy.contentKey method.cekSize
    let key ← rsaPublicKeyFromJwks lib p jwks
    let encrypted ← lib.oaepEncrypt (oaep algorithm) key entropy.seed cek
    .ok (cek, encrypted)
  else if sharedSecret = "" then
    .error (.jweUnavailable "un algorithme symétrique d'id_token exige le secret partagé du client")
  else
    let sharedKek := deriveContentKey lib sharedSecret (kekSize algorithm method)
    if algorithm = .direct then .ok (sharedKek, [])
    else do
      let cek := entropy.contentKey method.cekSize
      let wrapped ← lib.keyWrap sharedKek cek
      .ok (cek, wrapped)

/-- `_seal_id_token` -/
def sealIdToken (entropy : Entropy) (idToken : String) (jwks : List Json)
    (algorithm : JWEKeyManagementAlgorithm) (method : JWEEncryptionMethod)
    (sharedSecret : String) : Except JweError String := do
  let header := protectedB64 [("alg", algorithm.value), ("enc", method.value), ("cty", "JWT")]
  let keys ← sealKey lib p entropy jwks algorithm method sharedSecret
  sealContent lib entropy method header keys.1 keys.2 (utf8Encode idToken)

/-- `_algorithm` -/
def configuredAlgorithm (configured : String) : Except JweError JWEKeyManagementAlgorithm :=
  if configured = "" then
    .error (.jweUnavailable "aucun algorithme de chiffrement d'id_token configuré")
  else
    match JWEKeyManagementAlgorithm.ofValue? configured with
    | some algorithm => .ok algorithm
    | none => .error (.jweUnavailable
        ("algorithme de chiffrement d'id_token non supporté : " ++ configured))

/-- `_method`, by default `DEFAULT_ENCRYPTION_METHOD` -/
def configuredMethod (configured : String) : Except JweError JWEEncryptionMethod :=
  if configured = "" then .ok .a128cbcHs256
  else
    match JWEEncryptionMethod.ofValue? configured with
    | some method => .ok method
    | none => .error (.jweUnavailable
        ("méthode de chiffrement d'id_token non supportée : " ++ configured))

/-- `JWEIdTokenEncrypter.encrypt_id_token` -/
def encryptIdToken (entropy : Entropy) (idToken : String) (client : Client)
    (sharedSecret : String) : Except JweError String := do
  let algorithm ← configuredAlgorithm client.idTokenEncryptedResponseAlg
  let method ← configuredMethod client.idTokenEncryptedResponseEnc
  sealIdToken lib p entropy idToken client.jwks algorithm method sharedSecret

/-! ## The request objects -/

open Jwks (KeyPair)

/-- `RequestObjectDecryptionResult`: its plaintext, or its reason. -/
inductive RequestObjectDecryptionResult where
  | plaintext (text : String)
  | refused (reason : String)
  deriving DecidableEq

/-- `_missing_key_reason` -/
def missingKeyReason (keyId : String) : String :=
  if keyId ≠ "" then "clé de chiffrement de l'OP introuvable (kid=" ++ keyId ++ ")"
  else "aucune clé de chiffrement de l'OP disponible"

/-- `_encryption_key`, among the active keys. -/
def encryptionKey (active : List KeyPair) (keyId : String) : Option KeyPair :=
  if keyId ≠ "" then active.find? fun key => key.kid = keyId
  else
    match active with
    | [key] => some key
    | _ => none

/-- The value of an enumeration, or the `ValueError` of its constructor. -/
def enumerated {α : Type} (found : Option α) (printed name : String) : Except JweError α :=
  match found with
  | some member => .ok member
  | none => .error (.valueError (printed ++ " is not a valid " ++ name))

/-- `isinstance(private_key, RSAPrivateKey)` -/
def rsaOnly : Option lib.PrivateKey → Except JweError lib.PrivateKey
  | some key => .ok key
  | none => .error (.valueError "clé de chiffrement non RSA")

/-- `load_pem_private_key`, of an RSA key. -/
def loadPrivateKey (pem : String) : Except JweError lib.PrivateKey := do
  let _ ← encodeAscii pem
  let key ← lib.loadPem pem
  rsaOnly lib key

/-- The body of the `try` of `decrypt`. -/
def decryptWith (repr : String → String) (document algorithm method : String)
    (keyPair : KeyPair) : Except JweError String := do
  let jweAlgorithm ← enumerated (JWEKeyManagementAlgorithm.ofValue? algorithm) (repr algorithm)
    "JWEKeyManagementAlgorithm"
  let jweMethod ← enumerated (JWEEncryptionMethod.ofValue? method) (repr method)
    "JWEEncryptionMethod"
  let privateKey ← loadPrivateKey lib keyPair.privateKeyPem
  let plaintext ← decryptCompact lib document jweAlgorithm jweMethod [] (some privateKey)
  decodeUtf8 plaintext

/-- `except (TypeError, ValueError) as exc`; the other exceptions pass through. -/
def contained : Except JweError String → Except JweError RequestObjectDecryptionResult
  | .ok text => .ok (.plaintext text)
  | .error e =>
      match e.caught with
      | some message => .ok (.refused ("déchiffrement impossible : " ++ message))
      | none => .error e

/-- `JWERequestObjectDecrypter.decrypt`, with the active keys of its manager. -/
def decrypt (repr : String → String) (active : List KeyPair)
    (document algorithm method keyId : String) : Except JweError RequestObjectDecryptionResult :=
  match encryptionKey active keyId with
  | none => .ok (.refused (missingKeyReason keyId))
  | some keyPair => contained (decryptWith lib repr document algorithm method keyPair)

end

end PurIdentityServer.Jwe

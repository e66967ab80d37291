import PurIdentityServer.Infrastructure.Jwe

/-!
# JweRoundTrip — what is encrypted is decrypted

Each layer is inverted by its own: a segment by its base64url, the compact
form by its split, the content by its key, the content key by the key of
the recipient. The layers agree because the content key has the length its
method halves, and because the tag is cut where the primitive appends it.
-/

namespace PurIdentityServer.Jwe

open Effects
open Jwks (utf8Encode)

variable {lib : Cryptography}

/-! ## Segments -/

/-- A text of base64url characters only, so without padding. -/
def IsBase64Url (text : String) : Prop := ∀ c ∈ text.toList, c ∈ Base64.alphabet

theorem b64u_toList (data : Bytes) : (b64u data).toList = Base64.encode data := by
  simp [b64u, Base64.rstripPad_encode]

theorem b64u_isBase64Url (data : Bytes) : IsBase64Url (b64u data) := by
  intro c hc
  rw [b64u_toList] at hc
  exact Base64.mem_encode hc

theorem b64uDecode_encode {text : String} {data : Bytes}
    (htext : text.toList = Base64.encode data) : b64uDecode text = .ok data := by
  unfold b64uDecode
  rw [htext, Base64.decode_encode_groupPads]

theorem b64uDecode_b64u (data : Bytes) : b64uDecode (b64u data) = .ok data :=
  b64uDecode_encode (b64u_toList data)

theorem protectedB64_isBase64Url (header : List (String × String)) :
    IsBase64Url (protectedB64 header) :=
  b64u_isBase64Url _

theorem encodeAscii_isBase64Url {text : String} (h : IsBase64Url text) :
    encodeAscii text = .ok (utf8Encode text) := by
  have hascii : Text.isAscii text = true := by
    rw [Text.isAscii, List.all_eq_true]
    intro c hc
    simpa using Base64.ascii_of_mem (h c hc)
  unfold encodeAscii
  rw [if_pos hascii]

/-- Every segment is base64url without padding. -/
structure Segments.WellFormed (s : Segments) : Prop where
  header : IsBase64Url s.header
  encryptedKey : IsBase64Url s.encryptedKey
  iv : IsBase64Url s.iv
  ciphertext : IsBase64Url s.ciphertext
  tag : IsBase64Url s.tag

theorem dot_not_mem {text : String} (h : IsBase64Url text) : '.' ∉ text.toList := by
  intro hdot
  have hmem := h '.' hdot
  revert hmem
  decide

theorem Segments.compact_toList (s : Segments) :
    s.compact.toList = ['.'].intercalate [s.header.toList, s.encryptedKey.toList, s.iv.toList,
      s.ciphertext.toList, s.tag.toList] := by
  simp [compact, Text.join, List.intercalate]

theorem splitCompact_compact {s : Segments} (h : s.WellFormed) :
    splitCompact s.compact = .ok s := by
  have hsplit : s.compact.toList.splitOn '.' = [s.header.toList, s.encryptedKey.toList,
      s.iv.toList, s.ciphertext.toList, s.tag.toList] := by
    rw [Segments.compact_toList]
    apply List.splitOn_intercalate
    · intro segment hmem
      simp only [List.mem_cons, List.not_mem_nil, or_false] at hmem
      rcases hmem with rfl | rfl | rfl | rfl | rfl
      · exact dot_not_mem h.header
      · exact dot_not_mem h.encryptedKey
      · exact dot_not_mem h.iv
      · exact dot_not_mem h.ciphertext
      · exact dot_not_mem h.tag
    · simp
  unfold splitCompact
  rw [hsplit]
  simp

/-! ## The content -/

/-- The second half of a content key is an AES key. -/
theorem encKey_length {method : JWEEncryptionMethod} {cek : Bytes} (hcbc : method.isGcm = false)
    (h : cek.length = method.cekSize) :
    (cek.drop (method.cekSize / 2)).length ∈ aesKeySizes := by
  rw [List.length_drop, h]
  cases method with
  | a128cbcHs256 => decide
  | a192cbcHs384 => decide
  | a256cbcHs512 => decide
  | a128gcm => cases hcbc
  | a192gcm => cases hcbc
  | a256gcm => cases hcbc

theorem cekSize_gcm {method : JWEEncryptionMethod} (hgcm : method.isGcm = true) :
    method.cekSize ∈ aesKeySizes := by
  cases method with
  | a128cbcHs256 => cases hgcm
  | a192cbcHs384 => cases hgcm
  | a256cbcHs512 => cases hgcm
  | a128gcm => decide
  | a192gcm => decide
  | a256gcm => decide

/-- The content is decrypted under the key and the header it was encrypted under. -/
theorem decryptContent_encryptContent (lib : Cryptography) (entropy : Entropy) {method : JWEEncryptionMethod}
    {cek : Bytes} (h : cek.length = method.cekSize) (aad plaintext : Bytes) :
    ∃ iv ciphertext tag,
      encryptContent lib entropy method cek aad plaintext = .ok (iv, ciphertext, tag) ∧
        decryptContent lib method cek aad iv ciphertext tag = .ok plaintext := by
  cases hgcm : method.isGcm with
  | true =>
      have hnonce : (entropy.vector gcmIvSize).length = gcmIvSize := entropy.vector_length _
      obtain ⟨ciphered, hencrypt, hlength, hdecrypt⟩ := lib.gcm_opens cek
        (entropy.vector gcmIvSize) plaintext aad (h ▸ cekSize_gcm hgcm)
        (by rw [hnonce]; decide) (by rw [hnonce]; decide)
      refine ⟨entropy.vector gcmIvSize, ciphered.take (ciphered.length - gcmTagSize),
        ciphered.drop (ciphered.length - gcmTagSize), ?_, ?_⟩
      · simp [encryptContent, hgcm, hencrypt, bind, Except.bind]
      · simp [decryptContent, hgcm, List.take_append_drop, hdecrypt]
  | false =>
      have hiv : (entropy.vector cbcIvSize).length = cbcIvSize := entropy.vector_length _
      have hblocks : (Pkcs7.pad cbcIvSize plaintext).length % cbcIvSize = 0 :=
        Pkcs7.dvd_length_pad (by decide) plaintext
      have hunpad : Pkcs7.unpad cbcIvSize (Pkcs7.pad cbcIvSize plaintext) = some plaintext :=
        Pkcs7.unpad_pad (by decide) (by decide) plaintext
      obtain ⟨ciphertext, hencrypt, hdecrypt⟩ := lib.cbc_opens
        (cek.drop (method.cekSize / 2)) (entropy.vector cbcIvSize)
        (Pkcs7.pad cbcIvSize plaintext) (encKey_length hgcm h) hiv hblocks
      refine ⟨entropy.vector cbcIvSize, ciphertext, cbcHmac lib (cek.take (method.cekSize / 2)) aad
        (entropy.vector cbcIvSize) ciphertext method, ?_, ?_⟩
      · simp [encryptContent, hgcm, hencrypt, bind, Except.bind]
      · simp [decryptContent, hgcm, hdecrypt, unpadded, hunpad, bind, Except.bind]

/-! ## The compact form -/

/-- What is sealed under a content key is five segments, and is decrypted by whoever
finds the content key in the second. -/
theorem decryptCompact_sealContent (entropy : Entropy) {algorithm : JWEKeyManagementAlgorithm}
    {method : JWEEncryptionMethod} {cek encryptedKey : Bytes} (hcek : cek.length = method.cekSize)
    {sharedKek : Bytes} {rsaPrivateKey : Option lib.PrivateKey}
    (hkey : decryptKey lib algorithm encryptedKey sharedKek rsaPrivateKey = .ok cek)
    {header : String} (hheader : IsBase64Url header) (plaintext : Bytes) :
    ∃ segments : Segments, segments.WellFormed ∧ segments.header = header ∧
      sealContent lib entropy method header cek encryptedKey plaintext = .ok segments.compact ∧
      decryptCompact lib segments.compact algorithm method sharedKek rsaPrivateKey
        = .ok plaintext := by
  obtain ⟨iv, ciphertext, tag, hencrypt, hdecrypt⟩ :=
    decryptContent_encryptContent lib entropy hcek (utf8Encode header) plaintext
  let segments : Segments :=
    ⟨header, b64u encryptedKey, b64u iv, b64u ciphertext, b64u tag⟩
  have hformed : segments.WellFormed :=
    ⟨hheader, b64u_isBase64Url _, b64u_isBase64Url _, b64u_isBase64Url _, b64u_isBase64Url _⟩
  have hascii := encodeAscii_isBase64Url hheader
  refine ⟨segments, hformed, rfl, ?_, ?_⟩
  · simp [sealContent, hascii, hencrypt, bind, Except.bind, segments]
  · unfold decryptCompact
    rw [splitCompact_compact hformed]
    simp [segments, b64uDecode_b64u, hkey, hascii, hdecrypt, bind, Except.bind]

/-- Whatever it was sealed under, the compact form is five segments. -/
theorem sealContent_form {entropy : Entropy} {method : JWEEncryptionMethod} {header : String}
    {cek encryptedKey plaintext : Bytes} {token : String} (hheader : IsBase64Url header)
    (h : sealContent lib entropy method header cek encryptedKey plaintext = .ok token) :
    ∃ segments : Segments, segments.WellFormed ∧ token = segments.compact := by
  obtain ⟨aad, _, h⟩ := bind_eq_ok.mp h
  obtain ⟨content, _, h⟩ := bind_eq_ok.mp h
  have hformed : Segments.WellFormed ⟨header, b64u encryptedKey, b64u content.1,
      b64u content.2.1, b64u content.2.2⟩ :=
    ⟨hheader, b64u_isBase64Url _, b64u_isBase64Url _, b64u_isBase64Url _, b64u_isBase64Url _⟩
  exact ⟨_, hformed, (Except.ok.inj h).symm⟩

theorem encryptCompact_form {entropy : Entropy} {algorithm : JWEKeyManagementAlgorithm}
    {method : JWEEncryptionMethod} {plaintext sharedKek : Bytes}
    {rsaPublicKey : Option lib.PublicKey} {token : String}
    (h : encryptCompact lib entropy algorithm method plaintext sharedKek rsaPublicKey
      = .ok token) : ∃ segments : Segments, segments.WellFormed ∧ token = segments.compact := by
  unfold encryptCompact at h
  obtain ⟨keys, _, h⟩ := bind_eq_ok.mp h
  exact sealContent_form
    (protectedB64_isBase64Url [("alg", algorithm.value), ("enc", method.value)]) h

theorem sealIdToken_form {p : Platform} {entropy : Entropy} {idToken : String}
    {jwks : List Json} {algorithm : JWEKeyManagementAlgorithm} {method : JWEEncryptionMethod}
    {sharedSecret token : String}
    (h : sealIdToken lib p entropy idToken jwks algorithm method sharedSecret = .ok token) :
    ∃ segments : Segments, segments.WellFormed ∧ token = segments.compact := by
  unfold sealIdToken at h
  obtain ⟨keys, _, h⟩ := bind_eq_ok.mp h
  exact sealContent_form (protectedB64_isBase64Url
    [("alg", algorithm.value), ("enc", method.value), ("cty", "JWT")]) h

/-! ## The content key -/

/-- The recipient's side of the keys a token is encrypted for: the private key of an RSA
key of the size the server requires, or the shared key itself. -/
def KeysMatch (lib : Cryptography) (algorithm : JWEKeyManagementAlgorithm)
    (method : JWEEncryptionMethod) (sharedKek : Bytes) (rsaPublicKey : Option lib.PublicKey)
    (rsaPrivateKey : Option lib.PrivateKey) : Prop :=
  if algorithm.isAsymmetric then
    ∃ key, rsaPublicKey = some (lib.publicKey key) ∧ rsaPrivateKey = some key ∧
      KeyValidation.minRsaModulusBits ≤ lib.modulusBits (lib.publicKey key)
  else sharedKek.length = kekSize algorithm method

/-- A content key fits in a key of the required size. -/
theorem oaep_contentKey {digest : Digest} (hdigest : digest.size ≤ 32)
    {method : JWEEncryptionMethod} {cek : Bytes} (h : cek.length = method.cekSize)
    {key : lib.PublicKey} (hbits : KeyValidation.minRsaModulusBits ≤ lib.modulusBits key)
    (seed : Nat) : ∃ encrypted, lib.oaepEncrypt digest key seed cek = .ok encrypted := by
  apply lib.oaep_encrypts
  have hcek : cek.length ≤ 64 := by
    rw [h]
    cases method <;> decide
  have hmin : KeyValidation.minRsaModulusBits = 2048 := rfl
  omega

theorem oaep_size (algorithm : JWEKeyManagementAlgorithm) : (oaep algorithm).size ≤ 32 := by
  cases algorithm <;> decide

/-- A content key is wrapped under a key of the length its algorithm prescribes. -/
theorem wrap_contentKey (lib : Cryptography) {algorithm : JWEKeyManagementAlgorithm} {method : JWEEncryptionMethod}
    {kek cek : Bytes} (hasymmetric : algorithm.isAsymmetric = false)
    (hdirect : algorithm ≠ .direct) (hkek : kek.length = kwKekSize algorithm)
    (hcek : cek.length = method.cekSize) :
    ∃ wrapped, lib.keyWrap kek cek = .ok wrapped ∧ lib.keyUnwrap kek wrapped = .ok cek := by
  apply lib.wrap_opens
  · rw [hkek]
    cases algorithm with
    | rsaOaep => cases hasymmetric
    | rsaOaep256 => cases hasymmetric
    | a128kw => decide
    | a256kw => decide
    | direct => exact absurd rfl hdirect
  · rw [hcek]
    cases method <;> decide
  · rw [hcek]
    cases method <;> decide

/-- The recipient finds the content key. -/
theorem decryptKey_encryptKey (entropy : Entropy) {algorithm : JWEKeyManagementAlgorithm}
    {method : JWEEncryptionMethod} {sharedKek : Bytes} {rsaPublicKey : Option lib.PublicKey}
    {rsaPrivateKey : Option lib.PrivateKey}
    (h : KeysMatch lib algorithm method sharedKek rsaPublicKey rsaPrivateKey) :
    ∃ cek encryptedKey,
      encryptKey lib entropy algorithm method sharedKek rsaPublicKey = .ok (cek, encryptedKey) ∧
        cek.length = method.cekSize ∧
        decryptKey lib algorithm encryptedKey sharedKek rsaPrivateKey = .ok cek := by
  unfold KeysMatch at h
  have hdrawn : (entropy.contentKey method.cekSize).length = method.cekSize :=
    entropy.contentKey_length _
  cases hasymmetric : algorithm.isAsymmetric with
  | true =>
      rw [if_pos hasymmetric] at h
      obtain ⟨key, rfl, rfl, hbits⟩ := h
      obtain ⟨encrypted, hencrypt⟩ := oaep_contentKey (oaep_size algorithm) hdrawn
        hbits entropy.seed
      refine ⟨entropy.contentKey method.cekSize, encrypted, ?_, hdrawn, ?_⟩
      · simp [encryptKey, hasymmetric, hencrypt, bind, Except.bind]
      · simpa [decryptKey, hasymmetric] using lib.oaep_opens _ _ _ _ _ hencrypt
  | false =>
      rw [hasymmetric, if_neg Bool.false_ne_true] at h
      unfold kekSize at h
      by_cases hdirect : algorithm = .direct
      · rw [if_pos hdirect] at h
        subst hdirect
        refine ⟨sharedKek, [], ?_, h, ?_⟩
        · simp [encryptKey, JWEKeyManagementAlgorithm.isAsymmetric, h]
        · simp [decryptKey, JWEKeyManagementAlgorithm.isAsymmetric]
      · rw [if_neg hdirect] at h
        obtain ⟨wrapped, hwrap, hunwrap⟩ := wrap_contentKey lib hasymmetric hdirect h
          hdrawn
        refine ⟨entropy.contentKey method.cekSize, wrapped, ?_, hdrawn, ?_⟩
        · simp [encryptKey, hasymmetric, hdirect, h, hwrap, bind, Except.bind]
        · simp [decryptKey, hasymmetric, hdirect, h, hunwrap]

/-! ## The round trips -/

/-- What is encrypted for a recipient is five segments, and is decrypted by it. -/
theorem decryptCompact_encryptCompact (entropy : Entropy) {algorithm : JWEKeyManagementAlgorithm}
    {method : JWEEncryptionMethod} {sharedKek : Bytes} {rsaPublicKey : Option lib.PublicKey}
    {rsaPrivateKey : Option lib.PrivateKey}
    (h : KeysMatch lib algorithm method sharedKek rsaPublicKey rsaPrivateKey)
    (plaintext : Bytes) :
    ∃ segments : Segments, segments.WellFormed ∧
      encryptCompact lib entropy algorithm method plaintext sharedKek rsaPublicKey
        = .ok segments.compact ∧
      decryptCompact lib segments.compact algorithm method sharedKek rsaPrivateKey
        = .ok plaintext := by
  obtain ⟨cek, encryptedKey, hencrypt, hcek, hkey⟩ :=
    decryptKey_encryptKey entropy h
  obtain ⟨segments, hformed, _, hseal, hopen⟩ :=
    decryptCompact_sealContent entropy hcek hkey
      (protectedB64_isBase64Url [("alg", algorithm.value), ("enc", method.value)]) plaintext
  refine ⟨segments, hformed, ?_, hopen⟩
  unfold encryptCompact
  simp only [hencrypt, bind, Except.bind]
  exact hseal

/-! ## The id_token of a client -/

/-- The key a client decrypts its `id_token` with: the private key of the RSA key that is
looked up in its JWK Set, or the key derived from its secret. -/
inductive ClientSide (lib : Cryptography) (p : Platform) (jwks : List Json)
    (sharedSecret : String) (algorithm : JWEKeyManagementAlgorithm)
    (method : JWEEncryptionMethod) : Bytes → Option lib.PrivateKey → Prop
  | rsa (key : lib.PrivateKey) (asymmetric : algorithm.isAsymmetric = true)
      (registered : rsaPublicKeyFromJwks lib p jwks = .ok (lib.publicKey key)) :
      ClientSide lib p jwks sharedSecret algorithm method [] (some key)
  | secret (symmetric : algorithm.isAsymmetric = false) (nonempty : sharedSecret ≠ "") :
      ClientSide lib p jwks sharedSecret algorithm method
        (deriveContentKey lib sharedSecret (kekSize algorithm method)) none

variable {p : Platform}

/-- An RSA key is built from an odd exponent below its modulus. -/
theorem rsaPublicKey_accepted {e n : Nat} {key : lib.PublicKey}
    (h : lib.rsaPublicKey e n = .ok key) :
    (e % 2 = 1 ∧ 3 ≤ e ∧ e < n) ∧ lib.modulusBits key = KeyValidation.bitLength n := by
  by_cases hvalid : e % 2 = 1 ∧ 3 ≤ e ∧ e < n
  · obtain ⟨built, hbuilt, hbits⟩ := lib.rsaPublicKey_ok e n hvalid.1 hvalid.2.1 hvalid.2.2
    rw [h] at hbuilt
    cases hbuilt
    exact ⟨hvalid, hbits⟩
  · obtain ⟨message, hrefused⟩ := lib.rsaPublicKey_refused e n (by omega)
    rw [h] at hrefused
    cases hrefused

theorem rsaNumbers_size {key : Members} {n e : Nat} (h : rsaNumbers p key = some (n, e)) :
    KeyValidation.minRsaModulusBits ≤ KeyValidation.bitLength n := by
  unfold rsaNumbers at h
  split at h
  · cases h
  split at h
  · split at h
    · cases h
    · rename_i hrejected
      cases h
      omega
  · cases h

/-- The key the lookup stops at has the required size. -/
theorem rsaPublicKeyFromJwks_bits {jwks : List Json} {key : lib.PublicKey}
    (h : rsaPublicKeyFromJwks lib p jwks = .ok key) :
    KeyValidation.minRsaModulusBits ≤ lib.modulusBits key := by
  induction jwks with
  | nil => cases h
  | cons value rest ih =>
      cases value with
      | obj jwk =>
          unfold rsaPublicKeyFromJwks at h
          cases hnumbers : rsaNumbers p jwk with
          | none =>
              rw [hnumbers] at h
              exact ih h
          | some numbers =>
              rw [hnumbers] at h
              have hsize := rsaNumbers_size hnumbers
              rw [(rsaPublicKey_accepted h).2]
              exact hsize
      | null => cases h
      | bool b => cases h
      | num text => cases h
      | str s => cases h
      | arr items => cases h

/-- The client finds the content key of its `id_token`. -/
theorem decryptKey_sealKey (entropy : Entropy) {jwks : List Json} {sharedSecret : String}
    {algorithm : JWEKeyManagementAlgorithm} {method : JWEEncryptionMethod} {sharedKek : Bytes}
    {rsaPrivateKey : Option lib.PrivateKey}
    (h : ClientSide lib p jwks sharedSecret algorithm method sharedKek rsaPrivateKey) :
    ∃ cek encryptedKey,
      sealKey lib p entropy jwks algorithm method sharedSecret = .ok (cek, encryptedKey) ∧
        cek.length = method.cekSize ∧
        decryptKey lib algorithm encryptedKey sharedKek rsaPrivateKey = .ok cek := by
  have hdrawn : (entropy.contentKey method.cekSize).length = method.cekSize :=
    entropy.contentKey_length _
  cases h with
  | rsa key hasymmetric hregistered =>
      obtain ⟨encrypted, hencrypt⟩ := oaep_contentKey (oaep_size algorithm) hdrawn
        (rsaPublicKeyFromJwks_bits hregistered) entropy.seed
      refine ⟨entropy.contentKey method.cekSize, encrypted, ?_, hdrawn, ?_⟩
      · simp [sealKey, hasymmetric, hregistered, hencrypt, bind, Except.bind]
      · simpa [decryptKey, hasymmetric] using lib.oaep_opens _ _ _ _ _ hencrypt
  | secret hsymmetric hnonempty =>
      have hkek : (deriveContentKey lib sharedSecret (kekSize algorithm method)).length
          = kekSize algorithm method := lib.hkdf_length _ _
      by_cases hdirect : algorithm = .direct
      · subst hdirect
        refine ⟨_, [], ?_, hkek, ?_⟩
        · simp [sealKey, JWEKeyManagementAlgorithm.isAsymmetric, hnonempty]
        · simp [decryptKey, JWEKeyManagementAlgorithm.isAsymmetric]
      · have hsize : kekSize algorithm method = kwKekSize algorithm := if_neg hdirect
        rw [hsize] at hkek ⊢
        obtain ⟨wrapped, hwrap, hunwrap⟩ := wrap_contentKey lib hsymmetric hdirect hkek
          hdrawn
        refine ⟨entropy.contentKey method.cekSize, wrapped, ?_, hdrawn, ?_⟩
        · simp [sealKey, hsymmetric, hnonempty, hdirect, hsize, hwrap, bind, Except.bind]
        · simp [decryptKey, hsymmetric, hdirect, hkek, hunwrap]

/-- The `id_token` sealed for a client is five segments, and is decrypted by it. -/
theorem decryptCompact_sealIdToken (entropy : Entropy) {jwks : List Json}
    {sharedSecret : String} {algorithm : JWEKeyManagementAlgorithm}
    {method : JWEEncryptionMethod} {sharedKek : Bytes} {rsaPrivateKey : Option lib.PrivateKey}
    (h : ClientSide lib p jwks sharedSecret algorithm method sharedKek rsaPrivateKey)
    (idToken : String) :
    ∃ segments : Segments, segments.WellFormed ∧
      sealIdToken lib p entropy idToken jwks algorithm method sharedSecret
        = .ok segments.compact ∧
      decryptCompact lib segments.compact algorithm method sharedKek rsaPrivateKey
        = .ok (utf8Encode idToken) := by
  obtain ⟨cek, encryptedKey, hseal, hcek, hkey⟩ := decryptKey_sealKey entropy h
  obtain ⟨segments, hformed, _, hcontent, hopen⟩ :=
    decryptCompact_sealContent entropy hcek hkey
      (protectedB64_isBase64Url
        [("alg", algorithm.value), ("enc", method.value), ("cty", "JWT")]) (utf8Encode idToken)
  refine ⟨segments, hformed, ?_, hopen⟩
  unfold sealIdToken
  simp only [hseal, bind, Except.bind]
  exact hcontent

/-! ## A library without secrecy -/

namespace Transparent

/-- The tag of every ciphertext. -/
def tag : Bytes := List.replicate gcmTagSize 0

/-- The bytes a wrapped key starts with. -/
def wrapMark : Bytes := List.replicate 8 0xA6

def fits (digest : Digest) (bits length : Nat) : Bool := length + 2 * digest.size + 2 ≤ (bits + 7) / 8

def gcmLengths (key nonce : Bytes) : Bool :=
  key.length ∈ aesKeySizes ∧ 8 ≤ nonce.length ∧ nonce.length ≤ 128

def tagged (data : Bytes) : Bool :=
  gcmTagSize ≤ data.length ∧ data.drop (data.length - gcmTagSize) = tag

/-- An RSA modulus of 2048 bits. -/
def modulus : Nat := Nat.pow 2 2047 + 1

/-- A key is its exponent and its modulus; ciphers answer the plaintext, with the lengths
and the marks of the real ones. -/
def cryptography : Cryptography where
  PrivateKey := Nat × Nat
  PublicKey := Nat × Nat
  publicKey := id
  modulusBits key := KeyValidation.bitLength key.2
  loadPem pem := if pem = "rsa" then .ok (some (65537, modulus)) else .ok none
  rsaPublicKey e n :=
    if e % 2 = 1 ∧ 3 ≤ e ∧ e < n then .ok (e, n) else .error (.valueError "e must be odd")
  oaepEncrypt digest key _ message :=
    if fits digest (KeyValidation.bitLength key.2) message.length then .ok message
    else .error (.valueError "Encryption failed")
  oaepDecrypt _ _ ciphertext := .ok ciphertext
  keyWrap _ key := .ok (wrapMark ++ key)
  keyUnwrap _ wrapped :=
    if wrapped.take 8 = wrapMark then .ok (wrapped.drop 8) else .error .invalidUnwrap
  gcmEncrypt _ _ data _ := .ok (data ++ tag)
  gcmDecrypt key nonce data _ :=
    if !gcmLengths key nonce then .error (.valueError "Invalid key or nonce")
    else if tagged data then .ok (data.take (data.length - gcmTagSize))
    else .error .invalidTag
  cbcEncrypt _ _ data := .ok data
  cbcDecrypt key iv data :=
    if key.length ∈ aesKeySizes ∧ iv.length = cbcIvSize ∧ data.length % cbcIvSize = 0 then .ok data
    else .error (.valueError "Invalid key or vector")
  hmac digest _ _ := List.replicate digest.size 0
  hkdf _ size := List.replicate size 0
  rsaPublicKey_ok := by
    intro e n hodd hthree hlt
    exact ⟨(e, n), if_pos ⟨hodd, hthree, hlt⟩, rfl⟩
  rsaPublicKey_refused := by
    intro e n h
    exact ⟨_, if_neg (by omega)⟩
  oaep_encrypts := by
    intro digest key seed message h
    exact ⟨message, if_pos (by simpa [fits] using h)⟩
  oaep_opens := by
    intro digest key seed message ciphertext h
    split at h
    · cases h
      rfl
    · cases h
  oaep_refused := by
    intro digest key ciphertext e h
    cases h
  wrap_opens := by
    intro kek key _ _ _
    exact ⟨wrapMark ++ key, rfl, by simp [wrapMark]⟩
  gcm_opens := by
    intro key nonce data aad hkey hshort hlong
    have hlengths : gcmLengths key nonce = true := by simp [gcmLengths, hkey, hshort, hlong]
    refine ⟨data ++ tag, rfl, by simp [tag], ?_⟩
    simp [hlengths, tagged, tag]
  gcm_lengths := by
    intro key nonce data aad h
    have hlengths : gcmLengths key nonce = false := by simpa [gcmLengths] using h
    exact ⟨"Invalid key or nonce", by simp [hlengths]⟩
  gcm_tag := by
    intro key nonce data aad e hkey hshort hlong h
    have hlengths : gcmLengths key nonce = true := by simp [gcmLengths, hkey, hshort, hlong]
    rw [hlengths] at h
    split at h
    · rename_i hfalse
      cases hfalse
    split at h
    · cases h
    · cases h
      rfl
  cbc_opens := by
    intro key iv data hkey hiv hdata
    exact ⟨data, rfl, if_pos ⟨hkey, hiv, hdata⟩⟩
  cbc_refused := by
    intro key iv data e h
    split at h
    · cases h
    · cases h
      exact ⟨_, rfl⟩
  cbc_lengths := by
    intro key iv data found h
    split at h
    · rename_i hvalid
      exact ⟨hvalid.1, hvalid.2.1⟩
    · cases h
  hmac_length := by
    intro digest key data
    simp
  hkdf_length := by
    intro secret size
    simp

def entropy : Entropy where
  contentKey size := List.replicate size 7
  vector size := List.replicate size 9
  seed := 0
  contentKey_length := by simp
  vector_length := by simp

end Transparent

end PurIdentityServer.Jwe

import PurIdentityServer.Infrastructure.JweRoundTrip

/-!
# JweTotality — the encrypted request objects that are not answered

`decrypt` turns `TypeError` and `ValueError` into a refusal. What is refused
before the content is decrypted raises nothing else, and AES-CBC does not
either; `AESGCM.decrypt` raises `InvalidTag`, which is neither. The lengths
are the library's, not the method's: AES-GCM takes any AES key and a nonce
of 8 to 128 bytes, and the tag is wherever the last two segments put it.
-/

namespace PurIdentityServer.Jwe

open Effects
open Jwks (KeyPair utf8Decode)

section
variable (lib : Cryptography)

/-- What a document gives once its content key is known. -/
structure Content where
  method : JWEEncryptionMethod
  cek : Bytes
  aad : Bytes
  iv : Bytes
  ciphertext : Bytes
  tag : Bytes

/-- The document is decrypted down to its content: an active key is found for it, opens
its content key, and its segments are read. -/
def Reaches (active : List KeyPair) (document algorithm method keyId : String)
    (content : Content) : Prop :=
  ∃ keyPair jweAlgorithm privateKey segments encryptedKey,
    encryptionKey active keyId = some keyPair ∧
    JWEKeyManagementAlgorithm.ofValue? algorithm = some jweAlgorithm ∧
    JWEEncryptionMethod.ofValue? method = some content.method ∧
    loadPrivateKey lib keyPair.privateKeyPem = .ok privateKey ∧
    splitCompact document = .ok segments ∧
    b64uDecode segments.encryptedKey = .ok encryptedKey ∧
    decryptKey lib jweAlgorithm encryptedKey [] (some privateKey) = .ok content.cek ∧
    encodeAscii segments.header = .ok content.aad ∧
    b64uDecode segments.iv = .ok content.iv ∧
    b64uDecode segments.ciphertext = .ok content.ciphertext ∧
    b64uDecode segments.tag = .ok content.tag

/-- The decryption of a content. -/
def Content.opened (c : Content) : Except JweError Bytes :=
  decryptContent lib c.method c.cek c.aad c.iv c.ciphertext c.tag

/-- The lengths the method prescribes for the vector and the tag. -/
def ivSize (method : JWEEncryptionMethod) : Nat := if method.isGcm then gcmIvSize else cbcIvSize

def tagSize (method : JWEEncryptionMethod) : Nat :=
  if method.isGcm then gcmTagSize else (hmacHash method).size / 2

/-- The content key, the vector and the tag have the lengths of the method. -/
structure Content.Exact (c : Content) : Prop where
  cek : c.cek.length = c.method.cekSize
  iv : c.iv.length = ivSize c.method
  tag : c.tag.length = tagSize c.method

/-- AES-GCM takes the key and the nonce, and the tag does not authenticate. -/
structure Content.Tampered (c : Content) : Prop where
  gcm : c.method.isGcm = true
  cek : c.cek.length ∈ aesKeySizes
  short : 8 ≤ c.iv.length
  long : c.iv.length ≤ 128
  rejected : ∀ data, lib.gcmDecrypt c.cek c.iv (c.ciphertext ++ c.tag) c.aad ≠ .ok data

/-- A length is not the method's, and still the content authenticates and is a text: AES-GCM
takes any AES key, a nonce of 8 to 128 bytes and a tag cut anywhere; AES-CBC any content key
whose rest, the half of the method taken off, is an AES key. -/
inductive Content.Foreign (c : Content) : Prop
  | gcm (gcm : c.method.isGcm = true) (cek : c.cek.length ∈ aesKeySizes)
      (short : 8 ≤ c.iv.length) (long : c.iv.length ≤ 128)
      (other : c.cek.length ≠ c.method.cekSize ∨ c.iv.length ≠ gcmIvSize ∨
        c.tag.length ≠ gcmTagSize)
      (data : Bytes) (text : String)
      (authentic : lib.gcmDecrypt c.cek c.iv (c.ciphertext ++ c.tag) c.aad = .ok data)
      (readable : utf8Decode data = some text)
  | cbc (cbc : c.method.isGcm = false)
      (cek : (c.cek.drop (c.method.cekSize / 2)).length ∈ aesKeySizes)
      (other : c.cek.length ≠ c.method.cekSize) (iv : c.iv.length = cbcIvSize)
      (padded data : Bytes) (text : String)
      (authentic : c.tag = cbcHmac lib (c.cek.take (c.method.cekSize / 2)) c.aad c.iv
        c.ciphertext c.method)
      (decrypted : lib.cbcDecrypt (c.cek.drop (c.method.cekSize / 2)) c.iv c.ciphertext
        = .ok padded)
      (whole : Pkcs7.unpad cbcIvSize padded = some data)
      (readable : utf8Decode data = some text)

/-- `load_pem_private_key` raises on the key of the server something that is not caught. -/
def LoadRaises (active : List KeyPair) (algorithm method keyId : String) : Prop :=
  ∃ keyPair e, encryptionKey active keyId = some keyPair ∧
    (JWEKeyManagementAlgorithm.ofValue? algorithm).isSome = true ∧
    (JWEEncryptionMethod.ofValue? method).isSome = true ∧
    Text.isAscii keyPair.privateKeyPem = true ∧
    lib.loadPem keyPair.privateKeyPem = .error e ∧ e.caught = none

end

/-! ## Exceptions that are caught -/

variable {lib : Cryptography}

/-- The exceptions of the computation that are not caught. -/
def Escaping (e : JweError) : Prop := e.caught = none

@[simp] theorem not_escaping_valueError (message : String) :
    ¬Escaping (.valueError message) := by
  simp [Escaping, JweError.caught]

@[simp] theorem escaping_invalidTag : Escaping .invalidTag := rfl

@[simp] theorem not_raisesIn_b64uDecode (value : String) :
    ¬RaisesIn Escaping (b64uDecode value) := by
  unfold b64uDecode
  split <;> simp

@[simp] theorem not_raisesIn_encodeAscii (value : String) :
    ¬RaisesIn Escaping (encodeAscii value) := by
  unfold encodeAscii
  split <;> simp

@[simp] theorem not_raisesIn_decodeUtf8 (data : Bytes) :
    ¬RaisesIn Escaping (decodeUtf8 data) := by
  unfold decodeUtf8
  split <;> simp

@[simp] theorem not_raisesIn_splitCompact (token : String) :
    ¬RaisesIn Escaping (splitCompact token) := by
  unfold splitCompact
  split <;> simp

@[simp] theorem not_raisesIn_enumerated {α : Type} (found : Option α) (printed name : String) :
    ¬RaisesIn Escaping (enumerated found printed name) := by
  unfold enumerated
  split <;> simp

@[simp] theorem not_raisesIn_unpadded (padded : Bytes) : ¬RaisesIn Escaping (unpadded padded) := by
  unfold unpadded
  split <;> simp

/-- Without a shared key, the content key is opened with RSA or not at all. -/
@[simp] theorem not_raisesIn_decryptKey (algorithm : JWEKeyManagementAlgorithm)
    (encryptedKey : Bytes) (privateKey : lib.PrivateKey) :
    ¬RaisesIn Escaping (decryptKey lib algorithm encryptedKey [] (some privateKey)) := by
  have hoaep : ∀ digest, ¬RaisesIn Escaping (lib.oaepDecrypt digest privateKey encryptedKey) := by
    rintro digest ⟨e, herror, hescapes⟩
    obtain ⟨message, rfl⟩ := lib.oaep_refused _ _ _ _ herror
    exact not_escaping_valueError message hescapes
  unfold decryptKey
  cases algorithm with
  | rsaOaep => exact hoaep _
  | rsaOaep256 => exact hoaep _
  | a128kw => simp [JWEKeyManagementAlgorithm.isAsymmetric, kwKekSize, kekRefusal]
  | a256kw => simp [JWEKeyManagementAlgorithm.isAsymmetric, kwKekSize, kekRefusal]
  | direct =>
      simp only [JWEKeyManagementAlgorithm.isAsymmetric, Bool.false_eq_true, if_false, if_true]
      split <;> simp

/-! ## The two that are not -/

@[simp] theorem not_raisesIn_rsaOnly (key : Option lib.PrivateKey) :
    ¬RaisesIn Escaping (rsaOnly lib key) := by
  cases key <;> simp [rsaOnly]

theorem raisesIn_loadPrivateKey {pem : String} :
    RaisesIn Escaping (loadPrivateKey lib pem) ↔
      Text.isAscii pem = true ∧ RaisesIn Escaping (lib.loadPem pem) := by
  unfold loadPrivateKey
  rw [raisesIn_bind_of_check (not_raisesIn_encodeAscii pem),
    raisesIn_bind_of_quiet fun key _ => not_raisesIn_rsaOnly key]
  by_cases hascii : Text.isAscii pem = true <;> simp [encodeAscii, hascii]

/-- The content key opened, the only exception left is that of the tag of AES-GCM. -/
theorem raisesIn_opened {c : Content} : RaisesIn Escaping (c.opened lib) ↔ c.Tampered lib := by
  unfold Content.opened decryptContent
  cases hgcm : c.method.isGcm with
  | true =>
      rw [if_pos rfl]
      by_cases hlengths : c.cek.length ∈ aesKeySizes ∧ 8 ≤ c.iv.length ∧ c.iv.length ≤ 128
      · obtain ⟨hcek, hshort, hlong⟩ := hlengths
        constructor
        · rintro ⟨e, herror, _⟩
          refine ⟨hgcm, hcek, hshort, hlong, ?_⟩
          intro data hdata
          rw [herror] at hdata
          cases hdata
        · intro h
          cases hresult : lib.gcmDecrypt c.cek c.iv (c.ciphertext ++ c.tag) c.aad with
          | ok data => exact absurd hresult (h.rejected data)
          | error e =>
              cases lib.gcm_tag _ _ _ _ e hcek hshort hlong hresult
              simp
      · obtain ⟨message, herror⟩ := lib.gcm_lengths c.cek c.iv (c.ciphertext ++ c.tag) c.aad
          hlengths
        rw [herror]
        simp only [raisesIn_error, not_escaping_valueError, false_iff]
        intro h
        exact hlengths ⟨h.cek, h.short, h.long⟩
  | false =>
      rw [if_neg Bool.false_ne_true]
      have hquiet : ¬c.Tampered lib := by
        intro h
        rw [h.gcm] at hgcm
        cases hgcm
      rw [iff_false_right hquiet]
      dsimp only
      split
      · simp
      · rw [raisesIn_bind_of_quiet fun padded _ => not_raisesIn_unpadded padded]
        rintro ⟨e, herror, hescapes⟩
        obtain ⟨message, rfl⟩ := lib.cbc_refused _ _ _ _ herror
        exact not_escaping_valueError message hescapes

/-! ## The decryption -/

theorem enumerated_eq_ok {α : Type} {found : Option α} {printed name : String} {a : α} :
    enumerated found printed name = .ok a ↔ found = some a := by
  cases found <;> simp [enumerated]

theorem decodeUtf8_eq_ok {data : Bytes} {text : String} :
    decodeUtf8 data = .ok text ↔ utf8Decode data = some text := by
  unfold decodeUtf8
  cases utf8Decode data <;> simp

/-- The content a document gives is decrypted and read as text. -/
theorem decryptWith_ok_iff {repr : String → String} {active : List KeyPair}
    {document algorithm method keyId : String} {keyPair : KeyPair}
    (hkey : encryptionKey active keyId = some keyPair) {text : String} :
    decryptWith lib repr document algorithm method keyPair = .ok text ↔
      ∃ content : Content, Reaches lib active document algorithm method keyId content ∧
        ∃ data, content.opened lib = .ok data ∧ utf8Decode data = some text := by
  unfold decryptWith decryptCompact
  simp only [bind_eq_ok, enumerated_eq_ok, decodeUtf8_eq_ok]
  constructor
  · rintro ⟨jweAlgorithm, halgorithm, jweMethod, hmethod, privateKey, hload, data,
      ⟨segments, hsplit, encryptedKey, hencrypted, cek, hcek, aad, haad, iv, hiv, ciphertext,
        hciphertext, tag, htag, hopened⟩, htext⟩
    exact ⟨⟨jweMethod, cek, aad, iv, ciphertext, tag⟩,
      ⟨keyPair, jweAlgorithm, privateKey, segments, encryptedKey, hkey, halgorithm, hmethod,
        hload, hsplit, hencrypted, hcek, haad, hiv, hciphertext, htag⟩, data, hopened, htext⟩
  · rintro ⟨content, ⟨other, jweAlgorithm, privateKey, segments, encryptedKey, hother, halgorithm,
      hmethod, hload, hsplit, hencrypted, hcek, haad, hiv, hciphertext, htag⟩, data, hopened,
      htext⟩
    rw [hkey] at hother
    cases hother
    exact ⟨jweAlgorithm, halgorithm, _, hmethod, privateKey, hload, data, ⟨segments, hsplit,
      encryptedKey, hencrypted, _, hcek, _, haad, _, hiv, _, hciphertext, _, htag, hopened⟩, htext⟩

/-- The exceptions of the decryption that are not caught. -/
theorem raisesIn_decryptWith {repr : String → String} {active : List KeyPair}
    {document algorithm method keyId : String} {keyPair : KeyPair}
    (hkey : encryptionKey active keyId = some keyPair) :
    RaisesIn Escaping (decryptWith lib repr document algorithm method keyPair) ↔
      LoadRaises lib active algorithm method keyId ∨
        ∃ content : Content, Reaches lib active document algorithm method keyId content ∧
          content.Tampered lib := by
  unfold decryptWith decryptCompact
  simp only [raisesIn_bind, not_raisesIn_enumerated, not_raisesIn_splitCompact,
    not_raisesIn_b64uDecode, not_raisesIn_decryptKey, not_raisesIn_encodeAscii,
    not_raisesIn_decodeUtf8, false_or, and_false, exists_false, or_false, enumerated_eq_ok,
    raisesIn_loadPrivateKey]
  constructor
  · rintro ⟨jweAlgorithm, halgorithm, jweMethod, hmethod, ⟨hascii, e, hload, hescapes⟩ |
      ⟨privateKey, hload, segments, hsplit, encryptedKey, hencrypted, cek, hcek, aad, haad, iv, hiv,
        ciphertext, hciphertext, tag, htag, hraises⟩⟩
    · left
      exact ⟨keyPair, e, hkey, by simp [halgorithm], by simp [hmethod], hascii, hload, hescapes⟩
    · right
      exact ⟨⟨jweMethod, cek, aad, iv, ciphertext, tag⟩,
        ⟨keyPair, jweAlgorithm, privateKey, segments, encryptedKey, hkey, halgorithm, hmethod,
          hload, hsplit, hencrypted, hcek, haad, hiv, hciphertext, htag⟩,
        raisesIn_opened.mp hraises⟩
  · rintro (⟨other, e, hother, halgorithm, hmethod, hascii, hload, hescapes⟩ |
      ⟨content, ⟨other, jweAlgorithm, privateKey, segments, encryptedKey, hother, halgorithm,
        hmethod, hload, hsplit, hencrypted, hcek, haad, hiv, hciphertext, htag⟩, htampered⟩)
    · rw [hkey] at hother
      cases hother
      obtain ⟨jweAlgorithm, halgorithm⟩ := Option.isSome_iff_exists.mp halgorithm
      obtain ⟨jweMethod, hmethod⟩ := Option.isSome_iff_exists.mp hmethod
      exact ⟨jweAlgorithm, halgorithm, jweMethod, hmethod, Or.inl ⟨hascii, e, hload, hescapes⟩⟩
    · rw [hkey] at hother
      cases hother
      exact ⟨jweAlgorithm, halgorithm, _, hmethod, Or.inr ⟨privateKey, hload, segments, hsplit,
        encryptedKey, hencrypted, _, hcek, _, haad, _, hiv, _, hciphertext, _, htag,
        raisesIn_opened.mpr htampered⟩⟩

/-! ## The answers -/

theorem contained_answers {r : Except JweError String} :
    (∃ result, contained r = .ok result) ↔ ¬RaisesIn Escaping r := by
  cases r with
  | ok text => simp [contained]
  | error e =>
      simp only [contained, raisesIn_error, Escaping]
      cases e.caught with
      | some message => simp
      | none => simp

theorem contained_plaintext {r : Except JweError String} {text : String} :
    contained r = .ok (.plaintext text) ↔ r = .ok text := by
  cases r with
  | ok found => simp [contained]
  | error e =>
      simp only [contained, reduceCtorEq, iff_false]
      split <;> simp

/-- The decryption answers a plaintext or a refusal. -/
def Answers (lib : Cryptography) (repr : String → String) (active : List KeyPair)
    (document algorithm method keyId : String) : Prop :=
  ∃ result, decrypt lib repr active document algorithm method keyId = .ok result

/-- A plaintext comes from a content whose lengths are those of its method. -/
def ExactLengths (lib : Cryptography) (repr : String → String) (active : List KeyPair)
    (document algorithm method keyId : String) : Prop :=
  ∀ text, decrypt lib repr active document algorithm method keyId = .ok (.plaintext text) →
    ∃ content : Content, Reaches lib active document algorithm method keyId content ∧ content.Exact

theorem answers_iff {repr : String → String} {active : List KeyPair}
    {document algorithm method keyId : String} :
    Answers lib repr active document algorithm method keyId ↔
      ¬LoadRaises lib active algorithm method keyId ∧
        ∀ content : Content, Reaches lib active document algorithm method keyId content →
          ¬content.Tampered lib := by
  unfold Answers decrypt
  cases hkey : encryptionKey active keyId with
  | none =>
      simp only [Except.ok.injEq, exists_eq', true_iff]
      constructor
      · rintro ⟨keyPair, _, hfound, _⟩
        rw [hkey] at hfound
        cases hfound
      · rintro content ⟨keyPair, _, _, _, _, hfound, _⟩
        rw [hkey] at hfound
        cases hfound
  | some keyPair =>
      simp only [contained_answers, raisesIn_decryptWith hkey, not_or, not_exists, not_and]

theorem cbcHmac_length (macKey aad iv ciphertext : Bytes) (method : JWEEncryptionMethod) :
    (cbcHmac lib macKey aad iv ciphertext method).length = (hmacHash method).size / 2 := by
  unfold cbcHmac
  rw [List.length_take, lib.hmac_length]
  exact Nat.min_eq_left (Nat.div_le_self _ _)

theorem unpadded_eq_ok {padded data : Bytes} :
    unpadded padded = .ok data ↔ Pkcs7.unpad cbcIvSize padded = some data := by
  unfold unpadded
  cases Pkcs7.unpad cbcIvSize padded <;> simp

theorem gcm_accepted {c : Content} {data : Bytes}
    (h : lib.gcmDecrypt c.cek c.iv (c.ciphertext ++ c.tag) c.aad = .ok data) :
    c.cek.length ∈ aesKeySizes ∧ 8 ≤ c.iv.length ∧ c.iv.length ≤ 128 := by
  by_contra hlengths
  obtain ⟨message, herror⟩ := lib.gcm_lengths _ _ (c.ciphertext ++ c.tag) c.aad hlengths
  rw [h] at herror
  cases herror

/-- The foreign contents are those that are opened with lengths that are not exact. -/
theorem foreign_iff {c : Content} :
    c.Foreign lib ↔
      ¬c.Exact ∧ ∃ data text, c.opened lib = .ok data ∧ utf8Decode data = some text := by
  constructor
  · intro h
    cases h with
    | gcm hgcm hcek hshort hlong hother data text hauthentic hreadable =>
        refine ⟨?_, data, text, ?_, hreadable⟩
        · rintro ⟨hcek, hiv, htag⟩
          rw [ivSize, if_pos hgcm] at hiv
          rw [tagSize, if_pos hgcm] at htag
          rcases hother with hother | hother | hother
          · exact hother hcek
          · exact hother hiv
          · exact hother htag
        · rw [Content.opened, decryptContent, if_pos hgcm]
          exact hauthentic
    | cbc hcbc hcek hother hiv padded data text hauthentic hdecrypted hwhole hreadable =>
        refine ⟨fun hexact => hother hexact.cek, data, text, ?_, hreadable⟩
        simp [Content.opened, decryptContent, hcbc, ← hauthentic, hdecrypted, unpadded_eq_ok,
          hwhole, bind, Except.bind]
  · rintro ⟨hexact, data, text, hopened, hreadable⟩
    unfold Content.opened decryptContent at hopened
    cases hgcm : c.method.isGcm with
    | true =>
        rw [if_pos hgcm] at hopened
        obtain ⟨hcek, hshort, hlong⟩ := gcm_accepted hopened
        refine .gcm hgcm hcek hshort hlong ?_ data text hopened hreadable
        by_contra hsame
        push Not at hsame
        obtain ⟨hcek, hiv, htag⟩ := hsame
        exact hexact ⟨hcek, by rw [ivSize, if_pos hgcm, hiv], by rw [tagSize, if_pos hgcm, htag]⟩
    | false =>
        rw [hgcm, if_neg Bool.false_ne_true] at hopened
        dsimp only at hopened
        split at hopened
        · cases hopened
        · rename_i hauthentic
          have hauthentic := not_not.mp hauthentic
          obtain ⟨padded, hdecrypted, hwhole⟩ := bind_eq_ok.mp hopened
          obtain ⟨hcek, hiv⟩ := lib.cbc_lengths _ _ _ _ hdecrypted
          have hnot : ¬c.method.isGcm = true := by simp [hgcm]
          refine .cbc hgcm hcek ?_ hiv padded data text hauthentic hdecrypted
            (unpadded_eq_ok.mp hwhole) hreadable
          intro hsame
          refine hexact ⟨hsame, by rw [ivSize, if_neg hnot, hiv], ?_⟩
          rw [tagSize, if_neg hnot, hauthentic, cbcHmac_length]

/-- A document gives one content. -/
theorem reaches_unique {active : List KeyPair} {document algorithm method keyId : String}
    {c d : Content} (hc : Reaches lib active document algorithm method keyId c)
    (hd : Reaches lib active document algorithm method keyId d) : c = d := by
  obtain ⟨_, _, _, _, _, hkey, halgorithm, hmethod, hload, hsplit, hencrypted, hcek, haad, hiv,
    hciphertext, htag⟩ := hc
  obtain ⟨_, _, _, _, _, hkey', halgorithm', hmethod', hload', hsplit', hencrypted', hcek', haad',
    hiv', hciphertext', htag'⟩ := hd
  rw [hkey] at hkey'
  cases hkey'
  rw [halgorithm] at halgorithm'
  cases halgorithm'
  rw [hload] at hload'
  cases hload'
  rw [hsplit] at hsplit'
  cases hsplit'
  rw [hencrypted] at hencrypted'
  cases hencrypted'
  rw [hmethod] at hmethod'
  rw [hcek] at hcek'
  rw [haad] at haad'
  rw [hiv] at hiv'
  rw [hciphertext] at hciphertext'
  rw [htag] at htag'
  cases c
  cases d
  cases hmethod'
  cases hcek'
  cases haad'
  cases hiv'
  cases hciphertext'
  cases htag'
  rfl

theorem exactLengths_iff {repr : String → String} {active : List KeyPair}
    {document algorithm method keyId : String} :
    ExactLengths lib repr active document algorithm method keyId ↔
      ∀ content : Content, Reaches lib active document algorithm method keyId content →
        ¬content.Foreign lib := by
  constructor
  · intro hexact content hreaches hcontent
    obtain ⟨hforeign, data, text, hopened, htext⟩ := foreign_iff.mp hcontent
    obtain ⟨keyPair, _, _, _, _, hkey, _⟩ := id hreaches
    have hanswer : decrypt lib repr active document algorithm method keyId
        = .ok (.plaintext text) := by
      unfold decrypt
      rw [hkey]
      exact contained_plaintext.mpr
        ((decryptWith_ok_iff hkey).mpr ⟨content, hreaches, data, hopened, htext⟩)
    obtain ⟨other, hother, hlengths⟩ := hexact text hanswer
    rw [reaches_unique hreaches hother] at hforeign
    exact hforeign hlengths
  · intro hforeign text hanswer
    unfold decrypt at hanswer
    cases hkey : encryptionKey active keyId with
    | none =>
        rw [hkey] at hanswer
        cases hanswer
    | some keyPair =>
        rw [hkey] at hanswer
        obtain ⟨content, hreaches, data, hopened, htext⟩ :=
          (decryptWith_ok_iff hkey).mp (contained_plaintext.mp hanswer)
        refine ⟨content, hreaches, ?_⟩
        by_contra hlengths
        exact hforeign content hreaches (foreign_iff.mpr ⟨hlengths, data, text, hopened, htext⟩)

/-- The decryption answers, and a plaintext only with the lengths of the method, exactly when
the key of the server loads or is refused, and the content the document gives is neither
rejected by AES-GCM nor accepted with lengths of another method. -/
theorem decrypt_total_iff {repr : String → String} {active : List KeyPair}
    {document algorithm method keyId : String} :
    Answers lib repr active document algorithm method keyId ∧
        ExactLengths lib repr active document algorithm method keyId ↔
      ¬LoadRaises lib active algorithm method keyId ∧
        ∀ content : Content, Reaches lib active document algorithm method keyId content →
          ¬content.Tampered lib ∧ ¬content.Foreign lib := by
  rw [answers_iff, exactLengths_iff]
  constructor
  · rintro ⟨⟨hloads, htampered⟩, hforeign⟩
    exact ⟨hloads, fun content hreaches => ⟨htampered content hreaches, hforeign content hreaches⟩⟩
  · rintro ⟨hloads, hcontent⟩
    exact ⟨⟨hloads, fun content hreaches => (hcontent content hreaches).1⟩,
      fun content hreaches => (hcontent content hreaches).2⟩

/-! ## A tampered document -/

namespace Transparent

def encKey : KeyPair where
  algorithm := .rs256
  use := .enc
  kid := "enc"
  privateKeyPem := "rsa"
  createdAt := 0

/-- Header, content key, vector and ciphertext, and a tag that is not theirs. -/
def tampered : String :=
  "e30.AAAAAAAAAAAAAAAAAAAAAA.AAAAAAAAAAAAAAAA.AQ.AQEBAQEBAQEBAQEBAQEBAQ"

end Transparent

open Transparent in
/-- `InvalidTag` leaves the decryption of the document. -/
theorem tampered_not_answered :
    ¬(Answers cryptography id [encKey] tampered "RSA-OAEP" "A128GCM" "" ∧
      ExactLengths cryptography id [encKey] tampered "RSA-OAEP" "A128GCM" "") := by
  rintro ⟨⟨result, hanswer⟩, _⟩
  have hraises : decrypt cryptography id [encKey] tampered "RSA-OAEP" "A128GCM" ""
      = .error .invalidTag := by decide +kernel
  rw [hraises] at hanswer
  cases hanswer

end PurIdentityServer.Jwe

import PurIdentityServer.Lib.Base64
import PurIdentityServer.Infrastructure.Keys

/-!
# Secrets — the client secrets at rest

`AsymmetricSecretCipher` seals a client secret under the newest key of
the family `KeyUse.SECRET` and prefixes the `kid` of that key; opening a
ciphertext tries the key of the prefix, then every active key. RSA-OAEP
is a parameter, assumed correct and to fail under a wrong key.

A history runs the manager, the cipher and the clock in any order. The
keys that sealed something stay in the store, and a ciphertext is
recovered exactly as long as one of the *active* keys holds the private
key it was sealed for: a retired key is kept but never tried.
-/

namespace PurIdentityServer.Jwks

open Effects (Table forEach)

attribute [local instance] instantOrder

/-- `cryptography` as the cipher calls it. -/
structure Oaep where
  PrivateKey : Type
  PublicKey : Type
  /-- `_load_private`: raises on an unreadable or a non-RSA key -/
  loadPrivate : String → Except KeyError PrivateKey
  /-- `_load_public` -/
  loadPublic : String → Except KeyError PublicKey
  /-- `private.public_key()` -/
  publicKey : PrivateKey → PublicKey
  /-- `public_bytes(PEM, SubjectPublicKeyInfo)` -/
  publicPem : PublicKey → String
  /-- `public.encrypt(value, _OAEP)` under a random seed, `none` when it raises -/
  encrypt : PublicKey → Nat → List UInt8 → Option (List UInt8)
  /-- `private.decrypt(ciphertext, _OAEP)`, `none` when it raises -/
  decrypt : PrivateKey → List UInt8 → Option (List UInt8)
  /-- `hashlib.sha256(data).digest()` -/
  sha256 : List UInt8 → List UInt8

/-- RSA-OAEP is correct, and fails under a wrong key. -/
structure Oaep.Laws (o : Oaep) : Prop where
  opens : ∀ key seed message ciphertext,
    o.encrypt (o.publicKey key) seed message = some ciphertext →
      o.decrypt key ciphertext = some message
  rejects : ∀ key seed message ciphertext other,
    o.encrypt (o.publicKey key) seed message = some ciphertext → other ≠ key →
      o.decrypt other ciphertext = none

/-- `value.encode("utf-8")`. -/
def utf8Encode (value : String) : List UInt8 := value.toUTF8.data.toList

/-- `data.decode("utf-8")`, `none` when it raises. -/
def utf8Decode (data : List UInt8) : Option String := String.fromUTF8? ⟨data.toArray⟩

theorem utf8Decode_encode (value : String) : utf8Decode (utf8Encode value) = some value := by
  show String.fromUTF8? value.toByteArray = some value
  rw [String.fromUTF8?, dif_pos value.isValidUTF8]
  rfl

/-- `token.partition(":")`: before, whether there is a colon, after. -/
def partitionColon (token : String) : String × Bool × String :=
  match token.toList.span fun c => c ≠ ':' with
  | (_, []) => (token, false, "")
  | (kid, _ :: body) => (String.ofList kid, true, String.ofList body)

/-- The text stored for a ciphertext: base64url without padding. -/
def sealedBody (ciphertext : List UInt8) : String :=
  String.ofList (Base64.rstripPad (Base64.urlsafeB64encode ciphertext))

structure AsymmetricSecretCipher where
  oaep : Oaep
  ports : KeyPorts

namespace AsymmetricSecretCipher

variable (c : AsymmetricSecretCipher)

/-- The manager of the sealing family. -/
def manager : DefaultKeyManager := { ports := c.ports, use := .secret }

def loadPrivate (pem : String) : KeyM c.oaep.PrivateKey :=
  match c.oaep.loadPrivate pem with
  | .ok key => pure key
  | .error e => throw e

def loadPublic (pem : String) : KeyM c.oaep.PublicKey :=
  match c.oaep.loadPublic pem with
  | .ok key => pure key
  | .error e => throw e

/-- `_key_kid`. -/
def keyKid (publicKeyPem : String) : String :=
  String.ofList (Base64.rstripPad (Base64.urlsafeB64encode
    ((c.oaep.sha256 (utf8Encode publicKeyPem)).take 9)))

/-- `load_seal_key_pair`, at the instant it is built. -/
def loadSealKeyPair (privateKeyPem : String) (now : Instant) : Except KeyError KeyPair := do
  let key ← c.oaep.loadPrivate privateKeyPem
  let publicPem := c.oaep.publicPem (c.oaep.publicKey key)
  return {
    algorithm := .rs256
    use := .secret
    kid := c.keyKid publicPem
    privateKeyPem := privateKeyPem
    publicKeyPem := publicPem
    createdAt := now }

/-- `_try_decrypt`. -/
def tryDecrypt (key : c.oaep.PrivateKey) (body : String) : Option String :=
  match Base64.urlsafeB64decode (body.toList ++ ['=', '=', '=']) with
  | none => none
  | some decoded => (c.oaep.decrypt key decoded).bind utf8Decode

/-- `_seal_keys`. -/
def sealKeys : KeyM (List KeyPair) := do
  let keys := (← c.manager.getActiveKeys).mergeSort DefaultKeyManager.older
  if keys.isEmpty then
    throw (.valueError "aucune clé de scellement (KeyUse.SECRET) dans le store key_pair")
  else return keys

/-- `keys[-1]`. -/
def newest (keys : List KeyPair) : KeyM KeyPair :=
  match keys.getLast? with
  | some key => pure key
  | none => throw .keyError

def encrypt (value : String) (seed : Nat) : KeyM String := do
  let keys ← c.sealKeys
  let newest ← newest keys
  let key ← c.loadPublic newest.publicKeyPem
  match c.oaep.encrypt key seed (utf8Encode value) with
  | none => throw (.valueError "Encryption failed")
  | some ciphertext => return newest.kid ++ ":" ++ sealedBody ciphertext

/-- The loop over the keys of `decrypt`. -/
def decryptWith (body : String) : List KeyPair → KeyM (Option String)
  | [] => return none
  | key :: rest => do
      let privateKey ← c.loadPrivate key.privateKeyPem
      match c.tryDecrypt privateKey body with
      | some plaintext => return some plaintext
      | none => decryptWith body rest

def decrypt (token : String) : KeyM String := do
  let keys ← c.sealKeys
  let (kid, separator, body) := partitionColon token
  let named := if separator then keys.reverse.find? fun key => key.kid = kid else none
  match ← c.decryptWith body named.toList with
  | some plaintext => return plaintext
  | none =>
      match ← c.decryptWith (if separator then body else token) keys.reverse with
      | some plaintext => return plaintext
      | none =>
          throw (.valueError
            "secret client indéchiffrable (clé de scellement retirée du store ?)")

def isCurrent (token : String) : KeyM Bool := do
  let (kid, separator, _) := partitionColon token
  let keys ← c.sealKeys
  let newest ← newest keys
  return separator && kid == newest.kid

def reencrypt (token : String) (seed : Nat) : KeyM String := do
  if ← c.isCurrent token then return token
  else c.encrypt (← c.decrypt token) seed

def rotateIfStale (keySize rotationDays : Int) : KeyM Bool := do
  let keys ← c.manager.getActiveKeys
  match keys.argmax KeyPair.createdAt with
  | none =>
      let _ ← c.manager.generateKeyPair keySize .rs256
      return true
  | some newest =>
      let deadline := (← get).clock - days rotationDays
      if newest.createdAt ≤ deadline then do
        let _ ← c.manager.generateKeyPair keySize .rs256
        return true
      else return false

end AsymmetricSecretCipher

/-! ## Histories -/

/-- A value sealed in the past: under which key, and the token stored. -/
structure SealedValue where
  key : KeyPair
  value : String
  token : String

/-- The two forms a stored secret may have: with the prefix of its key and,
from the older format, without. -/
def SealedValue.forms (e : SealedValue) : List String :=
  [e.token, (partitionColon e.token).2.2]

structure Vault where
  world : KeyWorld
  sealedValues : List SealedValue := []

/-- What happens to the keys and the secrets; the families share the store. -/
inductive VaultEvent where
  | wait (elapsed : Nat)
  | generate (use : KeyUse) (keySize : Int) (algorithm : JWTAlgorithm)
  | ensureActive (use : KeyUse) (keySize : Int) (algorithm : JWTAlgorithm)
  | rotate (use : KeyUse) (keySize : Int) (algorithm : JWTAlgorithm)
  | markExpired (use : KeyUse) (rotationDays gracePeriodDays : Int)
  | prune (use : KeyUse) (keep : Int)
  | rotateIfStale (keySize rotationDays : Int)
  | encrypt (value : String) (seed : Nat)
  | reencrypt (token : String) (seed : Nat)

/-- The answer of a program at a world. -/
def answer {α : Type} (x : KeyM α) (w : KeyWorld) : Except KeyError α :=
  (Effects.Raising.outcome x w).1

namespace AsymmetricSecretCipher

variable (c : AsymmetricSecretCipher)

/-- The active sealing keys, from the oldest to the newest. -/
def ring (w : KeyWorld) : List KeyPair :=
  (DefaultKeyManager.active .secret w).mergeSort DefaultKeyManager.older

/-- Remember a token that `encrypt` just answered. -/
def remember (v : Vault) (value : String) : Except KeyError String → Vault
  | .error _ => v
  | .ok token =>
      match (ring v.world).getLast? with
      | none => v
      | some key => { v with sealedValues := ⟨key, value, token⟩ :: v.sealedValues }

/-- The world after an event. -/
def after {α : Type} (v : Vault) (x : KeyM α) : Vault :=
  { v with world := (Effects.Raising.outcome x v.world).2 }

def exec (v : Vault) : VaultEvent → Vault
  | .wait elapsed => { v with world := { v.world with clock := v.world.clock + elapsed } }
  | .generate use keySize algorithm =>
      after v (DefaultKeyManager.generateKeyPair ⟨c.ports, use⟩ keySize algorithm)
  | .ensureActive use keySize algorithm =>
      after v (DefaultKeyManager.ensureActiveKey ⟨c.ports, use⟩ keySize algorithm)
  | .rotate use keySize algorithm =>
      after v (DefaultKeyManager.rotateKey ⟨c.ports, use⟩ keySize algorithm)
  | .markExpired use rotationDays gracePeriodDays =>
      after v (DefaultKeyManager.markExpiredKeys ⟨c.ports, use⟩ rotationDays gracePeriodDays)
  | .prune use keep => after v (DefaultKeyManager.pruneInactiveKeys ⟨c.ports, use⟩ keep)
  | .rotateIfStale keySize rotationDays => after v (c.rotateIfStale keySize rotationDays)
  | .encrypt value seed => remember v value (answer (c.encrypt value seed) v.world)
  | .reencrypt token seed =>
      -- a token that is current is answered as it came
      match answer (c.isCurrent token) v.world, answer (c.decrypt token) v.world with
      | .ok false, .ok value => remember v value (answer (c.reencrypt token seed) v.world)
      | _, _ => v

/-- A stored key and the private key in it. -/
structure SealPair (o : Oaep) (key : KeyPair) (privateKey : o.PrivateKey) : Prop where
  loads : o.loadPrivate key.privateKeyPem = .ok privateKey
  loadsPublic : o.loadPublic key.publicKeyPem = .ok (o.publicKey privateKey)
  name : ':' ∉ key.kid.toList

/-- A key of the sealing family is an RSA key. -/
def Seals (o : Oaep) (key : KeyPair) : Prop :=
  key.use = .secret → ∃ privateKey, SealPair o key privateKey

/-- What `cryptography` and `uuid4` give: an RSA pair of PEM texts loads as a
pair, and a `kid` is hexadecimal. -/
structure GeneratesRsa : Prop where
  loads : ∀ n keySize (algorithm : JWTAlgorithm) privatePem publicPem,
    algorithm.isRsa = true → c.ports.pems n keySize algorithm = some (privatePem, publicPem) →
      ∃ privateKey, c.oaep.loadPrivate privatePem = .ok privateKey ∧
        c.oaep.loadPublic publicPem = .ok (c.oaep.publicKey privateKey)
  name : ∀ n, ':' ∉ (c.ports.kid n).toList

/-- The sealing family is generated for the seal algorithm, an RSA one. -/
def VaultEvent.Rsa : VaultEvent → Prop
  | .generate use _ algorithm | .ensureActive use _ algorithm | .rotate use _ algorithm =>
      use = .secret → algorithm.isRsa = true
  | _ => True

/-- The vaults a history leads to, from stores whose sealing keys are RSA
keys. -/
inductive History : Vault → Prop where
  | start (w : KeyWorld) (h : w.All (Seals c.oaep)) : History { world := w }
  | step {v : Vault} (h : History v) (event : VaultEvent) (hrsa : VaultEvent.Rsa event) :
      History (c.exec v event)

/-- The events that only add keys: those of the server itself, which
generates a sealing key when there is none or the newest is stale. -/
def VaultEvent.Adds : VaultEvent → Prop
  | .rotate .. | .markExpired .. | .prune .. => False
  | _ => True

/-- The histories of such events. -/
inductive Growing : Vault → Prop where
  | start (w : KeyWorld) (h : w.All (Seals c.oaep)) (hfresh : w.Fresh c.ports) :
      Growing { world := w }
  | step {v : Vault} (h : Growing v) (event : VaultEvent) (hrsa : VaultEvent.Rsa event)
      (hadds : VaultEvent.Adds event) : Growing (c.exec v event)

/-- A stored secret is recovered: it opens, and sealing it again keeps the
value, is current, and changes nothing the next time. -/
structure Recovers (w : KeyWorld) (token value : String) : Prop where
  opens : answer (c.decrypt token) w = .ok value
  reseals : ∀ seed, ∃ token', answer (c.reencrypt token seed) w = .ok token' ∧
    answer (c.decrypt token') w = .ok value ∧ answer (c.isCurrent token') w = .ok true ∧
    ∀ seed', answer (c.reencrypt token' seed') w = .ok token'

/-- `encrypt` accepts a value, under the newest key of the moment. -/
def Accepts (w : KeyWorld) (value : String) : Prop :=
  ∀ seed, ∃ token, answer (c.encrypt value seed) w = .ok token

/-- An active sealing key holds the private key of another. -/
def Holds (w : KeyWorld) (key : KeyPair) : Prop :=
  ∃ held ∈ DefaultKeyManager.active .secret w,
    c.oaep.loadPrivate held.privateKeyPem = c.oaep.loadPrivate key.privateKeyPem

/-! ## The parts of a token -/

theorem colon_not_mem_sealedBody (ciphertext : List UInt8) :
    ':' ∉ (sealedBody ciphertext).toList := by
  intro h
  rw [sealedBody, String.toList_ofList, Base64.rstripPad_encode] at h
  have hmem := Base64.mem_encode h
  revert hmem
  decide +kernel

theorem partitionColon_prefixed {kid : String} (h : ':' ∉ kid.toList) (body : String) :
    partitionColon (kid ++ ":" ++ body) = (kid, true, body) := by
  have hspan : (kid ++ ":" ++ body).toList.span (fun c => c ≠ ':')
      = (kid.toList, ':' :: body.toList) := by
    have hall : ∀ c ∈ kid.toList, decide (c ≠ ':') = true := by
      intro c hc
      rw [decide_eq_true_eq]
      rintro rfl
      exact h hc
    rw [List.span_eq_takeWhile_dropWhile, String.toList_append, String.toList_append,
      List.append_assoc, List.takeWhile_append_of_pos hall, List.dropWhile_append_of_pos hall]
    simp
  rw [partitionColon, hspan]
  simp

theorem partitionColon_bare {token : String} (h : ':' ∉ token.toList) :
    partitionColon token = (token, false, "") := by
  have hall : ∀ c ∈ token.toList, decide (c ≠ ':') = true := by
    intro c hc
    rw [decide_eq_true_eq]
    rintro rfl
    exact h hc
  have hspan : token.toList.span (fun c => c ≠ ':') = (token.toList, []) := by
    rw [List.span_eq_takeWhile_dropWhile, List.takeWhile_eq_self_iff.mpr hall,
      List.dropWhile_eq_nil_iff.mpr hall]
  rw [partitionColon, hspan]

/-! ## Opening a ciphertext -/

variable {c} {w : KeyWorld} {value : String} {seed : Nat}

open Effects.Raising

theorem mem_ring {key : KeyPair} : key ∈ ring w ↔ key ∈ DefaultKeyManager.active .secret w :=
  List.mem_mergeSort

theorem outcome_sealKeys (h : ring w ≠ []) :
    Effects.Raising.outcome c.sealKeys w = (.ok (ring w), w) := by
  rw [sealKeys, outcome_bind_ok DefaultKeyManager.outcome_getActiveKeys]
  show Effects.Raising.outcome (if (ring w).isEmpty then _ else _) w = _
  rw [if_neg (by simpa using h)]
  rfl

theorem outcome_sealKeys_nil (h : ring w = []) :
    ∃ e, Effects.Raising.outcome c.sealKeys w = (.error e, w) := by
  rw [sealKeys, outcome_bind_ok DefaultKeyManager.outcome_getActiveKeys]
  show ∃ e, Effects.Raising.outcome (if (ring w).isEmpty then _ else _) w = _
  rw [if_pos (by simpa using h)]
  exact ⟨_, rfl⟩

/-- The facts about the ciphertext of a value under one private key. -/
structure Ciphertext (o : Oaep) (privateKey : o.PrivateKey) (value : String)
    (ciphertext : List UInt8) : Prop where
  opens : o.decrypt privateKey ciphertext = some (utf8Encode value)
  rejects : ∀ other, other ≠ privateKey → o.decrypt other ciphertext = none

theorem Ciphertext.of_encrypt (hlaws : c.oaep.Laws) {privateKey : c.oaep.PrivateKey}
    {ciphertext : List UInt8}
    (h : c.oaep.encrypt (c.oaep.publicKey privateKey) seed (utf8Encode value)
      = some ciphertext) : Ciphertext c.oaep privateKey value ciphertext where
  opens := hlaws.opens _ _ _ _ h
  rejects := fun _ hne => hlaws.rejects _ _ _ _ _ h hne

variable {privateKey : c.oaep.PrivateKey} {ciphertext : List UInt8}

theorem tryDecrypt_sealedBody (key : c.oaep.PrivateKey) :
    c.tryDecrypt key (sealedBody ciphertext) = (c.oaep.decrypt key ciphertext).bind utf8Decode := by
  rw [tryDecrypt, sealedBody, String.toList_ofList, Base64.decode_encode]

/-- The loop answers the value when one of the keys holds the private key,
and nothing otherwise. -/
theorem outcome_decryptWith (hct : Ciphertext c.oaep privateKey value ciphertext)
    (keys : List KeyPair) (hkeys : ∀ key ∈ keys, ∃ loaded,
      c.oaep.loadPrivate key.privateKeyPem = .ok loaded) :
    (∃ key ∈ keys, c.oaep.loadPrivate key.privateKeyPem = .ok privateKey) ∧
        Effects.Raising.outcome (c.decryptWith (sealedBody ciphertext) keys) w = (.ok (some value), w) ∨
      (∀ key ∈ keys, c.oaep.loadPrivate key.privateKeyPem ≠ .ok privateKey) ∧
        Effects.Raising.outcome (c.decryptWith (sealedBody ciphertext) keys) w = (.ok none, w) := by
  induction keys with
  | nil => exact .inr ⟨fun _ h => (List.not_mem_nil h).elim, rfl⟩
  | cons key rest ih =>
      obtain ⟨loaded, hloaded⟩ := hkeys key (by simp)
      have hload : Effects.Raising.outcome (c.loadPrivate key.privateKeyPem) w = (.ok loaded, w) := by
        rw [loadPrivate, hloaded]
        rfl
      rw [decryptWith, outcome_bind_ok hload, tryDecrypt_sealedBody]
      by_cases heq : loaded = privateKey
      · left
        subst heq
        rw [hct.opens]
        refine ⟨⟨key, by simp, hloaded⟩, ?_⟩
        show Effects.Raising.outcome (match utf8Decode (utf8Encode value) with
          | some plaintext => pure (some plaintext)
          | none => c.decryptWith (sealedBody ciphertext) rest) w = _
        rw [utf8Decode_encode]
        rfl
      · rw [hct.rejects loaded heq]
        rcases ih fun k hk => hkeys k (by simp [hk]) with ⟨⟨k, hk, hload'⟩, hout⟩ | ⟨hnone, hout⟩
        · exact .inl ⟨⟨k, by simp [hk], hload'⟩, hout⟩
        · right
          refine ⟨fun k hk => ?_, hout⟩
          rcases List.mem_cons.mp hk with rfl | hk
          · rw [hloaded]
            intro h
            exact heq (Except.ok.inj h)
          · exact hnone k hk

/-- A form in which a ciphertext is stored: what `decrypt` searches the keys
with is its body. -/
def CarriesBody (form : String) (ciphertext : List UInt8) : Prop :=
  (if (partitionColon form).2.1 then (partitionColon form).2.2 else form) = sealedBody ciphertext

variable (c) in
/-- The keys of the ring can be read. -/
def RingLoads (w : KeyWorld) : Prop :=
  ∀ key ∈ ring w, ∃ loaded, c.oaep.loadPrivate key.privateKeyPem = .ok loaded

theorem RingLoads.reverse (h : c.RingLoads w) : ∀ key ∈ (ring w).reverse, ∃ loaded,
    c.oaep.loadPrivate key.privateKeyPem = .ok loaded :=
  fun key hkey => h key (List.mem_reverse.mp hkey)

/-- The key named by the prefix is one of the ring. -/
theorem mem_named (kid : String) (separator : Bool) {key : KeyPair}
    (h : key ∈ (if separator then (ring w).reverse.find? fun key => key.kid = kid
      else none).toList) : key ∈ ring w := by
  split at h
  · rw [Option.mem_toList] at h
    exact List.mem_reverse.mp (List.mem_of_find?_eq_some h)
  · cases h

/-- `decrypt` answers the value when an active key holds the private key. -/
theorem outcome_decrypt_ok (hct : Ciphertext c.oaep privateKey value ciphertext)
    (hloads : c.RingLoads w) {form : String} (hform : CarriesBody form ciphertext)
    (hheld : ∃ key ∈ ring w, c.oaep.loadPrivate key.privateKeyPem = .ok privateKey) :
    Effects.Raising.outcome (c.decrypt form) w = (.ok value, w) := by
  obtain ⟨held, hmem, hload⟩ := hheld
  have hring : ring w ≠ [] := List.ne_nil_of_mem hmem
  rw [decrypt, outcome_bind_ok (outcome_sealKeys hring)]
  unfold CarriesBody at hform
  rcases hparts : partitionColon form with ⟨kid, separator, body⟩
  rw [hparts] at hform
  have hall : Effects.Raising.outcome (c.decryptWith (sealedBody ciphertext) (ring w).reverse) w
      = (.ok (some value), w) := by
    rcases outcome_decryptWith hct (ring w).reverse hloads.reverse with ⟨_, hout⟩ | ⟨hnone, _⟩
    · exact hout
    · exact (hnone held (List.mem_reverse.mpr hmem) hload).elim
  cases separator with
  | false =>
      have hnamed : Effects.Raising.outcome (c.decryptWith body (none : Option KeyPair).toList) w
          = (.ok none, w) := rfl
      have hbody : form = sealedBody ciphertext := hform
      show Effects.Raising.outcome (c.decryptWith body (none : Option KeyPair).toList >>= _) w = _
      rw [outcome_bind_ok hnamed]
      show Effects.Raising.outcome (c.decryptWith form (ring w).reverse >>= _) w = _
      rw [hbody, outcome_bind_ok hall]
      rfl
  | true =>
      have hbody : body = sealedBody ciphertext := hform
      subst hbody
      show Effects.Raising.outcome (c.decryptWith (sealedBody ciphertext)
        ((ring w).reverse.find? fun key => key.kid = kid).toList >>= _) w = _
      have hnamed := outcome_decryptWith (w := w) hct
        ((ring w).reverse.find? fun key => key.kid = kid).toList fun key hkey =>
          hloads key (mem_named kid true (by simpa using hkey))
      rcases hnamed with ⟨_, hout⟩ | ⟨_, hout⟩
      · rw [outcome_bind_ok hout]
        rfl
      · rw [outcome_bind_ok hout]
        show Effects.Raising.outcome (c.decryptWith (sealedBody ciphertext) (ring w).reverse >>= _) w = _
        rw [outcome_bind_ok hall]
        rfl

/-- Without such a key `decrypt` raises. -/
theorem outcome_decrypt_error (hct : Ciphertext c.oaep privateKey value ciphertext)
    (hloads : c.RingLoads w) {form : String} (hform : CarriesBody form ciphertext)
    (hheld : ∀ key ∈ ring w, c.oaep.loadPrivate key.privateKeyPem ≠ .ok privateKey) :
    ∃ e, Effects.Raising.outcome (c.decrypt form) w = (.error e, w) := by
  by_cases hring : ring w = []
  · obtain ⟨e, hout⟩ := outcome_sealKeys_nil (c := c) hring
    exact ⟨e, by rw [decrypt, outcome_bind_error hout]⟩
  rw [decrypt, outcome_bind_ok (outcome_sealKeys hring)]
  unfold CarriesBody at hform
  rcases hparts : partitionColon form with ⟨kid, separator, body⟩
  rw [hparts] at hform
  have hnone : ∀ keys : List KeyPair, (∀ key ∈ keys, key ∈ ring w) →
      Effects.Raising.outcome (c.decryptWith (sealedBody ciphertext) keys) w = (.ok none, w) := by
    intro keys hsub
    rcases outcome_decryptWith (w := w) hct keys fun key hkey => hloads key (hsub key hkey) with
      ⟨⟨key, hkey, hload⟩, _⟩ | ⟨_, hout⟩
    · exact (hheld key (hsub key hkey) hload).elim
    · exact hout
  have hall := hnone (ring w).reverse fun key hkey => List.mem_reverse.mp hkey
  cases separator with
  | false =>
      have hnamed : Effects.Raising.outcome (c.decryptWith body (none : Option KeyPair).toList) w
          = (.ok none, w) := rfl
      have hbody : form = sealedBody ciphertext := hform
      show ∃ e, Effects.Raising.outcome (c.decryptWith body (none : Option KeyPair).toList >>= _) w = _
      rw [outcome_bind_ok hnamed]
      show ∃ e, Effects.Raising.outcome (c.decryptWith form (ring w).reverse >>= _) w = _
      rw [hbody, outcome_bind_ok hall]
      exact ⟨_, rfl⟩
  | true =>
      have hbody : body = sealedBody ciphertext := hform
      subst hbody
      show ∃ e, Effects.Raising.outcome (c.decryptWith (sealedBody ciphertext)
        ((ring w).reverse.find? fun key => key.kid = kid).toList >>= _) w = _
      rw [outcome_bind_ok (hnone _ fun key hkey =>
        mem_named kid true (by simpa using hkey))]
      show ∃ e, Effects.Raising.outcome (c.decryptWith (sealedBody ciphertext) (ring w).reverse >>= _) w = _
      rw [outcome_bind_ok hall]
      exact ⟨_, rfl⟩

/-! ## The cipher only reads -/

/-- The state is left as it was. -/
def Unwritten (w w' : KeyWorld) : Prop := w' = w

theorem unwritten_trans (u v w : KeyWorld) (h : Unwritten u v) (h' : Unwritten v w) :
    Unwritten u w :=
  Eq.trans h' h

theorem reads_sealKeys : Along Unwritten c.sealKeys := by
  intro w
  by_cases h : ring w = []
  · obtain ⟨e, hout⟩ := outcome_sealKeys_nil (c := c) h
    rw [hout]
    rfl
  · rw [outcome_sealKeys h]
    rfl

theorem reads_loadPrivate (pem : String) : Along Unwritten (c.loadPrivate pem) := by
  intro w
  rw [loadPrivate]
  cases c.oaep.loadPrivate pem with
  | ok _ => rfl
  | error _ => rfl

theorem reads_decryptWith (body : String) (keys : List KeyPair) :
    Along Unwritten (c.decryptWith body keys) := by
  induction keys with
  | nil => exact fun _ => rfl
  | cons key rest ih =>
      rw [decryptWith]
      refine along_bind unwritten_trans (reads_loadPrivate _) fun loaded => ?_
      split
      · exact fun _ => rfl
      · exact ih

theorem reads_decrypt (token : String) : Along Unwritten (c.decrypt token) := by
  refine along_bind unwritten_trans reads_sealKeys fun keys => ?_
  refine along_bind unwritten_trans (reads_decryptWith _ _) fun named => ?_
  split
  · exact fun _ => rfl
  · refine along_bind unwritten_trans (reads_decryptWith _ _) fun found => ?_
    split
    · exact fun _ => rfl
    · exact fun _ => rfl

theorem outcome_of_answer {α : Type} {x : KeyM α} (hreads : Along Unwritten x) {a : α}
    (h : answer x w = .ok a) : Effects.Raising.outcome x w = (.ok a, w) :=
  Prod.ext h (hreads w)

/-! ## Sealing and currency -/

theorem ring_ne_nil {key : KeyPair} (h : (ring w).getLast? = some key) : ring w ≠ [] := by
  intro hnil
  rw [hnil] at h
  cases h

theorem newest_mem {key : KeyPair} (h : (ring w).getLast? = some key) : key ∈ ring w :=
  List.mem_of_getLast? h

theorem outcome_newest {key : KeyPair} (h : (ring w).getLast? = some key) :
    Effects.Raising.outcome (newest (ring w)) w = (.ok key, w) := by
  rw [newest, h]
  rfl

theorem exists_newest (h : ring w ≠ []) : ∃ key, (ring w).getLast? = some key :=
  ⟨_, List.getLast?_eq_some_getLast h⟩

/-- `encrypt` under the newest key. -/
theorem outcome_encrypt (value : String) (seed : Nat) {key : KeyPair}
    (hlast : (ring w).getLast? = some key)
    (hpair : SealPair c.oaep key privateKey) :
    Effects.Raising.outcome (c.encrypt value seed) w =
      match c.oaep.encrypt (c.oaep.publicKey privateKey) seed (utf8Encode value) with
      | none => (.error (.valueError "Encryption failed"), w)
      | some ciphertext => (.ok (key.kid ++ ":" ++ sealedBody ciphertext), w) := by
  have hload : Effects.Raising.outcome (c.loadPublic key.publicKeyPem) w
      = (.ok (c.oaep.publicKey privateKey), w) := by
    rw [loadPublic, hpair.loadsPublic]
    rfl
  rw [encrypt, outcome_bind_ok (outcome_sealKeys (ring_ne_nil hlast)),
    outcome_bind_ok (outcome_newest hlast), outcome_bind_ok hload]
  cases c.oaep.encrypt (c.oaep.publicKey privateKey) seed (utf8Encode value) with
  | none => rfl
  | some ciphertext => rfl

theorem outcome_isCurrent {key : KeyPair} (hlast : (ring w).getLast? = some key)
    (token : String) :
    Effects.Raising.outcome (c.isCurrent token) w =
      (.ok ((partitionColon token).2.1 && (partitionColon token).1 == key.kid), w) := by
  show Effects.Raising.outcome (c.sealKeys >>= _) w = _
  rw [outcome_bind_ok (outcome_sealKeys (ring_ne_nil hlast)),
    outcome_bind_ok (outcome_newest hlast)]
  rfl

theorem outcome_reencrypt_current {token : String} (h : Effects.Raising.outcome (c.isCurrent token) w
    = (.ok true, w)) : Effects.Raising.outcome (c.reencrypt token seed) w = (.ok token, w) := by
  rw [reencrypt, outcome_bind_ok h]
  rfl

theorem outcome_reencrypt_stale {token : String} (h : Effects.Raising.outcome (c.isCurrent token) w
    = (.ok false, w)) (hopen : Effects.Raising.outcome (c.decrypt token) w = (.ok value, w)) :
    Effects.Raising.outcome (c.reencrypt token seed) w =
      Effects.Raising.outcome (c.encrypt value seed) w := by
  rw [reencrypt, outcome_bind_ok h]
  show Effects.Raising.outcome (c.decrypt token >>= _) w = _
  rw [outcome_bind_ok hopen]

/-! ## What a history keeps -/

/-- A remembered token is a ciphertext of its value under its key. -/
def Genuine (c : AsymmetricSecretCipher) (e : SealedValue) : Prop :=
  ∃ privateKey ciphertext seed, SealPair c.oaep e.key privateKey ∧
    c.oaep.encrypt (c.oaep.publicKey privateKey) seed (utf8Encode e.value) = some ciphertext ∧
    e.token = e.key.kid ++ ":" ++ sealedBody ciphertext

theorem seals_of_ring (h : w.All (Seals c.oaep)) {key : KeyPair} (hmem : key ∈ ring w) :
    ∃ privateKey, SealPair c.oaep key privateKey := by
  obtain ⟨hrow, huse, _⟩ := DefaultKeyManager.mem_active.mp (mem_ring.mp hmem)
  exact h key.kid key (Table.find_of_mem hrow) huse

theorem RingLoads.of_all (h : w.All (Seals c.oaep)) : c.RingLoads w := by
  intro key hkey
  obtain ⟨loaded, hpair⟩ := seals_of_ring h hkey
  exact ⟨loaded, hpair.loads⟩

theorem remember_ok {v : Vault} {key : KeyPair} {token : String}
    (h : (ring v.world).getLast? = some key) :
    remember v value (.ok token) =
      { v with sealedValues := ⟨key, value, token⟩ :: v.sealedValues } := by
  rw [remember, h]

theorem remember_world (v : Vault) (value : String) (r : Except KeyError String) :
    (remember v value r).world = v.world := by
  cases r with
  | error _ => rfl
  | ok token =>
      cases h : (ring v.world).getLast? with
      | none => rw [remember, h]
      | some key => rw [remember_ok h]

theorem genuine_remember {v : Vault} (hall : v.world.All (Seals c.oaep))
    (hsealed : ∀ e ∈ v.sealedValues, c.Genuine e) :
    ∀ e ∈ (remember v value (answer (c.encrypt value seed) v.world)).sealedValues,
      c.Genuine e := by
  cases hlast : (ring v.world).getLast? with
  | none =>
      cases hanswer : answer (c.encrypt value seed) v.world with
      | error _ => exact hsealed
      | ok token =>
          rw [remember, hlast]
          exact hsealed
  | some key =>
      obtain ⟨privateKey, hpair⟩ := seals_of_ring hall (newest_mem hlast)
      have hout := outcome_encrypt value seed hlast hpair
      cases hct : c.oaep.encrypt (c.oaep.publicKey privateKey) seed (utf8Encode value) with
      | none =>
          rw [hct] at hout
          rw [answer, hout]
          exact hsealed
      | some ciphertext =>
          rw [hct] at hout
          rw [answer, hout]
          show ∀ e ∈ (remember v value (.ok _)).sealedValues, _
          rw [remember_ok hlast]
          intro e he
          rcases List.mem_cons.mp he with rfl | he
          · exact ⟨privateKey, ciphertext, seed, hpair, hct, rfl⟩
          · exact hsealed e he

/-- A reencryption of a stale token is an encryption of what it holds. -/
theorem answer_reencrypt_stale {token : String} (hstale : answer (c.isCurrent token) w
    = .ok false) (hopen : answer (c.decrypt token) w = .ok value) :
    answer (c.reencrypt token seed) w = answer (c.encrypt value seed) w := by
  have hring : ring w ≠ [] := by
    intro hnil
    obtain ⟨e, hout⟩ := outcome_sealKeys_nil (c := c) hnil
    rw [answer, decrypt, outcome_bind_error hout] at hopen
    cases hopen
  obtain ⟨key, hlast⟩ := exists_newest hring
  have hcurrent := outcome_isCurrent (c := c) hlast token
  rw [answer, hcurrent] at hstale
  rw [Except.ok.inj hstale] at hcurrent
  rw [answer, outcome_reencrypt_stale hcurrent (outcome_of_answer (reads_decrypt token) hopen)]
  rfl

theorem seals_activity (key : KeyPair) (b : Bool) (h : Seals c.oaep key) :
    Seals c.oaep { key with isActive := b } := by
  intro huse
  obtain ⟨privateKey, hpair⟩ := h huse
  exact ⟨privateKey, hpair.loads, hpair.loadsPublic, hpair.name⟩

/-- A generated key is an RSA key, if it is one of the sealing family. -/
theorem seals_generated (hports : c.GeneratesRsa) {use : KeyUse} {keySize : Int}
    (algorithm : JWTAlgorithm) (hrsa : use = .secret → algorithm.isRsa = true) (n : Nat)
    (now : Instant) (privatePem publicPem : String)
    (h : c.ports.pems n keySize algorithm = some (privatePem, publicPem)) :
    Seals c.oaep
      { algorithm := algorithm, use := use, kid := c.ports.kid n,
        privateKeyPem := privatePem, publicKeyPem := publicPem, createdAt := now } := by
  intro huse
  obtain ⟨privateKey, hload, hloadPublic⟩ :=
    hports.loads n keySize algorithm privatePem publicPem (hrsa huse) h
  exact ⟨privateKey, hload, hloadPublic, hports.name n⟩

theorem all_rotateIfStale (hports : c.GeneratesRsa) {keySize rotationDays : Int}
    (h : w.All (Seals c.oaep)) :
    wp (c.rotateIfStale keySize rotationDays) (fun _ w' => w'.All (Seals c.oaep))
      (fun _ w' => w'.All (Seals c.oaep)) w := by
  have hgenerate : wp (c.manager.generateKeyPair keySize .rs256)
      (fun _ w' => w'.All (Seals c.oaep)) (fun _ w' => w'.All (Seals c.oaep)) w :=
    DefaultKeyManager.wp_all_generateKeyPair (seals_generated hports .rs256 fun _ => rfl) h
  rw [rotateIfStale, wp_bind, wp_of_outcome DefaultKeyManager.outcome_getActiveKeys]
  split
  · rw [wp_bind]
    exact wp_mono hgenerate (fun _ _ h => h) fun _ _ h => h
  · rw [wp_bind, wp_get]
    dsimp only
    split
    · rw [wp_bind]
      exact wp_mono hgenerate (fun _ _ h => h) fun _ _ h => h
    · exact h

/-- What holds of the world in any outcome holds of the world after it. -/
theorem all_after {α : Type} {P : KeyPair → Prop} {v : Vault} {x : KeyM α}
    (h : wp x (fun _ w' => w'.All P) (fun _ w' => w'.All P) v.world) :
    (after v x).world.All P := by
  unfold wp at h
  show KeyWorld.All P (Effects.Raising.outcome x v.world).2
  rcases hx : Effects.Raising.outcome x v.world with ⟨_ | _, w'⟩
  · rw [hx] at h
    exact h
  · rw [hx] at h
    exact h

/-- One event keeps the sealing keys RSA keys and the tokens genuine. -/
theorem exec_keeps (hports : c.GeneratesRsa) {v : Vault} (event : VaultEvent)
    (hrsa : VaultEvent.Rsa event)
    (h : v.world.All (Seals c.oaep) ∧ ∀ e ∈ v.sealedValues, c.Genuine e) :
    (c.exec v event).world.All (Seals c.oaep) ∧
      ∀ e ∈ (c.exec v event).sealedValues, c.Genuine e := by
  obtain ⟨hall, hsealed⟩ := h
  cases event with
  | wait elapsed => exact ⟨hall, hsealed⟩
  | generate use keySize algorithm =>
      exact ⟨all_after (DefaultKeyManager.wp_all_generateKeyPair
        (seals_generated hports algorithm hrsa) hall), hsealed⟩
  | ensureActive use keySize algorithm =>
      exact ⟨all_after (DefaultKeyManager.wp_all_ensureActiveKey
        (seals_generated hports algorithm hrsa) hall), hsealed⟩
  | rotate use keySize algorithm =>
      exact ⟨all_after (DefaultKeyManager.wp_all_rotateKey seals_activity
        (seals_generated hports algorithm hrsa) hall), hsealed⟩
  | markExpired use rotationDays gracePeriodDays =>
      exact ⟨all_after (DefaultKeyManager.wp_all_markExpiredKeys seals_activity hall), hsealed⟩
  | prune use keep =>
      exact ⟨all_after (DefaultKeyManager.wp_all_pruneInactiveKeys hall), hsealed⟩
  | rotateIfStale keySize rotationDays =>
      exact ⟨all_after (all_rotateIfStale hports hall), hsealed⟩
  | encrypt value seed =>
      constructor
      · rw [exec, remember_world]
        exact hall
      · exact genuine_remember hall hsealed
  | reencrypt token seed =>
      rw [exec]
      split
      case h_1 value hstale hopen =>
          rw [answer_reencrypt_stale hstale hopen]
          constructor
          · rw [remember_world]
            exact hall
          · exact genuine_remember hall hsealed
      case h_2 => exact ⟨hall, hsealed⟩

theorem history_keeps (hports : c.GeneratesRsa) {v : Vault} (h : c.History v) :
    v.world.All (Seals c.oaep) ∧ ∀ e ∈ v.sealedValues, c.Genuine e := by
  induction h with
  | start w hw => exact ⟨hw, fun _ he => (List.not_mem_nil he).elim⟩
  | step _ event hrsa ih => exact exec_keeps hports event hrsa ih

/-- Both forms of a genuine token carry its ciphertext. -/
theorem carriesBody_of_form {key : KeyPair} (hname : ':' ∉ key.kid.toList) {form : String}
    {e : SealedValue} (htoken : e.token = key.kid ++ ":" ++ sealedBody ciphertext)
    (hform : form ∈ e.forms) : CarriesBody form ciphertext := by
  have hparts := partitionColon_prefixed hname (sealedBody ciphertext)
  rw [SealedValue.forms, htoken, hparts] at hform
  rcases List.mem_cons.mp hform with rfl | hform
  · rw [CarriesBody, hparts]
    rfl
  · rw [List.mem_singleton] at hform
    subst hform
    rw [CarriesBody, partitionColon_bare (colon_not_mem_sealedBody ciphertext)]
    rfl

/-! ## Recovery -/

/-- A ciphertext whose private key is in the ring is recovered. -/
theorem recovers_of_held (hlaws : c.oaep.Laws) (hall : w.All (Seals c.oaep))
    (hct : Ciphertext c.oaep privateKey value ciphertext) {form : String}
    (hform : CarriesBody form ciphertext)
    (hheld : ∃ key ∈ ring w, c.oaep.loadPrivate key.privateKeyPem = .ok privateKey)
    (haccepts : c.Accepts w value) : c.Recovers w form value := by
  have hloads := RingLoads.of_all hall
  have hopen := outcome_decrypt_ok hct hloads hform hheld
  obtain ⟨_, hmem, _⟩ := hheld
  obtain ⟨key, hlast⟩ := exists_newest (List.ne_nil_of_mem hmem)
  obtain ⟨newestPrivate, hpair⟩ := seals_of_ring hall (newest_mem hlast)
  refine ⟨by rw [answer, hopen], fun seed => ?_⟩
  have hcurrent := outcome_isCurrent (c := c) hlast form
  cases hb : (partitionColon form).2.1 && (partitionColon form).1 == key.kid with
  | true =>
      rw [hb] at hcurrent
      refine ⟨form, ?_, by rw [answer, hopen], by rw [answer, hcurrent], fun seed' => ?_⟩
      · rw [answer, outcome_reencrypt_current hcurrent]
      · rw [answer, outcome_reencrypt_current hcurrent]
  | false =>
      rw [hb] at hcurrent
      -- sealed again, under the newest key
      obtain ⟨token', htoken'⟩ := haccepts seed
      have hsealed := outcome_encrypt value seed hlast hpair
      cases hct' : c.oaep.encrypt (c.oaep.publicKey newestPrivate) seed (utf8Encode value) with
      | none =>
          rw [hct'] at hsealed
          rw [answer, hsealed] at htoken'
          cases htoken'
      | some ciphertext' =>
          rw [hct'] at hsealed
          have hparts := partitionColon_prefixed hpair.name (sealedBody ciphertext')
          have hcurrent' := outcome_isCurrent (c := c) hlast
            (key.kid ++ ":" ++ sealedBody ciphertext')
          rw [hparts] at hcurrent'
          have hyes : Effects.Raising.outcome (c.isCurrent (key.kid ++ ":" ++ sealedBody ciphertext')) w
              = (.ok true, w) := by
            rw [hcurrent']
            simp
          have hcarries' : CarriesBody (key.kid ++ ":" ++ sealedBody ciphertext') ciphertext' := by
            rw [CarriesBody, hparts]
            rfl
          have hopen' := outcome_decrypt_ok (w := w) (Ciphertext.of_encrypt hlaws hct') hloads
            hcarries' ⟨key, newest_mem hlast, hpair.loads⟩
          refine ⟨key.kid ++ ":" ++ sealedBody ciphertext', ?_, ?_, ?_, fun seed' => ?_⟩
          · rw [answer, outcome_reencrypt_stale hcurrent hopen, hsealed]
          · rw [answer, hopen']
          · rw [answer, hyes]
          · rw [answer, outcome_reencrypt_current hyes]

/-- In every history whose sealing keys are RSA keys, what was sealed at any
point is recovered, in either form, exactly when one of the active keys
holds its private key. -/
theorem recovers_iff (hlaws : c.oaep.Laws) (hports : c.GeneratesRsa) {v : Vault}
    (h : c.History v) {e : SealedValue} (he : e ∈ v.sealedValues) {form : String}
    (hform : form ∈ e.forms) (haccepts : c.Accepts v.world e.value) :
    c.Recovers v.world form e.value ↔ c.Holds v.world e.key := by
  obtain ⟨hall, hsealed⟩ := history_keeps hports h
  obtain ⟨privateKey, ciphertext, seed, hpair, hct, htoken⟩ := hsealed e he
  have hcarries := carriesBody_of_form hpair.name htoken hform
  have hciphertext := Ciphertext.of_encrypt hlaws hct
  constructor
  · intro hrecovers
    by_contra hnot
    have hheld : ∀ key ∈ ring v.world,
        c.oaep.loadPrivate key.privateKeyPem ≠ .ok privateKey := by
      intro key hkey hload
      exact hnot ⟨key, mem_ring.mp hkey, by rw [hload, hpair.loads]⟩
    obtain ⟨err, hout⟩ := outcome_decrypt_error hciphertext (RingLoads.of_all hall) hcarries hheld
    have hopens := hrecovers.opens
    rw [answer, hout] at hopens
    cases hopens
  · rintro ⟨key, hkey, hload⟩
    exact recovers_of_held hlaws hall hciphertext hcarries
      ⟨key, mem_ring.mpr hkey, by rw [hload, hpair.loads]⟩ haccepts

/-! ## Histories that only add keys -/

/-- From fresh draws, the stored keys are still there as they were. -/
def Adds (ports : KeyPorts) (w w' : KeyWorld) : Prop :=
  w.Fresh ports → w'.Fresh ports ∧ ∀ kid key, w.find kid = some key → w'.find kid = some key

theorem adds_refl (ports : KeyPorts) (w : KeyWorld) : Adds ports w w :=
  fun h => ⟨h, fun _ _ h => h⟩

theorem adds_trans (ports : KeyPorts) (u v w : KeyWorld) (h : Adds ports u v)
    (h' : Adds ports v w) : Adds ports u w := by
  intro hfresh
  obtain ⟨hv, hkept⟩ := h hfresh
  obtain ⟨hw, hkept'⟩ := h' hv
  exact ⟨hw, fun kid key hfind => hkept' kid key (hkept kid key hfind)⟩

theorem adds_generateKeyPair {m : DefaultKeyManager} (hdraws : m.ports.Draws)
    (keySize : Int) (algorithm : JWTAlgorithm) :
    Along (Adds m.ports) (m.generateKeyPair keySize algorithm) := by
  intro w hfresh
  have h := DefaultKeyManager.wp_ages_generateKeyPair 0 hdraws keySize algorithm hfresh
  unfold wp at h
  rcases hx : Effects.Raising.outcome (m.generateKeyPair keySize algorithm) w with ⟨_ | key, w'⟩
  · rw [hx] at h
    subst h
    exact ⟨hfresh, fun _ _ h => h⟩
  · rw [hx] at h
    obtain ⟨hages, _, _, hkept⟩ := h
    refine ⟨hages.fresh, fun kid old hfind => ?_⟩
    rw [← KeyWorld.find_kid hfind]
    exact hkept old (Table.find_mem hfind)

theorem adds_ensureActiveKey {m : DefaultKeyManager} (hdraws : m.ports.Draws)
    (keySize : Int) (algorithm : JWTAlgorithm) :
    Along (Adds m.ports) (m.ensureActiveKey keySize algorithm) := by
  refine along_bind (adds_trans m.ports) (fun w => adds_refl _ w) fun keys => ?_
  split
  · exact along_bind (adds_trans m.ports) (adds_generateKeyPair hdraws keySize algorithm)
      fun _ => along_pure (adds_refl _) ()
  · exact along_pure (adds_refl _) ()

theorem adds_rotateIfStale (hdraws : c.ports.Draws) (keySize rotationDays : Int) :
    Along (Adds c.ports) (c.rotateIfStale keySize rotationDays) := by
  have hgenerate : Along (Adds c.ports)
      (c.manager.generateKeyPair keySize .rs256 >>= fun _ => pure true : KeyM Bool) :=
    along_bind (adds_trans c.ports)
      (adds_generateKeyPair (m := c.manager) hdraws keySize .rs256)
      fun _ => along_pure (adds_refl _) true
  refine along_bind (adds_trans c.ports) (fun w => adds_refl _ w) fun keys => ?_
  split
  · exact hgenerate
  · refine along_bind (adds_trans c.ports) (fun w => adds_refl _ w) fun w => ?_
    dsimp only
    split
    · exact hgenerate
    · exact along_pure (adds_refl _) false

theorem exec_adds (hdraws : c.ports.Draws) (v : Vault) (event : VaultEvent)
    (hadds : VaultEvent.Adds event) : Adds c.ports v.world (c.exec v event).world := by
  cases event with
  | wait elapsed => exact fun hfresh => ⟨⟨hfresh.unused, hfresh.named⟩, fun _ _ h => h⟩
  | generate use keySize algorithm =>
      exact adds_generateKeyPair (m := ⟨c.ports, use⟩) hdraws keySize algorithm v.world
  | ensureActive use keySize algorithm =>
      exact adds_ensureActiveKey (m := ⟨c.ports, use⟩) hdraws keySize algorithm v.world
  | rotateIfStale keySize rotationDays =>
      exact adds_rotateIfStale hdraws keySize rotationDays v.world
  | encrypt value seed =>
      rw [exec, remember_world]
      exact adds_refl c.ports _
  | reencrypt token seed =>
      rw [exec]
      split
      · rw [remember_world]
        exact adds_refl c.ports _
      · exact adds_refl c.ports _
  | rotate => exact hadds.elim
  | markExpired => exact hadds.elim
  | prune => exact hadds.elim

/-- A token is remembered with a key of the ring of the moment. -/
theorem mem_remember {v : Vault} {r : Except KeyError String} {e : SealedValue}
    (h : e ∈ (remember v value r).sealedValues) :
    e ∈ v.sealedValues ∨ e.key ∈ ring v.world := by
  cases r with
  | error _ => exact .inl h
  | ok token =>
      cases hlast : (ring v.world).getLast? with
      | none =>
          rw [remember, hlast] at h
          exact .inl h
      | some key =>
          rw [remember_ok hlast] at h
          rcases List.mem_cons.mp h with rfl | h
          · exact .inr (newest_mem hlast)
          · exact .inl h

theorem mem_exec {v : Vault} {event : VaultEvent} {e : SealedValue}
    (h : e ∈ (c.exec v event).sealedValues) : e ∈ v.sealedValues ∨ e.key ∈ ring v.world := by
  cases event with
  | encrypt value seed => exact mem_remember h
  | reencrypt token seed =>
      rw [exec] at h
      split at h
      · exact mem_remember h
      · exact .inl h
  | wait => exact .inl h
  | generate => exact .inl h
  | ensureActive => exact .inl h
  | rotate => exact .inl h
  | markExpired => exact .inl h
  | prune => exact .inl h
  | rotateIfStale => exact .inl h

/-- In a growing history the key of every remembered token is active. -/
theorem growing_active (hdraws : c.ports.Draws) {v : Vault} (h : c.Growing v) :
    v.world.Fresh c.ports ∧
      ∀ e ∈ v.sealedValues, e.key ∈ DefaultKeyManager.active .secret v.world := by
  induction h with
  | start w _ hfresh => exact ⟨hfresh, fun _ he => (List.not_mem_nil he).elim⟩
  | @step v h event hrsa hadds ih =>
      obtain ⟨hfresh, hkept⟩ := exec_adds hdraws v event hadds ih.1
      refine ⟨hfresh, fun e he => ?_⟩
      have hbefore : e.key ∈ DefaultKeyManager.active .secret v.world := by
        rcases mem_exec he with he | hring
        · exact ih.2 e he
        · exact mem_ring.mp hring
      obtain ⟨hrow, huse, hactive⟩ := DefaultKeyManager.mem_active.mp hbefore
      have hfind := hkept _ _ (Table.find_of_mem hrow)
      exact DefaultKeyManager.mem_active.mpr ⟨Table.find_mem hfind, huse, hactive⟩

namespace Sample

/-- A toy key is one byte, written in front of what it seals. -/
def oaep : Oaep where
  PrivateKey := UInt8
  PublicKey := UInt8
  loadPrivate pem := .ok (UInt8.ofNat pem.length)
  loadPublic pem := .ok (UInt8.ofNat pem.length)
  publicKey key := key
  publicPem _ := "public"
  encrypt key _ message := some (key :: message)
  decrypt key ciphertext :=
    match ciphertext with
    | first :: message => if first = key then some message else none
    | [] => none
  sha256 data := data

theorem oaep_laws : oaep.Laws where
  opens := by
    intro key seed message ciphertext h
    cases h
    exact if_pos rfl
  rejects := by
    intro key seed message ciphertext other h hne
    cases h
    exact if_neg fun heq => hne heq.symm

/-- The `n`-th key has a PEM text of `n + 1` characters and a `kid` of as many
digits. -/
def cipher : AsymmetricSecretCipher where
  oaep := oaep
  ports :=
    { kid := fun n => String.ofList (List.replicate (n + 1) '0')
      pems := fun n _ _ =>
        some (String.ofList (List.replicate (n + 1) 'k'),
          String.ofList (List.replicate (n + 1) 'k')) }

theorem generatesRsa : cipher.GeneratesRsa where
  loads := by
    intro n keySize algorithm privatePem publicPem _ h
    cases h
    exact ⟨_, rfl, rfl⟩
  name := by
    intro n h
    have hmem : ':' ∈ List.replicate (n + 1) '0' := by
      rw [← String.toList_ofList (l := List.replicate (n + 1) '0')]
      exact h
    have := List.eq_of_mem_replicate hmem
    exact absurd this (by decide)

def key (n : Nat) (isActive : Bool) : KeyPair :=
  { algorithm := .rs256, use := .secret
    kid := String.ofList (List.replicate (n + 1) '0')
    privateKeyPem := String.ofList (List.replicate (n + 1) 'k')
    publicKeyPem := String.ofList (List.replicate (n + 1) 'k')
    createdAt := 0, isActive := isActive }

def empty : Vault := { world := { clock := 0 } }

/-- A first key, and a secret sealed under it. -/
def sealedOnce : Vault :=
  cipher.exec (cipher.exec empty (.generate .secret 2048 .rs256)) (.encrypt "s3cret" 0)

/-- The same after `rotate_key`: the key is kept, but retired. -/
def rotated : Vault := cipher.exec sealedOnce (.rotate .secret 2048 .rs256)

def token : String := "0:" ++ sealedBody (1 :: utf8Encode "s3cret")

def entry : SealedValue := ⟨key 0 true, "s3cret", token⟩

theorem history_sealedOnce : cipher.History sealedOnce := by
  have hstart : cipher.History empty := .start _ fun _ _ h => by cases h
  exact .step (.step hstart (.generate .secret 2048 .rs256) fun _ => rfl)
    (.encrypt "s3cret" 0) trivial

theorem ring_of_single {w : KeyWorld} {key : KeyPair}
    (h : DefaultKeyManager.active .secret w = [key]) : ring w = [key] := by
  rw [ring, h, List.mergeSort_singleton]

theorem ring_sealedOnce : ring sealedOnce.world = [key 0 true] :=
  ring_of_single (by decide +kernel)

theorem ring_rotated : ring rotated.world = [key 1 true] :=
  ring_of_single (by decide +kernel)

theorem sealedValues_sealedOnce : sealedOnce.sealedValues = [entry] := by
  have hring : ring (cipher.exec empty (.generate .secret 2048 .rs256)).world = [key 0 true] :=
    ring_of_single (by decide +kernel)
  have hlast : (ring (cipher.exec empty (.generate .secret 2048 .rs256)).world).getLast?
      = some (key 0 true) := by
    rw [hring]
    rfl
  have hpair : SealPair cipher.oaep (key 0 true) (1 : UInt8) :=
    ⟨rfl, rfl, generatesRsa.name 0⟩
  have hout := outcome_encrypt (c := cipher) "s3cret" 0 hlast hpair
  show (remember _ "s3cret" (Effects.Raising.outcome (cipher.encrypt "s3cret" 0) _).1).sealedValues = _
  rw [hout]
  show (remember _ "s3cret" (.ok _)).sealedValues = _
  rw [remember_ok hlast]
  rfl

/-- Every value is accepted under a readable key. -/
theorem accepts_of_ring {w : KeyWorld} {n : Nat} (h : ring w = [key n true]) (value : String) :
    cipher.Accepts w value := by
  intro seed
  have hlast : (ring w).getLast? = some (key n true) := by
    rw [h]
    rfl
  have hpair : SealPair cipher.oaep (key n true) (UInt8.ofNat
      (String.ofList (List.replicate (n + 1) 'k')).length) := ⟨rfl, rfl, generatesRsa.name n⟩
  have hout := outcome_encrypt (c := cipher) (w := w) value seed hlast hpair
  exact ⟨_, congrArg Prod.fst hout⟩

end Sample

/-- What was sealed at any point of a history is recovered, in either form,
exactly when one of the active keys holds its private key; and the histories
that only add keys keep it so. -/
theorem secrets_recovered (hlaws : c.oaep.Laws) (hports : c.GeneratesRsa) :
    (∀ v, c.History v → ∀ e ∈ v.sealedValues, ∀ form ∈ e.forms, c.Accepts v.world e.value →
      (c.Recovers v.world form e.value ↔ c.Holds v.world e.key)) ∧
    (c.ports.Draws → ∀ v, c.Growing v → ∀ e ∈ v.sealedValues,
      c.Holds v.world e.key) := by
  constructor
  · intro v hv e he form hform haccepts
    exact recovers_iff hlaws hports hv he hform haccepts
  · intro hdraws v hv e he
    exact ⟨e.key, (growing_active hdraws hv).2 e he, rfl⟩

/-- A secret sealed under the only key, which is active. -/
theorem secrets_recovered_once :
    Sample.cipher.Recovers Sample.sealedOnce.world Sample.token "s3cret" := by
  have h := (secrets_recovered (c := Sample.cipher) Sample.oaep_laws Sample.generatesRsa).1
    Sample.sealedOnce Sample.history_sealedOnce Sample.entry
    (by rw [Sample.sealedValues_sealedOnce]; exact List.mem_cons_self) Sample.token
    List.mem_cons_self (Sample.accepts_of_ring Sample.ring_sealedOnce "s3cret")
  refine h.mpr ⟨Sample.key 0 true, mem_ring.mp ?_, rfl⟩
  rw [Sample.ring_sealedOnce]
  exact List.mem_cons_self

/-- `rotate_key` keeps the sealing key in the store and retires it: the secret
sealed before no longer opens. -/
theorem retired_key_not_tried :
    ¬ ∀ v, Sample.cipher.History v → ∀ e ∈ v.sealedValues, ∀ form ∈ e.forms,
      Sample.cipher.Accepts v.world e.value →
        Sample.cipher.Recovers v.world form e.value := by
  intro h
  have hhistory : Sample.cipher.History Sample.rotated :=
    .step Sample.history_sealedOnce _ fun _ => rfl
  have hmem : Sample.entry ∈ Sample.rotated.sealedValues := by
    show _ ∈ Sample.sealedOnce.sealedValues
    rw [Sample.sealedValues_sealedOnce]
    exact List.mem_cons_self
  have haccepts := Sample.accepts_of_ring Sample.ring_rotated "s3cret"
  have hrecovers := h Sample.rotated hhistory Sample.entry hmem Sample.token List.mem_cons_self
    haccepts
  obtain ⟨held, hheld, hload⟩ := (recovers_iff Sample.oaep_laws Sample.generatesRsa hhistory hmem
    List.mem_cons_self haccepts).mp hrecovers
  rw [← mem_ring, Sample.ring_rotated, List.mem_singleton] at hheld
  subst hheld
  have hsame : (.ok 2 : Except KeyError UInt8) = .ok 1 := hload
  exact absurd (Except.ok.inj hsame) (by decide)

end AsymmetricSecretCipher

end PurIdentityServer.Jwks

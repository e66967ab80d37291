import PurIdentityServer.Application.RegisteredCredentials
import PurIdentityServer.Infrastructure.Secrets

/-!
# RegistrationCipher — the cipher of the server, as the registration uses it

A token that `AsymmetricSecretCipher` has sealed conceals one value: the
key it was sealed for opens it, no other key does. The cipher is therefore
sound for the registration of clients, whatever keys are active at each
request, retired or rotated in between.
-/

namespace PurIdentityServer.Jwks.AsymmetricSecretCipher

open Effects.Raising

variable (c : AsymmetricSecretCipher)

/-- The stores whose sealing keys are RSA keys. -/
abbrev Keyring := { w : KeyWorld // w.All (Seals c.oaep) }

/-- The exception as the registration sees it. -/
def raisedOf : KeyError → Raised
  | .valueError _ => .other "ValueError"
  | .keyError => .other "KeyError"
  | .runtimeError _ => .other "RuntimeError"

/-- The port `SecretCipher` of the registration. -/
def secretCipher : SecretCipher (Keyring c) where
  encrypt keys seed value := (answer (c.encrypt value seed) keys.val).mapError raisedOf
  decrypt keys token := (answer (c.decrypt token) keys.val).mapError raisedOf
  isCurrent keys token := (answer (c.isCurrent token) keys.val).mapError raisedOf
  reencrypt keys seed token := (answer (c.reencrypt token seed) keys.val).mapError raisedOf

/-- The token is a value sealed for some key. -/
def Conceals (token value : String) : Prop :=
  ∃ privateKey ciphertext seed kid, ':' ∉ kid.toList ∧
    c.oaep.encrypt (c.oaep.publicKey privateKey) seed (utf8Encode value) = some ciphertext ∧
    token = kid ++ ":" ++ sealedBody ciphertext

open Classical in
/-- The value a token conceals. -/
noncomputable def plaintext (token : String) : Option String :=
  if h : ∃ value, c.Conceals token value then some h.choose else none

variable {c} {w : KeyWorld} {token value : String}

theorem Conceals.ciphertext (hlaws : c.oaep.Laws) (h : c.Conceals token value) :
    ∃ privateKey ciphertext, Ciphertext c.oaep privateKey value ciphertext ∧
      CarriesBody token ciphertext := by
  obtain ⟨privateKey, ciphertext, seed, kid, hkid, hencrypt, rfl⟩ := h
  refine ⟨privateKey, ciphertext, .of_encrypt hlaws hencrypt, ?_⟩
  unfold CarriesBody
  rw [partitionColon_prefixed hkid, if_pos rfl]

theorem sealedBody_inj {a b : List UInt8} (h : sealedBody a = sealedBody b) : a = b := by
  have hdecoded := congrArg
    (fun body : String => Base64.urlsafeB64decode (body.toList ++ ['=', '=', '='])) h
  simp only [sealedBody, String.toList_ofList, Base64.decode_encode] at hdecoded
  exact Option.some.inj hdecoded

/-- A token conceals one value. -/
theorem Conceals.unique (hlaws : c.oaep.Laws) {value' : String} (h : c.Conceals token value)
    (h' : c.Conceals token value') : value = value' := by
  obtain ⟨key, ciphertext, hct, hbody⟩ := h.ciphertext hlaws
  obtain ⟨key', ciphertext', hct', hbody'⟩ := h'.ciphertext hlaws
  have hsame : ciphertext = ciphertext' := sealedBody_inj (hbody.symm.trans hbody')
  subst hsame
  by_cases hkey : key' = key
  · subst hkey
    have hopens := hct.opens.symm.trans hct'.opens
    have hdecoded := congrArg utf8Decode (Option.some.inj hopens)
    rw [utf8Decode_encode, utf8Decode_encode] at hdecoded
    exact Option.some.inj hdecoded
  · have hopens := hct'.opens
    rw [hct.rejects key' hkey] at hopens
    cases hopens

theorem plaintext_of_conceals (hlaws : c.oaep.Laws) (h : c.Conceals token value) :
    c.plaintext token = some value := by
  have hex : ∃ value, c.Conceals token value := ⟨value, h⟩
  rw [plaintext, dif_pos hex, hex.choose_spec.unique hlaws h]

theorem conceals_of_plaintext (h : c.plaintext token = some value) : c.Conceals token value := by
  unfold plaintext at h
  split at h
  · rename_i hex
    rw [← Option.some.inj h]
    exact hex.choose_spec
  · cases h

theorem Conceals.ne_nil (h : c.Conceals token value) : token ≠ "" := by
  obtain ⟨privateKey, ciphertext, seed, kid, -, -, rfl⟩ := h
  intro hnil
  have htext := congrArg String.toList hnil
  rw [String.toList_append, String.toList_append] at htext
  exact absurd htext (by simp)

/-- What `encrypt` answers conceals the value. -/
theorem conceals_of_encrypt (hkeys : w.All (Seals c.oaep)) {seed : Nat}
    (h : answer (c.encrypt value seed) w = .ok token) : c.Conceals token value := by
  by_cases hring : ring w = []
  · obtain ⟨e, hseal⟩ := outcome_sealKeys_nil (c := c) hring
    rw [answer, encrypt, outcome_bind_error hseal] at h
    cases h
  · obtain ⟨key, hlast⟩ := exists_newest hring
    obtain ⟨privateKey, hpair⟩ := seals_of_ring hkeys (newest_mem hlast)
    rw [answer, outcome_encrypt value seed hlast hpair] at h
    cases hencrypt : c.oaep.encrypt (c.oaep.publicKey privateKey) seed (utf8Encode value) with
    | none =>
        rw [hencrypt] at h
        cases h
    | some ciphertext =>
        rw [hencrypt] at h
        cases h
        exact ⟨privateKey, ciphertext, seed, key.kid, hpair.name, hencrypt, rfl⟩

/-- A concealed value opens to itself, where it opens. -/
theorem outcome_decrypt_of_conceals (hlaws : c.oaep.Laws) (hkeys : w.All (Seals c.oaep))
    (h : c.Conceals token value) :
    Effects.Raising.outcome (c.decrypt token) w = (.ok value, w) ∨
      ∃ e, Effects.Raising.outcome (c.decrypt token) w = (.error e, w) := by
  obtain ⟨privateKey, ciphertext, hct, hbody⟩ := h.ciphertext hlaws
  by_cases hheld : ∃ key ∈ ring w, c.oaep.loadPrivate key.privateKeyPem = .ok privateKey
  · exact .inl (outcome_decrypt_ok hct (.of_all hkeys) hbody hheld)
  · refine .inr (outcome_decrypt_error hct (.of_all hkeys) hbody ?_)
    intro key hkey hload
    exact hheld ⟨key, hkey, hload⟩

/-- What `reencrypt` answers conceals the value of before. -/
theorem conceals_of_reencrypt (hlaws : c.oaep.Laws) (hkeys : w.All (Seals c.oaep)) {seed : Nat}
    {token' : String} (hconceals : c.Conceals token value)
    (h : answer (c.reencrypt token seed) w = .ok token') : c.Conceals token' value := by
  by_cases hring : ring w = []
  · obtain ⟨e, hseal⟩ := outcome_sealKeys_nil (c := c) hring
    have hcurrent : Effects.Raising.outcome (c.isCurrent token) w = (.error e, w) := by
      show Effects.Raising.outcome (c.sealKeys >>= _) w = _
      exact outcome_bind_error hseal
    rw [answer, reencrypt, outcome_bind_error hcurrent] at h
    cases h
  · obtain ⟨key, hlast⟩ := exists_newest hring
    have hcurrent := outcome_isCurrent (c := c) hlast token
    cases hname : (partitionColon token).2.1 && (partitionColon token).1 == key.kid with
    | true =>
        rw [hname] at hcurrent
        rw [answer, outcome_reencrypt_current hcurrent] at h
        cases h
        exact hconceals
    | false =>
        rw [hname] at hcurrent
        rcases outcome_decrypt_of_conceals hlaws hkeys hconceals with hopen | ⟨e, hopen⟩
        · rw [answer, outcome_reencrypt_stale hcurrent hopen] at h
          exact conceals_of_encrypt hkeys h
        · rw [answer, reencrypt, outcome_bind_ok hcurrent] at h
          change (Effects.Raising.outcome (c.decrypt token >>= _) w).1 = _ at h
          rw [outcome_bind_error hopen] at h
          cases h

theorem answer_of_mapError {α : Type} {x : Except KeyError α} {a : α}
    (h : x.mapError raisedOf = .ok a) : x = .ok a := by
  cases x with
  | error e => cases h
  | ok b =>
      cases h
      rfl

/-- The cipher of the server is sound for the registration of clients. -/
theorem secretCipher_sound (hlaws : c.oaep.Laws) : c.secretCipher.Sound c.plaintext where
  encrypts := by
    intro keys seed value token h
    have hconceals := conceals_of_encrypt keys.property (answer_of_mapError h)
    exact ⟨hconceals.ne_nil, plaintext_of_conceals hlaws hconceals⟩
  reencrypts := by
    intro keys seed token value token' hplain h
    have hconceals := conceals_of_reencrypt hlaws keys.property (conceals_of_plaintext hplain)
      (answer_of_mapError h)
    exact ⟨hconceals.ne_nil, plaintext_of_conceals hlaws hconceals⟩
  decrypts := by
    intro keys token value value' hplain h
    have hanswer := answer_of_mapError h
    rcases outcome_decrypt_of_conceals hlaws keys.property (conceals_of_plaintext hplain) with
      hopen | ⟨e, hopen⟩
    · rw [answer, hopen] at hanswer
      cases hanswer
      rfl
    · rw [answer, hopen] at hanswer
      cases hanswer

end PurIdentityServer.Jwks.AsymmetricSecretCipher

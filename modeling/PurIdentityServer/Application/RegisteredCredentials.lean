import PurIdentityServer.Application.Registration
import PurIdentityServer.Application.Token

/-!
# RegisteredCredentials — the secrets the registration of clients stores

A client stores the fingerprint of its secret, the secret sealed, or both,
as its metadata need. One lemma says what an update can make of the
credentials (`updatedCredentials_ok`); over any run the two forms of a
stored secret agree, and an update leaves a client with the credentials it
needs, and issues a secret exactly when a new one is stored, under a
condition on what was stored before.
-/

namespace PurIdentityServer

open Effects

/-- Each token of the cipher conceals the value that `plaintext` gives: the one sealed, kept when
it is sealed again, and the only one it opens to. -/
structure SecretCipher.Sound {κ : Type} (cipher : SecretCipher κ)
    (plaintext : String → Option String) : Prop where
  encrypts : ∀ around seed value token, cipher.encrypt around seed value = .ok token →
    token ≠ "" ∧ plaintext token = some value
  reencrypts : ∀ around seed token value token', plaintext token = some value →
    cipher.reencrypt around seed token = .ok token' → token' ≠ "" ∧ plaintext token' = some value
  decrypts : ∀ around token value value', plaintext token = some value →
    cipher.decrypt around token = .ok value' → value' = value

namespace RegistrationUseCase

open Effects.Raising Registration

variable {κ : Type} (useCase : RegistrationUseCase κ) (plaintext : String → Option String)

/-! ## What a client stores -/

/-- The stored fingerprint is the one of the stored secret. -/
def Agree (secretHash secretCiphertext : String) : Prop :=
  secretCiphertext ≠ "" → ∃ value, plaintext secretCiphertext = some value ∧
    (secretHash ≠ "" → secretHash = useCase.hashSecret value)

/-- The fingerprint of the secret that is stored, hashed or sealed. -/
def stored (secretHash secretCiphertext : String) : Option String :=
  if secretHash ≠ "" then some secretHash
  else if secretCiphertext ≠ "" then (plaintext secretCiphertext).map useCase.hashSecret
  else none

/-- `stored`, of a client -/
def storedSecret (client : Client) : Option String :=
  useCase.stored plaintext client.clientSecretHash client.clientSecretCiphertext

/-- A client has the credentials its metadata need. -/
structure Credentialed (client : Client) : Prop where
  hashed : client.effectiveAuthMethod = .clientSecretBasic ∨
    client.effectiveAuthMethod = .clientSecretPost → client.clientSecretHash ≠ ""
  recoverable : client.effectiveAuthMethod = .clientSecretJwt ∨
    client.idTokenSignedResponseAlg ∈ symmetricSigningValues ∨
    client.idTokenEncryptedResponseAlg ∈ symmetricEncryptionValues →
      client.clientSecretCiphertext ≠ ""
  agree : client.clientSecretHash ≠ "" → client.clientSecretCiphertext ≠ "" →
    ∃ value, plaintext client.clientSecretCiphertext = some value ∧
      client.clientSecretHash = useCase.hashSecret value

/-- The secret stored is a new one. -/
def Renews (before : Option Client) (after : Client) : Prop :=
  useCase.storedSecret plaintext after ≠ none ∧
    before.bind (useCase.storedSecret plaintext) ≠ useCase.storedSecret plaintext after

/-- What an update needs of the secret stored before it; `drawn` is the secret it would draw. -/
def RotationSound (client : Client) (metadata : RegistrationMetadata) (drawn : String) : Prop :=
  metadata.tokenEndpointAuthMethod ∉ keylessAuthMethods →
    match metadata.requestedSecret with
    | some secret =>
        (metadata.tokenEndpointAuthMethod ≠ "client_secret_jwt" ∧
          client.clientSecretHash = useCase.hashSecret secret ∧
          client.clientSecretCiphertext ≠ "") ∨
        useCase.storedSecret plaintext client ≠ some (useCase.hashSecret secret)
    | none =>
        if metadata.tokenEndpointAuthMethod = "client_secret_jwt" then
          client.clientSecretCiphertext ≠ ""
        else
          client.clientSecretHash ≠ "" ∨
            useCase.storedSecret plaintext client ≠ some (useCase.hashSecret drawn)

/-- The metadata need a secret the server can recover. -/
def NeedsSealed (metadata : RegistrationMetadata) : Prop :=
  metadata.tokenEndpointAuthMethod = "client_secret_jwt" ∨ HasSymmetricSigning metadata ∨
    HasSymmetricEncryption metadata

/-! ## Accepted metadata -/

section Accepted

variable {useCase} {metadata : RegistrationMetadata}

theorem parseRequestedSecret_ne {raw : Members} {secret : String}
    (h : parseRequestedSecret raw = .ok (some secret)) : secret ≠ "" := by
  rintro rfl
  unfold parseRequestedSecret at h
  split at h
  · cases h
  · split at h
    · cases h
    · rename_i text htext hlong
      injection h with h
      injection h with h
      subst h
      exact hlong (by decide)
  · cases h

theorem parseMetadataExtras_requestedSecret {lib : UrlLibrary} {p : Platform} {raw : Members}
    {b64decode : String → Option (List UInt8)} {known : Finset String} {extras : MetadataExtras}
    (h : parseMetadataExtras lib p raw b64decode known = .ok extras) :
    parseRequestedSecret raw = .ok extras.requestedSecret := by
  unfold parseMetadataExtras at h
  obtain ⟨scopes, -, h⟩ := bind_eq_ok.mp h
  obtain ⟨method, -, h⟩ := bind_eq_ok.mp h
  obtain ⟨grants, -, h⟩ := bind_eq_ok.mp h
  obtain ⟨responses, -, h⟩ := bind_eq_ok.mp h
  obtain ⟨requested, hrequested, h⟩ := bind_eq_ok.mp h
  iterate 19 obtain ⟨_, -, h⟩ := bind_eq_ok.mp h
  cases h
  exact hrequested

/-- A secret that is requested is a text. -/
theorem parseMetadata_requestedSecret {lib : UrlLibrary} {p : Platform} {raw : Json}
    {b64decode : String → Option (List UInt8)} {known : Finset String} {secret : String}
    (h : parseMetadata lib p b64decode known raw = .ok metadata)
    (hsecret : metadata.requestedSecret = some secret) : secret ≠ "" := by
  unfold parseMetadata at h
  split at h
  · rename_i members
    iterate 7 obtain ⟨_, -, h⟩ := bind_eq_ok.mp h
    obtain ⟨extras, hextras, h⟩ := bind_eq_ok.mp h
    iterate 2 obtain ⟨_, -, h⟩ := bind_eq_ok.mp h
    split at h
    · cases h
    · obtain ⟨_, -, h⟩ := bind_eq_ok.mp h
      cases h
      have hrequested := parseMetadataExtras_requestedSecret hextras
      rw [show extras.requestedSecret = some secret from hsecret] at hrequested
      exact parseRequestedSecret_ne hrequested
  · cases h

/-- A method of the metadata, as the value of the enumeration. -/
theorem value_of_ofValue? {text : String} {method : TokenEndpointAuthMethod}
    (h : TokenEndpointAuthMethod.ofValue? text = some method) : method.value = text := by
  have := List.find?_some h
  exact of_decide_eq_true this

variable {around : κ}

theorem validateMethodMaterial_ok (h : validateMethodMaterial useCase metadata = .ok ()) :
    metadata.tokenEndpointAuthMethod = "client_secret_jwt" → useCase.secretCipher.isSome := by
  intro hjwt
  unfold validateMethodMaterial at h
  by_contra hnone
  rw [if_pos ⟨hjwt, by simpa using hnone⟩] at h
  cases h

theorem validateSigningMaterial_ok (h : validateSigningMaterial useCase metadata = .ok ())
    (hsigning : HasSymmetricSigning metadata) :
    metadata.tokenEndpointAuthMethod ∉ keylessAuthMethods ∧ useCase.secretCipher.isSome := by
  unfold validateSigningMaterial at h
  rw [if_neg (not_not.mpr hsigning)] at h
  split at h
  · cases h
  · rename_i hkeyless
    split at h
    · cases h
    · rename_i hcipher
      exact ⟨hkeyless, by simpa [Option.isSome_iff_ne_none] using hcipher⟩

theorem symmetric_not_asymmetric {algorithm : String} (h : algorithm ∈ symmetricEncryptionValues) :
    algorithm ≠ "" ∧ algorithm ∉ asymmetricEncryptionValues := by
  revert h
  simp only [symmetricEncryptionValues, asymmetricEncryptionValues, List.map_cons, List.map_nil,
    List.mem_cons, List.not_mem_nil, or_false]
  rintro (rfl | rfl | rfl)
  · decide
  · decide
  · decide

theorem validateEncryptionMaterial_ok (h : validateEncryptionMaterial useCase metadata = .ok ())
    (hencryption : HasSymmetricEncryption metadata) :
    metadata.tokenEndpointAuthMethod ∉ keylessAuthMethods ∧ useCase.secretCipher.isSome := by
  obtain ⟨hne, hasymmetric⟩ := symmetric_not_asymmetric hencryption
  unfold validateEncryptionMaterial at h
  dsimp only at h
  rw [if_neg (fun hboth => hne hboth.1), if_neg hne] at h
  split at h
  · cases h
  · split at h
    · cases h
    · split at h
      · cases h
      · rename_i hkeyless
        split at h
        · cases h
        · rename_i hcipher
          exact ⟨hkeyless, by simpa [Option.isSome_iff_ne_none] using hcipher⟩

/-- What the checks of new metadata give the credentials. -/
structure Sealable (metadata : RegistrationMetadata) : Prop where
  cipher : NeedsSealed metadata → useCase.secretCipher.isSome
  keyed : HasSymmetricSigning metadata ∨ HasSymmetricEncryption metadata →
    metadata.tokenEndpointAuthMethod ∉ keylessAuthMethods
  requested : ∀ secret, metadata.requestedSecret = some secret → secret ≠ ""

theorem validMetadata_ok {raw : Json} (h : validMetadata useCase around raw = .ok metadata) :
    useCase.Sealable metadata := by
  obtain ⟨known, -, h⟩ := bind_eq_ok.mp h
  obtain ⟨parsed, hparsed, h⟩ := bind_eq_ok.mp h
  obtain ⟨_, hvalid, h⟩ := bind_eq_ok.mp h
  cases h
  obtain ⟨_, hmethod, hvalid⟩ := bind_eq_ok.mp hvalid
  iterate 3 obtain ⟨_, -, hvalid⟩ := bind_eq_ok.mp hvalid
  obtain ⟨_, hsigning, hvalid⟩ := bind_eq_ok.mp hvalid
  obtain ⟨_, hencryption, -⟩ := bind_eq_ok.mp hvalid
  constructor
  · rintro (hjwt | hneeds | hneeds)
    · exact validateMethodMaterial_ok hmethod hjwt
    · exact (validateSigningMaterial_ok hsigning hneeds).2
    · exact (validateEncryptionMaterial_ok hencryption hneeds).2
  · rintro (hneeds | hneeds)
    · exact (validateSigningMaterial_ok hsigning hneeds).1
    · exact (validateEncryptionMaterial_ok hencryption hneeds).1
  · intro secret hsecret
    exact parseMetadata_requestedSecret hparsed hsecret

end Accepted

/-! ## What the credentials become -/

section Credentials

variable {useCase plaintext} {around : κ} {client : Client} {metadata : RegistrationMetadata}
  {w w' : RegistryWorld}

/-- A program answers `a`, and leaves the registry as `w'`. -/
abbrev Answers {α : Type} (x : RegistrationM α) (w : RegistryWorld) (a : α) (w' : RegistryWorld) :
    Prop :=
  Effects.Raising.outcome x w = (.ok a, w')

theorem drawToken_ok {token : String} (h : Answers useCase.drawToken w token w') :
    token = useCase.tokenUrlsafe w.draws := by
  cases h
  rfl

theorem mayRaise_ok {α : Type} {x : Except Raised α} {a : α} (h : mayRaise x = .ok a) :
    x = .ok a := by
  cases x with
  | error e => cases h
  | ok b =>
      cases h
      rfl

theorem outcome_lift_ok {α : Type} {x : Parsed α} {a : α}
    (h : Answers (Effects.Raising.lift x : RegistrationM α) w a w') :
    x = .ok a ∧ w' = w := by
  cases h
  exact ⟨rfl, rfl⟩

theorem cipherCall_ok {call : SecretCipher κ → Except Raised String} {token : String}
    (h : Answers (cipherCall useCase call) w token w') :
    ∃ cipher, useCase.secretCipher = some cipher ∧ call cipher = .ok token := by
  unfold cipherCall at h
  obtain ⟨hcall, -⟩ := outcome_lift_ok h
  cases hcipher : useCase.secretCipher with
  | none =>
      rw [hcipher] at hcall
      cases hcall
  | some cipher =>
      rw [hcipher] at hcall
      exact ⟨cipher, rfl, mayRaise_ok hcall⟩

variable (hsound : ∀ cipher, useCase.secretCipher = some cipher → cipher.Sound plaintext)
include hsound

theorem sealSecret_ok {value token : String}
    (h : Answers (sealSecret useCase around value) w token w') :
    token ≠ "" ∧ plaintext token = some value := by
  obtain ⟨seed, u, -, hcall⟩ := outcome_bind_eq_ok.mp h
  obtain ⟨cipher, hcipher, hencrypt⟩ := cipherCall_ok hcall
  exact (hsound cipher hcipher).encrypts _ _ _ _ hencrypt

theorem sealSecretWhen_ok {needsSeal : Bool} {value token : String}
    (h : Answers (sealSecretWhen useCase around needsSeal value) w token w') :
    (needsSeal = true → useCase.secretCipher.isSome → token ≠ "") ∧
      (token ≠ "" → plaintext token = some value) := by
  unfold sealSecretWhen at h
  split at h
  · obtain ⟨hne, hplain⟩ := sealSecret_ok hsound h
    exact ⟨fun _ _ => hne, fun _ => hplain⟩
  · rename_i hseal
    cases h
    exact ⟨fun h h' => absurd ⟨h, h'⟩ hseal, fun h => absurd rfl h⟩

theorem currentCiphertext_ok {cipher : SecretCipher κ} {old token value : String}
    (hne : old ≠ "") (hold : plaintext old = some value)
    (h : Answers (currentCiphertext useCase around cipher old) w token w') :
    token ≠ "" ∧ plaintext token = some value := by
  obtain ⟨current, u, -, hrest⟩ := outcome_bind_eq_ok.mp h
  split at hrest
  · cases hrest
    exact ⟨hne, hold⟩
  · obtain ⟨seed, v, -, hcall⟩ := outcome_bind_eq_ok.mp hrest
    obtain ⟨cipher', hcipher, hreencrypt⟩ := cipherCall_ok hcall
    exact (hsound cipher' hcipher).reencrypts _ _ _ _ _ hold hreencrypt

/-- A ciphertext that is recovered conceals what it did. -/
def Recovered (plaintext : String → Option String) (old token : String) : Prop :=
  ∀ value, plaintext old = some value → plaintext token = some value

theorem recoverCiphertext_ok {needsSeal : Bool} {token : String}
    (hagree : useCase.Agree plaintext client.clientSecretHash client.clientSecretCiphertext)
    (hcipher : needsSeal = true → useCase.secretCipher.isSome)
    (h : Answers (recoverCiphertext useCase around client needsSeal) w token w') :
    (client.clientSecretCiphertext = "" → token = "") ∧
      (client.clientSecretCiphertext ≠ "" →
        token ≠ "" ∧ Recovered plaintext client.clientSecretCiphertext token) := by
  unfold recoverCiphertext at h
  split at h
  · rename_i hneeds
    split at h
    · split at h
      · rename_i hempty
        cases h
        exact ⟨fun _ => rfl, fun hne => absurd hempty hne⟩
      · rename_i hne
        obtain ⟨value, hvalue, -⟩ := hagree hne
        obtain ⟨htoken, hplain⟩ := currentCiphertext_ok hsound hne hvalue h
        refine ⟨fun hempty => absurd hempty hne, fun _ => ⟨htoken, ?_⟩⟩
        intro value' hvalue'
        rw [hvalue] at hvalue'
        rw [hplain, hvalue']
    · rename_i hnone
      have := hcipher hneeds
      rw [hnone] at this
      cases this
  · cases h
    exact ⟨id, fun hne => ⟨hne, fun _ => id⟩⟩

/-- What an update can make of the credentials of a client; `drawn` is the next value drawn. -/
inductive Rotated (useCase : RegistrationUseCase κ) (plaintext : String → Option String)
    (client : Client) (metadata : RegistrationMetadata) (drawn : String) : SecretRotation → Prop
  | dropped (keyless : metadata.tokenEndpointAuthMethod ∈ keylessAuthMethods) :
      Rotated useCase plaintext client metadata drawn { secretHash := "", issuedSecret := "" }
  | missing (jwt : metadata.tokenEndpointAuthMethod = "client_secret_jwt")
      (requested : metadata.requestedSecret = none) (empty : client.clientSecretCiphertext = "") :
      Rotated useCase plaintext client metadata drawn { secretHash := "", issuedSecret := "" }
  | resealed (jwt : metadata.tokenEndpointAuthMethod = "client_secret_jwt") {secret token : String}
      (requested : metadata.requestedSecret = some secret)
      (conceals : token ≠ "" ∧ plaintext token = some secret) :
      Rotated useCase plaintext client metadata drawn
        { secretHash := "", issuedSecret := secret, secretCiphertext := token }
  | keptSealed (jwt : metadata.tokenEndpointAuthMethod = "client_secret_jwt") {token : String}
      (requested : metadata.requestedSecret = none) (stored : client.clientSecretCiphertext ≠ "")
      (recovered : token ≠ "" ∧ Recovered plaintext client.clientSecretCiphertext token) :
      Rotated useCase plaintext client metadata drawn
        { secretHash := "", issuedSecret := "", secretCiphertext := token }
  | renewed (keyed : metadata.tokenEndpointAuthMethod ∉ keylessAuthMethods)
      (hashed : metadata.tokenEndpointAuthMethod ≠ "client_secret_jwt") {secret token : String}
      (chosen : (metadata.requestedSecret = some secret ∧
          ¬(useCase.hashSecret secret = client.clientSecretHash ∧
            client.clientSecretCiphertext ≠ "")) ∨
        (metadata.requestedSecret = none ∧ client.clientSecretHash = "" ∧ secret = drawn))
      (needed : NeedsSealed metadata → token ≠ "")
      (conceals : token ≠ "" → plaintext token = some secret) :
      Rotated useCase plaintext client metadata drawn
        { secretHash := useCase.hashSecret secret, issuedSecret := secret
          secretCiphertext := token }
  | kept (keyed : metadata.tokenEndpointAuthMethod ∉ keylessAuthMethods)
      (hashed : metadata.tokenEndpointAuthMethod ≠ "client_secret_jwt") {token : String}
      (known : (∃ secret, metadata.requestedSecret = some secret ∧
          useCase.hashSecret secret = client.clientSecretHash ∧
          client.clientSecretCiphertext ≠ "") ∨
        (metadata.requestedSecret = none ∧ client.clientSecretHash ≠ ""))
      (empty : client.clientSecretCiphertext = "" → token = "")
      (recovered : client.clientSecretCiphertext ≠ "" →
        token ≠ "" ∧ Recovered plaintext client.clientSecretCiphertext token) :
      Rotated useCase plaintext client metadata drawn
        { secretHash := client.clientSecretHash, issuedSecret := "", secretCiphertext := token }

variable (hagree : useCase.Agree plaintext client.clientSecretHash client.clientSecretCiphertext)
  (hsealable : useCase.Sealable metadata)
include hagree hsealable

theorem rotateJwtSecret_ok (hjwt : metadata.tokenEndpointAuthMethod = "client_secret_jwt")
    {drawn : String} {rotation : SecretRotation}
    (h : Answers (rotateJwtSecret useCase around client metadata) w rotation w') :
    Rotated useCase plaintext client metadata drawn rotation := by
  unfold rotateJwtSecret at h
  split at h
  · rename_i hnone
    have hsome := hsealable.cipher (.inl hjwt)
    rw [hnone] at hsome
    cases hsome
  · split at h
    · rename_i secret hsecret
      obtain ⟨token, u, hseal, hreturn⟩ := outcome_bind_eq_ok.mp h
      have hconceals := sealSecret_ok hsound hseal
      cases hreturn
      exact .resealed hjwt hsecret hconceals
    · rename_i hnone
      split at h
      · rename_i hempty
        cases h
        exact .missing hjwt hnone hempty
      · rename_i hstored
        obtain ⟨token, u, hcurrent, hreturn⟩ := outcome_bind_eq_ok.mp h
        obtain ⟨value, hvalue, -⟩ := hagree hstored
        obtain ⟨hne, hplain⟩ := currentCiphertext_ok hsound hstored hvalue hcurrent
        cases hreturn
        refine .keptSealed hjwt hnone hstored ⟨hne, ?_⟩
        intro value' hvalue'
        rw [hvalue] at hvalue'
        rw [hplain, hvalue']

omit hagree in
theorem rotateTo_ok {needsSeal : Bool} {secret : String} {rotation : SecretRotation}
    (hneeds : NeedsSealed metadata → needsSeal = true)
    (h : Answers (rotateTo useCase around needsSeal secret) w rotation w') :
    ∃ token, rotation = { secretHash := useCase.hashSecret secret, issuedSecret := secret
                          secretCiphertext := token } ∧
      (NeedsSealed metadata → token ≠ "") ∧ (token ≠ "" → plaintext token = some secret) := by
  obtain ⟨token, u, hseal, hreturn⟩ := outcome_bind_eq_ok.mp h
  obtain ⟨hne, hplain⟩ := sealSecretWhen_ok hsound hseal
  cases hreturn
  exact ⟨token, rfl, fun hneed => hne (hneeds hneed) (hsealable.cipher hneed), hplain⟩

theorem keepSecret_ok {needsSeal : Bool} {rotation : SecretRotation}
    (hneeds : needsSeal = true → NeedsSealed metadata)
    (h : Answers (keepSecret useCase around client needsSeal) w rotation w') :
    ∃ token, rotation = { secretHash := client.clientSecretHash, issuedSecret := ""
                          secretCiphertext := token } ∧
      (client.clientSecretCiphertext = "" → token = "") ∧
      (client.clientSecretCiphertext ≠ "" →
        token ≠ "" ∧ Recovered plaintext client.clientSecretCiphertext token) := by
  obtain ⟨token, u, hrecover, hreturn⟩ := outcome_bind_eq_ok.mp h
  obtain ⟨hempty, hrecovered⟩ := recoverCiphertext_ok hsound hagree
    (fun hseal => hsealable.cipher (hneeds hseal)) hrecover
  cases hreturn
  exact ⟨token, rfl, hempty, hrecovered⟩

/-- What an update makes of the credentials. -/
theorem updatedCredentials_ok {rotation : SecretRotation}
    (h : Answers (updatedCredentials useCase around client metadata) w rotation w') :
    Rotated useCase plaintext client metadata (useCase.tokenUrlsafe w.draws) rotation := by
  unfold updatedCredentials at h
  dsimp only at h
  split at h
  · rename_i hkeyless
    cases h
    exact .dropped hkeyless
  · rename_i hkeyed
    split at h
    · rename_i hjwt
      exact rotateJwtSecret_ok hsound hagree hsealable hjwt h
    · rename_i hhashed
      have hneeds : NeedsSealed metadata ↔
          decide (HasSymmetricSigning metadata ∨ HasSymmetricEncryption metadata) = true := by
        rw [decide_eq_true_iff, NeedsSealed, or_iff_right hhashed]
      split at h
      · rename_i secret hsecret
        split at h
        · rename_i hknown
          obtain ⟨token, rfl, hempty, hrecovered⟩ :=
            keepSecret_ok hsound hagree hsealable hneeds.mpr h
          exact .kept hkeyed hhashed (.inl ⟨secret, hsecret, hknown⟩) hempty hrecovered
        · rename_i hnew
          obtain ⟨token, rfl, hne, hplain⟩ := rotateTo_ok hsound hsealable hneeds.mp h
          exact .renewed hkeyed hhashed (.inl ⟨hsecret, hnew⟩) hne hplain
      · rename_i hnone
        split at h
        · rename_i hstored
          obtain ⟨token, rfl, hempty, hrecovered⟩ :=
            keepSecret_ok hsound hagree hsealable hneeds.mpr h
          exact .kept hkeyed hhashed (.inr ⟨hnone, hstored⟩) hempty hrecovered
        · rename_i hstored
          obtain ⟨generated, u, hdraw, hrotate⟩ := outcome_bind_eq_ok.mp h
          have hgenerated := drawToken_ok hdraw
          obtain ⟨token, rfl, hne, hplain⟩ := rotateTo_ok hsound hsealable hneeds.mp hrotate
          exact .renewed hkeyed hhashed (.inr ⟨hnone, not_not.mp hstored, hgenerated⟩) hne hplain

end Credentials

/-! ## What an update needs -/

section Sound

variable {useCase plaintext} {client : Client} {metadata : RegistrationMetadata}

theorem stored_of_hash {secretHash : String} (h : secretHash ≠ "") (secretCiphertext : String) :
    useCase.stored plaintext secretHash secretCiphertext = some secretHash := if_pos h

theorem stored_of_ciphertext {token value : String} (hne : token ≠ "")
    (hplain : plaintext token = some value) :
    useCase.stored plaintext "" token = some (useCase.hashSecret value) := by
  rw [stored, if_neg (not_not.mpr rfl), if_pos hne, hplain]
  rfl

theorem stored_none : useCase.stored plaintext "" "" = none := rfl

/-- The two forms of a stored secret give one fingerprint. -/
theorem stored_of_agree {secretHash token value : String}
    (hagree : useCase.Agree plaintext secretHash token) (hne : token ≠ "")
    (hplain : plaintext token = some value) :
    useCase.stored plaintext secretHash token = some (useCase.hashSecret value) := by
  by_cases hhash : secretHash = ""
  · rw [hhash]
    exact stored_of_ciphertext hne hplain
  · obtain ⟨value', hvalue', heq⟩ := hagree hne
    rw [hplain] at hvalue'
    cases hvalue'
    rw [stored_of_hash hhash, heq hhash]

variable {drawn : String} {rotation : SecretRotation}

/-- The rotation leaves the credentials that the metadata need. -/
structure Provides (metadata : RegistrationMetadata) (secretHash secretCiphertext : String) :
    Prop where
  hashed : metadata.tokenEndpointAuthMethod = "client_secret_basic" ∨
    metadata.tokenEndpointAuthMethod = "client_secret_post" → secretHash ≠ ""
  recoverable : NeedsSealed metadata → secretCiphertext ≠ ""

/-- A new secret is stored. -/
def RenewsStored (before after : Option String) : Prop := after ≠ none ∧ before ≠ after

theorem Rotated.agree (h : Rotated useCase plaintext client metadata drawn rotation)
    (hagree : useCase.Agree plaintext client.clientSecretHash client.clientSecretCiphertext) :
    useCase.Agree plaintext rotation.secretHash rotation.secretCiphertext := by
  intro hne
  cases h with
  | dropped => exact absurd rfl hne
  | missing => exact absurd rfl hne
  | resealed jwt requested conceals => exact ⟨_, conceals.2, fun h => absurd rfl h⟩
  | keptSealed jwt requested stored recovered =>
      obtain ⟨value, hvalue, -⟩ := hagree stored
      exact ⟨value, recovered.2 value hvalue, fun h => absurd rfl h⟩
  | renewed keyed hashed chosen needed conceals => exact ⟨_, conceals hne, fun _ => rfl⟩
  | kept keyed hashed known empty recovered =>
      have hstored : client.clientSecretCiphertext ≠ "" := fun h => hne (empty h)
      obtain ⟨value, hvalue, hhash⟩ := hagree hstored
      exact ⟨value, (recovered hstored).2 value hvalue, hhash⟩

variable (hhash : ∀ value, useCase.hashSecret value ≠ "")
  (hagree : useCase.Agree plaintext client.clientSecretHash client.clientSecretCiphertext)
  (hsealable : useCase.Sealable metadata)

theorem renewsStored_some {before : Option String} {fingerprint : String} :
    RenewsStored before (some fingerprint) ↔ before ≠ some fingerprint :=
  and_iff_right (Option.some_ne_none fingerprint)

theorem rotationSound_requested (keyed : metadata.tokenEndpointAuthMethod ∉ keylessAuthMethods)
    {secret : String} (requested : metadata.requestedSecret = some secret) :
    useCase.RotationSound plaintext client metadata drawn ↔
      (metadata.tokenEndpointAuthMethod ≠ "client_secret_jwt" ∧
        client.clientSecretHash = useCase.hashSecret secret ∧
        client.clientSecretCiphertext ≠ "") ∨
      useCase.storedSecret plaintext client ≠ some (useCase.hashSecret secret) := by
  rw [RotationSound, requested]
  exact forall_prop_of_true keyed

theorem rotationSound_none (keyed : metadata.tokenEndpointAuthMethod ∉ keylessAuthMethods)
    (requested : metadata.requestedSecret = none) :
    useCase.RotationSound plaintext client metadata drawn ↔
      if metadata.tokenEndpointAuthMethod = "client_secret_jwt" then
        client.clientSecretCiphertext ≠ ""
      else client.clientSecretHash ≠ "" ∨
        useCase.storedSecret plaintext client ≠ some (useCase.hashSecret drawn) := by
  rw [RotationSound, requested]
  exact forall_prop_of_true keyed

theorem jwt_keyed (jwt : metadata.tokenEndpointAuthMethod = "client_secret_jwt") :
    metadata.tokenEndpointAuthMethod ∉ keylessAuthMethods := by
  rw [jwt]
  decide

/-- With `client_secret_jwt` the sealed secret is all that is needed. -/
theorem provides_of_jwt (jwt : metadata.tokenEndpointAuthMethod = "client_secret_jwt")
    {token : String} (hne : token ≠ "") : Provides metadata "" token := by
  constructor
  · rintro (hmethod | hmethod)
    · rw [jwt] at hmethod
      exact absurd hmethod (by decide)
    · rw [jwt] at hmethod
      exact absurd hmethod (by decide)
  · intro _
    exact hne

/-- A client whose secret has to be recoverable stores it sealed, or changes it. -/
def AtHand (useCase : RegistrationUseCase κ) (client : Client) (metadata : RegistrationMetadata) :
    Prop :=
  NeedsSealed metadata → metadata.tokenEndpointAuthMethod ≠ "client_secret_jwt" →
    metadata.tokenEndpointAuthMethod ∉ keylessAuthMethods →
      client.clientSecretCiphertext = "" →
        ∃ secret, metadata.requestedSecret = some secret ∧
          useCase.hashSecret secret ≠ client.clientSecretHash

include hhash hagree hsealable

/-- An update gives the client its credentials, and issues a secret exactly when a new one is
stored, if and only if the secret stored before allows it. -/
theorem Rotated.sound (h : Rotated useCase plaintext client metadata drawn rotation)
    (hdrawn : drawn ≠ "") (hathand : AtHand useCase client metadata) :
    (Provides metadata rotation.secretHash rotation.secretCiphertext ∧
        (rotation.issuedSecret ≠ "" ↔
          RenewsStored (useCase.storedSecret plaintext client)
            (useCase.stored plaintext rotation.secretHash rotation.secretCiphertext))) ↔
      useCase.RotationSound plaintext client metadata drawn := by
  cases h with
  | dropped keyless =>
      have hbasic : "client_secret_basic" ∉ keylessAuthMethods := by decide
      have hpost : "client_secret_post" ∉ keylessAuthMethods := by decide
      have hjwt : "client_secret_jwt" ∉ keylessAuthMethods := by decide
      constructor
      · intro _ hkeyed
        exact absurd keyless hkeyed
      · intro _
        refine ⟨⟨?_, ?_⟩, ⟨fun hissued => absurd rfl hissued, fun hnew => absurd rfl hnew.1⟩⟩
        · rintro (hmethod | hmethod)
          · exact absurd (hmethod ▸ keyless) hbasic
          · exact absurd (hmethod ▸ keyless) hpost
        · rintro (hmethod | hneeds)
          · exact absurd (hmethod ▸ keyless) hjwt
          · exact absurd keyless (hsealable.keyed hneeds)
  | missing jwt requested empty =>
      rw [rotationSound_none (jwt_keyed jwt) requested, if_pos jwt]
      constructor
      · intro h
        exact absurd rfl (h.1.recoverable (.inl jwt))
      · intro hstored
        exact absurd empty hstored
  | @resealed jwt secret token requested conceals =>
      rw [rotationSound_requested (jwt_keyed jwt) requested,
        stored_of_ciphertext conceals.1 conceals.2, renewsStored_some]
      have hissued := hsealable.requested secret requested
      constructor
      · intro h
        exact .inr (h.2.mp hissued)
      · rintro (⟨hmethod, -⟩ | hnew)
        · exact absurd jwt hmethod
        · exact ⟨provides_of_jwt jwt conceals.1, ⟨fun _ => hnew, fun _ => hissued⟩⟩
  | keptSealed jwt requested stored recovered =>
      rw [rotationSound_none (jwt_keyed jwt) requested, if_pos jwt]
      obtain ⟨value, hvalue, -⟩ := hagree stored
      have hbefore : useCase.storedSecret plaintext client = some (useCase.hashSecret value) :=
        stored_of_agree hagree stored hvalue
      rw [hbefore, stored_of_ciphertext recovered.1 (recovered.2 value hvalue), renewsStored_some]
      constructor
      · intro _
        exact stored
      · intro _
        exact ⟨provides_of_jwt jwt recovered.1,
          ⟨fun hissued => absurd rfl hissued, fun hnew => absurd rfl hnew⟩⟩
  | @renewed keyed hashed secret token chosen needed conceals =>
      rw [stored_of_hash (hhash secret), renewsStored_some]
      have hissued : secret ≠ "" := by
        rcases chosen with ⟨requested, -⟩ | ⟨-, -, rfl⟩
        · exact hsealable.requested secret requested
        · exact hdrawn
      have hsound : useCase.RotationSound plaintext client metadata drawn ↔
          useCase.storedSecret plaintext client ≠ some (useCase.hashSecret secret) := by
        rcases chosen with ⟨requested, hnew⟩ | ⟨requested, hempty, rfl⟩
        · rw [rotationSound_requested keyed requested]
          exact or_iff_right fun h => hnew ⟨h.2.1.symm, h.2.2⟩
        · rw [rotationSound_none keyed requested, if_neg hashed]
          exact or_iff_right fun h => h hempty
      rw [hsound]
      constructor
      · intro h
        exact h.2.mp hissued
      · intro hnew
        exact ⟨⟨fun _ => hhash secret, needed⟩, ⟨fun _ => hnew, fun _ => hissued⟩⟩
  | @kept keyed hashed token known empty recovered =>
      have hstored : client.clientSecretHash ≠ "" := by
        rcases known with ⟨secret, -, heq, -⟩ | ⟨-, hne⟩
        · rw [← heq]
          exact hhash secret
        · exact hne
      have hsound : useCase.RotationSound plaintext client metadata drawn := by
        rcases known with ⟨secret, requested, heq, hne⟩ | ⟨requested, hne⟩
        · exact (rotationSound_requested keyed requested).mpr (.inl ⟨hashed, heq.symm, hne⟩)
        · exact (rotationSound_none keyed requested).mpr ((if_neg hashed).mpr (.inl hne))
      have hneeded : NeedsSealed metadata → token ≠ "" := by
        intro hneeds
        by_cases hct : client.clientSecretCiphertext = ""
        · obtain ⟨secret, requested, hother⟩ := hathand hneeds hashed keyed hct
          rcases known with ⟨secret', requested', -, hne⟩ | ⟨requested', -⟩
          · exact absurd hct hne
          · rw [requested] at requested'
            cases requested'
        · exact (recovered hct).1
      rw [storedSecret, stored_of_hash hstored, stored_of_hash hstored, renewsStored_some]
      constructor
      · intro _
        exact hsound
      · intro _
        exact ⟨⟨fun _ => hstored, hneeded⟩,
          ⟨fun hissued => absurd rfl hissued, fun hnew => absurd rfl hnew⟩⟩

end Sound

/-! ## Requests -/

section Requests

variable {useCase plaintext} {around : κ} {kept client client' : Client} {metadata : RegistrationMetadata}
  {secretHash token : String}

/-- The registry holds the same clients. -/
def SameClients (w w' : RegistryWorld) : Prop := w'.clients = w.clients

theorem sameClients_refl (w : RegistryWorld) : SameClients w w := rfl

theorem sameClients_trans (u v w : RegistryWorld) (h : SameClients u v) (h' : SameClients v w) :
    SameClients u w := Eq.trans h' h

theorem along_draw : Along SameClients draw := fun _ => rfl

theorem along_drawToken : Along SameClients useCase.drawToken := fun _ => rfl

theorem along_cipherCall (call : SecretCipher κ → Except Raised String) :
    Along SameClients (cipherCall useCase call) := along_lift sameClients_refl _

theorem along_sealSecret (value : String) :
    Along SameClients (sealSecret useCase around value) :=
  along_bind sameClients_trans along_draw fun _ => along_cipherCall _

theorem along_currentCiphertext (cipher : SecretCipher κ) (old : String) :
    Along SameClients (currentCiphertext useCase around cipher old) := by
  apply along_bind sameClients_trans (along_lift sameClients_refl _)
  intro current
  split
  · exact along_pure sameClients_refl _
  · exact along_bind sameClients_trans along_draw fun _ => along_cipherCall _

theorem along_credentialsFor : Along SameClients (credentialsFor useCase around metadata) := by
  unfold credentialsFor
  dsimp only
  split
  · apply along_bind sameClients_trans along_drawToken
    intro secret
    apply along_bind sameClients_trans (along_sealSecret secret)
    intro ciphertext
    split
    · exact along_pure sameClients_refl _
    · exact along_pure sameClients_refl _
  · split
    · exact along_bind sameClients_trans along_drawToken fun _ => along_pure sameClients_refl _
    · exact along_pure sameClients_refl _

theorem along_recoverCiphertext (needsSeal : Bool) :
    Along SameClients (recoverCiphertext useCase around client needsSeal) := by
  unfold recoverCiphertext
  split
  · split
    · split
      · exact along_pure sameClients_refl _
      · exact along_currentCiphertext _ _
    · exact along_pure sameClients_refl _
  · exact along_pure sameClients_refl _

theorem along_rotateTo (needsSeal : Bool) (secret : String) :
    Along SameClients (rotateTo useCase around needsSeal secret) := by
  refine along_bind sameClients_trans ?_ fun _ => along_pure sameClients_refl _
  unfold sealSecretWhen
  split
  · exact along_sealSecret secret
  · exact along_pure sameClients_refl _

theorem along_keepSecret (needsSeal : Bool) :
    Along SameClients (keepSecret useCase around client needsSeal) :=
  along_bind sameClients_trans (along_recoverCiphertext needsSeal) fun _ =>
    along_pure sameClients_refl _

theorem along_rotateJwtSecret :
    Along SameClients (rotateJwtSecret useCase around client metadata) := by
  unfold rotateJwtSecret
  split
  · exact along_pure sameClients_refl _
  · split
    · exact along_bind sameClients_trans (along_sealSecret _) fun _ =>
        along_pure sameClients_refl _
    · split
      · exact along_pure sameClients_refl _
      · exact along_bind sameClients_trans (along_currentCiphertext _ _) fun _ =>
          along_pure sameClients_refl _

theorem along_updatedCredentials :
    Along SameClients (updatedCredentials useCase around client metadata) := by
  unfold updatedCredentials
  dsimp only
  split
  · exact along_pure sameClients_refl _
  · split
    · exact along_rotateJwtSecret
    · split
      · split
        · exact along_keepSecret _
        · exact along_rotateTo _ _
      · split
        · exact along_keepSecret _
        · exact along_bind sameClients_trans along_drawToken fun _ => along_rotateTo _ _

/-- What the metadata and the credentials make of a client. -/
theorem clientOf_ok (h : clientOf useCase kept metadata secretHash token = .ok client) :
    client.clientId = kept.clientId ∧
      client.registrationAccessTokenHash = kept.registrationAccessTokenHash ∧
      client.clientSecretHash = secretHash ∧ client.clientSecretCiphertext = token ∧
      client.effectiveAuthMethod.value = metadata.tokenEndpointAuthMethod ∧
      client.idTokenSignedResponseAlg = metadata.idTokenSignedResponseAlg ∧
      client.idTokenEncryptedResponseAlg = metadata.idTokenEncryptedResponseAlg := by
  obtain ⟨method, hmethod, h⟩ := bind_eq_ok.mp h
  obtain ⟨keys, -, h⟩ := bind_eq_ok.mp h
  obtain ⟨subjectType, -, h⟩ := bind_eq_ok.mp h
  have hvalue : method.value = metadata.tokenEndpointAuthMethod := by
    unfold enumMember at hmethod
    split at hmethod
    · rename_i hmember
      cases hmethod
      exact value_of_ofValue? hmember
    · cases hmethod
  cases h
  exact ⟨rfl, rfl, rfl, rfl, hvalue, rfl, rfl⟩

theorem value_injective : Function.Injective TokenEndpointAuthMethod.value := by
  intro a b h
  have hoption := congrArg TokenEndpointAuthMethod.ofValue? h
  rw [TokenEndpointAuthMethod.ofValue?_value, TokenEndpointAuthMethod.ofValue?_value] at hoption
  exact Option.some.inj hoption

/-- The credentials of a client are those its metadata need. -/
theorem credentialed_iff (h : clientOf useCase kept metadata secretHash token = .ok client)
    (hagree : useCase.Agree plaintext secretHash token) :
    useCase.Credentialed plaintext client ↔ Provides metadata secretHash token := by
  obtain ⟨-, -, rfl, rfl, hmethod, hsigning, hencryption⟩ := clientOf_ok h
  have hvalue (method : TokenEndpointAuthMethod) : client.effectiveAuthMethod = method ↔
      metadata.tokenEndpointAuthMethod = method.value := by
    rw [← hmethod, value_injective.eq_iff]
  constructor
  · rintro ⟨hhashed, hrecoverable, -⟩
    rw [hvalue, hvalue] at hhashed
    rw [hvalue, hsigning, hencryption] at hrecoverable
    exact ⟨hhashed, hrecoverable⟩
  · rintro ⟨hhashed, hrecoverable⟩
    refine ⟨?_, ?_, ?_⟩
    · rw [hvalue, hvalue]
      exact hhashed
    · rw [hvalue, hsigning, hencryption]
      exact hrecoverable
    · intro hhash hciphertext
      obtain ⟨value, hplain, heq⟩ := hagree hciphertext
      exact ⟨value, hplain, heq hhash⟩

theorem validateSecretAtHand_ok {missing unchanged : String}
    (h : validateSecretAtHand useCase client metadata missing unchanged = .ok ())
    (hmethod : metadata.tokenEndpointAuthMethod = "client_secret_basic" ∨
      metadata.tokenEndpointAuthMethod = "client_secret_post")
    (hempty : client.clientSecretCiphertext = "") :
    ∃ secret, metadata.requestedSecret = some secret ∧
      useCase.hashSecret secret ≠ client.clientSecretHash := by
  unfold validateSecretAtHand at h
  dsimp only at h
  rw [if_pos hmethod] at h
  split at h
  · rw [if_pos hempty] at h
    cases h
  · rename_i secret hsecret
    split at h
    · cases h
    · rename_i hknown
      exact ⟨secret, hsecret, fun heq => hknown ⟨heq, hempty⟩⟩

/-- The methods with a secret that is stored as its fingerprint. -/
theorem hashed_method {method : TokenEndpointAuthMethod}
    (hkeyed : method.value ∉ keylessAuthMethods) (hjwt : method.value ≠ "client_secret_jwt") :
    method.value = "client_secret_basic" ∨ method.value = "client_secret_post" := by
  revert hkeyed hjwt
  cases method <;> decide

theorem atHand_of_valid
    (hsigning : validateSigningRotation useCase client metadata = .ok ())
    (hencryption : validateEncryptionRotation useCase client metadata = .ok ())
    (hmethod : client'.effectiveAuthMethod.value = metadata.tokenEndpointAuthMethod) :
    AtHand useCase client metadata := by
  intro hneeds hjwt hkeyed hempty
  have hhashed := hashed_method (hmethod ▸ hkeyed) (hmethod ▸ hjwt)
  rw [hmethod] at hhashed
  rcases hneeds with hneeds | hneeds | hneeds
  · exact absurd hneeds hjwt
  · rw [validateSigningRotation, if_neg (not_not.mpr hneeds)] at hsigning
    exact validateSecretAtHand_ok hsigning hhashed hempty
  · rw [validateEncryptionRotation, if_neg (not_not.mpr hneeds)] at hencryption
    exact validateSecretAtHand_ok hencryption hhashed hempty

/-- A program that keeps the clients, before what is said of its answer. -/
theorem wp_keeping {α β : Type} {x : RegistrationM α} {f : α → RegistrationM β}
    {Q : β → RegistryWorld → Prop} {E : Refusal → RegistryWorld → Prop} {w : RegistryWorld}
    (hx : Along SameClients x) (hE : ∀ e w', SameClients w w' → E e w')
    (hf : ∀ a w', Answers x w a w' → SameClients w w' → wp (f a) Q E w') : wp (x >>= f) Q E w :=
  wp_bind.mpr (wp_mono (wp_of_along hx) (fun a w' h => hf a w' h.1 h.2) hE)

theorem wp_resolveManaged (request : ReadClientRequest) (w : RegistryWorld) :
    wp (resolveManaged useCase request)
      (fun client w' => w' = w ∧ w.clients.find request.clientId = some client ∧
        client.registrationAccessTokenHash ≠ "")
      (fun _ w' => w' = w) w := by
  unfold resolveManaged
  rw [Raising.wp_bind, Raising.wp_get]
  split
  · exact rfl
  · rename_i client hfound
    split
    · rename_i hauthorised
      exact ⟨rfl, hfound, (of_decide_eq_true hauthorised).2.1⟩
    · exact rfl

/-- A client as `register` and `update` save it: valid metadata, and credentials. -/
def Accepted (useCase : RegistrationUseCase κ) (client : Client) : Prop :=
  ∃ around raw kept metadata secretHash token, validMetadata useCase around raw = .ok metadata ∧
    clientOf useCase kept metadata secretHash token = .ok client

variable (hsound : ∀ cipher, useCase.secretCipher = some cipher → cipher.Sound plaintext)
  (hhash : ∀ value, useCase.hashSecret value ≠ "") (htoken : ∀ n, useCase.tokenUrlsafe n ≠ "")
include hsound hhash htoken

/-- A new client has its credentials, and its secret is issued when there is one. -/
theorem credentialsFor_ok {w w' : RegistryWorld} {secret : String}
    (h : Answers (credentialsFor useCase around metadata) w (secretHash, token, secret) w') :
    useCase.Agree plaintext secretHash token ∧ Provides metadata secretHash token ∧
      (secret ≠ "" ↔ useCase.stored plaintext secretHash token ≠ none) := by
  have hissued : ∀ {u v : RegistryWorld} {drawn : String}, Answers useCase.drawToken u drawn v →
      drawn ≠ "" := by
    intro u v drawn hdraw
    rw [drawToken_ok hdraw]
    exact htoken _
  unfold credentialsFor at h
  dsimp only at h
  split at h
  · obtain ⟨drawn, u, hdraw, hrest⟩ := outcome_bind_eq_ok.mp h
    obtain ⟨ciphertext, v, hseal, hreturn⟩ := outcome_bind_eq_ok.mp hrest
    obtain ⟨hne, hplain⟩ := sealSecret_ok hsound hseal
    split at hreturn
    · rename_i hjwt
      cases hreturn
      refine ⟨fun _ => ⟨secret, hplain, fun h => absurd rfl h⟩, provides_of_jwt hjwt hne, ?_⟩
      rw [stored_of_ciphertext hne hplain]
      exact ⟨fun _ => Option.some_ne_none _, fun _ => hissued hdraw⟩
    · cases hreturn
      refine ⟨fun _ => ⟨secret, hplain, fun _ => rfl⟩, ⟨fun _ => hhash secret, fun _ => hne⟩, ?_⟩
      rw [stored_of_hash (hhash secret)]
      exact ⟨fun _ => Option.some_ne_none _, fun _ => hissued hdraw⟩
  · rename_i hneeds
    split at h
    · obtain ⟨drawn, u, hdraw, hreturn⟩ := outcome_bind_eq_ok.mp h
      cases hreturn
      refine ⟨fun h => absurd rfl h, ⟨fun _ => hhash secret, fun h => absurd h hneeds⟩, ?_⟩
      rw [stored_of_hash (hhash secret)]
      exact ⟨fun _ => Option.some_ne_none _, fun _ => hissued hdraw⟩
    · rename_i hmethod
      cases h
      exact ⟨fun h => absurd rfl h, ⟨fun h => absurd h hmethod, fun h => absurd h hneeds⟩,
        ⟨fun h => absurd rfl h, fun h => absurd stored_none h⟩⟩

/-- The client a registration saves. -/
structure Registered (useCase : RegistrationUseCase κ) (plaintext : String → Option String)
    (registration : ClientRegistration) (client : Client) : Prop where
  clientId : registration.clientId = client.clientId
  accepted : useCase.Accepted client
  agree : useCase.Agree plaintext client.clientSecretHash client.clientSecretCiphertext
  credentialed : useCase.Credentialed plaintext client
  issued : registration.clientSecret ≠ "" ↔ useCase.Renews plaintext none client

theorem wp_register (request : RegisterRequest) (w : RegistryWorld) :
    wp (register useCase around request)
      (fun registration w' => ∃ client, Registered useCase plaintext registration client ∧
        w'.clients = w.clients.save client)
      (fun _ w' => SameClients w w') w := by
  unfold register
  refine wp_lift_bind (fun _ _ => rfl) ?_
  intro authorised _
  split
  · exact rfl
  refine wp_lift_bind (fun _ _ => rfl) ?_
  intro metadata hvalid
  refine wp_keeping along_drawToken (fun _ _ h => h) ?_
  intro clientId w₁ _ hw₁
  refine wp_keeping along_credentialsFor (fun _ _ h => sameClients_trans _ _ _ hw₁ h) ?_
  rintro ⟨secretHash, ciphertext, secret⟩ w₂ hcredentials hw₂
  have hw₂ := sameClients_trans _ _ _ hw₁ hw₂
  obtain ⟨hagree, hprovides, hissued⟩ := credentialsFor_ok hsound hhash htoken hcredentials
  refine wp_keeping along_drawToken (fun _ _ h => sameClients_trans _ _ _ hw₂ h) ?_
  intro registrationToken w₃ _ hw₃
  have hw₃ := sameClients_trans _ _ _ hw₂ hw₃
  refine wp_lift_bind (fun _ _ => hw₃) ?_
  intro client hclient
  have hcredentialed := (credentialed_iff hclient hagree).mpr hprovides
  have haccepted : useCase.Accepted client := ⟨_, _, _, _, _, _, hvalid, hclient⟩
  obtain ⟨-, -, rfl, rfl, -, -, -⟩ := clientOf_ok hclient
  refine ⟨client, ⟨rfl, haccepted, hagree, hcredentialed, ?_⟩, ?_⟩
  · constructor
    · intro hsecret
      exact ⟨hissued.mp hsecret, fun h => hissued.mp hsecret h.symm⟩
    · intro hnew
      exact hissued.mpr hnew.1
  · show w₃.clients.save client = _
    rw [show w₃.clients = w.clients from hw₃]

/-- A managed client is one that was accepted, and the two forms of its secret agree. -/
def Kept (useCase : RegistrationUseCase κ) (plaintext : String → Option String)
    (w : RegistryWorld) : Prop :=
  ∀ client ∈ w.clients.rows, client.registrationAccessTokenHash ≠ "" →
    useCase.Accepted client ∧
      useCase.Agree plaintext client.clientSecretHash client.clientSecretCiphertext

/-- The client an update saves, where the metadata are `metadata` and the client was `before`. -/
structure Updated (useCase : RegistrationUseCase κ) (plaintext : String → Option String)
    (drawn : String) (before : Client) (metadata : RegistrationMetadata)
    (registration : ClientRegistration) (after : Client) : Prop where
  clientId : registration.clientId = after.clientId
  accepted : useCase.Accepted after
  agree : useCase.Agree plaintext after.clientSecretHash after.clientSecretCiphertext
  sound : (useCase.Credentialed plaintext after ∧
      (registration.clientSecret ≠ "" ↔ useCase.Renews plaintext (some before) after)) ↔
    useCase.RotationSound plaintext before metadata drawn

theorem wp_update (request : UpdateClientRequest) (w : RegistryWorld)
    (hkept : useCase.Kept plaintext w) :
    wp (update useCase around request)
      (fun registration w' => ∃ before metadata after,
        w.clients.find request.clientId = some before ∧
        validMetadata useCase around request.metadata = .ok metadata ∧
        Updated useCase plaintext (useCase.tokenUrlsafe w.draws) before metadata registration
          after ∧
        w'.clients = w.clients.save after)
      (fun _ w' => SameClients w w') w := by
  unfold update
  refine wp_bind.mpr (wp_mono (wp_resolveManaged _ w) ?_ fun _ _ h => congrArg _ h)
  rintro before w₁ ⟨rfl, hfound, hmanaged⟩
  refine wp_lift_bind (fun _ _ => rfl) ?_
  intro metadata hvalid
  refine wp_lift_bind (fun _ _ => rfl) ?_
  intro _ hsigning
  refine wp_lift_bind (fun _ _ => rfl) ?_
  intro _ hencryption
  refine wp_keeping along_updatedCredentials (fun _ _ h => h) ?_
  intro rotation w₂ hrotation hw₂
  refine wp_lift_bind (fun _ _ => hw₂) ?_
  intro after hafter
  have hbefore := (hkept before (Table.find_mem hfound) hmanaged).2
  have hsealable := validMetadata_ok hvalid
  have hrotated := updatedCredentials_ok hsound hbefore hsealable hrotation
  have hagree := hrotated.agree hbefore
  have hathand := atHand_of_valid hsigning hencryption (clientOf_ok hafter).2.2.2.2.1
  have hiff := hrotated.sound hhash hbefore hsealable (htoken _) hathand
  rw [← credentialed_iff hafter hagree] at hiff
  obtain ⟨-, -, hstored, hsealed, -, -, -⟩ := clientOf_ok hafter
  rw [← hstored, ← hsealed] at hagree hiff
  have haccepted : useCase.Accepted after := ⟨_, _, _, _, _, _, hvalid, hafter⟩
  refine ⟨before, metadata, after, hfound, hvalid, ⟨rfl, haccepted, hagree, hiff⟩, ?_⟩
  show w₂.clients.save after = _
  rw [show w₂.clients = w₁.clients from hw₂]

end Requests

/-! ## Runs -/

/-- A request, with the surroundings it meets. -/
inductive RegistryCall (κ : Type) where
  | register (around : κ) (request : RegisterRequest)
  | read (request : ReadClientRequest)
  | update (around : κ) (request : UpdateClientRequest)
  | delete (request : DeleteClientRequest)

/-- The registry after a request. -/
def exec (w : RegistryWorld) : RegistryCall κ → RegistryWorld
  | .register around request => (Effects.Raising.outcome (register useCase around request) w).2
  | .read request => (Effects.Raising.outcome (read useCase request) w).2
  | .update around request => (Effects.Raising.outcome (update useCase around request) w).2
  | .delete request => (Effects.Raising.outcome (delete useCase request) w).2

/-- The registry after requests in any order. -/
def run (calls : List (RegistryCall κ)) (w : RegistryWorld) : RegistryWorld :=
  calls.foldl useCase.exec w

/-- No client of the registry is managed by registration yet. -/
def Unmanaged (w : RegistryWorld) : Prop :=
  ∀ client ∈ w.clients.rows, client.registrationAccessTokenHash = ""

section Runs

variable {useCase plaintext}
  (hsound : ∀ cipher, useCase.secretCipher = some cipher → cipher.Sound plaintext)
  (hhash : ∀ value, useCase.hashSecret value ≠ "") (htoken : ∀ n, useCase.tokenUrlsafe n ≠ "")

theorem Kept.same {w w' : RegistryWorld} (h : useCase.Kept plaintext w) (hsame : SameClients w w') :
    useCase.Kept plaintext w' := by
  intro client hmem hmanaged
  rw [show w'.clients = w.clients from hsame] at hmem
  exact h client hmem hmanaged

theorem Kept.save {w w' : RegistryWorld} (h : useCase.Kept plaintext w) {client : Client}
    (haccepted : useCase.Accepted client)
    (hagree : useCase.Agree plaintext client.clientSecretHash client.clientSecretCiphertext)
    (hsave : w'.clients = w.clients.save client) : useCase.Kept plaintext w' := by
  intro other hmem hmanaged
  rw [hsave] at hmem
  rcases Table.mem_save hmem with rfl | hold
  · exact ⟨haccepted, hagree⟩
  · exact h other hold hmanaged

include hsound hhash htoken

/-- One request preserves what is kept. -/
theorem Kept.exec {w : RegistryWorld} (h : useCase.Kept plaintext w) (call : RegistryCall κ) :
    useCase.Kept plaintext (useCase.exec w call) := by
  cases call with
  | register around request =>
      apply state_of_wp
      refine wp_mono (wp_register hsound hhash htoken request w) ?_ fun _ _ hsame => h.same hsame
      rintro registration w' ⟨client, hregistered, hsave⟩
      exact h.save hregistered.accepted hregistered.agree hsave
  | read request =>
      apply state_of_wp
      refine Raising.wp_bind.mpr (wp_mono (wp_resolveManaged request w) ?_ ?_)
      · rintro client w' ⟨rfl, -⟩
        exact h
      · rintro _ w' rfl
        exact h
  | update around request =>
      apply state_of_wp
      refine wp_mono (wp_update hsound hhash htoken request w h) ?_ fun _ _ hsame => h.same hsame
      rintro registration w' ⟨before, metadata, after, -, -, hupdated, hsave⟩
      exact h.save hupdated.accepted hupdated.agree hsave
  | delete request =>
      apply state_of_wp
      refine Raising.wp_bind.mpr (wp_mono (wp_resolveManaged _ w) ?_ ?_)
      · rintro client w' ⟨rfl, -⟩ other hmem hmanaged
        exact h other (List.mem_filter.mp hmem).1 hmanaged
      · rintro _ w' rfl
        exact h

theorem Kept.run {w : RegistryWorld} (h : useCase.Kept plaintext w)
    (calls : List (RegistryCall κ)) : useCase.Kept plaintext (useCase.run calls w) := by
  induction calls generalizing w with
  | nil => exact h
  | cons call rest ih => exact ih (h.exec hsound hhash htoken call)

end Runs

/-- After any run, a client that is registered has its credentials and is told its secret; a client
that is updated has them, and is told a secret exactly when a new one is stored, if and only if the
update is sound for the secret stored before. -/
theorem registered_credentials
    (hsound : ∀ cipher, useCase.secretCipher = some cipher → cipher.Sound plaintext)
    (hhash : ∀ value, useCase.hashSecret value ≠ "") (htoken : ∀ n, useCase.tokenUrlsafe n ≠ "")
    (start : RegistryWorld) (hstart : Unmanaged start) (calls : List (RegistryCall κ)) :
    (∀ around request registration w',
      Answers (register useCase around request) (useCase.run calls start) registration w' →
        ∃ client, w'.clients.find registration.clientId = some client ∧
          useCase.Credentialed plaintext client ∧
          (registration.clientSecret ≠ "" ↔ useCase.Renews plaintext none client)) ∧
    (∀ around request registration w',
      Answers (update useCase around request) (useCase.run calls start) registration w' →
        ∃ before metadata after,
          (useCase.run calls start).clients.find request.clientId = some before ∧
          validMetadata useCase around request.metadata = .ok metadata ∧
          w'.clients.find registration.clientId = some after ∧
          ((useCase.Credentialed plaintext after ∧
            (registration.clientSecret ≠ "" ↔ useCase.Renews plaintext (some before) after)) ↔
            useCase.RotationSound plaintext before metadata
              (useCase.tokenUrlsafe (useCase.run calls start).draws))) := by
  have hkept : useCase.Kept plaintext (useCase.run calls start) := by
    apply Kept.run hsound hhash htoken
    intro client hmem hmanaged
    exact absurd (hstart client hmem) hmanaged
  constructor
  · intro around request registration w' hanswer
    obtain ⟨client, hregistered, hsave⟩ :=
      of_wp_ok (wp_register hsound hhash htoken request _) hanswer
    refine ⟨client, ?_, hregistered.credentialed, hregistered.issued⟩
    rw [hsave, hregistered.clientId, Table.find_save, if_pos rfl]
  · intro around request registration w' hanswer
    obtain ⟨before, metadata, after, hfound, hvalid, hupdated, hsave⟩ :=
      of_wp_ok (wp_update hsound hhash htoken request _ hkept) hanswer
    refine ⟨before, metadata, after, hfound, hvalid, ?_, hupdated.sound⟩
    rw [hsave, hupdated.clientId, Table.find_save, if_pos rfl]

end RegistrationUseCase

/-! ## A client that is locked out -/

namespace RegistrationUseCase.Sample

open Effects.Raising

/-- A cipher that marks a value. -/
def cipher : SecretCipher Unit where
  encrypt _ _ value := .ok (String.ofList ('s' :: value.toList))
  decrypt _ token := .ok (String.ofList token.toList.tail)
  isCurrent _ _ := .ok true
  reencrypt _ _ token := .ok token

def plaintext (token : String) : Option String :=
  if token = "" then none else some (String.ofList token.toList.tail)

theorem cipher_sound : cipher.Sound plaintext where
  encrypts := by
    intro _ _ value token h
    cases h
    have hne : String.ofList ('s' :: value.toList) ≠ "" := by
      intro h
      have := congrArg String.toList h
      rw [String.toList_ofList] at this
      cases this
    refine ⟨hne, ?_⟩
    rw [plaintext, if_neg hne, String.toList_ofList, List.tail_cons, String.ofList_toList]
  reencrypts := by
    intro _ _ token value token' hvalue h
    cases h
    refine ⟨?_, hvalue⟩
    rintro rfl
    cases hvalue
  decrypts := by
    intro _ token value value' hvalue h
    cases h
    unfold plaintext at hvalue
    split at hvalue
    · cases hvalue
    · exact Option.some.inj hvalue

def useCase : RegistrationUseCase Unit where
  config := { issuer := "https://op.example", requiresInitialAccessToken := false }
  platform := PurIdentityServer.Sample.platform
  urls := .ascii
  b64decode _ := none
  tokenUrlsafe := PurIdentityServer.Sample.ports.tokenUrlsafe
  now _ := 0
  timestamp date := date.reading.epoch
  secretCipher := some cipher

theorem hashSecret_ne (value : String) : useCase.hashSecret value ≠ "" := by
  show PurIdentityServer.Sample.sha256Hex value ≠ ""
  unfold PurIdentityServer.Sample.sha256Hex
  cases hfound : PurIdentityServer.Sample.digests.find? fun d => d.1 = value with
  | none =>
      rintro rfl
      exact absurd hfound (by decide)
  | some d =>
      have hmem := List.mem_of_find?_eq_some hfound
      have hdigests : ∀ d ∈ PurIdentityServer.Sample.digests, d.2 ≠ "" := by decide +kernel
      exact hdigests d hmem

theorem tokenUrlsafe_ne (n : Nat) : useCase.tokenUrlsafe n ≠ "" := by
  intro h
  have := congrArg String.toList h
  rw [show useCase.tokenUrlsafe n = String.ofList ('v' :: List.replicate n '_') from rfl,
    String.toList_ofList] at this
  cases this

/-- The metadata of a client that only refreshes its tokens. -/
def metadata (method : String) : Json :=
  .obj [("grant_types", .arr [.str "refresh_token"]),
    ("token_endpoint_auth_method", .str method)]

/-- A client registers for `client_secret_basic`. -/
def calls : List (RegistryCall Unit) :=
  [.register () { metadata := metadata "client_secret_basic" }]

/-- It turns to `client_secret_jwt`, and gives no secret. -/
def request : UpdateClientRequest where
  clientId := "v"
  registrationAccessToken := "v__"
  metadata := metadata "client_secret_jwt"

/-- The client is registered with credentials, and updated. -/
theorem registered_credentials_once :
    Unmanaged {} ∧
      ((∀ around request registration w',
        Answers (register useCase around request) (useCase.run calls {}) registration w' →
          ∃ client, w'.clients.find registration.clientId = some client ∧
            useCase.Credentialed plaintext client ∧
            (registration.clientSecret ≠ "" ↔ useCase.Renews plaintext none client)) ∧
      (∀ around request registration w',
        Answers (update useCase around request) (useCase.run calls {}) registration w' →
          ∃ before metadata after,
            (useCase.run calls {}).clients.find request.clientId = some before ∧
            validMetadata useCase around request.metadata = .ok metadata ∧
            w'.clients.find registration.clientId = some after ∧
            ((useCase.Credentialed plaintext after ∧
              (registration.clientSecret ≠ "" ↔ useCase.Renews plaintext (some before) after)) ↔
              useCase.RotationSound plaintext before metadata
                (useCase.tokenUrlsafe (useCase.run calls {}).draws)))) := by
  have hstart : Unmanaged {} := fun client hmem => absurd hmem List.not_mem_nil
  refine ⟨hstart, ?_⟩
  exact registered_credentials useCase plaintext (fun c hc => Option.some.inj hc ▸ cipher_sound)
    hashSecret_ne tokenUrlsafe_ne {} hstart calls

/-- The update is accepted, and the client is left without a secret. -/
theorem locked_out :
    ∃ registration w' client,
      Answers (update useCase () request) (useCase.run calls {}) registration w' ∧
        w'.clients.find registration.clientId = some client ∧
        ¬ useCase.Credentialed plaintext client := by
  have hmethod : ∃ registration w' client,
      Answers (update useCase () request) (useCase.run calls {}) registration w' ∧
        w'.clients.find registration.clientId = some client ∧
        client.effectiveAuthMethod = .clientSecretJwt ∧ client.clientSecretCiphertext = "" := by
    refine ⟨_, _, _, rfl, rfl, rfl, rfl⟩
  obtain ⟨registration, w', client, hanswer, hfound, hjwt, hempty⟩ := hmethod
  exact ⟨registration, w', client, hanswer, hfound, fun h => h.recoverable (.inl hjwt) hempty⟩

end RegistrationUseCase.Sample

end PurIdentityServer

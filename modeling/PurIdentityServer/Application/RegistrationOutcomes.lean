import PurIdentityServer.Application.RegistrationTotality

/-!
# RegistrationOutcomes — registration and update answer, refuse or raise

The exceptions of `register` and `update` are those of the reading of the
metadata, of the document of a sector, of the authoriser and of the
cipher. Neither request touches the clients unless it answers, and the
URIs of an accepted client split again whenever they are read.
-/

namespace PurIdentityServer

open Effects Effects.Raising Urls

namespace Registration

/-! ## Metadata that were read -/

section Read

variable {lib : UrlLibrary} {p : Platform} {b64decode : String → Option (List UInt8)}
  {known : Finset String} {metadata : RegistrationMetadata}

/-- A key set that was written reads back as one. -/
def KeysReadBack (p : Platform) : Prop :=
  ∀ keys, ∃ keys' : List Members,
    p.jsonLoads (dumpKeys p keys) = some (.obj [("keys", .arr (keys'.map .obj))])

/-- What every metadata object that was read satisfies. -/
structure WellRead (lib : UrlLibrary) (p : Platform) (metadata : RegistrationMetadata) : Prop where
  method : ∃ method, TokenEndpointAuthMethod.ofValue? metadata.tokenEndpointAuthMethod = some method
  subject : ∃ subjectType, SubjectType.ofValue? metadata.subjectType = some subjectType
  keys : ∃ keys, keysFromJwksJson p metadata.jwks = .ok keys
  redirects : ∀ uri ∈ metadata.redirectUris, isRedirectUri lib uri = .ok true
  sector : ∃ parts, urlsplit lib metadata.sectorIdentifierUri = .ok parts
  jwksUri : ∃ verdict, isJwksUri lib metadata.jwksUri = .ok verdict

theorem dictionaries_map (keys : List Members) : dictionaries (keys.map .obj) = some keys := by
  induction keys with
  | nil => rfl
  | cons key rest ih =>
      show (dictionaries (rest.map .obj)).map (key :: ·) = _
      rw [ih]
      rfl

/-- A text that reads as a key set gives its keys. -/
theorem keysFromJwksJson_of_loads {jwks : String} {keys : List Members} (hne : jwks ≠ "")
    (hloads : p.jsonLoads jwks = some (.obj [("keys", .arr (keys.map .obj))])) :
    keysFromJwksJson p jwks = .ok keys := by
  have hget : Dict.get [("keys", Json.arr (keys.map Json.obj))] "keys" =
      some (.arr (keys.map .obj)) := rfl
  unfold keysFromJwksJson
  rw [if_neg hne, hloads]
  dsimp only
  rw [hget]
  dsimp only
  rw [dictionaries_map]

/-- The library writes the keys as the text, and reads them from it. -/
structure WritesKeys (p : Platform) (text : String) (keys : List Members) : Prop where
  named : text ≠ ""
  written : dumpKeys p keys = text
  read : p.jsonLoads text = some (.obj [("keys", .arr (keys.map .obj))])

/-- A key set without a problem is kept as its text. -/
theorem WritesKeys.parseJwks {text : String} {keys : List Members} {raw : Members}
    (h : WritesKeys p text keys) (hproblems : ∀ key ∈ keys, KeyValidation.jwkProblem p key = "")
    (hraw : present raw "jwks" = some (.obj [("keys", .arr (keys.map .obj))])) :
    parseJwks p raw = .ok text := by
  have hget : Dict.get [("keys", Json.arr (keys.map Json.obj))] "keys" =
      some (.arr (keys.map .obj)) := rfl
  unfold Registration.parseJwks
  rw [hraw]
  dsimp only
  rw [hget]
  dsimp only
  rw [dictionaries_map]
  dsimp only
  rw [(KeyValidation.validateClientJwks_eq_nil keys).mpr hproblems, h.written]

theorem WritesKeys.keysFromJwksJson {text : String} {keys : List Members}
    (h : WritesKeys p text keys) : keysFromJwksJson p text = .ok keys :=
  keysFromJwksJson_of_loads h.named h.read

theorem urlsplit_empty : urlsplit lib "" = .ok {} := rfl

theorem parseText_ok {raw : Members} {key absent message text : String}
    {check : String → Parsed Unit} (h : parseText raw key absent check message = .ok text) :
    text = absent ∨ check text = .ok () := by
  unfold parseText at h
  split at h
  · cases h
    exact .inl rfl
  · split at h
    · cases h
      exact .inl rfl
    · rename_i value hvalue hne
      cases hcheck : check value with
      | error refusal =>
          rw [hcheck] at h
          cases h
      | ok verdict =>
          rw [hcheck] at h
          cases h
          exact .inr hcheck
  · cases h

theorem parseAuthMethod_ok {raw : Members} {method : String}
    (h : parseAuthMethod raw = .ok method) :
    ∃ m, TokenEndpointAuthMethod.ofValue? method = some m := by
  have hallowed : method ∈ allowedAuthMethods := by
    unfold parseAuthMethod at h
    split at h
    · cases h
      decide
    · split at h
      · split at h
        · cases h
          assumption
        · cases h
      · cases h
  obtain ⟨m, -, rfl⟩ := List.mem_map.mp hallowed
  exact ⟨m, TokenEndpointAuthMethod.ofValue?_value m⟩

theorem parseSubjectType_ok {raw : Members} {value : String}
    (h : parseSubjectType raw = .ok value) : ∃ s, SubjectType.ofValue? value = some s := by
  rcases parseText_ok h with rfl | hvalue
  · exact ⟨.publicSubject, SubjectType.ofValue?_value .publicSubject⟩
  · split at hvalue
    · rename_i hmem
      obtain ⟨s, -, rfl⟩ := List.mem_map.mp hmem
      exact ⟨s, SubjectType.ofValue?_value s⟩
    · cases hvalue

theorem parseJwks_ok (hkeys : KeysReadBack p) {raw : Members} {jwks : String}
    (h : parseJwks p raw = .ok jwks) : ∃ keys, keysFromJwksJson p jwks = .ok keys := by
  have hread : jwks = "" ∨ ∃ keys, jwks = dumpKeys p keys := by
    unfold parseJwks at h
    split at h
    · cases h
      exact .inl rfl
    · split at h
      · split at h
        · rename_i keys hdictionaries
          split at h
          · cases h
            exact .inr ⟨keys, rfl⟩
          · cases h
        · cases h
      · cases h
    · cases h
  rcases hread with rfl | ⟨keys, rfl⟩
  · exact ⟨[], rfl⟩
  · by_cases hempty : dumpKeys p keys = ""
    · exact ⟨[], if_pos hempty⟩
    · obtain ⟨keys', hloads⟩ := hkeys keys
      exact ⟨keys', keysFromJwksJson_of_loads hempty hloads⟩

theorem parseSectorIdentifierUri_ok {raw : Members} {uri : String}
    (h : parseSectorIdentifierUri lib raw = .ok uri) : ∃ parts, urlsplit lib uri = .ok parts := by
  rcases parseText_ok h with rfl | hcheck
  · exact ⟨_, urlsplit_empty⟩
  · obtain ⟨parts, hparts, -⟩ := bind_eq_ok.mp hcheck
    exact ⟨parts, RegistrationUseCase.mayRaise_ok hparts⟩

theorem parseJwksUri_ok {raw : Members} {uri : String} (h : parseJwksUri lib raw = .ok uri) :
    ∃ verdict, isJwksUri lib uri = .ok verdict := by
  rcases parseText_ok h with rfl | hcheck
  · exact ⟨_, rfl⟩
  · obtain ⟨verdict, hverdict, -⟩ := bind_eq_ok.mp hcheck
    exact ⟨verdict, RegistrationUseCase.mayRaise_ok hverdict⟩

theorem parseMetadataExtras_ok (hkeys : KeysReadBack p) {raw : Members} {extras : MetadataExtras}
    (h : parseMetadataExtras lib p raw b64decode known = .ok extras) :
    (∃ method, TokenEndpointAuthMethod.ofValue? extras.authMethod = some method) ∧
      (∃ keys, keysFromJwksJson p extras.jwks = .ok keys) ∧
      ∃ verdict, isJwksUri lib extras.jwksUri = .ok verdict := by
  obtain ⟨_, -, h⟩ := bind_eq_ok.mp h
  obtain ⟨authMethod, hmethod, h⟩ := bind_eq_ok.mp h
  iterate 5 obtain ⟨_, -, h⟩ := bind_eq_ok.mp h
  obtain ⟨jwksUri, hjwksUri, h⟩ := bind_eq_ok.mp h
  obtain ⟨jwks, hjwks, h⟩ := bind_eq_ok.mp h
  iterate 15 obtain ⟨_, -, h⟩ := bind_eq_ok.mp h
  cases h
  exact ⟨parseAuthMethod_ok hmethod, parseJwks_ok hkeys hjwks, parseJwksUri_ok hjwksUri⟩

theorem parseMetadata_ok (hkeys : KeysReadBack p) {raw : Json}
    (h : parseMetadata lib p b64decode known raw = .ok metadata) : WellRead lib p metadata := by
  have hredirects := parseMetadata_redirectUris h
  unfold parseMetadata at h
  split at h
  · iterate 4 obtain ⟨_, -, h⟩ := bind_eq_ok.mp h
    obtain ⟨subjectType, hsubject, h⟩ := bind_eq_ok.mp h
    obtain ⟨sector, hsector, h⟩ := bind_eq_ok.mp h
    obtain ⟨_, -, h⟩ := bind_eq_ok.mp h
    obtain ⟨extras, hextras, h⟩ := bind_eq_ok.mp h
    iterate 2 obtain ⟨_, -, h⟩ := bind_eq_ok.mp h
    split at h
    · cases h
    · obtain ⟨_, -, h⟩ := bind_eq_ok.mp h
      cases h
      obtain ⟨hmethod, hread, hjwksUri⟩ := parseMetadataExtras_ok hkeys hextras
      exact ⟨hmethod, parseSubjectType_ok hsubject, hread, hredirects,
        parseSectorIdentifierUri_ok hsector, hjwksUri⟩
  · cases h

end Read

end Registration

namespace RegistrationUseCase

open Registration

variable {κ : Type} (useCase : RegistrationUseCase κ) (around : κ)

/-! ## Validation -/

section Validation

variable (metadata : RegistrationMetadata)

/-- The document of the sector is fetched, and the fetch raises. -/
def SectorRaises : Prop :=
  metadata.subjectType = "pairwise" ∧ useCase.config.subjectSeed ≠ "" ∧
    metadata.sectorIdentifierUri ≠ "" ∧
    ∃ fetch exception, useCase.sectorFetcher = some fetch ∧
      fetch around metadata.sectorIdentifierUri = .error exception

/-- The checks of `_validate_new_metadata`. -/
def validationStages : List Stage :=
  [quiet (validateMethodMaterial useCase metadata), quiet (validateGrantProfile useCase metadata),
    quiet (validateFapiProfile metadata), quiet (validateJwksUsage useCase metadata),
    quiet (validateSigningMaterial useCase metadata),
    quiet (validateEncryptionMaterial useCase metadata),
    may (validateSubjectMetadata useCase around metadata) (useCase.SectorRaises around metadata)]

/-- The registry of scopes raises, or the first step of the reading and of the checks that is not
accepted. -/
def MetadataRaises (raw : Json) : Prop :=
  (∃ names exception, useCase.scopeRegistry = some names ∧ names around = .error exception) ∨
    ∃ known members, knownScopes useCase around = .ok known ∧ raw = .obj members ∧
      (Breaks (stages useCase.urls useCase.platform useCase.b64decode known members) ∨
        ∃ metadata, parseMetadata useCase.urls useCase.platform useCase.b64decode known raw =
            .ok metadata ∧ Breaks (useCase.validationStages around metadata))

variable {useCase around metadata}

theorem not_raises_validateMethodMaterial :
    ¬ Raises (validateMethodMaterial useCase metadata) := by
  unfold validateMethodMaterial
  dsimp only
  split
  · exact not_raises_invalid _
  · split
    · exact not_raises_invalid _
    · split
      · exact not_raises_invalid _
      · exact not_raises_ok ()

theorem not_raises_validateGrantProfile : ¬ Raises (validateGrantProfile useCase metadata) := by
  unfold validateGrantProfile
  split
  · exact not_raises_ok ()
  · split
    · exact not_raises_invalid _
    · exact not_raises_ite _

theorem not_raises_validateFapiProfile : ¬ Raises (validateFapiProfile metadata) := by
  unfold validateFapiProfile
  split
  · exact not_raises_ok ()
  · split
    · exact not_raises_invalid _
    · exact not_raises_ite _

theorem not_raises_validateSigningMaterial :
    ¬ Raises (validateSigningMaterial useCase metadata) := by
  unfold validateSigningMaterial
  split
  · exact not_raises_ok ()
  · split
    · exact not_raises_invalid _
    · split
      · exact not_raises_invalid _
      · exact not_raises_ok ()

/-- Keys that were read are checked without an exception. -/
theorem not_raises_checkKeys (hread : WellRead useCase.urls useCase.platform metadata)
    (check : List Members → Option String) : ¬ Raises (checkKeys useCase metadata check) := by
  obtain ⟨keys, hkeys⟩ := hread.keys
  unfold checkKeys
  rw [hkeys]
  dsimp only [bind, Except.bind]
  split
  · exact not_raises_invalid _
  · exact not_raises_ok ()

theorem not_raises_validateJwksUsage (hread : WellRead useCase.urls useCase.platform metadata) :
    ¬ Raises (validateJwksUsage useCase metadata) := by
  unfold validateJwksUsage
  split
  · exact not_raises_ok ()
  · exact not_raises_checkKeys hread _

theorem not_raises_validateEncryptionMaterial
    (hread : WellRead useCase.urls useCase.platform metadata) :
    ¬ Raises (validateEncryptionMaterial useCase metadata) := by
  unfold validateEncryptionMaterial
  dsimp only
  split
  · exact not_raises_ok ()
  · split
    · exact not_raises_invalid _
    · split
      · exact not_raises_invalid _
      · split
        · exact not_raises_checkKeys hread _
        · split
          · exact not_raises_invalid _
          · split
            · exact not_raises_invalid _
            · split
              · exact not_raises_invalid _
              · exact not_raises_ok ()

theorem hostsOf_total {uris : List String}
    (h : ∀ uri ∈ uris, ∃ parts, urlsplit useCase.urls uri = .ok parts) :
    ∃ hosts, hostsOf useCase uris = .ok hosts := by
  induction uris with
  | nil => exact ⟨∅, rfl⟩
  | cons uri rest ih =>
      obtain ⟨parts, hparts⟩ := h uri List.mem_cons_self
      obtain ⟨hosts, hhosts⟩ := ih fun other hother => h other (List.mem_cons_of_mem _ hother)
      unfold hostsOf
      rw [hparts, hhosts]
      exact ⟨_, rfl⟩

theorem raises_validateSector (hsector : metadata.sectorIdentifierUri ≠ "") :
    Raises (validateSector useCase around metadata) ↔
      ∃ fetch exception, useCase.sectorFetcher = some fetch ∧
        fetch around metadata.sectorIdentifierUri = .error exception := by
  unfold validateSector
  rw [if_neg hsector]
  cases useCase.sectorFetcher with
  | none =>
      constructor
      · exact nofun
      · rintro ⟨fetch, exception, hfetch, -⟩
        cases hfetch
  | some fetch =>
      show Raises (mayRaise (fetch around metadata.sectorIdentifierUri) >>= _) ↔ _
      rw [raises_verdict]
      · constructor
        · rintro ⟨exception, h⟩
          exact ⟨fetch, exception, rfl, h⟩
        · rintro ⟨other, exception, hfetch, h⟩
          cases hfetch
          exact ⟨exception, h⟩
      · intro document
        split
        · exact not_raises_invalid _
        · split
          · exact not_raises_invalid _
          · dsimp only
            split
            · exact not_raises_ok ()
            · exact not_raises_invalid _

theorem raises_validateSubjectMetadata (hread : WellRead useCase.urls useCase.platform metadata) :
    Raises (validateSubjectMetadata useCase around metadata) ↔
      useCase.SectorRaises around metadata := by
  unfold validateSubjectMetadata SectorRaises
  by_cases hpairwise : metadata.subjectType = "pairwise"
  · have hpublic : metadata.subjectType ≠ "public" := by
      rw [hpairwise]
      decide
    by_cases hseed : useCase.config.subjectSeed = ""
    · rw [if_pos ⟨hpublic, hseed⟩]
      constructor
      · exact fun h => absurd h (not_raises_invalid _)
      · rintro ⟨-, hne, -⟩
        exact absurd hseed hne
    · rw [if_neg fun h => hseed h.2, if_pos hpairwise]
      by_cases hsector : metadata.sectorIdentifierUri = ""
      · rw [if_pos hsector]
        obtain ⟨hosts, hhosts⟩ : ∃ hosts, hostsOf useCase (Text.sorted metadata.redirectUris) =
            .ok hosts := by
          apply hostsOf_total
          intro uri huri
          obtain ⟨parts, hparts, -⟩ := parts_of_isRedirectUri (hread.redirects uri
            (mem_sorted.mp huri))
          exact ⟨parts, hparts⟩
        rw [hhosts]
        constructor
        · intro h
          change Raises (if hosts.card ≠ 1 then invalid _ else .ok ()) at h
          split at h
          · exact absurd h (not_raises_invalid _)
          · exact absurd h (not_raises_ok ())
        · rintro ⟨-, -, hne, -⟩
          exact absurd hsector hne
      · rw [if_neg hsector, raises_validateSector hsector]
        constructor
        · intro h
          exact ⟨hpairwise, hseed, hsector, h⟩
        · rintro ⟨-, -, -, h⟩
          exact h
  · constructor
    · intro h
      split at h
      · exact absurd h (not_raises_invalid _)
      · exact absurd h (not_raises_ok ())
    · rintro ⟨h, -⟩
      exact absurd h hpairwise

theorem raises_validateNewMetadata (hread : WellRead useCase.urls useCase.platform metadata) :
    Raises (validateNewMetadata useCase around metadata) ↔
      Breaks (useCase.validationStages around metadata) := by
  refine breaks_quiet not_raises_validateMethodMaterial fun _ => ?_
  refine breaks_quiet not_raises_validateGrantProfile fun _ => ?_
  refine breaks_quiet not_raises_validateFapiProfile fun _ => ?_
  refine breaks_quiet (not_raises_validateJwksUsage hread) fun _ => ?_
  refine breaks_quiet not_raises_validateSigningMaterial fun _ => ?_
  refine breaks_quiet (not_raises_validateEncryptionMaterial hread) fun _ => ?_
  rw [raises_validateSubjectMetadata hread]
  show _ ↔ useCase.SectorRaises around metadata ∨ (_ ∧ False)
  rw [and_false, or_false]

theorem raises_validMetadata (hkeys : KeysReadBack useCase.platform) {raw : Json} :
    Raises (validMetadata useCase around raw) ↔ useCase.MetadataRaises around raw := by
  unfold validMetadata MetadataRaises
  rw [raises_bind]
  apply or_congr
  · unfold knownScopes
    cases useCase.scopeRegistry with
    | none =>
        constructor
        · exact nofun
        · rintro ⟨names, exception, hnames, -⟩
          cases hnames
    | some names =>
        rw [raises_mayRaise]
        constructor
        · rintro ⟨exception, h⟩
          exact ⟨names, exception, rfl, h⟩
        · rintro ⟨other, exception, hnames, h⟩
          cases hnames
          exact ⟨exception, h⟩
  · apply exists_congr
    intro known
    rw [raises_bind]
    have hchecked : ∀ metadata,
        parseMetadata useCase.urls useCase.platform useCase.b64decode known raw = .ok metadata →
          (Raises (validateNewMetadata useCase around metadata >>= fun _ => pure metadata) ↔
            Breaks (useCase.validationStages around metadata)) := by
      intro metadata hmetadata
      have hrest : ∀ _ : Unit, ¬ Raises (pure metadata : Parsed RegistrationMetadata) :=
        fun _ => not_raises_ok metadata
      rw [raises_bind_of_quiet hrest]
      exact raises_validateNewMetadata (parseMetadata_ok hkeys hmetadata)
    constructor
    · rintro ⟨hknown, hraises⟩
      cases raw with
      | obj members =>
          refine ⟨members, hknown, rfl, ?_⟩
          rcases hraises with hraises | ⟨metadata, hmetadata, hraises⟩
          · exact .inl (raises_parseMetadata.mp hraises)
          · exact .inr ⟨metadata, hmetadata, (hchecked metadata hmetadata).mp hraises⟩
      | _ =>
          rcases hraises with hraises | ⟨metadata, hmetadata, -⟩
          · exact absurd hraises (not_raises_invalid _)
          · cases hmetadata
    · rintro ⟨members, hknown, rfl, hbreaks | ⟨metadata, hmetadata, hbreaks⟩⟩
      · exact ⟨hknown, .inl (raises_parseMetadata.mpr hbreaks)⟩
      · exact ⟨hknown, .inr ⟨metadata, hmetadata, (hchecked metadata hmetadata).mpr hbreaks⟩⟩

end Validation

/-! ## Exceptions -/

/-- The program ends with an exception. -/
def EndsRaising {α : Type} (x : RegistrationM α) (w : RegistryWorld) : Prop :=
  ∃ exception w', Effects.Raising.outcome x w = (.error (.raised exception), w')

section EndsRaising

variable {α β : Type} {w w' : RegistryWorld}

@[simp] theorem not_endsRaising_pure (a : α) : ¬ EndsRaising (pure a : RegistrationM α) w := nofun

theorem endsRaising_bind {x : RegistrationM α} {f : α → RegistrationM β} :
    EndsRaising (x >>= f) w ↔
      EndsRaising x w ∨ ∃ a w', Answers x w a w' ∧ EndsRaising (f a) w' := by
  unfold EndsRaising
  rw [outcome_bind]
  rcases hx : Effects.Raising.outcome x w with ⟨refusal | a, u⟩
  · constructor
    · rintro ⟨exception, w', h⟩
      cases h
      exact .inl ⟨exception, _, rfl⟩
    · rintro (⟨exception, w', h⟩ | ⟨a, w', h, -⟩)
      · cases h
        exact ⟨exception, _, rfl⟩
      · rw [Answers, hx] at h
        cases h
  · constructor
    · intro h
      exact .inr ⟨a, u, hx, h⟩
    · rintro (⟨exception, w', h⟩ | ⟨b, w', h, hraises⟩)
      · cases h
      · rw [Answers, hx] at h
        cases h
        exact hraises

/-- A program that answers leaves the exceptions to what follows. -/
theorem endsRaising_of_answers {x : RegistrationM α} {f : α → RegistrationM β} {a : α}
    (h : Answers x w a w') : EndsRaising (x >>= f) w ↔ EndsRaising (f a) w' := by
  unfold EndsRaising
  rw [outcome_bind_ok h]

theorem endsRaising_bind_of_quiet {x : RegistrationM α} {f : α → RegistrationM β}
    (h : ∀ a w', ¬ EndsRaising (f a) w') : EndsRaising (x >>= f) w ↔ EndsRaising x w := by
  rw [endsRaising_bind]
  constructor
  · rintro (hraises | ⟨a, w', -, hraises⟩)
    · exact hraises
    · exact absurd hraises (h a w')
  · exact .inl

@[simp] theorem endsRaising_lift {x : Parsed α} :
    EndsRaising (Effects.Raising.lift x : RegistrationM α) w ↔ Raises x := by
  constructor
  · rintro ⟨exception, w', h⟩
    cases h
    exact ⟨exception, rfl⟩
  · rintro ⟨exception, rfl⟩
    exact ⟨exception, w, rfl⟩

theorem endsRaising_lift_bind {x : Parsed α} {f : α → RegistrationM β} :
    EndsRaising (Effects.Raising.lift x >>= f) w ↔
      Raises x ∨ ∃ a, x = .ok a ∧ EndsRaising (f a) w := by
  rw [endsRaising_bind, endsRaising_lift]
  apply or_congr Iff.rfl
  constructor
  · rintro ⟨a, w', hanswer, hraises⟩
    obtain ⟨rfl, rfl⟩ := outcome_lift_ok hanswer
    exact ⟨a, rfl, hraises⟩
  · rintro ⟨a, rfl, hraises⟩
    exact ⟨a, w, rfl, hraises⟩

end EndsRaising

/-! ## Credentials -/

section Credentials

variable (client : Client) (metadata : RegistrationMetadata)

/-- The cipher raises as it seals the value. -/
def SealRaises (seed : Nat) (value : String) : Prop :=
  ∃ cipher exception, useCase.secretCipher = some cipher ∧
    cipher.encrypt around seed value = .error exception

/-- The cipher raises as it brings a ciphertext under the newest key. -/
def ResealRaises (seed : Nat) (token : String) : Prop :=
  ∃ cipher exception, useCase.secretCipher = some cipher ∧
    (cipher.isCurrent around token = .error exception ∨
      (cipher.isCurrent around token = .ok false ∧
        cipher.reencrypt around seed token = .error exception))

/-- An update seals a new secret or seals the stored one again, and the cipher raises. -/
def RotationRaises (draws : Nat) : Prop :=
  NeedsSealed metadata ∧ metadata.tokenEndpointAuthMethod ∉ keylessAuthMethods ∧
    match metadata.requestedSecret with
    | some secret =>
        if metadata.tokenEndpointAuthMethod ≠ "client_secret_jwt" ∧
            useCase.hashSecret secret = client.clientSecretHash ∧
            client.clientSecretCiphertext ≠ "" then
          useCase.ResealRaises around draws client.clientSecretCiphertext
        else useCase.SealRaises around draws secret
    | none =>
        if metadata.tokenEndpointAuthMethod = "client_secret_jwt" ∨
            client.clientSecretHash ≠ "" then
          client.clientSecretCiphertext ≠ "" ∧
            useCase.ResealRaises around draws client.clientSecretCiphertext
        else useCase.SealRaises around (draws + 1) (useCase.tokenUrlsafe draws)

variable {useCase around client metadata} {w : RegistryWorld}

theorem endsRaising_cipherCall {call : SecretCipher κ → Except Raised String}
    (hcipher : useCase.secretCipher.isSome) :
    EndsRaising (cipherCall useCase call) w ↔
      ∃ cipher exception, useCase.secretCipher = some cipher ∧ call cipher = .error exception := by
  obtain ⟨cipher, hcipher⟩ := Option.isSome_iff_exists.mp hcipher
  unfold cipherCall
  rw [endsRaising_lift, hcipher]
  show Raises (mayRaise (call cipher)) ↔ _
  rw [raises_mayRaise]
  constructor
  · rintro ⟨exception, h⟩
    exact ⟨cipher, exception, rfl, h⟩
  · rintro ⟨other, exception, hother, h⟩
    cases hother
    exact ⟨exception, h⟩

theorem endsRaising_sealSecret (hcipher : useCase.secretCipher.isSome) {value : String} :
    EndsRaising (sealSecret useCase around value) w ↔
      useCase.SealRaises around w.draws value := by
  have hdraw : Answers draw w w.draws { w with draws := w.draws + 1 } := rfl
  unfold sealSecret
  rw [endsRaising_of_answers hdraw, endsRaising_cipherCall hcipher]
  rfl

theorem endsRaising_currentCiphertext {cipher : SecretCipher κ}
    (hcipher : useCase.secretCipher = some cipher) {token : String} :
    EndsRaising (currentCiphertext useCase around cipher token) w ↔
      useCase.ResealRaises around w.draws token := by
  have hsome : useCase.secretCipher.isSome := Option.isSome_iff_exists.mpr ⟨cipher, hcipher⟩
  have hdraw : Answers draw w w.draws { w with draws := w.draws + 1 } := rfl
  unfold currentCiphertext ResealRaises
  rw [endsRaising_lift_bind, raises_mayRaise]
  constructor
  · rintro (⟨exception, h⟩ | ⟨current, hcurrent, hraises⟩)
    · exact ⟨cipher, exception, hcipher, .inl h⟩
    · have hok := mayRaise_ok hcurrent
      split at hraises
      · exact absurd hraises (not_endsRaising_pure token)
      · rename_i hstale
        rw [endsRaising_of_answers hdraw, endsRaising_cipherCall hsome] at hraises
        obtain ⟨other, exception, hother, h⟩ := hraises
        rw [Bool.not_eq_true] at hstale
        rw [hcipher] at hother
        cases hother
        rw [hstale] at hok
        exact ⟨cipher, exception, hcipher, .inr ⟨hok, h⟩⟩
  · rintro ⟨other, exception, hother, h⟩
    rw [hcipher] at hother
    cases hother
    rcases h with h | ⟨hstale, h⟩
    · exact .inl ⟨exception, h⟩
    · refine .inr ⟨false, by rw [hstale]; rfl, ?_⟩
      rw [if_neg Bool.false_ne_true, endsRaising_of_answers hdraw, endsRaising_cipherCall hsome]
      exact ⟨cipher, exception, hcipher, h⟩

/-- A new client has a secret sealed when its metadata need one. -/
theorem endsRaising_credentialsFor (hsealable : useCase.Sealable metadata) :
    EndsRaising (credentialsFor useCase around metadata) w ↔
      NeedsSealed metadata ∧
        useCase.SealRaises around (w.draws + 1) (useCase.tokenUrlsafe w.draws) := by
  have hdrawn : Answers useCase.drawToken w (useCase.tokenUrlsafe w.draws)
    { w with draws := w.draws + 1 } := rfl
  unfold credentialsFor
  dsimp only
  by_cases hneeds : metadata.tokenEndpointAuthMethod = "client_secret_jwt" ∨
      HasSymmetricSigning metadata ∨ HasSymmetricEncryption metadata
  · have hsealed : NeedsSealed metadata := hneeds
    rw [if_pos hneeds, endsRaising_of_answers hdrawn, endsRaising_bind_of_quiet,
      endsRaising_sealSecret (hsealable.cipher hsealed), and_iff_right hsealed]
    intro token w'
    split
    · exact not_endsRaising_pure _
    · exact not_endsRaising_pure _
  · rw [if_neg hneeds]
    apply iff_of_false
    · split
      · rw [endsRaising_of_answers hdrawn]
        exact not_endsRaising_pure _
      · exact not_endsRaising_pure _
    · exact fun h => hneeds h.1

theorem endsRaising_rotateTo (hsealable : useCase.Sealable metadata) {needsSeal : Bool}
    (hneeds : needsSeal = true ↔ NeedsSealed metadata) {secret : String} :
    EndsRaising (rotateTo useCase around needsSeal secret) w ↔
      NeedsSealed metadata ∧ useCase.SealRaises around w.draws secret := by
  unfold rotateTo
  rw [endsRaising_bind_of_quiet fun _ _ => not_endsRaising_pure _]
  unfold sealSecretWhen
  by_cases hseal : NeedsSealed metadata
  · have hcipher := hsealable.cipher hseal
    rw [if_pos ⟨hneeds.mpr hseal, hcipher⟩, endsRaising_sealSecret hcipher, and_iff_right hseal]
  · rw [if_neg fun h => hseal (hneeds.mp h.1)]
    exact iff_of_false (not_endsRaising_pure _) fun h => hseal h.1

theorem endsRaising_keepSecret (hsealable : useCase.Sealable metadata) {needsSeal : Bool}
    (hneeds : needsSeal = true ↔ NeedsSealed metadata) :
    EndsRaising (keepSecret useCase around client needsSeal) w ↔
      NeedsSealed metadata ∧ client.clientSecretCiphertext ≠ "" ∧
        useCase.ResealRaises around w.draws client.clientSecretCiphertext := by
  unfold keepSecret
  rw [endsRaising_bind_of_quiet fun _ _ => not_endsRaising_pure _]
  unfold recoverCiphertext
  by_cases hseal : NeedsSealed metadata
  · obtain ⟨cipher, hcipher⟩ := Option.isSome_iff_exists.mp (hsealable.cipher hseal)
    rw [if_pos (hneeds.mpr hseal), hcipher, and_iff_right hseal]
    show EndsRaising (if _ then _ else _) w ↔ _
    by_cases hempty : client.clientSecretCiphertext = ""
    · rw [if_pos hempty]
      exact iff_of_false (not_endsRaising_pure _) fun h => h.1 hempty
    · rw [if_neg hempty, endsRaising_currentCiphertext hcipher, and_iff_right hempty]
  · rw [if_neg fun h => hseal (hneeds.mp h)]
    exact iff_of_false (not_endsRaising_pure _) fun h => hseal h.1

theorem endsRaising_rotateJwtSecret (hsealable : useCase.Sealable metadata)
    (hjwt : metadata.tokenEndpointAuthMethod = "client_secret_jwt") :
    EndsRaising (rotateJwtSecret useCase around client metadata) w ↔
      match metadata.requestedSecret with
      | some secret => useCase.SealRaises around w.draws secret
      | none => client.clientSecretCiphertext ≠ "" ∧
          useCase.ResealRaises around w.draws client.clientSecretCiphertext := by
  have hsome := hsealable.cipher (.inl hjwt)
  obtain ⟨cipher, hcipher⟩ := Option.isSome_iff_exists.mp hsome
  unfold rotateJwtSecret
  rw [hcipher]
  cases metadata.requestedSecret with
  | some secret =>
      show EndsRaising (sealSecret useCase around secret >>= fun _ => pure _) w ↔ _
      rw [endsRaising_bind_of_quiet fun _ _ => not_endsRaising_pure _,
        endsRaising_sealSecret hsome]
  | none =>
      show EndsRaising (if _ then _ else _) w ↔ _
      by_cases hempty : client.clientSecretCiphertext = ""
      · rw [if_pos hempty]
        exact iff_of_false (not_endsRaising_pure _) fun h => h.1 hempty
      · rw [if_neg hempty, endsRaising_bind_of_quiet fun _ _ => not_endsRaising_pure _,
          endsRaising_currentCiphertext hcipher, and_iff_right hempty]

theorem endsRaising_updatedCredentials (hsealable : useCase.Sealable metadata) :
    EndsRaising (updatedCredentials useCase around client metadata) w ↔
      useCase.RotationRaises around client metadata w.draws := by
  have hdrawn : Answers useCase.drawToken w (useCase.tokenUrlsafe w.draws)
    { w with draws := w.draws + 1 } := rfl
  unfold updatedCredentials RotationRaises
  dsimp only
  by_cases hkeyless : metadata.tokenEndpointAuthMethod ∈ keylessAuthMethods
  · rw [if_pos hkeyless]
    exact iff_of_false (not_endsRaising_pure _) fun h => h.2.1 hkeyless
  · rw [if_neg hkeyless]
    by_cases hjwt : metadata.tokenEndpointAuthMethod = "client_secret_jwt"
    · rw [if_pos hjwt, endsRaising_rotateJwtSecret hsealable hjwt,
        and_iff_right (show NeedsSealed metadata from .inl hjwt), and_iff_right hkeyless]
      cases metadata.requestedSecret with
      | some secret =>
          show _ ↔ if _ then _ else _
          rw [if_neg fun h => h.1 hjwt]
      | none =>
          show _ ↔ if _ then _ else _
          rw [if_pos (.inl hjwt)]
    · have hneeds : decide (HasSymmetricSigning metadata ∨ HasSymmetricEncryption metadata) = true ↔
          NeedsSealed metadata := by
        rw [decide_eq_true_iff]
        unfold NeedsSealed
        rw [or_iff_right hjwt]
      rw [if_neg hjwt, and_iff_right hkeyless]
      cases metadata.requestedSecret with
      | some secret =>
          show EndsRaising (if _ then _ else _) w ↔ _ ∧ if _ then _ else _
          by_cases hsame : useCase.hashSecret secret = client.clientSecretHash ∧
              client.clientSecretCiphertext ≠ ""
          · rw [if_pos hsame, if_pos ⟨hjwt, hsame⟩, endsRaising_keepSecret hsealable hneeds,
              and_iff_right hsame.2]
          · rw [if_neg hsame, if_neg fun h => hsame h.2, endsRaising_rotateTo hsealable hneeds]
      | none =>
          show EndsRaising (if _ then _ else _) w ↔ _ ∧ if _ then _ else _
          by_cases hhash : client.clientSecretHash ≠ ""
          · rw [if_pos hhash, if_pos (.inr hhash), endsRaising_keepSecret hsealable hneeds]
          · rw [if_neg hhash, if_neg fun h => h.elim hjwt hhash, endsRaising_of_answers hdrawn,
              endsRaising_rotateTo hsealable hneeds]

end Credentials

/-! ## Requests -/

section Requests

/-- The authoriser of the initial access raises. -/
def AuthoriserRaises (token : String) : Prop :=
  useCase.config.initialAccessTokenMode = "jwt" ∧ token ≠ "" ∧
    ∃ authorise exception, useCase.initialAccessAuthorizer = some authorise ∧
      authorise around token = .error exception

/-- The authoriser raises, or the metadata of an authorised request do, or the secret of the new
client cannot be sealed. -/
def RegisterRaises (request : RegisterRequest) (w : RegistryWorld) : Prop :=
  useCase.AuthoriserRaises around request.initialAccessToken ∨
    (authoriseInitial useCase around request.initialAccessToken = .ok true ∧
      (useCase.MetadataRaises around request.metadata ∨
        ∃ metadata, validMetadata useCase around request.metadata = .ok metadata ∧
          NeedsSealed metadata ∧
          useCase.SealRaises around (w.draws + 2) (useCase.tokenUrlsafe (w.draws + 1))))

/-- The metadata of an authorised request raise, or the secret cannot be sealed again. -/
def UpdateRaises (request : UpdateClientRequest) (w : RegistryWorld) : Prop :=
  ∃ client, w.clients.find request.clientId = some client ∧
    authoriseRegistration useCase client request.registrationAccessToken = true ∧
    (useCase.MetadataRaises around request.metadata ∨
      ∃ metadata, validMetadata useCase around request.metadata = .ok metadata ∧
        validateSigningRotation useCase client metadata = .ok () ∧
        validateEncryptionRotation useCase client metadata = .ok () ∧
        useCase.RotationRaises around client metadata w.draws)

variable {useCase around} {metadata : RegistrationMetadata} {w : RegistryWorld}

theorem authoriseInitial_error {token : String} :
    (∃ exception, authoriseInitial useCase around token = .error exception) ↔
      useCase.AuthoriserRaises around token := by
  unfold authoriseInitial AuthoriserRaises
  dsimp only
  by_cases hjwt : useCase.config.initialAccessTokenMode = "jwt"
  · rw [if_neg (by rw [hjwt]; decide), if_pos hjwt, and_iff_right hjwt]
    cases useCase.initialAccessAuthorizer with
    | none =>
        constructor
        · exact nofun
        · rintro ⟨-, authorise, exception, hauthorise, -⟩
          cases hauthorise
    | some authorise =>
        dsimp only
        by_cases hempty : token = ""
        · rw [if_pos hempty]
          exact iff_of_false nofun fun h => h.1 hempty
        · rw [if_neg hempty, and_iff_right hempty]
          constructor
          · rintro ⟨exception, h⟩
            exact ⟨authorise, exception, rfl, h⟩
          · rintro ⟨other, exception, hother, h⟩
            cases hother
            exact ⟨exception, h⟩
  · apply iff_of_false
    · rintro ⟨exception, h⟩
      rw [if_neg hjwt] at h
      split at h
      · cases h
      · split at h
        · cases h
        · split at h
          · cases h
          · cases h
    · exact fun h => hjwt h.1

theorem validMetadata_read (hkeys : KeysReadBack useCase.platform) {raw : Json}
    (h : validMetadata useCase around raw = .ok metadata) :
    WellRead useCase.urls useCase.platform metadata := by
  obtain ⟨known, -, h⟩ := bind_eq_ok.mp h
  obtain ⟨parsed, hparsed, h⟩ := bind_eq_ok.mp h
  obtain ⟨_, -, h⟩ := bind_eq_ok.mp h
  cases h
  exact parseMetadata_ok hkeys hparsed

theorem not_raises_clientOf (hread : WellRead useCase.urls useCase.platform metadata)
    (kept : Client) (secretHash secretCiphertext : String) :
    ¬ Raises (clientOf useCase kept metadata secretHash secretCiphertext) := by
  obtain ⟨method, hmethod⟩ := hread.method
  obtain ⟨keys, hkeys⟩ := hread.keys
  obtain ⟨subjectType, hsubject⟩ := hread.subject
  unfold clientOf
  rw [hmethod, hkeys, hsubject]
  exact not_raises_ok _

/-- What follows the credentials answers or refuses. -/
theorem not_endsRaising_save (hread : WellRead useCase.urls useCase.platform metadata)
    (kept : Client) (secretHash secretCiphertext : String)
    (answer : Client → ClientRegistration) :
    ¬ EndsRaising (do
      let client ← Effects.Raising.lift
        (clientOf useCase kept metadata secretHash secretCiphertext)
      saveClient client
      return answer client) w := by
  rw [endsRaising_lift_bind]
  rintro (hraises | ⟨client, -, hraises⟩)
  · exact not_raises_clientOf hread _ _ _ hraises
  · obtain ⟨exception, w', h⟩ := hraises
    cases h

theorem endsRaising_register (hkeys : KeysReadBack useCase.platform) (request : RegisterRequest) :
    EndsRaising (register useCase around request) w ↔ useCase.RegisterRaises around request w := by
  have hdrawn : ∀ w : RegistryWorld, Answers useCase.drawToken w (useCase.tokenUrlsafe w.draws)
    { w with draws := w.draws + 1 } := fun _ => rfl
  have hcreate : ∀ metadata, validMetadata useCase around request.metadata = .ok metadata →
      (EndsRaising (do
        let clientId ← useCase.drawToken
        let credentials ← credentialsFor useCase around metadata
        let registrationToken ← useCase.drawToken
        let kept : Client :=
          { clientId
            registrationAccessTokenHash := useCase.hashSecret registrationToken
            createdAt := { reading := useCase.now around } }
        let client ← Effects.Raising.lift
          (clientOf useCase kept metadata credentials.1 credentials.2.1)
        saveClient client
        return response useCase client credentials.2.2 registrationToken) w ↔
        NeedsSealed metadata ∧
          useCase.SealRaises around (w.draws + 2) (useCase.tokenUrlsafe (w.draws + 1))) := by
    intro metadata hvalid
    rw [endsRaising_of_answers (hdrawn w), endsRaising_bind_of_quiet,
      endsRaising_credentialsFor (validMetadata_ok hvalid)]
    rintro ⟨secretHash, secretCiphertext, clientSecret⟩ w'
    dsimp only
    rw [endsRaising_of_answers (hdrawn w')]
    exact not_endsRaising_save (validMetadata_read hkeys hvalid) _ _ _ _
  unfold register RegisterRaises
  rw [endsRaising_lift_bind, raises_mayRaise, authoriseInitial_error]
  apply or_congr Iff.rfl
  constructor
  · rintro ⟨authorised, hauthorised, hraises⟩
    have hok := mayRaise_ok hauthorised
    split at hraises
    · rw [endsRaising_lift] at hraises
      exact absurd hraises (not_raises_refused _)
    · rename_i htrue
      rw [Bool.not_eq_false] at htrue
      rw [htrue] at hok
      rw [endsRaising_lift_bind, raises_validMetadata hkeys] at hraises
      refine ⟨hok, hraises.imp id ?_⟩
      rintro ⟨metadata, hvalid, hraises⟩
      exact ⟨metadata, hvalid, (hcreate metadata hvalid).mp hraises⟩
  · rintro ⟨hok, hraises⟩
    refine ⟨true, by rw [hok]; rfl, ?_⟩
    rw [if_neg (by decide), endsRaising_lift_bind, raises_validMetadata hkeys]
    refine hraises.imp id ?_
    rintro ⟨metadata, hvalid, hraises⟩
    exact ⟨metadata, hvalid, (hcreate metadata hvalid).mpr hraises⟩

theorem endsRaising_resolveManaged_bind {β : Type} {request : ReadClientRequest}
    {f : Client → RegistrationM β} :
    EndsRaising (resolveManaged useCase request >>= f) w ↔
      ∃ client, w.clients.find request.clientId = some client ∧
        authoriseRegistration useCase client request.registrationAccessToken = true ∧
        EndsRaising (f client) w := by
  have hget : Answers (get : RegistrationM RegistryWorld) w w w := rfl
  rw [endsRaising_bind]
  unfold resolveManaged Answers
  rw [endsRaising_of_answers hget]
  simp only [outcome_bind_ok hget]
  cases hfound : w.clients.find request.clientId with
  | none =>
      constructor
      · rintro (⟨exception, w', h⟩ | ⟨client, w', h, -⟩)
        · cases h
        · cases h
      · rintro ⟨client, hclient, -⟩
        cases hclient
  | some client =>
      dsimp only
      by_cases hauthorised : authoriseRegistration useCase client
          request.registrationAccessToken = true
      · rw [if_pos hauthorised]
        constructor
        · rintro (h | ⟨other, w', h, hraises⟩)
          · exact absurd h (not_endsRaising_pure client)
          · cases h
            exact ⟨client, rfl, hauthorised, hraises⟩
        · rintro ⟨other, hother, -, hraises⟩
          cases hother
          exact .inr ⟨client, w, rfl, hraises⟩
      · rw [if_neg hauthorised]
        constructor
        · rintro (⟨exception, w', h⟩ | ⟨other, w', h, -⟩)
          · cases h
          · cases h
        · rintro ⟨other, hother, h, -⟩
          cases hother
          exact absurd h hauthorised

theorem not_raises_validateSecretAtHand (client : Client) (missing unchanged : String) :
    ¬ Raises (validateSecretAtHand useCase client metadata missing unchanged) := by
  unfold validateSecretAtHand
  dsimp only
  split
  · split
    · split
      · exact not_raises_invalid _
      · exact not_raises_ok ()
    · split
      · exact not_raises_invalid _
      · exact not_raises_ok ()
  · exact not_raises_ok ()

theorem not_raises_validateSigningRotation (client : Client) :
    ¬ Raises (validateSigningRotation useCase client metadata) := by
  unfold validateSigningRotation
  split
  · exact not_raises_ok ()
  · exact not_raises_validateSecretAtHand _ _ _

theorem not_raises_validateEncryptionRotation (client : Client) :
    ¬ Raises (validateEncryptionRotation useCase client metadata) := by
  unfold validateEncryptionRotation
  split
  · exact not_raises_ok ()
  · exact not_raises_validateSecretAtHand _ _ _

/-- A verdict that refuses at most, before what may raise. -/
theorem endsRaising_verdict_bind {β : Type} {x : Parsed Unit} {f : Unit → RegistrationM β}
    (hx : ¬ Raises x) :
    EndsRaising (Effects.Raising.lift x >>= f) w ↔ x = .ok () ∧ EndsRaising (f ()) w := by
  rw [endsRaising_lift_bind, or_iff_right hx]
  constructor
  · rintro ⟨⟨⟩, hok, hraises⟩
    exact ⟨hok, hraises⟩
  · rintro ⟨hok, hraises⟩
    exact ⟨(), hok, hraises⟩

theorem endsRaising_update (hkeys : KeysReadBack useCase.platform)
    (request : UpdateClientRequest) :
    EndsRaising (update useCase around request) w ↔ useCase.UpdateRaises around request w := by
  unfold update UpdateRaises
  rw [endsRaising_resolveManaged_bind]
  apply exists_congr
  intro client
  apply and_congr Iff.rfl
  apply and_congr Iff.rfl
  rw [endsRaising_lift_bind, raises_validMetadata hkeys]
  apply or_congr Iff.rfl
  apply exists_congr
  intro metadata
  apply and_congr_right
  intro hvalid
  rw [endsRaising_verdict_bind (not_raises_validateSigningRotation client),
    endsRaising_verdict_bind (not_raises_validateEncryptionRotation client),
    endsRaising_bind_of_quiet, endsRaising_updatedCredentials (validMetadata_ok hvalid)]
  intro rotation w'
  exact not_endsRaising_save (validMetadata_read hkeys hvalid) _ _ _ _

/-! ## The clients after a request -/

/-- A registration saves an accepted client, and leaves the clients when it does not answer. -/
theorem wp_register_saves (request : RegisterRequest) (w : RegistryWorld) :
    wp (register useCase around request)
      (fun _ w' => ∃ client, useCase.Accepted client ∧ w'.clients = w.clients.save client)
      (fun _ w' => SameClients w w') w := by
  unfold register
  refine wp_lift_bind (fun _ _ => rfl) ?_
  intro authorised _
  split
  · exact rfl
  refine wp_lift_bind (fun _ _ => rfl) ?_
  intro metadata hvalid
  refine wp_keeping along_drawToken (fun _ _ h => h) ?_
  intro clientId w₁ _ hw₁
  refine wp_keeping along_credentialsFor (fun _ _ h => sameClients_trans _ _ _ hw₁ h) ?_
  rintro ⟨secretHash, ciphertext, secret⟩ w₂ _ hw₂
  have hw₂ := sameClients_trans _ _ _ hw₁ hw₂
  refine wp_keeping along_drawToken (fun _ _ h => sameClients_trans _ _ _ hw₂ h) ?_
  intro registrationToken w₃ _ hw₃
  have hw₃ := sameClients_trans _ _ _ hw₂ hw₃
  refine wp_lift_bind (fun _ _ => hw₃) ?_
  intro client hclient
  refine ⟨client, ⟨_, _, _, _, _, _, hvalid, hclient⟩, ?_⟩
  show w₃.clients.save client = _
  rw [show w₃.clients = w.clients from hw₃]

/-- An update saves an accepted client, and leaves the clients when it does not answer. -/
theorem wp_update_saves (request : UpdateClientRequest) (w : RegistryWorld) :
    wp (update useCase around request)
      (fun _ w' => ∃ client, useCase.Accepted client ∧ w'.clients = w.clients.save client)
      (fun _ w' => SameClients w w') w := by
  unfold update
  refine wp_bind.mpr (wp_mono (wp_resolveManaged _ w) ?_ fun _ _ h => congrArg _ h)
  rintro before w₁ ⟨rfl, -, -⟩
  refine wp_lift_bind (fun _ _ => rfl) ?_
  intro metadata hvalid
  refine wp_lift_bind (fun _ _ => rfl) ?_
  intro _ _
  refine wp_lift_bind (fun _ _ => rfl) ?_
  intro _ _
  refine wp_keeping along_updatedCredentials (fun _ _ h => h) ?_
  intro rotation w₂ _ hw₂
  refine wp_lift_bind (fun _ _ => hw₂) ?_
  intro client hclient
  refine ⟨client, ⟨_, _, _, _, _, _, hvalid, hclient⟩, ?_⟩
  show w₂.clients.save client = _
  rw [show w₂.clients = w₁.clients from hw₂]

end Requests

/-! ## The URIs of an accepted client -/

section Uris

variable {useCase} {client : Client}

theorem accepted_read (hkeys : KeysReadBack useCase.platform) (h : useCase.Accepted client) :
    ∃ metadata, WellRead useCase.urls useCase.platform metadata ∧
      client.redirectUris = metadata.redirectUris ∧ client.jwksUri = metadata.jwksUri ∧
      client.sectorIdentifierUri = metadata.sectorIdentifierUri := by
  obtain ⟨around, raw, kept, metadata, secretHash, token, hvalid, hclient⟩ := h
  refine ⟨metadata, validMetadata_read hkeys hvalid, ?_⟩
  obtain ⟨method, -, hclient⟩ := bind_eq_ok.mp hclient
  obtain ⟨keys, -, hclient⟩ := bind_eq_ok.mp hclient
  obtain ⟨subjectType, -, hclient⟩ := bind_eq_ok.mp hclient
  cases hclient
  exact ⟨rfl, rfl, rfl⟩

theorem client_hostsOf_total {p : Platform} {uris : List String}
    (h : ∀ uri ∈ uris, ∃ parts, p.urlsplit uri = .ok parts) :
    ∃ hosts, Client.hostsOf p uris = .ok hosts := by
  induction uris with
  | nil => exact ⟨∅, rfl⟩
  | cons uri rest ih =>
      obtain ⟨parts, hparts⟩ := h uri List.mem_cons_self
      obtain ⟨hosts, hhosts⟩ := ih fun other hother => h other (List.mem_cons_of_mem _ hother)
      have hcons : Client.hostsOf p (uri :: rest) = (do
          let parts ← p.urlsplit uri
          let hosts ← Client.hostsOf p rest
          match parts.hostname with
          | some host => .ok (if host = "" then hosts else insert host hosts)
          | none => .ok hosts) := rfl
      rw [hcons, hparts, hhosts]
      show ∃ all, (match parts.hostname with
        | some host => .ok (if host = "" then hosts else insert host hosts)
        | none => .ok hosts : Except Raised (Finset String)) = .ok all
      split
      · exact ⟨_, rfl⟩
      · exact ⟨_, rfl⟩

/-- The sector of the subjects is defined where the URIs split. -/
theorem subjectSector_total {p : Platform}
    (hsector : ∃ parts, p.urlsplit client.sectorIdentifierUri = .ok parts)
    (hredirects : ∀ uri ∈ client.redirectUris, ∃ parts, p.urlsplit uri = .ok parts) :
    ∃ sector, client.subjectSector p = .ok sector := by
  unfold Client.subjectSector
  by_cases hdeclared : client.sectorIdentifierUri ≠ ""
  · rw [if_pos hdeclared]
    obtain ⟨parts, hparts⟩ := hsector
    rw [hparts]
    exact ⟨_, rfl⟩
  · rw [if_neg hdeclared]
    obtain ⟨hosts, hhosts⟩ := client_hostsOf_total fun uri huri =>
      hredirects uri (mem_sorted.mp huri)
    rw [hhosts]
    dsimp only [bind, Except.bind]
    split
    · exact ⟨_, rfl⟩
    · exact ⟨_, rfl⟩

theorem originOfUri_defined {lib : UrlLibrary} {uri : String} :
    (∃ origin, originOfUri lib uri = .ok origin) ↔ ¬ Unsplit lib uri ∧ ¬ BadPort lib uri := by
  rw [← not_or, ← originOfUri_error]
  cases originOfUri lib uri with
  | ok origin => exact ⟨fun _ => nofun, fun _ => ⟨origin, rfl⟩⟩
  | error exception =>
      constructor
      · exact nofun
      · intro h
        exact absurd ⟨exception, rfl⟩ h

/-- An accepted redirect URI splits. -/
theorem accepted_split (h : useCase.Accepted client) {uri : String}
    (huri : uri ∈ client.redirectUris) : ¬ Unsplit useCase.urls uri := by
  obtain ⟨parts, hparts, -⟩ := parts_of_isRedirectUri (accepted_redirectUris h uri huri)
  rintro ⟨exception, hexception⟩
  rw [hparts] at hexception
  cases hexception

theorem accepted_origins (h : useCase.Accepted client) :
    (∀ uri ∈ client.browserUris, ∃ origin, originOfUri useCase.urls uri = .ok origin) ↔
      (∀ uri ∈ client.redirectUris, ¬ BadPort useCase.urls uri) ∧
        ∀ origin ∈ client.webOrigins,
          ¬ Unsplit useCase.urls origin ∧ ¬ BadPort useCase.urls origin := by
  constructor
  · intro hdefined
    constructor
    · intro uri huri
      exact (originOfUri_defined.mp (hdefined uri (Finset.mem_union_left _ huri))).2
    · intro origin horigin
      exact originOfUri_defined.mp (hdefined origin (Finset.mem_union_right _ horigin))
  · rintro ⟨hredirects, horigins⟩ uri huri
    rw [originOfUri_defined]
    rcases Finset.mem_union.mp huri with huri | huri
    · exact ⟨accepted_split h huri, hredirects uri huri⟩
    · exact horigins uri huri

end Uris

end RegistrationUseCase

/-! ## A bracket that is not closed -/

namespace RegistrationUseCase.Sample

/-- The server, with a library that reads the key set it writes. -/
def readingServer : RegistrationUseCase Unit :=
  { useCase with
    platform :=
      { PurIdentityServer.Sample.platform with
        jsonDumps := fun _ => "\x7b\"keys\":[]\x7d"
        jsonLoads := fun text =>
          if text = "\x7b\"keys\":[]\x7d" then some (.obj [("keys", .arr [])]) else none } }

/-- A client registers a redirect URI with a bracket that is not closed. -/
def openBracket : RegisterRequest where
  metadata := .obj [("redirect_uris", .arr [.str "https://[app.example/cb"])]

end RegistrationUseCase.Sample

end PurIdentityServer

import PurIdentityServer.Domain.Federation

/-!
# StatementParsing — what leaves `parse_entity_statement` besides its own error

The claims of an entity statement are those of a remote party. Each of them
is read by a function that raises `FederationError` on a value of the wrong
shape, and two of these functions hand the value to a Python conversion
first: `datetime.fromtimestamp` for the dates, `dict` for the metadata of an
entity type. What these raise is caught by nobody.

The claims are read in a fixed order, so a conversion is only reached when
everything before it was accepted: `Escapes` says when.
-/

namespace PurIdentityServer

open Effects

namespace Federation

variable {α : Type}

/-- An exception other than `FederationError`. -/
def Foreign (fault : Fault) : Prop := ∀ message, fault ≠ .federation message

/-- The call returns or raises `FederationError`. -/
def Contained (r : Except Fault α) : Prop :=
  (∃ a, r = .ok a) ∨ ∃ message, r = .error (.federation message)

@[simp] theorem not_foreign_federation (message : String) : ¬ Foreign (.federation message) :=
  fun h => h message rfl

@[simp] theorem foreign_conversion : Foreign .conversion := by
  intro message h
  cases h

@[simp] theorem foreign_registration (code description : String) :
    Foreign (.registration code description) := by
  intro message h
  cases h

theorem contained_iff {r : Except Fault α} : Contained r ↔ ¬ RaisesIn Foreign r := by
  rw [not_raisesIn_iff]
  apply or_congr Iff.rfl
  constructor
  · rintro ⟨message, h⟩
    exact ⟨_, h, not_foreign_federation message⟩
  · rintro ⟨fault, h, hforeign⟩
    cases fault with
    | federation message => exact ⟨message, h⟩
    | registration code description => exact absurd (foreign_registration _ _) hforeign
    | conversion => exact absurd foreign_conversion hforeign

/-! ## The readers that raise nothing else -/

@[simp] theorem not_raisesIn_raiseIf (condition : Bool) (message : String) :
    ¬ RaisesIn Foreign (raiseIf condition message) := by
  cases condition <;> simp [raiseIf]

theorem raiseIf_eq_ok {condition : Bool} {message : String} {u : Unit} :
    raiseIf condition message = .ok u ↔ condition = false := by
  cases condition <;> simp [raiseIf]

@[simp] theorem not_raisesIn_requiredString (claims : Members) (name : String) :
    ¬ RaisesIn Foreign (requiredString claims name) := by
  unfold requiredString
  split
  · split <;> simp
  · simp

@[simp] theorem not_raisesIn_stringArray (claims : Members) (name : String) :
    ¬ RaisesIn Foreign (stringArray claims name) := by
  unfold stringArray
  split
  · simp
  · simp
  · split <;> simp
  · simp

@[simp] theorem not_raisesIn_parseJwks (claims : Members) :
    ¬ RaisesIn Foreign (parseJwks claims) := by
  unfold parseJwks
  split
  · split <;> simp
  · simp

@[simp] theorem not_raisesIn_parseConstraints (claims : Members) :
    ¬ RaisesIn Foreign (parseConstraints claims) := by
  unfold parseConstraints
  split <;> simp

@[simp] theorem not_raisesIn_parseHints (claims : Members) :
    ¬ RaisesIn Foreign (parseHints claims) := by
  unfold parseHints
  rw [raisesIn_bind_of_check (not_raisesIn_stringArray _ _)]
  rintro ⟨authorityHints, -, h⟩
  rw [raisesIn_bind_of_check (not_raisesIn_stringArray _ _)] at h
  obtain ⟨trustAnchorHints, -, h⟩ := h
  split at h <;> simp at h

variable (p : FederationPlatform)

@[simp] theorem not_raisesIn_parseSourceEndpoint (claims : Members) :
    ¬ RaisesIn Foreign (parseSourceEndpoint p claims) := by
  unfold parseSourceEndpoint
  split
  · simp
  · split <;> simp

@[simp] theorem not_raisesIn_validateConstraint (entityType parameter : String)
    (constraint : Json) :
    ¬ RaisesIn Foreign (validateConstraint p entityType parameter constraint) := by
  unfold validateConstraint
  split
  · dsimp only
    split <;> simp
  · simp

/-- A loop raises nothing of the class when no round does. -/
theorem not_raisesIn_forM {β : Type} {f : β → Except Fault Unit} (items : List β)
    (h : ∀ item ∈ items, ¬ RaisesIn Foreign (f item)) : ¬ RaisesIn Foreign (items.forM f) := by
  induction items with
  | nil => simp
  | cons item rest ih =>
      show ¬ RaisesIn Foreign (f item >>= fun _ => rest.forM f)
      rw [raisesIn_bind_of_check (h item List.mem_cons_self)]
      rintro ⟨_, -, hrest⟩
      exact ih (fun other hother => h other (List.mem_cons_of_mem _ hother)) hrest

/-- The validation of a policy only raises its own error, whatever the policy holds. -/
@[simp] theorem not_raisesIn_validateMetadataPolicy (policy : Members) :
    ¬ RaisesIn Foreign (validateMetadataPolicy p policy) := by
  apply not_raisesIn_forM
  rintro ⟨entityType, operators⟩ -
  dsimp only
  split
  · apply not_raisesIn_forM
    rintro ⟨parameter, constraint⟩ -
    exact not_raisesIn_validateConstraint p entityType parameter constraint
  · simp

@[simp] theorem not_raisesIn_parsePolicy (claims : Members) :
    ¬ RaisesIn Foreign (parsePolicy p claims) := by
  unfold parsePolicy
  split
  · simp
  · simp
  · rw [raisesIn_bind_of_check (not_raisesIn_validateMetadataPolicy p _)]
    simp
  · simp

/-! ## The two conversions -/

/-- A claim that is a number no `datetime` stands for. -/
def NoDate (claims : Members) (name : String) : Prop :=
  ∃ text, claims.get name = some (.num text) ∧ p.fromTimestamp text = none

/-- A claim that is the number of a moment. -/
def Dated (claims : Members) (name : String) (moment : Instant) : Prop :=
  ∃ text, claims.get name = some (.num text) ∧ p.fromTimestamp text = some moment

variable {p}

theorem requiredTimestamp_eq_ok {claims : Members} {name : String} {moment : Instant} :
    requiredTimestamp p claims name = .ok moment ↔ Dated p claims name moment := by
  unfold requiredTimestamp Dated
  split
  · rename_i text hget
    rw [hget]
    cases hdate : p.fromTimestamp text with
    | none => simp [hdate]
    | some found => simp [hdate]
  · rename_i hother
    simp only [reduceCtorEq, false_iff]
    rintro ⟨text, hget, -⟩
    exact hother text hget

theorem raisesIn_requiredTimestamp {claims : Members} {name : String} :
    RaisesIn Foreign (requiredTimestamp p claims name) ↔ NoDate p claims name := by
  unfold requiredTimestamp NoDate
  split
  · rename_i text hget
    rw [hget]
    cases hdate : p.fromTimestamp text with
    | none => simp [hdate]
    | some found => simp [hdate]
  · rename_i hother
    simp only [raisesIn_error, not_foreign_federation, false_iff]
    rintro ⟨text, hget, -⟩
    exact hother text hget

/-- Metadata of standard types, one of which is not what `dict` takes. -/
def NoMapping (claims : Members) : Prop :=
  ∃ metadata, claims.get "metadata" = some (.obj metadata) ∧
    (∀ name ∈ Dict.keys metadata, name ∈ standardEntityTypes) ∧
    ∃ member ∈ metadata, ∃ e, Json.dictOf member.2 = .error e

theorem raisesIn_dictValues {metadata : Members} :
    RaisesIn Foreign (dictValues metadata) ↔
      ∃ member ∈ metadata, ∃ e, Json.dictOf member.2 = .error e := by
  induction metadata with
  | nil => simp [dictValues]
  | cons member rest ih =>
      unfold dictValues
      cases hmember : Json.dictOf member.2 with
      | error e => simp [hmember, Fault.ofConversion]
      | ok members =>
          dsimp only
          rw [raisesIn_bind_of_quiet (by simp), ih]
          simp [hmember]

theorem raisesIn_parseMetadata {claims : Members} :
    RaisesIn Foreign (parseMetadata p claims) ↔ NoMapping claims := by
  unfold parseMetadata NoMapping
  cases hget : claims.get "metadata" with
  | none => simp [dictValues, Dict.keys]
  | some value =>
      cases value with
      | obj metadata =>
          have hsubset : (Dict.keys metadata).toFinset \ standardEntityTypes.toFinset ≠ ∅ ↔
              ¬ ∀ name ∈ Dict.keys metadata, name ∈ standardEntityTypes := by
            rw [Ne, Finset.sdiff_eq_empty_iff_subset, not_iff_not]
            constructor
            · intro h name hname
              exact List.mem_toFinset.mp (h (List.mem_toFinset.mpr hname))
            · intro h name hname
              exact List.mem_toFinset.mpr (h name (List.mem_toFinset.mp hname))
          simp only [Option.getD_some, Option.some.injEq, Json.obj.injEq]
          rw [raisesIn_ite, raisesIn_error, hsubset, not_not, raisesIn_dictValues]
          simp
      | _ => simp

/-! ## The whole parsing -/

/-- A claim that names an entity. -/
def Identifies (claims : Members) (name : String) : Prop :=
  ∃ value, claims.get name = some (.str value) ∧ isEntityIdentifier value = true

/-- A claim `jwks` that is a JWK Set. -/
def HoldsKeys (claims : Members) : Prop :=
  ∃ jwks keys, claims.get "jwks" = some (.obj jwks) ∧ Dict.get jwks "keys" = some (.arr keys)

variable (p) in
/-- The claims on which the parsing gets to a conversion that raises. -/
def Escapes (claims : Members) : Prop :=
  Identifies claims "iss" ∧ Identifies claims "sub" ∧
    (NoDate p claims "iat" ∨ ∃ issuedAt, Dated p claims "iat" issuedAt ∧
      (NoDate p claims "exp" ∨ ∃ expiresAt, Dated p claims "exp" expiresAt ∧
        issuedAt < expiresAt ∧ HoldsKeys claims ∧ NoMapping claims))

theorem requiredString_eq_ok {claims : Members} {name value : String} :
    requiredString claims name = .ok value ↔ claims.get name = some (.str value) ∧ value ≠ "" := by
  constructor
  · exact requiredString_ok
  · rintro ⟨hget, hne⟩
    simp [requiredString, hget, hne]

theorem exists_parseJwks {claims : Members} :
    (∃ jwks, parseJwks claims = .ok jwks) ↔ HoldsKeys claims := by
  unfold parseJwks HoldsKeys
  split
  · rename_i jwks hget
    split
    · rename_i keys hkeys
      simp [hget, hkeys]
    · rename_i hother
      simp only [reduceCtorEq, exists_const, false_iff]
      rintro ⟨jwks', keys, hjwks, hkeys⟩
      rw [hget] at hjwks
      cases hjwks
      exact hother keys hkeys
  · rename_i hother
    simp only [reduceCtorEq, exists_const, false_iff]
    rintro ⟨jwks, keys, hjwks, -⟩
    exact hother jwks hjwks

/-- The exceptions of the parsing, along the order in which it reads the claims. -/
theorem raisesIn_parseEntityStatement {claims : Members} :
    RaisesIn Foreign (parseEntityStatement p claims) ↔ Escapes p claims := by
  unfold parseEntityStatement
  simp only [raisesIn_bind, not_raisesIn_requiredString, not_raisesIn_raiseIf,
    not_raisesIn_parseJwks, not_raisesIn_parseHints, not_raisesIn_parsePolicy,
    not_raisesIn_parseConstraints, not_raisesIn_parseSourceEndpoint, not_raisesIn_stringArray,
    not_raisesIn_pure, raisesIn_requiredTimestamp, raisesIn_parseMetadata, false_or, and_false,
    exists_false, or_false]
  simp only [requiredString_eq_ok, raiseIf_eq_ok, requiredTimestamp_eq_ok, Bool.not_eq_false',
    decide_eq_false_iff_not, not_le, exists_const]
  constructor
  · rintro ⟨issuer, ⟨hiss, -⟩, subject, ⟨hsub, -⟩, hissuer, hsubject, hdates⟩
    refine ⟨⟨issuer, hiss, hissuer⟩, ⟨subject, hsub, hsubject⟩, ?_⟩
    rcases hdates with hiat | ⟨issuedAt, hiat, hexp | ⟨expiresAt, hexp, hlt, jwks, hjwks, hmetadata⟩⟩
    · exact .inl hiat
    · exact .inr ⟨issuedAt, hiat, .inl hexp⟩
    · exact .inr ⟨issuedAt, hiat, .inr ⟨expiresAt, hexp, hlt, exists_parseJwks.mp ⟨jwks, hjwks⟩,
        hmetadata⟩⟩
  · rintro ⟨⟨issuer, hiss, hissuer⟩, ⟨subject, hsub, hsubject⟩, hdates⟩
    refine ⟨issuer, ⟨hiss, isEntityIdentifier_ne_empty hissuer⟩, subject,
      ⟨hsub, isEntityIdentifier_ne_empty hsubject⟩, hissuer, hsubject, ?_⟩
    rcases hdates with hiat | ⟨issuedAt, hiat, hexp | ⟨expiresAt, hexp, hlt, hkeys, hmetadata⟩⟩
    · exact .inl hiat
    · exact .inr ⟨issuedAt, hiat, .inl hexp⟩
    · obtain ⟨jwks, hjwks⟩ := exists_parseJwks.mpr hkeys
      exact .inr ⟨issuedAt, hiat, .inr ⟨expiresAt, hexp, hlt, jwks, hjwks, hmetadata⟩⟩

variable (p)

/-- **The parsing of a statement fails with `FederationError` alone exactly when it gets to no
date outside the calendar and to no metadata `dict` refuses**; the validation of a policy always
does. -/
theorem parseEntityStatement_contained_iff (claims : Members) :
    (Contained (parseEntityStatement p claims) ↔ ¬ Escapes p claims) ∧
      ∀ policy, Contained (validateMetadataPolicy p policy) := by
  constructor
  · rw [contained_iff, raisesIn_parseEntityStatement]
  · intro policy
    exact contained_iff.mpr (not_raisesIn_validateMetadataPolicy p policy)

/-! ## Two statements that get through -/

namespace CalendarSample

/-- The years of `datetime`, from 1 to 9999. -/
def platform : FederationPlatform where
  sha256Hex := id
  sha256Base64Url := id
  sha256Der _ := ""
  hmacBase64Url _ message := message
  jsonLoads _ := none
  jsonDumps _ := ""
  pyStr _ := ""
  upper := id
  urlsplit _ := .ok {}
  jwtDecode _ := none
  jwtPayload _ := none
  fromTimestamp text :=
    let moment := Json.truncated text
    if -62135596800 ≤ moment ∧ moment < 253402300800 then some (seconds moment) else none

/-- An entity configuration whose end is `exp`, with its metadata. -/
def configuration (exp : String) (metadata : Members) : Members :=
  [("iss", .str "https://rp"), ("sub", .str "https://rp"), ("iat", .num "1760000000"),
    ("exp", .num exp), ("jwks", .obj [("keys", .arr [])]), ("metadata", .obj metadata)]

end CalendarSample

open CalendarSample in
/-- A statement that ends with the year 10000, and one whose metadata holds a number. -/
theorem parseEntityStatement_conversion :
    parseEntityStatement platform (configuration "253402300800" []) = .error .conversion ∧
      parseEntityStatement platform (configuration "1760003600"
        [("openid_relying_party", .num "5")]) = .error .conversion ∧
      ¬ ∀ claims, Contained (parseEntityStatement platform claims) := by
  have hdate : parseEntityStatement platform (configuration "253402300800" []) =
      .error .conversion := by rfl
  have hmetadata : parseEntityStatement platform (configuration "1760003600"
      [("openid_relying_party", .num "5")]) = .error .conversion := by rfl
  refine ⟨hdate, hmetadata, ?_⟩
  intro hall
  rcases hall (configuration "253402300800" []) with ⟨st, h⟩ | ⟨message, h⟩
  · rw [hdate] at h
    cases h
  · rw [hdate] at h
    cases h

end Federation

end PurIdentityServer

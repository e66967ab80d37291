import PurIdentityServer.Domain.Authorization
import PurIdentityServer.Domain.Json
import PurIdentityServer.Lib.Fallible

/-!
# Federation — entity statements and trust chains

The domain side of OpenID Federation: an entity statement and the
structural validation of its claims, the trust chain of a leaf, the
application of the metadata policies of its superiors, and the client
derived from the resolved metadata. Signatures and the walk up the
authority hints belong to the application layer.
-/

namespace PurIdentityServer

open Effects

namespace Federation

def entityStatementTyp : String := "entity-statement+jwt"

def explicitRegistrationResponseTyp : String := "explicit-registration-response+jwt"

def resolveResponseTyp : String := "resolve-response+jwt"

/-- `STANDARD_ENTITY_TYPES` -/
def standardEntityTypes : List String :=
  ["federation_entity", "openid_relying_party", "openid_provider",
    "oauth_authorization_server", "oauth_client", "oauth_resource"]

/-- `STANDARD_METADATA_POLICY_OPERATORS` -/
def standardMetadataPolicyOperators : List String :=
  ["value", "add", "default", "one_of", "subset_of", "superset_of", "essential"]

/-- What can leave the federation code: its own error, the registration
refusal derived from it, and an exception of a Python conversion, which no
caller catches. -/
inductive Fault where
  | federation (message : String)
  | registration (code description : String)
  | conversion
  deriving DecidableEq, Repr

def Fault.ofConversion (_ : Json.ConversionError) : Fault := .conversion

/-- `if condition: raise FederationError(message)`. -/
def raiseIf (condition : Bool) (message : String) : Except Fault Unit :=
  if condition then .error (.federation message) else .ok ()

/-- The library functions the federation calls besides the shared ones. -/
structure FederationPlatform extends Platform where
  /-- `datetime.fromtimestamp(float(value), tz=utc)`, `none` when it raises -/
  fromTimestamp : String → Option Instant

variable (p : FederationPlatform)

/-- A list of strings as Python prints it. -/
def printed (names : List String) : String := p.pyStr (.arr (names.map .str))

/-! ## Entity identifiers -/

/-- The end of a string for `$`: nothing, or one final newline. -/
def atEnd : List Char → Bool
  | [] => true
  | ['\n'] => true
  | _ => false

/-- `_ENTITY_IDENTIFIER.match(value)`. -/
def isEntityIdentifier (value : String) : Bool :=
  Text.startsWith value "https://" &&
    (let host := (value.toList.drop 8).takeWhile fun c =>
        !Text.isSpace c && c ≠ '/' && c ≠ '?' && c ≠ '#'
     let rest := value.toList.drop (8 + host.length)
     !host.isEmpty &&
       (atEnd rest ||
         match rest with
         | c :: tail =>
             (c = '/' || c = '?') &&
               atEnd (tail.dropWhile fun c => !Text.isSpace c && c ≠ '?' && c ≠ '#')
         | [] => false))

/-! ## Entity statements -/

structure EntityStatement where
  issuer : String
  subject : String
  issuedAt : Instant
  expiresAt : Instant
  jwks : Members
  metadata : Dict String Members := []
  authorityHints : List String := []
  trustAnchorHints : List String := []
  constraints : Option Members := none
  metadataPolicy : Option Members := none
  metadataPolicyCrit : List String := []
  sourceEndpoint : String := ""

namespace EntityStatement

/-- Whether the statement is an entity configuration. -/
def isSelfSigned (s : EntityStatement) : Bool := s.issuer = s.subject

end EntityStatement

/-- `_required_string` -/
def requiredString (claims : Members) (name : String) : Except Fault String :=
  match claims.get name with
  | some (.str value) =>
      if value = "" then .error (.federation ("claim '" ++ name ++ "' requis et non vide"))
      else .ok value
  | _ => .error (.federation ("claim '" ++ name ++ "' requis et non vide"))

/-- `_required_timestamp` -/
def requiredTimestamp (claims : Members) (name : String) : Except Fault Instant :=
  match claims.get name with
  | some (.num text) =>
      match p.fromTimestamp text with
      | some moment => .ok moment
      | none => .error .conversion
  | _ => .error (.federation ("claim '" ++ name ++ "' requis et numérique"))

/-- `_string_array` -/
def stringArray (claims : Members) (name : String) : Except Fault (List String) :=
  match claims.get name with
  | none => .ok []
  | some .null => .ok []
  | some (.arr items) =>
      match Json.strings items with
      | some names => .ok names
      | none =>
          .error (.federation ("claim '" ++ name ++ "' doit être un tableau de chaînes"))
  | some _ => .error (.federation ("claim '" ++ name ++ "' doit être un tableau de chaînes"))

/-- The values of a dictionary through `dict(value)`. -/
def dictValues : Members → Except Fault (Dict String Members)
  | [] => .ok []
  | (name, value) :: rest =>
      match Json.dictOf value with
      | .error e => .error (Fault.ofConversion e)
      | .ok members => do
          let others ← dictValues rest
          .ok ((name, members) :: others)

/-- `_parse_metadata` -/
def parseMetadata (claims : Members) : Except Fault (Dict String Members) :=
  match (claims.get "metadata").getD (.obj []) with
  | .obj metadata =>
      let unknownTypes := (Dict.keys metadata).toFinset \ standardEntityTypes.toFinset
      if unknownTypes ≠ ∅ then
        .error (.federation ("types d'entité non standard : "
          ++ printed p (Text.sorted unknownTypes)))
      else dictValues metadata
  | _ => .error (.federation "'metadata' doit être un objet")

/-- `_parse_hints` -/
def parseHints (claims : Members) : Except Fault (List String × List String) := do
  let authorityHints ← stringArray claims "authority_hints"
  let trustAnchorHints ← stringArray claims "trust_anchor_hints"
  match (authorityHints ++ trustAnchorHints).find? fun hint => !isEntityIdentifier hint with
  | some hint =>
      .error (.federation ("Entity Identifier invalide dans les hints : " ++ hint))
  | none => .ok (authorityHints, trustAnchorHints)

/-! ## Metadata policies -/

/-- The operators of one parameter. -/
def validateConstraint (entityType parameter : String) : Json → Except Fault Unit
  | .obj constraint =>
      let unknown := (Dict.keys constraint).toFinset \ standardMetadataPolicyOperators.toFinset
      if unknown ≠ ∅ then
        .error (.federation ("opérateurs de metadata policy non supportés : "
          ++ printed p (Text.sorted unknown)))
      else .ok ()
  | _ => .error (.federation ("opérateur de metadata policy invalide pour '" ++ entityType
      ++ "." ++ parameter ++ "'"))

/-- `validate_metadata_policy` -/
def validateMetadataPolicy (policy : Members) : Except Fault Unit :=
  policy.forM fun (entityType, operators) =>
    match operators with
    | .obj operators => operators.forM fun (parameter, constraint) =>
        validateConstraint p entityType parameter constraint
    | _ => .error (.federation ("metadata policy invalide pour '" ++ entityType ++ "'"))

/-- The `metadata_policy` claim of a statement. -/
def parsePolicy (claims : Members) : Except Fault (Option Members) :=
  match claims.get "metadata_policy" with
  | none => .ok none
  | some .null => .ok none
  | some (.obj policy) => do
      validateMetadataPolicy p policy
      .ok (some policy)
  | some _ => .error (.federation "'metadata_policy' doit être un objet")

def parseConstraints (claims : Members) : Except Fault (Option Members) :=
  match claims.get "constraints" with
  | none => .ok none
  | some .null => .ok none
  | some (.obj constraints) => .ok (some constraints)
  | some _ => .error (.federation "'constraints' doit être un objet")

def parseSourceEndpoint (claims : Members) : Except Fault String :=
  match (claims.get "source_endpoint").getD (.str "") with
  | .str value => .ok value
  | value =>
      if value.truthy then .error (.federation "'source_endpoint' doit être une chaîne")
      else .ok (p.pyStr value)

/-- The JWK Set of a statement. -/
def parseJwks (claims : Members) : Except Fault Members :=
  match claims.get "jwks" with
  | some (.obj jwks) =>
      match Dict.get jwks "keys" with
      | some (.arr _) => .ok jwks
      | _ => .error (.federation "'jwks' doit être un JWK Set")
  | _ => .error (.federation "'jwks' doit être un JWK Set")

/-- `parse_entity_statement` -/
def parseEntityStatement (claims : Members) : Except Fault EntityStatement := do
  let issuer ← requiredString claims "iss"
  let subject ← requiredString claims "sub"
  raiseIf (!isEntityIdentifier issuer) ("Entity Identifier invalide pour 'iss' : " ++ issuer)
  raiseIf (!isEntityIdentifier subject) ("Entity Identifier invalide pour 'sub' : " ++ subject)
  let issuedAt ← requiredTimestamp p claims "iat"
  let expiresAt ← requiredTimestamp p claims "exp"
  raiseIf (expiresAt ≤ issuedAt) "'exp' doit être postérieur à 'iat'"
  let jwks ← parseJwks claims
  let metadata ← parseMetadata p claims
  let hints ← parseHints claims
  let policy ← parsePolicy p claims
  let constraints ← parseConstraints claims
  let sourceEndpoint ← parseSourceEndpoint p claims
  let crit ← stringArray claims "metadata_policy_crit"
  return {
    issuer, subject, issuedAt, expiresAt, jwks, metadata
    authorityHints := hints.1, trustAnchorHints := hints.2
    constraints, metadataPolicy := policy, metadataPolicyCrit := crit, sourceEndpoint }

variable {p}

theorem raiseIf_ok {condition : Bool} {message : String} {u : Unit}
    (h : raiseIf condition message = .ok u) : condition = false := by
  unfold raiseIf at h
  cases condition
  · rfl
  · cases h

theorem requiredString_ok {claims : Members} {name value : String}
    (h : requiredString claims name = .ok value) :
    claims.get name = some (.str value) ∧ value ≠ "" := by
  unfold requiredString at h
  split at h
  · rename_i found hget
    split at h
    · cases h
    · rename_i hne
      cases h
      exact ⟨hget, hne⟩
  · cases h

theorem parseJwks_ok {claims jwks : Members} (h : parseJwks claims = .ok jwks) :
    claims.get "jwks" = some (.obj jwks) := by
  unfold parseJwks at h
  split at h
  · rename_i found hget
    split at h
    · cases h
      exact hget
    · cases h
  · cases h

/-- A parsed hint is an entity identifier. -/
theorem parseHints_ok {claims : Members} {hints : List String × List String}
    (h : parseHints claims = .ok hints) :
    ∀ hint ∈ hints.1, isEntityIdentifier hint = true := by
  unfold parseHints at h
  obtain ⟨authorityHints, _, h⟩ := bind_eq_ok.mp h
  obtain ⟨trustAnchorHints, _, h⟩ := bind_eq_ok.mp h
  split at h
  · cases h
  · rename_i hnone
    cases h
    intro hint hmem
    have hall := List.find?_eq_none.mp hnone hint (List.mem_append_left _ hmem)
    simpa using hall

theorem isEntityIdentifier_ne_empty {value : String} (h : isEntityIdentifier value = true) :
    value ≠ "" := by
  rintro rfl
  revert h
  decide

/-- What a parsed statement says of its claims. -/
structure EntityStatement.ParsedFrom (p : FederationPlatform) (st : EntityStatement)
    (claims : Members) : Prop where
  issuer : requiredString claims "iss" = .ok st.issuer
  subject : requiredString claims "sub" = .ok st.subject
  issuer_identifier : isEntityIdentifier st.issuer = true
  subject_identifier : isEntityIdentifier st.subject = true
  jwks : parseJwks claims = .ok st.jwks
  metadata : parseMetadata p claims = .ok st.metadata
  hints : parseHints claims = .ok (st.authorityHints, st.trustAnchorHints)
  policy : parsePolicy p claims = .ok st.metadataPolicy

theorem parseEntityStatement_ok {claims : Members} {st : EntityStatement}
    (h : parseEntityStatement p claims = .ok st) : st.ParsedFrom p claims := by
  unfold parseEntityStatement at h
  obtain ⟨issuer, hiss, h⟩ := bind_eq_ok.mp h
  obtain ⟨subject, hsub, h⟩ := bind_eq_ok.mp h
  obtain ⟨_, hissuer, h⟩ := bind_eq_ok.mp h
  obtain ⟨_, hsubject, h⟩ := bind_eq_ok.mp h
  obtain ⟨issuedAt, _, h⟩ := bind_eq_ok.mp h
  obtain ⟨expiresAt, _, h⟩ := bind_eq_ok.mp h
  obtain ⟨_, _, h⟩ := bind_eq_ok.mp h
  obtain ⟨jwks, hjwks, h⟩ := bind_eq_ok.mp h
  obtain ⟨metadata, hmetadata, h⟩ := bind_eq_ok.mp h
  obtain ⟨hints, hhints, h⟩ := bind_eq_ok.mp h
  obtain ⟨policy, hpolicy, h⟩ := bind_eq_ok.mp h
  obtain ⟨constraints, _, h⟩ := bind_eq_ok.mp h
  obtain ⟨sourceEndpoint, _, h⟩ := bind_eq_ok.mp h
  obtain ⟨crit, _, h⟩ := bind_eq_ok.mp h
  have hst := pure_eq_ok.mp h
  subst hst
  have hissuer := raiseIf_ok hissuer
  have hsubject := raiseIf_ok hsubject
  exact ⟨hiss, hsub, by simpa using hissuer, by simpa using hsubject, hjwks, hmetadata,
    hhints, hpolicy⟩

namespace EntityStatement.ParsedFrom

variable {st : EntityStatement} {claims : Members}

theorem claims_iss (h : st.ParsedFrom p claims) : claims.get "iss" = some (.str st.issuer) :=
  (requiredString_ok h.issuer).1

theorem claims_sub (h : st.ParsedFrom p claims) : claims.get "sub" = some (.str st.subject) :=
  (requiredString_ok h.subject).1

theorem issuer_ne (h : st.ParsedFrom p claims) : st.issuer ≠ "" := (requiredString_ok h.issuer).2

theorem subject_ne (h : st.ParsedFrom p claims) : st.subject ≠ "" :=
  (requiredString_ok h.subject).2

theorem hint_ne (h : st.ParsedFrom p claims) {hint : String} (hmem : hint ∈ st.authorityHints) :
    hint ≠ "" :=
  isEntityIdentifier_ne_empty (parseHints_ok h.hints hint hmem)

end EntityStatement.ParsedFrom

variable (p)

/-! ## Trust chains -/

/-- The statements from the leaf to the trust anchor, with their JWTs. -/
structure TrustChain where
  statements : List EntityStatement
  tokens : List String := []

/-- `_apply_policy_operator`; `None` is `null`. -/
def applyPolicyOperator (parameter : String) (constraint values : Members) : Json :=
  match constraint.get "value" with
  | some value => value
  | none =>
      match constraint.get "default" with
      | some default => (values.get parameter).getD default
      | none => .null

/-- One parameter of a policy. -/
def applyConstraint (values : Members) : String × Json → Members
  | (parameter, .obj constraint) =>
      let resolved := applyPolicyOperator parameter constraint values
      if resolved.isNull then values else values.set parameter resolved
  | (_, _) => values

/-- One entity type of a policy. -/
def applyOperators (metadata : Dict String Members) : String × Json → Dict String Members
  | (entityType, .obj operators) =>
      match metadata.get entityType with
      | some values => metadata.set entityType (operators.foldl applyConstraint values)
      | none => metadata
  | (_, _) => metadata

/-- `_apply_metadata_policy` -/
def applyMetadataPolicy (policy : Members) (metadata : Dict String Members) :
    Dict String Members :=
  policy.foldl applyOperators metadata

namespace TrustChain

/-- The entity configuration of the leaf. -/
def subject (chain : TrustChain) : Except Fault EntityStatement :=
  match chain.statements with
  | [] => .error (.federation "Chaîne de confiance vide")
  | s :: _ => .ok s

/-- The entity configuration of the trust anchor. -/
def trustAnchor (chain : TrustChain) : Except Fault EntityStatement :=
  match chain.statements.getLast? with
  | none => .error (.federation "Chaîne de confiance vide")
  | some s => .ok s

/-- The statements above the leaf, from its immediate superior to the anchor. -/
def superiors (chain : TrustChain) : List EntityStatement := chain.statements.tail

/-- `resolved_metadata` -/
def resolvedMetadata (chain : TrustChain) : Except Fault (Dict String Members) := do
  let leaf ← chain.subject
  return chain.superiors.foldl
    (fun metadata s => applyMetadataPolicy (s.metadataPolicy.getD []) metadata) leaf.metadata

end TrustChain

/-! ## The derived client -/

/-- `_client_key_of` -/
def clientKeyOf : Json → Json
  | .obj key => .obj key
  | _ => .obj []

/-- `_client_keys` -/
def clientKeys (metadata : Members) : List Json × String :=
  let reference := match metadata.get "jwks_uri" with
    | some (.str uri) => uri
    | _ => ""
  match metadata.get "jwks" with
  | some (.obj jwks) =>
      match Dict.get jwks "keys" with
      | some (.arr keys) => (keys.map clientKeyOf, "")
      | _ => ([], reference)
  | _ => ([], reference)

/-- `str(value)` -/
def asText : Json → String
  | .str s => s
  | value => p.pyStr value

/-- `derive_client` -/
def deriveClient (entityIdentifier : String) (resolvedMetadata : Dict String Members) :
    Option Client :=
  match resolvedMetadata.get "openid_relying_party" with
  | none => none
  | some metadata =>
      match metadata.get "redirect_uris" with
      | some (.arr redirectUris) =>
          let keys := clientKeys metadata
          if redirectUris.isEmpty || (keys.1.isEmpty && keys.2 = "") then none
          else some {
            clientId := entityIdentifier
            redirectUris := (redirectUris.map (asText p)).toFinset
            scopes := {Scope.openid}
            clientType := .confidential
            tokenEndpointAuthMethod := some .privateKeyJwt
            jwks := keys.1, jwksUri := keys.2
            isActive := true, federated := true }
      | _ => none

end Federation

end PurIdentityServer

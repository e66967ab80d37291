import PurIdentityServer.Domain.Federation
import PurIdentityServer.Infrastructure.Jwt

/-!
# Federation — resolving trust chains

The verifier of entity statements and the use case that walks from an
entity configuration up to a trust anchor. The entity fetcher is any
function of a state it may change, so it answers what it likes at each
call, also two different answers for one URL. The walk follows hints the
entities choose and need not end: `resolveChainFrom` takes the number of
superiors it may visit and says when that was not enough.
-/

namespace PurIdentityServer

open Effects

namespace Federation

/-! ## Verifying an entity statement -/

/-- `FederationConfig` -/
structure FederationConfig where
  entityIdentifier : String
  trustAnchors : List String := []
  statementTtlSeconds : Int := 3600

/-- The fetcher and the clock of the use case, over the state `σ` of the outside. -/
structure Outside (σ : Type) where
  fetchEntityStatement : String → σ → Option String × σ
  now : σ → Instant

variable {κ σ : Type} (p : FederationPlatform) (jwt : PyJwt κ)

/-- The `kid` of a statement whose header has the expected `typ`. -/
def statementHeader (token : String) : Option String :=
  match jwt.header token with
  | none => none
  | some header =>
      match header.get "typ", header.get "kid" with
      | some (.str typ), some (.str kid) =>
          if typ = entityStatementTyp ∧ kid ≠ "" then some kid else none
      | _, _ => none

/-- Whether a JWK carries the `kid`. -/
def hasKid (kid : String) (jwk : Members) : Bool :=
  match jwk.get "kid" with
  | some (.str value) => value = kid
  | _ => false

/-- `_candidate_keys` -/
def candidateKeys (jwks : Members) (kid : String) : List Members :=
  match jwks.get "keys" with
  | some (.arr keys) => (keys.filterMap Json.asMembers).filter (hasKid kid)
  | _ => []

/-- `_algorithm_of` -/
def algorithmOf (jwk : Members) : String :=
  match jwk.get "alg" with
  | some (.str algorithm) => if algorithm = "" then "RS256" else algorithm
  | _ => "RS256"

/-- `expected and claims.get(name) != expected` -/
def differs (claims : Members) (name expected : String) : Bool :=
  expected ≠ "" &&
    match claims.get name with
    | some (.str value) => value ≠ expected
    | _ => true

def statementOptions : DecodeOptions where
  require := ["iss", "sub", "iat", "exp"]
  verifyAud := false

/-- `_verify_with` -/
def verifyWith (now : Instant) (token issuer subject : String) (candidate : Members) :
    Except Fault (Option Members) :=
  match jwt.publicKey candidate with
  | none => .ok none
  | some key =>
      match jwt.decode statementOptions now token key [algorithmOf candidate] with
      | .ok claims =>
          .ok (if differs claims "iss" issuer || differs claims "sub" subject then none
            else some claims)
      | .error e => if e.isPyJWTError then .ok none else .error .conversion

/-- The first candidate that verifies the statement. -/
def verifyAmong (now : Instant) (token issuer subject : String) :
    List Members → Except Fault (Option Members)
  | [] => .ok none
  | candidate :: rest => do
      match ← verifyWith jwt now token issuer subject candidate with
      | some claims => .ok (some claims)
      | none => verifyAmong now token issuer subject rest

/-- `verify_entity_statement` -/
def verifyEntityStatement (now : Instant) (token : String) (jwks : Members)
    (issuer subject : String) : Except Fault (Option Members) :=
  match statementHeader jwt token with
  | none => .ok none
  | some kid => verifyAmong jwt now token issuer subject (candidateKeys jwks kid)

/-- `parse_entity_statement`, its own refusals caught. -/
def parseOrNone (claims : Members) : Except Fault (Option EntityStatement) :=
  match parseEntityStatement p claims with
  | .ok statement => .ok (some statement)
  | .error .conversion => .error .conversion
  | .error _ => .ok none

/-! ## The use case -/

/-- A step of the use case: it may change the outside, and may raise. -/
abbrev Use (σ α : Type) := StateT σ (Except Fault) α

variable (config : FederationConfig) (outside : Outside σ)

/-- Ask the fetcher. -/
def fetch (url : String) : Use σ (Option String) := fun s =>
  .ok (outside.fetchEntityStatement url s)

/-- `verify_entity_statement` followed by `parse_entity_statement`. -/
def verifiedStatement (token : String) (jwks : Members) (issuer subject : String) :
    Use σ (Option (EntityStatement × String)) := fun s => do
  match ← verifyEntityStatement jwt (outside.now s) token jwks issuer subject with
  | none => return (none, s)
  | some claims =>
      let statement ← parseOrNone p claims
      return (statement.map fun st => (st, token), s)

/-- `ENTITY_CONFIGURATION_PATH` -/
def entityConfigurationPath : String := "/.well-known/openid-federation"

/-- `_fetch_configuration` -/
def fetchConfiguration (entityIdentifier : String) : Use σ (Option (EntityStatement × String)) := do
  match ← fetch outside (Text.rstripSlash entityIdentifier ++ entityConfigurationPath) with
  | none => return none
  | some token =>
      match (jwt.payload token).bind fun claims => claims.get "jwks" with
      | some (.obj jwks) =>
          verifiedStatement p jwt outside token jwks entityIdentifier entityIdentifier
      | _ => return none

/-- `_federation_endpoint` -/
def federationEndpoint (statement : EntityStatement) (name : String) : String :=
  match (statement.metadata.get "federation_entity").bind fun metadata => metadata.get name with
  | some (.str value) => value
  | _ => ""

/-- `_fetch_subordinate_statement` -/
def fetchSubordinateStatement (superior : EntityStatement) (subject : String) :
    Use σ (Option (EntityStatement × String)) := do
  let endpoint := federationEndpoint superior "federation_fetch_endpoint"
  if endpoint = "" then
    return none
  else
    let separator := if '?' ∈ endpoint.toList then "&" else "?"
    match ← fetch outside (endpoint ++ separator ++ "sub=" ++ subject) with
    | none => return none
    | some token =>
        verifiedStatement p jwt outside token superior.jwks superior.issuer subject

/-- `_next_superior`: the first hint not seen yet whose configuration is
valid, and what has been seen then. -/
def nextSuperior : List String → List String → Use σ (Option (EntityStatement × List String))
  | [], _ => return none
  | hint :: rest, seen =>
      if hint ∈ seen then nextSuperior rest seen
      else do
        match ← fetchConfiguration p jwt outside hint with
        | some fetched => return some (fetched.1, hint :: seen)
        | none => nextSuperior rest seen

/-- `_is_trust_anchor` -/
def isTrustAnchor (statement : EntityStatement) (trustAnchor : String) : Bool :=
  statement.isSelfSigned &&
    (if trustAnchor ≠ "" then statement.issuer = trustAnchor
      else statement.issuer ∈ config.trustAnchors || statement.authorityHints.isEmpty)

/-- `_subject_attested_keys` -/
def subjectAttestedKeys (token : String) (subject superior : EntityStatement) : Use σ Bool :=
  fun s => do
    let attested ←
      verifyEntityStatement jwt (outside.now s) token superior.jwks subject.issuer subject.subject
    return (attested.isSome, s)

/-- How a resolution ends. -/
inductive Resolution where
  | unresolved
  | resolved (chain : TrustChain)
  | climbing

/-- The end of `resolve_chain_from`, once the walk stands at an anchor. -/
def anchorChain (trustAnchor : String) (current : EntityStatement)
    (chain : List EntityStatement) (tokens : List String) : Use σ Resolution := do
  let anchorIdentifier := if trustAnchor ≠ "" then trustAnchor else current.issuer
  if config.trustAnchors ≠ [] ∧ anchorIdentifier ∉ config.trustAnchors then
    return .unresolved
  else
    match ← fetchConfiguration p jwt outside anchorIdentifier with
    | none => return .unresolved
    | some fetched =>
        let attested ← (match chain, tokens with
          | subject :: superior :: _, token :: _ =>
              subjectAttestedKeys jwt outside token subject superior
          | _, _ => return true : Use σ Bool)
        if attested then
          return .resolved ⟨chain ++ [fetched.1], tokens ++ [fetched.2]⟩
        else
          return .unresolved

/-- The loop of `resolve_chain_from`, over at most `fuel` superiors. -/
def climb (trustAnchor subject : String) : (fuel : Nat) → (current : EntityStatement) →
    (seen : List String) → (chain : List EntityStatement) → (tokens : List String) →
    Use σ Resolution
  | fuel, current, seen, chain, tokens =>
      if isTrustAnchor config current trustAnchor then
        anchorChain p jwt config outside trustAnchor current chain tokens
      else
        match fuel with
        | 0 => return .climbing
        | fuel + 1 => do
            match ← nextSuperior p jwt outside current.authorityHints seen with
            | none => return .unresolved
            | some (superior, seen) =>
                match ← fetchSubordinateStatement p jwt outside superior subject with
                | none => return .unresolved
                | some subordinate =>
                    climb trustAnchor subject fuel superior seen
                      (chain ++ [subordinate.1]) (tokens ++ [subordinate.2])

/-- `resolve_chain_from` -/
def resolveChainFrom (fuel : Nat) (statement : EntityStatement)
    (trustAnchor statementToken : String) : Use σ Resolution :=
  climb p jwt config outside trustAnchor statement.subject fuel statement [statement.subject]
    [statement] [statementToken]

/-- `resolve_trust_chain` -/
def resolveTrustChain (fuel : Nat) (subject trustAnchor : String) : Use σ Resolution := do
  match ← fetchConfiguration p jwt outside subject with
  | none => return .unresolved
  | some fetched => resolveChainFrom p jwt config outside fuel fetched.1 trustAnchor fetched.2

/-! ## Registration -/

/-- `_is_single_audience` -/
def isSingleAudience (audience : Option Json) (expected : String) : Bool :=
  match audience with
  | some (.str name) => name = expected
  | some (.arr [.str name]) => name = expected
  | _ => false

/-- `_validated_registration_statement` -/
def validatedRegistrationStatement (token : String) : Use σ EntityStatement := fun s =>
  match jwt.payload token with
  | none => .error (.registration "invalid_client" "Entity configuration illisible")
  | some unverified =>
      match unverified.get "iss", unverified.get "sub" with
      | some (.str issuer), some (.str subject) =>
          if issuer = "" ∨ issuer ≠ subject then
            .error (.registration "invalid_client"
              "'iss' et 'sub' doivent valoir l'Entity Identifier du RP")
          else
            match unverified.get "jwks" with
            | some (.obj jwks) => do
                match ← verifyEntityStatement jwt (outside.now s) token jwks issuer subject with
                | none => .error (.registration "invalid_client"
                    "Signature, typ ou expiration de l'entity configuration invalides")
                | some verified =>
                    if !isSingleAudience (verified.get "aud") config.entityIdentifier then
                      .error (.registration "invalid_client"
                        "'aud' doit valoir l'Entity Identifier de l'OP (§12.2.1)")
                    else
                      match verified.get "authority_hints" with
                      | some (.arr (_ :: _)) =>
                          match parseEntityStatement p verified with
                          | .ok statement => .ok (statement, s)
                          | .error (.federation message) =>
                              .error (.registration "invalid_client" message)
                          | .error e => .error e
                      | _ => .error (.registration "invalid_trust_chain"
                          "'authority_hints' requis pour résoudre la chaîne (§12.2.1)")
            | _ => .error (.registration "invalid_client" "'jwks' du RP requis (§12.2.1)")
      | _, _ => .error (.registration "invalid_client"
          "'iss' et 'sub' doivent valoir l'Entity Identifier du RP")

/-- An integer claim. -/
def intClaim (n : Int) : Json := .num (toString n)

/-- `_chain_expiration` -/
def chainExpiration (chain : TrustChain) : Int :=
  match chain.statements with
  | [] => 0
  | s :: rest => rest.foldl (fun least t => min least t.expiresAt.epoch) s.expiresAt.epoch

/-- `_immediate_superior` -/
def immediateSuperior (chain : TrustChain) : String :=
  match chain.statements with
  | _ :: superior :: _ => superior.issuer
  | [anchor] => anchor.issuer
  | [] => ""

/-- `_registration_claims`; a derived client authenticates by `private_key_jwt`. -/
def registrationClaims (now : Instant) (statement : EntityStatement) (chain : TrustChain)
    (anchor : EntityStatement) (resolved : Dict String Members) (client : Client) : Members :=
  let metadata := (resolved.get "openid_relying_party").getD []
  let registered := (metadata.set "client_id" (.str client.clientId)).set
    "token_endpoint_auth_method" (.str "private_key_jwt")
  [("iss", .str config.entityIdentifier), ("sub", .str statement.subject),
    ("iat", intClaim now.epoch), ("exp", intClaim (chainExpiration chain)),
    ("aud", .str statement.subject), ("trust_anchor", .str anchor.issuer),
    ("authority_hints", .arr [.str (immediateSuperior chain)]),
    ("metadata", .obj [("openid_relying_party", .obj registered)]),
    ("jwks", .obj statement.jwks)]

/-- `explicit_register`, up to the claims it signs; `none` while the walk is
not over. -/
def explicitRegister (fuel : Nat) (entityConfiguration : String) : Use σ (Option Members) := do
  let statement ← validatedRegistrationStatement p jwt config outside entityConfiguration
  match ← resolveChainFrom p jwt config outside fuel statement "" entityConfiguration with
  | .climbing => return none
  | .unresolved =>
      throw (.registration "invalid_trust_chain" "Chaîne de confiance du RP non résolue")
  | .resolved chain =>
      let resolved ← (chain.resolvedMetadata : Except Fault _)
      let anchor ← (chain.trustAnchor : Except Fault _)
      match deriveClient p statement.subject resolved with
      | none =>
          throw (.registration "invalid_client_metadata"
            ("metadata openid_relying_party incomplètes (redirect_uris et clés " ++
              "requises : jwks inline ou jwks_uri)"))
      | some client =>
          let s ← get
          return some (registrationClaims config (outside.now s) statement chain anchor
            resolved client)

/-- `resolve_entity`, up to the claims it signs; `none` when it answers none. -/
def resolveEntity (fuel : Nat) (subject trustAnchor : String) : Use σ (Option Members) := do
  match ← resolveTrustChain p jwt config outside fuel subject trustAnchor with
  | .resolved chain =>
      let resolved ← (chain.resolvedMetadata : Except Fault _)
      let s ← get
      return some
        [("iss", .str config.entityIdentifier), ("sub", .str subject),
          ("iat", intClaim (outside.now s).epoch), ("exp", intClaim (chainExpiration chain)),
          ("metadata", .obj (resolved.map fun entry => (entry.1, .obj entry.2))),
          ("trust_chain", .arr (chain.tokens.map .str))]
  | _ => return none

/-- `TrustChainClientResolver.resolve` -/
def resolveClient (fuel : Nat) (entityIdentifier : String) : Use σ (Option Client) := do
  match ← resolveTrustChain p jwt config outside fuel entityIdentifier "" with
  | .resolved chain =>
      let resolved ← (chain.resolvedMetadata : Except Fault _)
      return deriveClient p entityIdentifier resolved
  | _ => return none

end Federation

end PurIdentityServer

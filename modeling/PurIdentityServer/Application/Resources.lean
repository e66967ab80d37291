import PurIdentityServer.Application.ClientAuth

/-!
# Resources — resource indicators and the scope registry

`parseResourceParameter` reads the `resource` parameter into a list of
distinct URIs, `ScopeRegistry` knows the registered scopes and resources
and gives an access token its audience.
-/

namespace PurIdentityServer

open Effects

section
variable {ε : Type} (p : Platform)

/-! ## The `resource` parameter -/

/-- The values `parse_resource_parameter` goes through: the items of a JSON
array, or the text itself. -/
def resourceCandidates (raw : String) : List Json :=
  if Text.startsWith raw "[" then
    match p.jsonLoads raw with
    | none => [.str raw]
    | some (.arr items) => items
    | some decoded => [decoded]
  else [.str raw]

/-- `candidate.strip()` for a string, `str(candidate)` otherwise. -/
def resourceText : Json → String
  | .str s => Text.strip s
  | j => p.pyStr j

/-- `parse_resource_parameter`. -/
def parseResourceParameter (value : String) : List String :=
  let raw := Text.strip value
  if raw = "" then []
  else
    Text.dedupFirst
      (((resourceCandidates p raw).map (resourceText p)).filter (· ≠ "")) []

/-- `encode_resource_parameter`; `dumps` is `json.dumps(values,
ensure_ascii=False)` with compact separators. -/
def encodeResourceParameter (dumps : List String → String) (values : List String) :
    String :=
  match Text.dedupFirst ((values.map Text.strip).filter (· ≠ "")) [] with
  | [] => ""
  | [value] => value
  | ordered => dumps ordered

/-- `resource_audience`. -/
def resourceAudience : List String → Audience
  | [resource] => .one resource
  | resources => .many resources

@[simp] theorem resourceAudience_toList (resources : List String) :
    (resourceAudience resources).toList = resources := by
  match resources with
  | [] => rfl
  | [_] => rfl
  | _ :: _ :: _ => rfl

/-- `is_resource_uri`. -/
def isResourceUri (value : String) : Raising Bool :=
  if value = "" then .ok false
  else do
    let parts ← p.urlsplit value
    .ok (parts.scheme ≠ "" && parts.netloc ≠ "" && parts.fragment = "")

/-- The URIs of a list that are no resource indicators. -/
def malformedResources : List String → Raising (List String)
  | [] => .ok []
  | uri :: rest => do
      let wellFormed ← isResourceUri p uri
      let others ← malformedResources rest
      .ok (if wellFormed then others else uri :: others)

/-! ## The scope registry -/

/-- The names of `DEFAULT_IDENTITY_RESOURCES`. -/
def defaultIdentityScopes : Finset String :=
  {"openid", "profile", "email", "address", "phone", "offline_access"}

/-- `ScopeRegistry`; the flags tell which readers are injected. -/
structure ScopeRegistry where
  identityResources : Bool := false
  apiResources : Bool := false
  extraScopes : Finset String := ∅

namespace ScopeRegistry

def unionScopes : List ApiResource → Finset String
  | [] => ∅
  | r :: rest => r.scopes ∪ unionScopes rest

/-- `ScopeRegistry.known_scope_names`. -/
def knownScopeNames (registry : ScopeRegistry) : M ε (Finset String) := do
  let identity ← (if registry.identityResources then ask .findIdentityResources
    else pure [] : M ε (List IdentityResource))
  let api ← (if registry.apiResources then ask .findApiResources
    else pure [] : M ε (List ApiResource))
  pure (defaultIdentityScopes ∪ registry.extraScopes ∪
    (identity.map IdentityResource.name).toFinset ∪ unionScopes api)

/-- `ScopeRegistry.unknown_scopes`. -/
def unknownScopes (registry : ScopeRegistry) (scopes : Finset Scope) :
    M ε (List String) := do
  let known ← registry.knownScopeNames
  pure (Text.sorted (scopes \ known))

/-- `ScopeRegistry.unknown_resources`. -/
def unknownResources (registry : ScopeRegistry) (resources : List String) :
    M ε (List String) :=
  if ¬ registry.apiResources ∨ resources = [] then pure []
  else do
    let stored ← ask .findApiResources
    let known := (stored.map ApiResource.indicator).filter (· ≠ "")
    pure (resources.filter fun uri => uri ∉ known)

/-- `ScopeRegistry.audiences_for`. -/
def audiencesFor (registry : ScopeRegistry) (clientId : String) (scopes : Finset Scope) :
    M ε Audience :=
  if ¬ registry.apiResources then pure (.one clientId)
  else do
    let stored ← ask .findApiResources
    let audiences :=
      (stored.filter fun r => ¬ Disjoint r.scopes scopes).map ApiResource.name
    match audiences with
    | [] => pure (.one clientId)
    | [audience] => pure (.one audience)
    | _ => pure (.many (audiences.insertionSort (· ≤ ·)))

theorem knownScopeNames_uses (registry : ScopeRegistry) :
    (registry.knownScopeNames : M ε _).Uses (Call.In [.passive]) := by
  unfold knownScopeNames
  refine Prog.uses_bind ?_ fun identity => Prog.uses_bind ?_ fun api => Prog.uses_pure _ _
  · split
    · exact Prog.uses_op rfl
    · exact Prog.uses_pure _ _
  · split
    · exact Prog.uses_op rfl
    · exact Prog.uses_pure _ _

theorem unknownScopes_uses (registry : ScopeRegistry) (scopes : Finset Scope) :
    (registry.unknownScopes scopes : M ε _).Uses (Call.In [.passive]) :=
  Prog.uses_bind (knownScopeNames_uses registry) fun _ => Prog.uses_pure _ _

theorem unknownResources_uses (registry : ScopeRegistry) (resources : List String) :
    (registry.unknownResources resources : M ε _).Uses (Call.In [.passive]) := by
  unfold unknownResources
  split
  · exact Prog.uses_pure _ _
  · exact Prog.uses_bind (Prog.uses_op rfl) fun _ => Prog.uses_pure _ _

theorem audiencesFor_uses (registry : ScopeRegistry) (clientId : String)
    (scopes : Finset Scope) :
    (registry.audiencesFor clientId scopes : M ε _).Uses (Call.In [.passive]) := by
  unfold audiencesFor
  split
  · exact Prog.uses_pure _ _
  · refine Prog.uses_bind (Prog.uses_op rfl) fun stored => ?_
    dsimp only
    split <;> exact Prog.uses_pure _ _

end ScopeRegistry

end

end PurIdentityServer

import PurIdentityServer.Application.TrustChains

/-!
# MetadataPolicies — which policy operators reach the resolved metadata

A superior's metadata policy names operators of seven kinds. The
resolution applies two, `value` and `default`; the validation accepts all
seven. What a parameter resolves to is given in closed form
(`resolved_value`): the last `value` operand of the chain, or the leaf's
own declaration, or the first `default`. The operators of a chain all
hold of that value exactly when the chain is `Compliant`, which is a
condition on the policies and the leaf's declaration alone.
-/

namespace PurIdentityServer

open Effects

namespace Federation

/-! ## The operators -/

inductive PolicyOperator where
  | value | add | default | oneOf | subsetOf | supersetOf | essential
  deriving DecidableEq, Repr

namespace PolicyOperator

def name : PolicyOperator → String
  | .value => "value"
  | .add => "add"
  | .default => "default"
  | .oneOf => "one_of"
  | .subsetOf => "subset_of"
  | .supersetOf => "superset_of"
  | .essential => "essential"

def all : List PolicyOperator := [value, add, default, oneOf, subsetOf, supersetOf, essential]

example : all.map name = standardMetadataPolicyOperators := by decide

/-- The operator, with its operand, holds of the value a parameter resolved to. -/
def Holds (operand : Json) (resolved : Option Json) : PolicyOperator → Prop
  | .value => resolved = if operand.isNull then none else some operand
  | .add => ∃ values added, resolved = some (.arr values) ∧ operand = .arr added ∧
      ∀ v ∈ added, v ∈ values
  | .default => resolved ≠ none
  | .oneOf => ∀ v, resolved = some v → ∃ allowed, operand = .arr allowed ∧ v ∈ allowed
  | .subsetOf => ∀ v, resolved = some v → ∃ values allowed, v = .arr values ∧
      operand = .arr allowed ∧ ∀ x ∈ values, x ∈ allowed
  | .supersetOf => ∀ v, resolved = some v → ∃ values required, v = .arr values ∧
      operand = .arr required ∧ ∀ x ∈ required, x ∈ values
  | .essential => operand.truthy = true → resolved ≠ none

/-- The operators the resolution never looks at. -/
def isApplied : PolicyOperator → Bool
  | .value => true
  | .default => true
  | _ => false

end PolicyOperator

/-! ## The constraints on a parameter -/

/-- The objects a dictionary gives for a name. -/
def objectsAt (items : Members) (name : String) : List Members :=
  ((items.filter fun item => item.1 = name).map Prod.snd).filterMap Json.asMembers

/-- What a policy says of a parameter of an entity type. -/
def constraintsOf (policy : Members) (entityType parameter : String) : List Members :=
  (objectsAt policy entityType).flatMap fun operators => objectsAt operators parameter

namespace TrustChain

/-- What the superiors say of a parameter, from the immediate superior to the anchor. -/
def constraints (chain : TrustChain) (entityType parameter : String) : List Members :=
  chain.superiors.flatMap fun s => constraintsOf (s.metadataPolicy.getD []) entityType parameter

/-- The value of a parameter in metadata by entity type. -/
def valueIn (metadata : Dict String Members) (entityType parameter : String) : Option Json :=
  (metadata.get entityType).bind fun values => values.get parameter

/-- Every operator of every superior's policy, on the entity types the leaf
declares, holds of what its parameter resolved to. -/
def Enforced (chain : TrustChain) (leaf : EntityStatement) (resolved : Dict String Members) :
    Prop :=
  ∀ entityType values, leaf.metadata.get entityType = some values →
    ∀ parameter, ∀ constraint ∈ chain.constraints entityType parameter,
      ∀ (operator : PolicyOperator) (operand : Json),
        constraint.get operator.name = some operand →
          operator.Holds operand (valueIn resolved entityType parameter)

end TrustChain

/-! ## What a parameter resolves to -/

/-- A `value` operand that is applied: `null` is skipped. -/
def fixedValue (constraint : Members) : Option Json :=
  (constraint.get "value").bind fun v => if v.isNull then none else some v

/-- A `default` operand that is applied where the parameter is absent. -/
def defaultValue (constraint : Members) : Option Json :=
  match constraint.get "value" with
  | some _ => none
  | none => (constraint.get "default").bind fun v => if v.isNull then none else some v

/-- What a constraint makes of a parameter. -/
def settle (current : Option Json) (constraint : Members) : Option Json :=
  match fixedValue constraint with
  | some v => some v
  | none => current.or (defaultValue constraint)

/-- The last `value` operand, or the declaration, or the first `default`. -/
def settled (constraints : List Members) (declared : Option Json) : Option Json :=
  ((constraints.filterMap fixedValue).getLast?.or declared).or
    (constraints.filterMap defaultValue).head?

theorem foldl_settle (constraints : List Members) (declared : Option Json) :
    constraints.foldl settle declared = settled constraints declared := by
  induction constraints generalizing declared with
  | nil => simp [settled]
  | cons constraint rest ih =>
      rw [List.foldl_cons, ih]
      unfold settled settle
      cases hfixed : fixedValue constraint with
      | some v =>
          have hnot : defaultValue constraint = none := by
            unfold fixedValue at hfixed
            unfold defaultValue
            cases hvalue : constraint.get "value" with
            | none => rw [hvalue] at hfixed; cases hfixed
            | some _ => rfl
          simp only [List.filterMap_cons, hfixed, hnot]
          rw [List.getLast?_cons]
          cases (rest.filterMap fixedValue).getLast? <;> simp
      | none =>
          simp only [List.filterMap_cons, hfixed]
          cases (rest.filterMap fixedValue).getLast? with
          | some _ => simp
          | none =>
              cases declared <;> cases defaultValue constraint <;> simp

theorem applyConstraint_get (values : Members) (item : String × Json) :
    (applyConstraint values item).get item.1 = match item.2 with
      | .obj constraint => settle (values.get item.1) constraint
      | _ => values.get item.1 := by
  obtain ⟨parameter, operand⟩ := item
  cases operand with
  | obj constraint =>
      cases hvalue : Dict.get constraint "value" with
      | some v =>
          have hop : applyPolicyOperator parameter constraint values = v := by
            simp [applyPolicyOperator, hvalue]
          have hfixed : fixedValue constraint = if v.isNull then none else some v := by
            simp [fixedValue, hvalue]
          have hnone : defaultValue constraint = none := by simp [defaultValue, hvalue]
          simp only [applyConstraint, settle, hop, hfixed, hnone]
          by_cases hnull : v.isNull = true <;> simp [hnull]
      | none =>
          have hfixed : fixedValue constraint = none := by simp [fixedValue, hvalue]
          cases hdefault : Dict.get constraint "default" with
          | none =>
              have hop : applyPolicyOperator parameter constraint values = .null := by
                simp [applyPolicyOperator, hvalue, hdefault]
              have hnone : defaultValue constraint = none := by
                simp [defaultValue, hvalue, hdefault]
              simp [applyConstraint, settle, hop, hfixed, hnone, Json.isNull]
          | some d =>
              have hop : applyPolicyOperator parameter constraint values
                  = (values.get parameter).getD d := by
                simp [applyPolicyOperator, hvalue, hdefault]
              have hsome : defaultValue constraint = if d.isNull then none else some d := by
                simp [defaultValue, hvalue, hdefault]
              simp only [applyConstraint, settle, hop, hfixed, hsome]
              cases hcurrent : values.get parameter with
              | none => by_cases hnull : d.isNull = true <;> simp [hnull, hcurrent]
              | some v => by_cases hnull : v.isNull = true <;> simp [hnull, hcurrent]
  | _ => rfl

theorem applyConstraint_get_of_ne (values : Members) (item : String × Json) {name : String}
    (h : name ≠ item.1) : (applyConstraint values item).get name = values.get name := by
  obtain ⟨parameter, operand⟩ := item
  cases operand with
  | obj constraint =>
      simp only [applyConstraint]
      split
      · rfl
      · exact Dict.get_set_of_ne _ h _
  | _ => rfl

/-- One policy, at one parameter of one entity type. -/
theorem get_foldl_applyConstraint (operators : Members) (values : Members) (parameter : String) :
    (operators.foldl applyConstraint values).get parameter
      = (objectsAt operators parameter).foldl settle (values.get parameter) := by
  rw [Dict.get_foldl_filter (g := fun v operand => match operand with
      | .obj constraint => settle v constraint
      | _ => v) applyConstraint_get (fun d i k => applyConstraint_get_of_ne d i),
    objectsAt, List.foldl_filterMap]
  congr 1
  funext v operand
  cases operand <;> rfl

theorem applyOperators_get (metadata : Dict String Members) (item : String × Json) :
    (applyOperators metadata item).get item.1 = match item.2 with
      | .obj operators => (metadata.get item.1).map (operators.foldl applyConstraint)
      | _ => metadata.get item.1 := by
  obtain ⟨entityType, operators⟩ := item
  cases operators with
  | obj operators =>
      simp only [applyOperators]
      cases hvalues : metadata.get entityType with
      | none => simp [hvalues]
      | some values => simp
  | _ => rfl

theorem applyOperators_get_of_ne (metadata : Dict String Members) (item : String × Json)
    {name : String} (h : name ≠ item.1) :
    (applyOperators metadata item).get name = metadata.get name := by
  obtain ⟨entityType, operators⟩ := item
  cases operators with
  | obj operators =>
      simp only [applyOperators]
      split
      · exact Dict.get_set_of_ne _ h _
      · rfl
  | _ => rfl

/-- The values an entity type has, through a list of operators on it. -/
theorem foldl_declared (items : List Json) (values : Members) :
    items.foldl (fun (current : Option Members) operators => match operators with
        | .obj operators => current.map (operators.foldl applyConstraint)
        | _ => current) (some values)
      = some ((items.filterMap Json.asMembers).foldl
          (fun values operators => operators.foldl applyConstraint values) values) := by
  induction items generalizing values with
  | nil => rfl
  | cons operators rest ih =>
      rw [List.foldl_cons]
      cases operators with
      | obj operators => exact ih _
      | _ => exact ih values

/-- A policy at a parameter of a declared entity type. -/
theorem applyMetadataPolicy_get (policy : Members) {values : Members}
    {metadata : Dict String Members} {entityType : String} (h : metadata.get entityType = some values) (parameter : String) :
    ∃ values', (applyMetadataPolicy policy metadata).get entityType = some values' ∧
      values'.get parameter
        = (constraintsOf policy entityType parameter).foldl settle (values.get parameter) := by
  unfold applyMetadataPolicy
  rw [Dict.get_foldl_filter (g := fun current operators => match operators with
      | .obj operators => current.map (operators.foldl applyConstraint)
      | _ => current) applyOperators_get (fun d i k => applyOperators_get_of_ne d i), h,
    foldl_declared]
  refine ⟨_, rfl, ?_⟩
  rw [Dict.get_foldl (g := fun current operators =>
      (objectsAt operators parameter).foldl settle current)
    (fun values operators => get_foldl_applyConstraint operators values parameter),
    constraintsOf, List.foldl_flatMap, objectsAt]

/-- The policies of a chain, one after the other. -/
theorem foldl_policies_get (superiors : List EntityStatement) {values : Members}
    {metadata : Dict String Members} {entityType : String}
    (h : metadata.get entityType = some values) (parameter : String) :
    ∃ values', (superiors.foldl
          (fun metadata s => applyMetadataPolicy (s.metadataPolicy.getD []) metadata)
          metadata).get entityType = some values' ∧
      values'.get parameter = (superiors.flatMap fun s =>
        constraintsOf (s.metadataPolicy.getD []) entityType parameter).foldl settle
          (values.get parameter) := by
  induction superiors generalizing metadata values with
  | nil => exact ⟨values, h, rfl⟩
  | cons s rest ih =>
      obtain ⟨between, hbetween, hvalue⟩ :=
        applyMetadataPolicy_get (s.metadataPolicy.getD []) h parameter
      obtain ⟨values', hvalues', hvalue'⟩ := ih hbetween
      refine ⟨values', hvalues', ?_⟩
      rw [hvalue', hvalue, List.flatMap_cons, List.foldl_append]

/-- What a parameter of the leaf resolves to. -/
theorem resolved_value {chain : TrustChain} {leaf : EntityStatement}
    {resolved : Dict String Members} (hleaf : chain.subject = .ok leaf)
    (h : chain.resolvedMetadata = .ok resolved) {entityType : String} {values : Members}
    (hvalues : leaf.metadata.get entityType = some values) (parameter : String) :
    TrustChain.valueIn resolved entityType parameter
      = settled (chain.constraints entityType parameter) (values.get parameter) := by
  unfold TrustChain.resolvedMetadata at h
  obtain ⟨leaf', hleaf', h⟩ := bind_eq_ok.mp h
  cases hleaf.symm.trans hleaf'
  have hresolved := pure_eq_ok.mp h
  obtain ⟨values', hget, hvalue⟩ := foldl_policies_get chain.superiors hvalues parameter
  rw [hresolved] at hget
  rw [TrustChain.valueIn, hget, Option.bind_some, hvalue, foldl_settle]
  rfl

/-! ## Compliance -/

/-- What makes the operators on a parameter all hold: every `value` operand is
the last one, and `null` only where nothing gives a value; a `default` is not
`null` where nothing else gives one; and the operators never applied hold as
it is of the value the others settle on. -/
structure Compliant (constraints : List Members) (declared : Option Json) : Prop where
  value : ∀ constraint ∈ constraints, ∀ operand, constraint.get "value" = some operand →
    if operand.isNull then
      constraints.filterMap fixedValue = [] ∧ declared = none ∧
        constraints.filterMap defaultValue = []
    else (constraints.filterMap fixedValue).getLast? = some operand
  default : ∀ constraint ∈ constraints, ∀ operand, constraint.get "default" = some operand →
    constraints.filterMap fixedValue ≠ [] ∨ declared ≠ none ∨
      constraints.filterMap defaultValue ≠ []
  others : ∀ constraint ∈ constraints, ∀ (operator : PolicyOperator) (operand : Json),
    operator.isApplied = false → constraint.get operator.name = some operand →
      operator.Holds operand (settled constraints declared)

theorem settled_eq_none {constraints : List Members} {declared : Option Json} :
    settled constraints declared = none ↔ constraints.filterMap fixedValue = [] ∧
      declared = none ∧ constraints.filterMap defaultValue = [] := by
  unfold settled
  rw [Option.or_eq_none_iff, Option.or_eq_none_iff, List.getLast?_eq_none_iff,
    List.head?_eq_none_iff, and_assoc]

theorem settled_of_fixed {constraints : List Members} {declared : Option Json} {v : Json}
    (h : (constraints.filterMap fixedValue).getLast? = some v) :
    settled constraints declared = some v := by
  rw [settled, h]
  rfl

theorem mem_fixed {constraints : List Members} {constraint : Members} {v : Json}
    (hmem : constraint ∈ constraints) (hvalue : constraint.get "value" = some v)
    (hnull : v.isNull = false) : v ∈ constraints.filterMap fixedValue :=
  List.mem_filterMap.mpr ⟨constraint, hmem, by simp [fixedValue, hvalue, hnull]⟩

/-- The operators on a parameter hold of what it resolves to exactly when they comply. -/
theorem compliant_iff {constraints : List Members} {declared : Option Json} :
    (∀ constraint ∈ constraints, ∀ (operator : PolicyOperator) (operand : Json),
      constraint.get operator.name = some operand →
        operator.Holds operand (settled constraints declared)) ↔
      Compliant constraints declared := by
  constructor
  · intro h
    refine ⟨?_, ?_, fun constraint hmem operator operand _ hget =>
      h constraint hmem operator operand hget⟩
    · intro constraint hmem operand hget
      have hholds : settled constraints declared
          = if operand.isNull then none else some operand := h constraint hmem .value operand hget
      by_cases hnull : operand.isNull = true
      · rw [if_pos hnull] at hholds ⊢
        exact settled_eq_none.mp hholds
      · rw [if_neg hnull] at hholds ⊢
        have hin := mem_fixed hmem hget (Bool.eq_false_iff.mpr hnull)
        cases hlast : (constraints.filterMap fixedValue).getLast? with
        | none =>
            rw [List.getLast?_eq_none_iff.mp hlast] at hin
            cases hin
        | some v =>
            rw [settled_of_fixed hlast] at hholds
            exact hholds
    · intro constraint hmem operand hget
      have hholds : settled constraints declared ≠ none := h constraint hmem .default operand hget
      rw [Ne, settled_eq_none] at hholds
      tauto
  · intro h constraint hmem operator operand hget
    cases operator with
    | value =>
        have hvalue := h.value constraint hmem operand hget
        show settled constraints declared = if operand.isNull then none else some operand
        by_cases hnull : operand.isNull = true
        · rw [if_pos hnull] at hvalue ⊢
          exact settled_eq_none.mpr hvalue
        · rw [if_neg hnull] at hvalue ⊢
          exact settled_of_fixed hvalue
    | default =>
        have hdefault := h.default constraint hmem operand hget
        show settled constraints declared ≠ none
        rw [Ne, settled_eq_none]
        tauto
    | add => exact h.others constraint hmem .add operand rfl hget
    | oneOf => exact h.others constraint hmem .oneOf operand rfl hget
    | subsetOf => exact h.others constraint hmem .subsetOf operand rfl hget
    | supersetOf => exact h.others constraint hmem .supersetOf operand rfl hget
    | essential => exact h.others constraint hmem .essential operand rfl hget

namespace Sample

/-- A chain of a leaf and an anchor that fixes its contacts. -/
def fixedContacts : TrustChain where
  statements :=
    [{ issuer := "https://rp", subject := "https://rp", issuedAt := 0, expiresAt := 1, jwks := []
       metadata := [("openid_relying_party", [("contacts", .str "rp")])] },
     { issuer := "https://ta", subject := "https://ta", issuedAt := 0, expiresAt := 1, jwks := []
       metadataPolicy := some [("openid_relying_party",
         .obj [("contacts", .obj [("value", .str "ta")])])] }]

/-- The anchor allows other grant types than the one the leaf declares, and the
resolved metadata still has the leaf's. -/
def ignoresPolicy (chain : TrustChain) : Bool :=
  match chain.statements, chain.resolvedMetadata with
  | leaf :: _, .ok resolved =>
      (match TrustChain.valueIn leaf.metadata "openid_relying_party" "grant_types",
          TrustChain.valueIn resolved "openid_relying_party" "grant_types" with
        | some _, some (.arr [.str v]) => v = "implicit"
        | _, _ => false) &&
      (match chain.constraints "openid_relying_party" "grant_types" with
        | [constraint] =>
            match constraint.get "subset_of" with
            | some (.arr [.str v]) => v = "authorization_code"
            | _ => false
        | _ => false)
  | _, _ => false

theorem resolves_ignoring_policy : resolvesTo "rp-direct" ignoresPolicy = true := by
  decide +kernel

theorem not_enforced_of_ignoresPolicy {chain : TrustChain} (h : ignoresPolicy chain = true) :
    ∃ leaf resolved, chain.subject = .ok leaf ∧ chain.resolvedMetadata = .ok resolved ∧
      ¬chain.Enforced leaf resolved := by
  unfold ignoresPolicy at h
  split at h
  · rename_i leaf rest resolved hstatements hresolved
    obtain ⟨hvalue, hconstraint⟩ := Bool.and_eq_true_iff.mp h
    have hsubject : chain.subject = .ok leaf := by
      simp [TrustChain.subject, hstatements]
    refine ⟨leaf, resolved, hsubject, hresolved, ?_⟩
    intro henforced
    split at hvalue
    · rename_i declared v hdeclared hkept
      split at hconstraint
      · rename_i constraint hconstraints
        split at hconstraint
        · rename_i allowed hallowed
          obtain ⟨values, hvalues, _⟩ := Option.bind_eq_some_iff.mp hdeclared
          have hin : constraint ∈ chain.constraints "openid_relying_party" "grant_types" :=
            hconstraints ▸ List.mem_singleton_self _
          have hholds := henforced _ values hvalues _ constraint hin .subsetOf _ hallowed
          rw [hkept] at hholds
          obtain ⟨kept, list, hkeptEq, hlistEq, hsubset⟩ := hholds _ rfl
          cases hkeptEq
          cases hlistEq
          have hmem := hsubset (.str v) (List.mem_singleton_self _)
          rw [of_decide_eq_true hvalue, of_decide_eq_true hconstraint] at hmem
          simp at hmem
        · cases hconstraint
      · cases hconstraint
    · cases hvalue
  · cases h

end Sample

end Federation

end PurIdentityServer

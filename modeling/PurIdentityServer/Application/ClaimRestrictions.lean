import PurIdentityServer.Application.VerifiedClaims

/-!
# ClaimRestrictions — which restrictions a request of verified claims is held to

A request restricts the trust framework, the assurance level and each
claim by a `value` or by a list of `values`. The reading keeps the ones
written with strings and passes over the others, and it never looks at
the `values` of a claim.

Whatever profile is served respects the request exactly when the request
is written in the forms that are read (`served_respects_iff`); a request
written otherwise is served a profile that does not respect it.
-/

namespace PurIdentityServer

open Effects IdentityAssurance

/-! ## What a restriction says -/

/-- Neither `value` nor `values` is there, or is there and is not `null`. -/
def Unrestricted (constraint : Members) : Prop :=
  (∀ value, constraint.get "value" = some value → value = .null) ∧
    ∀ values, constraint.get "values" = some values → values = .null

/-- The values a constraint lists. -/
def Lists (constraint : Members) (value : Json) : Prop :=
  ∃ values, constraint.get "values" = some (.arr values) ∧ value ∈ values

/-- A value meets a constraint: it is the one demanded, or one of those listed. -/
def Meets (constraint : Members) (value : Option Json) : Prop :=
  Unrestricted constraint ∨
    ∃ found, value = some found ∧
      ((found ≠ .null ∧ constraint.get "value" = some found) ∨ Lists constraint found)

/-- The constraint of a member of `verification`, in a request. -/
def verificationConstraint (raw : Json) (name : String) : Option Members :=
  ((raw.member "verification").bind (Json.member name)).bind Json.asMembers

/-- The constraint of a claim, in a request. -/
def claimConstraint (raw : Json) (name : String) : Option Members :=
  ((raw.member "claims").bind (Json.member name)).bind Json.asMembers

/-- A member of `verification`, in what is served. -/
def verificationMember (payload : Members) (name : String) : Option Json :=
  (Dict.get payload "verification").bind (Json.member name)

/-- A claim, in what is served. -/
def claimMember (payload : Members) (name : String) : Option Json :=
  (Dict.get payload "claims").bind (Json.member name)

/-- What is served meets every constraint of the request. -/
structure Respects (raw : Json) (payload : Members) : Prop where
  trust_framework : ∀ constraint, verificationConstraint raw "trust_framework" = some constraint →
    Meets constraint (verificationMember payload "trust_framework")
  assurance_level : ∀ constraint, verificationConstraint raw "assurance_level" = some constraint →
    Meets constraint (verificationMember payload "assurance_level")
  claims : ∀ name value constraint, claimMember payload name = some value →
    claimConstraint raw name = some constraint → Meets constraint (some value)

/-! ## What the reading keeps -/

section Reading

variable {p : Platform}

theorem constrainable_ok {verification : Option Json} {name : String} {read : String × List String}
    (h : constrainable p verification name = .ok read) :
    read = (((verification.bind (Json.member name)).bind Json.asMembers).map fun constraint =>
      (singleValue constraint, multipleValues p constraint)).getD ("", []) := by
  unfold constrainable at h
  split at h
  · rename_i members
    have hmember : Json.member name (.obj members) = Dict.get members name := rfl
    rw [Option.bind_some, hmember]
    cases hget : Dict.get members name with
    | none =>
        rw [hget] at h
        cases h
        rfl
    | some value =>
        rw [hget] at h
        cases value with
        | null | obj =>
            cases h
            rfl
        | bool | num | str | arr => cases h
  · rename_i hobj
    cases h
    cases verification with
    | none => rfl
    | some value =>
        cases value with
        | obj members => exact absurd rfl (hobj members)
        | null | bool | num | str | arr => rfl

/-- The value demanded of a claim, when it is a string. -/
def demandedValue (constraint : Option Members) : Option String :=
  constraint.bind fun constraint => (constraint.get "value").bind Json.asStr

/-- What the reading keeps of one claim. -/
theorem requestedClaims_cons {name : String} {raw : Json} {rest : Members}
    {read : List String × Dict String String × List String}
    (h : requestedClaims ((name, raw) :: rest) = .ok read) :
    ∃ others, requestedClaims rest = .ok others ∧ read.1 = name :: others.1 ∧
      read.2.1 = (demandedValue raw.asMembers).toList.map (fun value => (name, value)) ++
        others.2.1 := by
  unfold requestedClaims at h
  obtain ⟨parsed, hparsed, hrest⟩ := bind_eq_ok.mp h
  obtain ⟨others, hothers, hread⟩ := bind_eq_ok.mp hrest
  refine ⟨others, hothers, ?_⟩
  cases raw with
  | null =>
      cases hparsed
      cases hread
      exact ⟨rfl, rfl⟩
  | obj members =>
      cases hparsed
      cases hread
      refine ⟨rfl, ?_⟩
      have hdemanded : demandedValue (Json.asMembers (.obj members)) =
          (Dict.get members "value").bind Json.asStr := rfl
      rw [hdemanded]
      cases Dict.get members "value" with
      | none => rfl
      | some value =>
          cases value with
          | str demanded => rfl
          | null | bool | num | arr | obj => rfl
  | bool | num | str | arr => cases hparsed

theorem requestedClaims_ok {claims : Members}
    {read : List String × Dict String String × List String}
    (h : requestedClaims claims = .ok read) (hnodup : (Dict.keys claims).Nodup) :
    read.1 = Dict.keys claims ∧ ∀ name,
      Dict.get read.2.1 name = demandedValue ((Dict.get claims name).bind Json.asMembers) := by
  induction claims generalizing read with
  | nil =>
      cases h
      exact ⟨rfl, fun _ => rfl⟩
  | cons item rest ih =>
      obtain ⟨name, raw⟩ := item
      obtain ⟨others, hothers, hnames, hvalues⟩ := requestedClaims_cons h
      obtain ⟨hmem, hrest⟩ := List.nodup_cons.mp hnodup
      obtain ⟨hothersNames, hothersValues⟩ := ih hothers hrest
      refine ⟨by rw [hnames, hothersNames]; rfl, fun k => ?_⟩
      rw [hvalues, Dict.get_append, Dict.get_cons, hothersValues]
      by_cases hk : name = k
      · -- no other claim of the request has this name
        subst hk
        have hnone : Dict.get rest name = none := Dict.get_eq_none.mpr hmem
        rw [hnone, if_pos rfl, Option.bind_some]
        show Option.or _ none = _
        rw [Option.or_none]
        cases demandedValue raw.asMembers with
        | none => rfl
        | some value => simp [Dict.get_cons]
      · cases demandedValue raw.asMembers with
        | none => simp [hk]
        | some value => simp [hk, Dict.get_cons]

theorem readClaims_ok {raw : Option Json} {read : List String × Dict String String × List String}
    (h : readClaims raw = .ok read)
    (hdistinct : ∀ claims, raw = some (.obj claims) → (Dict.keys claims).Nodup) (name : String) :
    (raw.bind (Json.member name) ≠ none → name ∈ read.1) ∧
      Dict.get read.2.1 name =
        demandedValue ((raw.bind (Json.member name)).bind Json.asMembers) := by
  unfold readClaims at h
  split at h
  · rename_i claims
    obtain ⟨hnames, hvalues⟩ := requestedClaims_ok h (hdistinct claims rfl)
    refine ⟨fun hne => ?_, hvalues name⟩
    rw [hnames]
    by_contra habsent
    exact hne (Dict.get_eq_none.mpr habsent)
  · rename_i hobj
    cases h
    have hnone : raw.bind (Json.member name) = none := by
      cases raw with
      | none => rfl
      | some value =>
          cases value with
          | obj claims => exact absurd rfl (hobj claims)
          | null | bool | num | str | arr => rfl
    rw [hnone]
    exact ⟨fun hne => absurd rfl hne, rfl⟩

/-- What a request is read as. -/
structure ReadFrom (p : Platform) (raw : Json) (request : VerifiedClaimsRequest) : Prop where
  framework : (request.trustFramework, request.trustFrameworks) =
    ((verificationConstraint raw "trust_framework").map fun constraint =>
      (singleValue constraint, multipleValues p constraint)).getD ("", [])
  level : (request.assuranceLevel, request.assuranceLevels) =
    ((verificationConstraint raw "assurance_level").map fun constraint =>
      (singleValue constraint, multipleValues p constraint)).getD ("", [])
  names : ∀ name, claimConstraint raw name ≠ none → name ∈ request.claimNames
  values : ∀ name, Dict.get request.claimValues name = demandedValue (claimConstraint raw name)

/-- The names of the claims of a request are distinct, as those of a JSON object are. -/
def DistinctClaims (raw : Json) : Prop :=
  ∀ claims, raw.member "claims" = some (.obj claims) → (Dict.keys claims).Nodup

theorem readFrom_of_parse {raw : Json} {request : VerifiedClaimsRequest}
    (h : parseVerifiedClaimsRequest p raw = .ok request) (hdistinct : DistinctClaims raw) :
    ReadFrom p raw request := by
  cases raw with
  | null =>
      cases h
      exact ⟨rfl, rfl, fun _ hne => absurd rfl hne, fun _ => rfl⟩
  | obj payload =>
      unfold parseVerifiedClaimsRequest at h
      obtain ⟨_, hpayload, h₁⟩ := bind_eq_ok.mp h
      cases asMapping_eq_ok.mp hpayload
      obtain ⟨framework, hframework, h₂⟩ := bind_eq_ok.mp h₁
      obtain ⟨level, hlevel, h₃⟩ := bind_eq_ok.mp h₂
      obtain ⟨claims, hclaims, h₄⟩ := bind_eq_ok.mp h₃
      cases h₄
      have hread := readClaims_ok hclaims hdistinct
      refine ⟨constrainable_ok hframework, constrainable_ok hlevel, ?_, fun name => (hread name).2⟩
      intro name hne
      apply (hread name).1
      intro hnone
      exact hne (by unfold claimConstraint; exact hnone ▸ rfl)
  | bool | num | str | arr => cases h

end Reading

/-! ## What is served -/

/-- The claim of a profile, when it is not missed. -/
def keptClaim (profile : VerifiedClaims) (request : VerifiedClaimsRequest) (name : String) :
    Option Json :=
  (profile.claims.get name).filter fun value => !misses (Dict.get request.claimValues name) value

theorem get_selectClaim (profile : VerifiedClaims) (request : VerifiedClaimsRequest)
    (selected : Members) (name k : String) :
    Dict.get (selectClaim profile request selected name) k =
      if k = name then (keptClaim profile request name).or (Dict.get selected k)
      else Dict.get selected k := by
  unfold selectClaim keptClaim
  cases profile.claims.get name with
  | none => simp
  | some value =>
      rw [Option.filter_some]
      by_cases hmisses : misses (Dict.get request.claimValues name) value = true
      · simp [hmisses]
      · by_cases hk : k = name
        · simp [hmisses, Json.get_setMember, hk]
        · simp [hmisses, Json.get_setMember, hk]

theorem get_foldl_selectClaim (profile : VerifiedClaims) (request : VerifiedClaimsRequest)
    (k : String) (names : List String) (selected : Members) :
    Dict.get (names.foldl (selectClaim profile request) selected) k =
      (if k ∈ names then keptClaim profile request k else none).or (Dict.get selected k) := by
  induction names generalizing selected with
  | nil => simp
  | cons name rest ih =>
      rw [List.foldl_cons, ih, get_selectClaim]
      by_cases hk : k = name
      · subst hk
        by_cases hrest : k ∈ rest
        · cases keptClaim profile request k <;> simp [hrest]
        · simp [hrest]
      · simp [hk]

/-- The claims selected are those named that the profile has and the request does not miss. -/
theorem get_selectedClaims (profile : VerifiedClaims) (request : VerifiedClaimsRequest)
    (k : String) :
    Dict.get (selectedClaims profile request) k =
      if k ∈ request.claimNames then keptClaim profile request k else none := by
  unfold selectedClaims
  rw [get_foldl_selectClaim, Dict.get_nil, Option.or_none]

section Served

variable {profile : VerifiedClaims} {request : VerifiedClaimsRequest} {payload : Members}

theorem served_eq_some :
    served profile request = some payload ↔
      request.acceptsTrustFramework profile.trustFramework = true ∧
        request.acceptsAssuranceLevel profile.assuranceLevel = true ∧
        payload = Json.setMember profile.toPayload "claims"
          (.obj (selectedClaims profile request)) := by
  unfold served
  by_cases hframework : request.acceptsTrustFramework profile.trustFramework = true
  · by_cases hlevel : request.acceptsAssuranceLevel profile.assuranceLevel = true
    · simp [hframework, hlevel, eq_comm]
    · simp [hframework, hlevel]
  · simp [hframework]

/-- What is served states the framework and the level of the profile, and the claims
selected. -/
theorem served_members (h : served profile request = some payload) :
    verificationMember payload "trust_framework" = some (.str profile.trustFramework) ∧
      verificationMember payload "assurance_level" =
        (if profile.assuranceLevel = "" then none else some (.str profile.assuranceLevel)) ∧
      ∀ name, claimMember payload name =
        if name ∈ request.claimNames then keptClaim profile request name else none := by
  obtain ⟨_, _, rfl⟩ := served_eq_some.mp h
  have hverification : Dict.get (Json.setMember profile.toPayload "claims"
      (.obj (selectedClaims profile request))) "verification" =
        some (.obj profile.verification) := by
    rw [Json.get_setMember]
    rfl
  have hclaims : Dict.get (Json.setMember profile.toPayload "claims"
      (.obj (selectedClaims profile request))) "claims" =
        some (.obj (selectedClaims profile request)) := by
    rw [Json.get_setMember, if_pos rfl]
  unfold verificationMember claimMember
  rw [hverification, hclaims]
  refine ⟨rfl, ?_, fun name => get_selectedClaims profile request name⟩
  show Dict.get profile.verification "assurance_level" = _
  rw [get_verification]
  simp [Dict.get_cons, get_textMember_self, get_textMember_of_ne, get_unless]

end Served

/-! ## The restrictions the reading keeps -/

section Kept

variable {p : Platform} {constraint : Members}

/-- Every restriction of a constraint of `verification` is kept: there is none, or a `value`
that is a text, or `values` whose texts are all listed as such. -/
def Reads (p : Platform) (constraint : Members) : Prop :=
  Unrestricted constraint ∨ singleValue constraint ≠ "" ∨
    (multipleValues p constraint ≠ [] ∧
      ∀ text ∈ multipleValues p constraint, text ≠ "" → Lists constraint (.str text))

/-- Every restriction of a claim is kept: there is none, or a `value` that is a text. -/
def ReadsClaim (constraint : Members) : Prop :=
  Unrestricted constraint ∨ ∃ value, constraint.get "value" = some (.str value)

theorem singleValue_get (hne : singleValue constraint ≠ "") :
    constraint.get "value" = some (.str (singleValue constraint)) := by
  unfold singleValue at hne ⊢
  cases hget : constraint.get "value" with
  | none => simp [hget] at hne
  | some value =>
      cases value with
      | str text => rfl
      | null | bool | num | arr | obj => simp [hget, Json.asStr] at hne

theorem singleValue_of_get {text : String} (h : constraint.get "value" = some (.str text)) :
    singleValue constraint = text := by
  unfold singleValue
  rw [h]
  rfl

/-- An accepted text meets a constraint that is kept. -/
theorem meets_of_reads (h : Reads p constraint) {text : String} (hne : text ≠ "")
    (haccepts : accepts (singleValue constraint) (multipleValues p constraint) text = true) :
    Meets constraint (some (.str text)) := by
  rcases h with hfree | hsingle | ⟨hmultiple, hlisted⟩
  · exact .inl hfree
  · rcases accepts_eq_true.mp haccepts with ⟨hempty, _⟩ | ⟨_, rfl⟩ | ⟨hempty, _⟩
    · exact absurd hempty hsingle
    · exact .inr ⟨_, rfl, .inl ⟨by simp, singleValue_get hsingle⟩⟩
    · exact absurd hempty hsingle
  · rcases accepts_eq_true.mp haccepts with ⟨_, hempty⟩ | ⟨hsingle, rfl⟩ | ⟨_, hmem⟩
    · exact absurd hempty hmultiple
    · exact .inr ⟨_, rfl, .inl ⟨by simp, singleValue_get hsingle⟩⟩
    · exact .inr ⟨_, rfl, .inr (hlisted text hmem hne)⟩

/-- The empty text is accepted only where nothing is asked. -/
theorem unrestricted_of_accepts_empty (hreads : Reads p constraint)
    (htexts : Unrestricted constraint ∨ singleValue constraint ≠ "" ∨
      "" ∉ multipleValues p constraint)
    (haccepts : accepts (singleValue constraint) (multipleValues p constraint) "" = true) :
    Unrestricted constraint := by
  rcases accepts_eq_true.mp haccepts with ⟨hsingle, hnil⟩ | ⟨hsingle, heq⟩ | ⟨hsingle, hmem⟩
  · rcases hreads with hfree | hne | ⟨hmultiple, _⟩
    · exact hfree
    · exact absurd hsingle hne
    · exact absurd hnil hmultiple
  · exact absurd heq.symm hsingle
  · rcases htexts with hfree | hne | hempty
    · exact hfree
    · exact absurd hsingle hne
    · exact absurd hmem hempty

/-- Some text is in no given list. -/
theorem exists_text_not_mem (avoid : List Json) : ∃ text, text ≠ "" ∧ Json.str text ∉ avoid := by
  have hbound : ∃ n, ∀ text, Json.str text ∈ avoid → text.length < n := by
    induction avoid with
    | nil => exact ⟨0, by simp⟩
    | cons first rest ih =>
        obtain ⟨n, hn⟩ := ih
        cases first with
        | str found =>
            refine ⟨n + found.length + 1, fun text hmem => ?_⟩
            rcases List.mem_cons.mp hmem with heq | hrest
            · cases heq
              omega
            · have hlt := hn text hrest
              omega
        | null | bool | num | arr | obj =>
            refine ⟨n, fun text hmem => ?_⟩
            rcases List.mem_cons.mp hmem with heq | hrest
            · cases heq
            · exact hn text hrest
  obtain ⟨n, hn⟩ := hbound
  have hlength : (String.ofList (List.replicate (n + 1) 'a')).length = n + 1 := by simp
  refine ⟨String.ofList (List.replicate (n + 1) 'a'), ?_, fun hmem => ?_⟩
  · intro hempty
    rw [hempty] at hlength
    simp at hlength
  · have hlt := hn _ hmem
    omega

/-- A constraint that every text meets restricts nothing. -/
theorem unrestricted_of_meets
    (h : ∀ text, text ≠ "" → Meets constraint (some (.str text))) : Unrestricted constraint := by
  obtain ⟨text, hne, hfresh⟩ := exists_text_not_mem
    ((constraint.get "value").toList ++ ((constraint.get "values").bind Json.asList).getD [])
  rcases h text hne with hfree | ⟨found, hfound, hdemanded | ⟨values, hvalues, hmem⟩⟩
  · exact hfree
  · cases hfound
    simp [hdemanded.2] at hfresh
  · cases hfound
    simp [hvalues, Json.asList, hmem] at hfresh

/-- A constraint that every accepted text meets is kept. -/
theorem reads_of_meets
    (h : ∀ text, text ≠ "" →
      accepts (singleValue constraint) (multipleValues p constraint) text = true →
      Meets constraint (some (.str text))) : Reads p constraint := by
  by_cases hsingle : singleValue constraint = ""
  · by_cases hmultiple : multipleValues p constraint = []
    · left
      apply unrestricted_of_meets
      intro text hne
      exact h text hne (accepts_eq_true.mpr (.inl ⟨hsingle, hmultiple⟩))
    · by_cases hfree : Unrestricted constraint
      · exact .inl hfree
      · refine .inr (.inr ⟨hmultiple, fun text hmem hne => ?_⟩)
        have hmeets := h text hne (accepts_eq_true.mpr (.inr (.inr ⟨hsingle, hmem⟩)))
        rcases hmeets with hfree' | ⟨found, hfound, ⟨_, hvalue⟩ | hlisted⟩
        · exact absurd hfree' hfree
        · cases hfound
          exact absurd ((singleValue_of_get hvalue).symm.trans hsingle) hne
        · cases hfound
          exact hlisted
  · exact .inr (.inl hsingle)

end Kept

/-! ## Requests held to -/

/-- No profile is served: its trust framework is to be an empty text. -/
def NeverServed (p : Platform) (raw : Json) : Prop :=
  ∃ constraint, verificationConstraint raw "trust_framework" = some constraint ∧
    singleValue constraint = "" ∧ multipleValues p constraint ≠ [] ∧
      ∀ text ∈ multipleValues p constraint, text = ""

/-- Every restriction of a request is written in a form that is kept. -/
structure Understood (p : Platform) (raw : Json) : Prop where
  framework : ∀ constraint, verificationConstraint raw "trust_framework" = some constraint →
    Reads p constraint
  level : ∀ constraint, verificationConstraint raw "assurance_level" = some constraint →
    Reads p constraint ∧
      (Unrestricted constraint ∨ singleValue constraint ≠ "" ∨
        "" ∉ multipleValues p constraint)
  claims : ∀ name constraint, claimConstraint raw name = some constraint → ReadsClaim constraint

section Request

variable {p : Platform} {raw : Json} {request : VerifiedClaimsRequest}

/-- What the trust framework is held to is what is read of its constraint. -/
theorem ReadFrom.acceptsFramework (h : ReadFrom p raw request) {constraint : Members}
    (hconstraint : verificationConstraint raw "trust_framework" = some constraint)
    (framework : String) :
    request.acceptsTrustFramework framework =
      accepts (singleValue constraint) (multipleValues p constraint) framework := by
  have hread := h.framework
  rw [hconstraint] at hread
  obtain ⟨hsingle, hmultiple⟩ := Prod.mk.inj hread
  unfold VerifiedClaimsRequest.acceptsTrustFramework
  rw [hsingle, hmultiple]

theorem ReadFrom.acceptsLevel (h : ReadFrom p raw request) {constraint : Members}
    (hconstraint : verificationConstraint raw "assurance_level" = some constraint)
    (level : String) :
    request.acceptsAssuranceLevel level =
      accepts (singleValue constraint) (multipleValues p constraint) level := by
  have hread := h.level
  rw [hconstraint] at hread
  obtain ⟨hsingle, hmultiple⟩ := Prod.mk.inj hread
  unfold VerifiedClaimsRequest.acceptsAssuranceLevel
  rw [hsingle, hmultiple]

/-- Some level is accepted. -/
theorem exists_level (request : VerifiedClaimsRequest) :
    ∃ level, request.acceptsAssuranceLevel level = true := by
  unfold VerifiedClaimsRequest.acceptsAssuranceLevel
  by_cases hsingle : request.assuranceLevel = ""
  · cases hlevels : request.assuranceLevels with
    | nil => exact ⟨"", accepts_eq_true.mpr (.inl ⟨hsingle, rfl⟩)⟩
    | cons level rest => exact ⟨level, accepts_eq_true.mpr (.inr (.inr ⟨hsingle, by simp⟩))⟩
  · exact ⟨_, accepts_eq_true.mpr (.inr (.inl ⟨hsingle, rfl⟩))⟩

/-- Some trust framework is accepted, unless nothing is ever served. -/
theorem exists_framework (h : ReadFrom p raw request) (hserved : ¬ NeverServed p raw) :
    ∃ framework, framework ≠ "" ∧ request.acceptsTrustFramework framework = true := by
  cases hconstraint : verificationConstraint raw "trust_framework" with
  | none =>
      have hread := h.framework
      rw [hconstraint] at hread
      obtain ⟨hsingle, hmultiple⟩ := Prod.mk.inj hread
      exact ⟨"x", by simp, accepts_eq_true.mpr (.inl ⟨hsingle, hmultiple⟩)⟩
  | some constraint =>
      by_cases hsingle : singleValue constraint = ""
      · by_cases hmultiple : multipleValues p constraint = []
        · refine ⟨"x", by simp, ?_⟩
          rw [h.acceptsFramework hconstraint]
          exact accepts_eq_true.mpr (.inl ⟨hsingle, hmultiple⟩)
        · have htext : ∃ text ∈ multipleValues p constraint, text ≠ "" := by
            by_contra hall
            apply hserved
            refine ⟨constraint, hconstraint, hsingle, hmultiple, fun text hmem => ?_⟩
            by_contra hne
            exact hall ⟨text, hmem, hne⟩
          obtain ⟨text, hmem, hne⟩ := htext
          refine ⟨text, hne, ?_⟩
          rw [h.acceptsFramework hconstraint]
          exact accepts_eq_true.mpr (.inr (.inr ⟨hsingle, hmem⟩))
      · refine ⟨singleValue constraint, hsingle, ?_⟩
        rw [h.acceptsFramework hconstraint]
        exact accepts_eq_true.mpr (.inr (.inl ⟨hsingle, rfl⟩))

/-- A request that is understood is respected by what is served. -/
theorem Understood.respects (hunderstood : Understood p raw) (h : ReadFrom p raw request)
    {profile : VerifiedClaims} (hframework : profile.trustFramework ≠ "") {payload : Members}
    (hserved : served profile request = some payload) : Respects raw payload := by
  obtain ⟨hacceptsFramework, hacceptsLevel, _⟩ := served_eq_some.mp hserved
  obtain ⟨hpayloadFramework, hpayloadLevel, hpayloadClaims⟩ := served_members hserved
  constructor
  · intro constraint hconstraint
    rw [hpayloadFramework]
    rw [h.acceptsFramework hconstraint] at hacceptsFramework
    exact meets_of_reads (hunderstood.framework constraint hconstraint) hframework
      hacceptsFramework
  · intro constraint hconstraint
    obtain ⟨hreads, htexts⟩ := hunderstood.level constraint hconstraint
    rw [hpayloadLevel]
    rw [h.acceptsLevel hconstraint] at hacceptsLevel
    by_cases hlevel : profile.assuranceLevel = ""
    · left
      rw [hlevel] at hacceptsLevel
      exact unrestricted_of_accepts_empty hreads htexts hacceptsLevel
    · rw [if_neg hlevel]
      exact meets_of_reads hreads hlevel hacceptsLevel
  · intro name value constraint hvalue hconstraint
    rw [hpayloadClaims] at hvalue
    rcases hunderstood.claims name constraint hconstraint with hfree | ⟨demanded, hdemanded⟩
    · exact .inl hfree
    · split at hvalue
      · obtain ⟨_, hkept⟩ := Option.filter_eq_some_iff.mp hvalue
        have hread : Dict.get request.claimValues name = some demanded := by
          rw [h.values, hconstraint]
          simp [demandedValue, hdemanded, Json.asStr]
        rw [hread] at hkept
        cases value with
        | str text =>
            have heq : demanded = text := by simpa [misses] using hkept
            exact .inr ⟨_, rfl, .inl ⟨by simp, heq ▸ hdemanded⟩⟩
        | null | bool | num | arr | obj => simp [misses] at hkept
      · cases hvalue

/-- A profile with a framework, a level and claims is stored as it is served. -/
theorem conforms_simple {framework level : String} (hne : framework ≠ "") (claims : Members) :
    Conforms p { trustFramework := framework, assuranceLevel := level, claims := claims } :=
  ⟨hne, fun hprocess => absurd rfl hprocess, fun hevidence => absurd rfl hevidence⟩

/-- A request that every profile served respects is understood. -/
theorem understood_of_respects (h : ReadFrom p raw request) (hserved : ¬ NeverServed p raw)
    (hrespects : ∀ profile payload, Conforms p profile → served profile request = some payload →
      Respects raw payload) : Understood p raw := by
  obtain ⟨framework, hframework, hacceptsFramework⟩ := exists_framework h hserved
  obtain ⟨level, hacceptsLevel⟩ := exists_level request
  have hserve : ∀ framework level claims,
      request.acceptsTrustFramework framework = true →
      request.acceptsAssuranceLevel level = true →
      ∃ payload, served { trustFramework := framework, assuranceLevel := level, claims := claims }
        request = some payload :=
    fun _ _ _ hf hl => ⟨_, served_eq_some.mpr ⟨hf, hl, rfl⟩⟩
  constructor
  · intro constraint hconstraint
    apply reads_of_meets
    intro text hne haccepts
    rw [← h.acceptsFramework hconstraint] at haccepts
    obtain ⟨payload, hpayload⟩ := hserve text level [] haccepts hacceptsLevel
    have hmeets := (hrespects _ payload (conforms_simple hne []) hpayload).trust_framework
      constraint hconstraint
    rw [(served_members hpayload).1] at hmeets
    exact hmeets
  · intro constraint hconstraint
    have hmeets : ∀ text,
        accepts (singleValue constraint) (multipleValues p constraint) text = true →
        Meets constraint (if text = "" then none else some (.str text)) := by
      intro text haccepts
      rw [← h.acceptsLevel hconstraint] at haccepts
      obtain ⟨payload, hpayload⟩ := hserve framework text [] hacceptsFramework haccepts
      have hmeets := (hrespects _ payload (conforms_simple hframework []) hpayload).assurance_level
        constraint hconstraint
      rw [(served_members hpayload).2.1] at hmeets
      exact hmeets
    constructor
    · apply reads_of_meets
      intro text hne haccepts
      have hmeet := hmeets text haccepts
      rw [if_neg hne] at hmeet
      exact hmeet
    · by_cases hsingle : singleValue constraint = ""
      · by_cases hmem : "" ∈ multipleValues p constraint
        · rcases hmeets "" (accepts_eq_true.mpr (.inr (.inr ⟨hsingle, hmem⟩))) with
            hfree | ⟨found, hfound, _⟩
          · exact .inl hfree
          · cases hfound
        · exact .inr (.inr hmem)
      · exact .inr (.inl hsingle)
  · intro name constraint hconstraint
    by_cases hdemanded : demandedValue (some constraint) = none
    · left
      apply unrestricted_of_meets
      intro text _
      obtain ⟨payload, hpayload⟩ :=
        hserve framework level [(name, .str text)] hacceptsFramework hacceptsLevel
      refine (hrespects _ payload (conforms_simple hframework _) hpayload).claims name (.str text)
        constraint ?_ hconstraint
      have hread : Dict.get request.claimValues name = none := by
        rw [h.values, hconstraint]
        exact hdemanded
      rw [(served_members hpayload).2.2, if_pos (h.names name (by simp [hconstraint]))]
      unfold keptClaim
      rw [hread]
      simp [Dict.get_cons, misses]
    · right
      obtain ⟨demanded, hvalue⟩ := Option.ne_none_iff_exists'.mp hdemanded
      have hbind : (Dict.get constraint "value").bind Json.asStr = some demanded := hvalue
      obtain ⟨found, hfound, hstr⟩ := Option.bind_eq_some_iff.mp hbind
      cases found with
      | str text => exact ⟨text, hfound⟩
      | null | bool | num | arr | obj => cases hstr

/-- Whatever profile of the store is served respects the request exactly when the request is
understood, or never served. -/
theorem served_respects (hparse : parseVerifiedClaimsRequest p raw = .ok request)
    (hdistinct : DistinctClaims raw) :
    (∀ stored profile payload, parseVerifiedClaims p stored = .ok profile →
      served profile request = some payload → Respects raw payload) ↔
      NeverServed p raw ∨ Understood p raw := by
  have hread := readFrom_of_parse hparse hdistinct
  constructor
  · intro hrespects
    by_cases hnever : NeverServed p raw
    · exact .inl hnever
    · right
      apply understood_of_respects hread hnever
      intro profile payload hconforms hserved
      exact hrespects _ profile payload hconforms.parse hserved
  · rintro (⟨constraint, hconstraint, hsingle, hmultiple, hempty⟩ | hunderstood)
    · intro stored profile payload hstored hserved
      have hframework := (conforms_of_parse hstored).framework
      have haccepts := (served_eq_some.mp hserved).1
      rw [hread.acceptsFramework hconstraint] at haccepts
      rcases accepts_eq_true.mp haccepts with ⟨_, hnil⟩ | ⟨hne, _⟩ | ⟨_, hmem⟩
      · exact absurd hnil hmultiple
      · exact absurd hsingle hne
      · exact absurd (hempty _ hmem) hframework
    · intro stored profile payload hstored hserved
      exact hunderstood.respects hread (conforms_of_parse hstored).framework hserved

end Request

end PurIdentityServer

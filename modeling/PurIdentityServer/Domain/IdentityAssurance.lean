import PurIdentityServer.Domain.Federation

/-!
# IdentityAssurance — profiles and requests of verified claims

The domain side of OpenID Identity Assurance: the profile of verified
claims an end-user has in the store, validated strictly, and the request
of a relying party, read leniently: a constraint that has the form of one
is kept, and a `value` or `values` member of another type is passed over.

What an accepted profile serves is a profile again, and the same one
(`parseVerifiedClaims_toPayload`).
-/

namespace PurIdentityServer

open Effects

namespace IdentityAssurance

/-- `EVIDENCE_TYPES` -/
def evidenceTypes : List String :=
  ["document", "electronic_record", "vouch", "electronic_signature"]

/-- `_VERIFICATION_MEMBERS` -/
def verificationMembers : List String :=
  ["trust_framework", "assurance_level", "assurance_process", "time", "verification_process",
    "evidence"]

/-- `_ASSURANCE_PROCESS_MEMBERS` -/
def assuranceProcessMembers : List String := ["policy", "procedure", "assurance_details"]

structure VerifiedClaimsError where
  message : String
  deriving DecidableEq, Repr

/-- `if condition: raise VerifiedClaimsError(message)`. -/
def raiseIf (condition : Bool) (message : String) : Except VerifiedClaimsError Unit :=
  if condition then .error ⟨message⟩ else .ok ()

/-- `_as_mapping` -/
def asMapping (value : Option Json) (path : String) : Except VerifiedClaimsError Members :=
  match value with
  | some (.obj members) => .ok members
  | _ => .error ⟨"'" ++ path ++ "' doit être un objet"⟩

/-! ## Profiles -/

structure VerifiedClaims where
  trustFramework : String
  claims : Members := []
  assuranceLevel : String := ""
  verificationProcess : String := ""
  time : String := ""
  assuranceProcess : Members := []
  evidence : List Members := []

namespace VerifiedClaims

/-- A text member that is there when it is not empty. -/
def textMember (name value : String) : Members :=
  if value = "" then [] else [(name, .str value)]

/-- The `verification` member of `to_payload`. -/
def verification (profile : VerifiedClaims) : Members :=
  [("trust_framework", Json.str profile.trustFramework)]
    ++ textMember "assurance_level" profile.assuranceLevel
    ++ textMember "verification_process" profile.verificationProcess
    ++ textMember "time" profile.time
    ++ (if profile.assuranceProcess = [] then []
        else [("assurance_process", .obj profile.assuranceProcess)])
    ++ (if profile.evidence = [] then [] else [("evidence", .arr (profile.evidence.map Json.obj))])

def toPayload (profile : VerifiedClaims) : Members :=
  [("verification", .obj profile.verification), ("claims", .obj profile.claims)]

end VerifiedClaims

section Profile

variable (p : Platform)

/-- `sorted(set(payload) - known)`, as Python prints it. -/
def unexpected (payload : Members) (known : List String) : String :=
  p.pyStr (.arr ((Text.sorted (payload.keys.toFinset \ known.toFinset)).map .str))

/-- A member outside the known ones is refused. -/
def onlyMembers (payload : Members) (known : List String) (path : String) :
    Except VerifiedClaimsError Unit :=
  raiseIf (!payload.keys.all fun name => known.contains name)
    ("membres inattendus sous '" ++ path ++ "' : " ++ unexpected p payload known)

/-- `_optional_string` -/
def optionalString (payload : Members) (name : String) : Except VerifiedClaimsError String :=
  match payload.get name with
  | none | some .null => .ok ""
  | some (.str value) => .ok value
  | some _ => .error ⟨"'verification." ++ name ++ "' doit être une chaîne"⟩

/-- A text of `assurance_process`, absent, `null` or a string. -/
def processText (payload : Members) (name : String) : Except VerifiedClaimsError Unit :=
  match payload.get name with
  | none | some .null | some (.str _) => .ok ()
  | some _ => .error ⟨"'assurance_process." ++ name ++ "' doit être une chaîne"⟩

/-- `_parse_assurance_process` -/
def parseAssuranceProcess : Option Json → Except VerifiedClaimsError Members
  | none | some .null => .ok []
  | some raw => do
      let payload ← asMapping (some raw) "verification.assurance_process"
      onlyMembers p payload assuranceProcessMembers "assurance_process"
      processText payload "policy"
      processText payload "procedure"
      match payload.get "assurance_details" with
      | none | some .null | some (.arr (_ :: _)) => .ok payload
      | some _ =>
          .error ⟨"'assurance_process.assurance_details' doit être une liste non vide"⟩

/-- An item of `evidence`: an object of one of the types. -/
def parseEvidenceItem (item : Json) : Except VerifiedClaimsError Members := do
  let entry ← asMapping (some item) "verification.evidence[]"
  match entry.get "type" with
  | some (.str evidenceType) =>
      if evidenceType ∈ evidenceTypes then .ok entry
      else .error ⟨"'evidence.type' doit valoir l'un de " ++
        p.pyStr (.arr (evidenceTypes.map .str))⟩
  | _ => .error ⟨"'evidence.type' doit valoir l'un de " ++
      p.pyStr (.arr (evidenceTypes.map .str))⟩

/-- `_parse_evidence` -/
def parseEvidence : Option Json → Except VerifiedClaimsError (List Members)
  | none | some .null => .ok []
  | some (.arr (item :: rest)) => (item :: rest).mapM (parseEvidenceItem p)
  | some _ => .error ⟨"'verification.evidence' doit être une liste non vide"⟩

/-- `parse_verified_claims` -/
def parseVerifiedClaims (raw : Json) : Except VerifiedClaimsError VerifiedClaims := do
  let payload ← asMapping (some raw) "verified_claims"
  onlyMembers p payload ["verification", "claims"] "verified_claims"
  let verification ← asMapping (payload.get "verification") "verified_claims.verification"
  match payload.get "claims" with
  | some (.obj claims) => do
      onlyMembers p verification verificationMembers "verification"
      match verification.get "trust_framework" with
      | some (.str framework) => do
          raiseIf (framework = "")
            "'verification.trust_framework' doit être une chaîne non vide"
          let assuranceLevel ← optionalString verification "assurance_level"
          let verificationProcess ← optionalString verification "verification_process"
          let time ← optionalString verification "time"
          let assuranceProcess ← parseAssuranceProcess p (verification.get "assurance_process")
          let evidence ← parseEvidence p (verification.get "evidence")
          .ok { trustFramework := framework, claims, assuranceLevel, verificationProcess, time,
                assuranceProcess, evidence }
      | _ => .error ⟨"'verification.trust_framework' doit être une chaîne non vide"⟩
  | _ => .error ⟨"'verified_claims.claims' doit être un objet"⟩

/-! ### What an accepted profile serves -/

variable {p}

theorem get_textMember_self (name value : String) :
    Dict.get (VerifiedClaims.textMember name value) name =
      if value = "" then none else some (.str value) := by
  unfold VerifiedClaims.textMember
  by_cases hvalue : value = ""
  · simp [hvalue]
  · simp [hvalue, Dict.get_cons]

theorem get_textMember_of_ne {name k : String} (value : String) (hne : name ≠ k) :
    Dict.get (VerifiedClaims.textMember name value) k = none := by
  unfold VerifiedClaims.textMember
  by_cases hvalue : value = ""
  · simp [hvalue]
  · simp [hvalue, Dict.get_cons, hne]

theorem asMapping_eq_ok {value : Option Json} {path : String} {members : Members} :
    asMapping value path = .ok members ↔ value = some (.obj members) := by
  unfold asMapping
  split
  · simp
  · rename_i hobj
    constructor
    · intro h
      cases h
    · intro h
      exact absurd h (hobj members)

/-- The members kept of `assurance_process` are read back as they are. -/
theorem parseAssuranceProcess_kept {raw : Option Json} {members : Members}
    (h : parseAssuranceProcess p raw = .ok members) (hne : members ≠ []) :
    parseAssuranceProcess p (some (.obj members)) = .ok members := by
  cases raw with
  | none =>
      cases h
      exact absurd rfl hne
  | some raw =>
      cases raw with
      | null =>
          cases h
          exact absurd rfl hne
      | obj given =>
          have hgiven : given = members := by
            unfold parseAssuranceProcess at h
            simp only [bind_eq_ok] at h
            obtain ⟨payload, hpayload, _, _, _, _, _, _, h⟩ := h
            cases asMapping_eq_ok.mp hpayload
            split at h <;> cases h
            all_goals rfl
          rw [hgiven] at h
          exact h
      | bool | num | str | arr =>
          unfold parseAssuranceProcess at h
          simp [asMapping, bind_eq_ok] at h

theorem parseEvidenceItem_ok {item : Json} {entry : Members}
    (h : parseEvidenceItem p item = .ok entry) : item = .obj entry := by
  unfold parseEvidenceItem at h
  obtain ⟨found, hfound, hentry⟩ := bind_eq_ok.mp h
  have hkept : found = entry := by
    split at hentry
    · split at hentry <;> cases hentry
      rfl
    · cases hentry
  rw [← hkept]
  exact Option.some.inj (asMapping_eq_ok.mp hfound)

theorem mapM_parseEvidenceItem_ok {items : List Json} {evidence : List Members}
    (h : items.mapM (parseEvidenceItem p) = .ok evidence) : items = evidence.map .obj := by
  have hall := mapM_eq_ok.mp h
  clear h
  induction hall with
  | nil => rfl
  | cons hitem _ ih => rw [parseEvidenceItem_ok hitem, ih, List.map_cons]

/-- The evidence kept is read back as it is. -/
theorem parseEvidence_kept {raw : Option Json} {evidence : List Members}
    (h : parseEvidence p raw = .ok evidence) (hne : evidence ≠ []) :
    parseEvidence p (some (.arr (evidence.map .obj))) = .ok evidence := by
  unfold parseEvidence at h
  split at h
  · cases h
    exact absurd rfl hne
  · cases h
    exact absurd rfl hne
  · rename_i item rest
    rw [← mapM_parseEvidenceItem_ok h]
    exact h
  · cases h

/-- What a profile in the store satisfies. -/
structure Conforms (p : Platform) (profile : VerifiedClaims) : Prop where
  framework : profile.trustFramework ≠ ""
  process : profile.assuranceProcess ≠ [] →
    parseAssuranceProcess p (some (.obj profile.assuranceProcess)) = .ok profile.assuranceProcess
  evidence : profile.evidence ≠ [] →
    parseEvidence p (some (.arr (profile.evidence.map .obj))) = .ok profile.evidence

theorem raiseIf_eq_ok {condition : Bool} {message : String} :
    raiseIf condition message = .ok () ↔ condition = false := by
  unfold raiseIf
  cases condition <;> simp

theorem conforms_of_parse {raw : Json} {profile : VerifiedClaims}
    (h : parseVerifiedClaims p raw = .ok profile) : Conforms p profile := by
  unfold parseVerifiedClaims at h
  obtain ⟨payload, _, hpayload⟩ := bind_eq_ok.mp h
  obtain ⟨_, _, hmembers⟩ := bind_eq_ok.mp hpayload
  obtain ⟨verification, _, hclaims⟩ := bind_eq_ok.mp hmembers
  clear h hpayload hmembers
  split at hclaims
  · obtain ⟨_, _, hread⟩ := bind_eq_ok.mp hclaims
    clear hclaims
    split at hread
    · rename_i framework _
      simp only [bind_eq_ok] at hread
      obtain ⟨_, hframework, _, _, _, _, _, _, process, hprocess, evidence, hevidence, hread⟩ :=
        hread
      cases hread
      have hne : framework ≠ "" := by simpa using raiseIf_eq_ok.mp hframework
      exact ⟨hne, parseAssuranceProcess_kept hprocess, parseEvidence_kept hevidence⟩
    · cases hread
  · cases hclaims

theorem get_unless (c : Prop) [Decidable c] (name k : String) (value : Json) :
    Dict.get (if c then [] else [(name, value)]) k =
      if c then none else if name = k then some value else none := by
  by_cases hc : c
  · simp [hc]
  · simp [hc, Dict.get_cons]

theorem optionalString_textMember {members : Members} {name value : String}
    (h : members.get name = if value = "" then none else some (.str value)) :
    optionalString members name = .ok value := by
  unfold optionalString
  by_cases hvalue : value = ""
  · simp [h, hvalue]
  · simp [h, hvalue]

theorem get_verification (profile : VerifiedClaims) (name : String) :
    Dict.get profile.verification name =
      (Dict.get [("trust_framework", Json.str profile.trustFramework)] name).or
        ((Dict.get (VerifiedClaims.textMember "assurance_level" profile.assuranceLevel) name).or
          ((Dict.get
              (VerifiedClaims.textMember "verification_process" profile.verificationProcess)
              name).or
            ((Dict.get (VerifiedClaims.textMember "time" profile.time) name).or
              ((Dict.get (if profile.assuranceProcess = [] then []
                  else [("assurance_process", Json.obj profile.assuranceProcess)]) name).or
                (Dict.get (if profile.evidence = [] then []
                  else [("evidence", Json.arr (profile.evidence.map Json.obj))]) name))))) := by
  unfold VerifiedClaims.verification
  simp only [Dict.get_append, Option.or_assoc]

theorem keys_verification (profile : VerifiedClaims) :
    ∀ name ∈ Dict.keys profile.verification, name ∈ verificationMembers := by
  intro name hname
  by_contra hunknown
  have hnone : Dict.get profile.verification name = none := by
    have hne : ∀ known ∈ verificationMembers, known ≠ name := by
      rintro known hknown rfl
      exact hunknown hknown
    rw [get_verification]
    simp only [verificationMembers, List.mem_cons, List.not_mem_nil, or_false,
      forall_eq_or_imp, forall_eq] at hne
    simp [Dict.get_cons, get_textMember_of_ne, get_unless, hne]
  exact Dict.get_eq_none.mp hnone hname

theorem Conforms.parse {profile : VerifiedClaims} (h : Conforms p profile) :
    parseVerifiedClaims p (.obj profile.toPayload) = .ok profile := by
  obtain ⟨hframework, hprocess, hevidence⟩ := h
  have hmembers : onlyMembers p profile.verification verificationMembers "verification" =
      .ok () := by
    unfold onlyMembers
    rw [raiseIf_eq_ok]
    simpa using keys_verification profile
  have hlevel : optionalString profile.verification "assurance_level" =
      .ok profile.assuranceLevel := by
    apply optionalString_textMember
    rw [get_verification]
    simp [Dict.get_cons, get_textMember_self, get_textMember_of_ne, get_unless]
  have hverificationProcess : optionalString profile.verification "verification_process" =
      .ok profile.verificationProcess := by
    apply optionalString_textMember
    rw [get_verification]
    simp [Dict.get_cons, get_textMember_self, get_textMember_of_ne, get_unless]
  have htime : optionalString profile.verification "time" = .ok profile.time := by
    apply optionalString_textMember
    rw [get_verification]
    simp [Dict.get_cons, get_textMember_self, get_textMember_of_ne, get_unless]
  have hgetProcess : parseAssuranceProcess p (Dict.get profile.verification "assurance_process") =
      .ok profile.assuranceProcess := by
    rw [get_verification]
    by_cases hempty : profile.assuranceProcess = []
    · simp [Dict.get_cons, get_textMember_of_ne, get_unless, hempty, parseAssuranceProcess]
    · simp [Dict.get_cons, get_textMember_of_ne, get_unless, hempty, hprocess hempty]
  have hgetEvidence : parseEvidence p (Dict.get profile.verification "evidence") =
      .ok profile.evidence := by
    rw [get_verification]
    by_cases hempty : profile.evidence = []
    · simp [Dict.get_cons, get_textMember_of_ne, get_unless, hempty, parseEvidence]
    · simp [Dict.get_cons, get_textMember_of_ne, get_unless, hempty, hevidence hempty]
  have hgetFramework : Dict.get profile.verification "trust_framework" =
      some (.str profile.trustFramework) := rfl
  unfold parseVerifiedClaims
  have hroot : Dict.get profile.toPayload "verification" = some (.obj profile.verification) := rfl
  have hclaims : Dict.get profile.toPayload "claims" = some (.obj profile.claims) := rfl
  have honly : onlyMembers p profile.toPayload ["verification", "claims"] "verified_claims" =
      .ok () := rfl
  simp [asMapping, honly, hroot, hclaims, hmembers, hgetFramework, hframework, hlevel,
    hverificationProcess, htime, hgetProcess, hgetEvidence, raiseIf, Bind.bind, Except.bind]

/-- The payload of an accepted profile is accepted, as the same profile. -/
theorem parseVerifiedClaims_toPayload {raw : Json} {profile : VerifiedClaims}
    (h : parseVerifiedClaims p raw = .ok profile) :
    parseVerifiedClaims p (.obj profile.toPayload) = .ok profile :=
  (conforms_of_parse h).parse

end Profile

/-! ## Requests -/

structure VerifiedClaimsRequest where
  trustFramework : String := ""
  trustFrameworks : List String := []
  assuranceLevel : String := ""
  assuranceLevels : List String := []
  claimNames : List String := []
  claimValues : Dict String String := []
  essentialClaims : List String := []

/-- A value, or a list of values, is given. -/
def constrains (single : String) (multiple : List String) : Bool :=
  single ≠ "" || !multiple.isEmpty

/-- The value is the one given, or else one of those given. -/
def accepts (single : String) (multiple : List String) (value : String) : Bool :=
  if !constrains single multiple then true
  else if single ≠ "" then value == single
  else multiple.contains value

namespace VerifiedClaimsRequest

variable (request : VerifiedClaimsRequest)

def constrainsTrustFramework : Bool := constrains request.trustFramework request.trustFrameworks

def acceptsTrustFramework (framework : String) : Bool :=
  accepts request.trustFramework request.trustFrameworks framework

def constrainsAssuranceLevel : Bool := constrains request.assuranceLevel request.assuranceLevels

def acceptsAssuranceLevel (level : String) : Bool :=
  accepts request.assuranceLevel request.assuranceLevels level

end VerifiedClaimsRequest

theorem accepts_eq_true {single value : String} {multiple : List String} :
    accepts single multiple value = true ↔
      (single = "" ∧ multiple = []) ∨ (single ≠ "" ∧ value = single) ∨
        (single = "" ∧ value ∈ multiple) := by
  unfold accepts constrains
  by_cases hsingle : single = ""
  · cases multiple with
    | nil => simp [hsingle]
    | cons first rest => simp [hsingle]
  · simp [hsingle]

/-- `_constraint`: `none` for `null` or a member that is not there. -/
def constraint (raw : Option Json) (path : String) :
    Except VerifiedClaimsError (Option Members) :=
  match raw with
  | none | some .null => .ok none
  | some (.obj members) => .ok (some members)
  | some _ => .error ⟨"'" ++ path ++ "' doit être null ou un objet"⟩

/-- The `value` member of a constraint, `""` unless it is a string. -/
def singleValue (members : Members) : String :=
  ((members.get "value").bind Json.asStr).getD ""

section Request

variable (p : Platform)

/-- `str(value)` -/
def asText : Json → String
  | .str s => s
  | value => p.pyStr value

/-- The `values` member of a constraint, empty unless it is a list. -/
def multipleValues (members : Members) : List String :=
  (((members.get "values").bind Json.asList).getD []).map (asText p)

/-- `_constrainable` -/
def constrainable (verification : Option Json) (name : String) :
    Except VerifiedClaimsError (String × List String) :=
  match verification with
  | some (.obj members) =>
      (constraint (Dict.get members name) name).map fun read =>
        match read with
        | none => ("", [])
        | some members => (singleValue members, multipleValues p members)
  | _ => .ok ("", [])

/-- The claims of a request: their names, the values demanded, the essential ones. -/
def requestedClaims :
    Members → Except VerifiedClaimsError (List String × Dict String String × List String)
  | [] => .ok ([], [], [])
  | (name, raw) :: rest => do
      let parsed ← constraint (some raw) ("claims." ++ name)
      let (names, values, essential) ← requestedClaims rest
      match parsed with
      | none => .ok (name :: names, values, essential)
      | some members =>
          let demanded := match members.get "value" with
            | some (.str value) => [(name, value)]
            | _ => []
          let named := match members.get "essential" with
            | some (.bool true) => [name]
            | _ => []
          .ok (name :: names, demanded ++ values, named ++ essential)

/-- The `claims` member of a request. -/
def readClaims : Option Json →
    Except VerifiedClaimsError (List String × Dict String String × List String)
  | some (.obj claims) => requestedClaims claims
  | _ => .ok ([], [], [])

/-- `parse_verified_claims_request` -/
def parseVerifiedClaimsRequest : Json → Except VerifiedClaimsError VerifiedClaimsRequest
  | .null => .ok {}
  | raw => do
      let payload ← asMapping (some raw) "verified_claims"
      let verification := payload.get "verification"
      let (framework, frameworks) ← constrainable p verification "trust_framework"
      let (level, levels) ← constrainable p verification "assurance_level"
      let (names, values, essential) ← readClaims (payload.get "claims")
      .ok
        { trustFramework := framework, trustFrameworks := frameworks
          assuranceLevel := level, assuranceLevels := levels
          claimNames := names, claimValues := values, essentialClaims := essential }

end Request

end IdentityAssurance

end PurIdentityServer

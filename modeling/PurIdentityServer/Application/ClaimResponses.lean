import PurIdentityServer.Application.ClaimRestrictions
import PurIdentityServer.Application.IssuedIdTokens

/-!
# ClaimResponses — the responses that carry verified claims

Three responses can carry `verified_claims`: the `id_token` of the token
endpoint, the one of the authorization endpoint, and the response of the
userinfo endpoint. All take the raw profile of the end-user out and put
the resolved member in; the authorization endpoint does it before it adds
the claims of the granted scopes, and these can bring the raw profile back.
-/

namespace PurIdentityServer

open Effects Effects.Prog IdentityAssurance

/-! ## The resolved member -/

/-- What the identity assurance answers of a raw request, over a store of claims. -/
def answerOf (p : Platform) (store : String → Raising Members) (raw : Json) (subject : String) :
    Raising (Option Json) :=
  match parseVerifiedClaimsRequest p raw with
  | .error _ => .ok none
  | .ok request =>
      (IdentityAssuranceUseCase.resolve { platform := p, claims := some store } request
        subject).map fun found => found.map Json.obj

/-- The member resolved for the raw request of a location, when there is one. -/
def ResolvedTo (answer : Json → String → Raising (Option Json)) (asked : Option Json)
    (subject : String) (verified : Option Json) : Prop :=
  (asked = none ∧ verified = none) ∨
    ∃ raw, asked = some raw ∧ answer raw subject = .ok verified

/-- The profile claims of a response, without the raw member and with the resolved one. -/
def withVerified (claims : Members) (verified : Option Json) : Members :=
  let served := claims.filter fun m => m.1 ≠ verifiedClaimsMember
  match verified with
  | none => served
  | some member => Json.setMember served verifiedClaimsMember member

theorem keys_filter_verified (claims : Members) :
    verifiedClaimsMember ∉ Dict.keys (claims.filter fun m => m.1 ≠ verifiedClaimsMember) := by
  intro hmem
  obtain ⟨item, hitem, hname⟩ := List.mem_map.mp hmem
  simp [hname] at hitem

theorem get_withVerified (claims : Members) (verified : Option Json) :
    Dict.get (withVerified claims verified) verifiedClaimsMember = verified := by
  unfold withVerified
  cases verified with
  | none => exact Dict.get_eq_none.mpr (keys_filter_verified claims)
  | some member => simp [Json.get_setMember]

/-- The raw request of the `id_token` location, when the identity assurance is injected. -/
def askedOf (injected : Bool) (request : ClaimsRequest) : Option Json :=
  if injected then Dict.get request.rawIdToken verifiedClaimsMember else none

section Runs

variable {ports : Ports} {w w' : World} {subject : String}

theorem run_resolveRequestedClaims {ε : Type} {names : List String} {claimsProvider : Bool}
    {resolved : Members} :
    (resolveRequestedClaims names subject claimsProvider : M ε _).run (exec ports) w =
        (.ok resolved, w') ↔
      (if names = [] ∨ ¬ claimsProvider ∨ subject = "" then resolved = []
        else ∃ claims, ports.getClaims subject = .ok claims ∧
          resolved = claims.filter fun m => m.1 ∈ names) ∧ w' = w := by
  unfold resolveRequestedClaims
  split
  · rw [run_pure_ok, eq_comm, @eq_comm _ w w']
  · rw [bind_assoc', run_ask_bind, run_bind_ok]
    constructor
    · rintro ⟨claims, w₁, hclaims, hresolved⟩
      obtain ⟨hget, rfl⟩ := run_orRaise_ok.mp hclaims
      obtain ⟨rfl, rfl⟩ := run_pure_ok.mp hresolved
      exact ⟨⟨claims, hget, rfl⟩, rfl⟩
    · rintro ⟨⟨claims, hget, rfl⟩, rfl⟩
      exact ⟨claims, _, run_orRaise_ok.mpr ⟨hget, rfl⟩, run_pure_ok.mpr ⟨rfl, rfl⟩⟩

/-- The call both `_verified_claims` of the `id_token`s make. -/
theorem run_askVerifiedClaims {ε : Type} {injected : Bool} {request : ClaimsRequest}
    {p : M ε (Option Json)} {verified : Option Json}
    (hnone : askedOf injected request = none → p = Pure.pure none)
    (hsome : ∀ raw, askedOf injected request = some raw →
      p = (ask (.verifiedClaims raw subject) >>= orRaise)) :
    p.run (exec ports) w = (.ok verified, w') ↔
      ResolvedTo ports.verifiedClaims (askedOf injected request) subject verified ∧ w' = w := by
  unfold ResolvedTo
  cases hasked : askedOf injected request with
  | none =>
      rw [hnone hasked, run_pure_ok, eq_comm, @eq_comm _ w w']
      simp
  | some raw =>
      rw [hsome raw hasked, run_ask_bind, run_orRaise_ok]
      have hanswer : (exec ports (.verifiedClaims raw subject) w).1 =
          ports.verifiedClaims raw subject := rfl
      have hsame : (exec ports (.verifiedClaims raw subject) w).2 = w := rfl
      rw [hanswer, hsame]
      simp

theorem TokenUseCase.run_verifiedClaims {u : TokenUseCase} {request : ClaimsRequest}
    {verified : Option Json} :
    (u.verifiedClaims request subject).run (exec ports) w = (.ok verified, w') ↔
      ResolvedTo ports.verifiedClaims (askedOf u.identityAssurance request) subject verified ∧
        w' = w := by
  apply run_askVerifiedClaims
  · intro hnone
    unfold verifiedClaims
    by_cases hinjected : u.identityAssurance = true
    · have hget : (request.rawIdToken.find? fun m => m.1 = verifiedClaimsMember).map Prod.snd =
          none := by
        unfold askedOf at hnone
        rwa [if_pos hinjected] at hnone
      rw [if_neg (not_not.mpr hinjected), hget]
    · rw [if_pos hinjected]
  · intro raw hsome
    unfold askedOf at hsome
    by_cases hinjected : u.identityAssurance = true
    · have hget : (request.rawIdToken.find? fun m => m.1 = verifiedClaimsMember).map Prod.snd =
          some raw := by
        rwa [if_pos hinjected] at hsome
      unfold verifiedClaims
      rw [if_neg (not_not.mpr hinjected), hget]
    · rw [if_neg hinjected] at hsome
      cases hsome

theorem AuthorizeUseCase.run_verifiedClaims {u : AuthorizeUseCase} {request : ClaimsRequest}
    {verified : Option Json} :
    (u.verifiedClaims request subject).run (exec ports) w = (.ok verified, w') ↔
      ResolvedTo ports.verifiedClaims (askedOf u.identityAssurance request) subject verified ∧
        w' = w := by
  apply run_askVerifiedClaims
  · intro hnone
    unfold verifiedClaims
    by_cases hinjected : u.identityAssurance = true
    · have hget : (request.rawIdToken.find? fun m => m.1 = verifiedClaimsMember).map Prod.snd =
          none := by
        unfold askedOf at hnone
        rwa [if_pos hinjected] at hnone
      rw [if_neg (not_not.mpr hinjected), hget]
    · rw [if_pos hinjected]
  · intro raw hsome
    unfold askedOf at hsome
    by_cases hinjected : u.identityAssurance = true
    · have hget : (request.rawIdToken.find? fun m => m.1 = verifiedClaimsMember).map Prod.snd =
          some raw := by
        rwa [if_pos hinjected] at hsome
      unfold verifiedClaims
      rw [if_neg (not_not.mpr hinjected), hget]
    · rw [if_neg hinjected] at hsome
      cases hsome

/-- The claims an `id_token` is completed with, from the claims resolved and the member. -/
def Completes (ports : Ports) (request : ClaimsRequest) (injected claimsProvider : Bool)
    (subject : String) (additional served : Members) : Prop :=
  ∃ resolved verified,
    (if request.idToken = [] ∨ ¬ claimsProvider ∨ subject = "" then resolved = []
      else ∃ claims, ports.getClaims subject = .ok claims ∧
        resolved = claims.filter fun m => m.1 ∈ request.idToken) ∧
    ResolvedTo ports.verifiedClaims (askedOf injected request) subject verified ∧
      served = withVerified (Json.update additional resolved) verified

/-- The run of a program that resolves the claims requested, then the verified ones. -/
theorem run_completes {ε : Type} {request : ClaimsRequest} {injected claimsProvider : Bool}
    {additional served : Members} {p : M ε (Option Json)} {f : Members → Option Json → M ε Members}
    (hp : ∀ {verified w'}, p.run (exec ports) w = (.ok verified, w') ↔
      ResolvedTo ports.verifiedClaims (askedOf injected request) subject verified ∧ w' = w)
    (hf : ∀ resolved verified, f resolved verified =
      Pure.pure (withVerified (Json.update additional resolved) verified)) :
    (resolveRequestedClaims request.idToken subject claimsProvider >>= fun resolved =>
        p >>= f resolved).run (exec ports) w = (.ok served, w') ↔
      Completes ports request injected claimsProvider subject additional served ∧ w' = w := by
  rw [run_bind_ok]
  constructor
  · rintro ⟨resolved, w₁, hresolved, hrest⟩
    obtain ⟨hspec, rfl⟩ := run_resolveRequestedClaims.mp hresolved
    obtain ⟨verified, w₂, hverified, hserved⟩ := run_bind_ok.mp hrest
    obtain ⟨hmember, rfl⟩ := hp.mp hverified
    rw [hf] at hserved
    obtain ⟨rfl, rfl⟩ := run_pure_ok.mp hserved
    exact ⟨⟨resolved, verified, hspec, hmember, rfl⟩, rfl⟩
  · rintro ⟨⟨resolved, verified, hspec, hmember, rfl⟩, rfl⟩
    refine ⟨resolved, _, run_resolveRequestedClaims.mpr ⟨hspec, rfl⟩, ?_⟩
    refine run_bind_ok.mpr ⟨verified, _, hp.mpr ⟨hmember, rfl⟩, ?_⟩
    rw [hf]
    exact run_pure_ok.mpr ⟨rfl, rfl⟩

theorem TokenUseCase.run_requestedClaims {u : TokenUseCase} {request : ClaimsRequest}
    {additional served : Members} :
    (u.requestedClaims (some request) subject additional).run (exec ports) w = (.ok served, w') ↔
      Completes ports request u.identityAssurance u.claimsProvider subject additional served ∧
        w' = w := by
  apply run_completes run_verifiedClaims
  intro resolved verified
  cases verified <;> rfl

theorem AuthorizeUseCase.run_requestedClaims {u : AuthorizeUseCase} {request : ClaimsRequest}
    {additional served : Members} :
    (u.requestedClaims (some request) subject additional).run (exec ports) w = (.ok served, w') ↔
      Completes ports request u.identityAssurance u.claimsProvider subject additional served ∧
        w' = w := by
  apply run_completes run_verifiedClaims
  intro resolved verified
  cases verified <;> rfl

/-- The claims of a response that has no request, or one. -/
def CompletesFor (ports : Ports) (request : Option ClaimsRequest) (injected claimsProvider : Bool)
    (subject : String) (additional served : Members) : Prop :=
  (request = none ∧ served = additional) ∨ ∃ found, request = some found ∧
    Completes ports found injected claimsProvider subject additional served

theorem TokenUseCase.run_requestedClaimsFor {u : TokenUseCase} {request : Option ClaimsRequest}
    {additional served : Members} :
    (u.requestedClaims request subject additional).run (exec ports) w = (.ok served, w') ↔
      CompletesFor ports request u.identityAssurance u.claimsProvider subject additional served ∧
        w' = w := by
  unfold CompletesFor
  cases request with
  | none =>
      show (Pure.pure additional : M TokenError Members).run (exec ports) w = _ ↔ _
      rw [run_pure_ok, eq_comm, @eq_comm _ w w']
      simp
  | some found =>
      rw [run_requestedClaims]
      simp

theorem AuthorizeUseCase.run_requestedClaimsFor {u : AuthorizeUseCase}
    {request : Option ClaimsRequest} {additional served : Members} :
    (u.requestedClaims request subject additional).run (exec ports) w = (.ok served, w') ↔
      CompletesFor ports request u.identityAssurance u.claimsProvider subject additional served ∧
        w' = w := by
  unfold CompletesFor
  cases request with
  | none =>
      show (Pure.pure additional : M AuthorizeError Members).run (exec ports) w = _ ↔ _
      rw [run_pure_ok, eq_comm, @eq_comm _ w w']
      simp
  | some found =>
      rw [run_requestedClaims]
      simp

/-- The resources a scope is looked up in. -/
def AuthorizeUseCase.resourcesOf (u : AuthorizeUseCase) (w : World) : List IdentityResource :=
  let stored := if u.identityResources then w.identityResources else []
  if stored = [] then defaultIdentityResources else stored

/-- The claims of the granted scopes. -/
def AuthorizeUseCase.Grants (u : AuthorizeUseCase) (ports : Ports) (w : World)
    (scope subject : String) (granted : Members) : Prop :=
  if ¬ u.claimsProvider ∨ subject = "" then granted = []
  else ∃ claims, ports.getClaims subject = .ok claims ∧
    granted = claims.filter fun m => m.1 ∈ scopeClaims (u.resourcesOf w) scope

theorem AuthorizeUseCase.run_allowedScopeClaims {u : AuthorizeUseCase} {scope : String}
    {allowed : Finset String} :
    (u.allowedScopeClaims scope).run (exec ports) w = (.ok allowed, w') ↔
      allowed = scopeClaims (u.resourcesOf w) scope ∧ w' = w := by
  unfold allowedScopeClaims resourcesOf
  by_cases hresources : u.identityResources = true
  · rw [if_pos hresources, run_ask_bind, run_pure_ok, if_pos hresources, eq_comm, @eq_comm _ _ w']
    exact Iff.rfl
  · rw [if_neg hresources, pure_bind, run_pure_ok, if_neg hresources, eq_comm, @eq_comm _ _ w']

theorem AuthorizeUseCase.run_scopeClaimsForSubject {u : AuthorizeUseCase} {scope : String}
    {granted : Members} :
    (u.scopeClaimsForSubject scope subject).run (exec ports) w = (.ok granted, w') ↔
      u.Grants ports w scope subject granted ∧ w' = w := by
  unfold scopeClaimsForSubject Grants
  split
  · rw [run_pure_ok, eq_comm, @eq_comm _ w w']
  · rw [run_bind_ok]
    constructor
    · rintro ⟨allowed, w₁, hallowed, hrest⟩
      obtain ⟨rfl, rfl⟩ := run_allowedScopeClaims.mp hallowed
      rw [bind_assoc', run_ask_bind, run_bind_ok] at hrest
      obtain ⟨claims, w₂, hclaims, hgranted⟩ := hrest
      obtain ⟨hget, rfl⟩ := run_orRaise_ok.mp hclaims
      obtain ⟨rfl, rfl⟩ := run_pure_ok.mp hgranted
      exact ⟨⟨claims, hget, rfl⟩, rfl⟩
    · rintro ⟨⟨claims, hget, rfl⟩, rfl⟩
      refine ⟨_, _, run_allowedScopeClaims.mpr ⟨rfl, rfl⟩, ?_⟩
      rw [bind_assoc', run_ask_bind, run_bind_ok]
      exact ⟨claims, _, run_orRaise_ok.mpr ⟨hget, rfl⟩, run_pure_ok.mpr ⟨rfl, rfl⟩⟩

theorem AuthorizeUseCase.run_openid20Identifier {u : AuthorizeUseCase} {request : AuthorizeRequest}
    {identifier : String}
    (hrun : (u.openid20Identifier request).run (exec ports) w = (.ok identifier, w')) : w' = w := by
  unfold openid20Identifier at hrun
  split at hrun
  · exact (run_pure_ok.mp hrun).2.symm
  split at hrun
  · exact (run_pure_ok.mp hrun).2.symm
  · rw [run_ask_bind] at hrun
    exact (run_orRaise_ok.mp hrun).2

/-- What the authorization endpoint adds to an `id_token`. -/
def AuthorizeUseCase.Adds (u : AuthorizeUseCase) (ports : Ports) (w : World)
    (i : AuthorizeUseCase.FrontIssuance) (wantsToken : Bool) (requested granted : Members) : Prop :=
  let acr := firstSupportedAcr i.request.acrValues
  CompletesFor ports i.claimsRequest u.identityAssurance u.claimsProvider i.request.subject
      (if acr = "" then [] else [("acr", .str acr)]) requested ∧
    (if i.code = "" ∧ ¬ wantsToken then
      u.Grants ports w i.request.scope i.request.subject granted
    else granted = [])

theorem AuthorizeUseCase.adds_of_run {u : AuthorizeUseCase} {i : AuthorizeUseCase.FrontIssuance}
    {wantsToken : Bool} {served : Members}
    (hrun : (u.additionalIdTokenClaims i wantsToken).run (exec ports) w = (.ok served, w')) :
    ∃ requested granted, u.Adds ports w i wantsToken requested granted ∧
      Dict.get served verifiedClaimsMember =
        Dict.get (Json.update requested granted) verifiedClaimsMember := by
  unfold additionalIdTokenClaims at hrun
  obtain ⟨requested, w₁, hrequested, hrest₁⟩ := run_bind_ok.mp hrun
  obtain ⟨hcompletes, rfl⟩ := run_requestedClaimsFor.mp hrequested
  obtain ⟨granted, w₂, hgranted, hrest₂⟩ := run_bind_ok.mp hrest₁
  obtain ⟨identifier, w₃, _, hserved⟩ := run_bind_ok.mp hrest₂
  obtain ⟨rfl, rfl⟩ := run_pure_ok.mp hserved
  refine ⟨requested, granted, ⟨hcompletes, ?_⟩, ?_⟩
  · split at hgranted
    · rename_i halone
      rw [if_pos halone]
      exact (run_scopeClaimsForSubject.mp hgranted).1
    · rename_i halone
      rw [if_neg halone]
      exact (run_pure_ok.mp hgranted).1.symm
  · by_cases hidentifier : identifier = ""
    · rw [if_pos hidentifier]
    · rw [if_neg hidentifier, Json.get_setMember]
      simp [verifiedClaimsMember]

theorem AuthorizeUseCase.run_of_adds {u : AuthorizeUseCase} {i : AuthorizeUseCase.FrontIssuance}
    {wantsToken : Bool} {requested granted : Members} {identifier : String}
    (hadds : u.Adds ports w i wantsToken requested granted)
    (hidentifier : ports.openid20Identifier i.request.subject i.request.openid2Realm =
      .ok identifier) :
    ∃ served, (u.additionalIdTokenClaims i wantsToken).run (exec ports) w = (.ok served, w) ∧
      Dict.get served verifiedClaimsMember =
        Dict.get (Json.update requested granted) verifiedClaimsMember := by
  obtain ⟨hcompletes, hgranted⟩ := hadds
  have hmigrated : ∃ found, (u.openid20Identifier i.request).run (exec ports) w = (.ok found, w) := by
    unfold openid20Identifier
    split
    · exact ⟨_, run_pure_ok.mpr ⟨rfl, rfl⟩⟩
    split
    · exact ⟨_, run_pure_ok.mpr ⟨rfl, rfl⟩⟩
    · exact ⟨identifier, run_orRaise_ok.mpr ⟨hidentifier, rfl⟩⟩
  obtain ⟨found, hfound⟩ := hmigrated
  have hrun : (u.additionalIdTokenClaims i wantsToken).run (exec ports) w =
      (.ok (if found = "" then Json.update requested granted
        else Json.setMember (Json.update requested granted) "openid2_id" (.str found)), w) := by
    unfold additionalIdTokenClaims
    refine run_bind_ok.mpr ⟨requested, w, run_requestedClaimsFor.mpr ⟨hcompletes, rfl⟩, ?_⟩
    refine run_bind_ok.mpr ⟨granted, w, ?_, ?_⟩
    · by_cases halone : i.code = "" ∧ ¬ wantsToken
      · rw [if_pos halone] at hgranted
        rw [if_pos halone]
        exact run_scopeClaimsForSubject.mpr ⟨hgranted, rfl⟩
      · rw [if_neg halone] at hgranted
        rw [if_neg halone]
        exact run_pure_ok.mpr ⟨hgranted.symm, rfl⟩
    · exact run_bind_ok.mpr ⟨found, w, hfound, run_pure_ok.mpr ⟨rfl, rfl⟩⟩
  refine ⟨_, hrun, ?_⟩
  by_cases hempty : found = ""
  · rw [if_pos hempty]
  · rw [if_neg hempty, Json.get_setMember]
    simp [verifiedClaimsMember]

end Runs

/-! ## The responses -/

/-- `UserInfoUseCase`: the claims of a response, from those of the end-user and those of the
access token. -/
def UserInfoUseCase.render (u : UserInfoUseCase) (allowed : Finset String) (userClaims : Members)
    (displayedSub : String) (claims : Members) (subject : String) : Raising Members :=
  (u.verifiedClaims claims subject).map fun verified =>
    Json.update [("sub", .str displayedSub)]
      (withVerified (userClaims.filter fun m => m.1 ∈ allowed) (verified.map .obj))

/-- A response that can carry verified claims, and what it is made from. -/
inductive ClaimsResponse where
  | tokenIdToken (u : TokenUseCase) (request : Option ClaimsRequest) (subject acr : String)
  | frontIdToken (u : AuthorizeUseCase) (i : AuthorizeUseCase.FrontIssuance) (wantsToken : Bool)
  | userinfo (injected : Bool) (allowed : Finset String) (displayedSub : String) (claims : Members)
      (subject : String)

namespace ClaimsResponse

def subject : ClaimsResponse → String
  | tokenIdToken _ _ subject _ => subject
  | frontIdToken _ i _ => i.request.subject
  | userinfo _ _ _ _ subject => subject

/-- The raw request a response answers, when the identity assurance is injected. -/
def asked : ClaimsResponse → Option Json
  | tokenIdToken u request _ _ => request.bind (askedOf u.identityAssurance)
  | frontIdToken u i _ => i.claimsRequest.bind (askedOf u.identityAssurance)
  | userinfo injected _ _ claims _ =>
      if injected then
        ((Dict.get claims "claims").bind Json.asMembers).bind fun members =>
          Dict.get members verifiedClaimsRequestKey
      else none

/-- The ports over a store of claims, which the identity assurance reads too. -/
def portsOver (base : Ports) (p : Platform) (store : String → Raising Members)
    (identifier : String → String → Raising String) : Ports :=
  { base with
    getClaims := store, verifiedClaims := answerOf p store, openid20Identifier := identifier }

/-- The claims a response is rendered with, over a store. -/
def Renders (base : Ports) (p : Platform) (w : World) (store : String → Raising Members)
    (identifier : String → String → Raising String) (served : Members) : ClaimsResponse → Prop
  | tokenIdToken u request subject acr =>
      ∃ w', (u.requestedClaims request subject (if acr = "" then [] else [("acr", .str acr)])).run
        (exec (portsOver base p store identifier)) w = (.ok served, w')
  | frontIdToken u i wantsToken =>
      ∃ w', (u.additionalIdTokenClaims i wantsToken).run
        (exec (portsOver base p store identifier)) w = (.ok served, w')
  | userinfo injected allowed displayedSub claims subject =>
      ∃ userClaims, store subject = .ok userClaims ∧
        UserInfoUseCase.render
          { identityAssurance :=
              if injected then some { platform := p, claims := some store } else none }
          allowed userClaims displayedSub claims subject = .ok served

/-- An `id_token` of the authorization endpoint is signed with the claims of its response. -/
theorem renders_of_signed {u : AuthorizeUseCase} {i : AuthorizeUseCase.FrontIssuance}
    {wantsToken : Bool} {atHash : String} {claims : IdTokenClaims} {base : Ports} {p : Platform}
    {w : World} {store : String → Raising Members} {identifier : String → String → Raising String}
    (h : .createIdToken claims ∈ (u.signIdToken i wantsToken atHash).calls
      (exec (portsOver base p store identifier)) w) :
    (frontIdToken u i wantsToken).Renders base p w store identifier claims.additionalClaims := by
  obtain ⟨_, _, _, w', _, _, _, _, hadditional, rfl⟩ := AuthorizeUseCase.signs_of_mem_calls h
  exact ⟨w', hadditional⟩

/-- An `id_token` of the token endpoint is signed with the verified claims of its response. -/
theorem renders_of_signed_token {u : TokenUseCase} {i : Issuance} {request : Option ClaimsRequest}
    {claims : IdTokenClaims} {base : Ports} {p : Platform} {w : World}
    {store : String → Raising Members} {identifier : String → String → Raising String}
    (h : .createIdToken claims ∈ (u.signIdToken i request).calls
      (exec (portsOver base p store identifier)) w) :
    ∃ w₀ served, (tokenIdToken u request i.subject i.context.acr).Renders base p w₀ store identifier
        served ∧
      Dict.get claims.additionalClaims verifiedClaimsMember =
        Dict.get served verifiedClaimsMember := by
  unfold TokenUseCase.signIdToken at h
  rcases mem_calls_bind.mp h with hmem | ⟨material, w₁, _, hrest⟩
  · exact absurd hmem (AuthorizeUseCase.not_mem_calls_of_signsNothing
      (TokenUseCase.signsNothing_of_services (u.idTokenMaterial_services _)))
  dsimp only at hrest
  rcases mem_calls_bind.mp hrest with hmem | ⟨requested, w₂, hrequested, hrest₁⟩
  · exact absurd hmem (AuthorizeUseCase.not_mem_calls_of_signsNothing
      (TokenUseCase.signsNothing_of_services (u.requestedClaims_services _ _ _)))
  rcases mem_calls_bind.mp hrest₁ with hmem | ⟨identified, w₃, _, hrest₂⟩
  · exact absurd hmem (AuthorizeUseCase.not_mem_calls_of_signsNothing
      (TokenUseCase.signsNothing_of_services (u.openid20Identifier_services _ _ _)))
  rcases mem_calls_bind.mp hrest₂ with hmem | ⟨subject, w₄, _, hrest₃⟩
  · exact absurd hmem AuthorizeUseCase.not_mem_calls_orRaise
  rcases mem_calls_bind.mp hrest₃ with hmem | ⟨signed, w₅, _, hmem⟩
  · cases List.mem_singleton.mp hmem
    refine ⟨w₁, requested, ⟨w₂, hrequested⟩, ?_⟩
    by_cases hidentified : identified = ""
    · rw [if_pos hidentified]
    · rw [if_neg hidentified, Json.get_setMember]
      simp [verifiedClaimsMember]
  · exact absurd hmem AuthorizeUseCase.not_mem_calls_orRaise

/-- The verified claims of a response are those resolved for what it is asked, and respect it. -/
def Kept (p : Platform) (store : String → Raising Members) (response : ClaimsResponse)
    (served : Members) : Prop :=
  ∀ member, Dict.get served verifiedClaimsMember = some member → ∃ raw payload,
    response.asked = some raw ∧ answerOf p store raw response.subject = .ok (some (.obj payload)) ∧
      member = .obj payload ∧ Respects raw payload

/-- The claims of a granted scope bring the raw profile into the response. -/
def Exposes (w : World) : ClaimsResponse → Prop
  | frontIdToken u i wantsToken =>
      i.code = "" ∧ wantsToken = false ∧ u.claimsProvider = true ∧ i.request.subject ≠ "" ∧
        verifiedClaimsMember ∈ scopeClaims (u.resourcesOf w) i.request.scope
  | _ => False

end ClaimsResponse

/-! ## What a response carries -/

theorem get_update_of_notMem {members other : Members} {k : String}
    (h : k ∉ Dict.keys other) : Dict.get (Json.update members other) k = Dict.get members k := by
  induction other generalizing members with
  | nil => rfl
  | cons item rest ih =>
      obtain ⟨hne, hrest⟩ := not_or.mp (fun hmem => h (List.mem_cons.mpr hmem))
      show Dict.get (Json.update (Json.setMember members item.1 item.2) rest) k = _
      rw [ih hrest, Json.get_setMember, if_neg hne]

/-- The resolved member is in the response, in the place of the raw one. -/
theorem get_update_withVerified (members claims : Members) (verified : Option Json) :
    Dict.get (Json.update members (withVerified claims verified)) verifiedClaimsMember =
      verified.or (Dict.get members verifiedClaimsMember) := by
  have habsent := keys_filter_verified claims
  unfold withVerified
  cases verified with
  | none => exact get_update_of_notMem habsent
  | some member =>
      have hset : Json.setMember (claims.filter fun m => m.1 ≠ verifiedClaimsMember)
          verifiedClaimsMember member =
            (claims.filter fun m => m.1 ≠ verifiedClaimsMember) ++
              [(verifiedClaimsMember, member)] := by
        unfold Json.setMember
        exact if_neg habsent
      have hupdate : Json.update members ((claims.filter fun m => m.1 ≠ verifiedClaimsMember) ++
          [(verifiedClaimsMember, member)]) =
            Json.setMember (Json.update members
              (claims.filter fun m => m.1 ≠ verifiedClaimsMember)) verifiedClaimsMember member := by
        unfold Json.update
        rw [List.foldl_append]
        rfl
      simp only [hset, hupdate]
      rw [Json.get_setMember, if_pos rfl, Option.some_or]

theorem Completes.member {ports : Ports} {request : ClaimsRequest} {injected claimsProvider : Bool}
    {subject : String} {additional served : Members}
    (h : Completes ports request injected claimsProvider subject additional served) :
    ResolvedTo ports.verifiedClaims (askedOf injected request) subject
      (Dict.get served verifiedClaimsMember) := by
  obtain ⟨resolved, verified, _, hmember, rfl⟩ := h
  rw [get_withVerified]
  exact hmember

theorem CompletesFor.member {ports : Ports} {request : Option ClaimsRequest}
    {injected claimsProvider : Bool} {subject acr : String} {served : Members}
    (h : CompletesFor ports request injected claimsProvider subject
      (if acr = "" then [] else [("acr", .str acr)]) served) :
    ResolvedTo ports.verifiedClaims (request.bind (askedOf injected)) subject
      (Dict.get served verifiedClaimsMember) := by
  rcases h with ⟨rfl, rfl⟩ | ⟨found, rfl, hcompletes⟩
  · left
    refine ⟨rfl, ?_⟩
    split <;> simp [Dict.get_cons, verifiedClaimsMember]
  · exact hcompletes.member

namespace ClaimsResponse

variable {base : Ports} {p : Platform} {w : World} {store : String → Raising Members}
  {identifier : String → String → Raising String} {content : Members}

theorem userinfo_member {injected : Bool} {claims : Members} {subject : String}
    {verified : Option Members}
    (h : UserInfoUseCase.verifiedClaims
      { identityAssurance :=
          if injected then some { platform := p, claims := some store } else none }
      claims subject = .ok verified) (allowed : Finset String) (displayedSub : String) :
    ResolvedTo (answerOf p store) (userinfo injected allowed displayedSub claims subject).asked
      subject (verified.map .obj) := by
  unfold UserInfoUseCase.verifiedClaims at h
  unfold asked
  cases injected with
  | false =>
      cases h
      exact .inl ⟨rfl, rfl⟩
  | true =>
      simp only [if_true] at h ⊢
      rw [requestFromPayload_eq] at h
      cases hasked : ((Dict.get claims "claims").bind Json.asMembers).bind fun members =>
          Dict.get members verifiedClaimsRequestKey with
      | none =>
          rw [hasked] at h
          cases h
          exact .inl ⟨rfl, rfl⟩
      | some raw =>
          rw [hasked, Option.bind_some] at h
          refine .inr ⟨raw, rfl, ?_⟩
          unfold answerOf
          cases hparse : parseVerifiedClaimsRequest p raw with
          | error e =>
              rw [hparse] at h
              cases h
              rfl
          | ok request =>
              rw [hparse] at h
              have hresolve : IdentityAssuranceUseCase.resolve
                  { platform := p, claims := some store } request subject = .ok verified := h
              simp only [hresolve]
              rfl

/-- Without a scope that lists the member, the granted claims do not hold it. -/
theorem notMem_granted {u : AuthorizeUseCase} {i : AuthorizeUseCase.FrontIssuance}
    {wantsToken : Bool} {granted : Members} {ports : Ports}
    (hgranted : if i.code = "" ∧ ¬ wantsToken then
      u.Grants ports w i.request.scope i.request.subject granted else granted = [])
    (hexposes : ¬ (frontIdToken u i wantsToken).Exposes w) :
    verifiedClaimsMember ∉ Dict.keys granted := by
  split at hgranted
  · rename_i halone
    unfold AuthorizeUseCase.Grants at hgranted
    split at hgranted
    · rw [hgranted]
      exact List.not_mem_nil
    · rename_i hprovider
      obtain ⟨claims, _, rfl⟩ := hgranted
      intro hmem
      obtain ⟨item, hitem, hname⟩ := List.mem_map.mp hmem
      obtain ⟨_, hallowed⟩ := List.mem_filter.mp hitem
      apply hexposes
      obtain ⟨hinjected, hsubject⟩ := not_or.mp hprovider
      refine ⟨halone.1, by simpa using halone.2, not_not.mp hinjected, hsubject, ?_⟩
      rw [← hname]
      exact of_decide_eq_true hallowed
  · rw [hgranted]
    exact List.not_mem_nil

/-- A response that exposes nothing carries what is resolved for what it is asked. -/
theorem member_of_renders {response : ClaimsResponse}
    (h : response.Renders base p w store identifier content) (hexposes : ¬ response.Exposes w) :
    ResolvedTo (answerOf p store) response.asked response.subject
      (Dict.get content verifiedClaimsMember) := by
  cases response with
  | tokenIdToken u request subject acr =>
      obtain ⟨w', hrun⟩ := h
      exact (TokenUseCase.run_requestedClaimsFor.mp hrun).1.member
  | frontIdToken u i wantsToken =>
      obtain ⟨w', hrun⟩ := h
      obtain ⟨requested, granted, ⟨hcompletes, hgranted⟩, hget⟩ := AuthorizeUseCase.adds_of_run hrun
      have habsent : verifiedClaimsMember ∉ Dict.keys granted :=
        notMem_granted hgranted hexposes
      rw [hget, get_update_of_notMem habsent]
      exact hcompletes.member
  | userinfo injected allowed displayedSub claims subject =>
      obtain ⟨userClaims, _, hrender⟩ := h
      unfold UserInfoUseCase.render at hrender
      obtain ⟨verified, hverified, rfl⟩ := map_eq_ok.mp hrender
      rw [get_update_withVerified]
      have hmember := userinfo_member hverified allowed displayedSub
      have hsub : Dict.get [("sub", Json.str displayedSub)] verifiedClaimsMember = none := by
        simp [Dict.get_cons, verifiedClaimsMember]
      rw [hsub, Option.or_none]
      exact hmember

/-- What the identity assurance answers is served from the profile of the subject. -/
theorem answerOf_some {raw : Json} {subject : String} {member : Json}
    (h : answerOf p store raw subject = .ok (some member)) :
    ∃ request claims profile payload, parseVerifiedClaimsRequest p raw = .ok request ∧
      subject ≠ "" ∧ store subject = .ok claims ∧ profileOf p claims = some profile ∧
        served profile request = some payload ∧ member = .obj payload := by
  unfold answerOf at h
  split at h
  · cases h
  · rename_i request hparse
    obtain ⟨found, hresolve, hmember⟩ := map_eq_ok.mp h
    obtain ⟨payload, hfound, rfl⟩ := Option.map_eq_some_iff.mp hmember
    unfold IdentityAssuranceUseCase.resolve at hresolve
    simp only at hresolve
    split at hresolve
    · rw [← Except.ok.inj hresolve] at hfound
      cases hfound
    · rename_i hsubject
      obtain ⟨claims, hclaims, hserved⟩ := map_eq_ok.mp hresolve
      rw [hfound] at hserved
      obtain ⟨profile, hprofile, hpayload⟩ := Option.bind_eq_some_iff.mp hserved
      exact ⟨request, claims, profile, payload, hparse, hsubject, hclaims, hprofile, hpayload, rfl⟩

theorem profileOf_some {claims : Members} {profile : VerifiedClaims}
    (h : profileOf p claims = some profile) :
    ∃ stored, parseVerifiedClaims p stored = .ok profile := by
  unfold profileOf at h
  split at h
  · cases h
  · cases h
  · rename_i raw _ _
    refine ⟨raw, ?_⟩
    cases hparse : parseVerifiedClaims p raw with
    | error e =>
        rw [hparse] at h
        cases h
    | ok found =>
        rw [hparse] at h
        cases h
        rfl

theorem answerOf_stored {raw stored : Json} {request : VerifiedClaimsRequest} {subject : String}
    {profile : VerifiedClaims} {payload : Members}
    (hparse : parseVerifiedClaimsRequest p raw = .ok request) (hsubject : subject ≠ "")
    (hstored : parseVerifiedClaims p stored = .ok profile)
    (hserved : PurIdentityServer.served profile request = some payload) :
    answerOf p (fun _ => .ok [(verifiedClaimsMember, stored)]) raw subject =
      .ok (some (.obj payload)) := by
  have hprofile : profileOf p [(verifiedClaimsMember, stored)] = some profile := by
    cases stored with
    | null | bool | num | str | arr => cases hstored
    | obj members =>
        show (parseVerifiedClaims p (.obj members)).toOption = some profile
        rw [hstored]
        rfl
  unfold answerOf IdentityAssuranceUseCase.resolve
  rw [hparse]
  simp only [hsubject, if_false]
  show Except.ok (Option.map Json.obj ((profileOf p [(verifiedClaimsMember, stored)]).bind _)) = _
  rw [hprofile, Option.bind_some, hserved]
  rfl

/-- Over a store that answers, the identity assurance answers. -/
theorem answerOf_total (p : Platform) (stored : Members) (raw : Json) (subject : String) :
    ∃ verified, answerOf p (fun _ => .ok stored) raw subject = .ok verified := by
  unfold answerOf
  split
  · exact ⟨_, rfl⟩
  · unfold IdentityAssuranceUseCase.resolve
    simp only
    split
    · exact ⟨_, rfl⟩
    · exact ⟨_, rfl⟩

theorem exists_resolvedTo (p : Platform) (stored : Members) (asked : Option Json)
    (subject : String) :
    ∃ verified, ResolvedTo (answerOf p fun _ => .ok stored) asked subject verified := by
  cases asked with
  | none => exact ⟨none, .inl ⟨rfl, rfl⟩⟩
  | some raw =>
      obtain ⟨verified, hverified⟩ := answerOf_total p stored raw subject
      exact ⟨verified, .inr ⟨raw, rfl, hverified⟩⟩

theorem exists_completesFor (base : Ports) (p : Platform) (stored : Members)
    (request : Option ClaimsRequest) (injected claimsProvider : Bool) (subject : String)
    (additional : Members) :
    ∃ served, CompletesFor (portsOver base p (fun _ => .ok stored) fun _ _ => .ok "") request
      injected claimsProvider subject additional served := by
  cases request with
  | none => exact ⟨_, .inl ⟨rfl, rfl⟩⟩
  | some found =>
      obtain ⟨verified, hverified⟩ := exists_resolvedTo p stored (askedOf injected found) subject
      by_cases hskip : found.idToken = [] ∨ ¬ claimsProvider ∨ subject = ""
      · exact ⟨_, .inr ⟨found, rfl, [], verified, by rw [if_pos hskip], hverified, rfl⟩⟩
      · refine ⟨_, .inr ⟨found, rfl, stored.filter fun m => m.1 ∈ found.idToken, verified, ?_,
          hverified, rfl⟩⟩
        rw [if_neg hskip]
        exact ⟨stored, rfl, rfl⟩

/-- Over a store that answers, a response is rendered. -/
theorem exists_renders (base : Ports) (p : Platform) (w : World) (stored : Members)
    (response : ClaimsResponse) :
    ∃ served, response.Renders base p w (fun _ => .ok stored) (fun _ _ => .ok "") served := by
  cases response with
  | tokenIdToken u request subject acr =>
      obtain ⟨served, hserved⟩ := exists_completesFor base p stored request u.identityAssurance
        u.claimsProvider subject (if acr = "" then [] else [("acr", .str acr)])
      exact ⟨served, w, TokenUseCase.run_requestedClaimsFor.mpr ⟨hserved, rfl⟩⟩
  | frontIdToken u i wantsToken =>
      obtain ⟨requested, hrequested⟩ := exists_completesFor base p stored i.claimsRequest
        u.identityAssurance u.claimsProvider i.request.subject
        (if firstSupportedAcr i.request.acrValues = "" then []
          else [("acr", .str (firstSupportedAcr i.request.acrValues))])
      have hgranted : ∃ granted, if i.code = "" ∧ ¬ wantsToken then
          u.Grants (portsOver base p (fun _ => .ok stored) fun _ _ => .ok "") w i.request.scope
            i.request.subject granted
          else granted = [] := by
        by_cases halone : i.code = "" ∧ ¬ wantsToken
        · simp only [if_pos halone]
          unfold AuthorizeUseCase.Grants
          by_cases hskip : ¬ u.claimsProvider ∨ i.request.subject = ""
          · exact ⟨[], by rw [if_pos hskip]⟩
          · refine ⟨stored.filter fun m => m.1 ∈ scopeClaims (u.resourcesOf w) i.request.scope, ?_⟩
            rw [if_neg hskip]
            exact ⟨stored, rfl, rfl⟩
        · exact ⟨[], by rw [if_neg halone]⟩
      obtain ⟨granted, hgranted⟩ := hgranted
      have hidentifier : (portsOver base p (fun _ => .ok stored) fun _ _ => .ok "").openid20Identifier
          i.request.subject i.request.openid2Realm = .ok "" := rfl
      obtain ⟨served, hrun, _⟩ := AuthorizeUseCase.run_of_adds ⟨hrequested, hgranted⟩ hidentifier
      exact ⟨served, w, hrun⟩
  | userinfo injected allowed displayedSub claims subject =>
      have hverified : ∃ verified, UserInfoUseCase.verifiedClaims
          { identityAssurance := if injected then
              some { platform := p, claims := some fun _ => .ok stored } else none }
          claims subject = .ok verified := by
        unfold UserInfoUseCase.verifiedClaims
        cases injected with
        | false => exact ⟨_, rfl⟩
        | true =>
            simp only [if_true]
            split
            · exact ⟨_, rfl⟩
            · unfold IdentityAssuranceUseCase.resolve
              simp only
              split
              · exact ⟨_, rfl⟩
              · exact ⟨_, rfl⟩
      obtain ⟨verified, hverified⟩ := hverified
      have hrender : ∃ served, UserInfoUseCase.render
          { identityAssurance := if injected then
              some { platform := p, claims := some fun _ => .ok stored } else none }
          allowed stored displayedSub claims subject = .ok served := by
        unfold UserInfoUseCase.render
        rw [hverified]
        exact ⟨_, rfl⟩
      obtain ⟨served, hserved⟩ := hrender
      exact ⟨served, stored, rfl, hserved⟩

/-- An exposed response carries whatever the store holds. -/
theorem member_of_exposes {response : ClaimsResponse} {raw : Json}
    (h : response.Renders base p w (fun _ => .ok [(verifiedClaimsMember, raw)]) identifier content)
    (hexposes : response.Exposes w) : Dict.get content verifiedClaimsMember = some raw := by
  cases response with
  | tokenIdToken | userinfo => cases hexposes
  | frontIdToken u i wantsToken =>
      obtain ⟨hcode, hwants, hinjected, hsubject, hlisted⟩ := hexposes
      obtain ⟨w', hrun⟩ := h
      obtain ⟨requested, granted, ⟨_, hgranted⟩, hget⟩ := AuthorizeUseCase.adds_of_run hrun
      rw [if_pos ⟨hcode, by simp [hwants]⟩] at hgranted
      unfold AuthorizeUseCase.Grants at hgranted
      rw [if_neg (by simp [hinjected, hsubject])] at hgranted
      obtain ⟨claims, hclaims, rfl⟩ := hgranted
      obtain rfl : [(verifiedClaimsMember, raw)] = claims := Except.ok.inj hclaims
      rw [hget]
      have hkept : [(verifiedClaimsMember, raw)].filter
          (fun m => m.1 ∈ scopeClaims (u.resourcesOf w) i.request.scope) =
            [(verifiedClaimsMember, raw)] := by
        simp [hlisted]
      rw [hkept]
      show Dict.get (Json.setMember requested verifiedClaimsMember raw) verifiedClaimsMember = _
      rw [Json.get_setMember, if_pos rfl]

end ClaimsResponse

/-- Whatever the store holds, the verified claims of a response are those resolved and respect
what it is asked, exactly when no granted scope brings the raw profile back and every
restriction asked is written in a form that is read. -/
theorem verified_claims_kept_iff (base : Ports) (p : Platform) (w : World)
    (response : ClaimsResponse)
    (hdistinct : ∀ raw, response.asked = some raw → DistinctClaims raw) :
    (∀ store identifier content, response.Renders base p w store identifier content →
      response.Kept p store content) ↔
      ¬ response.Exposes w ∧ ∀ raw request, response.asked = some raw →
        parseVerifiedClaimsRequest p raw = .ok request → response.subject ≠ "" →
        NeverServed p raw ∨ Understood p raw := by
  constructor
  · intro hkept
    have hexposes : ¬ response.Exposes w := by
      intro hexposes
      obtain ⟨content, hrenders⟩ := response.exists_renders base p w
        [(verifiedClaimsMember, .str "raw")]
      obtain ⟨_, _, _, _, hmember, _⟩ := hkept _ _ _ hrenders _
        (ClaimsResponse.member_of_exposes hrenders hexposes)
      cases hmember
    refine ⟨hexposes, ?_⟩
    intro raw request hasked hparse hsubject
    apply (served_respects hparse (hdistinct raw hasked)).mp
    intro stored profile payload hstored hserved
    obtain ⟨content, hrenders⟩ := response.exists_renders base p w [(verifiedClaimsMember, stored)]
    have hanswer := ClaimsResponse.answerOf_stored hparse hsubject hstored hserved
    rcases ClaimsResponse.member_of_renders hrenders hexposes with
      ⟨hnone, _⟩ | ⟨found, hfound, hverified⟩
    · rw [hnone] at hasked
      cases hasked
    · rw [hfound] at hasked
      cases hasked
      rw [hanswer] at hverified
      obtain ⟨again, served, hagain, hresolved, hmember, hrespects⟩ := hkept _ _ _ hrenders _
        (Except.ok.inj hverified).symm
      rw [hfound] at hagain
      cases hagain
      cases hmember
      exact hrespects
  · rintro ⟨hexposes, hasked⟩ store identifier content hrenders member hmember
    rcases ClaimsResponse.member_of_renders hrenders hexposes with
      ⟨_, hnone⟩ | ⟨raw, hraw, hverified⟩
    · rw [hnone] at hmember
      cases hmember
    · rw [hmember] at hverified
      obtain ⟨request, claims, profile, payload, hparse, hsubject, _, hprofile, hserved, rfl⟩ :=
        ClaimsResponse.answerOf_some hverified
      obtain ⟨stored, hstored⟩ := ClaimsResponse.profileOf_some hprofile
      refine ⟨raw, payload, hraw, hverified, rfl, ?_⟩
      exact (served_respects hparse (hdistinct raw hraw)).mpr (hasked raw request hraw hparse hsubject)
        stored profile payload hstored hserved

/-! ## A restriction that is not read, and a scope that lists the member -/

namespace ClaimsResponse.Sample

/-- A request that restricts the trust framework. -/
def framework : Json :=
  .obj [("verification", .obj [("trust_framework", .obj [("value", .str "de_aml")])]),
    ("claims", .obj [("age", .null)])]

/-- A request that restricts the age to one of a list. -/
def age : Json := .obj [("claims", .obj [("age", .obj [("values", .arr [.str "18"])])])]

def profile : Json :=
  .obj [("verification", .obj [("trust_framework", .str "de_aml")]),
    ("claims", .obj [("age", .str "12")])]

def store (_subject : String) : Raising Members := .ok [(verifiedClaimsMember, profile)]

def unmigrated (_subject _realm : String) : Raising String := .ok ""

def platform : Platform := PurIdentityServer.Sample.platform

def base : Ports := PurIdentityServer.Sample.ports

/-- The response of the userinfo endpoint to a request carried by the access token. -/
def asking (raw : Json) : ClaimsResponse :=
  .userinfo true ∅ "alice" [("claims", .obj [(verifiedClaimsRequestKey, raw)])] "alice"

def content : Members := [("sub", .str "alice"), (verifiedClaimsMember, profile)]

/-- The resource `openid`, listing the member. -/
def world : World :=
  { clock := 0
    identityResources := [{ name := "openid", userClaims := {"sub", verifiedClaimsMember} }] }

/-- An `id_token` issued alone, without a `claims` parameter. -/
def alone : ClaimsResponse :=
  .frontIdToken { platform := platform, config := {}, halfDigest := fun _ value => value }
    { request :=
        { responseType := "id_token", clientId := "app", redirectUri := "https://app/cb"
          scope := "openid", subject := "alice" }
      scopes := {Scope.openid}, client := PurIdentityServer.Sample.client, code := "", now := 0
      claimsRequest := none }
    false

theorem renders_framework :
    (asking framework).Renders base platform world store unmigrated content := ⟨_, rfl, rfl⟩

theorem renders_age : (asking age).Renders base platform world store unmigrated content :=
  ⟨_, rfl, rfl⟩

theorem renders_alone :
    alone.Renders base platform world store unmigrated [(verifiedClaimsMember, profile)] :=
  ⟨_, rfl⟩

theorem understood_framework : Understood platform framework := by
  constructor
  · intro constraint hconstraint
    cases hconstraint
    exact .inr (.inl (by decide))
  · intro constraint hconstraint
    cases hconstraint
  · intro name constraint hconstraint
    have hnone : claimConstraint framework name = none := by
      show ((Dict.get [("age", Json.null)] name).bind Json.asMembers) = none
      rw [Dict.get_cons]
      split <;> rfl
    rw [hnone] at hconstraint
    cases hconstraint

theorem distinct_framework : DistinctClaims framework := by
  intro claims hclaims
  cases hclaims
  exact List.nodup_singleton _

end ClaimsResponse.Sample

open ClaimsResponse.Sample in
/-- The response to a request that restricts the trust framework. -/
theorem verified_claims_kept_iff_framework : (asking framework).Kept platform store content := by
  have hasked : (asking framework).asked = some framework := rfl
  refine (verified_claims_kept_iff base platform world (asking framework) ?_).mpr
    ⟨fun h => h, ?_⟩ store unmigrated content renders_framework
  · intro raw hraw
    cases hasked.symm.trans hraw
    exact distinct_framework
  · intro raw request hraw _ _
    cases hasked.symm.trans hraw
    exact .inr understood_framework

open ClaimsResponse.Sample in
/-- A list of values restricts no claim, and a scope that lists the member brings the raw
profile into an `id_token` issued alone. -/
theorem verified_claims_not_kept :
    (asking age).Renders base platform world store unmigrated content ∧
    ¬ (asking age).Kept platform store content ∧
    alone.Renders base platform world store unmigrated [(verifiedClaimsMember, profile)] ∧
    ¬ alone.Kept platform store [(verifiedClaimsMember, profile)] := by
  refine ⟨renders_age, fun hkept => ?_, renders_alone, fun hkept => ?_⟩
  · obtain ⟨raw, payload, hraw, _, hpayload, hrespects⟩ := hkept profile rfl
    cases hraw
    cases hpayload
    rcases hrespects.claims "age" (.str "12") [("values", .arr [.str "18"])] rfl rfl with
      ⟨_, hvalues⟩ | ⟨found, hfound, ⟨_, hvalue⟩ | ⟨values, hvalues, hmem⟩⟩
    · cases hvalues _ rfl
    · cases hvalue
    · cases hfound
      cases hvalues
      simp at hmem
  · obtain ⟨raw, _, hraw, _⟩ := hkept profile rfl
    cases hraw

end PurIdentityServer

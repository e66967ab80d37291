import PurIdentityServer.Application.UserInfo
import PurIdentityServer.Interfaces.EndSession

/-!
# SessionUserInfo — what the tokens of one authorization are told

The access tokens of an authorization request are those of its response,
of the exchange of its code and of the renewals after it. At `/userinfo`
they are told of the end-user of the request (`subject_told_iff`) and of
the claims its scope and its `claims` parameter grant (`claim_told_iff`).
-/

namespace PurIdentityServer

open Effects Effects.Prog

/-! ## The access tokens of a grant -/

namespace TokenUseCase

variable {u : TokenUseCase} {ports : Ports} {w : World} {request : TokenRequest}

/-- The `claims` parameter an access token of the issuance answers. -/
def asked (u : TokenUseCase) (i : Issuance) : Option ClaimsRequest :=
  if Scope.openid ∈ i.scopes then u.claimsRequest i else none

/-- The calls that give out an access token or a refresh token. -/
def GivesAccess : Call → Prop
  | .createAccessToken _ | .saveRefreshToken _ => True
  | _ => False

/-- The call gives out an access token or a refresh token of the issuance. -/
def AccessFor (u : TokenUseCase) (i : Issuance) : Call → Prop
  | .createAccessToken claims => ∃ audience, claims = u.accessTokenClaims i audience (u.asked i)
  | .saveRefreshToken row => RenewedBy i row ∧ row.scopes = i.scopes
  | _ => False

theorem GivesAccess.area {c : Call} (h : GivesAccess c) :
    c.area ∈ [Area.accessTokens, Area.newRefreshTokens] := by
  cases c with
  | createAccessToken claims => exact List.mem_cons_self
  | saveRefreshToken row => exact List.mem_cons_of_mem _ List.mem_cons_self
  | _ => exact h.elim

/-- A part that gives out neither. -/
theorem no_access {ε α : Type} {p : M ε α} {areas : List Area} (hp : p.Uses (Call.In areas))
    (hareas : Area.accessTokens ∉ areas ∧ Area.newRefreshTokens ∉ areas) {c : Call}
    (hc : GivesAccess c) : c ∉ p.calls (exec ports) w := by
  refine AuthorizeUseCase.not_mem_calls hp ?_
  intro hmem
  rcases List.mem_cons.mp hc.area with haccess | hsaved
  · exact hareas.1 (haccess ▸ hmem)
  · exact hareas.2 (List.mem_singleton.mp hsaved ▸ hmem)

theorem accessFor_of_createAccessToken {i : Issuance} {claimsRequest : Option ClaimsRequest}
    {c : Call} (hc : GivesAccess c)
    (h : c ∈ (u.createAccessToken i claimsRequest).calls (exec ports) w) :
    ∃ audience, c = .createAccessToken (u.accessTokenClaims i audience claimsRequest) := by
  unfold createAccessToken at h
  rcases mem_calls_bind.mp h with hmem | ⟨audience, w₁, -, hrest⟩
  · exact absurd hmem (no_access (u.resolveAudience_uses _ _ _) (by decide) hc)
  rcases mem_calls_ask_bind.mp hrest with hcall | hmem
  · exact ⟨audience, hcall⟩
  · exact absurd hmem AuthorizeUseCase.not_mem_calls_orRaise

theorem accessFor_of_issueTokens {i : Issuance} {c : Call} (hc : GivesAccess c)
    (h : c ∈ (u.issueTokens i).calls (exec ports) w) : u.AccessFor i c := by
  unfold issueTokens at h
  split at h
  · rename_i hopenid
    have hasked : u.asked i = none := if_neg hopenid
    unfold issueAccessToken at h
    rcases mem_calls_bind.mp h with hmem | ⟨issued, w₁, -, hmem⟩
    · rcases mem_calls_bind.mp hmem with hmem | ⟨accessToken, w₂, -, hmem⟩
      · obtain ⟨audience, rfl⟩ := accessFor_of_createAccessToken hc hmem
        exact ⟨audience, by rw [hasked]⟩
      · cases hmem
    · cases hmem
  · rename_i hopenid
    have hasked : u.asked i = u.claimsRequest i := if_pos (not_not.mp hopenid)
    rcases mem_calls_bind.mp h with hmem | ⟨idToken, w₁, -, hrest⟩
    · exact absurd hmem (no_access (u.issueIdToken_uses _ _) (by decide) hc)
    rcases mem_calls_bind.mp hrest with hmem | ⟨accessToken, w₂, -, hmem⟩
    · obtain ⟨audience, rfl⟩ := accessFor_of_createAccessToken hc hmem
      exact ⟨audience, by rw [hasked]⟩
    · cases hmem

theorem accessFor_of_issueRefreshToken {i : Issuance} {c : Call} (hc : GivesAccess c)
    (h : c ∈ (u.issueRefreshToken i).calls (exec ports) w) : u.AccessFor i c := by
  unfold issueRefreshToken at h
  rcases mem_calls_ask_bind.mp h with rfl | h
  · exact hc.elim
  rcases mem_calls_ask_bind.mp h with rfl | h
  · exact ⟨⟨rfl, rfl, rfl⟩, rfl⟩
  · cases h

theorem accessFor_of_exchangeCode {c : Call} (hc : GivesAccess c)
    (h : c ∈ (u.exchangeCode request).calls (exec ports) w) :
    ∃ g : Granted AuthorizationCode, w.codes.find request.code = some g.stored ∧
      w.findClient ports request.clientId = some g.client ∧
        u.AccessFor (u.codeIssuance request g) c := by
  rcases mem_calls_bind.mp h with hmem | ⟨g, w₁, hcheck, hrest⟩
  · exact absurd hmem (no_access (u.checkCode_uses request) (by decide) hc)
  obtain ⟨hfound, -, hclient, -⟩ := run_ok checkCode_found hcheck
  refine ⟨g, hfound, hclient, ?_⟩
  unfold redeemCode at hrest
  rcases mem_calls_ask_bind.mp hrest with rfl | hrest
  · exact hc.elim
  rcases mem_calls_bind.mp hrest with hmem | ⟨refreshToken, w₂, -, hrest₁⟩
  · unfold offlineRefreshToken at hmem
    split at hmem
    · exact accessFor_of_issueRefreshToken hc hmem
    · cases hmem
  rcases mem_calls_bind.mp hrest₁ with hmem | ⟨issued, w₃, -, hmem⟩
  · exact accessFor_of_issueTokens hc hmem
  · rcases mem_calls_ask_bind.mp hmem with rfl | hmem
    · exact hc.elim
    · cases hmem

/-- A renewal has the scopes of the refresh token, or some of them. -/
theorem checkRefresh_narrows :
    wp (Monitor.ofExec (exec ports)) (u.checkRefresh request)
      (fun _ g => g.stored.2 ⊆ g.stored.1.scopes) (fun _ _ => True) w := by
  unfold checkRefresh
  refine wp_refuseIf_bind.mpr ⟨fun _ => trivial, fun _ => ?_⟩
  refine (wp_bind _ _).mpr (wp_mono (activeClient_found _ _) ?_ fun _ _ h => h)
  rintro _ client ⟨rfl, -⟩
  refine wp_same_bind (u.authenticateClient_uses _ _) rfl (fun _ _ _ => trivial) fun w₁ _ _ => ?_
  refine (wp_bind _ _).mpr (wp_mono (Q := fun _ resolved => resolved.2 ⊆ resolved.1.scopes)
    (E := fun _ _ => True) ?_ ?_ fun _ _ h => h)
  · unfold resolveRefreshGrant
    refine wp_orRefuse_bind.mpr (wp_op.mpr ⟨trivial, ?_⟩)
    rintro found rfl
    refine ⟨fun _ => trivial, fun row hrow => ?_⟩
    refine wp_refuseIf_bind.mpr ⟨fun _ => trivial, fun _ => ?_⟩
    refine wp_refuseIf_bind.mpr ⟨fun _ => trivial, fun _ => ?_⟩
    refine wp_exec_bind.mpr ?_
    refine wp_refuseIf_bind.mpr ⟨fun _ => trivial, fun _ => ?_⟩
    refine wp_refuseIf_bind.mpr ⟨fun _ => trivial, fun hscope => ?_⟩
    refine wp_pure.mpr ?_
    show (if request.scope ≠ "" then Scope.fromSpaceSeparated request.scope else row.scopes) ⊆
      row.scopes
    split
    · rename_i hne
      by_contra hwider
      exact hscope ⟨hne, hwider⟩
    · exact Finset.Subset.refl _
  rintro w₂ ⟨stored, scopes⟩ hnarrow
  refine wp_refuseIf_bind.mpr ⟨fun _ => trivial, fun _ => ?_⟩
  refine wp_exec_bind.mpr ?_
  refine wp_same_bind (u.evaluateDpop_uses _ _ _) rfl (fun _ _ _ => trivial) fun w₃ binding _ => ?_
  refine wp_same_bind (u.effectiveResources_uses _ _) rfl (fun _ _ _ => trivial)
    fun w₄ resources _ => ?_
  exact wp_pure.mpr hnarrow

theorem accessFor_of_refresh {c : Call} (hc : GivesAccess c)
    (h : c ∈ (u.refresh request).calls (exec ports) w) :
    ∃ g : Granted (RefreshToken × Finset Scope),
      w.refreshTokens.find (tokenHash u.platform request.refreshToken) = some g.stored.1 ∧
        w.findClient ports request.clientId = some g.client ∧
          g.stored.2 ⊆ g.stored.1.scopes ∧ u.AccessFor (u.refreshIssuance request g) c := by
  rcases mem_calls_bind.mp h with hmem | ⟨g, w₁, hcheck, hrest⟩
  · exact absurd hmem (no_access (u.checkRefresh_uses request) (by decide) hc)
  obtain ⟨hfound, hclient⟩ := run_ok checkRefresh_found hcheck
  have hnarrow := run_ok (Q := fun _ g => g.stored.2 ⊆ g.stored.1.scopes) (E := fun _ _ => True)
    checkRefresh_narrows hcheck
  refine ⟨g, hfound, hclient, hnarrow, ?_⟩
  unfold renew at hrest
  rcases mem_calls_bind.mp hrest with hmem | ⟨refreshToken, w₂, -, hrest₁⟩
  · unfold rotate at hmem
    split at hmem
    · cases hmem
    rcases mem_calls_ask_bind.mp hmem with rfl | hmem
    · exact hc.elim
    have hrenewed := accessFor_of_issueRefreshToken hc hmem
    cases c with
    | saveRefreshToken row =>
        obtain ⟨⟨hclientId, hsubject, hmaterial⟩, hscopes⟩ := hrenewed
        exact ⟨⟨hclientId, hsubject, hmaterial⟩, hscopes⟩
    | createAccessToken claims =>
        have hsaves : Area.accessTokens ∉ [Area.draws, Area.newRefreshTokens] := by decide
        exact absurd hmem (AuthorizeUseCase.not_mem_calls (u.issueRefreshToken_uses _) hsaves)
    | _ => exact hc.elim
  rcases mem_calls_bind.mp hrest₁ with hmem | ⟨issued, w₃, -, hmem⟩
  · exact accessFor_of_issueTokens hc hmem
  · cases hmem

end TokenUseCase

namespace AuthorizeUseCase

variable {u : AuthorizeUseCase} {ports : Ports} {w : World} {request : AuthorizeRequest}

/-- An access token of an authorization response is issued for the validated request. -/
theorem access_of_execute {claims : AccessTokenClaims}
    (h : .createAccessToken claims ∈ (u.execute request).calls (exec ports) w) :
    ∃ validated w₀ audience, u.Validates ports request w validated w₀ ∧
      claims = u.accessTokenClaims (u.issuanceOf ports request validated w₀) audience := by
  have hnone : ∀ {areas : List Area} {α : Type} {p : M AuthorizeError α} {w : World},
      p.Uses (Call.In areas) → Area.accessTokens ∉ areas →
        .createAccessToken claims ∉ p.calls (exec ports) w :=
    fun hp hareas => not_mem_calls hp hareas
  unfold execute at h
  rcases mem_calls_bind.mp h with hvalidation | ⟨validated, w₀, hvalidates, hrespond⟩
  · exact absurd hvalidation (hnone (validateAuthorizationRequest_uses ..) (by decide))
  unfold respond at hrespond
  rcases mem_calls_bind.mp hrespond with hcode | ⟨code, w₁, hcode, hrest⟩
  · split at hcode
    · exact absurd hcode (hnone (u.issueCode_uses _ _ _) (by decide))
    · cases hcode
  rw [code_run] at hcode
  cases hcode
  rcases mem_calls_bind.mp hrest with htokens | ⟨tokens, w₂, -, hrest₁⟩
  · split at htokens
    · refine ⟨validated, w₀, ?_⟩
      change .createAccessToken claims ∈ Call.now :: (u.issueAccessToken
        (u.frontIssuance request validated.client (codeOf ports validated w₀)
          (u.afterCode ports request validated w₀).clock) validated.wantsToken >>= _).calls
            (exec ports) _ at htokens
      rw [afterCode_clock] at htokens
      rcases List.mem_cons.mp htokens with hnow | hissue
      · cases hnow
      rcases mem_calls_bind.mp hissue with haccess | ⟨⟨token, atHash⟩, w₂, -, hrest⟩
      · unfold issueAccessToken at haccess
        split at haccess
        · rcases mem_calls_bind.mp haccess with hmem | ⟨audience, w₃, -, hrest⟩
          · exact absurd hmem (hnone (u.resolveAudience_uses _ _ _) (by decide))
          rcases mem_calls_bind.mp hrest with hmem | ⟨accessToken, w₄, -, hrest⟩
          · rcases TokenUseCase.mem_calls_ask_bind.mp hmem with hcall | hmem
            · cases hcall
              exact ⟨audience, hvalidates, rfl⟩
            · exact absurd hmem not_mem_calls_orRaise
          rcases mem_calls_bind.mp hrest with hmem | ⟨atHash, w₅, -, hpure⟩
          · exact absurd hmem not_mem_calls_orRaise
          · cases hpure
        · cases haccess
      · rcases mem_calls_bind.mp hrest with hidToken | ⟨idToken, w₂, -, hpure⟩
        · exact absurd hidToken (hnone (u.issueIdToken_uses _ _ _ _) (by decide))
        · cases hpure
    · cases htokens
  rcases mem_calls_bind.mp hrest₁ with hsession | ⟨sessionState, w₃, -, hrest₂⟩
  · exact absurd hsession (hnone (u.resolveSessionState_uses request) (by decide))
  rcases mem_calls_bind.mp hrest₂ with hredirect | ⟨uri, w₄, -, hpure⟩
  · exact absurd hredirect (hnone (u.responseRedirectUri_uses _ _ _) (by decide))
  · cases hpure

end AuthorizeUseCase

/-! ## The tokens of one authorization -/

/-- Where an access token comes from. -/
inductive TokenOrigin where
  | response | exchange | renewal
  deriving DecidableEq

namespace SessionServer

variable {κ : Type} (d : SessionServer κ) (authz : AuthorizeRequest)

/-- A code of the authorization. -/
def CodeOf (row : AuthorizationCode) : Prop :=
  ∃ w, .saveCode row ∈ (d.authorize.execute authz).calls (exec d.ports) w

/-- A refresh token of the authorization, and the code it comes from. -/
inductive RefreshOf : String → RefreshToken → Prop
  | issued {row : AuthorizationCode} {request : TokenRequest} {w : World} {r : RefreshToken}
      (code : d.CodeOf authz row)
      (grant : request.grantType = "authorization_code")
      (found : w.codes.find request.code = some row)
      (saved : .saveRefreshToken r ∈ (d.tokens.execute request).calls (exec d.ports) w) :
      RefreshOf row.code r
  | renewed {code : String} {row r : RefreshToken} {request : TokenRequest} {w : World}
      (refresh : RefreshOf code row)
      (grant : request.grantType = "refresh_token")
      (found : w.refreshTokens.find (tokenHash d.tokens.platform request.refreshToken) = some row)
      (saved : .saveRefreshToken r ∈ (d.tokens.execute request).calls (exec d.ports) w) :
      RefreshOf code r

/-- An access token of the authorization, signed under a registry of clients, with the code it
comes from: the one of the authorization response, empty when that had none. -/
inductive AccessOf (clients : Table Client.clientId) :
    String → TokenOrigin → AccessTokenClaims → Prop
  | response {w : World} {code : String} {claims : AccessTokenClaims}
      (registry : w.clients = clients)
      (signed : .createAccessToken claims ∈ (d.authorize.execute authz).calls (exec d.ports) w)
      (coded : ∀ row, .saveCode row ∈ (d.authorize.execute authz).calls (exec d.ports) w →
        row.code = code)
      (uncoded : (∀ row, .saveCode row ∉
        (d.authorize.execute authz).calls (exec d.ports) w) → code = "") :
      AccessOf clients code .response claims
  | exchanged {row : AuthorizationCode} {request : TokenRequest} {w : World}
      {claims : AccessTokenClaims}
      (registry : w.clients = clients)
      (code : d.CodeOf authz row)
      (grant : request.grantType = "authorization_code")
      (found : w.codes.find request.code = some row)
      (signed : .createAccessToken claims ∈ (d.tokens.execute request).calls (exec d.ports) w) :
      AccessOf clients row.code .exchange claims
  | renewed {code : String} {row : RefreshToken} {request : TokenRequest} {w : World}
      {claims : AccessTokenClaims}
      (registry : w.clients = clients)
      (refresh : d.RefreshOf authz code row)
      (grant : request.grantType = "refresh_token")
      (found : w.refreshTokens.find (tokenHash d.tokens.platform request.refreshToken) = some row)
      (signed : .createAccessToken claims ∈ (d.tokens.execute request).calls (exec d.ports) w) :
      AccessOf clients code .renewal claims

/-- The `claims` parameter of the authorization that a token of an origin answers: a renewal
forgets it, and the exchange looks at it for an `openid` scope only. -/
def askedBy (origin : TokenOrigin) (scopes : Finset Scope) : Option ClaimsRequest :=
  match origin with
  | .response => if authz.claims = "" then none
      else parseClaimsParameter d.authorize.platform authz.claims
  | .exchange =>
      if Scope.openid ∈ scopes then
        if authz.claims = "" then none else parseClaimsParameter d.tokens.platform authz.claims
      else none
  | .renewal => none

/-- What an access token of the authorization warrants, to the client it was issued to. -/
structure WarrantedTo (code : String) (origin : TokenOrigin) (claims : AccessTokenClaims)
    (client : Client) : Prop where
  warrants : claims.Warrants client authz.subject (material authz.sessionId code)
    (d.askedBy authz origin claims.scopes)
  scopes : claims.scopes ⊆ Scope.fromSpaceSeparated authz.scope
  drawn : code = "" ∨ ∃ n, code = d.ports.tokenUrlsafe n

variable {d authz}

theorem CodeOf.row {row : AuthorizationCode} (h : d.CodeOf authz row) :
    row.subject = authz.subject ∧ row.subjectMaterial = material authz.sessionId row.code ∧
      row.scopes = Scope.fromSpaceSeparated authz.scope ∧ row.claims = authz.claims ∧
      ∃ n, row.code = d.ports.tokenUrlsafe n := by
  obtain ⟨w, hsaved⟩ := h
  obtain ⟨validated, w₀, -, -, rfl⟩ := AuthorizeUseCase.saveCode_mem_execute.mp hsaved
  exact ⟨rfl, rfl, rfl, rfl, w₀.draws, rfl⟩

/-- What a request of the token endpoint gives out for a code it names. -/
theorem accessFor_code {request : TokenRequest} {w : World} {c : Call}
    (hc : TokenUseCase.GivesAccess c) (hgrant : request.grantType = "authorization_code")
    (h : c ∈ (d.tokens.execute request).calls (exec d.ports) w) {row : AuthorizationCode}
    (hrow : w.codes.find request.code = some row) :
    ∃ clientId i, w.findClient d.ports clientId = some i.client ∧ i.subject = row.subject ∧
      i.subjectMaterial = row.subjectMaterial ∧ i.scopes = row.scopes ∧
        i.context.claims = row.claims ∧ d.tokens.AccessFor i c := by
  obtain ⟨clientId, hexecute⟩ := d.tokens.execute_cases request
  rw [hexecute, TokenUseCase.dispatch, if_pos hgrant] at h
  obtain ⟨g, hfound, hclient, haccess⟩ := TokenUseCase.accessFor_of_exchangeCode hc h
  have hsame : g.stored = row := by
    rw [hrow] at hfound
    exact (Option.some.inj hfound).symm
  exact ⟨clientId, _, hclient, congrArg AuthorizationCode.subject hsame,
    congrArg AuthorizationCode.subjectMaterial hsame, congrArg AuthorizationCode.scopes hsame,
    congrArg AuthorizationCode.claims hsame, haccess⟩

/-- What a request of the token endpoint gives out for a refresh token it names. -/
theorem accessFor_refresh {request : TokenRequest} {w : World} {c : Call}
    (hc : TokenUseCase.GivesAccess c) (hgrant : request.grantType = "refresh_token")
    (h : c ∈ (d.tokens.execute request).calls (exec d.ports) w) {row : RefreshToken}
    (hrow : w.refreshTokens.find (tokenHash d.tokens.platform request.refreshToken) = some row) :
    ∃ clientId i, w.findClient d.ports clientId = some i.client ∧ i.subject = row.subject ∧
      i.subjectMaterial = row.subjectMaterial ∧ i.scopes ⊆ row.scopes ∧
        d.tokens.asked i = none ∧ d.tokens.AccessFor i c := by
  obtain ⟨clientId, hexecute⟩ := d.tokens.execute_cases request
  have hcode : request.grantType ≠ "authorization_code" := by
    rw [hgrant]
    decide
  rw [hexecute, TokenUseCase.dispatch, if_neg hcode, if_pos hgrant] at h
  obtain ⟨g, hfound, hclient, hnarrow, haccess⟩ := TokenUseCase.accessFor_of_refresh hc h
  have hsame : g.stored.1 = row := by
    rw [hrow] at hfound
    exact (Option.some.inj hfound).symm
  refine ⟨clientId, _, hclient, congrArg RefreshToken.subject hsame,
    congrArg RefreshToken.subjectMaterial hsame, hsame ▸ hnarrow, ?_, haccess⟩
  unfold TokenUseCase.asked
  split
  · exact if_pos rfl
  · rfl

theorem RefreshOf.row {code : String} {r : RefreshToken} (h : d.RefreshOf authz code r) :
    r.subject = authz.subject ∧ r.subjectMaterial = material authz.sessionId code ∧
      r.scopes ⊆ Scope.fromSpaceSeparated authz.scope ∧ ∃ n, code = d.ports.tokenUrlsafe n := by
  induction h with
  | issued code grant found saved =>
      obtain ⟨hsubject, hmaterial, hscopes, -, hdrawn⟩ := code.row
      obtain ⟨clientId, i, -, hi, hm, hs, -, hrenewed, hrow⟩ :=
        accessFor_code (c := .saveRefreshToken _) trivial grant saved found
      refine ⟨hrenewed.subject.trans (hi.trans hsubject),
        hrenewed.subjectMaterial.trans (hm.trans hmaterial), ?_, hdrawn⟩
      rw [hrow, hs, hscopes]
  | renewed refresh grant found saved ih =>
      obtain ⟨hsubject, hmaterial, hscopes, hdrawn⟩ := ih
      obtain ⟨clientId, i, -, hi, hm, hs, -, hrenewed, hrow⟩ :=
        accessFor_refresh (c := .saveRefreshToken _) trivial grant saved found
      refine ⟨hrenewed.subject.trans (hi.trans hsubject),
        hrenewed.subjectMaterial.trans (hm.trans hmaterial), ?_, hdrawn⟩
      rw [hrow]
      exact hs.trans hscopes

/-- The code an authorization response is issued with. -/
theorem codeOf_eq {w : World} {validated : ValidatedAuthorization} {w₀ : World} {code : String}
    (hvalidates : d.authorize.Validates d.ports authz w validated w₀)
    (coded : ∀ row, .saveCode row ∈ (d.authorize.execute authz).calls (exec d.ports) w →
      row.code = code)
    (uncoded : (∀ row, .saveCode row ∉
      (d.authorize.execute authz).calls (exec d.ports) w) → code = "") :
    AuthorizeUseCase.codeOf d.ports validated w₀ = code ∧
      (code = "" ∨ ∃ n, code = d.ports.tokenUrlsafe n) := by
  unfold AuthorizeUseCase.codeOf
  split
  · rename_i hwants
    have hcoded := coded _ (AuthorizeUseCase.saveCode_mem_execute.mpr
      ⟨validated, w₀, hvalidates, hwants, rfl⟩)
    exact ⟨hcoded, .inr ⟨w₀.draws, hcoded.symm⟩⟩
  · rename_i hwants
    have hempty : code = "" := by
      apply uncoded
      intro row hmem
      obtain ⟨validated', w₂, hvalidates', hwants', -⟩ :=
        AuthorizeUseCase.saveCode_mem_execute.mp hmem
      have hrun := hvalidates.symm.trans hvalidates'
      cases hrun
      exact hwants hwants'
    exact ⟨hempty.symm, .inl hempty⟩

/-- An access token of the authorization warrants what the end-user granted in it, to a client of
the registry. -/
theorem AccessOf.warranted {clients : Table Client.clientId} {code : String}
    {origin : TokenOrigin} {claims : AccessTokenClaims}
    (h : d.AccessOf authz clients code origin claims) :
    ∃ client, d.WarrantedTo authz code origin claims client ∧
      ∀ registered, clients.find client.clientId = some registered → client = registered := by
  cases h with
  | @response w code claims registry signed coded uncoded =>
      obtain ⟨validated, w₀, audience, hvalidates, rfl⟩ :=
        AuthorizeUseCase.access_of_execute signed
      obtain ⟨hcode, hdrawn⟩ := codeOf_eq hvalidates coded uncoded
      subst hcode
      refine ⟨validated.client, ⟨?_, Finset.Subset.refl _, hdrawn⟩, fun registered hregistered =>
        client_of_audience registry hvalidates.found hregistered⟩
      exact d.authorize.warrants (d.authorize.issuanceOf d.ports authz validated w₀) audience
  | @exchanged row request w claims registry code grant found signed =>
      obtain ⟨hsubject, hmaterial, hscopes, hclaims, hdrawn⟩ := code.row
      obtain ⟨clientId, i, hclient, hi, hm, hs, hc, audience, rfl⟩ :=
        accessFor_code (c := .createAccessToken _) trivial grant signed found
      have hwarrants := d.tokens.warrants i audience (d.tokens.asked i)
      have hasked : d.tokens.asked i = d.askedBy authz .exchange i.scopes := by
        unfold TokenUseCase.asked TokenUseCase.claimsRequest
        rw [hc, hclaims]
        rfl
      rw [hi.trans hsubject, hm.trans hmaterial, hasked] at hwarrants
      refine ⟨i.client, ⟨hasked ▸ hwarrants, ?_, .inr hdrawn⟩, fun registered hregistered =>
        client_of_audience registry hclient hregistered⟩
      show i.scopes ⊆ _
      rw [hs, hscopes]
  | @renewed code row request w claims registry refresh grant found signed =>
      obtain ⟨hsubject, hmaterial, hscopes, hdrawn⟩ := refresh.row
      obtain ⟨clientId, i, hclient, hi, hm, hs, hasked, audience, rfl⟩ :=
        accessFor_refresh (c := .createAccessToken _) trivial grant signed found
      have hwarrants := d.tokens.warrants i audience (d.tokens.asked i)
      rw [hi.trans hsubject, hm.trans hmaterial] at hwarrants
      refine ⟨i.client, ⟨?_, hs.trans hscopes, .inr hdrawn⟩, fun registered hregistered =>
        client_of_audience registry hclient hregistered⟩
      rw [hasked] at hwarrants ⊢
      exact hwarrants

end SessionServer

/-! ## What they are told -/

/-- A session server with its userinfo endpoint, over one platform and one seed. -/
structure UserInfoServer (κ : Type) extends SessionServer κ where
  userinfo : UserInfoEndpoint κ
  userinfo_platform : userinfo.guard.platform = logout.platform
  userinfo_seed : userinfo.subjectSeed = logout.config.subjectSeed

namespace UserInfoServer

variable {κ : Type} {d : UserInfoServer κ} {authz : AuthorizeRequest}
  {clients : Table Client.clientId} {code : String} {origin : TokenOrigin}
  {claims : AccessTokenClaims} {jti : String} {now : Instant} {denylist : Denylist}
  {request : BearerRequest} {served : UserInfoResponse}

/-- A claim of the profile is served for a token of an authorization exactly when one of the
token's scopes, which were all asked for, names a resource that has it, or the `claims` parameter
of the authorization asks for it and the token carries that parameter. -/
theorem claim_told_iff (htoken : d.AccessOf authz clients code origin claims)
    (hpayload : d.userinfo.guard.tokens.jwt.payload request.accessToken =
      some (claims.payload jti))
    (hserved : d.userinfo.execute now denylist request = .ok served) :
    claims.scopes ⊆ Scope.fromSpaceSeparated authz.scope ∧
      ∀ name value, name ≠ "sub" → name ≠ verifiedClaimsMember →
        (Dict.get served.claims name = some value ↔
          ∃ userClaims, d.userinfo.claimsProvider authz.subject = .ok userClaims ∧
            Dict.get userClaims name = some value ∧
            ((∃ resource ∈ d.userinfo.resources, resource.name ∈ claims.scopes ∧
                name ∈ resource.userClaims) ∨
              name ∈ userinfoNames (d.askedBy authz origin claims.scopes))) := by
  obtain ⟨client, hwarranted, -⟩ := htoken.warranted
  refine ⟨hwarranted.scopes, fun name value hsub hverified => ?_⟩
  obtain ⟨userClaims, verified, displayed, huser, -, hclaims⟩ :=
    UserInfoEndpoint.served_of_warrants hwarranted.warrants hpayload hserved
  have hwords : ∀ scope ∈ claims.scopes, Text.Word scope := fun scope hscope =>
    words_of_fromSpaceSeparated (hwarranted.scopes hscope)
  rw [hclaims, UserInfoEndpoint.get_rendered (d.userinfo.claims_nodup huser) hverified,
    if_neg hsub, Option.or_none, Option.ite_none_right_eq_some,
    UserInfoEndpoint.mem_allowedClaims hwords hwarranted.warrants, or_iff_right hsub]
  constructor
  · rintro ⟨hgranted, hget⟩
    exact ⟨userClaims, huser, hget, hgranted⟩
  · rintro ⟨found, hfound, hget, hgranted⟩
    rw [huser] at hfound
    cases hfound
    exact ⟨hgranted, hget⟩

/-- The `sub` served for a token of an authorization is the one of an `id_token` of the client
exactly when both are of one end-user and, for a client whose subjects depend on the session, of
one session; a `sub` the profile has is served instead. -/
theorem subject_told_iff {sid code' subject : String} {idToken : IdTokenClaims} {client : Client}
    (hidToken : d.SessionIdToken subject sid clients code' idToken)
    (htoken : d.AccessOf authz clients code origin claims)
    (hclient : clients.find idToken.audience = some client)
    (hfinds : d.userinfo.Finds client)
    (hissued : Dict.get (claims.payload jti) "client_id" = some (.str idToken.audience))
    (hderives : DerivesApart d.logout.platform)
    (hdraws : SessionServer.DrawsUnseparated d.ports)
    (hsid : Unseparated sid) (hsession : Unseparated authz.sessionId) (hsubject : subject ≠ "")
    (hpayload : d.userinfo.guard.tokens.jwt.payload request.accessToken =
      some (claims.payload jti))
    (hserved : d.userinfo.execute now denylist request = .ok served) :
    Dict.get served.claims "sub" = some (.str idToken.subject) ↔
      ∃ userClaims, d.userinfo.claimsProvider authz.subject = .ok userClaims ∧
        (Dict.get userClaims "sub" = some (.str idToken.subject) ∨
          Dict.get userClaims "sub" = none ∧ authz.subject = subject ∧
            (client.Ephemeral d.logout.config.subjectSeed →
              SessionServer.material authz.sessionId code =
                SessionServer.material sid code')) := by
  obtain ⟨issued, hwarranted, hregistered⟩ := htoken.warranted
  have htells := hidToken.tellsSession hclient
  -- the client the token was issued to is the one of the `id_token`
  have hclientId : Dict.get (claims.payload jti) "client_id" = _ :=
    hwarranted.warrants.payload_clientId
  rw [hissued] at hclientId
  have hauthz : authz.subject ≠ "" := by
    intro hempty
    rw [if_pos hempty] at hclientId
    cases hclientId
  rw [if_neg hauthz] at hclientId
  have hid : idToken.audience = issued.clientId := Json.str.inj (Option.some.inj hclientId)
  have hsame : issued = client := hregistered client (hid ▸ hclient)
  subst hsame
  obtain ⟨userClaims, verified, displayed, huser, hdisplayed, hclaims⟩ :=
    UserInfoEndpoint.served_of_warrants hwarranted.warrants hpayload hserved
  rw [UserInfoEndpoint.displayedSub_of_warrants hfinds hwarranted.warrants, d.userinfo_platform,
    d.userinfo_seed] at hdisplayed
  have hunseparated : ∀ {sid code}, Unseparated sid →
      (code = "" ∨ ∃ n, code = d.ports.tokenUrlsafe n) →
        Unseparated (SessionServer.material sid code) := by
    intro sid code hsid hdrawn
    unfold SessionServer.material
    split
    · exact hsid
    · rcases hdrawn with rfl | ⟨n, rfl⟩
      · exact List.not_mem_nil
      · exact hdraws n
  have hsubjects := displaySubject_eq_iff hderives hauthz hsubject
    (hunseparated hsession hwarranted.drawn) (hunseparated hsid htells.drawn) hdisplayed
    htells.displayed
  rw [hclaims, UserInfoEndpoint.get_rendered (d.userinfo.claims_nodup huser) (by decide),
    if_pos (UserInfoEndpoint.sub_allowed _), if_pos rfl]
  constructor
  · intro h
    refine ⟨userClaims, huser, ?_⟩
    cases hget : Dict.get userClaims "sub" with
    | some value =>
        rw [hget, Option.some_or] at h
        exact .inl h
    | none =>
        rw [hget, Option.none_or] at h
        cases h
        exact .inr ⟨rfl, hsubjects.mp rfl⟩
  · rintro ⟨found, hfound, hget⟩
    rw [huser] at hfound
    cases hfound
    rcases hget with hget | ⟨hget, hsubject⟩
    · rw [hget, Option.some_or]
    · rw [hget, Option.none_or, hsubjects.mpr hsubject]

end UserInfoServer

/-! ### A response with both tokens -/

namespace UserInfoServer.Sample

open PurIdentityServer.Sample (platform ports)

/-- A client whose subjects depend on the session. -/
def client : Client := { PurIdentityServer.Sample.client with subjectType := .ephemeral }

def world : World := { clock := 0, clients := Table.empty.save client }

/-- A request of the session `s1`, for both tokens. -/
def authorization : AuthorizeRequest :=
  { AuthorizeUseCase.Sample.request "id_token token" "" with
    scope := "openid email", sessionId := "s1" }

def idToken : IdTokenClaims where
  algorithm := .rs256
  issuer := "https://op"
  subject := "ephemeral\x00alice\x00s1"
  audience := "app"
  expiresAt := 3600
  issuedAt := 0
  nonce := "n"
  sessionId := "s1"
  atHash := AuthorizeUseCase.Sample.lengths .rs256 ""

def accessToken : AccessTokenClaims where
  algorithm := .rs256
  issuer := "https://op"
  subject := "alice"
  audience := .one "app"
  expiresAt := 3600
  issuedAt := 0
  scopes := Scope.fromSpaceSeparated "openid email"
  additionalClaims := [("client_id", .str "app"), ("subject_material", .str "s1")]

def authorize : AuthorizeUseCase :=
  { AuthorizeUseCase.Sample.useCase with
    config := { issuer := "https://op", subjectSeed := "seed" } }

def idTokensOf (calls : List Call) : List IdTokenClaims :=
  calls.filterMap fun
    | .createIdToken claims => some claims
    | _ => none

theorem idTokens_eq :
    idTokensOf ((authorize.execute authorization).calls (exec ports) world) = [idToken] := by rfl

theorem accessTokens_eq :
    accessTokensOf ((authorize.execute authorization).calls (exec ports) world) =
      [accessToken] := by rfl

def tokens : Dict String Members := [("at", accessToken.payload "j")]

def jwt : PyJwt Unit where
  header token := (Dict.get tokens token).map fun _ => ServerToken.Sample.header
  payload token := Dict.get tokens token
  signed token _ algorithms := (Dict.get tokens token).isSome && algorithms.contains "RS256"
  publicKey _ := none
  secretKey _ := ()
  importRaises_none := ServerToken.Sample.no_import_raises
  signed_algorithm := by
    intro token key algorithms h
    rw [Bool.and_eq_true] at h
    obtain ⟨claims, hclaims⟩ := Option.isSome_iff_exists.mp h.1
    exact ⟨ServerToken.Sample.header, "RS256", by rw [hclaims]; rfl, rfl, by simpa using h.2⟩

/-- The profile of every end-user. -/
def profile : Members := [("email", .str "alice@app.example"), ("name", .str "Alice")]

theorem profile_nodup {claims : Members}
    (h : (Except.ok profile : Raising Members) = .ok claims) : (Dict.keys claims).Nodup := by
  cases h
  decide

def endpoint : UserInfoEndpoint Unit where
  guard :=
    { platform := platform
      tokens := { ServerToken.Sample.manager with jwt := jwt }
      issuer := "https://op"
      dpop := none
      profile := fun _ _ => .ok []
      bindingKeys := fun _ => .ok []
      issue := fun _ _ _ => .ok [] }
  subjectSeed := "seed"
  claimsProvider := fun _ => .ok profile
  claims_nodup := fun h => profile_nodup h
  clients := some fun _ => some client
  createUserinfoJwt := fun _ _ _ _ => .ok ""

def server : UserInfoServer Unit where
  tokens := { PurIdentityServer.Sample.tokens with
    config := { issuer := "https://op", subjectSeed := "seed" } }
  authorize := authorize
  ports := ports
  logout :=
    { platform := platform
      config := { issuer := "https://op", subjectSeed := "seed" }
      manager := ServerToken.Sample.manager
      uuid4Hex := fun n => String.ofList (List.replicate n 'a') }
  tokens_platform := rfl
  authorize_platform := rfl
  tokens_seed := rfl
  authorize_seed := rfl
  userinfo := endpoint
  userinfo_platform := rfl
  userinfo_seed := rfl

def request : BearerRequest := { accessToken := "at" }

def response : UserInfoResponse where
  claims := endpoint.rendered (accessToken.payload "j") profile idToken.subject none

theorem carried : server.userinfo.guard.tokens.jwt.payload request.accessToken =
    some (accessToken.payload "j") := rfl

theorem answered : server.userinfo.execute (seconds 1) Table.empty request = .ok response := by rfl

theorem not_stored (row : AuthorizationCode) :
    .saveCode row ∉ (authorize.execute authorization).calls (exec ports) world := by
  intro hmem
  have hnone : ((authorize.execute authorization).calls (exec ports) world).any
      AuthorizeUseCase.Sample.storesCode = false := by rfl
  exact List.any_eq_false.mp hnone _ hmem rfl

theorem signed_idToken : server.SessionIdToken "alice" "s1" world.clients "" idToken := by
  refine .authorized (w := world) rfl rfl rfl ?_
    (fun row hmem => absurd hmem (not_stored row)) fun _ => rfl
  obtain ⟨c, hmem, hc⟩ := List.mem_filterMap.mp (idTokens_eq ▸ List.mem_cons_self :
    idToken ∈ idTokensOf ((authorize.execute authorization).calls (exec ports) world))
  cases c with
  | createIdToken claims =>
      cases hc
      exact hmem
  | _ => cases hc

theorem signed_accessToken :
    server.AccessOf authorization world.clients "" .response accessToken := by
  refine .response (w := world) rfl ?_ (fun row hmem => absurd hmem (not_stored row)) fun _ => rfl
  exact AccessTokenIssuers.of_mem_accessTokensOf (accessTokens_eq ▸ List.mem_cons_self)

theorem finds : server.userinfo.Finds client := ⟨by decide, _, rfl, rfl⟩

end UserInfoServer.Sample

open UserInfoServer.Sample in
/-- The email of alice is served for the scope `email`, and her name for none. -/
theorem UserInfoServer.claim_told_iff_email :
    accessToken.scopes ⊆ Scope.fromSpaceSeparated authorization.scope ∧
      ∀ name value, name ≠ "sub" → name ≠ verifiedClaimsMember →
        (Dict.get response.claims name = some value ↔
          ∃ userClaims, server.userinfo.claimsProvider authorization.subject = .ok userClaims ∧
            Dict.get userClaims name = some value ∧
            ((∃ resource ∈ server.userinfo.resources, resource.name ∈ accessToken.scopes ∧
                name ∈ resource.userClaims) ∨
              name ∈ userinfoNames
                (server.askedBy authorization .response accessToken.scopes))) :=
  UserInfoServer.claim_told_iff signed_accessToken carried answered

open UserInfoServer.Sample in
theorem UserInfoServer.subject_told_iff_session :
    Dict.get response.claims "sub" = some (.str idToken.subject) ↔
      ∃ userClaims, server.userinfo.claimsProvider authorization.subject = .ok userClaims ∧
        (Dict.get userClaims "sub" = some (.str idToken.subject) ∨
          Dict.get userClaims "sub" = none ∧ authorization.subject = "alice" ∧
            (client.Ephemeral server.logout.config.subjectSeed →
              SessionServer.material authorization.sessionId "" =
                SessionServer.material "s1" "")) :=
  UserInfoServer.subject_told_iff signed_idToken signed_accessToken rfl finds rfl
    SessionServer.Sample.derives SessionServer.Sample.draws (by unfold Unseparated; decide)
    (by unfold Unseparated; decide) (by decide) carried answered

end PurIdentityServer

import PurIdentityServer.Application.AuthorizeOutcomes

/-!
# AuthorizeTotality — a whole authorization request

What an exception, a refusal and an `id_token` of `execute` come from,
followed from the validation through the code and the tokens to the
redirection.
-/

namespace PurIdentityServer

open Effects Effects.Prog

namespace AuthorizeUseCase

/-! ## The tokens of a response -/

section Response

variable (u : AuthorizeUseCase) (ports : Ports) (request : AuthorizeRequest)

/-- What the tokens of a request are issued from. -/
def frontIssuance (client : Client) (code : String) (now : Instant) : FrontIssuance where
  request := request
  scopes := Scope.fromSpaceSeparated request.scope
  client := client
  code := code
  now := now
  claimsRequest := if request.claims = "" then none
    else parseClaimsParameter u.platform request.claims

/-- The code of a response, when one is asked for. -/
def codeOf (validated : ValidatedAuthorization) (w : World) : String :=
  if validated.wantsCode then ports.tokenUrlsafe w.draws else ""

/-- The state that stores the code. -/
def afterCode (validated : ValidatedAuthorization) (w : World) : World :=
  if validated.wantsCode then
    { w with
      draws := w.draws + 1
      codes := w.codes.save (u.codeRow request (Scope.fromSpaceSeparated request.scope)
        validated.client (ports.tokenUrlsafe w.draws) w.clock) }
  else w

/-- The issuance of a validated request, from the state with its code. -/
def issuanceOf (validated : ValidatedAuthorization) (w : World) : FrontIssuance :=
  u.frontIssuance request validated.client (codeOf ports validated w) w.clock

/-- The tokens end with an exception. -/
def IssuanceRaises (validated : ValidatedAuthorization) (w : World) : Prop :=
  (validated.wantsToken = true ∧ u.AccessTokenRaises ports (u.issuanceOf ports request validated w)
      (u.afterCode ports request validated w)) ∨
    (validated.wantsIdToken = true ∧ ∃ token atHash w₁,
      u.Issues ports (u.issuanceOf ports request validated w) validated.wantsToken
        (u.afterCode ports request validated w) token atHash w₁ ∧
      u.IdTokenRaises ports (u.issuanceOf ports request validated w) validated.wantsToken atHash w₁)

/-- The tokens are refused. -/
def IssuanceRefused (validated : ValidatedAuthorization) (w : World) : Prop :=
  validated.wantsIdToken = true ∧ ∃ token atHash w₁,
    u.Issues ports (u.issuanceOf ports request validated w) validated.wantsToken
      (u.afterCode ports request validated w) token atHash w₁ ∧
    u.IdTokenRefused ports (u.issuanceOf ports request validated w) validated.wantsToken atHash w₁

/-- The tokens a validated request asks for. -/
def tokensOf (validated : ValidatedAuthorization) (code : String) :
    M AuthorizeError (String × String × Int) :=
  if validated.wantsIdToken || validated.wantsToken then
    u.issueTokens request (Scope.fromSpaceSeparated request.scope) validated.client code
      validated.wantsIdToken validated.wantsToken
  else Pure.pure ("", "", 0)

/-- The envelope of the response is not signed, for another reason than a `ValueError`. -/
def EnvelopeRaises (validated : ValidatedAuthorization) (w : World) : Prop :=
  ∃ idToken accessToken expiresIn w₁ sessionState w₂,
    (u.tokensOf request validated (codeOf ports validated w)).run (exec ports)
        (u.afterCode ports request validated w) = (.ok (idToken, accessToken, expiresIn), w₁) ∧
    (u.resolveSessionState request).run (exec ports) w₁ = (.ok sessionState, w₂) ∧
    validated.responseMode = .jwt ∧
    ∃ sign x, u.signEnvelope = some sign ∧ jarmSigningAlg validated.client "jwt" ≠ "" ∧
      sign validated.client.clientId (jarmSigningAlg validated.client "jwt")
        (u.buildSuccessParams (codeOf ports validated w) idToken accessToken expiresIn
          (if validated.wantsToken then Scope.fromSpaceSeparated request.scope else ∅)
          request.state sessionState) w₂.clock = .error x ∧
      x ≠ .other "ValueError"

/-- The request is validated in the state `w`; `w₀` is the state it leaves. -/
def Validates (w : World) (validated : ValidatedAuthorization) (w₀ : World) : Prop :=
  (validateAuthorizationRequest u.platform u.scopeRegistry request).run (exec ports) w =
    (.ok validated, w₀)

variable {u ports request} {validated : ValidatedAuthorization} {w : World} {raised : Bool}

theorem code_run :
    (if validated.wantsCode then
        u.issueCode request (Scope.fromSpaceSeparated request.scope) validated.client
      else Pure.pure "" : M AuthorizeError String).run (exec ports) w =
      (.ok (codeOf ports validated w), u.afterCode ports request validated w) := by
  unfold codeOf afterCode
  split
  · rfl
  · rfl

theorem afterCode_clock : (u.afterCode ports request validated w).clock = w.clock := by
  unfold afterCode
  split
  · rfl
  · rfl

theorem ends_tokensOf {code : String} :
    Ends ports raised (u.tokensOf request validated code) w ↔
      ((validated.wantsIdToken = true ∧ ∃ token atHash w₁,
          u.Issues ports (u.frontIssuance request validated.client code w.clock)
            validated.wantsToken w token atHash w₁ ∧
          u.IdTokenRefused ports (u.frontIssuance request validated.client code w.clock)
            validated.wantsToken atHash w₁) ∧ raised = false) ∨
        (((validated.wantsToken = true ∧
            u.AccessTokenRaises ports (u.frontIssuance request validated.client code w.clock) w) ∨
          (validated.wantsIdToken = true ∧ ∃ token atHash w₁,
            u.Issues ports (u.frontIssuance request validated.client code w.clock)
              validated.wantsToken w token atHash w₁ ∧
            u.IdTokenRaises ports (u.frontIssuance request validated.client code w.clock)
              validated.wantsToken atHash w₁)) ∧ raised = true) := by
  have htokens : u.tokensOf request validated code =
      if validated.wantsIdToken || validated.wantsToken then
        ask .now >>= fun now => do
          let issued ← u.issueAccessToken
            (u.frontIssuance request validated.client code now) validated.wantsToken
          let idToken ← u.issueIdToken (u.frontIssuance request validated.client code now)
            validated.wantsIdToken validated.wantsToken issued.2
          Pure.pure (idToken, issued.1, u.tokenTtl validated.client)
      else Pure.pure ("", "", 0) := rfl
  rw [htokens]
  by_cases hasked : (validated.wantsIdToken || validated.wantsToken) = true
  · rw [if_pos hasked, ends_ask_bind]
    show Ends ports raised (u.issueAccessToken
      (u.frontIssuance request validated.client code w.clock) validated.wantsToken >>= _) w ↔ _
    rw [ends_bind, ends_issueAccessToken]
    constructor
    · rintro (⟨h, hraised⟩ | ⟨⟨token, atHash⟩, w₁, hrun, hends⟩)
      · exact .inr ⟨.inl h, hraised⟩
      · have hissues := issueAccessToken_run.mp hrun
        dsimp only at hends
        rw [ends_bind_of_quiet fun _ _ => not_stops_pure _, ends_issueIdToken] at hends
        obtain ⟨hwants, ⟨h, hraised⟩ | ⟨h, hraised⟩⟩ := hends
        · exact .inl ⟨⟨hwants, token, atHash, w₁, hissues, h⟩, hraised⟩
        · exact .inr ⟨.inr ⟨hwants, token, atHash, w₁, hissues, h⟩, hraised⟩
    · rintro (⟨⟨hwants, token, atHash, w₁, hissues, h⟩, hraised⟩ |
        ⟨h | ⟨hwants, token, atHash, w₁, hissues, h⟩, hraised⟩)
      · refine .inr ⟨(token, atHash), w₁, issueAccessToken_run.mpr hissues, ?_⟩
        dsimp only
        rw [ends_bind_of_quiet fun _ _ => not_stops_pure _, ends_issueIdToken]
        exact ⟨hwants, .inl ⟨h, hraised⟩⟩
      · exact .inl ⟨h, hraised⟩
      · refine .inr ⟨(token, atHash), w₁, issueAccessToken_run.mpr hissues, ?_⟩
        dsimp only
        rw [ends_bind_of_quiet fun _ _ => not_stops_pure _, ends_issueIdToken]
        exact ⟨hwants, .inr ⟨h, hraised⟩⟩
  · rw [if_neg hasked]
    rw [Bool.or_eq_true, not_or] at hasked
    apply iff_of_false (not_stops_pure _)
    rintro (⟨⟨hwants, -⟩, -⟩ | ⟨⟨hwants, -⟩ | ⟨hwants, -⟩, -⟩)
    · exact hasked.1 hwants
    · exact hasked.2 hwants
    · exact hasked.1 hwants

theorem ends_envelope {client : Client} {params : List (String × String)} :
    Ends ports raised (u.envelope client params) w ↔
      (∃ sign x, u.signEnvelope = some sign ∧ jarmSigningAlg client "jwt" ≠ "" ∧
        sign client.clientId (jarmSigningAlg client "jwt") params w.clock = .error x ∧
        x ≠ .other "ValueError") ∧ raised = true := by
  unfold envelope
  cases u.signEnvelope with
  | none =>
      apply iff_of_false (not_stops_pure _)
      rintro ⟨⟨sign, x, hsign, -⟩, -⟩
      cases hsign
  | some sign =>
      dsimp only
      by_cases halgorithm : jarmSigningAlg client "jwt" = ""
      · rw [if_pos halgorithm]
        apply iff_of_false (not_stops_pure _)
        rintro ⟨⟨other, x, -, hne, -⟩, -⟩
        exact hne halgorithm
      · rw [if_neg halgorithm, ends_ask_bind]
        dsimp only [exec]
        split
        · rename_i signed hsigned
          apply iff_of_false (not_stops_pure _)
          rintro ⟨⟨other, x, hother, -, h, -⟩, -⟩
          cases hother
          rw [hsigned] at h
          cases h
        · rename_i hsigned
          apply iff_of_false (not_stops_pure _)
          rintro ⟨⟨other, x, hother, -, h, hx⟩, -⟩
          cases hother
          rw [hsigned] at h
          cases h
          exact hx rfl
        · rename_i e hne hsigned
          rw [ends_raise]
          constructor
          · intro hraised
            exact ⟨⟨sign, e, rfl, halgorithm, hsigned, fun h => hne (by rw [h])⟩, hraised⟩
          · rintro ⟨-, hraised⟩
            exact hraised

theorem ends_responseRedirectUri {params : List (String × String)} :
    Ends ports raised (u.responseRedirectUri request validated params) w ↔
      (validated.responseMode = .jwt ∧
        ∃ sign x, u.signEnvelope = some sign ∧ jarmSigningAlg validated.client "jwt" ≠ "" ∧
          sign validated.client.clientId (jarmSigningAlg validated.client "jwt") params w.clock =
            .error x ∧ x ≠ .other "ValueError") ∧ raised = true := by
  unfold responseRedirectUri
  cases hmode : validated.responseMode with
  | jwt =>
      dsimp only
      rw [ends_bind_of_quiet, ends_envelope, and_iff_right rfl]
      intro signed w'
      split
      · exact not_stops_pure _
      · exact not_stops_pure _
  | _ => exact iff_of_false (not_stops_pure _) fun h => nomatch h.1.1

theorem resolveSessionState_raisesIf : RaisesIf ports False (u.resolveSessionState request) := by
  unfold resolveSessionState
  cases u.sessionState with
  | none => exact raisesIf_pure _
  | some create =>
      dsimp only
      split
      · exact raisesIf_pure _
      · exact (raisesIf_ask _).map _

/-- Behind the validation: the tokens are refused, or the tokens or the envelope raise. -/
theorem ends_respond :
    Ends ports raised (u.respond request validated) w ↔
      (u.IssuanceRefused ports request validated w ∧ raised = false) ∨
        ((u.IssuanceRaises ports request validated w ∨
          u.EnvelopeRaises ports request validated w) ∧ raised = true) := by
  have hrespond : u.respond request validated = (do
      let code ← (if validated.wantsCode then
          u.issueCode request (Scope.fromSpaceSeparated request.scope) validated.client
        else Pure.pure "" : M AuthorizeError String)
      let tokens ← u.tokensOf request validated code
      let sessionState ← u.resolveSessionState request
      let params := u.buildSuccessParams code tokens.1 tokens.2.1 tokens.2.2
        (if validated.wantsToken then Scope.fromSpaceSeparated request.scope else ∅) request.state
        sessionState
      let redirectUri ← u.responseRedirectUri request validated params
      Pure.pure
        { redirectUri := redirectUri
          code := code
          state := request.state
          responseMode := validated.responseMode
          idToken := tokens.1
          accessToken := tokens.2.1
          expiresIn := tokens.2.2
          formParams := if validated.responseMode = .formPost then params else [] }) := rfl
  rw [hrespond, ends_bind_of_run code_run, ends_bind, ends_tokensOf, afterCode_clock]
  unfold EnvelopeRaises
  constructor
  · rintro ((⟨h, hraised⟩ | ⟨h, hraised⟩) | ⟨⟨idToken, accessToken, expiresIn⟩, w₁, htokens, hends⟩)
    · exact .inl ⟨h, hraised⟩
    · exact .inr ⟨.inl h, hraised⟩
    · dsimp only at hends
      rw [ends_bind, resolveSessionState_raisesIf, or_iff_right fun h => h.1] at hends
      obtain ⟨sessionState, w₂, hsession, hends⟩ := hends
      rw [ends_bind_of_quiet fun _ _ => not_stops_pure _, ends_responseRedirectUri] at hends
      obtain ⟨⟨hmode, hsign⟩, hraised⟩ := hends
      exact .inr ⟨.inr ⟨idToken, accessToken, expiresIn, w₁, sessionState, w₂, htokens, hsession,
        hmode, hsign⟩, hraised⟩
  · rintro (⟨h, hraised⟩ | ⟨h | ⟨idToken, accessToken, expiresIn, w₁, sessionState, w₂, htokens,
      hsession, hmode, hsign⟩, hraised⟩)
    · exact .inl (.inl ⟨h, hraised⟩)
    · exact .inl (.inr ⟨h, hraised⟩)
    · refine .inr ⟨(idToken, accessToken, expiresIn), w₁, htokens, ?_⟩
      dsimp only
      rw [ends_bind_of_run hsession, ends_bind_of_quiet fun _ _ => not_stops_pure _,
        ends_responseRedirectUri]
      exact ⟨⟨hmode, hsign⟩, hraised⟩

end Response

/-! ## The request -/

section Request

variable (u : AuthorizeUseCase) (ports : Ports) (request : AuthorizeRequest)

/-- `execute` ends with an exception: in the validation, in the tokens or in the envelope. -/
def ExecuteRaises (w : World) : Prop :=
  ValidationRaises ports u.platform request w ∨
    ∃ validated w₀, u.Validates ports request w validated w₀ ∧
      (u.IssuanceRaises ports request validated w₀ ∨ u.EnvelopeRaises ports request validated w₀)

/-- The tokens of a request that asks for a code as well are refused. -/
def LateRefusal (w : World) : Prop :=
  ∃ validated w₀, u.Validates ports request w validated w₀ ∧ validated.wantsCode = true ∧
    u.IssuanceRefused ports request validated w₀

variable {u ports request} {w : World} {validated : ValidatedAuthorization}

theorem throws_execute :
    Ends ports true (u.execute request) w ↔ u.ExecuteRaises ports request w := by
  unfold execute ExecuteRaises
  rw [ends_bind, throws_validateAuthorizationRequest]
  apply or_congr Iff.rfl
  apply exists_congr
  intro validated
  apply exists_congr
  intro w₀
  apply and_congr_right'
  rw [ends_respond]
  simp

/-! ### The code -/

theorem not_mem_calls {ε α : Type} {p : M ε α} {areas : List Area} (hp : p.Uses (Call.In areas))
    {c : Call} (hc : c.area ∉ areas) : c ∉ p.calls (exec ports) w := by
  intro hmem
  exact hc (List.contains_iff_mem.mp (mem_calls_of_uses hp c hmem))

/-- A part of the use case that stores no code. -/
theorem not_mem_saveCode {ε α : Type} {p : M ε α} {areas : List Area}
    (hp : p.Uses (Call.In areas)) (hareas : Area.codes ∉ areas) {row : AuthorizationCode} :
    .saveCode row ∉ p.calls (exec ports) w := not_mem_calls hp hareas

theorem tokensOf_uses (code : String) :
    (u.tokensOf request validated code).Uses (Call.In [.keys, .passive, .accessTokens]) := by
  unfold tokensOf
  split
  · exact u.issueTokens_uses _ _ _ _ _ _
  · exact uses_pure _ _

/-- A code is stored in the response to a validated request that asks for one. -/
theorem saveCode_mem_respond {row : AuthorizationCode} :
    .saveCode row ∈ (u.respond request validated).calls (exec ports) w ↔
      validated.wantsCode = true ∧
        row = u.codeRow request (Scope.fromSpaceSeparated request.scope) validated.client
          (ports.tokenUrlsafe w.draws) w.clock := by
  unfold respond
  rw [mem_calls_bind]
  constructor
  · rintro (hcode | ⟨code, w₁, -, hmem⟩)
    · by_cases hwants : validated.wantsCode = true
      · rw [if_pos hwants] at hcode
        change .saveCode row ∈ [Call.now, .tokenUrlsafe, .saveCode (u.codeRow request
          (Scope.fromSpaceSeparated request.scope) validated.client (ports.tokenUrlsafe w.draws)
          w.clock)] at hcode
        simp only [List.mem_cons, reduceCtorEq, Call.saveCode.injEq, List.not_mem_nil, or_false,
          false_or] at hcode
        exact ⟨hwants, hcode⟩
      · rw [if_neg hwants] at hcode
        cases hcode
    · rcases mem_calls_bind.mp hmem with htokens | ⟨tokens, w₂, -, hmem⟩
      · exact absurd htokens (not_mem_saveCode (u.tokensOf_uses code) (by decide))
      rcases mem_calls_bind.mp hmem with hsession | ⟨sessionState, w₃, -, hmem⟩
      · exact absurd hsession (not_mem_saveCode (u.resolveSessionState_uses request) (by decide))
      rcases mem_calls_bind.mp hmem with hredirect | ⟨uri, w₄, -, hmem⟩
      · exact absurd hredirect (not_mem_saveCode (u.responseRedirectUri_uses _ _ _) (by decide))
      · cases hmem
  · rintro ⟨hwants, rfl⟩
    left
    rw [if_pos hwants]
    exact List.mem_cons_of_mem _ (List.mem_cons_of_mem _ List.mem_cons_self)

theorem saveCode_mem_execute {row : AuthorizationCode} :
    .saveCode row ∈ (u.execute request).calls (exec ports) w ↔
      ∃ validated w₀, u.Validates ports request w validated w₀ ∧ validated.wantsCode = true ∧
        row = u.codeRow request (Scope.fromSpaceSeparated request.scope) validated.client
          (ports.tokenUrlsafe w₀.draws) w₀.clock := by
  unfold execute
  rw [mem_calls_bind]
  constructor
  · rintro (hvalidation | ⟨validated, w₀, hrun, hmem⟩)
    · exact absurd hvalidation (not_mem_saveCode (validateAuthorizationRequest_uses ..) (by decide))
    · exact ⟨validated, w₀, hrun, saveCode_mem_respond.mp hmem⟩
  · rintro ⟨validated, w₀, hrun, hrow⟩
    exact .inr ⟨validated, w₀, hrun, saveCode_mem_respond.mpr hrow⟩

/-- A request is refused with its code stored exactly when its tokens are refused. -/
theorem refused_with_code :
    (Ends ports false (u.execute request) w ∧
      ∃ row, .saveCode row ∈ (u.execute request).calls (exec ports) w) ↔
      u.LateRefusal ports request w := by
  unfold LateRefusal
  constructor
  · rintro ⟨hends, row, hmem⟩
    obtain ⟨validated, w₀, hvalidates, hwants, -⟩ := saveCode_mem_execute.mp hmem
    refine ⟨validated, w₀, hvalidates, hwants, ?_⟩
    unfold execute at hends
    rw [ends_bind_of_run hvalidates, ends_respond] at hends
    rcases hends with ⟨h, -⟩ | ⟨-, h⟩
    · exact h
    · cases h
  · rintro ⟨validated, w₀, hvalidates, hwants, hrefused⟩
    constructor
    · unfold execute
      rw [ends_bind_of_run hvalidates, ends_respond]
      exact .inl ⟨hrefused, rfl⟩
    · exact ⟨_, saveCode_mem_execute.mpr ⟨validated, w₀, hvalidates, hwants, rfl⟩⟩

/-! ### The `id_token` -/

/-- The call signs no `id_token`. -/
def SignsNothing (c : Call) : Prop := ∀ claims, c ≠ .createIdToken claims

theorem Call.Service.signsNothing {c : Call} (h : c.Service) : SignsNothing c := by
  rintro claims rfl
  exact h

theorem Call.In.signsNothing {c : Call} {areas : List Area} (hareas : Area.keys ∉ areas)
    (h : c.In areas) : SignsNothing c := by
  rintro claims rfl
  exact hareas (List.contains_iff_mem.mp h)

theorem not_mem_calls_of_signsNothing {ε α : Type} {p : M ε α} (hp : p.Uses SignsNothing)
    {claims : IdTokenClaims} : .createIdToken claims ∉ p.calls (exec ports) w := by
  intro hmem
  exact mem_calls_of_uses hp _ hmem claims rfl

theorem verifiedClaims_signsNothing (claimsRequest : ClaimsRequest) (subject : String) :
    (u.verifiedClaims claimsRequest subject).Uses SignsNothing := by
  unfold verifiedClaims
  split
  · exact uses_pure _ _
  split
  · exact uses_pure _ _
  · exact uses_bind (uses_op fun _ h => nomatch h) fun _ => uses_orRaise _ _

theorem requestedClaims_signsNothing (claimsRequest : Option ClaimsRequest) (subject : String)
    (additional : List (String × Json)) :
    (u.requestedClaims claimsRequest subject additional).Uses SignsNothing := by
  cases claimsRequest with
  | none => exact uses_pure _ _
  | some claimsRequest =>
      refine uses_bind ((resolveRequestedClaims_services _ _ _).mono
        fun _ => Call.Service.signsNothing) fun resolved => ?_
      refine uses_bind (verifiedClaims_signsNothing _ _) fun verified => ?_
      cases verified with
      | none => exact uses_pure _ _
      | some claims => exact uses_pure _ _

theorem scopeClaimsForSubject_signsNothing (scope subject : String) :
    (u.scopeClaimsForSubject scope subject).Uses SignsNothing := by
  unfold scopeClaimsForSubject
  split
  · exact uses_pure _ _
  · refine uses_bind (uses_bind ?_ fun _ => uses_pure _ _) fun allowed => ?_
    · split
      · exact uses_op fun _ h => nomatch h
      · exact uses_pure _ _
    · exact uses_bind (uses_bind (uses_op fun _ h => nomatch h) fun _ => uses_orRaise _ _)
        fun _ => uses_pure _ _

theorem additionalIdTokenClaims_signsNothing (i : FrontIssuance) (wantsToken : Bool) :
    (u.additionalIdTokenClaims i wantsToken).Uses SignsNothing := by
  unfold additionalIdTokenClaims
  refine uses_bind (requestedClaims_signsNothing _ _ _) fun requested => ?_
  refine uses_bind ?_ fun granted => uses_bind ?_ fun _ => uses_pure _ _
  · split
    · exact scopeClaimsForSubject_signsNothing _ _
    · exact uses_pure _ _
  · unfold openid20Identifier
    split
    · exact uses_pure _ _
    split
    · exact uses_pure _ _
    · exact uses_bind (uses_op fun _ h => nomatch h) fun _ => uses_orRaise _ _

theorem not_mem_calls_orRaise {ε α : Type} {r : Raising α} {c : Call} :
    c ∉ (orRaise r : M ε α).calls (exec ports) w := by
  cases r with
  | error x => exact List.not_mem_nil
  | ok a => exact List.not_mem_nil

/-- What is signed are the claims of `Signs`. -/
theorem signs_of_mem_calls {i : FrontIssuance} {wantsToken : Bool} {atHash : String}
    {claims : IdTokenClaims}
    (h : .createIdToken claims ∈ (u.signIdToken i wantsToken atHash).calls (exec ports) w) :
    u.Signs ports i wantsToken atHash w claims := by
  unfold signIdToken at h
  rcases mem_calls_bind.mp h with hmaterial | ⟨material, w₁, hmaterial, hrest⟩
  · refine absurd hmaterial (not_mem_calls_of_signsNothing ?_)
    exact uses_bind ((resolveIdTokenMaterial_services _ _ _).mono
      fun _ => Call.Service.signsNothing) fun _ => uses_orRefuse _ _ _
  obtain ⟨secret, hsecret, rfl, rfl⟩ := material_run_ok hmaterial
  dsimp only at hrest
  rcases mem_calls_bind.mp hrest with hmem | ⟨subject, w₂, hsubject, hrest₁⟩
  · exact absurd hmem not_mem_calls_orRaise
  obtain ⟨hsubject₁, rfl⟩ := run_orRaise_ok.mp hsubject
  rcases mem_calls_bind.mp hrest₁ with hmem | ⟨cHash, w₃, hcHash, hrest₂⟩
  · exact absurd hmem not_mem_calls_orRaise
  obtain ⟨hcHash₁, rfl⟩ := run_orRaise_ok.mp hcHash
  rcases mem_calls_bind.mp hrest₂ with hmem | ⟨sHash, w₄, hsHash, hrest₃⟩
  · exact absurd hmem not_mem_calls_orRaise
  obtain ⟨hsHash₁, rfl⟩ := run_orRaise_ok.mp hsHash
  obtain ⟨hcode, rfl⟩ := hashPresent_ok.mp hcHash₁
  obtain ⟨hstate, rfl⟩ := hashPresent_ok.mp hsHash₁
  rcases mem_calls_bind.mp hrest₃ with hmem | ⟨additional, w₅, hadditional, hrest₄⟩
  · exact absurd hmem (not_mem_calls_of_signsNothing (additionalIdTokenClaims_signsNothing _ _))
  rcases mem_calls_bind.mp hrest₄ with hmem | ⟨reply, w₆, -, hmem⟩
  · cases List.mem_singleton.mp hmem
    exact ⟨secret, subject, additional, w₅, hsecret, hsubject₁, hcode, hstate, hadditional, rfl⟩
  · exact absurd hmem not_mem_calls_orRaise

theorem signs_of_issueIdToken {i : FrontIssuance} {wantsIdToken wantsToken : Bool}
    {atHash : String} {claims : IdTokenClaims}
    (h : .createIdToken claims ∈
      (u.issueIdToken i wantsIdToken wantsToken atHash).calls (exec ports) w) :
    u.Signs ports i wantsToken atHash w claims := by
  unfold issueIdToken at h
  split at h
  · rcases mem_calls_bind.mp h with hsign | ⟨signed, w₁, -, hencrypt⟩
    · exact signs_of_mem_calls hsign
    · refine absurd hencrypt (not_mem_calls_of_signsNothing ?_)
      exact uses_catchJwe ((encryptIdTokenForClient_services _ _ _ _).mono
        fun _ => Call.Service.signsNothing) (uses_fail _ _)
  · cases h

theorem signs_of_issueTokens {client : Client} {code : String} {wantsIdToken wantsToken : Bool}
    {claims : IdTokenClaims}
    (h : .createIdToken claims ∈ (u.issueTokens request (Scope.fromSpaceSeparated request.scope)
      client code wantsIdToken wantsToken).calls (exec ports) w) :
    ∃ token atHash w₁,
      u.Issues ports (u.frontIssuance request client code w.clock) wantsToken w token atHash w₁ ∧
      u.Signs ports (u.frontIssuance request client code w.clock) wantsToken atHash w₁ claims := by
  change .createIdToken claims ∈ Call.now :: (u.issueAccessToken
    (u.frontIssuance request client code w.clock) wantsToken >>= _).calls (exec ports) w at h
  rcases List.mem_cons.mp h with hnow | hissue
  · cases hnow
  rcases mem_calls_bind.mp hissue with haccess | ⟨⟨token, atHash⟩, w₁, haccess, hrest⟩
  · exact absurd haccess (not_mem_calls (u.issueAccessToken_uses _ _)
      (show Area.keys ∉ [Area.passive, Area.accessTokens] by decide))
  refine ⟨token, atHash, w₁, issueAccessToken_run.mp haccess, ?_⟩
  rcases mem_calls_bind.mp hrest with hidToken | ⟨idToken, w₂, -, hpure⟩
  · exact signs_of_issueIdToken hidToken
  · cases hpure

/-- An `id_token` is signed for the tokens of a validated request. -/
theorem signs_of_execute {claims : IdTokenClaims}
    (h : .createIdToken claims ∈ (u.execute request).calls (exec ports) w) :
    ∃ validated w₀ token atHash w₁, u.Validates ports request w validated w₀ ∧
      u.Issues ports (u.issuanceOf ports request validated w₀) validated.wantsToken
        (u.afterCode ports request validated w₀) token atHash w₁ ∧
      u.Signs ports (u.issuanceOf ports request validated w₀) validated.wantsToken atHash w₁
        claims := by
  have hkeys : ∀ {areas : List Area} {α : Type} {p : M AuthorizeError α} {w : World},
      p.Uses (Call.In areas) → Area.keys ∉ areas → .createIdToken claims ∉ p.calls (exec ports) w :=
    fun hp hareas => not_mem_calls hp hareas
  unfold execute at h
  rcases mem_calls_bind.mp h with hvalidation | ⟨validated, w₀, hvalidates, hrespond⟩
  · exact absurd hvalidation (hkeys (validateAuthorizationRequest_uses ..) (by decide))
  unfold respond at hrespond
  rcases mem_calls_bind.mp hrespond with hcode | ⟨code, w₁, hcode, hrest⟩
  · split at hcode
    · exact absurd hcode (hkeys (u.issueCode_uses _ _ _) (by decide))
    · cases hcode
  rw [code_run] at hcode
  cases hcode
  rcases mem_calls_bind.mp hrest with htokens | ⟨tokens, w₂, -, hrest₁⟩
  · split at htokens
    · obtain ⟨token, atHash, w₂, hissues, hsigns⟩ := signs_of_issueTokens htokens
      rw [afterCode_clock] at hissues hsigns
      exact ⟨validated, w₀, token, atHash, w₂, hvalidates, hissues, hsigns⟩
    · cases htokens
  rcases mem_calls_bind.mp hrest₁ with hsession | ⟨sessionState, w₃, -, hrest₂⟩
  · exact absurd hsession (hkeys (u.resolveSessionState_uses request) (by decide))
  rcases mem_calls_bind.mp hrest₂ with hredirect | ⟨uri, w₄, -, hpure⟩
  · exact absurd hredirect (hkeys (u.responseRedirectUri_uses _ _ _) (by decide))
  · cases hpure

end Request

/-! ## Digests -/

/-- The SHA-2 of an algorithm, by its size in bits; without a signature there is none. -/
def shaBits : JWTAlgorithm → Option Nat
  | .rs256 | .ps256 | .es256 | .hs256 => some 256
  | .rs384 | .ps384 | .es384 | .hs384 => some 384
  | .rs512 | .ps512 | .es512 | .hs512 => some 512
  | .none => none

/-- The left half of a digest follows from its SHA-2, and has its length in base64url. -/
structure HalfDigest (halfDigest : JWTAlgorithm → String → String) : Prop where
  same : ∀ a b value, shaBits a = shaBits b → halfDigest a value = halfDigest b value
  length : ∀ a value n, shaBits a = some n →
    (halfDigest a value).length = (4 * (n / 16) + 2) / 3

section Digests

variable {u : AuthorizeUseCase}

theorem shaBits_eq_none {a : JWTAlgorithm} : shaBits a = none ↔ a = .none := by
  cases a <;> simp [shaBits]

theorem shaBits_some {a : JWTAlgorithm} {n : Nat} (h : shaBits a = some n) :
    n = 256 ∨ n = 384 ∨ n = 512 := by
  cases a <;> simp only [shaBits, Option.some.injEq, reduceCtorEq] at h <;> omega

theorem artefactHash_length (h : HalfDigest u.halfDigest) (a : JWTAlgorithm) (value : String) :
    (u.artefactHash a value).length = (shaBits a).elim 0 fun n => (4 * (n / 16) + 2) / 3 := by
  unfold artefactHash
  cases hbits : shaBits a with
  | none =>
      rw [if_pos (shaBits_eq_none.mp hbits)]
      rfl
  | some n =>
      have hsigned : a ≠ .none := by
        intro hnone
        rw [shaBits_eq_none.mpr hnone] at hbits
        cases hbits
      rw [if_neg hsigned, h.length a value n hbits]
      rfl

/-- Two algorithms give a value one hash exactly when they have one SHA-2. -/
theorem artefactHash_eq_iff (h : HalfDigest u.halfDigest) {a b : JWTAlgorithm} {value : String} :
    u.artefactHash a value = u.artefactHash b value ↔ shaBits a = shaBits b := by
  constructor
  · intro heq
    have hlength := congrArg String.length heq
    rw [artefactHash_length h, artefactHash_length h] at hlength
    cases ha : shaBits a with
    | none =>
        cases hb : shaBits b with
        | none => rfl
        | some n =>
            rw [ha, hb] at hlength
            simp only [Option.elim_none, Option.elim_some] at hlength
            rcases shaBits_some hb with rfl | rfl | rfl <;> omega
    | some m =>
        cases hb : shaBits b with
        | none =>
            rw [ha, hb] at hlength
            simp only [Option.elim_none, Option.elim_some] at hlength
            rcases shaBits_some ha with rfl | rfl | rfl <;> omega
        | some n =>
            rw [ha, hb] at hlength
            simp only [Option.elim_some] at hlength
            rcases shaBits_some ha with rfl | rfl | rfl <;>
              rcases shaBits_some hb with rfl | rfl | rfl <;> first | rfl | omega
  · intro hbits
    unfold artefactHash
    by_cases hnone : a = .none
    · have hb : b = .none := by
        rw [← shaBits_eq_none, ← hbits, shaBits_eq_none]
        exact hnone
      rw [if_pos hnone, if_pos hb]
    · have hb : b ≠ .none := by
        rw [ne_eq, ← shaBits_eq_none, ← hbits, shaBits_eq_none]
        exact hnone
      rw [if_neg hnone, if_neg hb, h.same a b value hbits]

end Digests

end AuthorizeUseCase

/-! ## A state with an accent -/

namespace AuthorizeUseCase.Sample

open PurIdentityServer.Sample (client ports world)

/-- Half digests that show their length only. -/
def lengths (algorithm : JWTAlgorithm) (_ : String) : String :=
  String.ofList (List.replicate ((shaBits algorithm).elim 0 fun n => (4 * (n / 16) + 2) / 3) 'h')

theorem lengths_halfDigest : HalfDigest lengths where
  same := by
    intro a b value h
    unfold lengths
    rw [h]
  length := by
    intro a value n h
    unfold lengths
    rw [h]
    exact (String.length_ofList).trans List.length_replicate

def useCase : AuthorizeUseCase where
  platform := PurIdentityServer.Sample.platform
  config := {}
  halfDigest := lengths

/-- The client, whose tokens are signed with an algorithm. -/
def signedBy (algorithm : String) : World :=
  { world with clients := Table.empty.save { client with idTokenSignedResponseAlg := algorithm } }

def request (responseType state : String) : AuthorizeRequest where
  responseType := responseType
  clientId := "app"
  redirectUri := "https://app.example/cb"
  scope := "openid"
  subject := "alice"
  nonce := "n"
  state := state

/-- A run stopped by an exception. -/
def raisedRun {ε α : Type} : Except (Stop ε) α × World → Bool
  | (.error (.raised _), _) => true
  | _ => false

/-- A run stopped by a refusal. -/
def refusedRun {ε α : Type} : Except (Stop ε) α × World → Bool
  | (.error (.refused _), _) => true
  | _ => false

def storesCode : Call → Bool
  | .saveCode _ => true
  | _ => false

/-- An `at_hash` of 22 characters in a token signed with ES384. -/
def signsShortHash : Call → Bool
  | .createIdToken claims => decide (claims.algorithm = .es384) && claims.atHash.length == 22
  | _ => false

end AuthorizeUseCase.Sample

end PurIdentityServer

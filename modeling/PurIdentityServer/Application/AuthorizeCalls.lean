import PurIdentityServer.Application.Authorize
import PurIdentityServer.Application.TokenCalls

/-!
# AuthorizeCalls — what each part of the authorization endpoint can call

The footprints of the use case: the checks are passive, and only
`issueCode` and `issueAccessToken` store or sign what another request may
use.
-/

namespace PurIdentityServer

open Effects

/-! ## The checks are passive -/

theorem checkClientRequest_uses (request : AuthorizeRequest) (client : Client)
    (scopes : Finset Scope) (mode : ResponseMode) :
    (checkClientRequest request client scopes mode).Uses (Call.In [.passive]) :=
  Prog.uses_bind (uses_refuseIf _ _ _) fun _ => uses_refuseIf _ _ _

theorem checkClientProfile_uses (request : AuthorizeRequest) (client : Client)
    (responseTypes : Finset String) (mode : ResponseMode) :
    (checkClientProfile request client responseTypes mode).Uses (Call.In [.passive]) := by
  unfold checkClientProfile
  dsimp only
  split
  · exact Prog.uses_bind (uses_refuseIf _ _ _) fun _ => uses_refuseIf _ _ _
  split
  · exact Prog.uses_bind (uses_refuseIf _ _ _) fun _ => uses_refuseIf _ _ _
  · exact Prog.uses_pure _ _

theorem checkResource_uses (p : Platform) (registry : Option ScopeRegistry)
    (request : AuthorizeRequest) (mode : ResponseMode) :
    (checkResource p registry request mode).Uses (Call.In [.passive]) := by
  unfold checkResource
  refine Prog.uses_bind (uses_orRaise _ _) fun malformed => ?_
  refine Prog.uses_bind (uses_refuseIf _ _ _) fun _ => ?_
  cases registry with
  | none => exact Prog.uses_pure _ _
  | some registry =>
      exact Prog.uses_bind (ScopeRegistry.unknownResources_uses ..) fun _ =>
        uses_refuseIf _ _ _

theorem checkParameters_uses (p : Platform) (registry : Option ScopeRegistry)
    (request : AuthorizeRequest) (mode : ResponseMode) :
    (checkParameters p registry request mode).Uses (Call.In [.passive]) := by
  unfold checkParameters
  refine Prog.uses_bind (uses_refuseIf _ _ _) fun _ => ?_
  refine Prog.uses_bind (uses_refuseIf _ _ _) fun _ => ?_
  refine Prog.uses_bind (uses_refuseIf _ _ _) fun _ => ?_
  refine Prog.uses_bind (uses_refuseIf _ _ _) fun _ => ?_
  split
  · exact Prog.uses_fail _ _
  · exact Prog.uses_bind (uses_refuseIf _ _ _) fun _ => checkResource_uses p registry _ _

theorem checkScopes_uses (registry : Option ScopeRegistry) (request : AuthorizeRequest)
    (scopes : Finset Scope) (wantsIdToken : Bool) (mode : ResponseMode) :
    (checkScopes registry request scopes wantsIdToken mode).Uses (Call.In [.passive]) := by
  unfold checkScopes
  refine Prog.uses_bind (uses_refuseIf _ _ _) fun _ => ?_
  cases registry with
  | none => exact Prog.uses_pure _ _
  | some registry =>
      exact Prog.uses_bind (ScopeRegistry.unknownScopes_uses ..) fun _ =>
        uses_refuseIf _ _ _

theorem validateForClient_uses (p : Platform) (registry : Option ScopeRegistry)
    (request : AuthorizeRequest) (mode : ResponseMode) :
    (validateForClient p registry request mode).Uses (Call.In [.passive]) := by
  refine Prog.uses_bind (Prog.uses_bind (Prog.uses_op rfl) fun _ => uses_orRefuse _ _ _)
    fun client => ?_
  refine Prog.uses_bind (uses_refuseIf _ _ _) fun _ => ?_
  refine Prog.uses_bind (checkClientRequest_uses _ _ _ _) fun _ => ?_
  refine Prog.uses_bind (uses_refuseIf _ _ _) fun _ => ?_
  refine Prog.uses_bind (checkClientProfile_uses _ _ _ _) fun _ => ?_
  refine Prog.uses_bind (checkParameters_uses _ _ _ _) fun _ => ?_
  refine Prog.uses_bind (checkScopes_uses _ _ _ _ _) fun _ => ?_
  exact Prog.uses_bind (uses_refuseIf _ _ _) fun _ => Prog.uses_pure _ _

theorem validateAuthorizationRequest_uses (p : Platform) (registry : Option ScopeRegistry)
    (request : AuthorizeRequest) :
    (validateAuthorizationRequest p registry request).Uses (Call.In [.passive]) := by
  refine Prog.uses_bind (uses_refuseIf _ _ _) fun _ => ?_
  cases resolveResponseMode request.responseMode (asksTokens request) with
  | none => exact Prog.uses_fail _ _
  | some mode => exact validateForClient_uses p registry request mode

namespace AuthorizeUseCase

variable (u : AuthorizeUseCase)

/-! ## Issuance -/

theorem issueCode_uses (request : AuthorizeRequest) (scopes : Finset Scope) (client : Client) :
    (u.issueCode request scopes client).Uses (Call.In [.passive, .draws, .codes]) :=
  Prog.uses_bind (Prog.uses_op rfl) fun _ =>
    Prog.uses_bind (Prog.uses_op rfl) fun _ =>
      Prog.uses_bind (Prog.uses_op rfl) fun _ => Prog.uses_pure _ _

theorem resolveAudience_uses (client : Client) (scopes : Finset Scope) (resource : String) :
    (u.resolveAudience client scopes resource).Uses (Call.In [.passive]) := by
  unfold resolveAudience
  split
  · cases u.scopeRegistry with
    | none => exact Prog.uses_pure _ _
    | some registry => exact ScopeRegistry.audiencesFor_uses _ _ _
  · exact Prog.uses_pure _ _

theorem verifiedClaims_uses (request : ClaimsRequest) (subject : String) :
    (u.verifiedClaims request subject).Uses Call.Passive := by
  unfold verifiedClaims
  split
  · exact Prog.uses_pure _ _
  split
  · exact Prog.uses_pure _ _
  · exact Prog.uses_bind (Prog.uses_op rfl) fun _ => uses_orRaise _ _

theorem scopeClaimsForSubject_uses (scope subject : String) :
    (u.scopeClaimsForSubject scope subject).Uses Call.Passive := by
  unfold scopeClaimsForSubject
  split
  · exact Prog.uses_pure _ _
  · refine Prog.uses_bind (Prog.uses_bind ?_ fun _ => Prog.uses_pure _ _) fun allowed => ?_
    · split
      · exact Prog.uses_op rfl
      · exact Prog.uses_pure _ _
    · exact Prog.uses_bind (Prog.uses_bind (Prog.uses_op rfl) fun _ => uses_orRaise _ _)
        fun _ => Prog.uses_pure _ _

theorem openid20Identifier_uses (request : AuthorizeRequest) :
    (u.openid20Identifier request).Uses Call.Passive := by
  unfold openid20Identifier
  split
  · exact Prog.uses_pure _ _
  split
  · exact Prog.uses_pure _ _
  · exact Prog.uses_bind (Prog.uses_op rfl) fun _ => uses_orRaise _ _

theorem requestedClaims_uses (claimsRequest : Option ClaimsRequest) (subject : String)
    (additional : List (String × Json)) :
    (u.requestedClaims claimsRequest subject additional).Uses Call.Passive := by
  cases claimsRequest with
  | none => exact Prog.uses_pure _ _
  | some request =>
      refine Prog.uses_bind (Call.uses_mono (resolveRequestedClaims_uses ..) rfl)
        fun resolved => ?_
      refine Prog.uses_bind (u.verifiedClaims_uses _ _) fun verified => ?_
      cases verified with
      | none => exact Prog.uses_pure _ _
      | some claims => exact Prog.uses_pure _ _

theorem signIdToken_uses (i : FrontIssuance) (wantsToken : Bool) (atHash : String) :
    (u.signIdToken i wantsToken atHash).Uses Call.Passive := by
  unfold signIdToken
  refine Prog.uses_bind (Prog.uses_bind (Call.uses_mono (resolveIdTokenMaterial_uses ..) rfl)
    fun _ => uses_orRefuse _ _ _) fun material => ?_
  refine Prog.uses_bind (uses_orRaise _ _) fun subject => ?_
  refine Prog.uses_bind (uses_orRaise _ _) fun cHash => ?_
  refine Prog.uses_bind (uses_orRaise _ _) fun sHash => ?_
  refine Prog.uses_bind ?_ fun additional =>
    Prog.uses_bind (Prog.uses_op rfl) fun _ => uses_orRaise _ _
  unfold additionalIdTokenClaims
  refine Prog.uses_bind (u.requestedClaims_uses _ _ _) fun requested => ?_
  refine Prog.uses_bind ?_ fun granted =>
    Prog.uses_bind (u.openid20Identifier_uses _) fun _ => Prog.uses_pure _ _
  split
  · exact u.scopeClaimsForSubject_uses _ _
  · exact Prog.uses_pure _ _

theorem issueIdToken_uses (i : FrontIssuance) (wantsIdToken wantsToken : Bool)
    (atHash : String) :
    (u.issueIdToken i wantsIdToken wantsToken atHash).Uses Call.Passive := by
  unfold issueIdToken
  split
  · exact Prog.uses_bind (u.signIdToken_uses i wantsToken atHash) fun signed =>
      uses_catchJwe (Call.uses_mono (encryptIdTokenForClient_uses ..) rfl) (Prog.uses_fail _ _)
  · exact Prog.uses_pure _ _

/-! ## The answer -/

theorem resolveSessionState_uses (request : AuthorizeRequest) :
    (u.resolveSessionState request).Uses (Call.In [.draws]) := by
  unfold resolveSessionState
  cases u.sessionState with
  | none => exact Prog.uses_pure _ _
  | some create =>
      dsimp only
      split
      · exact Prog.uses_pure _ _
      · exact Prog.uses_bind (Prog.uses_op rfl) fun _ => Prog.uses_pure _ _

theorem envelope_uses (client : Client) (params : List (String × String)) :
    (u.envelope client params).Uses (Call.In [.passive]) := by
  unfold envelope
  cases u.signEnvelope with
  | none => exact Prog.uses_pure _ _
  | some sign =>
      dsimp only
      split
      · exact Prog.uses_pure _ _
      refine Prog.uses_bind (Prog.uses_op rfl) fun now => ?_
      split
      · exact Prog.uses_pure _ _
      · exact Prog.uses_pure _ _
      · exact Prog.uses_fail _ _

theorem responseRedirectUri_uses (request : AuthorizeRequest)
    (validated : ValidatedAuthorization) (params : List (String × String)) :
    (u.responseRedirectUri request validated params).Uses (Call.In [.passive]) := by
  unfold responseRedirectUri
  dsimp only
  split
  · exact Prog.uses_pure _ _
  · refine Prog.uses_bind (u.envelope_uses _ _) fun signed => ?_
    split <;> exact Prog.uses_pure _ _
  · exact Prog.uses_pure _ _

theorem issueAccessToken_uses (i : FrontIssuance) (wantsToken : Bool) :
    (u.issueAccessToken i wantsToken).Uses (Call.In [.passive, .accessTokens]) := by
  unfold issueAccessToken
  split
  · refine Prog.uses_bind (Call.uses_mono (u.resolveAudience_uses _ _ _) rfl) fun audience => ?_
    refine Prog.uses_bind (Prog.uses_bind (Prog.uses_op rfl) fun _ => uses_orRaise _ _)
      fun accessToken => ?_
    exact Prog.uses_bind (uses_orRaise _ _) fun _ => Prog.uses_pure _ _
  · exact Prog.uses_pure _ _

theorem issueTokens_uses (request : AuthorizeRequest) (scopes : Finset Scope) (client : Client)
    (code : String) (wantsIdToken wantsToken : Bool) :
    (u.issueTokens request scopes client code wantsIdToken wantsToken).Uses
      (Call.In [.keys, .passive, .accessTokens]) := by
  refine Prog.uses_bind (Prog.uses_op rfl) fun now => ?_
  refine Prog.uses_bind (Call.uses_mono (u.issueAccessToken_uses _ _) rfl) fun accessToken => ?_
  exact Prog.uses_bind (Call.uses_mono (u.issueIdToken_uses _ _ _ _) rfl) fun _ =>
    Prog.uses_pure _ _

/-- What the use case can call. -/
def areas : List Area := [.keys, .passive, .draws, .codes, .accessTokens]

theorem respond_uses (request : AuthorizeRequest) (validated : ValidatedAuthorization) :
    (u.respond request validated).Uses (Call.In areas) := by
  refine Prog.uses_bind ?_ fun code => ?_
  · split
    · exact Call.uses_mono (u.issueCode_uses _ _ _) rfl
    · exact Prog.uses_pure _ _
  refine Prog.uses_bind ?_ fun tokens => ?_
  · split
    · exact Call.uses_mono (u.issueTokens_uses _ _ _ _ _ _) rfl
    · exact Prog.uses_pure _ _
  refine Prog.uses_bind (Call.uses_mono (u.resolveSessionState_uses _) rfl) fun state => ?_
  exact Prog.uses_bind (Call.uses_mono (u.responseRedirectUri_uses _ _ _) rfl) fun _ =>
    Prog.uses_pure _ _

theorem execute_uses (request : AuthorizeRequest) :
    (u.execute request).Uses (Call.In areas) :=
  Prog.uses_bind (Call.uses_mono (validateAuthorizationRequest_uses ..) rfl) fun validated =>
    u.respond_uses request validated

end AuthorizeUseCase

end PurIdentityServer

import PurIdentityServer.Application.Decisions

/-!
# TokenCalls — what each part of the token endpoint can call

The footprints of the use case, from the checks up to the seven grants:
which areas of the store a grant works on at all. A proof about one area
reads here which parts of an endpoint it may skip.
-/

namespace PurIdentityServer

open Effects

theorem Call.uses_mono {ε α : Type} {l l' : List Area} {p : M ε α} (hp : p.Uses (Call.In l))
    (h : l.all (l'.contains ·) = true) : p.Uses (Call.In l') :=
  hp.mono (Call.In.mono h)

theorem uses_refuseIf {ε : Type} (S : Call → Prop) (b : Prop) [Decidable b] (error : ε) :
    (refuseIf b error).Uses S := Prog.uses_stopIf S b _

theorem uses_orRefuse {ε α : Type} (S : Call → Prop) (error : ε) (o : Option α) :
    (orRefuse error o).Uses S := Prog.uses_getOr S _ o

theorem uses_catchJwe {ε α : Type} {S : Call → Prop} {p h : M ε α} (hp : p.Uses S)
    (hh : h.Uses S) : (catchJwe p h).Uses S := by
  refine Prog.uses_handle hp fun stop => ?_
  split
  · exact hh
  · exact Prog.uses_fail _ _

theorem uses_outcome {ε ε' α : Type} {S : Call → Prop} {p : M ε α} (hp : p.Uses S) :
    (outcome p : M ε' (Except ε α)).Uses S := by
  refine Prog.uses_handle (Prog.uses_bind hp fun _ => Prog.uses_pure _ _) fun stop => ?_
  cases stop with
  | refused e => exact Prog.uses_pure _ _
  | raised x => exact Prog.uses_fail _ _

namespace TokenUseCase

variable (u : TokenUseCase)

/-! ## The checks are passive -/

theorem activeClient_uses (clientId description : String) :
    (activeClient clientId description).Uses (Call.In [.passive]) :=
  Prog.uses_bind (Prog.uses_bind (Prog.uses_op rfl) fun _ => uses_orRefuse _ _ _)
    fun _ => Prog.uses_bind (uses_refuseIf _ _ _) fun _ => Prog.uses_pure _ _

theorem authenticateClient_uses (client : Client) (request : TokenRequest) :
    (u.authenticateClient client request).Uses (Call.In [.passive]) := by
  unfold authenticateClient
  refine Prog.uses_bind (uses_refuseIf _ _ _) fun _ => ?_
  refine Prog.uses_bind (PurIdentityServer.authenticateClient_uses ..) fun detail => ?_
  cases detail with
  | none => exact Prog.uses_pure _ _
  | some detail => exact Prog.uses_fail _ _

theorem evaluateDpop_uses (client : Client) (request : TokenRequest) (boundJkt : String) :
    (u.evaluateDpop client request boundJkt).Uses (Call.In [.passive]) := by
  unfold evaluateDpop
  split
  · split
    · exact Prog.uses_fail _ _
    · exact Prog.uses_pure _ _
  · refine Prog.uses_bind (DpopGuard.evaluate_uses ..) fun result => ?_
    cases result with
    | error e => exact Prog.uses_fail _ _
    | ok binding => exact Prog.uses_pure _ _

theorem effectiveResources_uses (request : TokenRequest) (bound : List String) :
    (u.effectiveResources request bound).Uses (Call.In [.passive]) := by
  unfold effectiveResources
  generalize parseResourceParameter u.platform request.resource = resources
  dsimp only
  split
  · exact Prog.uses_pure _ _
  split
  · exact Prog.uses_bind (uses_refuseIf _ _ _) fun _ => Prog.uses_pure _ _
  refine Prog.uses_bind (uses_orRaise _ _) fun malformed => ?_
  refine Prog.uses_bind (uses_refuseIf _ _ _) fun _ => ?_
  split
  · exact Prog.uses_pure _ _
  · exact Prog.uses_bind (ScopeRegistry.unknownResources_uses ..) fun _ =>
      Prog.uses_bind (uses_refuseIf _ _ _) fun _ => Prog.uses_pure _ _

theorem effectiveScope_uses (client : Client) (requested : String) (default : Finset Scope) :
    (u.effectiveScope client requested default).Uses (Call.In [.passive]) := by
  unfold effectiveScope
  refine Prog.uses_bind (uses_refuseIf _ _ _) fun _ => ?_
  dsimp only
  split
  · exact Prog.uses_pure _ _
  · exact Prog.uses_bind (ScopeRegistry.unknownScopes_uses ..) fun _ =>
      Prog.uses_bind (uses_refuseIf _ _ _) fun _ => Prog.uses_pure _ _

theorem validateCodeExchange_uses (authCode : AuthorizationCode) (request : TokenRequest) :
    (u.validateCodeExchange authCode request).Uses (Call.In [.passive]) := by
  unfold validateCodeExchange
  refine Prog.uses_bind (activeClient_uses _ _) fun client => ?_
  refine Prog.uses_bind (uses_refuseIf _ _ _) fun _ => ?_
  refine Prog.uses_bind (u.authenticateClient_uses _ _) fun _ => ?_
  refine Prog.uses_bind (uses_refuseIf _ _ _) fun _ => ?_
  refine Prog.uses_bind (uses_refuseIf _ _ _) fun _ => ?_
  refine Prog.uses_bind ?_ fun verified =>
    Prog.uses_bind (uses_refuseIf _ _ _) fun _ => Prog.uses_pure _ _
  split
  · exact Prog.uses_pure _ _
  · exact uses_orRaise _ _

/-! ## Issuance draws values and signs -/

theorem resolveAudience_uses (client : Client) (scopes : Finset Scope)
    (resources : List String) :
    (u.resolveAudience client scopes resources).Uses (Call.In [.passive]) := by
  unfold resolveAudience
  split
  · exact Prog.uses_pure _ _
  split
  · exact Prog.uses_pure _ _
  · exact ScopeRegistry.audiencesFor_uses _ _ _

theorem createAccessToken_uses (i : Issuance) (claimsRequest : Option ClaimsRequest) :
    (u.createAccessToken i claimsRequest).Uses (Call.In [.passive, .accessTokens]) :=
  Prog.uses_bind (Call.uses_mono (u.resolveAudience_uses _ _ _) rfl) fun _ =>
    Prog.uses_bind (Prog.uses_op rfl) fun _ => uses_orRaise _ _

theorem issueAccessToken_uses (i : Issuance) :
    (u.issueAccessToken i).Uses (Call.In [.passive, .accessTokens]) :=
  Prog.uses_bind (u.createAccessToken_uses i none) fun _ => Prog.uses_pure _ _

theorem idTokenMaterial_services (client : Client) :
    (u.idTokenMaterial client).Uses Call.Service :=
  Prog.uses_bind (resolveIdTokenMaterial_services ..) fun _ => uses_orRefuse _ _ _

theorem verifiedClaims_services (request : ClaimsRequest) (subject : String) :
    (u.verifiedClaims request subject).Uses Call.Service := by
  unfold verifiedClaims
  split
  · exact Prog.uses_pure _ _
  split
  · exact Prog.uses_pure _ _
  · exact Prog.uses_bind (Prog.uses_op trivial) fun _ => uses_orRaise _ _

theorem openid20Identifier_services (scopes : Finset Scope) (subject realm : String) :
    (u.openid20Identifier scopes subject realm).Uses Call.Service := by
  unfold openid20Identifier
  split
  · exact Prog.uses_pure _ _
  split
  · exact Prog.uses_pure _ _
  · exact Prog.uses_bind (Prog.uses_op trivial) fun _ => uses_orRaise _ _

theorem requestedClaims_services (request : Option ClaimsRequest) (subject : String)
    (additional : List (String × Json)) :
    (u.requestedClaims request subject additional).Uses Call.Service := by
  cases request with
  | none => exact Prog.uses_pure _ _
  | some request =>
      refine Prog.uses_bind (resolveRequestedClaims_services ..) fun resolved => ?_
      refine Prog.uses_bind (u.verifiedClaims_services _ _) fun verified => ?_
      cases verified with
      | none => exact Prog.uses_pure _ _
      | some claims => exact Prog.uses_pure _ _

theorem signIdToken_uses (i : Issuance) (claimsRequest : Option ClaimsRequest) :
    (u.signIdToken i claimsRequest).Uses (Call.In [.keys]) := by
  unfold signIdToken
  refine Prog.uses_bind ((u.idTokenMaterial_services _).mono fun _ => Call.Service.in_keys)
    fun material => ?_
  refine Prog.uses_bind ((u.requestedClaims_services _ _ _).mono fun _ => Call.Service.in_keys)
    fun requested => ?_
  refine Prog.uses_bind ((u.openid20Identifier_services _ _ _).mono
    fun _ => Call.Service.in_keys) fun openid20Id => ?_
  refine Prog.uses_bind (uses_orRaise _ _) fun subject => ?_
  exact Prog.uses_bind (Prog.uses_op rfl) fun _ => uses_orRaise _ _

theorem issueIdToken_uses (i : Issuance) (claimsRequest : Option ClaimsRequest) :
    (u.issueIdToken i claimsRequest).Uses (Call.In [.keys]) := by
  refine Prog.uses_bind (u.signIdToken_uses i claimsRequest) fun signed => ?_
  exact uses_catchJwe (encryptIdTokenForClient_uses ..) (Prog.uses_fail _ _)

theorem issueTokens_uses (i : Issuance) :
    (u.issueTokens i).Uses (Call.In [.keys, .passive, .accessTokens]) := by
  unfold issueTokens
  split
  · exact Prog.uses_bind (Call.uses_mono (u.issueAccessToken_uses i) rfl) fun _ =>
      Prog.uses_pure _ _
  · refine Prog.uses_bind (Call.uses_mono (u.issueIdToken_uses _ _) rfl) fun idToken => ?_
    exact Prog.uses_bind (Call.uses_mono (u.createAccessToken_uses _ _) rfl) fun _ =>
      Prog.uses_pure _ _

theorem issueRefreshToken_uses (i : Issuance) :
    (u.issueRefreshToken i).Uses (Call.In [.draws, .newRefreshTokens]) :=
  Prog.uses_bind (Prog.uses_op rfl) fun _ =>
    Prog.uses_bind (Prog.uses_op rfl) fun _ => Prog.uses_pure _ _

theorem offlineRefreshToken_uses (i : Issuance) :
    (u.offlineRefreshToken i).Uses (Call.In [.draws, .newRefreshTokens]) := by
  unfold offlineRefreshToken
  split
  · exact u.issueRefreshToken_uses i
  · exact Prog.uses_pure _ _

/-! ## The grants -/

theorem revokeIssuedTokens_uses (authCode : AuthorizationCode) :
    (u.revokeIssuedTokens authCode).Uses (Call.In [.refreshTokens, .revoked]) := by
  unfold revokeIssuedTokens
  refine Prog.uses_bind ?_ fun _ => ?_
  · split
    · exact Prog.uses_op rfl
    · exact Prog.uses_pure _ _
  · split
    · exact Prog.uses_op rfl
    · exact Prog.uses_pure _ _

theorem checkCode_uses (request : TokenRequest) :
    (u.checkCode request).Uses (Call.In [.passive, .codes, .refreshTokens, .revoked]) := by
  unfold checkCode
  refine Prog.uses_bind (Prog.uses_bind (Prog.uses_op rfl) fun _ => uses_orRefuse _ _ _)
    fun authCode => ?_
  split
  · exact Prog.uses_bind (Call.uses_mono (u.revokeIssuedTokens_uses _) rfl)
      fun _ => Prog.uses_fail _ _
  refine Prog.uses_bind (Prog.uses_op rfl) fun now => ?_
  refine Prog.uses_bind (uses_refuseIf _ _ _) fun _ => ?_
  refine Prog.uses_bind (Call.uses_mono (u.validateCodeExchange_uses _ _) rfl) fun _ => ?_
  refine Prog.uses_bind (Call.uses_mono (u.evaluateDpop_uses _ _ _) rfl) fun _ => ?_
  exact Prog.uses_bind (Call.uses_mono (u.effectiveResources_uses _ _) rfl)
    fun _ => Prog.uses_pure _ _

theorem resolvePreAuthorizedCode_uses (codeValue : String) (now : Instant) :
    (u.resolvePreAuthorizedCode codeValue now).Uses
      (Call.In [.codes, .refreshTokens, .revoked]) := by
  unfold resolvePreAuthorizedCode
  refine Prog.uses_bind (Prog.uses_bind (Prog.uses_op rfl) fun _ => uses_orRefuse _ _ _)
    fun authCode => ?_
  refine Prog.uses_bind (uses_refuseIf _ _ _) fun _ => ?_
  split
  · exact Prog.uses_bind (Call.uses_mono (u.revokeIssuedTokens_uses _) rfl)
      fun _ => Prog.uses_fail _ _
  · exact Prog.uses_bind (uses_refuseIf _ _ _) fun _ => Prog.uses_pure _ _

theorem checkPreAuthorizedCode_uses (request : TokenRequest) :
    (u.checkPreAuthorizedCode request).Uses
      (Call.In [.passive, .codes, .refreshTokens, .revoked]) := by
  unfold checkPreAuthorizedCode
  refine Prog.uses_bind (Prog.uses_op rfl) fun now => ?_
  refine Prog.uses_bind (Call.uses_mono (u.resolvePreAuthorizedCode_uses _ _) rfl)
    fun authCode => ?_
  refine Prog.uses_bind (Call.uses_mono (activeClient_uses _ _) rfl) fun _ => ?_
  refine Prog.uses_bind (Call.uses_mono (u.authenticateClient_uses _ _) rfl) fun _ => ?_
  refine Prog.uses_bind (uses_refuseIf _ _ _) fun _ => ?_
  refine Prog.uses_bind (uses_refuseIf _ _ _) fun _ => ?_
  refine Prog.uses_bind (Call.uses_mono (u.evaluateDpop_uses _ _ _) rfl) fun _ => ?_
  exact Prog.uses_bind (Call.uses_mono (u.effectiveResources_uses _ _) rfl)
    fun _ => Prog.uses_pure _ _

theorem redeemCode_uses (request : TokenRequest) (g : Granted AuthorizationCode) :
    (u.redeemCode request g).Uses
      (Call.In [.keys, .passive, .draws, .accessTokens, .codes, .newRefreshTokens]) := by
  unfold redeemCode
  refine Prog.uses_bind (Prog.uses_op rfl) fun _ => ?_
  refine Prog.uses_bind (Call.uses_mono (u.offlineRefreshToken_uses _) rfl) fun _ => ?_
  refine Prog.uses_bind (Call.uses_mono (u.issueTokens_uses _) rfl) fun _ => ?_
  exact Prog.uses_bind (Prog.uses_op rfl) fun _ => Prog.uses_pure _ _

theorem exchangeCode_uses (request : TokenRequest) :
    (u.exchangeCode request).Uses (Call.In [.keys, .passive, .draws, .accessTokens, .codes,
      .refreshTokens, .newRefreshTokens, .revoked]) :=
  Prog.uses_bind (Call.uses_mono (u.checkCode_uses request) rfl) fun _ =>
    Call.uses_mono (u.redeemCode_uses _ _) rfl

theorem redeemPreAuthorizedCode_uses (request : TokenRequest)
    (g : Granted AuthorizationCode) :
    (u.redeemPreAuthorizedCode request g).Uses
      (Call.In [.passive, .accessTokens, .codes]) :=
  Prog.uses_bind (Prog.uses_op rfl) fun _ =>
    Prog.uses_bind (Call.uses_mono (u.issueAccessToken_uses _) rfl)
      fun _ => Prog.uses_pure _ _

theorem preAuthorizedCode_uses (request : TokenRequest) :
    (u.preAuthorizedCode request).Uses
      (Call.In [.passive, .accessTokens, .codes, .refreshTokens, .revoked]) :=
  Prog.uses_bind (Call.uses_mono (u.checkPreAuthorizedCode_uses request) rfl) fun _ =>
    Call.uses_mono (u.redeemPreAuthorizedCode_uses _ _) rfl

theorem accessTokenOnly_uses (client : Client) (subject : String) (request : TokenRequest) :
    (u.accessTokenOnly client subject request).Uses (Call.In [.passive, .accessTokens]) := by
  unfold accessTokenOnly
  refine Prog.uses_bind (Call.uses_mono (u.effectiveScope_uses _ _ _) rfl) fun _ => ?_
  refine Prog.uses_bind (Call.uses_mono (u.evaluateDpop_uses _ _ _) rfl) fun _ => ?_
  refine Prog.uses_bind (Call.uses_mono (u.effectiveResources_uses _ _) rfl) fun _ => ?_
  refine Prog.uses_bind (Prog.uses_op rfl) fun _ => ?_
  exact Prog.uses_bind (Call.uses_mono (u.issueAccessToken_uses _) rfl) fun _ => Prog.uses_pure _ _

theorem clientCredentials_uses (request : TokenRequest) :
    (u.clientCredentials request).Uses (Call.In [.passive, .accessTokens]) := by
  unfold clientCredentials
  refine Prog.uses_bind (Call.uses_mono (activeClient_uses _ _) rfl) fun _ => ?_
  refine Prog.uses_bind (uses_refuseIf _ _ _) fun _ => ?_
  refine Prog.uses_bind (Call.uses_mono (u.authenticateClient_uses _ _) rfl) fun _ => ?_
  exact u.accessTokenOnly_uses _ _ _

theorem jwtBearer_uses (request : TokenRequest) :
    (u.jwtBearer request).Uses (Call.In [.passive, .accessTokens]) := by
  refine Prog.uses_bind (Call.uses_mono (l := [.passive]) ?_ rfl) fun resolved =>
    u.accessTokenOnly_uses _ _ _
  unfold jwtBearerSubject
  refine Prog.uses_bind (uses_refuseIf _ _ _) fun _ => ?_
  refine Prog.uses_bind (uses_refuseIf _ _ _) fun _ => ?_
  refine Prog.uses_bind (uses_orRefuse _ _ _) fun _ => ?_
  refine Prog.uses_bind (uses_refuseIf _ _ _) fun _ => ?_
  refine Prog.uses_bind (activeClient_uses _ _) fun _ => ?_
  refine Prog.uses_bind (Prog.uses_bind (Prog.uses_op rfl) fun _ => uses_orRefuse _ _ _)
    fun verified => ?_
  split
  · exact Prog.uses_fail _ _
  · exact Prog.uses_pure _ _
  · exact Prog.uses_fail _ _

theorem resolveRefreshGrant_uses (request : TokenRequest) :
    (u.resolveRefreshGrant request).Uses (Call.In [.passive, .refreshTokens]) := by
  unfold resolveRefreshGrant
  refine Prog.uses_bind (Prog.uses_bind (Prog.uses_op rfl) fun _ => uses_orRefuse _ _ _)
    fun stored => ?_
  refine Prog.uses_bind (uses_refuseIf _ _ _) fun _ => ?_
  refine Prog.uses_bind (uses_refuseIf _ _ _) fun _ => ?_
  refine Prog.uses_bind (Prog.uses_op rfl) fun _ => ?_
  refine Prog.uses_bind (uses_refuseIf _ _ _) fun _ => ?_
  exact Prog.uses_bind (uses_refuseIf _ _ _) fun _ => Prog.uses_pure _ _

theorem checkRefresh_uses (request : TokenRequest) :
    (u.checkRefresh request).Uses (Call.In [.passive, .refreshTokens]) := by
  unfold checkRefresh
  refine Prog.uses_bind (uses_refuseIf _ _ _) fun _ => ?_
  refine Prog.uses_bind (Call.uses_mono (activeClient_uses _ _) rfl) fun _ => ?_
  refine Prog.uses_bind (Call.uses_mono (u.authenticateClient_uses _ _) rfl) fun _ => ?_
  refine Prog.uses_bind (Call.uses_mono (u.resolveRefreshGrant_uses _) rfl) fun resolved => ?_
  refine Prog.uses_bind (uses_refuseIf _ _ _) fun _ => ?_
  refine Prog.uses_bind (Prog.uses_op rfl) fun _ => ?_
  refine Prog.uses_bind (Call.uses_mono (u.evaluateDpop_uses _ _ _) rfl) fun _ => ?_
  exact Prog.uses_bind (Call.uses_mono (u.effectiveResources_uses _ _) rfl)
    fun _ => Prog.uses_pure _ _

theorem rotate_uses (request : TokenRequest) (g : Granted (RefreshToken × Finset Scope)) :
    (u.rotate request g).Uses (Call.In [.draws, .refreshTokens, .newRefreshTokens]) := by
  unfold rotate
  split
  · exact Prog.uses_pure _ _
  · exact Prog.uses_bind (Prog.uses_op rfl) fun _ =>
      Call.uses_mono (u.issueRefreshToken_uses _) rfl

theorem renew_uses (request : TokenRequest) (g : Granted (RefreshToken × Finset Scope)) :
    (u.renew request g).Uses
      (Call.In [.keys, .passive, .draws, .accessTokens, .refreshTokens, .newRefreshTokens]) := by
  unfold renew
  refine Prog.uses_bind (Call.uses_mono (u.rotate_uses request g) rfl) fun refreshToken => ?_
  exact Prog.uses_bind (Call.uses_mono (u.issueTokens_uses _) rfl) fun _ => Prog.uses_pure _ _

theorem refresh_uses (request : TokenRequest) :
    (u.refresh request).Uses
      (Call.In [.keys, .passive, .draws, .accessTokens, .refreshTokens, .newRefreshTokens]) :=
  Prog.uses_bind (Call.uses_mono (u.checkRefresh_uses request) rfl) fun g =>
    u.renew_uses request g

theorem issueSession_uses (i : Issuance) (dpopBound : Bool) :
    (u.issueSession i dpopBound).Uses
      (Call.In [.keys, .passive, .draws, .accessTokens, .newRefreshTokens]) :=
  Prog.uses_bind (Call.uses_mono (u.offlineRefreshToken_uses _) rfl) fun _ =>
    Prog.uses_bind (Call.uses_mono (u.issueTokens_uses _) rfl) fun _ => Prog.uses_pure _ _

theorem loadDeviceSession_uses (request : TokenRequest) :
    (u.loadDeviceSession request).Uses (Call.In [.passive, .devices]) := by
  unfold loadDeviceSession
  refine Prog.uses_bind (Prog.uses_bind (Prog.uses_op rfl) fun _ => uses_orRefuse _ _ _)
    fun stored => ?_
  refine Prog.uses_bind (uses_refuseIf _ _ _) fun _ => ?_
  refine Prog.uses_bind (Prog.uses_op rfl) fun now => ?_
  split
  · exact Prog.uses_bind (Prog.uses_op rfl) fun _ => Prog.uses_fail _ _
  · exact Prog.uses_bind (uses_refuseIf _ _ _) fun _ => Prog.uses_pure _ _

theorem checkDevice_uses (request : TokenRequest) :
    (u.checkDevice request).Uses (Call.In [.passive, .devices]) := by
  unfold checkDevice
  refine Prog.uses_bind (uses_refuseIf _ _ _) fun _ => ?_
  refine Prog.uses_bind (uses_refuseIf _ _ _) fun _ => ?_
  refine Prog.uses_bind (Call.uses_mono (activeClient_uses _ _) rfl) fun _ => ?_
  refine Prog.uses_bind (Call.uses_mono (u.authenticateClient_uses _ _) rfl) fun _ => ?_
  refine Prog.uses_bind (Call.uses_mono (u.evaluateDpop_uses _ _ _) rfl) fun _ => ?_
  refine Prog.uses_bind (Call.uses_mono (u.loadDeviceSession_uses _) rfl) fun stored => ?_
  refine Prog.uses_bind (Call.uses_mono (u.effectiveResources_uses _ _) rfl) fun _ => ?_
  exact Prog.uses_bind (Prog.uses_op rfl) fun _ => Prog.uses_pure _ _

theorem loadCibaSession_uses (request : TokenRequest) :
    (u.loadCibaSession request).Uses (Call.In [.passive, .backchannel]) := by
  unfold loadCibaSession
  refine Prog.uses_bind (Prog.uses_bind (Prog.uses_op rfl) fun _ => uses_orRefuse _ _ _)
    fun stored => ?_
  refine Prog.uses_bind (uses_refuseIf _ _ _) fun _ => ?_
  refine Prog.uses_bind (Prog.uses_op rfl) fun now => ?_
  split
  · exact Prog.uses_bind (Prog.uses_op rfl) fun _ => Prog.uses_fail _ _
  · refine Prog.uses_bind (uses_refuseIf _ _ _) fun _ => ?_
    exact Prog.uses_bind (uses_refuseIf _ _ _) fun _ => Prog.uses_pure _ _

theorem checkCiba_uses (request : TokenRequest) :
    (u.checkCiba request).Uses (Call.In [.passive, .backchannel]) := by
  unfold checkCiba
  refine Prog.uses_bind (uses_refuseIf _ _ _) fun _ => ?_
  refine Prog.uses_bind (uses_refuseIf _ _ _) fun _ => ?_
  refine Prog.uses_bind (Call.uses_mono (activeClient_uses _ _) rfl) fun _ => ?_
  refine Prog.uses_bind (Call.uses_mono (u.authenticateClient_uses _ _) rfl) fun _ => ?_
  refine Prog.uses_bind (Call.uses_mono (u.evaluateDpop_uses _ _ _) rfl) fun _ => ?_
  refine Prog.uses_bind (Call.uses_mono (u.loadCibaSession_uses _) rfl) fun stored => ?_
  refine Prog.uses_bind (Call.uses_mono (u.effectiveResources_uses _ _) rfl) fun _ => ?_
  exact Prog.uses_bind (Prog.uses_op rfl) fun _ => Prog.uses_pure _ _

theorem devicePendingResponse_uses (stored : DeviceAuthorization) (now : Instant) :
    (devicePendingResponse stored now).Uses (Call.In [.devices]) := by
  unfold devicePendingResponse
  split <;> exact Prog.uses_bind (Prog.uses_op rfl) fun _ => Prog.uses_fail _ _

theorem cibaPendingResponse_uses (stored : BackchannelAuthenticationRequest)
    (now : Instant) : (cibaPendingResponse stored now).Uses (Call.In [.backchannel]) := by
  unfold cibaPendingResponse
  split <;> exact Prog.uses_bind (Prog.uses_op rfl) fun _ => Prog.uses_fail _ _

theorem deviceCode_uses (request : TokenRequest) :
    (u.deviceCode request).Uses
      (Call.In [.keys, .passive, .draws, .accessTokens, .newRefreshTokens, .devices]) := by
  refine Prog.uses_bind (Call.uses_mono (u.checkDevice_uses request) rfl) fun g => ?_
  unfold pollDevice
  split
  · exact Prog.uses_bind (uses_refuseIf _ _ _) fun _ =>
      Prog.uses_bind (Prog.uses_op rfl) fun _ => Call.uses_mono (u.issueSession_uses _ _) rfl
  · exact Call.uses_mono (devicePendingResponse_uses _ _) rfl

theorem cibaApprovedFlow_uses (g : Granted BackchannelAuthenticationRequest)
    (tlsCertHash : String) :
    (u.cibaApprovedFlow g tlsCertHash).Uses
      (Call.In [.keys, .passive, .draws, .accessTokens, .newRefreshTokens, .backchannel]) :=
  Prog.uses_bind (uses_refuseIf _ _ _) fun _ =>
    Prog.uses_bind (Prog.uses_op rfl) fun _ => Call.uses_mono (u.issueSession_uses _ _) rfl

theorem ciba_uses (request : TokenRequest) :
    (u.ciba request).Uses
      (Call.In [.keys, .passive, .draws, .accessTokens, .newRefreshTokens, .backchannel]) := by
  refine Prog.uses_bind (Call.uses_mono (u.checkCiba_uses request) rfl) fun g => ?_
  unfold pollCiba
  split
  · exact u.cibaApprovedFlow_uses _ _
  · exact Call.uses_mono (cibaPendingResponse_uses _ _) rfl

/-! ## One entry for the seven grants -/

/-- `execute` is one of its grants, on a request that differs from the
given one in its `client_id` at most. -/
theorem execute_cases (request : TokenRequest) :
    ∃ clientId, u.execute request = u.dispatch { request with clientId := clientId } := by
  unfold execute deduceClientId
  split
  · exact ⟨request.clientId, rfl⟩
  dsimp only
  split
  · exact ⟨_, rfl⟩
  · exact ⟨request.clientId, rfl⟩

theorem dispatch_deviceCode {request : TokenRequest}
    (h : request.grantType = deviceCodeGrantType) :
    u.dispatch request = u.deviceCode request := by
  simp [dispatch, h, deviceCodeGrantType, jwtBearerGrantTypeUrn]

theorem dispatch_ciba {request : TokenRequest} (h : request.grantType = cibaGrantType) :
    u.dispatch request = u.ciba request := by
  simp [dispatch, h, deviceCodeGrantType, cibaGrantType, jwtBearerGrantTypeUrn]

end TokenUseCase

end PurIdentityServer

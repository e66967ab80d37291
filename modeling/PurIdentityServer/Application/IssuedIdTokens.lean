import PurIdentityServer.Application.AuthorizeTotality
import PurIdentityServer.Application.FailedRequests

/-!
# IssuedIdTokens — what the id_tokens of the token endpoint are signed for

An `id_token` of the token endpoint is signed for the row a grant found
(`Grounds`): the client of the request, the subject of the row, and what
the row keeps of the session. `signs_of_execute` follows the signature
back to that row, for the four grants that sign one.
-/

namespace PurIdentityServer

open Effects Effects.Prog

/-- The algorithm that signs the `id_token`s of a client. -/
def signingAlgorithmOf (client : Client) (default : JWTAlgorithm) : JWTAlgorithm :=
  (JWTAlgorithm.ofValue? client.idTokenSignedResponseAlg).getD default

section
variable {ε : Type} {ports : Ports} {w : World}

theorem resolveIdTokenMaterial_algorithm (client : Client) (default : JWTAlgorithm)
    (secretCipher : Bool) :
    wp (Monitor.ofExec (exec ports))
      (resolveIdTokenMaterial client default secretCipher : M ε _)
      (fun _ found => ∀ material, found = some material →
        material.1 = signingAlgorithmOf client default) (fun _ _ => True) w := by
  have hempty : JWTAlgorithm.ofValue? "" = none := by decide
  have hdefault : JWTAlgorithm.ofValue? client.idTokenSignedResponseAlg = none →
      signingAlgorithmOf client default = default := by
    intro h
    unfold signingAlgorithmOf
    rw [h]
    rfl
  unfold resolveIdTokenMaterial
  dsimp only
  split
  · rename_i hnone
    refine wp_pure.mpr ?_
    rintro material ⟨⟩
    refine (hdefault ?_).symm
    rw [hnone]
    exact hempty
  split
  · rename_i hvalue
    refine wp_pure.mpr ?_
    rintro material ⟨⟩
    exact (hdefault hvalue).symm
  · rename_i algorithm hvalue
    have halgorithm : signingAlgorithmOf client default = algorithm := by
      unfold signingAlgorithmOf
      rw [hvalue]
      rfl
    split
    · refine wp_pure.mpr ?_
      rintro material ⟨⟩
      exact halgorithm.symm
    split
    · refine wp_pure.mpr ?_
      rintro material ⟨⟩
    · rw [bind_assoc']
      refine wp_exec_bind.mpr ?_
      cases (exec ports (.decryptSecret client.clientSecretCiphertext) w).1 with
      | error x => exact wp_fail.mpr trivial
      | ok secret =>
          refine wp_pure.mpr ?_
          rintro material ⟨⟩
          exact halgorithm.symm

end

namespace TokenUseCase

variable (u : TokenUseCase)

/-- What an `id_token` of an issuance says. -/
structure SignsFor (i : Issuance) (claims : IdTokenClaims) : Prop where
  algorithm : claims.algorithm = signingAlgorithmOf i.client u.config.signingAlgorithm
  issuer : claims.issuer = u.config.issuer
  subject : displaySubject u.platform i.client i.subject i.subjectMaterial
    u.config.subjectSeed = .ok claims.subject
  audience : claims.audience = i.client.clientId
  expiresAt : claims.expiresAt = Instant.epoch (i.now + seconds (u.accessTokenTtl i.client))
  issuedAt : claims.issuedAt = Instant.epoch i.now
  sessionId : claims.sessionId = i.context.sessionId

/-- The rows a request of the token endpoint is granted an `id_token` for. -/
inductive Grounds (ports : Ports) (w : World) (request : TokenRequest) : Issuance → Prop
  | code (g : Granted AuthorizationCode)
      (grant : request.grantType = "authorization_code")
      (found : w.codes.find request.code = some g.stored)
      (unconsumed : g.stored.isConsumed = false)
      (client : w.findClient ports request.clientId = some g.client) :
      Grounds ports w request (u.codeIssuance request g)
  | refresh (g : Granted (RefreshToken × Finset Scope))
      (grant : request.grantType = "refresh_token")
      (found : w.refreshTokens.find (tokenHash u.platform request.refreshToken) = some g.stored.1)
      (client : w.findClient ports request.clientId = some g.client) :
      Grounds ports w request (u.refreshIssuance request g)
  | device (g : Granted DeviceAuthorization) (tlsCertHash : String)
      (grant : request.grantType = deviceCodeGrantType)
      (found : w.deviceCodes.find (tokenHash u.platform request.deviceCode) = some g.stored)
      (client : w.findClient ports request.clientId = some g.client) :
      Grounds ports w request (deviceIssuance g tlsCertHash)
  | ciba (g : Granted BackchannelAuthenticationRequest) (tlsCertHash : String)
      (grant : request.grantType = cibaGrantType)
      (found : w.backchannelAuth.find (tokenHash u.platform request.authReqId) = some g.stored)
      (client : w.findClient ports request.clientId = some g.client) :
      Grounds ports w request (cibaIssuance g tlsCertHash)

variable {u} {ports : Ports} {w : World} {request : TokenRequest}

/-! ## The signature -/

theorem signsNothing_of_services {ε α : Type} {p : M ε α} (hp : p.Uses Call.Service) :
    p.Uses AuthorizeUseCase.SignsNothing :=
  hp.mono fun _ => AuthorizeUseCase.Call.Service.signsNothing

theorem signsNothing_of_areas {ε α : Type} {p : M ε α} {areas : List Area}
    (hp : p.Uses (Call.In areas)) (hareas : Area.keys ∉ areas) :
    p.Uses AuthorizeUseCase.SignsNothing :=
  hp.mono fun _ => AuthorizeUseCase.Call.In.signsNothing hareas

theorem signsFor_of_signIdToken {i : Issuance} {claimsRequest : Option ClaimsRequest}
    {claims : IdTokenClaims}
    (h : .createIdToken claims ∈ (u.signIdToken i claimsRequest).calls (exec ports) w) :
    u.SignsFor i claims := by
  unfold signIdToken at h
  rcases mem_calls_bind.mp h with hmem | ⟨material, w₁, hmaterial, hrest⟩
  · exact absurd hmem (AuthorizeUseCase.not_mem_calls_of_signsNothing
      (signsNothing_of_services (u.idTokenMaterial_services _)))
  have halgorithm : material.1 = signingAlgorithmOf i.client u.config.signingAlgorithm := by
    obtain ⟨found, w₂, hfound, hsome⟩ := run_bind_ok.mp hmaterial
    cases found with
    | none => cases hsome
    | some value =>
        cases hsome
        exact run_ok (resolveIdTokenMaterial_algorithm _ _ _) hfound _ rfl
  dsimp only at hrest
  rcases mem_calls_bind.mp hrest with hmem | ⟨requested, w₃, -, hrest₁⟩
  · exact absurd hmem (AuthorizeUseCase.not_mem_calls_of_signsNothing
      (signsNothing_of_services (u.requestedClaims_services _ _ _)))
  rcases mem_calls_bind.mp hrest₁ with hmem | ⟨identifier, w₄, -, hrest₂⟩
  · exact absurd hmem (AuthorizeUseCase.not_mem_calls_of_signsNothing
      (signsNothing_of_services (u.openid20Identifier_services _ _ _)))
  rcases mem_calls_bind.mp hrest₂ with hmem | ⟨subject, w₅, hsubject, hrest₃⟩
  · exact absurd hmem AuthorizeUseCase.not_mem_calls_orRaise
  obtain ⟨hdisplayed, rfl⟩ := run_orRaise_ok.mp hsubject
  rcases mem_calls_bind.mp hrest₃ with hmem | ⟨signed, w₆, -, hmem⟩
  · cases List.mem_singleton.mp hmem
    exact ⟨halgorithm, rfl, hdisplayed, rfl, rfl, rfl, rfl⟩
  · exact absurd hmem AuthorizeUseCase.not_mem_calls_orRaise

theorem signsFor_of_issueTokens {i : Issuance} {claims : IdTokenClaims}
    (h : .createIdToken claims ∈ (u.issueTokens i).calls (exec ports) w) :
    u.SignsFor i claims := by
  have hkeys : Area.keys ∉ [Area.passive, Area.accessTokens] := by decide
  unfold issueTokens at h
  split at h
  · rcases mem_calls_bind.mp h with hmem | ⟨issued, w₁, -, hmem⟩
    · exact absurd hmem (AuthorizeUseCase.not_mem_calls (u.issueAccessToken_uses i) hkeys)
    · cases hmem
  · rcases mem_calls_bind.mp h with hmem | ⟨idToken, w₁, -, hrest⟩
    · unfold issueIdToken at hmem
      rcases mem_calls_bind.mp hmem with hmem | ⟨signed, w₂, -, hencrypt⟩
      · exact signsFor_of_signIdToken hmem
      · refine absurd hencrypt (AuthorizeUseCase.not_mem_calls_of_signsNothing ?_)
        exact uses_catchJwe (signsNothing_of_services (encryptIdTokenForClient_services ..))
          (uses_fail _ _)
    · rcases mem_calls_bind.mp hrest with hmem | ⟨accessToken, w₂, -, hmem⟩
      · exact absurd hmem (AuthorizeUseCase.not_mem_calls (u.createAccessToken_uses _ _) hkeys)
      · cases hmem

/-! ## The rows a grant reads -/

theorem findClient_of_exec (c : Call) (id : String) :
    (exec ports c w).2.findClient ports id = w.findClient ports id := by
  unfold World.findClient
  rw [exec_clients, exec_clock]

/-- The client looked up is the one of the registry. -/
theorem activeClient_found (id description : String) :
    wp (Monitor.ofExec (exec ports)) (activeClient id description)
      (fun w' client => w' = w ∧ w.findClient ports id = some client) (fun _ _ => True) w := by
  unfold activeClient
  refine wp_orRefuse_bind.mpr (wp_op.mpr ⟨trivial, ?_⟩)
  rintro found rfl
  refine ⟨fun _ => trivial, fun client hclient => ?_⟩
  exact wp_refuseIf_bind.mpr ⟨fun _ => trivial, fun _ => wp_pure.mpr ⟨rfl, hclient⟩⟩

theorem validateCodeExchange_found (authCode : AuthorizationCode) :
    wp (Monitor.ofExec (exec ports)) (u.validateCodeExchange authCode request)
      (fun _ client => w.findClient ports request.clientId = some client ∧
        authCode.clientId = client.clientId) (fun _ _ => True) w := by
  unfold validateCodeExchange
  refine (wp_bind _ _).mpr (wp_mono (activeClient_found _ _) ?_ fun _ _ h => h)
  rintro _ client ⟨rfl, hclient⟩
  refine wp_refuseIf_bind.mpr ⟨fun _ => trivial, fun _ => ?_⟩
  refine wp_same_bind (u.authenticateClient_uses _ _) rfl (fun _ _ _ => trivial) fun w₁ _ _ => ?_
  refine wp_refuseIf_bind.mpr ⟨fun _ => trivial, fun hnamed => ?_⟩
  refine wp_refuseIf_bind.mpr ⟨fun _ => trivial, fun _ => ?_⟩
  have hverify : (if authCode.codeChallenge = "" then Pure.pure true
      else orRaise (u.verifyPkce authCode request.codeVerifier) : M TokenError Bool).Uses
        (Call.In []) := by
    split
    · exact uses_pure _ _
    · exact uses_orRaise _ _
  refine wp_same_bind hverify rfl (fun _ _ _ => trivial) fun w₂ verified _ => ?_
  exact wp_refuseIf_bind.mpr ⟨fun _ => trivial, fun _ => wp_pure.mpr ⟨hclient, not_not.mp hnamed⟩⟩

theorem checkCode_found :
    wp (Monitor.ofExec (exec ports)) (u.checkCode request)
      (fun _ g => w.codes.find request.code = some g.stored ∧ g.stored.isConsumed = false ∧
        w.findClient ports request.clientId = some g.client ∧
          g.stored.clientId = g.client.clientId) (fun _ _ => True) w := by
  unfold checkCode
  refine wp_orRefuse_bind.mpr (wp_op.mpr ⟨trivial, ?_⟩)
  rintro found rfl
  refine ⟨fun _ => trivial, fun row hrow => ?_⟩
  split
  · exact (wp_bind _ _).mpr (wp_mono (revokeIssuedTokens_grants u row)
      (fun _ _ _ => wp_fail.mpr trivial)
      fun _ _ _ => trivial)
  rename_i hconsumed
  refine wp_exec_bind.mpr ?_
  refine wp_refuseIf_bind.mpr ⟨fun _ => trivial, fun _ => ?_⟩
  refine (wp_bind _ _).mpr (wp_mono (validateCodeExchange_found row) ?_ fun _ _ h => h)
  intro w₁ client hclient
  refine wp_same_bind (u.evaluateDpop_uses _ _ _) rfl (fun _ _ _ => trivial) fun w₂ binding _ => ?_
  refine wp_same_bind (u.effectiveResources_uses _ _) rfl (fun _ _ _ => trivial)
    fun w₃ resources _ => ?_
  exact wp_pure.mpr ⟨hrow, by simpa using hconsumed, hclient⟩

theorem checkRefresh_found :
    wp (Monitor.ofExec (exec ports)) (u.checkRefresh request)
      (fun _ g =>
        w.refreshTokens.find (tokenHash u.platform request.refreshToken) = some g.stored.1 ∧
          w.findClient ports request.clientId = some g.client) (fun _ _ => True) w := by
  unfold checkRefresh
  refine wp_refuseIf_bind.mpr ⟨fun _ => trivial, fun _ => ?_⟩
  refine (wp_bind _ _).mpr (wp_mono (activeClient_found _ _) ?_ fun _ _ h => h)
  rintro _ client ⟨rfl, hclient⟩
  refine wp_same_bind (u.authenticateClient_uses _ _) rfl (fun _ _ _ => trivial)
    fun w₁ _ hsame => ?_
  refine (wp_bind _ _).mpr (wp_mono (Q := fun _ resolved =>
    w₁.refreshTokens.find (tokenHash u.platform request.refreshToken) = some resolved.1)
    (E := fun _ _ => True) ?_ ?_ fun _ _ h => h)
  · unfold resolveRefreshGrant
    refine wp_orRefuse_bind.mpr (wp_op.mpr ⟨trivial, ?_⟩)
    rintro found rfl
    refine ⟨fun _ => trivial, fun row hrow => ?_⟩
    refine wp_refuseIf_bind.mpr ⟨fun _ => trivial, fun _ => ?_⟩
    refine wp_refuseIf_bind.mpr ⟨fun _ => trivial, fun _ => ?_⟩
    refine wp_exec_bind.mpr ?_
    refine wp_refuseIf_bind.mpr ⟨fun _ => trivial, fun _ => ?_⟩
    exact wp_refuseIf_bind.mpr ⟨fun _ => trivial, fun _ => wp_pure.mpr hrow⟩
  rintro w₂ ⟨stored, scopes⟩ hrow
  rw [hsame.refreshTokens] at hrow
  refine wp_refuseIf_bind.mpr ⟨fun _ => trivial, fun _ => ?_⟩
  refine wp_exec_bind.mpr ?_
  refine wp_same_bind (u.evaluateDpop_uses _ _ _) rfl (fun _ _ _ => trivial) fun w₃ binding _ => ?_
  refine wp_same_bind (u.effectiveResources_uses _ _) rfl (fun _ _ _ => trivial)
    fun w₄ resources _ => ?_
  exact wp_pure.mpr ⟨hrow, hclient⟩

theorem checkDevice_found :
    wp (Monitor.ofExec (exec ports)) (u.checkDevice request)
      (fun _ g =>
        w.deviceCodes.find (tokenHash u.platform request.deviceCode) = some g.stored ∧
          w.findClient ports request.clientId = some g.client) (fun _ _ => True) w := by
  unfold checkDevice
  refine wp_refuseIf_bind.mpr ⟨fun _ => trivial, fun _ => ?_⟩
  refine wp_refuseIf_bind.mpr ⟨fun _ => trivial, fun _ => ?_⟩
  refine (wp_bind _ _).mpr (wp_mono (activeClient_found _ _) ?_ fun _ _ h => h)
  rintro _ client ⟨rfl, hclient⟩
  refine wp_same_bind (u.authenticateClient_uses _ _) rfl (fun _ _ _ => trivial) fun w₁ _ h₁ => ?_
  refine wp_same_bind (u.evaluateDpop_uses _ _ _) rfl (fun _ _ _ => trivial) fun w₂ binding h₂ => ?_
  refine (wp_bind _ _).mpr (wp_mono (Q := fun _ stored =>
    w₂.deviceCodes.find (tokenHash u.platform request.deviceCode) = some stored)
    (E := fun _ _ => True) ?_ ?_ fun _ _ h => h)
  · unfold loadDeviceSession
    refine wp_orRefuse_bind.mpr (wp_op.mpr ⟨trivial, ?_⟩)
    rintro found rfl
    refine ⟨fun _ => trivial, fun row hrow => ?_⟩
    refine wp_refuseIf_bind.mpr ⟨fun _ => trivial, fun _ => ?_⟩
    refine wp_exec_bind.mpr ?_
    split
    · exact wp_exec_bind.mpr (wp_fail.mpr trivial)
    · exact wp_refuseIf_bind.mpr ⟨fun _ => trivial, fun _ => wp_pure.mpr hrow⟩
  intro w₃ stored hrow
  rw [h₂.deviceCodes, h₁.deviceCodes] at hrow
  refine wp_same_bind (u.effectiveResources_uses _ _) rfl (fun _ _ _ => trivial)
    fun w₄ resources _ => ?_
  exact wp_exec_bind.mpr (wp_pure.mpr ⟨hrow, hclient⟩)

theorem checkCiba_found :
    wp (Monitor.ofExec (exec ports)) (u.checkCiba request)
      (fun _ g =>
        w.backchannelAuth.find (tokenHash u.platform request.authReqId) = some g.stored ∧
          w.findClient ports request.clientId = some g.client) (fun _ _ => True) w := by
  unfold checkCiba
  refine wp_refuseIf_bind.mpr ⟨fun _ => trivial, fun _ => ?_⟩
  refine wp_refuseIf_bind.mpr ⟨fun _ => trivial, fun _ => ?_⟩
  refine (wp_bind _ _).mpr (wp_mono (activeClient_found _ _) ?_ fun _ _ h => h)
  rintro _ client ⟨rfl, hclient⟩
  refine wp_same_bind (u.authenticateClient_uses _ _) rfl (fun _ _ _ => trivial) fun w₁ _ h₁ => ?_
  refine wp_same_bind (u.evaluateDpop_uses _ _ _) rfl (fun _ _ _ => trivial) fun w₂ binding h₂ => ?_
  refine (wp_bind _ _).mpr (wp_mono (Q := fun _ stored =>
    w₂.backchannelAuth.find (tokenHash u.platform request.authReqId) = some stored)
    (E := fun _ _ => True) ?_ ?_ fun _ _ h => h)
  · unfold loadCibaSession
    refine wp_orRefuse_bind.mpr (wp_op.mpr ⟨trivial, ?_⟩)
    rintro found rfl
    refine ⟨fun _ => trivial, fun row hrow => ?_⟩
    refine wp_refuseIf_bind.mpr ⟨fun _ => trivial, fun _ => ?_⟩
    refine wp_exec_bind.mpr ?_
    split
    · exact wp_exec_bind.mpr (wp_fail.mpr trivial)
    · refine wp_refuseIf_bind.mpr ⟨fun _ => trivial, fun _ => ?_⟩
      exact wp_refuseIf_bind.mpr ⟨fun _ => trivial, fun _ => wp_pure.mpr hrow⟩
  intro w₃ stored hrow
  rw [h₂.backchannelAuth, h₁.backchannelAuth] at hrow
  refine wp_same_bind (u.effectiveResources_uses _ _) rfl (fun _ _ _ => trivial)
    fun w₄ resources _ => ?_
  exact wp_exec_bind.mpr (wp_pure.mpr ⟨hrow, hclient⟩)

/-! ## What a grant issues -/

/-- The refresh token of an issuance renews it. -/
structure RenewedBy (i : Issuance) (row : RefreshToken) : Prop where
  clientId : row.clientId = i.client.clientId
  subject : row.subject = i.subject
  subjectMaterial : row.subjectMaterial = i.subjectMaterial

/-- The calls that give out an `id_token` or a refresh token. -/
def GivesOut : Call → Prop
  | .createIdToken _ | .saveRefreshToken _ => True
  | _ => False

/-- The call gives out an `id_token` or a refresh token of the issuance. -/
def IssuedFor (u : TokenUseCase) (i : Issuance) : Call → Prop
  | .createIdToken claims => u.SignsFor i claims
  | .saveRefreshToken row => RenewedBy i row
  | _ => False

theorem GivesOut.area {c : Call} (h : GivesOut c) : c.area ∈ [Area.keys, Area.newRefreshTokens] := by
  cases c with
  | createIdToken claims => exact List.mem_cons_self
  | saveRefreshToken row => exact List.mem_cons_of_mem _ List.mem_cons_self
  | _ => exact h.elim

/-- A part that gives nothing out. -/
theorem not_given_out {ε α : Type} {p : M ε α} {areas : List Area} (hp : p.Uses (Call.In areas))
    (hareas : Area.keys ∉ areas ∧ Area.newRefreshTokens ∉ areas) {c : Call} (hc : GivesOut c) :
    c ∉ p.calls (exec ports) w := by
  refine AuthorizeUseCase.not_mem_calls hp ?_
  intro hmem
  rcases List.mem_cons.mp hc.area with hkeys | hsaved
  · exact hareas.1 (hkeys ▸ hmem)
  · exact hareas.2 (List.mem_singleton.mp hsaved ▸ hmem)

theorem mem_calls_ask_bind {ε β : Type} {c₀ c : Call} {f : Reply c₀ → M ε β} :
    c ∈ (ask c₀ >>= f).calls (exec ports) w ↔
      c = c₀ ∨ c ∈ (f (exec ports c₀ w).1).calls (exec ports) (exec ports c₀ w).2 :=
  List.mem_cons

theorem issuedFor_of_offlineRefreshToken {i : Issuance} {c : Call} (hc : GivesOut c)
    (h : c ∈ (u.offlineRefreshToken i).calls (exec ports) w) : u.IssuedFor i c := by
  unfold offlineRefreshToken issueRefreshToken at h
  split at h
  · rcases List.mem_cons.mp h with rfl | h
    · exact hc.elim
    rcases List.mem_cons.mp h with rfl | h
    · exact ⟨rfl, rfl, rfl⟩
    · cases h
  · cases h

theorem issuedFor_of_issueTokens {i : Issuance} {c : Call} (hc : GivesOut c)
    (h : c ∈ (u.issueTokens i).calls (exec ports) w) : u.IssuedFor i c := by
  cases c with
  | createIdToken claims => exact signsFor_of_issueTokens h
  | saveRefreshToken row =>
      have hsaves : Area.newRefreshTokens ∉ [Area.keys, Area.passive, Area.accessTokens] := by
        decide
      exact absurd h (AuthorizeUseCase.not_mem_calls (u.issueTokens_uses i) hsaves)
  | _ => exact hc.elim

theorem issuedFor_of_issueSession {i : Issuance} {dpopBound : Bool} {c : Call} (hc : GivesOut c)
    (h : c ∈ (u.issueSession i dpopBound).calls (exec ports) w) : u.IssuedFor i c := by
  rcases mem_calls_bind.mp h with hmem | ⟨refreshToken, w₁, -, hrest⟩
  · exact issuedFor_of_offlineRefreshToken hc hmem
  rcases mem_calls_bind.mp hrest with hmem | ⟨issued, w₂, -, hmem⟩
  · exact issuedFor_of_issueTokens hc hmem
  · cases hmem

/-! ## The grants -/

theorem issuedFor_of_exchangeCode {c : Call} (hc : GivesOut c)
    (hgrant : request.grantType = "authorization_code")
    (h : c ∈ (u.exchangeCode request).calls (exec ports) w) :
    ∃ i, u.Grounds ports w request i ∧ u.IssuedFor i c := by
  rcases mem_calls_bind.mp h with hmem | ⟨g, w₁, hcheck, hrest⟩
  · exact absurd hmem (not_given_out (u.checkCode_uses request) (by decide) hc)
  obtain ⟨hfound, hconsumed, hclient, -⟩ := run_ok checkCode_found hcheck
  refine ⟨_, .code g hgrant hfound hconsumed hclient, ?_⟩
  unfold redeemCode at hrest
  rcases mem_calls_ask_bind.mp hrest with rfl | hrest
  · exact hc.elim
  rcases mem_calls_bind.mp hrest with hmem | ⟨refreshToken, w₂, -, hrest₁⟩
  · exact issuedFor_of_offlineRefreshToken hc hmem
  rcases mem_calls_bind.mp hrest₁ with hmem | ⟨issued, w₃, -, hmem⟩
  · exact issuedFor_of_issueTokens hc hmem
  · rcases mem_calls_ask_bind.mp hmem with rfl | hmem
    · exact hc.elim
    · cases hmem

theorem issuedFor_of_refresh {c : Call} (hc : GivesOut c)
    (hgrant : request.grantType = "refresh_token")
    (h : c ∈ (u.refresh request).calls (exec ports) w) :
    ∃ i, u.Grounds ports w request i ∧ u.IssuedFor i c := by
  rcases mem_calls_bind.mp h with hmem | ⟨g, w₁, hcheck, hrest⟩
  · exact absurd hmem (not_given_out (u.checkRefresh_uses request) (by decide) hc)
  obtain ⟨hfound, hclient⟩ := run_ok checkRefresh_found hcheck
  refine ⟨_, .refresh g hgrant hfound hclient, ?_⟩
  unfold renew at hrest
  rcases mem_calls_bind.mp hrest with hmem | ⟨refreshToken, w₂, -, hrest₁⟩
  · unfold rotate issueRefreshToken at hmem
    split at hmem
    · cases hmem
    · rcases mem_calls_ask_bind.mp hmem with rfl | hmem
      · exact hc.elim
      rcases mem_calls_ask_bind.mp hmem with rfl | hmem
      · exact hc.elim
      rcases mem_calls_ask_bind.mp hmem with rfl | hmem
      · exact ⟨rfl, rfl, rfl⟩
      · cases hmem
  rcases mem_calls_bind.mp hrest₁ with hmem | ⟨issued, w₃, -, hmem⟩
  · exact issuedFor_of_issueTokens hc hmem
  · cases hmem

theorem issuedFor_of_deviceCode {c : Call} (hc : GivesOut c)
    (hgrant : request.grantType = deviceCodeGrantType)
    (h : c ∈ (u.deviceCode request).calls (exec ports) w) :
    ∃ i, u.Grounds ports w request i ∧ u.IssuedFor i c := by
  rcases mem_calls_bind.mp h with hmem | ⟨g, w₁, hcheck, hrest⟩
  · exact absurd hmem (not_given_out (u.checkDevice_uses request) (by decide) hc)
  obtain ⟨hfound, hclient⟩ := run_ok checkDevice_found hcheck
  unfold pollDevice at hrest
  split at hrest
  · refine ⟨_, .device g (u.tlsCertificateBoundHash g.client request) hgrant hfound hclient, ?_⟩
    unfold deviceApprovedFlow at hrest
    rcases mem_calls_bind.mp hrest with hmem | ⟨_, w₂, -, hrest₁⟩
    · exact absurd hmem (not_given_out (uses_refuseIf (Call.In []) _ _) (by decide) hc)
    rcases mem_calls_ask_bind.mp hrest₁ with rfl | hmem
    · exact hc.elim
    · exact issuedFor_of_issueSession hc hmem
  · exact absurd hrest (not_given_out (devicePendingResponse_uses _ _) (by decide) hc)

/-- The end of both flows of an approved backchannel session. -/
theorem issuedFor_of_cibaApprovedFlow {g : Granted BackchannelAuthenticationRequest}
    {tlsCertHash : String} {c : Call} (hc : GivesOut c)
    (h : c ∈ (u.cibaApprovedFlow g tlsCertHash).calls (exec ports) w) :
    u.IssuedFor (cibaIssuance g tlsCertHash) c := by
  unfold cibaApprovedFlow at h
  rcases mem_calls_bind.mp h with hmem | ⟨_, w₂, -, hrest⟩
  · exact absurd hmem (not_given_out (uses_refuseIf (Call.In []) _ _) (by decide) hc)
  rcases mem_calls_ask_bind.mp hrest with rfl | hmem
  · exact hc.elim
  · exact issuedFor_of_issueSession hc hmem

theorem issuedFor_of_ciba {c : Call} (hc : GivesOut c)
    (hgrant : request.grantType = cibaGrantType)
    (h : c ∈ (u.ciba request).calls (exec ports) w) :
    ∃ i, u.Grounds ports w request i ∧ u.IssuedFor i c := by
  rcases mem_calls_bind.mp h with hmem | ⟨g, w₁, hcheck, hrest⟩
  · exact absurd hmem (not_given_out (u.checkCiba_uses request) (by decide) hc)
  obtain ⟨hfound, hclient⟩ := run_ok checkCiba_found hcheck
  unfold pollCiba at hrest
  split at hrest
  · exact ⟨_, .ciba g _ hgrant hfound hclient, issuedFor_of_cibaApprovedFlow hc hrest⟩
  · exact absurd hrest (not_given_out (cibaPendingResponse_uses _ _) (by decide) hc)

/-- The push of the tokens of an approved session. -/
theorem issuedFor_of_issueCibaPushTokens {stored : BackchannelAuthenticationRequest} {c : Call}
    (hc : GivesOut c) (h : c ∈ (u.issueCibaPushTokens stored).calls (exec ports) w) :
    ∃ g : Granted BackchannelAuthenticationRequest, g.stored = stored ∧
      w.findClient ports stored.clientId = some g.client ∧ u.IssuedFor (cibaIssuance g "") c := by
  unfold issueCibaPushTokens at h
  rcases mem_calls_bind.mp h with hmem | ⟨_, w₁, hguard, hrest⟩
  · exact absurd hmem (not_given_out (uses_refuseIf (Call.In []) _ _) (by decide) hc)
  have hsame : w₁ = w := by
    refine run_ok (Q := fun w' _ => w' = w) (E := fun _ _ => True) ?_ hguard
    exact (wp_stopIf _ _).mpr ⟨fun _ => trivial, fun _ => rfl⟩
  subst hsame
  rcases mem_calls_bind.mp hrest with hmem | ⟨client, w₂, hclient, hrest₁⟩
  · have hlookup : (ask (.findClient stored.clientId) >>=
        orRefuse ⟨"invalid_client", "Client inconnu"⟩ : M TokenError Client).Uses
          (Call.In [.passive]) := uses_bind (uses_op rfl) fun _ => uses_orRefuse _ _ _
    exact absurd hmem (not_given_out hlookup (by decide) hc)
  rcases mem_calls_ask_bind.mp hrest₁ with rfl | hmem
  · exact hc.elim
  refine ⟨⟨stored, client, w₂.clock, {}, stored.resourceUris⟩, rfl, ?_,
    issuedFor_of_cibaApprovedFlow hc hmem⟩
  refine run_ok (Q := fun _ client => w₁.findClient ports stored.clientId = some client)
    (E := fun _ _ => True) ?_ hclient
  refine (wp_bind _ _).mpr (wp_op.mpr ⟨trivial, ?_⟩)
  rintro found rfl
  exact (wp_getOr _ _).mpr ⟨fun _ => trivial, fun client hfound => hfound⟩

/-- What the endpoint gives out, it gives out for a row its grant found. -/
theorem issuedFor_of_dispatch {c : Call} (hc : GivesOut c)
    (h : c ∈ (u.dispatch request).calls (exec ports) w) :
    ∃ i, u.Grounds ports w request i ∧ u.IssuedFor i c := by
  unfold dispatch at h
  split at h
  · exact issuedFor_of_exchangeCode hc ‹_› h
  split at h
  · exact issuedFor_of_refresh hc ‹_› h
  split at h
  · exact absurd h (not_given_out (u.clientCredentials_uses request) (by decide) hc)
  split at h
  · exact absurd h (not_given_out (u.jwtBearer_uses request) (by decide) hc)
  split at h
  · exact issuedFor_of_deviceCode hc ‹_› h
  split at h
  · exact issuedFor_of_ciba hc ‹_› h
  split at h
  · exact absurd h (not_given_out (u.preAuthorizedCode_uses request) (by decide) hc)
  · cases h

end TokenUseCase

namespace AuthorizeUseCase

variable {u : AuthorizeUseCase} {ports : Ports} {request : AuthorizeRequest} {w w₀ : World}
  {validated : ValidatedAuthorization}

/-- The client of a validated request is the one of the registry. -/
theorem Validates.found (h : u.Validates ports request w validated w₀) :
    w.findClient ports request.clientId = some validated.client := by
  refine run_ok (Q := fun _ validated => w.findClient ports request.clientId =
    some validated.client) (E := fun _ _ => True) ?_ h
  unfold validateAuthorizationRequest
  dsimp only
  refine wp_refuseIf_bind.mpr ⟨fun _ => trivial, fun _ => ?_⟩
  split
  · exact wp_fail.mpr trivial
  · unfold validateForClient
    refine wp_orRefuse_bind.mpr (wp_op.mpr ⟨trivial, ?_⟩)
    rintro found rfl
    refine ⟨fun _ => trivial, fun client hclient => ?_⟩
    refine wp_refuseIf_bind.mpr ⟨fun _ => trivial, fun _ => ?_⟩
    refine wp_same_bind (checkClientRequest_uses ..) rfl (fun _ _ _ => trivial) fun w₁ _ _ => ?_
    refine wp_refuseIf_bind.mpr ⟨fun _ => trivial, fun _ => ?_⟩
    refine wp_same_bind (checkClientProfile_uses ..) rfl (fun _ _ _ => trivial) fun w₂ _ _ => ?_
    refine wp_same_bind (checkParameters_uses ..) rfl (fun _ _ _ => trivial) fun w₃ _ _ => ?_
    refine wp_same_bind (checkScopes_uses ..) rfl (fun _ _ _ => trivial) fun w₄ _ _ => ?_
    exact wp_refuseIf_bind.mpr ⟨fun _ => trivial, fun _ => wp_pure.mpr hclient⟩

end AuthorizeUseCase

end PurIdentityServer

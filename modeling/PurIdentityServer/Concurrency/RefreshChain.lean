import PurIdentityServer.Concurrency.Traffic
import Mathlib.Logic.Relation

/-!
# RefreshChain — what a chain of renewals can obtain

A `Grant` is what tokens are issued from: an authorization code, a device
or backchannel session, or a refresh token. Each request reads one grant;
the refresh token it stores is `Confined` by it, and the access token it
signs stays within it. `Confined` is a preorder, so the same holds along
any chain of renewals, whatever else the deployment serves in between.

An empty list of resources stands for no restriction, so the resources of
a restricted grant must not become empty.
-/

namespace PurIdentityServer

open Effects

variable {ι : Type} [DecidableEq ι]

/-! ## Grants -/

/-- What tokens may be issued from; `tlsCertHash` and `dpopJkt` are the keys
a refresh token is bound to. -/
structure Grant where
  clientId : String
  subject : String
  subjectMaterial : String
  scopes : Finset Scope
  resourceUris : List String := []
  tlsCertHash : String := ""
  dpopJkt : String := ""
  deriving DecidableEq

def AuthorizationCode.grant (row : AuthorizationCode) : Grant where
  clientId := row.clientId
  subject := row.subject
  subjectMaterial := row.subjectMaterial
  scopes := row.scopes
  resourceUris := row.resourceUris

def RefreshToken.grant (row : RefreshToken) : Grant where
  clientId := row.clientId
  subject := row.subject
  subjectMaterial := row.subjectMaterial
  scopes := row.scopes
  resourceUris := row.resourceUris
  tlsCertHash := row.tlsCertHash
  dpopJkt := row.dpopJkt

def DeviceAuthorization.grant (row : DeviceAuthorization) : Grant where
  clientId := row.clientId
  subject := row.subject
  subjectMaterial := row.deviceCodeHash
  scopes := row.scopes

def BackchannelAuthenticationRequest.grant (row : BackchannelAuthenticationRequest) :
    Grant where
  clientId := row.clientId
  subject := row.subject
  subjectMaterial := row.authReqIdHash
  scopes := row.scopes
  resourceUris := row.resourceUris

/-- `scopes` and `resources` stay inside the grant; a restricted grant is
never widened to no restriction. -/
structure Grant.Within (g : Grant) (scopes : Finset Scope) (resources : List String) :
    Prop where
  scopes : scopes ⊆ g.scopes
  resources : g.resourceUris ≠ [] → resources ≠ [] ∧ resources ⊆ g.resourceUris

/-- What a refresh token `g'` obtained from the grant `g` keeps of it. -/
structure Confined (client : Client) (g g' : Grant) : Prop where
  clientId : g'.clientId = g.clientId
  subject : g'.subject = g.subject
  subjectMaterial : g'.subjectMaterial = g.subjectMaterial
  within : g.Within g'.scopes g'.resourceUris
  tlsCertHash : g.tlsCertHash ≠ "" → g'.tlsCertHash = g.tlsCertHash
  dpopJkt : client.clientType = .publicClient → g.dpopJkt ≠ "" → g'.dpopJkt = g.dpopJkt

theorem Grant.Within.trans {g g' : Grant} {scopes : Finset Scope} {resources : List String}
    (h : g.Within g'.scopes g'.resourceUris) (h' : g'.Within scopes resources) :
    g.Within scopes resources := by
  refine ⟨Finset.Subset.trans h'.scopes h.scopes, fun hne => ?_⟩
  obtain ⟨hne', hsub⟩ := h.resources hne
  obtain ⟨hne'', hsub'⟩ := h'.resources hne'
  exact ⟨hne'', List.Subset.trans hsub' hsub⟩

theorem Confined.refl (client : Client) (g : Grant) : Confined client g g where
  clientId := rfl
  subject := rfl
  subjectMaterial := rfl
  within := ⟨Finset.Subset.refl _, fun hne => ⟨hne, fun _ h => h⟩⟩
  tlsCertHash := fun _ => rfl
  dpopJkt := fun _ _ => rfl

theorem Confined.trans {client : Client} {g g' g'' : Grant} (h : Confined client g g')
    (h' : Confined client g' g'') : Confined client g g'' where
  clientId := h'.clientId.trans h.clientId
  subject := h'.subject.trans h.subject
  subjectMaterial := h'.subjectMaterial.trans h.subjectMaterial
  within := h.within.trans h'.within
  tlsCertHash := by
    intro hne
    have hsame := h.tlsCertHash hne
    rw [h'.tlsCertHash (by rwa [hsame]), hsame]
  dpopJkt := by
    intro hpublic hne
    have hsame := h.dpopJkt hpublic hne
    rw [h'.dpopJkt hpublic (by rwa [hsame]), hsame]

/-! ## Issuing from the grant that was read -/

/-- The grant a reply carries. -/
def grantRead : (c : Call) → Reply c → Option Grant
  | .findByCode _ => fun r : Option AuthorizationCode => r.map AuthorizationCode.grant
  | .findByTokenHash _ => fun r : Option RefreshToken => r.map RefreshToken.grant
  | .findByDeviceCodeHash _ => fun r : Option DeviceAuthorization =>
      r.map DeviceAuthorization.grant
  | .findByAuthReqIdHash _ => fun r : Option BackchannelAuthenticationRequest =>
      r.map BackchannelAuthenticationRequest.grant
  | _ => fun _ => none

/-- The ghost is the grant read last. A refresh token stored is confined by
it and an access token signed stays within it; without a grant no refresh
token is stored. `clientId` names the client whose record is `client`. -/
def grantMonitor (clientId : String) (client : Client) :
    Monitor Call Reply (Option Grant) where
  good := fun _ c =>
    match c with
    | .findClient id => fun r : Option Client =>
        ∀ found, r = some found → found.clientId = id ∧ (id = clientId → found = client)
    | _ => fun _ => True
  ok := fun read c =>
    match c with
    | .saveRefreshToken row =>
        ∃ g, read = some g ∧ (g.clientId = clientId → Confined client g row.grant)
    | .createAccessToken claims =>
        ∀ g, read = some g → g.Within claims.scopes claims.audience.toList
    | _ => True
  next := fun read c r => (grantRead c r).or read

section
variable {clientId : String} {client : Client} {g : Grant}

/-- Areas whose calls read no grant and issue nothing. -/
def quietAreas : List Area :=
  [.keys, .passive, .draws, .pushed, .consents, .revoked, .notices]

theorem grantMonitor_quiet {l : List Area} (hl : l.all (quietAreas.contains ·) = true) :
    (grantMonitor clientId client).Quiet (Call.In l) := by
  intro read c hc
  have hin : quietAreas.contains c.area = true := Call.In.mono hl c hc
  cases c
  case findByCode | consumeCode | saveCode | findByTokenHash | consumeRefreshToken |
      saveRefreshToken | findByDeviceCodeHash | findByUserCode | saveDevice |
      approveDevice | denyDevice | deleteDevice | findByAuthReqIdHash | saveBackchannel |
      approveBackchannel | denyBackchannel | deleteBackchannel | createAccessToken =>
    exact absurd hin Bool.false_ne_true
  all_goals exact ⟨trivial, fun _ _ => rfl⟩

theorem grantMonitor_safe {ε α : Type} {l : List Area} {p : M ε α}
    (hp : p.Uses (Call.In l)) (hnew : l.contains .newRefreshTokens = false)
    (hsigned : l.contains .accessTokens = false) : Safe (grantMonitor clientId client) p := by
  refine safe_of_uses hp fun read c hc => ?_
  unfold Call.In at hc
  cases c
  case saveRefreshToken => exact absurd (hnew.symm.trans hc) (by decide)
  case createAccessToken => exact absurd (hsigned.symm.trans hc) (by decide)
  all_goals trivial

variable (u : TokenUseCase)

/-- The issuance stays within the grant. -/
def Issuance.Under (i : Issuance) (g : Grant) : Prop := g.Within i.scopes i.resources

theorem createAccessToken_grant {i : Issuance} (hi : i.Under g)
    (claimsRequest : Option ClaimsRequest) :
    wp (grantMonitor clientId client) (u.createAccessToken i claimsRequest)
      (fun read _ => read = some g) (fun read _ => read = some g) (some g) := by
  unfold TokenUseCase.createAccessToken
  have hsign : ∀ audience : Audience, g.Within i.scopes audience.toList →
      wp (grantMonitor clientId client)
        (ask (.createAccessToken (u.accessTokenClaims i audience claimsRequest)) >>=
          orRaise : M TokenError String)
        (fun read _ => read = some g) (fun read _ => read = some g) (some g) := by
    intro audience hwithin
    refine (wp_bind _ _).mpr (wp_op.mpr ⟨?_, fun r _ => ?_⟩)
    · intro g' hg'
      cases hg'
      exact hwithin
    · exact wp_orRaise.mpr ⟨fun _ _ => rfl, fun _ _ => rfl⟩
  by_cases hnone : i.resources = []
  · have hopen : g.resourceUris = [] := by
      by_contra hne
      exact (hi.resources hne).1 hnone
    refine wp_quiet_bind (u.resolveAudience_uses _ _ _) (grantMonitor_quiet rfl)
      (fun _ => rfl) fun audience => ?_
    exact hsign audience ⟨hi.scopes, fun hne => absurd hopen hne⟩
  · have haudience : u.resolveAudience i.client i.scopes i.resources
        = pure (resourceAudience i.resources) := if_pos hnone
    rw [haudience]
    refine hsign _ ⟨hi.scopes, ?_⟩
    rw [resourceAudience_toList]
    exact hi.resources

theorem issueAccessToken_grant {i : Issuance} (hi : i.Under g) :
    wp (grantMonitor clientId client) (u.issueAccessToken i)
      (fun read _ => read = some g) (fun read _ => read = some g) (some g) :=
  (wp_bind _ _).mpr (wp_mono (createAccessToken_grant u hi none) (fun _ _ h => wp_pure.mpr h)
    fun _ _ h => h)

theorem issueTokens_grant {i : Issuance} (hi : i.Under g) :
    wp (grantMonitor clientId client) (u.issueTokens i)
      (fun read _ => read = some g) (fun read _ => read = some g) (some g) := by
  unfold TokenUseCase.issueTokens
  split
  · exact (wp_bind _ _).mpr (wp_mono (issueAccessToken_grant u hi)
      (fun _ _ h => wp_pure.mpr h) fun _ _ h => h)
  · refine wp_quiet_bind (u.issueIdToken_uses _ _) (grantMonitor_quiet rfl)
      (fun _ => rfl) fun idToken => ?_
    exact (wp_bind _ _).mpr (wp_mono (createAccessToken_grant u hi _)
      (fun _ _ h => wp_pure.mpr h) fun _ _ h => h)

theorem issueRefreshToken_grant {i : Issuance}
    (hrow : ∀ value, g.clientId = clientId →
      Confined client g (u.refreshTokenRow i value).grant) :
    wp (grantMonitor clientId client) (u.issueRefreshToken i)
      (fun read _ => read = some g) (fun read _ => read = some g) (some g) := by
  refine wp_ask_bind.mpr ⟨trivial, fun value _ => ?_⟩
  exact wp_ask_bind.mpr ⟨⟨g, rfl, hrow value⟩, fun _ _ => wp_pure.mpr rfl⟩

theorem offlineRefreshToken_grant {i : Issuance}
    (hrow : ∀ value, g.clientId = clientId →
      Confined client g (u.refreshTokenRow i value).grant) :
    wp (grantMonitor clientId client) (u.offlineRefreshToken i)
      (fun read _ => read = some g) (fun read _ => read = some g) (some g) := by
  unfold TokenUseCase.offlineRefreshToken
  split
  · exact issueRefreshToken_grant u hrow
  · exact wp_pure.mpr rfl

theorem issueSession_grant {i : Issuance} (hi : i.Under g) (dpopBound : Bool)
    (hrow : ∀ value, g.clientId = clientId →
      Confined client g (u.refreshTokenRow i value).grant) :
    wp (grantMonitor clientId client) (u.issueSession i dpopBound)
      (fun read _ => read = some g) (fun read _ => read = some g) (some g) := by
  refine (wp_bind _ _).mpr (wp_mono (offlineRefreshToken_grant u hrow) ?_ fun _ _ h => h)
  rintro read refreshToken rfl
  exact (wp_bind _ _).mpr (wp_mono (issueTokens_grant u hi) (fun _ _ h => wp_pure.mpr h)
    fun _ _ h => h)

/-! ## The grants -/

/-- The resources of a request are some of the resources of the grant. -/
def Narrows (bound resources : List String) : Prop :=
  bound ≠ [] → resources ≠ [] ∧ resources ⊆ bound

theorem effectiveResources_narrows {read : Option Grant} (request : TokenRequest)
    (bound : List String) :
    wp (grantMonitor clientId client) (u.effectiveResources request bound)
      (fun read' resources => read' = read ∧ Narrows bound resources)
      (fun _ _ => True) read := by
  unfold TokenUseCase.effectiveResources
  generalize parseResourceParameter u.platform request.resource = resources
  dsimp only
  split
  · exact wp_pure.mpr ⟨rfl, fun hne => ⟨hne, fun _ h => h⟩⟩
  rename_i hne
  split
  · refine wp_refuseIf_bind.mpr ⟨fun _ => trivial, fun houtside =>
      wp_pure.mpr ⟨rfl, fun _ => ⟨hne, ?_⟩⟩⟩
    intro uri huri
    by_contra hnot
    have hmem : uri ∈ resources.filter fun uri => uri ∉ bound :=
      List.mem_filter.mpr ⟨huri, by simpa using hnot⟩
    rw [not_not.mp houtside] at hmem
    exact List.not_mem_nil hmem
  rename_i hopen
  have hbound : Narrows bound resources := fun hne' => absurd hne' hopen
  refine wp_quiet_bind (uses_orRaise (Call.In [.passive]) _) (grantMonitor_quiet rfl)
    (fun _ => trivial) fun malformed => ?_
  refine wp_refuseIf_bind.mpr ⟨fun _ => trivial, fun _ => ?_⟩
  split
  · exact wp_pure.mpr ⟨rfl, hbound⟩
  · refine wp_quiet_bind (ScopeRegistry.unknownResources_uses ..) (grantMonitor_quiet rfl)
      (fun _ => trivial) fun unknown => ?_
    exact wp_refuseIf_bind.mpr ⟨fun _ => trivial, fun _ => wp_pure.mpr ⟨rfl, hbound⟩⟩

/-- The client found has the name asked for, and the record of that name. -/
theorem activeClient_record {read : Option Grant} (id description : String) :
    wp (grantMonitor clientId client) (TokenUseCase.activeClient id description)
      (fun read' found => read' = read ∧ found.clientId = id ∧
        (id = clientId → found = client)) (fun _ _ => True) read := by
  unfold TokenUseCase.activeClient
  refine wp_orRefuse_bind.mpr (wp_op.mpr ⟨trivial, fun r hr => ⟨fun _ => trivial, ?_⟩⟩)
  intro found hfound
  refine wp_refuseIf_bind.mpr ⟨fun _ => trivial, fun _ => wp_pure.mpr ⟨rfl, ?_⟩⟩
  exact hr found hfound

/-- What the checks of a grant end with: the grant that was read, its own
client, and resources that narrow it. -/
structure Presented {γ : Type} (clientId : String) (client : Client) (read : Option Grant)
    (g : Grant) (x : Granted γ) : Prop where
  read : read = some g
  own : x.client.clientId = g.clientId
  record : g.clientId = clientId → x.client = client
  narrows : Narrows g.resourceUris x.resources

theorem checkCode_grant {read : Option Grant} (request : TokenRequest) :
    wp (grantMonitor clientId client) (u.checkCode request)
      (fun read x => Presented clientId client read x.stored.grant x) (fun _ _ => True)
      read := by
  unfold TokenUseCase.checkCode
  refine wp_orRefuse_bind.mpr (wp_op.mpr ⟨trivial, fun found _ => ⟨fun _ => trivial, ?_⟩⟩)
  rintro row rfl
  split
  · refine (wp_bind _ _).mpr (wp_mono (grantMonitor_safe (u.revokeIssuedTokens_uses row)
      rfl rfl _) ?_ fun _ _ h => h)
    exact fun _ _ _ => wp_fail.mpr trivial
  refine wp_ask_bind.mpr ⟨trivial, fun now _ => ?_⟩
  refine wp_refuseIf_bind.mpr ⟨fun _ => trivial, fun _ => ?_⟩
  have hpassive : (grantMonitor clientId client).Quiet (Call.In [.passive]) :=
    grantMonitor_quiet rfl
  refine (wp_bind _ _).mpr (wp_mono (Q := fun read x => read = some row.grant ∧
    x.clientId = row.clientId ∧ (row.clientId = clientId → x = client))
    (E := fun _ _ => True) ?_ ?_ fun _ _ h => h)
  · unfold TokenUseCase.validateCodeExchange
    refine (wp_bind _ _).mpr (wp_mono (activeClient_record _ _) ?_ fun _ _ h => h)
    rintro _ found ⟨rfl, hid, hrecord⟩
    refine wp_refuseIf_bind.mpr ⟨fun _ => trivial, fun _ => ?_⟩
    refine wp_quiet_bind (u.authenticateClient_uses _ _) hpassive (fun _ => trivial)
      fun _ => ?_
    refine wp_refuseIf_bind.mpr ⟨fun _ => trivial, fun hsame => ?_⟩
    have hclient : row.clientId = found.clientId := not_not.mp hsame
    refine wp_refuseIf_bind.mpr ⟨fun _ => trivial, fun _ => ?_⟩
    refine wp_quiet_bind (S := Call.In [.passive]) ?_ hpassive (fun _ => trivial)
      fun verified => ?_
    · split
      · exact Prog.uses_pure _ _
      · exact uses_orRaise _ _
    refine wp_refuseIf_bind.mpr ⟨fun _ => trivial, fun _ => wp_pure.mpr ⟨rfl, hclient.symm, ?_⟩⟩
    exact fun h => hrecord (hid.symm.trans (hclient.symm.trans h))
  rintro _ found ⟨rfl, hown, hrecord⟩
  refine wp_quiet_bind (u.evaluateDpop_uses _ _ _) hpassive (fun _ => trivial)
    fun binding => ?_
  refine (wp_bind _ _).mpr (wp_mono (effectiveResources_narrows u _ _) ?_ fun _ _ h => h)
  rintro _ resources ⟨rfl, hnarrows⟩
  exact wp_pure.mpr ⟨rfl, hown, hrecord, hnarrows⟩

theorem exchangeCode_grant (request : TokenRequest) :
    Safe (grantMonitor clientId client) (u.exchangeCode request) := by
  intro read
  refine (wp_bind _ _).mpr (wp_mono (checkCode_grant u request) ?_ fun _ _ h => h)
  rintro _ x ⟨rfl, hown, hrecord, hnarrows⟩
  have hunder : (u.codeIssuance request x).Under x.stored.grant :=
    ⟨Finset.Subset.refl _, hnarrows⟩
  unfold TokenUseCase.redeemCode
  refine wp_ask_bind.mpr ⟨trivial, fun _ _ => ?_⟩
  refine (wp_bind _ _).mpr (wp_mono (offlineRefreshToken_grant u (g := x.stored.grant) ?_)
    ?_ fun _ _ _ => trivial)
  · intro value _
    exact ⟨hown, rfl, rfl, hunder, fun hne => absurd rfl hne, fun _ hne => absurd rfl hne⟩
  rintro _ refreshToken rfl
  refine (wp_bind _ _).mpr (wp_mono (issueTokens_grant u hunder) ?_ fun _ _ _ => trivial)
  intro _ issued _
  exact wp_ask_bind.mpr ⟨trivial, fun _ _ => wp_pure.mpr trivial⟩

theorem preAuthorizedCode_grant (request : TokenRequest) :
    Safe (grantMonitor clientId client) (u.preAuthorizedCode request) := by
  intro read
  refine (wp_bind _ _).mpr (wp_mono (Q := fun read x => read = some x.stored.grant ∧
    Narrows x.stored.resourceUris x.resources) (E := fun _ _ => True) ?_ ?_
    fun _ _ h => h)
  · have hpassive : (grantMonitor clientId client).Quiet (Call.In [.passive]) :=
      grantMonitor_quiet rfl
    unfold TokenUseCase.checkPreAuthorizedCode
    refine wp_ask_bind.mpr ⟨trivial, fun now _ => ?_⟩
    rw [wp_bind]
    unfold TokenUseCase.resolvePreAuthorizedCode
    refine wp_orRefuse_bind.mpr (wp_op.mpr ⟨trivial, fun found _ => ⟨fun _ => trivial, ?_⟩⟩)
    rintro row rfl
    refine wp_refuseIf_bind.mpr ⟨fun _ => trivial, fun _ => ?_⟩
    split
    · refine (wp_bind _ _).mpr (wp_mono (grantMonitor_safe (u.revokeIssuedTokens_uses row)
        rfl rfl _) ?_ fun _ _ h => h)
      exact fun _ _ _ => wp_fail.mpr trivial
    refine wp_refuseIf_bind.mpr ⟨fun _ => trivial, fun _ => wp_pure.mpr ?_⟩
    refine wp_quiet_bind (TokenUseCase.activeClient_uses _ _) hpassive (fun _ => trivial)
      fun found => ?_
    refine wp_quiet_bind (u.authenticateClient_uses _ _) hpassive (fun _ => trivial)
      fun _ => ?_
    refine wp_refuseIf_bind.mpr ⟨fun _ => trivial, fun _ => ?_⟩
    refine wp_refuseIf_bind.mpr ⟨fun _ => trivial, fun _ => ?_⟩
    refine wp_quiet_bind (u.evaluateDpop_uses _ _ _) hpassive (fun _ => trivial)
      fun binding => ?_
    refine (wp_bind _ _).mpr (wp_mono (effectiveResources_narrows u _ _) ?_ fun _ _ h => h)
    rintro _ resources ⟨rfl, hnarrows⟩
    exact wp_pure.mpr ⟨rfl, hnarrows⟩
  rintro _ x ⟨rfl, hnarrows⟩
  have hunder : (u.preAuthorizedIssuance request x).Under x.stored.grant :=
    ⟨Finset.Subset.refl _, hnarrows⟩
  unfold TokenUseCase.redeemPreAuthorizedCode
  refine wp_ask_bind.mpr ⟨trivial, fun _ _ => ?_⟩
  refine (wp_bind _ _).mpr (wp_mono (issueAccessToken_grant u hunder) ?_ fun _ _ _ => trivial)
  exact fun _ issued _ => wp_pure.mpr trivial

/-- The checks of a renewal: the scopes are some of the token's, and a
token bound to a certificate is presented with it. -/
theorem checkRefresh_grant {read : Option Grant} (request : TokenRequest) :
    wp (grantMonitor clientId client) (u.checkRefresh request)
      (fun read x => Presented clientId client read x.stored.1.grant x ∧
        x.stored.2 ⊆ x.stored.1.scopes ∧
        (x.stored.1.tlsCertHash ≠ "" →
          u.tlsCertificateBoundHash x.client request = x.stored.1.tlsCertHash))
      (fun _ _ => True) read := by
  have hpassive : (grantMonitor clientId client).Quiet (Call.In [.passive]) :=
    grantMonitor_quiet rfl
  unfold TokenUseCase.checkRefresh
  refine wp_refuseIf_bind.mpr ⟨fun _ => trivial, fun _ => ?_⟩
  refine (wp_bind _ _).mpr (wp_mono (activeClient_record _ _) ?_ fun _ _ h => h)
  rintro _ found ⟨rfl, hid, hrecord⟩
  refine wp_quiet_bind (u.authenticateClient_uses _ _) hpassive (fun _ => trivial)
    fun _ => ?_
  refine (wp_bind _ _).mpr (wp_mono (Q := fun read x => read = some x.1.grant ∧
    x.1.clientId = request.clientId ∧ x.2 ⊆ x.1.scopes)
    (E := fun _ _ => True) ?_ ?_ fun _ _ h => h)
  · unfold TokenUseCase.resolveRefreshGrant
    refine wp_orRefuse_bind.mpr (wp_op.mpr ⟨trivial, fun r _ => ⟨fun _ => trivial, ?_⟩⟩)
    rintro row rfl
    refine wp_refuseIf_bind.mpr ⟨fun _ => trivial, fun hsame => ?_⟩
    refine wp_refuseIf_bind.mpr ⟨fun _ => trivial, fun _ => ?_⟩
    refine wp_ask_bind.mpr ⟨trivial, fun now _ => ?_⟩
    refine wp_refuseIf_bind.mpr ⟨fun _ => trivial, fun _ => ?_⟩
    refine wp_refuseIf_bind.mpr ⟨fun _ => trivial, fun hscopes => ?_⟩
    refine wp_pure.mpr ⟨rfl, not_not.mp hsame, ?_⟩
    by_cases hscope : request.scope = ""
    · simp [hscope]
    · simp only [ne_eq, hscope, not_false_eq_true, if_true]
      by_contra hnot
      exact hscopes ⟨hscope, hnot⟩
  rintro _ ⟨row, scopes⟩ ⟨rfl, hown, hscopes⟩
  refine wp_refuseIf_bind.mpr ⟨fun _ => trivial, fun htls => ?_⟩
  refine wp_ask_bind.mpr ⟨trivial, fun now _ => ?_⟩
  refine wp_quiet_bind (u.evaluateDpop_uses _ _ _) hpassive (fun _ => trivial)
    fun binding => ?_
  refine (wp_bind _ _).mpr (wp_mono (effectiveResources_narrows u _ _) ?_ fun _ _ h => h)
  rintro _ resources ⟨rfl, hnarrows⟩
  refine wp_pure.mpr ⟨⟨rfl, hid.trans hown.symm, ?_, hnarrows⟩, hscopes, ?_⟩
  · exact fun h => hrecord (hown.symm.trans h)
  · intro hne
    by_contra hnot
    exact htls ⟨hne, hnot⟩

theorem refresh_grant (request : TokenRequest) :
    Safe (grantMonitor clientId client) (u.refresh request) := by
  intro read
  refine (wp_bind _ _).mpr (wp_mono (checkRefresh_grant u request) ?_ fun _ _ h => h)
  rintro _ x ⟨⟨rfl, hown, hrecord, hnarrows⟩, hscopes, htls⟩
  have hunder : (u.refreshIssuance request x).Under x.stored.1.grant := ⟨hscopes, hnarrows⟩
  unfold TokenUseCase.renew
  refine (wp_bind _ _).mpr (wp_mono (Q := fun read _ => read = some x.stored.1.grant)
    (E := fun _ _ => True) ?_ ?_ fun _ _ h => h)
  · unfold TokenUseCase.rotate
    split
    · exact wp_pure.mpr rfl
    refine wp_ask_bind.mpr ⟨trivial, fun _ _ => ?_⟩
    refine wp_mono (issueRefreshToken_grant u (g := x.stored.1.grant) ?_) (fun _ _ h => h)
      fun _ _ _ => trivial
    intro value hname
    refine ⟨hown, rfl, rfl, hunder, htls, ?_⟩
    -- a public client's token keeps the key it is bound to
    intro hpublic hne
    have hconf : x.client.clientType ≠ .confidential := by
      rw [hrecord hname, hpublic]
      decide
    have hjkt : x.stored.1.dpopJkt ≠ "" := hne
    simp [TokenUseCase.refreshTokenRow, RefreshToken.grant, TokenUseCase.refreshIssuance,
      TokenUseCase.refreshDpopJkt, hconf, hjkt]
  · rintro _ refreshToken rfl
    refine (wp_bind _ _).mpr (wp_mono (issueTokens_grant u hunder) ?_ fun _ _ _ => trivial)
    exact fun _ issued _ => wp_pure.mpr trivial

theorem deviceCode_grant (request : TokenRequest) :
    Safe (grantMonitor clientId client) (u.deviceCode request) := by
  intro read
  refine (wp_bind _ _).mpr (wp_mono (Q := fun read x =>
    Presented clientId client read x.stored.grant x) (E := fun _ _ => True) ?_ ?_
    fun _ _ h => h)
  · have hpassive : (grantMonitor clientId client).Quiet (Call.In [.passive]) :=
      grantMonitor_quiet rfl
    unfold TokenUseCase.checkDevice
    refine wp_refuseIf_bind.mpr ⟨fun _ => trivial, fun _ => ?_⟩
    refine wp_refuseIf_bind.mpr ⟨fun _ => trivial, fun _ => ?_⟩
    refine (wp_bind _ _).mpr (wp_mono (activeClient_record _ _) ?_ fun _ _ h => h)
    rintro _ found ⟨rfl, hid, hrecord⟩
    refine wp_quiet_bind (u.authenticateClient_uses _ _) hpassive (fun _ => trivial)
      fun _ => ?_
    refine wp_quiet_bind (u.evaluateDpop_uses _ _ _) hpassive (fun _ => trivial)
      fun binding => ?_
    rw [wp_bind]
    unfold TokenUseCase.loadDeviceSession
    refine wp_orRefuse_bind.mpr (wp_op.mpr ⟨trivial, fun r _ => ⟨fun _ => trivial, ?_⟩⟩)
    rintro row rfl
    refine wp_refuseIf_bind.mpr ⟨fun _ => trivial, fun hsame => ?_⟩
    have hown : row.clientId = request.clientId := not_not.mp hsame
    refine wp_ask_bind.mpr ⟨trivial, fun now _ => ?_⟩
    split
    · exact wp_ask_bind.mpr ⟨trivial, fun _ _ => wp_fail.mpr trivial⟩
    refine wp_refuseIf_bind.mpr ⟨fun _ => trivial, fun _ => wp_pure.mpr ?_⟩
    refine wp_quiet_bind (u.effectiveResources_uses _ _) hpassive (fun _ => trivial)
      fun resources => ?_
    refine wp_ask_bind.mpr ⟨trivial, fun now _ => wp_pure.mpr ⟨rfl, hid.trans hown.symm, ?_, ?_⟩⟩
    · exact fun h => hrecord (hown.symm.trans h)
    · exact fun hne => absurd rfl hne
  rintro _ x ⟨rfl, hown, hrecord, hnarrows⟩
  unfold TokenUseCase.pollDevice
  split
  · generalize u.tlsCertificateBoundHash x.client request = tlsCertHash
    have hunder : (TokenUseCase.deviceIssuance x tlsCertHash).Under x.stored.grant :=
      ⟨Finset.Subset.refl _, hnarrows⟩
    refine wp_refuseIf_bind.mpr ⟨fun _ => trivial, fun _ => ?_⟩
    refine wp_ask_bind.mpr ⟨trivial, fun _ _ => ?_⟩
    refine wp_mono (issueSession_grant u hunder _ ?_) (fun _ _ _ => trivial)
      fun _ _ _ => trivial
    intro value _
    exact ⟨hown, rfl, rfl, hunder, fun hne => absurd rfl hne, fun _ hne => absurd rfl hne⟩
  · exact grantMonitor_safe (TokenUseCase.devicePendingResponse_uses _ _) rfl rfl _

theorem cibaApprovedFlow_grant {x : Granted BackchannelAuthenticationRequest}
    (hx : Presented clientId client (some x.stored.grant) x.stored.grant x)
    (tlsCertHash : String) :
    wp (grantMonitor clientId client) (u.cibaApprovedFlow x tlsCertHash)
      (fun read _ => read = some x.stored.grant) (fun read _ => read = some x.stored.grant)
      (some x.stored.grant) := by
  have hunder : (TokenUseCase.cibaIssuance x tlsCertHash).Under x.stored.grant :=
    ⟨Finset.Subset.refl _, hx.narrows⟩
  refine wp_refuseIf_bind.mpr ⟨fun _ => rfl, fun _ => ?_⟩
  refine wp_ask_bind.mpr ⟨trivial, fun _ _ => ?_⟩
  refine issueSession_grant u hunder _ ?_
  intro value _
  exact ⟨hx.own, rfl, rfl, hunder, fun hne => absurd rfl hne, fun _ hne => absurd rfl hne⟩

theorem ciba_grant (request : TokenRequest) :
    Safe (grantMonitor clientId client) (u.ciba request) := by
  intro read
  refine (wp_bind _ _).mpr (wp_mono (Q := fun read x =>
    Presented clientId client read x.stored.grant x) (E := fun _ _ => True) ?_ ?_
    fun _ _ h => h)
  · have hpassive : (grantMonitor clientId client).Quiet (Call.In [.passive]) :=
      grantMonitor_quiet rfl
    unfold TokenUseCase.checkCiba
    refine wp_refuseIf_bind.mpr ⟨fun _ => trivial, fun _ => ?_⟩
    refine wp_refuseIf_bind.mpr ⟨fun _ => trivial, fun _ => ?_⟩
    refine (wp_bind _ _).mpr (wp_mono (activeClient_record _ _) ?_ fun _ _ h => h)
    rintro _ found ⟨rfl, hid, hrecord⟩
    refine wp_quiet_bind (u.authenticateClient_uses _ _) hpassive (fun _ => trivial)
      fun _ => ?_
    refine wp_quiet_bind (u.evaluateDpop_uses _ _ _) hpassive (fun _ => trivial)
      fun binding => ?_
    rw [wp_bind]
    unfold TokenUseCase.loadCibaSession
    refine wp_orRefuse_bind.mpr (wp_op.mpr ⟨trivial, fun r _ => ⟨fun _ => trivial, ?_⟩⟩)
    rintro row rfl
    refine wp_refuseIf_bind.mpr ⟨fun _ => trivial, fun hsame => ?_⟩
    have hown : row.clientId = request.clientId := not_not.mp hsame
    refine wp_ask_bind.mpr ⟨trivial, fun now _ => ?_⟩
    split
    · exact wp_ask_bind.mpr ⟨trivial, fun _ _ => wp_fail.mpr trivial⟩
    refine wp_refuseIf_bind.mpr ⟨fun _ => trivial, fun _ => ?_⟩
    refine wp_refuseIf_bind.mpr ⟨fun _ => trivial, fun _ => wp_pure.mpr ?_⟩
    refine (wp_bind _ _).mpr (wp_mono (effectiveResources_narrows u _ _) ?_ fun _ _ h => h)
    rintro _ resources ⟨rfl, hnarrows⟩
    refine wp_ask_bind.mpr ⟨trivial, fun now _ =>
      wp_pure.mpr ⟨rfl, hid.trans hown.symm, ?_, hnarrows⟩⟩
    exact fun h => hrecord (hown.symm.trans h)
  rintro _ x ⟨rfl, hown, hrecord, hnarrows⟩
  unfold TokenUseCase.pollCiba
  split
  · exact wp_mono (cibaApprovedFlow_grant u ⟨rfl, hown, hrecord, hnarrows⟩ _)
      (fun _ _ _ => trivial) fun _ _ _ => trivial
  · exact grantMonitor_safe (TokenUseCase.cibaPendingResponse_uses _ _) rfl rfl _

/-- The issuance of a push approval, which may be tried twice. -/
theorem issueCibaPushTokens_grant {ε : Type} (stored : BackchannelAuthenticationRequest) :
    wp (grantMonitor clientId client)
      (outcome (u.issueCibaPushTokens stored) : M ε (Except TokenError TokenResponse))
      (fun read _ => read = some stored.grant) (fun _ _ => True) (some stored.grant) := by
  refine (wp_handle _ _).mpr ((wp_bind _ _).mpr (wp_mono
    (Q := fun read _ => read = some stored.grant)
    (E := fun read _ => read = some stored.grant) ?_ (fun _ _ h => wp_pure.mpr h) ?_))
  · refine wp_refuseIf_bind.mpr ⟨fun _ => rfl, fun _ => ?_⟩
    refine wp_orRefuse_bind.mpr (wp_op.mpr ⟨trivial, fun r hr => ⟨fun _ => rfl, ?_⟩⟩)
    intro found hfound
    obtain ⟨hid, hrecord⟩ := hr found hfound
    refine wp_ask_bind.mpr ⟨trivial, fun now _ => ?_⟩
    exact cibaApprovedFlow_grant u
      (x := ⟨stored, found, now, {}, stored.resourceUris⟩)
      ⟨rfl, hid, fun h => hrecord h, fun hne => ⟨hne, fun _ h => h⟩⟩ ""
  · intro read stop h
    cases stop
    case refused => exact wp_pure.mpr h
    case raised => exact wp_fail.mpr trivial

theorem execute_grant (request : TokenRequest) :
    wp (grantMonitor clientId client) (u.execute request) (fun _ _ => True)
      (fun _ _ => True) none := by
  have hnone : ∀ {p : M TokenError TokenResponse},
      p.Uses (Call.In [.passive, .accessTokens]) →
      wp (grantMonitor clientId client) p (fun _ _ => True) (fun _ _ => True) none := by
    intro p hp
    refine wp_mono (wp_of_uses hp (fun read => read = none) ?_ rfl) (fun _ _ _ => trivial)
      fun _ _ _ => trivial
    rintro read c rfl hc
    unfold Call.In at hc
    cases c
    case createAccessToken =>
        refine ⟨?_, fun _ _ => rfl⟩
        rintro g hg
        cases hg
    case findByCode | findByTokenHash | findByDeviceCodeHash | findByAuthReqIdHash |
        saveRefreshToken => exact absurd hc Bool.false_ne_true
    all_goals exact ⟨trivial, fun _ _ => rfl⟩
  obtain ⟨clientId, hexec⟩ := u.execute_cases request
  rw [hexec]
  unfold TokenUseCase.dispatch
  split
  · exact exchangeCode_grant u _ _
  split
  · exact refresh_grant u _ _
  split
  · exact hnone (u.clientCredentials_uses _)
  split
  · exact hnone (u.jwtBearer_uses _)
  split
  · exact deviceCode_grant u _ _
  split
  · exact ciba_grant u _ _
  split
  · exact preAuthorizedCode_grant u _ _
  · exact wp_fail.mpr trivial

theorem cibaExecute_grant {ε : Type} (s : Server) {read : Option Grant} (authReqId : String)
    (allow : Bool) (userCode : String) :
    wp (grantMonitor clientId client) (s.ciba.execute authReqId allow userCode : M ε Bool)
      (fun _ _ => True) (fun _ _ => True) read := by
  unfold CibaApprovalUseCase.execute
  split
  · exact wp_pure.mpr trivial
  refine wp_ask_bind.mpr ⟨trivial, fun found _ => ?_⟩
  rcases found with _ | stored
  · exact wp_pure.mpr trivial
  dsimp only
  split
  · exact wp_pure.mpr trivial
  split
  · exact wp_pure.mpr trivial
  change wp (grantMonitor clientId client) _ _ _ (some stored.grant)
  refine (wp_bind _ _).mpr (wp_mono (Q := fun read _ => read = some stored.grant)
    (E := fun _ _ => True) ?_ ?_ fun _ _ h => h)
  · split <;> exact wp_op.mpr ⟨trivial, fun _ _ => rfl⟩
  rintro _ - rfl
  refine (wp_bind _ _).mpr (wp_mono (Q := fun read _ => read = some stored.grant)
    (E := fun _ _ => True) ?_ ?_ fun _ _ h => h)
  · unfold CibaApprovalUseCase.notifyPing
    split
    · exact wp_pure.mpr rfl
    · exact wp_op.mpr ⟨trivial, fun _ _ => rfl⟩
  rintro _ - rfl
  refine (wp_bind _ _).mpr (wp_mono (Q := fun _ _ => True) (E := fun _ _ => True) ?_
    (fun _ _ _ => wp_pure.mpr trivial) fun _ _ h => h)
  unfold CibaApprovalUseCase.notifyPush
  split
  · exact wp_pure.mpr trivial
  refine (wp_bind _ _).mpr (wp_mono (Q := fun _ _ => True) (E := fun _ _ => True) ?_ ?_
    fun _ _ h => h)
  · split
    · rename_i v hv
      cases hv
      refine (wp_bind _ _).mpr ((wp_bind _ _).mpr (wp_mono
        (issueCibaPushTokens_grant s.token stored) ?_ fun _ _ h => h))
      rintro _ candidate rfl
      unfold TokenUseCase.createCibaPushNotification
      refine (wp_bind _ _).mpr (wp_mono (Q := fun read _ => read = some stored.grant)
        (E := fun _ _ => True) ?_ ?_ fun _ _ h => h)
      · cases candidate.toOption
        case some => exact wp_pure.mpr rfl
        case none =>
            refine (wp_bind _ _).mpr (wp_mono
              (issueCibaPushTokens_grant s.token stored) ?_ fun _ _ h => h)
            exact fun _ _ h => wp_pure.mpr h
      · intro read response _
        exact wp_of_quiet (S := Call.In [.keys, .passive, .draws])
          (Prog.uses_bind (Prog.uses_op rfl) fun _ => Prog.uses_bind (Prog.uses_op rfl)
            fun _ => Prog.uses_bind (Prog.uses_op rfl) fun _ => uses_orRaise _ _)
          (grantMonitor_quiet rfl) (fun _ => wp_pure.mpr trivial) fun _ => trivial
    · exact wp_pure.mpr trivial
  · exact fun _ notification _ => wp_op.mpr ⟨trivial, fun _ _ => trivial⟩

/-- Whatever the request, it stays inside the grant it read. -/
theorem serve_grant (s : Server) (r : Request) :
    wp (grantMonitor clientId client) (s.serve r) (fun _ _ => True) (fun _ _ => True)
      none := by
  cases r
  case token request =>
      refine (wp_bind _ _).mpr (wp_mono (execute_grant s.token request) ?_ fun _ _ h => h)
      exact fun _ _ _ => wp_pure.mpr trivial
  case approveDevice userCode subject =>
      exact ((grantMonitor_safe (s.decide_uses userCode (some subject)) rfl rfl).bind
        fun _ => safe_pure _) _
  case denyDevice userCode =>
      exact ((grantMonitor_safe (s.decide_uses userCode none) rfl rfl).bind
        fun _ => safe_pure _) _
  case decideCiba authReqId allow userCode =>
      refine (wp_bind _ _).mpr (wp_mono (cibaExecute_grant s authReqId allow userCode) ?_
        fun _ _ h => h)
      exact fun _ _ _ => wp_pure.mpr trivial

end

/-! ## Chains of renewals -/

/-- The grant process `i` read last. -/
def lastRead (ports : Ports) (i : ι) : List (Event ι Call World) → Option Grant
  | [] => none
  | e :: past =>
      if e.pid = i then
        (grantRead e.call (e.reply (machine ports))).or (lastRead ports i past)
      else lastRead ports i past

/-- Some request read the grant `g` and stored the refresh token `g'`. -/
def Renews (ports : Ports) (tr : List (Event ι Call World)) (g g' : Grant) : Prop :=
  ∃ later e past row, tr = later ++ e :: past ∧ e.call = .saveRefreshToken row ∧
    row.grant = g' ∧ lastRead ports e.pid past = some g

/-- Some request read the grant `g` and signed an access token. -/
def Signs (ports : Ports) (tr : List (Event ι Call World)) (g : Grant)
    (claims : AccessTokenClaims) : Prop :=
  ∃ later e past, tr = later ++ e :: past ∧ e.call = .createAccessToken claims ∧
    lastRead ports e.pid past = some g

theorem ghost_lastRead (ports : Ports) (clientId : String) (client : Client) (i : ι)
    (past : List (Event ι Call World)) :
    ghost (machine ports) (grantMonitor clientId client) none i past
      = lastRead ports i past := by
  induction past with
  | nil => rfl
  | cons e past ih =>
      unfold ghost lastRead
      rw [ih]
      rfl

/-- The record of the client is `client`, whenever it is looked up. -/
def RecordStays (ports : Ports) (w : World) (clientId : String) (client : Client) : Prop :=
  ∀ t found, World.findClient ports { w with clock := t } clientId = some found →
    found = client

/-- In any run, a renewal of a client whose record does not change stores a
refresh token confined by the grant it read, and signs within it. -/
theorem renewal_allowed {ports : Ports} {s : Server} {w : World} {requests : ι → Request}
    {clientId : String} {client : Client} (hrecord : RecordStays ports w clientId client)
    {tr : List (Event ι Call World)}
    {cfg : Config ι Call Reply (Stop TokenError) Answer World}
    (hrun : Run (machine ports) (s.traffic w requests) tr cfg) :
    ∀ later e past, tr = later ++ e :: past →
      (grantMonitor clientId client).ok (lastRead ports e.pid past) e.call := by
  have h := hrun.allowed_on (m := grantMonitor clientId client)
    (fun v => v.clients = w.clients) (fun i => serve_grant s (requests i)) rfl
    (by
      rintro v v' h ⟨t, -, rfl⟩
      exact h)
    (fun c v h => (exec_clients ports c v).trans h)
    (by
      intro read c v hclients
      cases c
      case findClient id =>
          intro found hfound
          refine ⟨World.findClient_clientId hfound, ?_⟩
          rintro rfl
          refine hrecord v.clock found ?_
          have hfound' : World.findClient ports v id = some found := hfound
          unfold World.findClient at hfound' ⊢
          rwa [hclients] at hfound'
      all_goals trivial)
  intro later e past htr
  rw [← ghost_lastRead ports clientId client]
  exact h.1 later e past htr

theorem Renews.confined {ports : Ports} {clientId : String} {client : Client}
    {tr : List (Event ι Call World)}
    (hallowed : ∀ later e past, tr = later ++ e :: past →
      (grantMonitor clientId client).ok (lastRead ports e.pid past) e.call)
    {g g' : Grant} (h : Renews ports tr g g') (hclient : g.clientId = clientId) :
    Confined client g g' := by
  obtain ⟨later, e, past, row, htr, hcall, rfl, hread⟩ := h
  have hok := hallowed later e past htr
  rw [hcall, hread] at hok
  obtain ⟨g₀, hg₀, hconfined⟩ := hok
  cases hg₀
  exact hconfined hclient

/-- Every refresh token of a chain of renewals, of any length and in any
run, is confined by the grant the chain starts from, and every access
token signed along it stays within the grant it was signed from. -/
theorem refresh_chain_confined (ports : Ports) (s : Server) (w : World)
    (requests : ι → Request) (client : Client) {g₀ g : Grant}
    (hrecord : RecordStays ports w g₀.clientId client)
    {tr : List (Event ι Call World)}
    {cfg : Config ι Call Reply (Stop TokenError) Answer World}
    (hrun : Run (machine ports) (s.traffic w requests) tr cfg)
    (hchain : Relation.ReflTransGen (Renews ports tr) g₀ g) :
    Confined client g₀ g ∧
      ∀ claims, Signs ports tr g claims → g.Within claims.scopes claims.audience.toList := by
  have hallowed := renewal_allowed hrecord hrun
  constructor
  · induction hchain with
    | refl => exact .refl client g₀
    | tail chain renews ih =>
        exact ih.trans (renews.confined hallowed ih.clientId)
  · rintro claims ⟨later, e, past, htr, hcall, hread⟩
    have hok := hallowed later e past htr
    rw [hcall, hread] at hok
    exact hok g rfl

/-- The renewal the last call of a trace makes, if it makes one. -/
def lastRenewal (ports : Ports) : List (Event ι Call World) → Option (Grant × Grant)
  | e :: past =>
      match e.call, lastRead ports e.pid past with
      | .saveRefreshToken row, some g => some (g, row.grant)
      | _, _ => none
  | [] => none

theorem Renews.of_lastRenewal {ports : Ports} {tr : List (Event ι Call World)}
    {g g' : Grant} (h : lastRenewal ports tr = some (g, g')) : Renews ports tr g g' := by
  cases tr with
  | nil => cases h
  | cons e past =>
      simp only [lastRenewal] at h
      split at h
      · rename_i row g₀ hcall hread
        cases h
        exact ⟨[], e, past, row, rfl, hcall, rfl, hread⟩
      · cases h

/-- The renewal of a request alone, up to the refresh token it stores. -/
theorem refresh_chain_confined_once :
    ∃ g, lastRenewal Sample.ports (Config.schedule (machine Sample.ports)
        (List.replicate 7 false) ([], Sample.refreshTraffic)).1
          = some (Sample.refreshToken.grant, g) ∧
      Confined Sample.client Sample.refreshToken.grant g := by
  have hfirst : (lastRenewal Sample.ports (Config.schedule (machine Sample.ports)
      (List.replicate 7 false) ([], Sample.refreshTraffic)).1).map Prod.fst
        = some Sample.refreshToken.grant := by decide +kernel
  obtain ⟨⟨g, g'⟩, hrenewal, rfl⟩ := Option.map_eq_some_iff.mp hfirst
  have hconfined := refresh_chain_confined Sample.ports Sample.server Sample.refreshWorld
    (fun _ => .token Sample.refreshRequest) Sample.client
    (show RecordStays Sample.ports Sample.refreshWorld Sample.refreshToken.grant.clientId
      Sample.client from fun t c hc => Sample.client_of_findClient rfl t hc)
    (Run.ofSchedule (machine Sample.ports) Sample.refreshTraffic (List.replicate 7 false))
    (Relation.ReflTransGen.single (Renews.of_lastRenewal hrenewal))
  exact ⟨g', hrenewal, hconfined.1⟩

end PurIdentityServer

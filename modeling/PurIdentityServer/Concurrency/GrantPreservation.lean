import PurIdentityServer.Application.SenderConstraint
import PurIdentityServer.Concurrency.RefreshChain

/-!
# GrantPreservation — what a renewal repeats of the original tokens

A request that narrows nothing holds a grant from the moment it reads or
stores a refresh token: the tokens it signs then are those of the grant.
The refresh token stored keeps the client, the subject, the scopes and
the resources, so along any chain of renewals the audience, the scopes
and the subject are those of the first tokens. It keeps nothing of the
`claims` and `authorization_details` of the first request, nor of the
authentication behind it.
-/

namespace PurIdentityServer

open Effects

variable {ι : Type} [DecidableEq ι]

/-! ## The grant a request holds -/

/-- What a request holds: a refresh token it renews, or the one it stored for a grant it
redeems. -/
inductive Held where
  | nothing
  | renewing (g : Grant)
  | issuing (g : Grant)
  deriving DecidableEq

/-- A refresh token that is found is held; the one that is stored takes its place. Redeeming
a code or a session begins a new issuance. -/
def Held.next (held : Held) : (c : Call) → Reply c → Held
  | .findByTokenHash _ => fun r : Option RefreshToken =>
      match r with
      | some row => .renewing row.grant
      | none => .nothing
  | .saveRefreshToken row => fun _ =>
      match held with
      | .renewing _ => .renewing row.grant
      | _ => .issuing row.grant
  | .consumeCode _ | .deleteDevice _ | .deleteBackchannel _ => fun _ => .nothing
  | _ => fun _ => held

/-- A renewal that asks for no narrower scope and resource; any other request. -/
def Request.Whole : Request → Prop
  | .token request => request.grantType = "refresh_token" →
      request.scope = "" ∧ request.resource = ""
  | _ => True

instance (r : Request) : Decidable r.Whole := by
  cases r <;> unfold Request.Whole <;> infer_instance

/-- The refresh token `g'` continues `g`: nothing the tokens are issued from differs. -/
structure Continues (g g' : Grant) : Prop where
  clientId : g'.clientId = g.clientId
  subject : g'.subject = g.subject
  subjectMaterial : g'.subjectMaterial = g.subjectMaterial
  scopes : g'.scopes = g.scopes
  resourceUris : g'.resourceUris = g.resourceUris

theorem Continues.refl (g : Grant) : Continues g g := ⟨rfl, rfl, rfl, rfl, rfl⟩

theorem Continues.trans {g g' g'' : Grant} (h : Continues g g') (h' : Continues g' g'') :
    Continues g g'' where
  clientId := h'.clientId.trans h.clientId
  subject := h'.subject.trans h.subject
  subjectMaterial := h'.subjectMaterial.trans h.subjectMaterial
  scopes := h'.scopes.trans h.scopes
  resourceUris := h'.resourceUris.trans h.resourceUris

/-! ## The tokens of a grant -/

section
variable (u : TokenUseCase) (ports : Ports) (w : World) (client : Client)

/-- The audience of a grant, with the registries of `w`. -/
def TokenUseCase.audienceOf (g : Grant) : Except (Stop TokenError) Audience :=
  ((u.resolveAudience client g.scopes g.resourceUris).run (exec ports) w).1

/-- The access token is one of the grant. -/
structure AccessOf (g : Grant) (claims : AccessTokenClaims) : Prop where
  scopes : claims.scopes = g.scopes
  audience : u.audienceOf ports w client g = .ok claims.audience

/-- The `id_token` is one of the grant. -/
structure IdentityOf (g : Grant) (claims : IdTokenClaims) : Prop where
  subject : displaySubject u.platform client g.subject g.subjectMaterial
    u.config.subjectSeed = .ok claims.subject
  audience : claims.audience = client.clientId

end

/-- No request of claims and no authorization details in an access token. -/
def AccessTokenClaims.Bare (claims : AccessTokenClaims) : Prop :=
  ∀ jti, Dict.get (claims.payload jti) "authorization_details" = none ∧
    Dict.get (claims.payload jti) "claims" = none

/-- Nothing of the authentication in an `id_token`. -/
def IdTokenClaims.Bare (claims : IdTokenClaims) : Prop :=
  Dict.get claims.payload "auth_time" = none ∧ Dict.get claims.payload "acr" = none

/-! ## Signing from the grant held -/

/-- The ghost of a request. -/
structure Hand where
  whole : Bool
  held : Held

/-- A renewal stores what it read and signs bare tokens of it; the tokens of another request
are those of the refresh token it stored. The clients and the registries are those of `w`. -/
def keepMonitor (u : TokenUseCase) (ports : Ports) (w : World) (clientId : String)
    (client : Client) : Monitor Call Reply Hand where
  good := fun _ c =>
    match c with
    | .findClient id => fun r : Option Client =>
        ∀ found, r = some found → found.clientId = id ∧ (id = clientId → found = client)
    | .findApiResources => fun r : List ApiResource => r = w.apiResources
    | _ => fun _ => True
  ok := fun hand c =>
    match c with
    | .saveRefreshToken row => hand.whole = true → ∀ g, g.clientId = clientId →
        hand.held = .renewing g → Continues g row.grant
    | .createAccessToken claims => hand.whole = true → ∀ g, g.clientId = clientId →
        (hand.held = .issuing g → AccessOf u ports w client g claims) ∧
          (hand.held = .renewing g → AccessOf u ports w client g claims ∧ claims.Bare)
    | .createIdToken claims => hand.whole = true → ∀ g, g.clientId = clientId →
        (hand.held = .issuing g → IdentityOf u client g claims) ∧
          (hand.held = .renewing g → IdentityOf u client g claims ∧ claims.Bare)
    | _ => True
  next := fun hand c r => { hand with held := hand.held.next c r }

/-- Calls that read and store no refresh token, begin no issuance and sign no token of one. -/
def Call.Idle : Call → Prop
  | .findByTokenHash _ | .saveRefreshToken _ | .createAccessToken _ | .createIdToken _
  | .consumeCode _ | .deleteDevice _ | .deleteBackchannel _ => False
  | _ => True

theorem Call.Service.idle {c : Call} (h : c.Service) : c.Idle := by
  cases c <;> trivial

/-- The areas without such calls. -/
def idleAreas : List Area := [.passive, .draws, .pushed, .consents, .revoked, .notices]

theorem Call.In.idle {l : List Area} (hl : l.all (idleAreas.contains ·) = true) {c : Call}
    (h : c.In l) : c.Idle := by
  have hin : idleAreas.contains c.area = true := Call.In.mono hl c h
  cases c <;> trivial

section
variable {u : TokenUseCase} {ports : Ports} {w : World} {clientId : String} {client : Client}
  {ε α β : Type} {hand : Hand}

theorem keep_idle : (keepMonitor u ports w clientId client).Quiet Call.Idle := by
  rintro hand c hc
  cases c <;> first
    | exact hc.elim
    | exact ⟨trivial, fun _ _ => rfl⟩

/-- A part with idle calls, in front of the rest. -/
theorem keep_idle_bind {p : M ε α} {f : α → M ε β} {Q : Hand → β → Prop}
    (hp : p.Uses Call.Idle)
    (hf : ∀ a, wp (keepMonitor u ports w clientId client) (f a) Q (fun _ _ => True) hand) :
    wp (keepMonitor u ports w clientId client) (p >>= f) Q (fun _ _ => True) hand :=
  wp_quiet_bind hp keep_idle (fun _ => trivial) hf

/-- A request that narrows its renewal is not looked at. -/
theorem keep_narrowed {p : M ε α} (h : hand.whole = false) :
    wp (keepMonitor u ports w clientId client) p (fun _ _ => True) (fun _ _ => True) hand := by
  have hframe : wp (keepMonitor u ports w clientId client) p
      (fun hand _ => hand.whole = false) (fun hand _ => hand.whole = false) hand := by
    refine wp_of_uses p.uses_all (fun hand : Hand => hand.whole = false)
      (fun hand c h _ => ?_) h
    have hwhole : hand.whole ≠ true := by simp [h]
    cases c <;> first
      | exact ⟨trivial, fun _ _ => h⟩
      | exact ⟨fun htrue => absurd htrue hwhole, fun _ _ => h⟩
  exact wp_mono hframe (fun _ _ _ => trivial) fun _ _ _ => trivial

/-- Without a grant in hand a part that reads and stores no refresh token signs freely, and
leaves the hand empty. -/
theorem keep_nothing {p : M ε α} {S : Call → Prop} (hp : p.Uses S)
    (hread : ∀ tokenHash, ¬S (.findByTokenHash tokenHash))
    (hsave : ∀ row, ¬S (.saveRefreshToken row)) {whole : Bool} :
    wp (keepMonitor u ports w clientId client) p (fun hand _ => hand = ⟨whole, .nothing⟩)
      (fun hand _ => hand = ⟨whole, .nothing⟩) ⟨whole, .nothing⟩ := by
  refine wp_of_uses hp (fun hand : Hand => hand = ⟨whole, .nothing⟩) ?_ rfl
  rintro _ c rfl hc
  cases c
  case findByTokenHash tokenHash => exact absurd hc (hread tokenHash)
  case saveRefreshToken row => exact absurd hc (hsave row)
  case createAccessToken claims =>
      exact ⟨fun _ g _ => ⟨nofun, nofun⟩, fun _ _ => rfl⟩
  case createIdToken claims =>
      exact ⟨fun _ g _ => ⟨nofun, nofun⟩, fun _ _ => rfl⟩
  all_goals exact ⟨trivial, fun _ _ => rfl⟩

theorem keep_unread {p : M ε α} {l : List Area} (hp : p.Uses (Call.In l))
    (hread : l.contains .refreshTokens = false) (hsave : l.contains .newRefreshTokens = false)
    {whole : Bool} :
    wp (keepMonitor u ports w clientId client) p (fun _ _ => True) (fun _ _ => True)
      ⟨whole, .nothing⟩ := by
  refine wp_mono (keep_nothing hp ?_ ?_) (fun _ _ _ => trivial) fun _ _ _ => trivial
  · intro tokenHash h
    exact absurd (hread.symm.trans h) Bool.false_ne_true
  · intro row h
    exact absurd (hsave.symm.trans h) Bool.false_ne_true

theorem keep_nothing_bind {p : M ε α} {f : α → M ε β} {Q : Hand → β → Prop} {l : List Area}
    (hp : p.Uses (Call.In l)) (hread : l.contains .refreshTokens = false)
    (hsave : l.contains .newRefreshTokens = false) {whole : Bool}
    (hf : ∀ a, wp (keepMonitor u ports w clientId client) (f a) Q (fun _ _ => True)
      ⟨whole, .nothing⟩) :
    wp (keepMonitor u ports w clientId client) (p >>= f) Q (fun _ _ => True)
      ⟨whole, .nothing⟩ := by
  refine (wp_bind _ _).mpr (wp_mono (keep_nothing hp ?_ ?_) ?_ fun _ _ _ => trivial)
  · intro tokenHash h
    exact absurd (hread.symm.trans h) Bool.false_ne_true
  · intro row h
    exact absurd (hsave.symm.trans h) Bool.false_ne_true
  · rintro _ a rfl
    exact hf a

/-! ## Issuing -/

/-- The issuance is from the grant. -/
structure Issuance.From (i : Issuance) (g : Grant) : Prop where
  clientId : i.client.clientId = g.clientId
  subject : i.subject = g.subject
  subjectMaterial : i.subjectMaterial = g.subjectMaterial
  scopes : i.scopes = g.scopes
  resources : i.resources = g.resourceUris

/-- The issuance tells nothing of a first request. -/
structure Issuance.Plain (i : Issuance) : Prop where
  context : i.context = {}
  authorizationDetails : i.authorizationDetails = []

theorem Issuance.from_row (u : TokenUseCase) (i : Issuance) (value : String) :
    i.From (u.refreshTokenRow i value).grant := ⟨rfl, rfl, rfl, rfl, rfl⟩

/-- The refresh token of an issuance from a grant continues it. -/
theorem Issuance.From.continues {i : Issuance} {g : Grant} (h : i.From g) (u : TokenUseCase)
    (value : String) : Continues g (u.refreshTokenRow i value).grant :=
  ⟨h.clientId, h.subject, h.subjectMaterial, h.scopes, h.resources⟩

theorem Issuance.From.of_continues {i : Issuance} {g g' : Grant} (h : i.From g)
    (hg : Continues g g') : i.From g' where
  clientId := h.clientId.trans hg.clientId.symm
  subject := h.subject.trans hg.subject.symm
  subjectMaterial := h.subjectMaterial.trans hg.subjectMaterial.symm
  scopes := h.scopes.trans hg.scopes.symm
  resources := h.resources.trans hg.resourceUris.symm

/-- What an issuance signs for the hand it is made with. -/
structure Issuance.Suits (i : Issuance) (clientId : String) (client : Client) (hand : Hand) :
    Prop where
  record : i.client.clientId = clientId → i.client = client
  issuing : ∀ g, hand.held = .issuing g → i.From g
  renewing : hand.whole = true → ∀ g, hand.held = .renewing g → i.From g ∧ i.Plain

theorem payload_bare {claims : AccessTokenClaims}
    (hdetails : Dict.get claims.additionalClaims "authorization_details" = none)
    (hclaims : Dict.get claims.additionalClaims "claims" = none) : claims.Bare := by
  intro jti
  unfold AccessTokenClaims.payload
  rw [Dict.get_setDefaults, Dict.get_setDefaults, hdetails, hclaims]
  simp [Dict.get_cons]

/-- Without a `claims` parameter and details, the additional claims are those of the client
and of the bindings. -/
theorem accessTokenClaims_bare (i : Issuance) (audience : Audience)
    (h : i.authorizationDetails = []) : (u.accessTokenClaims i audience none).Bare := by
  have hget : ∀ name, name ≠ "cnf" → name ≠ "client_id" → name ≠ "subject_material" →
      Dict.get (u.accessTokenClaims i audience none).additionalClaims name = none := by
    intro name hcnf hclient hmaterial
    show Dict.get (TokenUseCase.accessTokenAdditionalClaims none i) name = none
    rw [AccessTokenIssuers.additionalClaims_eq, h]
    simp only [if_true, List.append_nil, AccessTokenIssuers.userinfoMembers, Option.map_none,
      Option.getD_none, List.nil_append]
    rw [Dict.get_append]
    have hfirst : Dict.get (if AccessTokenIssuers.cnfOf i = [] then []
        else [("cnf", Json.obj (AccessTokenIssuers.cnfOf i))]) name = none := by
      split <;> simp [Dict.get_cons, hcnf.symm]
    rw [hfirst, Option.none_or]
    exact AccessTokenIssuers.get_accessTokenSubjectClaims_of_ne hclient hmaterial _ _ _
  exact payload_bare (hget _ (by decide) (by decide) (by decide))
    (hget _ (by decide) (by decide) (by decide))

theorem claimsRequest_plain {i : Issuance} (h : i.Plain) : u.claimsRequest i = none := by
  unfold TokenUseCase.claimsRequest
  rw [h.context]
  rfl

theorem run_findApiResources_bind {f : List ApiResource → M ε α} :
    (ask .findApiResources >>= f).run (exec ports) w = (f w.apiResources).run (exec ports) w :=
  rfl

/-- The audience the registries of `w` answer. -/
theorem resolveAudience_keeps (client' : Client) (scopes : Finset Scope)
    (resources : List String) :
    wp (keepMonitor u ports w clientId client) (u.resolveAudience client' scopes resources)
      (fun hand' audience => hand' = hand ∧
        ((u.resolveAudience client' scopes resources).run (exec ports) w).1 = .ok audience)
      (fun _ _ => True) hand := by
  unfold TokenUseCase.resolveAudience
  split
  · exact wp_pure.mpr ⟨rfl, rfl⟩
  split
  · exact wp_pure.mpr ⟨rfl, rfl⟩
  rename_i registry _
  unfold ScopeRegistry.audiencesFor
  split
  · exact wp_pure.mpr ⟨rfl, rfl⟩
  refine wp_ask_bind.mpr ⟨trivial, ?_⟩
  rintro stored rfl
  rw [run_findApiResources_bind]
  dsimp only
  generalize List.map ApiResource.name _ = audiences
  rcases audiences with _ | ⟨audience, _ | ⟨second, rest⟩⟩ <;> exact wp_pure.mpr ⟨rfl, rfl⟩

variable (u) in
theorem accessOf_from {i : Issuance} {g : Grant} {audience : Audience}
    (hrecord : i.client.clientId = clientId → i.client = client) (hfrom : i.From g)
    (hg : g.clientId = clientId)
    (haudience : ((u.resolveAudience i.client i.scopes i.resources).run (exec ports) w).1
      = .ok audience) (claimsRequest : Option ClaimsRequest) :
    AccessOf u ports w client g (u.accessTokenClaims i audience claimsRequest) where
  scopes := hfrom.scopes
  audience := by
    have hclient : i.client = client := hrecord (hfrom.clientId.trans hg)
    unfold TokenUseCase.audienceOf
    rw [← hclient, ← hfrom.scopes, ← hfrom.resources]
    exact haudience

theorem createAccessToken_keeps {i : Issuance} (h : i.Suits clientId client hand)
    {claimsRequest : Option ClaimsRequest} (hplain : i.Plain → claimsRequest = none) :
    wp (keepMonitor u ports w clientId client) (u.createAccessToken i claimsRequest)
      (fun _ _ => True) (fun _ _ => True) hand := by
  unfold TokenUseCase.createAccessToken
  refine (wp_bind _ _).mpr (wp_mono (resolveAudience_keeps _ _ _) ?_ fun _ _ _ => trivial)
  rintro _ audience ⟨rfl, haudience⟩
  refine (wp_bind _ _).mpr (wp_op.mpr ⟨fun hwhole g hg => ⟨?_, ?_⟩, fun r _ => ?_⟩)
  · intro hissuing
    exact accessOf_from u h.record (h.issuing g hissuing) hg haudience claimsRequest
  · intro hrenewing
    obtain ⟨hfrom, hi⟩ := h.renewing hwhole g hrenewing
    refine ⟨accessOf_from u h.record hfrom hg haudience claimsRequest, ?_⟩
    rw [hplain hi]
    exact accessTokenClaims_bare i audience hi.authorizationDetails
  · exact wp_orRaise.mpr ⟨fun _ _ => trivial, fun _ _ => trivial⟩

theorem issueAccessToken_keeps {i : Issuance} (h : i.Suits clientId client hand) :
    wp (keepMonitor u ports w clientId client) (u.issueAccessToken i)
      (fun _ _ => True) (fun _ _ => True) hand :=
  (wp_bind _ _).mpr (wp_mono (createAccessToken_keeps h fun _ => rfl)
    (fun _ _ _ => wp_pure.mpr trivial) fun _ _ _ => trivial)

/-- The additional claims of an `id_token` that repeats nothing of a request. -/
theorem payload_identity_bare {claims : IdTokenClaims} (htime : claims.authTime = 0)
    (hacr : Dict.get claims.additionalClaims "acr" = none)
    (hauth : Dict.get claims.additionalClaims "auth_time" = none) : claims.Bare := by
  have htext : ∀ name value key, name ≠ key → Dict.get (textClaim name value) key = none := by
    intro name value key hne
    unfold textClaim
    split <;> simp [Dict.get_cons, hne]
  constructor
  · unfold IdTokenClaims.payload
    rw [Dict.get_setDefaults, hauth]
    simp [Dict.get_append, Dict.get_cons, htext, htime]
  · unfold IdTokenClaims.payload
    rw [Dict.get_setDefaults, hacr]
    simp [Dict.get_append, Dict.get_cons, htext, htime]

theorem identityOf_from {i : Issuance} {g : Grant} {claims : IdTokenClaims}
    (hrecord : i.client.clientId = clientId → i.client = client) (hfrom : i.From g)
    (hg : g.clientId = clientId)
    (hsubject : displaySubject u.platform i.client i.subject i.subjectMaterial
      u.config.subjectSeed = .ok claims.subject)
    (haudience : claims.audience = i.client.clientId) : IdentityOf u client g claims := by
  have hclient : i.client = client := hrecord (hfrom.clientId.trans hg)
  rw [hclient] at hsubject haudience
  rw [hfrom.subject, hfrom.subjectMaterial] at hsubject
  exact ⟨hsubject, haudience⟩

/-- Without a `claims` parameter the claims asked for are those of the `acr`. -/
theorem requestedClaims_keeps {i : Issuance} {claimsRequest : Option ClaimsRequest}
    (hplain : i.Plain → claimsRequest = none) (subject : String) (acr : List (String × Json)) :
    wp (keepMonitor u ports w clientId client) (u.requestedClaims claimsRequest subject acr)
      (fun hand' requested => hand' = hand ∧ (i.Plain → requested = acr))
      (fun _ _ => True) hand := by
  cases claimsRequest with
  | none => exact wp_pure.mpr ⟨rfl, fun _ => rfl⟩
  | some request =>
      have hnot : ¬i.Plain := by
        intro h
        cases hplain h
      refine wp_of_quiet ((u.requestedClaims_services _ _ _).mono fun _ => Call.Service.idle)
        keep_idle (fun requested => ⟨rfl, fun h => absurd h hnot⟩) fun _ => trivial

theorem signIdToken_keeps {i : Issuance} (h : i.Suits clientId client hand)
    {claimsRequest : Option ClaimsRequest} (hplain : i.Plain → claimsRequest = none) :
    wp (keepMonitor u ports w clientId client) (u.signIdToken i claimsRequest)
      (fun hand' _ => hand' = hand) (fun _ _ => True) hand := by
  unfold TokenUseCase.signIdToken
  dsimp only
  refine keep_idle_bind ((u.idTokenMaterial_services _).mono fun _ => Call.Service.idle)
    fun material => ?_
  refine (wp_bind _ _).mpr (wp_mono (requestedClaims_keeps hplain _ _) ?_ fun _ _ _ => trivial)
  rintro _ requested ⟨rfl, hrequested⟩
  refine keep_idle_bind ((u.openid20Identifier_services _ _ _).mono fun _ => Call.Service.idle)
    fun openid20Id => ?_
  refine (wp_bind _ _).mpr (wp_orRaise.mpr ⟨fun _ _ => trivial, fun subject hsubject => ?_⟩)
  refine (wp_bind _ _).mpr (wp_op.mpr ⟨fun hwhole g hg => ⟨?_, ?_⟩, fun r _ => ?_⟩)
  · intro hissuing
    exact identityOf_from h.record (h.issuing g hissuing) hg hsubject rfl
  · intro hrenewing
    obtain ⟨hfrom, hi⟩ := h.renewing hwhole g hrenewing
    refine ⟨identityOf_from h.record hfrom hg hsubject rfl, ?_⟩
    have hnone : requested = [] := by
      rw [hrequested hi, hi.context]
      rfl
    refine payload_identity_bare ?_ ?_ ?_
    · show i.context.authTime = 0
      rw [hi.context]
    · rw [hnone]
      dsimp only
      split <;> simp [Json.setMember, Dict.get_cons]
    · rw [hnone]
      dsimp only
      split <;> simp [Json.setMember, Dict.get_cons]
  · exact wp_orRaise.mpr ⟨fun _ _ => trivial, fun _ _ => rfl⟩

theorem issueIdToken_keeps {i : Issuance} (h : i.Suits clientId client hand)
    {claimsRequest : Option ClaimsRequest} (hplain : i.Plain → claimsRequest = none) :
    wp (keepMonitor u ports w clientId client) (u.issueIdToken i claimsRequest)
      (fun hand' _ => hand' = hand) (fun _ _ => True) hand := by
  unfold TokenUseCase.issueIdToken
  refine (wp_bind _ _).mpr (wp_mono (signIdToken_keeps h hplain) ?_ fun _ _ _ => trivial)
  rintro _ signed rfl
  refine wp_of_quiet (S := Call.Idle) (uses_catchJwe ?_ (Prog.uses_fail _ _)) keep_idle
    (fun _ => rfl) fun _ => trivial
  exact (encryptIdTokenForClient_services ..).mono fun _ => Call.Service.idle

/-- The tokens of an issuance that suits the hand. -/
theorem issueTokens_keeps {i : Issuance} (h : i.Suits clientId client hand) :
    wp (keepMonitor u ports w clientId client) (u.issueTokens i)
      (fun _ _ => True) (fun _ _ => True) hand := by
  unfold TokenUseCase.issueTokens
  split
  · exact (wp_bind _ _).mpr (wp_mono (issueAccessToken_keeps h) (fun _ _ _ => wp_pure.mpr trivial)
      fun _ _ _ => trivial)
  · refine (wp_bind _ _).mpr (wp_mono (issueIdToken_keeps h claimsRequest_plain) ?_
      fun _ _ _ => trivial)
    rintro _ idToken rfl
    exact (wp_bind _ _).mpr (wp_mono (createAccessToken_keeps h claimsRequest_plain)
      (fun _ _ _ => wp_pure.mpr trivial) fun _ _ _ => trivial)

/-! ## The first tokens of a grant -/

/-- A redeemed code or session: whatever refresh token is stored, the tokens are of its
grant. -/
theorem issued_suits {i : Issuance} {whole : Bool} {held : Held}
    (hrecord : i.client.clientId = clientId → i.client = client)
    (hheld : held = .nothing ∨ ∃ value, held = .issuing (u.refreshTokenRow i value).grant) :
    i.Suits clientId client ⟨whole, held⟩ := by
  refine ⟨hrecord, ?_, ?_⟩
  · intro g hg
    rcases hheld with rfl | ⟨value, rfl⟩
    · cases hg
    · cases hg
      exact i.from_row u value
  · intro _ g hg
    rcases hheld with rfl | ⟨value, rfl⟩
    · cases hg
    · cases hg

theorem offlineRefreshToken_issues {i : Issuance} {whole : Bool} :
    wp (keepMonitor u ports w clientId client) (u.offlineRefreshToken i)
      (fun hand _ => ∃ held, hand = ⟨whole, held⟩ ∧ (held = .nothing ∨
        ∃ value, held = .issuing (u.refreshTokenRow i value).grant))
      (fun _ _ => True) ⟨whole, .nothing⟩ := by
  unfold TokenUseCase.offlineRefreshToken
  split
  · refine wp_ask_bind.mpr ⟨trivial, fun value _ => ?_⟩
    refine wp_ask_bind.mpr ⟨fun _ g _ => nofun, fun _ _ => ?_⟩
    exact wp_pure.mpr ⟨_, rfl, .inr ⟨value, rfl⟩⟩
  · exact wp_pure.mpr ⟨_, rfl, .inl rfl⟩

/-- An issuance that begins with nothing in hand. -/
theorem issueSession_keeps {i : Issuance} (dpopBound : Bool) {whole : Bool}
    (hrecord : i.client.clientId = clientId → i.client = client) :
    wp (keepMonitor u ports w clientId client) (u.issueSession i dpopBound)
      (fun _ _ => True) (fun _ _ => True) ⟨whole, .nothing⟩ := by
  unfold TokenUseCase.issueSession
  refine (wp_bind _ _).mpr (wp_mono offlineRefreshToken_issues ?_ fun _ _ _ => trivial)
  rintro _ refreshToken ⟨held, rfl, hheld⟩
  exact (wp_bind _ _).mpr (wp_mono (issueTokens_keeps (issued_suits hrecord hheld))
    (fun _ _ _ => wp_pure.mpr trivial) fun _ _ _ => trivial)

/-- The client found is the record of its name. -/
theorem activeClient_keeps (id description : String) :
    wp (keepMonitor u ports w clientId client) (TokenUseCase.activeClient id description)
      (fun hand' found => hand' = hand ∧ found.clientId = id ∧
        (found.clientId = clientId → found = client)) (fun _ _ => True) hand := by
  unfold TokenUseCase.activeClient
  refine wp_orRefuse_bind.mpr (wp_op.mpr ⟨trivial, fun r hr => ⟨fun _ => trivial, ?_⟩⟩)
  intro found hfound
  obtain ⟨hid, hrecord⟩ := hr found hfound
  refine wp_refuseIf_bind.mpr ⟨fun _ => trivial, fun _ => wp_pure.mpr ⟨rfl, hid, fun h => ?_⟩⟩
  exact hrecord (hid.symm.trans h)

theorem revokeIssuedTokens_idle (authCode : AuthorizationCode) :
    (u.revokeIssuedTokens authCode).Uses Call.Idle := by
  unfold TokenUseCase.revokeIssuedTokens
  refine Prog.uses_bind ?_ fun _ => ?_
  · split
    · exact Prog.uses_op trivial
    · exact Prog.uses_pure _ _
  · split
    · exact Prog.uses_op trivial
    · exact Prog.uses_pure _ _

theorem evaluateDpop_idle (found : Client) (request : TokenRequest) (boundJkt : String) :
    (u.evaluateDpop found request boundJkt).Uses Call.Idle :=
  (u.evaluateDpop_uses found request boundJkt).mono fun _ => Call.In.idle rfl

theorem validateCodeExchange_keeps (authCode : AuthorizationCode) (request : TokenRequest)
    {whole : Bool} :
    wp (keepMonitor u ports w clientId client) (u.validateCodeExchange authCode request)
      (fun hand found => hand = ⟨whole, .nothing⟩ ∧ (found.clientId = clientId → found = client))
      (fun _ _ => True) ⟨whole, .nothing⟩ := by
  unfold TokenUseCase.validateCodeExchange
  refine (wp_bind _ _).mpr (wp_mono (activeClient_keeps _ _) ?_ fun _ _ _ => trivial)
  rintro _ found ⟨rfl, -, hrecord⟩
  refine wp_refuseIf_bind.mpr ⟨fun _ => trivial, fun _ => ?_⟩
  refine keep_nothing_bind (u.authenticateClient_uses _ _) rfl rfl fun _ => ?_
  refine wp_refuseIf_bind.mpr ⟨fun _ => trivial, fun _ => ?_⟩
  refine wp_refuseIf_bind.mpr ⟨fun _ => trivial, fun _ => ?_⟩
  refine keep_idle_bind ?_ fun verified => ?_
  · split
    · exact Prog.uses_pure _ _
    · exact uses_orRaise _ _
  exact wp_refuseIf_bind.mpr ⟨fun _ => trivial, fun _ => wp_pure.mpr ⟨rfl, hrecord⟩⟩

theorem checkCode_keeps (request : TokenRequest) {whole : Bool} :
    wp (keepMonitor u ports w clientId client) (u.checkCode request)
      (fun hand x => hand = ⟨whole, .nothing⟩ ∧
        (x.client.clientId = clientId → x.client = client))
      (fun _ _ => True) ⟨whole, .nothing⟩ := by
  unfold TokenUseCase.checkCode
  refine wp_orRefuse_bind.mpr (wp_op.mpr ⟨trivial, fun found _ =>
    ⟨fun _ => trivial, fun authCode _ => ?_⟩⟩)
  split
  · exact keep_idle_bind (revokeIssuedTokens_idle _) fun _ => wp_fail.mpr trivial
  refine wp_ask_bind.mpr ⟨trivial, fun now _ => ?_⟩
  refine wp_refuseIf_bind.mpr ⟨fun _ => trivial, fun _ => ?_⟩
  refine (wp_bind _ _).mpr (wp_mono (validateCodeExchange_keeps _ _) ?_ fun _ _ _ => trivial)
  rintro _ found' ⟨rfl, hrecord⟩
  refine keep_idle_bind (evaluateDpop_idle _ _ _) fun binding => ?_
  refine keep_nothing_bind (u.effectiveResources_uses _ _) rfl rfl fun resources => ?_
  exact wp_pure.mpr ⟨rfl, hrecord⟩

theorem exchangeCode_keeps (request : TokenRequest) {whole : Bool} :
    wp (keepMonitor u ports w clientId client) (u.exchangeCode request)
      (fun _ _ => True) (fun _ _ => True) ⟨whole, .nothing⟩ := by
  refine (wp_bind _ _).mpr (wp_mono (checkCode_keeps request) ?_ fun _ _ _ => trivial)
  rintro _ x ⟨rfl, hrecord⟩
  unfold TokenUseCase.redeemCode
  refine wp_ask_bind.mpr ⟨trivial, fun _ _ => ?_⟩
  refine (wp_bind _ _).mpr (wp_mono offlineRefreshToken_issues ?_ fun _ _ _ => trivial)
  rintro _ refreshToken ⟨held, rfl, hheld⟩
  refine (wp_bind _ _).mpr (wp_mono (issueTokens_keeps (issued_suits hrecord hheld)) ?_
    fun _ _ _ => trivial)
  exact fun _ tokens _ => wp_ask_bind.mpr ⟨trivial, fun _ _ => wp_pure.mpr trivial⟩

theorem checkDevice_keeps (request : TokenRequest) {whole : Bool} :
    wp (keepMonitor u ports w clientId client) (u.checkDevice request)
      (fun hand x => hand = ⟨whole, .nothing⟩ ∧
        (x.client.clientId = clientId → x.client = client))
      (fun _ _ => True) ⟨whole, .nothing⟩ := by
  unfold TokenUseCase.checkDevice
  refine wp_refuseIf_bind.mpr ⟨fun _ => trivial, fun _ => ?_⟩
  refine wp_refuseIf_bind.mpr ⟨fun _ => trivial, fun _ => ?_⟩
  refine (wp_bind _ _).mpr (wp_mono (activeClient_keeps _ _) ?_ fun _ _ _ => trivial)
  rintro _ found ⟨rfl, -, hrecord⟩
  refine keep_nothing_bind (u.authenticateClient_uses _ _) rfl rfl fun _ => ?_
  refine keep_idle_bind (evaluateDpop_idle _ _ _) fun binding => ?_
  refine keep_nothing_bind (u.loadDeviceSession_uses _) rfl rfl fun stored => ?_
  refine keep_nothing_bind (u.effectiveResources_uses _ _) rfl rfl fun resources => ?_
  exact wp_ask_bind.mpr ⟨trivial, fun _ _ => wp_pure.mpr ⟨rfl, hrecord⟩⟩

theorem deviceCode_keeps (request : TokenRequest) {whole : Bool} :
    wp (keepMonitor u ports w clientId client) (u.deviceCode request)
      (fun _ _ => True) (fun _ _ => True) ⟨whole, .nothing⟩ := by
  refine (wp_bind _ _).mpr (wp_mono (checkDevice_keeps request) ?_ fun _ _ _ => trivial)
  rintro _ x ⟨rfl, hrecord⟩
  unfold TokenUseCase.pollDevice
  split
  · unfold TokenUseCase.deviceApprovedFlow
    refine wp_refuseIf_bind.mpr ⟨fun _ => trivial, fun _ => ?_⟩
    exact wp_ask_bind.mpr ⟨trivial, fun _ _ => issueSession_keeps _ hrecord⟩
  · exact keep_unread (TokenUseCase.devicePendingResponse_uses _ _) rfl rfl

/-- A backchannel session that is redeemed, by a poll or a push. -/
theorem cibaApprovedFlow_keeps (x : Granted BackchannelAuthenticationRequest)
    (tlsCertHash : String) (hrecord : x.client.clientId = clientId → x.client = client) :
    wp (keepMonitor u ports w clientId client) (u.cibaApprovedFlow x tlsCertHash)
      (fun _ _ => True) (fun _ _ => True) hand := by
  unfold TokenUseCase.cibaApprovedFlow
  refine wp_refuseIf_bind.mpr ⟨fun _ => trivial, fun _ => ?_⟩
  exact wp_ask_bind.mpr ⟨trivial, fun _ _ => issueSession_keeps _ hrecord⟩

theorem checkCiba_keeps (request : TokenRequest) {whole : Bool} :
    wp (keepMonitor u ports w clientId client) (u.checkCiba request)
      (fun hand x => hand = ⟨whole, .nothing⟩ ∧
        (x.client.clientId = clientId → x.client = client))
      (fun _ _ => True) ⟨whole, .nothing⟩ := by
  unfold TokenUseCase.checkCiba
  refine wp_refuseIf_bind.mpr ⟨fun _ => trivial, fun _ => ?_⟩
  refine wp_refuseIf_bind.mpr ⟨fun _ => trivial, fun _ => ?_⟩
  refine (wp_bind _ _).mpr (wp_mono (activeClient_keeps _ _) ?_ fun _ _ _ => trivial)
  rintro _ found ⟨rfl, -, hrecord⟩
  refine keep_nothing_bind (u.authenticateClient_uses _ _) rfl rfl fun _ => ?_
  refine keep_idle_bind (evaluateDpop_idle _ _ _) fun binding => ?_
  refine keep_nothing_bind (u.loadCibaSession_uses _) rfl rfl fun stored => ?_
  refine keep_nothing_bind (u.effectiveResources_uses _ _) rfl rfl fun resources => ?_
  exact wp_ask_bind.mpr ⟨trivial, fun _ _ => wp_pure.mpr ⟨rfl, hrecord⟩⟩

theorem ciba_keeps (request : TokenRequest) {whole : Bool} :
    wp (keepMonitor u ports w clientId client) (u.ciba request)
      (fun _ _ => True) (fun _ _ => True) ⟨whole, .nothing⟩ := by
  refine (wp_bind _ _).mpr (wp_mono (checkCiba_keeps request) ?_ fun _ _ _ => trivial)
  rintro _ x ⟨rfl, hrecord⟩
  unfold TokenUseCase.pollCiba
  split
  · exact cibaApprovedFlow_keeps x _ hrecord
  · exact keep_unread (TokenUseCase.cibaPendingResponse_uses _ _) rfl rfl

theorem issueCibaPushTokens_keeps (stored : BackchannelAuthenticationRequest) :
    wp (keepMonitor u ports w clientId client) (u.issueCibaPushTokens stored)
      (fun _ _ => True) (fun _ _ => True) hand := by
  unfold TokenUseCase.issueCibaPushTokens
  refine wp_refuseIf_bind.mpr ⟨fun _ => trivial, fun _ => ?_⟩
  refine wp_orRefuse_bind.mpr (wp_op.mpr ⟨trivial, fun r hr =>
    ⟨fun _ => trivial, fun found hfound => ?_⟩⟩)
  obtain ⟨hid, hrecord⟩ := hr found hfound
  refine wp_ask_bind.mpr ⟨trivial, fun now _ => ?_⟩
  exact cibaApprovedFlow_keeps _ _ fun h => hrecord (hid.symm.trans h)

/-- A pre-authorized code gives no refresh token. -/
theorem resolvePreAuthorizedCode_idle (codeValue : String) (now : Instant) :
    (u.resolvePreAuthorizedCode codeValue now).Uses Call.Idle := by
  unfold TokenUseCase.resolvePreAuthorizedCode
  refine Prog.uses_bind (Prog.uses_bind (Prog.uses_op trivial) fun _ => uses_orRefuse _ _ _)
    fun authCode => ?_
  refine Prog.uses_bind (uses_refuseIf _ _ _) fun _ => ?_
  split
  · exact Prog.uses_bind (revokeIssuedTokens_idle _) fun _ => Prog.uses_fail _ _
  · exact Prog.uses_bind (uses_refuseIf _ _ _) fun _ => Prog.uses_pure _ _

theorem preAuthorizedCode_keeps (request : TokenRequest) {whole : Bool} :
    wp (keepMonitor u ports w clientId client) (u.preAuthorizedCode request)
      (fun _ _ => True) (fun _ _ => True) ⟨whole, .nothing⟩ := by
  unfold TokenUseCase.preAuthorizedCode TokenUseCase.checkPreAuthorizedCode
  rw [Prog.bind_assoc']
  refine wp_ask_bind.mpr ⟨trivial, fun now _ => ?_⟩
  rw [Prog.bind_assoc']
  refine keep_idle_bind (resolvePreAuthorizedCode_idle _ _) fun authCode => ?_
  refine keep_nothing_bind (l := [.passive]) ?_ rfl rfl fun x => ?_
  · refine Prog.uses_bind (TokenUseCase.activeClient_uses _ _) fun found => ?_
    refine Prog.uses_bind (u.authenticateClient_uses _ _) fun _ => ?_
    refine Prog.uses_bind (uses_refuseIf _ _ _) fun _ => ?_
    refine Prog.uses_bind (uses_refuseIf _ _ _) fun _ => ?_
    refine Prog.uses_bind (u.evaluateDpop_uses _ _ _) fun _ => ?_
    exact Prog.uses_bind (u.effectiveResources_uses _ _) fun _ => Prog.uses_pure _ _
  unfold TokenUseCase.redeemPreAuthorizedCode
  refine wp_ask_bind.mpr ⟨trivial, fun _ _ => ?_⟩
  exact keep_nothing_bind (u.issueAccessToken_uses _) rfl rfl fun _ => wp_pure.mpr trivial

/-! ## Renewals -/

/-- A request without a `resource` gets the resources of the grant. -/
theorem effectiveResources_unnarrowed {request : TokenRequest} (h : request.resource = "")
    (bound : List String) : u.effectiveResources request bound = pure bound := by
  unfold TokenUseCase.effectiveResources
  have hnone : parseResourceParameter u.platform request.resource = [] := by
    rw [h]
    rfl
  rw [hnone]
  rfl

/-- What the checks of a renewal that narrows nothing end with. -/
structure Renewable (clientId : String) (client : Client) (hand : Hand)
    (x : Granted (RefreshToken × Finset Scope)) : Prop where
  held : hand.held = .renewing x.stored.1.grant
  record : x.client.clientId = clientId → x.client = client
  own : x.client.clientId = x.stored.1.clientId
  scopes : x.stored.2 = x.stored.1.scopes
  resources : x.resources = x.stored.1.resourceUris

theorem checkRefresh_keeps {request : TokenRequest} (hscope : request.scope = "")
    (hresource : request.resource = "") {whole : Bool} :
    wp (keepMonitor u ports w clientId client) (u.checkRefresh request)
      (fun hand x => Renewable clientId client hand x) (fun _ _ => True) ⟨whole, .nothing⟩ := by
  unfold TokenUseCase.checkRefresh
  refine wp_refuseIf_bind.mpr ⟨fun _ => trivial, fun _ => ?_⟩
  refine (wp_bind _ _).mpr (wp_mono (activeClient_keeps _ _) ?_ fun _ _ _ => trivial)
  rintro _ found ⟨rfl, hid, hrecord⟩
  refine keep_nothing_bind (u.authenticateClient_uses _ _) rfl rfl fun _ => ?_
  rw [wp_bind]
  unfold TokenUseCase.resolveRefreshGrant
  refine wp_orRefuse_bind.mpr (wp_op.mpr ⟨trivial, fun r _ => ⟨fun _ => trivial, ?_⟩⟩)
  rintro row rfl
  refine wp_refuseIf_bind.mpr ⟨fun _ => trivial, fun hsame => ?_⟩
  refine wp_refuseIf_bind.mpr ⟨fun _ => trivial, fun _ => ?_⟩
  refine wp_ask_bind.mpr ⟨trivial, fun now _ => ?_⟩
  refine wp_refuseIf_bind.mpr ⟨fun _ => trivial, fun _ => ?_⟩
  refine wp_refuseIf_bind.mpr ⟨fun _ => trivial, fun _ => ?_⟩
  refine wp_pure.mpr ?_
  dsimp only
  refine wp_refuseIf_bind.mpr ⟨fun _ => trivial, fun _ => ?_⟩
  refine wp_ask_bind.mpr ⟨trivial, fun now _ => ?_⟩
  refine keep_idle_bind (evaluateDpop_idle _ _ _) fun binding => ?_
  rw [effectiveResources_unnarrowed hresource]
  refine wp_pure.mpr ⟨rfl, hrecord, hid.trans (not_not.mp hsame).symm, ?_, rfl⟩
  simp [hscope]

theorem refresh_keeps {request : TokenRequest} (hscope : request.scope = "")
    (hresource : request.resource = "") {whole : Bool} :
    wp (keepMonitor u ports w clientId client) (u.refresh request)
      (fun _ _ => True) (fun _ _ => True) ⟨whole, .nothing⟩ := by
  refine (wp_bind _ _).mpr (wp_mono (checkRefresh_keeps hscope hresource) ?_
    fun _ _ _ => trivial)
  rintro ⟨whole', held⟩ x ⟨rfl, hrecord, hown, hscopes, hresources⟩
  have hfrom : (u.refreshIssuance request x).From x.stored.1.grant :=
    ⟨hown, rfl, rfl, hscopes, hresources⟩
  have hplain : (u.refreshIssuance request x).Plain := ⟨rfl, rfl⟩
  have hsuits : ∀ g, Continues x.stored.1.grant g →
      (u.refreshIssuance request x).Suits clientId client ⟨whole', .renewing g⟩ := by
    intro g hg
    refine ⟨hrecord, nofun, fun _ g' h => ?_⟩
    cases h
    exact ⟨hfrom.of_continues hg, hplain⟩
  unfold TokenUseCase.renew
  refine (wp_bind _ _).mpr (wp_mono
    (Q := fun hand _ => ∃ g, Continues x.stored.1.grant g ∧ hand = ⟨whole', .renewing g⟩)
    (E := fun _ _ => True) ?_ ?_ fun _ _ _ => trivial)
  · unfold TokenUseCase.rotate
    split
    · exact wp_pure.mpr ⟨_, .refl _, rfl⟩
    refine wp_ask_bind.mpr ⟨trivial, fun _ _ => ?_⟩
    refine wp_ask_bind.mpr ⟨trivial, fun value _ => ?_⟩
    have hrow : ({ u.refreshIssuance request x with
        dpopJkt := TokenUseCase.refreshDpopJkt x.client x.stored.1 x.binding } :
          Issuance).From x.stored.1.grant := ⟨hown, rfl, rfl, hscopes, hresources⟩
    refine wp_ask_bind.mpr ⟨?_, fun _ _ => wp_pure.mpr ⟨_, hrow.continues u value, rfl⟩⟩
    intro _ g _ hg
    cases hg
    exact hrow.continues u value
  · rintro _ refreshToken ⟨g, hg, rfl⟩
    refine (wp_bind _ _).mpr (wp_mono (issueTokens_keeps (hsuits g hg)) ?_
      fun _ _ _ => trivial)
    exact fun _ tokens _ => wp_pure.mpr trivial

/-! ## Any request -/

theorem execute_keeps (request : TokenRequest) {whole : Bool}
    (h : whole = true → (Request.token request).Whole) :
    wp (keepMonitor u ports w clientId client) (u.execute request) (fun _ _ => True)
      (fun _ _ => True) ⟨whole, .nothing⟩ := by
  cases whole with
  | false => exact keep_narrowed rfl
  | true =>
      have hwhole : request.grantType = "refresh_token" →
          request.scope = "" ∧ request.resource = "" := h rfl
      obtain ⟨id, hexec⟩ := u.execute_cases request
      rw [hexec]
      unfold TokenUseCase.dispatch
      split
      · exact exchangeCode_keeps _
      split
      · rename_i hgrant
        obtain ⟨hscope, hresource⟩ := hwhole hgrant
        refine refresh_keeps ?_ ?_
        · exact hscope
        · exact hresource
      split
      · exact keep_unread (u.clientCredentials_uses _) rfl rfl
      split
      · exact keep_unread (u.jwtBearer_uses _) rfl rfl
      split
      · exact deviceCode_keeps _
      split
      · exact ciba_keeps _
      split
      · exact preAuthorizedCode_keeps _
      · exact wp_fail.mpr trivial

theorem safe_idle {p : M ε α} (hp : p.Uses Call.Idle) :
    Safe (keepMonitor u ports w clientId client) p :=
  safe_of_uses hp fun hand c hc => (keep_idle hand c hc).1

theorem safe_push (stored : BackchannelAuthenticationRequest) :
    Safe (keepMonitor u ports w clientId client)
      (outcome (u.issueCibaPushTokens stored) : M ε (Except TokenError TokenResponse)) := by
  have hissue : Safe (keepMonitor u ports w clientId client) (u.issueCibaPushTokens stored) :=
    fun _ => issueCibaPushTokens_keeps stored
  refine (hissue.bind fun response => safe_pure _).handle fun stop => ?_
  cases stop with
  | refused e => exact safe_pure _
  | raised x => exact safe_fail _

theorem safe_pushNotification (stored : BackchannelAuthenticationRequest) (authReqId : String) :
    Safe (keepMonitor u ports w clientId client)
      (CibaApprovalUseCase.pushNotification u stored authReqId : M ε String) := by
  refine (safe_push stored).bind fun candidate => ?_
  unfold TokenUseCase.createCibaPushNotification
  refine Safe.bind ?_ fun response => safe_idle ?_
  · cases candidate.toOption with
    | some response => exact safe_pure _
    | none => exact (safe_push stored).bind fun issued => safe_pure _
  · refine Prog.uses_bind (Prog.uses_op trivial) fun now => ?_
    refine Prog.uses_bind (Prog.uses_op trivial) fun jti => ?_
    exact Prog.uses_bind (Prog.uses_op trivial) fun _ => uses_orRaise _ _

theorem safe_cibaExecute (s : Server) (authReqId : String) (allow : Bool) (userCode : String) :
    Safe (keepMonitor s.token ports w clientId client)
      (s.ciba.execute authReqId allow userCode : M ε Bool) := by
  unfold CibaApprovalUseCase.execute
  split
  · exact safe_pure _
  have hfind : Call.Idle (.findByAuthReqIdHash (tokenHash s.ciba.platform authReqId)) := trivial
  refine (safe_idle (Prog.uses_op hfind)).bind fun found => ?_
  cases found with
  | none => exact safe_pure _
  | some stored =>
      dsimp only
      split
      · exact safe_pure _
      split
      · exact safe_pure _
      refine Safe.bind (safe_idle ?_) fun _ => Safe.bind (safe_idle ?_) fun _ =>
        Safe.bind ?_ fun _ => safe_pure _
      · split <;> exact Prog.uses_op trivial
      · unfold CibaApprovalUseCase.notifyPing
        split
        · exact Prog.uses_pure _ _
        · exact Prog.uses_op trivial
      · unfold CibaApprovalUseCase.notifyPush
        split
        · exact safe_pure _
        refine Safe.bind ?_ fun notification => safe_idle (Prog.uses_op trivial)
        split
        · rename_i v hv
          cases hv
          exact (safe_pushNotification stored authReqId).bind fun _ => safe_pure _
        · exact safe_pure _

/-- Whatever the request, it stores and signs as the grant in its hand asks. -/
theorem serve_keeps (s : Server) (r : Request) :
    wp (keepMonitor s.token ports w clientId client) (s.serve r) (fun _ _ => True)
      (fun _ _ => True) ⟨decide r.Whole, .nothing⟩ := by
  cases r with
  | token request =>
      refine (wp_bind _ _).mpr (wp_mono (execute_keeps request of_decide_eq_true) ?_
        fun _ _ h => h)
      exact fun _ _ _ => wp_pure.mpr trivial
  | approveDevice userCode subject =>
      refine (wp_bind _ _).mpr (wp_mono (keep_unread
        (s.decide_uses userCode (some subject)) rfl rfl) ?_ fun _ _ h => h)
      exact fun _ _ _ => wp_pure.mpr trivial
  | denyDevice userCode =>
      refine (wp_bind _ _).mpr (wp_mono (keep_unread
        (s.decide_uses userCode none) rfl rfl) ?_ fun _ _ h => h)
      exact fun _ _ _ => wp_pure.mpr trivial
  | decideCiba authReqId allow userCode =>
      exact ((safe_cibaExecute s authReqId allow userCode).bind fun _ => safe_pure _) _

end

/-! ## Chains of renewals -/

/-- What process `i` holds after a trace. -/
def heldBy (ports : Ports) (i : ι) : List (Event ι Call World) → Held
  | [] => .nothing
  | e :: past =>
      if e.pid = i then (heldBy ports i past).next e.call (e.reply (machine ports))
      else heldBy ports i past

/-- The calls of a trace, each with its process and what the process held. -/
def steps (ports : Ports) : List (Event ι Call World) → List (ι × Held × Call)
  | [] => []
  | e :: past => (e.pid, heldBy ports e.pid past, e.call) :: steps ports past

section
variable (ports : Ports) (requests : ι → Request) (tr : List (Event ι Call World))

/-- A renewal that narrows nothing replaced the refresh token `g` by `g'`. -/
def Renewed (g g' : Grant) : Prop :=
  ∃ i row, (requests i).Whole ∧ row.grant = g' ∧
    (i, .renewing g, .saveRefreshToken row) ∈ steps ports tr

/-- A request that stored the refresh token `g` for its grant signed with `c`. -/
def SignedFirst (g : Grant) (c : Call) : Prop :=
  ∃ i, (requests i).Whole ∧ (i, .issuing g, c) ∈ steps ports tr

/-- A renewal that narrows nothing signed with `c`, the refresh token `g` in hand. -/
def SignedAgain (g : Grant) (c : Call) : Prop :=
  ∃ i, (requests i).Whole ∧ (i, .renewing g, c) ∈ steps ports tr

end

theorem ghost_heldBy (ports : Ports) (u : TokenUseCase) (w : World) (clientId : String)
    (client : Client) (whole : Bool) (i : ι) (past : List (Event ι Call World)) :
    ghost (machine ports) (keepMonitor u ports w clientId client) ⟨whole, .nothing⟩ i past
      = ⟨whole, heldBy ports i past⟩ := by
  induction past with
  | nil => rfl
  | cons e past ih =>
      unfold ghost heldBy
      rw [ih]
      split <;> rfl

theorem mem_steps {ports : Ports} {tr : List (Event ι Call World)} {i : ι} {held : Held}
    {c : Call} (h : (i, held, c) ∈ steps ports tr) :
    ∃ later e past, tr = later ++ e :: past ∧ e.pid = i ∧ e.call = c ∧
      heldBy ports i past = held := by
  induction tr with
  | nil => cases h
  | cons e past ih =>
      rcases List.mem_cons.mp h with heq | hmem
      · cases heq
        exact ⟨[], e, past, rfl, rfl, rfl, rfl⟩
      · obtain ⟨later, e', past', htr, hrest⟩ := ih hmem
        exact ⟨e :: later, e', past', by rw [htr]; rfl, hrest⟩

/-- In any run each call suits the hand it is made with. -/
theorem steps_allowed {ports : Ports} {s : Server} {w : World} {requests : ι → Request}
    {clientId : String} {client : Client} (hrecord : RecordStays ports w clientId client)
    {tr : List (Event ι Call World)}
    {cfg : Config ι Call Reply (Stop TokenError) Answer World}
    (hrun : Run (machine ports) (s.traffic w requests) tr cfg) {i : ι} {held : Held} {c : Call}
    (h : (i, held, c) ∈ steps ports tr) (hwhole : (requests i).Whole) :
    (keepMonitor s.token ports w clientId client).ok ⟨true, held⟩ c := by
  have hallowed := hrun.allowed_on (m := keepMonitor s.token ports w clientId client)
    (fun v => v.clients = w.clients ∧ v.apiResources = w.apiResources)
    (fun i => serve_keeps s (requests i)) ⟨rfl, rfl⟩
    (by
      rintro v v' hv ⟨t, -, rfl⟩
      exact hv)
    (fun c v hv => ⟨(exec_clients ports c v).trans hv.1, (exec_apiResources ports c v).trans hv.2⟩)
    (by
      intro hand c v hv
      cases c
      case findClient id =>
          intro found hfound
          refine ⟨World.findClient_clientId hfound, ?_⟩
          rintro rfl
          refine hrecord v.clock found ?_
          have hfound' : World.findClient ports v id = some found := hfound
          unfold World.findClient at hfound' ⊢
          rwa [hv.1] at hfound'
      case findApiResources => exact hv.2
      all_goals trivial)
  obtain ⟨later, e, past, htr, rfl, rfl, rfl⟩ := mem_steps h
  have hok := hallowed.1 later e past htr
  rw [ghost_heldBy, decide_eq_true hwhole] at hok
  exact hok

/-- Along a chain of renewals the refresh tokens continue the first. -/
theorem chain_continues {ports : Ports} {s : Server} {w : World} {requests : ι → Request}
    {client : Client} {g₀ g : Grant} (hrecord : RecordStays ports w g₀.clientId client)
    {tr : List (Event ι Call World)}
    {cfg : Config ι Call Reply (Stop TokenError) Answer World}
    (hrun : Run (machine ports) (s.traffic w requests) tr cfg)
    (hchain : Relation.ReflTransGen (Renewed ports requests tr) g₀ g) : Continues g₀ g := by
  induction hchain with
  | refl => exact .refl g₀
  | tail chain renewed ih =>
      obtain ⟨i, row, hwhole, rfl, hmem⟩ := renewed
      exact ih.trans (steps_allowed hrecord hrun hmem hwhole rfl _ ih.clientId rfl)

theorem AccessOf.of_continues {u : TokenUseCase} {ports : Ports} {w : World} {client : Client}
    {g₀ g : Grant} {claims claims' : AccessTokenClaims} (hg : Continues g₀ g)
    (h : AccessOf u ports w client g₀ claims) (h' : AccessOf u ports w client g claims') :
    claims'.audience = claims.audience ∧ claims'.scopes = claims.scopes := by
  have haudience : u.audienceOf ports w client g = u.audienceOf ports w client g₀ := by
    unfold TokenUseCase.audienceOf
    rw [hg.scopes, hg.resourceUris]
  have hsame := h'.audience.symm.trans (haudience.trans h.audience)
  exact ⟨Except.ok.inj hsame, h'.scopes.trans (hg.scopes.trans h.scopes.symm)⟩

theorem IdentityOf.of_continues {u : TokenUseCase} {client : Client} {g₀ g : Grant}
    {claims claims' : IdTokenClaims} (hg : Continues g₀ g) (h : IdentityOf u client g₀ claims)
    (h' : IdentityOf u client g claims') :
    claims'.subject = claims.subject ∧ claims'.audience = claims.audience := by
  have hsubject := h'.subject
  rw [hg.subject, hg.subjectMaterial] at hsubject
  exact ⟨Except.ok.inj (hsubject.symm.trans h.subject), h'.audience.trans h.audience.symm⟩

/-- Along any chain of renewals that narrow nothing, in any run, the access tokens keep the
audience and the scopes of the first one and the `id_token`s its subject and audience; they
repeat no claims request, no authorization details, no `auth_time` and no `acr`. -/
theorem renewals_preserve (ports : Ports) (s : Server) (w : World) (requests : ι → Request)
    (client : Client) {g₀ g : Grant} (hrecord : RecordStays ports w g₀.clientId client)
    {tr : List (Event ι Call World)}
    {cfg : Config ι Call Reply (Stop TokenError) Answer World}
    (hrun : Run (machine ports) (s.traffic w requests) tr cfg)
    (hchain : Relation.ReflTransGen (Renewed ports requests tr) g₀ g) :
    (∀ first again, SignedFirst ports requests tr g₀ (.createAccessToken first) →
      SignedAgain ports requests tr g (.createAccessToken again) →
        again.audience = first.audience ∧ again.scopes = first.scopes ∧ again.Bare) ∧
      ∀ first again, SignedFirst ports requests tr g₀ (.createIdToken first) →
        SignedAgain ports requests tr g (.createIdToken again) →
          again.subject = first.subject ∧ again.audience = first.audience ∧ again.Bare := by
  have hcontinues := chain_continues hrecord hrun hchain
  constructor
  · rintro first again ⟨i, hi, hfirst⟩ ⟨j, hj, hagain⟩
    have haccess := (steps_allowed hrecord hrun hfirst hi rfl g₀ rfl).1 rfl
    obtain ⟨haccess', hbare⟩ :=
      (steps_allowed hrecord hrun hagain hj rfl g hcontinues.clientId).2 rfl
    obtain ⟨haudience, hscopes⟩ := haccess.of_continues hcontinues haccess'
    exact ⟨haudience, hscopes, hbare⟩
  · rintro first again ⟨i, hi, hfirst⟩ ⟨j, hj, hagain⟩
    have hidentity := (steps_allowed hrecord hrun hfirst hi rfl g₀ rfl).1 rfl
    obtain ⟨hidentity', hbare⟩ :=
      (steps_allowed hrecord hrun hagain hj rfl g hcontinues.clientId).2 rfl
    obtain ⟨hsubject, haudience⟩ := hidentity.of_continues hcontinues hidentity'
    exact ⟨hsubject, haudience, hbare⟩

/-! ## A code exchanged, then renewed -/

namespace Sample.Renewal

/-- A code of alice, who authenticated at 5, for an `id_token` and a refresh token. -/
def code : AuthorizationCode :=
  { Sample.authorizationCode with
    scopes := {Scope.openid, Scope.offlineAccess}
    authTime := 5 }

def world : World := { Sample.world with codes := Table.empty.save code }

/-- Process `false` exchanges the code, process `true` renews with the first value drawn. -/
def requests : Bool → Request
  | false => .token Sample.codeRequest
  | true => .token { Sample.refreshRequest with refreshToken := "v" }

def schedule : List Bool := List.replicate 9 false ++ List.replicate 9 true

def run : List (Event Bool Call World) × Config Bool Call Reply (Stop TokenError) Answer World :=
  Config.schedule (machine Sample.ports) schedule ([], Sample.server.traffic world requests)

theorem run_reached :
    Run (machine Sample.ports) (Sample.server.traffic world requests) run.1 run.2 :=
  Run.ofSchedule (machine Sample.ports) (Sample.server.traffic world requests) schedule

theorem record_stays : RecordStays Sample.ports world "app" Sample.client :=
  fun t _ hfound => Sample.client_of_findClient rfl t hfound

/-- The refresh token stored by the exchange, and again by the renewal. -/
def grant : Grant where
  clientId := "app"
  subject := "alice"
  subjectMaterial := ""
  scopes := {Scope.openid, Scope.offlineAccess}

/-- The refresh tokens stored in the run, the last first. -/
def stored : List (Bool × Held × Grant) :=
  (steps Sample.ports run.1).filterMap fun step =>
    match step.2.2 with
    | .saveRefreshToken row => some (step.1, step.2.1, row.grant)
    | _ => none

/-- The `auth_time` of the `id_token`s signed in the run, the last first. -/
def authTimes : List (Bool × Held × Int) :=
  (steps Sample.ports run.1).filterMap fun step =>
    match step.2.2 with
    | .createIdToken claims => some (step.1, step.2.1, claims.authTime)
    | _ => none

theorem stored_eq : stored = [(true, .renewing grant, grant), (false, .nothing, grant)] := by
  decide +kernel

theorem authTimes_eq :
    authTimes = [(true, .renewing grant, 0), (false, .issuing grant, 5)] := by
  decide +kernel

theorem of_mem_authTimes {i : Bool} {held : Held} {time : Int}
    (h : (i, held, time) ∈ authTimes) :
    ∃ claims, (i, held, Call.createIdToken claims) ∈ steps Sample.ports run.1 ∧
      claims.authTime = time := by
  obtain ⟨⟨j, held', c⟩, hmem, hstep⟩ := List.mem_filterMap.mp h
  cases c with
  | createIdToken claims =>
      cases hstep
      exact ⟨claims, hmem, rfl⟩
  | _ => cases hstep

theorem renewed : Renewed Sample.ports requests run.1 grant grant := by
  have h : (true, Held.renewing grant, grant) ∈ stored := by
    rw [stored_eq]
    exact List.mem_cons_self
  obtain ⟨⟨j, held', c⟩, hmem, hstep⟩ := List.mem_filterMap.mp h
  cases c with
  | saveRefreshToken row =>
      simp only [Option.some.injEq, Prod.mk.injEq] at hstep
      obtain ⟨rfl, rfl, hrow⟩ := hstep
      exact ⟨true, row, fun _ => ⟨rfl, rfl⟩, hrow, hmem⟩
  | _ => cases hstep

theorem first_signed : ∃ first,
    SignedFirst Sample.ports requests run.1 grant (.createIdToken first) ∧
      first.authTime = 5 := by
  have h : (false, Held.issuing grant, (5 : Int)) ∈ authTimes := by
    rw [authTimes_eq]
    exact List.mem_cons_of_mem _ List.mem_cons_self
  obtain ⟨first, hmem, htime⟩ := of_mem_authTimes h
  exact ⟨first, ⟨false, by decide, hmem⟩, htime⟩

theorem again_signed : ∃ again,
    SignedAgain Sample.ports requests run.1 grant (.createIdToken again) ∧
      again.authTime = 0 := by
  have h : (true, Held.renewing grant, (0 : Int)) ∈ authTimes := by
    rw [authTimes_eq]
    exact List.mem_cons_self
  obtain ⟨again, hmem, htime⟩ := of_mem_authTimes h
  exact ⟨again, ⟨true, by decide, hmem⟩, htime⟩

end Sample.Renewal

open Sample.Renewal in
/-- The renewal of an exchanged code: the `id_token` has the subject and the audience of the
first one, and nothing of the authentication. -/
theorem renewals_preserve_code : ∃ first again,
    SignedFirst Sample.ports requests run.1 grant (.createIdToken first) ∧
      SignedAgain Sample.ports requests run.1 grant (.createIdToken again) ∧
      again.subject = first.subject ∧ again.audience = first.audience ∧ again.Bare := by
  obtain ⟨first, hfirst, -⟩ := first_signed
  obtain ⟨again, hagain, -⟩ := again_signed
  have hkept := renewals_preserve Sample.ports Sample.server world requests Sample.client
    (show RecordStays Sample.ports world grant.clientId Sample.client from record_stays)
    run_reached (Relation.ReflTransGen.single renewed)
  exact ⟨first, again, hfirst, hagain, hkept.2 first again hfirst hagain⟩

open Sample.Renewal in
/-- The renewal of a code whose user authenticated at 5 has an `id_token` that does not say
so. -/
theorem authTime_not_preserved : ∃ first again,
    RecordStays Sample.ports world grant.clientId Sample.client ∧
      Run (machine Sample.ports) (Sample.server.traffic world requests) run.1 run.2 ∧
      Relation.ReflTransGen (Renewed Sample.ports requests run.1) grant grant ∧
      SignedFirst Sample.ports requests run.1 grant (.createIdToken first) ∧
      SignedAgain Sample.ports requests run.1 grant (.createIdToken again) ∧
      again.authTime ≠ first.authTime := by
  obtain ⟨first, hfirst, htime⟩ := first_signed
  obtain ⟨again, hagain, htime'⟩ := again_signed
  refine ⟨first, again, record_stays, run_reached, .single renewed, hfirst, hagain, ?_⟩
  rw [htime, htime']
  decide

end PurIdentityServer

import PurIdentityServer.Application.AuthorizeCalls
import PurIdentityServer.Lib.Endings

/-!
# AuthorizeOutcomes — the redirect, the error or the exception of an authorization

A request that is validated has its code stored first; then the tokens are
issued, and an exception or a refusal of that part comes after the write.
The hashes of the `id_token` follow its own algorithm, except that of the
access token, which follows the algorithm of the server.
-/

namespace PurIdentityServer

open Effects Effects.Prog

/-! ## Endings of a use case -/

/-- The use case lets an exception through. -/
def Stop.isRaised {ε : Type} : Stop ε → Bool
  | .refused _ => false
  | .raised _ => true

section Endings

variable (ports : Ports) {ε α β : Type}

/-- The program ends with an exception when `raised`, else with its error response. -/
abbrev Ends (raised : Bool) (p : M ε α) (w : World) : Prop :=
  Stops (exec ports) (fun stop => stop.isRaised = raised) p w

variable {ports} {raised : Bool} {w : World}

theorem ends_refuse {e : ε} : Ends ports raised (refuse e : M ε α) w ↔ raised = false := by
  unfold Ends refuse
  rw [stops_fail]
  exact eq_comm

theorem ends_raise {x : Raised} : Ends ports raised (raise x : M ε α) w ↔ raised = true := by
  unfold Ends raise
  rw [stops_fail]
  exact eq_comm

theorem ends_refuseIf_bind {b : Prop} [Decidable b] {e : ε} {f : Unit → M ε β} :
    Ends ports raised (refuseIf b e >>= f) w ↔
      (b ∧ raised = false) ∨ (¬ b ∧ Ends ports raised (f ()) w) := by
  unfold Ends refuseIf
  rw [stops_stopIf_bind]
  apply or_congr (and_congr_right' eq_comm) Iff.rfl

/-- A check that refuses at most, before what may raise. -/
theorem throws_refuseIf_bind {b : Prop} [Decidable b] {e : ε} {f : Unit → M ε β} :
    Ends ports true (refuseIf b e >>= f) w ↔ ¬ b ∧ Ends ports true (f ()) w := by
  rw [ends_refuseIf_bind]
  simp

theorem ends_bind {p : M ε α} {f : α → M ε β} :
    Ends ports raised (p >>= f) w ↔
      Ends ports raised p w ∨
        ∃ a w', p.run (exec ports) w = (.ok a, w') ∧ Ends ports raised (f a) w' :=
  stops_bind

theorem ends_bind_of_run {p : M ε α} {f : α → M ε β} {a : α} {w' : World}
    (h : p.run (exec ports) w = (.ok a, w')) :
    Ends ports raised (p >>= f) w ↔ Ends ports raised (f a) w' :=
  stops_bind_of_run h

theorem ends_bind_of_quiet {p : M ε α} {f : α → M ε β}
    (h : ∀ a w', ¬ Ends ports raised (f a) w') :
    Ends ports raised (p >>= f) w ↔ Ends ports raised p w :=
  stops_bind_of_quiet h

theorem ends_ask_bind {c : Call} {f : Reply c → M ε β} :
    Ends ports raised (ask c >>= f) w ↔
      Ends ports raised (f (exec ports c w).1) (exec ports c w).2 := Iff.rfl

theorem ends_orRefuse_bind {e : ε} {o : Option α} {f : α → M ε β} :
    Ends ports raised (orRefuse e o >>= f) w ↔
      (o = none ∧ raised = false) ∨ ∃ a, o = some a ∧ Ends ports raised (f a) w := by
  unfold Ends orRefuse
  rw [stops_getOr_bind]
  apply or_congr (and_congr_right' eq_comm) Iff.rfl

theorem ends_orRaise_bind {r : Raising α} {f : α → M ε β} :
    Ends ports raised (orRaise r >>= f) w ↔
      ((∃ x, r = .error x) ∧ raised = true) ∨ ∃ a, r = .ok a ∧ Ends ports raised (f a) w := by
  cases r with
  | error x =>
      show Ends ports raised (raise x >>= f) w ↔ _
      unfold Ends raise
      rw [fail_bind, stops_fail]
      simp [Stop.isRaised, eq_comm]
  | ok a =>
      show Ends ports raised (f a) w ↔ _
      simp

/-- A port, and nothing behind it. -/
theorem ends_orRaise {r : Raising α} :
    Ends ports raised (orRaise r : M ε α) w ↔ (∃ x, r = .error x) ∧ raised = true := by
  cases r with
  | error x =>
      show Ends ports raised (raise x : M ε α) w ↔ _
      rw [ends_raise]
      simp
  | ok a => exact iff_of_false (not_stops_pure a) fun h => nomatch h.1

/-- The program raises where `d` holds, and does not stop otherwise. -/
def RaisesIf (ports : Ports) (d : Prop) (p : M ε α) : Prop :=
  ∀ raised w, Ends ports raised p w ↔ d ∧ raised = true

theorem raisesIf_pure (a : α) : RaisesIf ports False (Pure.pure a : M ε α) := by
  intro raised w
  exact iff_of_false (not_stops_pure a) fun h => h.1

theorem raisesIf_ask (c : Call) : RaisesIf ports False (ask c : M ε (Reply c)) := by
  intro raised w
  apply iff_of_false
  · rintro ⟨stop, w', h, -⟩
    cases h
  · exact fun h => h.1

/-- A service raises, and nothing else of the call does. -/
theorem raisesIf_service {c : Call} {r : Raising α} {f : Reply c → M ε α}
    (hf : ∀ w, f (exec ports c w).1 = orRaise r) :
    RaisesIf ports (∃ x, r = .error x) (ask c >>= f : M ε α) := by
  intro raised w
  rw [ends_ask_bind, hf, ends_orRaise]

theorem raisesIf_bind {p : M ε α} {f : α → M ε β} {d c : Prop} (hp : RaisesIf ports d p)
    (hf : ∀ a, RaisesIf ports c (f a)) : RaisesIf ports (d ∨ c) (p >>= f) := by
  intro raised w
  rw [ends_bind, hp]
  constructor
  · rintro (⟨hd, hraised⟩ | ⟨a, w', -, hends⟩)
    · exact ⟨.inl hd, hraised⟩
    · obtain ⟨hc, hraised⟩ := (hf a raised w').mp hends
      exact ⟨.inr hc, hraised⟩
  · rintro ⟨hd | hc, hraised⟩
    · exact .inl ⟨hd, hraised⟩
    · by_cases hd : d
      · exact .inl ⟨hd, hraised⟩
      -- a program that does not stop answers
      · rcases hrun : p.run (exec ports) w with ⟨stop | a, w'⟩
        · exact absurd ((hp stop.isRaised w).mp ⟨stop, w', hrun, rfl⟩).1 hd
        · exact .inr ⟨a, w', rfl, (hf a raised w').mpr ⟨hc, hraised⟩⟩

theorem RaisesIf.congr {p : M ε α} {d d' : Prop} (hp : RaisesIf ports d p) (h : d ↔ d') :
    RaisesIf ports d' p := by
  intro raised w
  rw [hp, h]

theorem RaisesIf.map {p : M ε α} {d : Prop} (hp : RaisesIf ports d p) (f : α → β) :
    RaisesIf ports d (p >>= fun a => Pure.pure (f a)) :=
  (raisesIf_bind hp fun a => raisesIf_pure (f a)).congr (iff_of_eq (or_false d))

theorem run_orRaise_ok {r : Raising α} {a : α} {w' : World} :
    (orRaise r : M ε α).run (exec ports) w = (.ok a, w') ↔ r = .ok a ∧ w' = w := by
  cases r with
  | error x =>
      constructor
      · intro h
        cases h
      · rintro ⟨h, -⟩
        cases h
  | ok b =>
      constructor
      · intro h
        cases h
        exact ⟨rfl, rfl⟩
      · rintro ⟨h, rfl⟩
        cases h
        rfl

/-- A program of refusals raises nothing. -/
theorem not_throws_of_stopsWith {p : M ε α} (hp : p.StopsWith fun stop => stop.isRaised = false) :
    ¬ Ends ports true p w := by
  apply not_stops_of_stopsWith hp
  intro stop hrefused hraised
  rw [hrefused] at hraised
  cases hraised

end Endings

/-! ## Validation -/

section Validation

variable (ports : Ports) (p : Platform) (registry : Option ScopeRegistry)

/-- The profile of the client admits the response type and the challenge. -/
def ProfileAdmits (request : AuthorizeRequest) (client : Client) : Prop :=
  let plainChallenge := request.codeChallenge ≠ "" ∧ request.codeChallengeMethod ≠ "S256"
  if client.fapiEnabled then responseTypesOf request = {"code", "id_token"} ∧ ¬ plainChallenge
  else if client.fapi2Enabled then responseTypesOf request = {"code"} ∧ ¬ plainChallenge
  else True

/-- The request passes every check before that of its resources. -/
structure ReachesResources (request : AuthorizeRequest) (client : Client) : Prop where
  types : responseTypesOf request ∈ validResponseTypes
  mode : (resolveResponseMode request.responseMode (asksTokens request)).isSome
  active : client.isActive = true
  redirect : request.redirectUri ∈ client.redirectUris
  realm : ¬ (Scope.openid20 ∈ Scope.fromSpaceSeparated request.scope ∧
    request.openid2Realm ≠ "" ∧
    ¬∃ uri ∈ client.redirectUris, Text.startsWith uri request.openid2Realm = true)
  signed : ¬ (request.responseMode = "jwt" ∧ jarmSigningAlg client request.responseMode = "")
  profile : ProfileAdmits request client
  maxAge : ¬ request.maxAge < -1
  claims : ¬ (request.claims ≠ "" ∧ (parseClaimsParameter p request.claims).isNone)
  thumbprint : ¬ (request.dpopJkt ≠ "" ∧ ¬isThumbprint request.dpopJkt)
  challenge : ¬ (request.codeChallenge ≠ "" ∧ request.codeChallengeMethod ∉ ["S256", "plain"])
  details : ∃ details, parseAuthorizationDetails p request.authorizationDetails = .ok details
  asked : ¬ (request.scope = "" ∧ request.authorizationDetails = "")

/-- A resource of the request does not split. -/
def ResourceUnsplit (request : AuthorizeRequest) : Prop :=
  ∃ uri ∈ parseResourceParameter p request.resource, ∃ x, p.urlsplit uri = .error x

/-- The validation reaches a resource that does not split. -/
def ValidationRaises (request : AuthorizeRequest) (w : World) : Prop :=
  ∃ client, w.findClient ports request.clientId = some client ∧
    ReachesResources p request client ∧ ResourceUnsplit p request

variable {ports p registry} {request : AuthorizeRequest} {client : Client} {w : World}

theorem mem_parseResourceParameter_ne {value uri : String}
    (h : uri ∈ parseResourceParameter p value) : uri ≠ "" := by
  unfold parseResourceParameter at h
  dsimp only at h
  split at h
  · cases h
  · rcases Text.mem_dedupFirst.mp h with h | h
    · cases h
    · exact of_decide_eq_true (List.mem_filter.mp h).2

theorem malformedResources_error {resources : List String} (hne : ∀ uri ∈ resources, uri ≠ "") :
    (∃ x, malformedResources p resources = .error x) ↔
      ∃ uri ∈ resources, ∃ x, p.urlsplit uri = .error x := by
  induction resources with
  | nil =>
      constructor
      · exact nofun
      · rintro ⟨uri, huri, -⟩
        cases huri
  | cons uri rest ih =>
      have hcons : malformedResources p (uri :: rest) = (do
          let wellFormed ← isResourceUri p uri
          let others ← malformedResources p rest
          .ok (if wellFormed then others else uri :: others)) := rfl
      have hfirst : isResourceUri p uri = (do
          let parts ← p.urlsplit uri
          .ok (parts.scheme ≠ "" && parts.netloc ≠ "" && parts.fragment = "")) :=
        if_neg (hne uri List.mem_cons_self)
      rw [List.exists_mem_cons_iff, ← ih fun other hother => hne other
        (List.mem_cons_of_mem _ hother), hcons, hfirst]
      cases p.urlsplit uri with
      | error x => exact ⟨fun _ => .inl ⟨x, rfl⟩, fun _ => ⟨x, rfl⟩⟩
      | ok parts =>
          cases malformedResources p rest with
          | error x => exact ⟨fun _ => .inr ⟨x, rfl⟩, fun _ => ⟨x, rfl⟩⟩
          | ok others =>
              constructor
              · exact nofun
              · rintro (⟨x, h⟩ | ⟨x, h⟩)
                · cases h
                · cases h

theorem stopsWith_refuseIf {ε : Type} (b : Prop) [Decidable b] (e : ε) :
    (refuseIf b e : M ε Unit).StopsWith fun stop => stop.isRaised = false :=
  stopsWith_stopIf b rfl

theorem unknownResources_stopsWith {ε : Type} (registry : ScopeRegistry) (resources : List String) :
    (registry.unknownResources resources : M ε _).StopsWith fun stop => stop.isRaised = false := by
  unfold ScopeRegistry.unknownResources
  split
  · exact stopsWith_pure _ _
  · exact stopsWith_bind (stopsWith_op _ _) fun _ => stopsWith_pure _ _

theorem unknownScopes_stopsWith {ε : Type} (registry : ScopeRegistry) (scopes : Finset Scope) :
    (registry.unknownScopes scopes : M ε _).StopsWith fun stop => stop.isRaised = false := by
  refine stopsWith_bind ?_ fun _ => stopsWith_pure _ _
  unfold ScopeRegistry.knownScopeNames
  refine stopsWith_bind ?_ fun _ => stopsWith_bind ?_ fun _ => stopsWith_pure _ _
  · split
    · exact stopsWith_op _ _
    · exact stopsWith_pure _ _
  · split
    · exact stopsWith_op _ _
    · exact stopsWith_pure _ _

theorem checkScopes_stopsWith (scopes : Finset Scope) (wantsIdToken : Bool) (mode : ResponseMode) :
    (checkScopes registry request scopes wantsIdToken mode).StopsWith
      fun stop => stop.isRaised = false := by
  unfold checkScopes
  refine stopsWith_bind (stopsWith_refuseIf _ _) fun _ => ?_
  cases registry with
  | none => exact stopsWith_pure _ _
  | some registry =>
      exact stopsWith_bind (unknownScopes_stopsWith registry scopes) fun _ =>
        stopsWith_refuseIf _ _

theorem throws_checkResource {mode : ResponseMode} :
    Ends ports true (checkResource p registry request mode) w ↔ ResourceUnsplit p request := by
  unfold checkResource ResourceUnsplit
  rw [ends_orRaise_bind, ← malformedResources_error fun _ => mem_parseResourceParameter_ne]
  constructor
  · rintro (⟨h, -⟩ | ⟨malformed, -, hthrows⟩)
    · exact h
    · refine absurd hthrows (not_throws_of_stopsWith ?_)
      refine stopsWith_bind (stopsWith_refuseIf _ _) fun _ => ?_
      cases registry with
      | none => exact stopsWith_pure _ _
      | some registry =>
          exact stopsWith_bind (unknownResources_stopsWith registry _) fun _ =>
            stopsWith_refuseIf _ _
  · intro h
    exact .inl ⟨h, rfl⟩

theorem throws_checkClientRequest_bind {scopes : Finset Scope} {mode : ResponseMode} {β : Type}
    {f : Unit → M AuthorizeError β} :
    Ends ports true (checkClientRequest request client scopes mode >>= f) w ↔
      request.redirectUri ∈ client.redirectUris ∧
        ¬ (Scope.openid20 ∈ scopes ∧ request.openid2Realm ≠ "" ∧
          ¬∃ uri ∈ client.redirectUris, Text.startsWith uri request.openid2Realm = true) ∧
        Ends ports true (f ()) w := by
  unfold checkClientRequest
  rw [bind_assoc', throws_refuseIf_bind, throws_refuseIf_bind, not_not]

theorem throws_checkClientProfile_bind {mode : ResponseMode} {β : Type}
    {f : Unit → M AuthorizeError β} :
    Ends ports true (checkClientProfile request client (responseTypesOf request) mode >>= f) w ↔
      ProfileAdmits request client ∧ Ends ports true (f ()) w := by
  unfold checkClientProfile ProfileAdmits
  dsimp only
  split
  · rw [bind_assoc', throws_refuseIf_bind, throws_refuseIf_bind, ne_eq, not_not, and_assoc]
  · split
    · rw [bind_assoc', throws_refuseIf_bind, throws_refuseIf_bind, ne_eq, not_not, and_assoc]
    · show Ends ports true (f ()) w ↔ _
      rw [true_and]

theorem throws_checkParameters {mode : ResponseMode} :
    Ends ports true (checkParameters p registry request mode) w ↔
      ¬ request.maxAge < -1 ∧
      ¬ (request.claims ≠ "" ∧ (parseClaimsParameter p request.claims).isNone) ∧
      ¬ (request.dpopJkt ≠ "" ∧ ¬isThumbprint request.dpopJkt) ∧
      ¬ (request.codeChallenge ≠ "" ∧ request.codeChallengeMethod ∉ ["S256", "plain"]) ∧
      (∃ details, parseAuthorizationDetails p request.authorizationDetails = .ok details) ∧
      ¬ (request.scope = "" ∧ request.authorizationDetails = "") ∧ ResourceUnsplit p request := by
  unfold checkParameters
  rw [throws_refuseIf_bind, throws_refuseIf_bind, throws_refuseIf_bind, throws_refuseIf_bind]
  refine and_congr_right' (and_congr_right' (and_congr_right' (and_congr_right' ?_)))
  cases parseAuthorizationDetails p request.authorizationDetails with
  | error description =>
      dsimp only
      rw [ends_refuse]
      simp
  | ok details =>
      dsimp only
      rw [throws_refuseIf_bind, throws_checkResource]
      simp

/-- The validation raises at the resources, and nowhere else. -/
theorem throws_validateAuthorizationRequest :
    Ends ports true (validateAuthorizationRequest p registry request) w ↔
      ValidationRaises ports p request w := by
  unfold validateAuthorizationRequest ValidationRaises
  dsimp only
  rw [throws_refuseIf_bind, not_not]
  cases hmode : resolveResponseMode request.responseMode (asksTokens request) with
  | none =>
      dsimp only
      rw [ends_refuse]
      constructor
      · rintro ⟨-, h⟩
        cases h
      · rintro ⟨client, -, hreaches, -⟩
        have hsome := hreaches.mode
        rw [hmode] at hsome
        cases hsome
  | some mode =>
      have hsome : (resolveResponseMode request.responseMode (asksTokens request)).isSome := by
        rw [hmode]
        rfl
      dsimp only
      unfold validateForClient
      dsimp only
      rw [bind_assoc', ends_ask_bind, ends_orRefuse_bind, or_iff_right (fun h => nomatch h.2)]
      -- behind the resources the checks refuse at most
      have hquiet : ∀ (client : Client) (_ : Unit) (w : World), ¬ Ends ports true (do
          checkScopes registry request (Scope.fromSpaceSeparated request.scope)
            ("id_token" ∈ responseTypesOf request) mode
          refuseIf ("id_token" ∈ responseTypesOf request ∧ request.nonce = "")
            (authorizeError "invalid_request" request "nonce requis (OIDC Core 1.0 §3.2.2.10)"
              mode)
          Pure.pure
            { client := client
              responseTypes := responseTypesOf request
              hasTokens := asksTokens request
              wantsCode := "code" ∈ responseTypesOf request
              wantsIdToken := "id_token" ∈ responseTypesOf request
              wantsToken := "token" ∈ responseTypesOf request
              responseMode := mode : ValidatedAuthorization }) w := by
        intro client _ w
        apply not_throws_of_stopsWith
        exact stopsWith_bind (checkScopes_stopsWith _ _ _) fun _ =>
          stopsWith_bind (stopsWith_refuseIf _ _) fun _ => stopsWith_pure _ _
      constructor
      · rintro ⟨htypes, client, hclient, hthrows⟩
        rw [throws_refuseIf_bind, not_not, throws_checkClientRequest_bind, throws_refuseIf_bind,
          throws_checkClientProfile_bind, ends_bind_of_quiet (hquiet client),
          throws_checkParameters] at hthrows
        obtain ⟨hactive, hredirect, hrealm, hsigned, hprofile, hmaxAge, hclaims, hjkt, hchallenge,
          hdetails, hasked, hunsplit⟩ := hthrows
        exact ⟨client, hclient, ⟨htypes, hsome, hactive, hredirect, hrealm, hsigned, hprofile,
          hmaxAge, hclaims, hjkt, hchallenge, hdetails, hasked⟩, hunsplit⟩
      · rintro ⟨client, hclient, hreaches, hunsplit⟩
        refine ⟨hreaches.types, client, hclient, ?_⟩
        rw [throws_refuseIf_bind, not_not, throws_checkClientRequest_bind, throws_refuseIf_bind,
          throws_checkClientProfile_bind, ends_bind_of_quiet (hquiet client),
          throws_checkParameters]
        exact ⟨hreaches.active, hreaches.redirect, hreaches.realm, hreaches.signed,
          hreaches.profile, hreaches.maxAge, hreaches.claims, hreaches.thumbprint,
          hreaches.challenge, hreaches.details, hreaches.asked, hunsplit⟩

end Validation

namespace AuthorizeUseCase

/-! ## The claims of the `id_token` -/

section Claims

variable (u : AuthorizeUseCase) (ports : Ports)

/-- The directory of users is asked for the subject, and raises. -/
def UserClaimsRaise (subject : String) : Prop :=
  u.claimsProvider = true ∧ subject ≠ "" ∧ ∃ x, ports.getClaims subject = .error x

/-- The identity assurance is asked for verified claims, and raises. -/
def VerifiedClaimsRaise (claimsRequest : ClaimsRequest) (subject : String) : Prop :=
  u.identityAssurance = true ∧ ∃ member x,
    (claimsRequest.rawIdToken.find? fun m => m.1 = verifiedClaimsMember).map Prod.snd =
      some member ∧ ports.verifiedClaims member subject = .error x

/-- The table of identifiers of OpenID 2.0 is asked, and raises. -/
def OpenID20Raises (request : AuthorizeRequest) : Prop :=
  u.openid20Migration = true ∧ Scope.openid20 ∈ Scope.fromSpaceSeparated request.scope ∧
    ∃ x, ports.openid20Identifier request.subject request.openid2Realm = .error x

/-- A service that the claims of the `id_token` come from raises. -/
def ClaimsRaise (i : FrontIssuance) (wantsToken : Bool) : Prop :=
  (∃ claimsRequest, i.claimsRequest = some claimsRequest ∧
    ((claimsRequest.idToken ≠ [] ∧ u.UserClaimsRaise ports i.request.subject) ∨
      u.VerifiedClaimsRaise ports claimsRequest i.request.subject)) ∨
  (i.code = "" ∧ wantsToken = false ∧ u.UserClaimsRaise ports i.request.subject) ∨
  u.OpenID20Raises ports i.request

variable {u ports}

theorem resolveRequestedClaims_raisesIf (names : List String) (subject : String) :
    RaisesIf ports (names ≠ [] ∧ u.UserClaimsRaise ports subject)
      (resolveRequestedClaims names subject u.claimsProvider : M AuthorizeError _) := by
  unfold resolveRequestedClaims UserClaimsRaise
  by_cases hskip : names = [] ∨ ¬ u.claimsProvider = true ∨ subject = ""
  · rw [if_pos hskip]
    refine (raisesIf_pure _).congr (iff_of_false id ?_)
    rintro ⟨hnames, hprovider, hsubject, -⟩
    rcases hskip with h | h | h
    · exact hnames h
    · exact h hprovider
    · exact hsubject h
  · rw [if_neg hskip]
    rw [not_or, not_or, not_not] at hskip
    have hservice : RaisesIf ports (∃ x, ports.getClaims subject = .error x)
        (ask (.getClaims subject) >>= orRaise : M AuthorizeError _) :=
      raisesIf_service fun _ => rfl
    refine (hservice.map _).congr ⟨?_, ?_⟩
    · intro h
      exact ⟨hskip.1, hskip.2.1, hskip.2.2, h⟩
    · rintro ⟨-, -, -, h⟩
      exact h

theorem verifiedClaims_raisesIf (claimsRequest : ClaimsRequest) (subject : String) :
    RaisesIf ports (u.VerifiedClaimsRaise ports claimsRequest subject)
      (u.verifiedClaims claimsRequest subject) := by
  unfold verifiedClaims VerifiedClaimsRaise
  by_cases hassurance : u.identityAssurance = true
  · rw [if_neg (not_not.mpr hassurance)]
    cases (claimsRequest.rawIdToken.find? fun m => m.1 = verifiedClaimsMember).map Prod.snd with
    | none =>
        refine (raisesIf_pure _).congr (iff_of_false id ?_)
        rintro ⟨-, member, x, hmember, -⟩
        cases hmember
    | some member =>
        have hservice : RaisesIf ports (∃ x, ports.verifiedClaims member subject = .error x)
            (ask (.verifiedClaims member subject) >>= orRaise : M AuthorizeError _) :=
          raisesIf_service fun _ => rfl
        refine hservice.congr ⟨?_, ?_⟩
        · rintro ⟨x, h⟩
          exact ⟨hassurance, member, x, rfl, h⟩
        · rintro ⟨-, other, x, hother, h⟩
          cases hother
          exact ⟨x, h⟩
  · rw [if_pos hassurance]
    exact (raisesIf_pure _).congr (iff_of_false id fun h => hassurance h.1)

theorem requestedClaims_raisesIf (claimsRequest : Option ClaimsRequest) (subject : String)
    (additional : List (String × Json)) :
    RaisesIf ports
      (∃ request, claimsRequest = some request ∧
        ((request.idToken ≠ [] ∧ u.UserClaimsRaise ports subject) ∨
          u.VerifiedClaimsRaise ports request subject))
      (u.requestedClaims claimsRequest subject additional) := by
  unfold requestedClaims
  cases claimsRequest with
  | none =>
      refine (raisesIf_pure _).congr (iff_of_false id ?_)
      rintro ⟨request, hrequest, -⟩
      cases hrequest
  | some request =>
      have hresolved : RaisesIf ports (request.idToken ≠ [] ∧ u.UserClaimsRaise ports subject)
          (resolveRequestedClaims request.idToken subject u.claimsProvider : M AuthorizeError _) :=
        resolveRequestedClaims_raisesIf _ _
      have hverified : RaisesIf ports (u.VerifiedClaimsRaise ports request subject)
          (u.verifiedClaims request subject) := verifiedClaims_raisesIf _ _
      refine (raisesIf_bind hresolved fun resolved => raisesIf_bind hverified
        fun verified => (?_ : RaisesIf ports False _)).congr ⟨?_, ?_⟩
      · cases verified with
        | none => exact raisesIf_pure _
        | some claims => exact raisesIf_pure _
      · rintro (h | h | h)
        · exact ⟨request, rfl, .inl h⟩
        · exact ⟨request, rfl, .inr h⟩
        · exact h.elim
      · rintro ⟨other, hother, h⟩
        cases hother
        rcases h with h | h
        · exact .inl h
        · exact .inr (.inl h)

theorem scopeClaimsForSubject_raisesIf (scope subject : String) :
    RaisesIf ports (u.UserClaimsRaise ports subject) (u.scopeClaimsForSubject scope subject) := by
  unfold scopeClaimsForSubject UserClaimsRaise
  by_cases hskip : ¬ u.claimsProvider = true ∨ subject = ""
  · rw [if_pos hskip]
    refine (raisesIf_pure _).congr (iff_of_false id ?_)
    rintro ⟨hprovider, hsubject, -⟩
    rcases hskip with h | h
    · exact h hprovider
    · exact hsubject h
  · rw [if_neg hskip]
    rw [not_or, not_not] at hskip
    have hallowed : RaisesIf ports False (u.allowedScopeClaims scope) := by
      refine RaisesIf.map ?_ _
      split
      · exact raisesIf_ask _
      · exact raisesIf_pure _
    have hservice : RaisesIf ports (∃ x, ports.getClaims subject = .error x)
        (ask (.getClaims subject) >>= orRaise : M AuthorizeError _) :=
      raisesIf_service fun _ => rfl
    refine (raisesIf_bind hallowed fun _ => hservice.map _).congr ⟨?_, ?_⟩
    · rintro (h | h)
      · exact h.elim
      · exact ⟨hskip.1, hskip.2, h⟩
    · rintro ⟨-, -, h⟩
      exact .inr h

theorem openid20Identifier_raisesIf (request : AuthorizeRequest) :
    RaisesIf ports (u.OpenID20Raises ports request) (u.openid20Identifier request) := by
  unfold openid20Identifier OpenID20Raises
  by_cases hmigration : u.openid20Migration = true
  · rw [if_neg (not_not.mpr hmigration)]
    by_cases hscope : Scope.openid20 ∈ Scope.fromSpaceSeparated request.scope
    · rw [if_neg (not_not.mpr hscope)]
      have hservice : RaisesIf ports
          (∃ x, ports.openid20Identifier request.subject request.openid2Realm = .error x)
          (ask (.openid20Identifier request.subject request.openid2Realm) >>= orRaise :
            M AuthorizeError _) := raisesIf_service fun _ => rfl
      refine hservice.congr ⟨?_, ?_⟩
      · intro h
        exact ⟨hmigration, hscope, h⟩
      · rintro ⟨-, -, h⟩
        exact h
    · rw [if_pos hscope]
      exact (raisesIf_pure _).congr (iff_of_false id fun h => hscope h.2.1)
  · rw [if_pos hmigration]
    exact (raisesIf_pure _).congr (iff_of_false id fun h => hmigration h.1)

theorem additionalIdTokenClaims_raisesIf (i : FrontIssuance) (wantsToken : Bool) :
    RaisesIf ports (u.ClaimsRaise ports i wantsToken)
      (u.additionalIdTokenClaims i wantsToken) := by
  have hgranted : RaisesIf ports
      (i.code = "" ∧ wantsToken = false ∧ u.UserClaimsRaise ports i.request.subject)
      (if i.code = "" ∧ ¬ wantsToken = true then
        u.scopeClaimsForSubject i.request.scope i.request.subject
        else Pure.pure [] : M AuthorizeError (List (String × Json))) := by
    by_cases halone : i.code = "" ∧ ¬ wantsToken = true
    · rw [if_pos halone]
      refine (scopeClaimsForSubject_raisesIf _ _).congr ⟨?_, ?_⟩
      · intro h
        exact ⟨halone.1, Bool.eq_false_iff.mpr halone.2, h⟩
      · rintro ⟨-, -, h⟩
        exact h
    · rw [if_neg halone]
      refine (raisesIf_pure _).congr (iff_of_false id ?_)
      rintro ⟨hcode, htoken, -⟩
      exact halone ⟨hcode, Bool.eq_false_iff.mp htoken⟩
  exact raisesIf_bind (requestedClaims_raisesIf _ _ _) fun _ =>
    raisesIf_bind hgranted fun _ => (openid20Identifier_raisesIf i.request).map _

end Claims

/-! ## The material of the `id_token` -/

section Material

variable (u : AuthorizeUseCase) (ports : Ports) (client : Client)

/-- The algorithm that signs the tokens of the client. -/
def idTokenAlgorithm : JWTAlgorithm :=
  (JWTAlgorithm.ofValue? client.idTokenSignedResponseAlg).getD u.config.signingAlgorithm

/-- The tokens of the client are signed with its secret. -/
def SignsWithSecret (client : Client) : Prop :=
  ∃ algorithm, JWTAlgorithm.ofValue? client.idTokenSignedResponseAlg = some algorithm ∧
    algorithm.isSymmetric = true

/-- The secret of the client is stored, and there is a cipher. -/
def SecretAtHand : Prop := u.config.secretCipher = true ∧ client.clientSecretCiphertext ≠ ""

/-- The secret that signs is not at hand. -/
def SecretMissing : Prop := SignsWithSecret client ∧ ¬ u.SecretAtHand client

/-- The secret that signs is not deciphered. -/
def SecretRaises : Prop :=
  SignsWithSecret client ∧ u.SecretAtHand client ∧
    ∃ x, ports.decryptSecret client.clientSecretCiphertext = .error x

/-- The shared secret of a signature. -/
def SharedSecret (secret : String) : Prop :=
  (¬ SignsWithSecret client ∧ secret = "") ∨
    (SignsWithSecret client ∧ u.SecretAtHand client ∧
      ports.decryptSecret client.clientSecretCiphertext = .ok secret)

/-- `JWEUnavailableError` of `encrypt_id_token_for_client`. -/
def materialUnavailable : Raised :=
  .jweUnavailable "matériel de chiffrement d'id_token indisponible"

/-- The encryption of a signed token raises `x`. -/
def EncryptionError (signed : String) (x : Raised) : Prop :=
  client.idTokenEncryptedResponseAlg ≠ "" ∧
    if u.config.idTokenEncrypter = false then
      x = .jweUnavailable "aucun chiffreur d'id_token disponible"
    else
      match JWEKeyManagementAlgorithm.ofValue? client.idTokenEncryptedResponseAlg,
        resolveMethod client.idTokenEncryptedResponseEnc with
      | some algorithm, some _ =>
          if algorithm.isAsymmetric = true then ports.encryptIdToken signed client "" = .error x
          else if u.config.secretCipher = true ∧ client.clientSecretCiphertext ≠ "" then
            ports.decryptSecret client.clientSecretCiphertext = .error x ∨
              ∃ secret, ports.decryptSecret client.clientSecretCiphertext = .ok secret ∧
                ports.encryptIdToken signed client secret = .error x
          else x = materialUnavailable
      | _, _ => x = materialUnavailable

/-- The encryption is not available, which is answered with an error. -/
def EncryptionUnavailable (signed : String) : Prop :=
  ∃ message, u.EncryptionError ports client signed (.jweUnavailable message)

/-- The encryption raises something else. -/
def EncryptionRaises (signed : String) : Prop :=
  ∃ x, u.EncryptionError ports client signed x ∧ ∀ message, x ≠ .jweUnavailable message

variable {u ports client} {w : World}

theorem ofValue?_empty : JWTAlgorithm.ofValue? "" = none := by decide

/-- The three outcomes of the lookup of the signing material. -/
theorem ends_material_bind {e : AuthorizeError} {β : Type} {raised : Bool}
    {f : JWTAlgorithm × String → M AuthorizeError β} :
    Ends ports raised (resolveIdTokenMaterial client u.config.signingAlgorithm
        u.config.secretCipher >>= orRefuse e >>= f) w ↔
      (u.SecretMissing client ∧ raised = false) ∨ (u.SecretRaises ports client ∧ raised = true) ∨
        ∃ secret, u.SharedSecret ports client secret ∧
          Ends ports raised (f (u.idTokenAlgorithm client, secret)) w := by
  unfold resolveIdTokenMaterial
  dsimp only
  by_cases hsigns : SignsWithSecret client
  · obtain ⟨algorithm, hvalue, hsymmetric⟩ := hsigns
    have hsigns : SignsWithSecret client := ⟨algorithm, hvalue, hsymmetric⟩
    have hne : client.idTokenSignedResponseAlg ≠ "" := by
      intro hempty
      rw [hempty, ofValue?_empty] at hvalue
      cases hvalue
    have halgorithm : u.idTokenAlgorithm client = algorithm := by
      unfold idTokenAlgorithm
      rw [hvalue]
      rfl
    rw [if_neg hne, hvalue, halgorithm]
    dsimp only
    rw [if_neg (not_not.mpr hsymmetric)]
    by_cases hhand : u.SecretAtHand client
    · rw [if_neg (by rw [not_or, not_not]; exact hhand)]
      rw [bind_assoc', bind_assoc']
      show Ends ports raised (orRaise (ports.decryptSecret client.clientSecretCiphertext) >>= _) w
        ↔ _
      have hstored : ¬ (u.SecretMissing client ∧ raised = false) := fun h => h.1.2 hhand
      rw [ends_orRaise_bind, or_iff_right hstored]
      apply or_congr
      · apply and_congr_left'
        constructor
        · intro h
          exact ⟨hsigns, hhand, h⟩
        · rintro ⟨-, -, h⟩
          exact h
      · apply exists_congr
        intro secret
        apply and_congr_left'
        constructor
        · intro h
          exact .inr ⟨hsigns, hhand, h⟩
        · rintro (⟨h, -⟩ | ⟨-, -, h⟩)
          · exact absurd hsigns h
          · exact h
    · have hmissing : ¬ u.config.secretCipher = true ∨ client.clientSecretCiphertext = "" := by
        unfold SecretAtHand at hhand
        rw [not_and_or, not_not] at hhand
        exact hhand
      rw [if_pos hmissing]
      show Ends ports raised (refuse e : M AuthorizeError β) w ↔ _
      rw [ends_refuse]
      constructor
      · intro h
        exact .inl ⟨⟨hsigns, hhand⟩, h⟩
      · rintro (⟨-, h⟩ | ⟨⟨-, h, -⟩, -⟩ | ⟨secret, ⟨h, -⟩ | ⟨-, h, -⟩, -⟩)
        · exact h
        · exact absurd h hhand
        · exact absurd hsigns h
        · exact absurd h hhand
  · -- without a shared secret the algorithm is all there is
    have hplain : ∀ algorithm : JWTAlgorithm, u.idTokenAlgorithm client = algorithm →
        (Ends ports raised (f (algorithm, "")) w ↔
          (u.SecretMissing client ∧ raised = false) ∨
            (u.SecretRaises ports client ∧ raised = true) ∨
            ∃ secret, u.SharedSecret ports client secret ∧
              Ends ports raised (f (u.idTokenAlgorithm client, secret)) w) := by
      rintro _ rfl
      constructor
      · intro h
        exact .inr (.inr ⟨"", .inl ⟨hsigns, rfl⟩, h⟩)
      · rintro (⟨⟨h, -⟩, -⟩ | ⟨⟨h, -⟩, -⟩ | ⟨secret, ⟨-, rfl⟩ | ⟨h, -⟩, hends⟩)
        · exact absurd h hsigns
        · exact absurd h hsigns
        · exact hends
        · exact absurd h hsigns
    by_cases hempty : client.idTokenSignedResponseAlg = ""
    · rw [if_pos hempty]
      apply hplain
      unfold idTokenAlgorithm
      rw [hempty, ofValue?_empty]
      rfl
    · rw [if_neg hempty]
      cases hvalue : JWTAlgorithm.ofValue? client.idTokenSignedResponseAlg with
      | none =>
          apply hplain
          unfold idTokenAlgorithm
          rw [hvalue]
          rfl
      | some algorithm =>
          dsimp only
          rw [if_pos fun h => hsigns ⟨algorithm, hvalue, h⟩]
          apply hplain
          unfold idTokenAlgorithm
          rw [hvalue]
          rfl

/-- The errors of the encryption are exceptions, those of `EncryptionError`. -/
theorem stops_encryptIdTokenForClient {P : Stop AuthorizeError → Prop} {signed : String} :
    Stops (exec ports) P (encryptIdTokenForClient signed client u.config.secretCipher
        u.config.idTokenEncrypter) w ↔
      ∃ x, u.EncryptionError ports client signed x ∧ P (.raised x) := by
  have hraise : ∀ {c : Raised → Prop} {x : Raised}, (∀ y, c y ↔ y = x) →
      (Stops (exec ports) P (raise x : M AuthorizeError String) w ↔ ∃ y, c y ∧ P (.raised y)) := by
    intro c x hc
    unfold raise
    rw [stops_fail]
    simp [hc]
  have hservice : ∀ secret : String,
      (Stops (exec ports) P (ask (.encryptIdToken signed client secret) >>= orRaise) w ↔
        ∃ x, ports.encryptIdToken signed client secret = .error x ∧ P (.raised x)) := by
    intro secret
    show Stops (exec ports) P (orRaise (ports.encryptIdToken signed client secret)) w ↔ _
    cases ports.encryptIdToken signed client secret with
    | ok a =>
        apply iff_of_false (not_stops_pure a)
        rintro ⟨x, h, -⟩
        cases h
    | error x =>
        unfold orRaise raise
        rw [stops_fail]
        simp
  unfold encryptIdTokenForClient EncryptionError
  by_cases hplain : client.idTokenEncryptedResponseAlg = ""
  · rw [if_pos hplain]
    apply iff_of_false (not_stops_pure signed)
    rintro ⟨x, ⟨hne, -⟩, -⟩
    exact hne hplain
  rw [if_neg hplain]
  simp only [ne_eq, hplain, not_false_eq_true, true_and]
  by_cases hencrypter : u.config.idTokenEncrypter = true
  swap
  · rw [if_pos hencrypter]
    apply hraise
    intro y
    rw [if_pos (Bool.eq_false_iff.mpr hencrypter)]
  rw [if_neg (not_not.mpr hencrypter)]
  simp only [hencrypter, Bool.true_eq_false, if_false]
  unfold resolveIdTokenEncryption
  cases JWEKeyManagementAlgorithm.ofValue? client.idTokenEncryptedResponseAlg with
  | none =>
      apply hraise
      intro y
      exact Iff.rfl
  | some algorithm =>
      cases resolveMethod client.idTokenEncryptedResponseEnc with
      | none =>
          apply hraise
          intro y
          exact Iff.rfl
      | some method =>
          dsimp only
          by_cases hasymmetric : algorithm.isAsymmetric = true
          · simp only [hasymmetric, if_true]
            exact hservice ""
          · simp only [hasymmetric]
            by_cases hhand : u.config.secretCipher = true ∧ client.clientSecretCiphertext ≠ ""
            · have hskip : ¬ (¬ u.config.secretCipher = true ∨
                  client.clientSecretCiphertext = "") := by
                rw [not_or, not_not]
                exact hhand
              simp only [if_neg hskip, if_pos hhand, Bool.false_eq_true, if_false]
              rw [bind_assoc', bind_assoc']
              show Stops (exec ports) P
                (orRaise (ports.decryptSecret client.clientSecretCiphertext) >>= _) w ↔ _
              cases ports.decryptSecret client.clientSecretCiphertext with
              | error x =>
                  show Stops (exec ports) P (.fail (.raised x)) w ↔ _
                  rw [stops_fail]
                  simp
              | ok secret =>
                  show Stops (exec ports) P
                    (ask (.encryptIdToken signed client secret) >>= orRaise) w ↔ _
                  rw [hservice]
                  simp
            · have hskip : ¬ u.config.secretCipher = true ∨
                  client.clientSecretCiphertext = "" := by
                rw [not_and_or, not_not] at hhand
                exact hhand
              simp only [if_pos hskip, if_neg hhand, Bool.false_eq_true, if_false]
              apply hraise
              intro y
              exact Iff.rfl

theorem ends_encryption {signed : String} {e : AuthorizeError} {raised : Bool} :
    Ends ports raised (catchJwe (encryptIdTokenForClient signed client u.config.secretCipher
        u.config.idTokenEncrypter) (refuse e)) w ↔
      (u.EncryptionUnavailable ports client signed ∧ raised = false) ∨
        (u.EncryptionRaises ports client signed ∧ raised = true) := by
  unfold catchJwe Ends
  rw [stops_handle]
  have herror : ∀ P : Stop AuthorizeError → Prop,
      Stops (exec ports) P (encryptIdTokenForClient signed client u.config.secretCipher
        u.config.idTokenEncrypter) w ↔
      ∃ x, u.EncryptionError ports client signed x ∧ P (.raised x) :=
    fun _ => stops_encryptIdTokenForClient
  constructor
  · rintro ⟨stop, w', hrun, hends⟩
    obtain ⟨x, hx, rfl⟩ := (herror (· = stop)).mp ⟨stop, w', hrun, rfl⟩
    cases x with
    | jweUnavailable message =>
        rw [show raised = false from ends_refuse.mp hends]
        exact .inl ⟨⟨message, hx⟩, rfl⟩
    | authorizationDetails message =>
        change Ends ports raised (raise (.authorizationDetails message) : M AuthorizeError String) w' at hends
        exact .inr ⟨⟨_, hx, nofun⟩, ends_raise.mp hends⟩
    | other message =>
        change Ends ports raised (raise (.other message) : M AuthorizeError String) w' at hends
        exact .inr ⟨⟨_, hx, nofun⟩, ends_raise.mp hends⟩
  · rintro (⟨⟨message, hx⟩, rfl⟩ | ⟨⟨x, hx, hother⟩, rfl⟩)
    · obtain ⟨stop, w', hrun, rfl⟩ := (herror (· = .raised (.jweUnavailable message))).mpr
        ⟨_, hx, rfl⟩
      exact ⟨_, w', hrun, ends_refuse.mpr rfl⟩
    · obtain ⟨stop, w', hrun, rfl⟩ := (herror (· = .raised x)).mpr ⟨_, hx, rfl⟩
      refine ⟨_, w', hrun, ?_⟩
      cases x with
      | jweUnavailable message => exact absurd rfl (hother message)
      | authorizationDetails message => exact stops_fail.mpr rfl
      | other message => exact stops_fail.mpr rfl

/-- One of the three outcomes is the case. -/
theorem secret_cases (u : AuthorizeUseCase) (ports : Ports) (client : Client) :
    u.SecretMissing client ∨ u.SecretRaises ports client ∨
      ∃ secret, u.SharedSecret ports client secret := by
  by_cases hsigns : SignsWithSecret client
  · by_cases hhand : u.SecretAtHand client
    · cases hsecret : ports.decryptSecret client.clientSecretCiphertext with
      | error x => exact .inr (.inl ⟨hsigns, hhand, x, hsecret⟩)
      | ok secret => exact .inr (.inr ⟨secret, .inr ⟨hsigns, hhand, hsecret⟩⟩)
    · exact .inl ⟨hsigns, hhand⟩
  · exact .inr (.inr ⟨"", .inl ⟨hsigns, rfl⟩⟩)

/-- With its secret at hand the material is the algorithm and the secret. -/
theorem material_run {secret : String} (h : u.SharedSecret ports client secret) :
    (resolveIdTokenMaterial client u.config.signingAlgorithm u.config.secretCipher :
      M AuthorizeError _).run (exec ports) w = (.ok (some (u.idTokenAlgorithm client, secret)), w) := by
  unfold resolveIdTokenMaterial idTokenAlgorithm
  dsimp only
  rcases h with ⟨hsigns, rfl⟩ | ⟨⟨algorithm, hvalue, hsymmetric⟩, ⟨hcipher, hstored⟩, hsecret⟩
  · split
    · rename_i hempty
      rw [hempty, ofValue?_empty]
      rfl
    · split
      · rename_i hvalue
        rw [hvalue]
        rfl
      · rename_i algorithm hvalue
        rw [if_pos fun h => hsigns ⟨algorithm, hvalue, h⟩, hvalue]
        rfl
  · have hne : client.idTokenSignedResponseAlg ≠ "" := by
      intro hempty
      rw [hempty, ofValue?_empty] at hvalue
      cases hvalue
    rw [if_neg hne, hvalue]
    dsimp only
    rw [if_neg (not_not.mpr hsymmetric), if_neg (by rw [not_or, not_not]; exact ⟨hcipher, hstored⟩)]
    show ((orRaise (ports.decryptSecret client.clientSecretCiphertext) : M AuthorizeError String) >>=
      fun secret => Pure.pure (some (algorithm, secret))).run (exec ports) w = _
    rw [hsecret]
    rfl

/-- A material that is found is the algorithm and the secret. -/
theorem material_run_ok {e : AuthorizeError} {material : JWTAlgorithm × String} {w₁ : World}
    (h : (resolveIdTokenMaterial client u.config.signingAlgorithm u.config.secretCipher >>=
      orRefuse e).run (exec ports) w = (.ok material, w₁)) :
    ∃ secret, u.SharedSecret ports client secret ∧
      material = (u.idTokenAlgorithm client, secret) ∧ w₁ = w := by
  have hnot : ∀ raised, ¬ Ends ports raised (resolveIdTokenMaterial client
      u.config.signingAlgorithm u.config.secretCipher >>= orRefuse e >>=
        fun found => Pure.pure found) w := by
    rintro raised ⟨stop, w', hstop, -⟩
    rw [run_bind, h] at hstop
    cases hstop
  rcases secret_cases u ports client with hmissing | hraises | ⟨secret, hsecret⟩
  · exact absurd (ends_material_bind.mpr (.inl ⟨hmissing, rfl⟩)) (hnot false)
  · exact absurd (ends_material_bind.mpr (.inr (.inl ⟨hraises, rfl⟩))) (hnot true)
  · refine ⟨secret, hsecret, ?_⟩
    obtain ⟨found, w₂, hfound, hgiven⟩ := run_bind_ok.mp h
    rw [material_run hsecret] at hfound
    cases hfound
    cases hgiven
    exact ⟨rfl, rfl⟩

end Material

/-! ## Hashes -/

section Hashes

variable (u : AuthorizeUseCase)

/-- The hash of a value for an algorithm; without a signature there is none. -/
def artefactHash (algorithm : JWTAlgorithm) (value : String) : String :=
  if algorithm = .none then "" else u.halfDigest algorithm value

/-- The hash of a value there is. -/
def presentHash (algorithm : JWTAlgorithm) (value : String) : String :=
  if value = "" then "" else u.artefactHash algorithm value

/-- The value is to be hashed and is not in ASCII. -/
def Unhashable (algorithm : JWTAlgorithm) (value : String) : Prop :=
  algorithm ≠ .none ∧ Text.isAscii value = false

variable {u} {algorithm : JWTAlgorithm} {value hash : String}

theorem hashArtefact_error :
    (∃ x, u.hashArtefact value algorithm = .error x) ↔ Unhashable algorithm value := by
  unfold hashArtefact Unhashable
  by_cases hnone : algorithm = .none
  · rw [if_pos hnone]
    exact iff_of_false nofun fun h => h.1 hnone
  · rw [if_neg hnone, and_iff_right hnone]
    cases Text.isAscii value with
    | true => exact iff_of_false nofun nofun
    | false => exact iff_of_true ⟨_, rfl⟩ rfl

theorem hashArtefact_ok :
    u.hashArtefact value algorithm = .ok hash ↔
      ¬ Unhashable algorithm value ∧ hash = u.artefactHash algorithm value := by
  unfold hashArtefact Unhashable artefactHash
  by_cases hnone : algorithm = .none
  · rw [if_pos hnone, if_pos hnone, and_iff_right fun h => h.1 hnone]
    exact ⟨fun h => (Except.ok.inj h).symm, fun h => congrArg _ h.symm⟩
  · rw [if_neg hnone, if_neg hnone]
    cases Text.isAscii value with
    | true =>
        rw [if_pos rfl, and_iff_right fun h => nomatch h.2]
        exact ⟨fun h => (Except.ok.inj h).symm, fun h => congrArg _ h.symm⟩
    | false => exact iff_of_false nofun fun h => h.1 ⟨hnone, rfl⟩

theorem unhashable_empty : ¬ Unhashable algorithm "" := fun h => nomatch h.2

theorem hashPresent_error :
    (∃ x, u.hashPresent value algorithm = .error x) ↔ Unhashable algorithm value := by
  unfold hashPresent
  by_cases hempty : value = ""
  · rw [if_pos hempty, hempty]
    exact iff_of_false nofun unhashable_empty
  · rw [if_neg hempty, hashArtefact_error]

theorem hashPresent_ok :
    u.hashPresent value algorithm = .ok hash ↔
      ¬ Unhashable algorithm value ∧ hash = u.presentHash algorithm value := by
  unfold hashPresent presentHash
  by_cases hempty : value = ""
  · rw [if_pos hempty, if_pos hempty, hempty, and_iff_right unhashable_empty]
    constructor
    · intro h
      exact (Except.ok.inj h).symm
    · rintro rfl
      rfl
  · rw [if_neg hempty, if_neg hempty, hashArtefact_ok]

end Hashes

/-! ## The issuance -/

section Issuance

variable (u : AuthorizeUseCase) (ports : Ports) (i : FrontIssuance) (wantsToken : Bool)

/-- The claims `_issue_tokens` has signed; `atHash` is the hash of the access token. -/
def Signs (atHash : String) (w : World) (claims : IdTokenClaims) : Prop :=
  ∃ secret subject additional w', u.SharedSecret ports i.client secret ∧
    displaySubject u.platform i.client i.request.subject i.subjectMaterial
      u.config.subjectSeed = .ok subject ∧
    ¬ Unhashable (u.idTokenAlgorithm i.client) i.code ∧
    ¬ Unhashable (u.idTokenAlgorithm i.client) i.request.state ∧
    (u.additionalIdTokenClaims i wantsToken).run (exec ports) w = (.ok additional, w') ∧
    claims =
      { algorithm := u.idTokenAlgorithm i.client
        issuer := u.config.issuer
        subject := subject
        audience := i.client.clientId
        expiresAt := Instant.epoch (i.now + seconds (u.tokenTtl i.client))
        issuedAt := Instant.epoch i.now
        nonce := i.request.nonce
        sessionId := i.request.sessionId
        authTime := i.request.authTime
        atHash := atHash
        cHash := u.presentHash (u.idTokenAlgorithm i.client) i.code
        sHash := u.presentHash (u.idTokenAlgorithm i.client) i.request.state
        sharedSecret := secret
        additionalClaims := additional }

/-- The signature of the `id_token` ends with an exception: of the secret, of the sector of the
subject, of a value that is not in ASCII, of the claims or of the signing service. -/
def SignRaises (atHash : String) (w : World) : Prop :=
  u.SecretRaises ports i.client ∨
    ((∃ secret, u.SharedSecret ports i.client secret) ∧
      ((∃ x, displaySubject u.platform i.client i.request.subject i.subjectMaterial
          u.config.subjectSeed = .error x) ∨
        Unhashable (u.idTokenAlgorithm i.client) i.code ∨
        Unhashable (u.idTokenAlgorithm i.client) i.request.state ∨
        u.ClaimsRaise ports i wantsToken)) ∨
    ∃ claims, u.Signs ports i wantsToken atHash w claims ∧
      ∃ x, ports.createIdToken claims = .error x

/-- The `id_token` ends with an exception. -/
def IdTokenRaises (atHash : String) (w : World) : Prop :=
  u.SignRaises ports i wantsToken atHash w ∨
    ∃ claims signed, u.Signs ports i wantsToken atHash w claims ∧
      ports.createIdToken claims = .ok signed ∧ u.EncryptionRaises ports i.client signed

/-- The `id_token` is refused: the secret or the encryption is missing. -/
def IdTokenRefused (atHash : String) (w : World) : Prop :=
  u.SecretMissing i.client ∨
    ∃ claims signed, u.Signs ports i wantsToken atHash w claims ∧
      ports.createIdToken claims = .ok signed ∧ u.EncryptionUnavailable ports i.client signed

/-- The access token and its hash, when a token is asked for, and the state they leave. -/
def Issues (w : World) (token atHash : String) (w₁ : World) : Prop :=
  if wantsToken = true then
    ∃ audience w', (u.resolveAudience i.client i.scopes i.request.resource).run (exec ports) w =
        (.ok audience, w') ∧
      ports.createAccessToken (u.accessTokenClaims i audience) w'.draws = .ok token ∧
      ¬ Unhashable u.config.signingAlgorithm token ∧
      atHash = u.artefactHash u.config.signingAlgorithm token ∧
      w₁ = { w' with draws := w'.draws + 1 }
  else token = "" ∧ atHash = "" ∧ w₁ = w

/-- The access token is not signed, or is not in ASCII. -/
def AccessTokenRaises (w : World) : Prop :=
  ∃ audience w', (u.resolveAudience i.client i.scopes i.request.resource).run (exec ports) w =
      (.ok audience, w') ∧
    ((∃ x, ports.createAccessToken (u.accessTokenClaims i audience) w'.draws = .error x) ∨
      ∃ token, ports.createAccessToken (u.accessTokenClaims i audience) w'.draws = .ok token ∧
        Unhashable u.config.signingAlgorithm token)

variable {u ports i wantsToken} {w w₁ : World} {raised : Bool}

/-- Behind the material nothing is refused. -/
theorem ends_signIdToken {atHash : String} :
    Ends ports raised (u.signIdToken i wantsToken atHash) w ↔
      (u.SecretMissing i.client ∧ raised = false) ∨
        (u.SignRaises ports i wantsToken atHash w ∧ raised = true) := by
  unfold signIdToken
  rw [ends_material_bind]
  apply or_congr Iff.rfl
  unfold SignRaises
  rw [or_and_right]
  apply or_congr Iff.rfl
  -- what a secret leads to, the subject, the hashes, the claims and the signature in their order
  have hrest : ∀ secret, u.SharedSecret ports i.client secret →
      (Ends ports raised (do
        let subject ← orRaise (displaySubject u.platform i.client i.request.subject
          i.subjectMaterial u.config.subjectSeed)
        let cHash ← orRaise (u.hashPresent i.code (u.idTokenAlgorithm i.client))
        let sHash ← orRaise (u.hashPresent i.request.state (u.idTokenAlgorithm i.client))
        let additional ← u.additionalIdTokenClaims i wantsToken
        ask (.createIdToken
          { algorithm := u.idTokenAlgorithm i.client
            issuer := u.config.issuer
            subject := subject
            audience := i.client.clientId
            expiresAt := Instant.epoch (i.now + seconds (u.tokenTtl i.client))
            issuedAt := Instant.epoch i.now
            nonce := i.request.nonce
            sessionId := i.request.sessionId
            authTime := i.request.authTime
            atHash := atHash
            cHash := cHash
            sHash := sHash
            sharedSecret := secret
            additionalClaims := additional }) >>= orRaise : M AuthorizeError String) w ↔
        (((∃ x, displaySubject u.platform i.client i.request.subject i.subjectMaterial
              u.config.subjectSeed = .error x) ∨
            Unhashable (u.idTokenAlgorithm i.client) i.code ∨
            Unhashable (u.idTokenAlgorithm i.client) i.request.state ∨
            u.ClaimsRaise ports i wantsToken) ∨
          ∃ claims, (u.Signs ports i wantsToken atHash w claims ∧ claims.sharedSecret = secret) ∧
            ∃ x, ports.createIdToken claims = .error x) ∧ raised = true) := by
    intro secret hsecret
    rw [ends_orRaise_bind]
    constructor
    · rintro (⟨hsubject, hraised⟩ | ⟨subject, hsubject, hends⟩)
      · exact ⟨.inl (.inl hsubject), hraised⟩
      rw [ends_orRaise_bind, hashPresent_error] at hends
      rcases hends with ⟨hcode, hraised⟩ | ⟨cHash, hcHash, hends⟩
      · exact ⟨.inl (.inr (.inl hcode)), hraised⟩
      rw [ends_orRaise_bind, hashPresent_error] at hends
      rcases hends with ⟨hstate, hraised⟩ | ⟨sHash, hsHash, hends⟩
      · exact ⟨.inl (.inr (.inr (.inl hstate))), hraised⟩
      obtain ⟨hcode, rfl⟩ := hashPresent_ok.mp hcHash
      obtain ⟨hstate, rfl⟩ := hashPresent_ok.mp hsHash
      rw [ends_bind, additionalIdTokenClaims_raisesIf] at hends
      rcases hends with ⟨hclaims, hraised⟩ | ⟨additional, w', hrun, hends⟩
      · exact ⟨.inl (.inr (.inr (.inr hclaims))), hraised⟩
      rw [ends_ask_bind] at hends
      obtain ⟨hsign, hraised⟩ := ends_orRaise.mp hends
      exact ⟨.inr ⟨_, ⟨⟨secret, subject, additional, w', hsecret, hsubject, hcode, hstate, hrun, rfl⟩,
        rfl⟩, hsign⟩, hraised⟩
    · rintro ⟨hcause, hraised⟩
      cases hsubject : displaySubject u.platform i.client i.request.subject i.subjectMaterial
          u.config.subjectSeed with
      | error x => exact .inl ⟨⟨x, rfl⟩, hraised⟩
      | ok subject =>
          refine .inr ⟨subject, rfl, ?_⟩
          rw [ends_orRaise_bind, hashPresent_error]
          by_cases hcode : Unhashable (u.idTokenAlgorithm i.client) i.code
          · exact .inl ⟨hcode, hraised⟩
          refine .inr ⟨_, hashPresent_ok.mpr ⟨hcode, rfl⟩, ?_⟩
          rw [ends_orRaise_bind, hashPresent_error]
          by_cases hstate : Unhashable (u.idTokenAlgorithm i.client) i.request.state
          · exact .inl ⟨hstate, hraised⟩
          refine .inr ⟨_, hashPresent_ok.mpr ⟨hstate, rfl⟩, ?_⟩
          rw [ends_bind, additionalIdTokenClaims_raisesIf]
          by_cases hclaims : u.ClaimsRaise ports i wantsToken
          · exact .inl ⟨hclaims, hraised⟩
          right
          rcases hcause with (⟨x, h⟩ | h | h | h) | ⟨claims, ⟨hsigns, hsame⟩, hsign⟩
          · rw [hsubject] at h
            cases h
          · exact absurd h hcode
          · exact absurd h hstate
          · exact absurd h hclaims
          · obtain ⟨secret', subject', additional, w', -, hsubject', -, -, hrun, rfl⟩ := hsigns
            rw [hsubject] at hsubject'
            cases hsubject'
            cases hsame
            refine ⟨additional, w', hrun, ?_⟩
            rw [ends_ask_bind]
            exact ends_orRaise.mpr ⟨hsign, hraised⟩
  constructor
  · rintro ⟨secret, hsecret, hends⟩
    obtain ⟨hcause, hraised⟩ := (hrest secret hsecret).mp hends
    refine ⟨?_, hraised⟩
    rcases hcause with hcause | ⟨claims, ⟨hsigns, -⟩, hsign⟩
    · exact .inl ⟨⟨secret, hsecret⟩, hcause⟩
    · exact .inr ⟨claims, hsigns, hsign⟩
  · rintro ⟨⟨⟨secret, hsecret⟩, hcause⟩ | ⟨claims, hsigns, hsign⟩, hraised⟩
    · exact ⟨secret, hsecret, (hrest secret hsecret).mpr ⟨.inl hcause, hraised⟩⟩
    · obtain ⟨secret, subject, additional, w', hsecret, hmore⟩ := hsigns
      have hsame : claims.sharedSecret = secret := by
        obtain ⟨-, -, -, -, rfl⟩ := hmore
        rfl
      exact ⟨secret, hsecret, (hrest secret hsecret).mpr
        ⟨.inr ⟨claims, ⟨⟨secret, subject, additional, w', hsecret, hmore⟩, hsame⟩, hsign⟩, hraised⟩⟩

/-- The signature answers with what the signing service gives for the claims. -/
theorem signIdToken_run {atHash signed : String} :
    (∃ w', (u.signIdToken i wantsToken atHash).run (exec ports) w = (.ok signed, w')) ↔
      ∃ claims, u.Signs ports i wantsToken atHash w claims ∧
        ports.createIdToken claims = .ok signed := by
  constructor
  · rintro ⟨w', hrun⟩
    obtain ⟨material, w₂, hmaterial, hrun₁⟩ := run_bind_ok.mp hrun
    obtain ⟨secret, hsecret, rfl, rfl⟩ := material_run_ok hmaterial
    obtain ⟨subject, w₄, hsubject, hrun₂⟩ := run_bind_ok.mp hrun₁
    obtain ⟨hsubject₁, rfl⟩ := run_orRaise_ok.mp hsubject
    obtain ⟨cHash, w₅, hcHash, hrun₃⟩ := run_bind_ok.mp hrun₂
    obtain ⟨hcHash₁, rfl⟩ := run_orRaise_ok.mp hcHash
    obtain ⟨sHash, w₆, hsHash, hrun₄⟩ := run_bind_ok.mp hrun₃
    obtain ⟨hsHash₁, rfl⟩ := run_orRaise_ok.mp hsHash
    obtain ⟨hcode, rfl⟩ := hashPresent_ok.mp hcHash₁
    obtain ⟨hstate, rfl⟩ := hashPresent_ok.mp hsHash₁
    obtain ⟨additional, w₇, hadditional, hrun₅⟩ := run_bind_ok.mp hrun₄
    rw [run_ask_bind] at hrun₅
    obtain ⟨hsigned, -⟩ := run_orRaise_ok.mp hrun₅
    exact ⟨_, ⟨secret, subject, additional, w₇, hsecret, hsubject₁, hcode, hstate, hadditional, rfl⟩,
      hsigned⟩
  · rintro ⟨claims, ⟨secret, subject, additional, w', hsecret, hsubject, hcode, hstate, hadditional,
      rfl⟩, hsigned⟩
    refine ⟨w', ?_⟩
    refine run_bind_ok.mpr ⟨(u.idTokenAlgorithm i.client, secret), w, ?_, ?_⟩
    · exact run_bind_ok.mpr ⟨_, w, material_run hsecret, rfl⟩
    refine run_bind_ok.mpr ⟨subject, w, run_orRaise_ok.mpr ⟨hsubject, rfl⟩, ?_⟩
    refine run_bind_ok.mpr ⟨_, w, run_orRaise_ok.mpr ⟨hashPresent_ok.mpr ⟨hcode, rfl⟩, rfl⟩, ?_⟩
    refine run_bind_ok.mpr ⟨_, w, run_orRaise_ok.mpr ⟨hashPresent_ok.mpr ⟨hstate, rfl⟩, rfl⟩, ?_⟩
    refine run_bind_ok.mpr ⟨additional, w', hadditional, ?_⟩
    rw [run_ask_bind]
    exact run_orRaise_ok.mpr ⟨hsigned, rfl⟩

theorem ends_issueIdToken {wantsIdToken : Bool} {atHash : String} :
    Ends ports raised (u.issueIdToken i wantsIdToken wantsToken atHash) w ↔
      wantsIdToken = true ∧ ((u.IdTokenRefused ports i wantsToken atHash w ∧ raised = false) ∨
        (u.IdTokenRaises ports i wantsToken atHash w ∧ raised = true)) := by
  unfold issueIdToken
  cases wantsIdToken with
  | false => exact iff_of_false (not_stops_pure _) fun h => nomatch h.1
  | true =>
      rw [if_pos rfl, and_iff_right rfl, ends_bind, ends_signIdToken]
      constructor
      · rintro ((⟨h, hraised⟩ | ⟨h, hraised⟩) | ⟨signed, w', hrun, hends⟩)
        · exact .inl ⟨.inl h, hraised⟩
        · exact .inr ⟨.inl h, hraised⟩
        · obtain ⟨claims, hsigns, hsigned⟩ := signIdToken_run.mp ⟨w', hrun⟩
          rcases ends_encryption.mp hends with ⟨h, hraised⟩ | ⟨h, hraised⟩
          · exact .inl ⟨.inr ⟨claims, signed, hsigns, hsigned, h⟩, hraised⟩
          · exact .inr ⟨.inr ⟨claims, signed, hsigns, hsigned, h⟩, hraised⟩
      · rintro (⟨h | ⟨claims, signed, hsigns, hsigned, h⟩, hraised⟩ |
          ⟨h | ⟨claims, signed, hsigns, hsigned, h⟩, hraised⟩)
        · exact .inl (.inl ⟨h, hraised⟩)
        · obtain ⟨w', hrun⟩ := signIdToken_run.mpr ⟨claims, hsigns, hsigned⟩
          exact .inr ⟨signed, w', hrun, ends_encryption.mpr (.inl ⟨h, hraised⟩)⟩
        · exact .inl (.inr ⟨h, hraised⟩)
        · obtain ⟨w', hrun⟩ := signIdToken_run.mpr ⟨claims, hsigns, hsigned⟩
          exact .inr ⟨signed, w', hrun, ends_encryption.mpr (.inr ⟨h, hraised⟩)⟩

theorem resolveAudience_raisesIf (client : Client) (scopes : Finset Scope) (resource : String) :
    RaisesIf ports False (u.resolveAudience client scopes resource) := by
  unfold resolveAudience
  split
  · cases u.scopeRegistry with
    | none => exact raisesIf_pure _
    | some registry =>
        dsimp only
        unfold ScopeRegistry.audiencesFor
        split
        · exact raisesIf_pure _
        · refine (raisesIf_bind (raisesIf_ask _) fun stored => ?_).congr (iff_of_eq (or_false False))
          dsimp only
          split
          · exact raisesIf_pure _
          · exact raisesIf_pure _
          · exact raisesIf_pure _
  · exact raisesIf_pure _

theorem ends_issueAccessToken :
    Ends ports raised (u.issueAccessToken i wantsToken) w ↔
      (wantsToken = true ∧ u.AccessTokenRaises ports i w) ∧ raised = true := by
  unfold issueAccessToken AccessTokenRaises
  cases wantsToken with
  | false => exact iff_of_false (not_stops_pure _) fun h => nomatch h.1.1
  | true =>
      rw [if_pos rfl, and_iff_right rfl, ends_bind, resolveAudience_raisesIf]
      rw [or_iff_right fun h => h.1]
      constructor
      · rintro ⟨audience, w', hrun, hends⟩
        change Ends ports raised (orRaise (ports.createAccessToken (u.accessTokenClaims i audience)
          w'.draws) >>= _) { w' with draws := w'.draws + 1 } at hends
        rcases ends_orRaise_bind.mp hends with ⟨h, hraised⟩ | ⟨token, htoken, hends⟩
        · exact ⟨⟨audience, w', hrun, .inl h⟩, hraised⟩
        · rcases ends_orRaise_bind.mp hends with ⟨h, hraised⟩ | ⟨hash, -, hends⟩
          · exact ⟨⟨audience, w', hrun, .inr ⟨token, htoken, hashArtefact_error.mp h⟩⟩, hraised⟩
          · exact absurd hends (not_stops_pure _)
      · rintro ⟨⟨audience, w', hrun, hcause⟩, hraised⟩
        refine ⟨audience, w', hrun, ?_⟩
        show Ends ports raised (orRaise (ports.createAccessToken (u.accessTokenClaims i audience)
          w'.draws) >>= _) { w' with draws := w'.draws + 1 }
        rw [ends_orRaise_bind]
        rcases hcause with h | ⟨token, htoken, h⟩
        · exact .inl ⟨h, hraised⟩
        · refine .inr ⟨token, htoken, ?_⟩
          rw [ends_orRaise_bind]
          exact .inl ⟨hashArtefact_error.mpr h, hraised⟩

theorem issueAccessToken_run {token atHash : String} :
    (u.issueAccessToken i wantsToken).run (exec ports) w = (.ok (token, atHash), w₁) ↔
      u.Issues ports i wantsToken w token atHash w₁ := by
  unfold issueAccessToken Issues
  cases wantsToken with
  | false =>
      show ((.ok ("", ""), w) : Except (Stop AuthorizeError) (String × String) × World) =
        (.ok (token, atHash), w₁) ↔ token = "" ∧ atHash = "" ∧ w₁ = w
      constructor
      · intro h
        cases h
        exact ⟨rfl, rfl, rfl⟩
      · rintro ⟨rfl, rfl, rfl⟩
        rfl
  | true =>
      rw [if_pos rfl, if_pos rfl, run_bind_ok]
      apply exists_congr
      intro audience
      apply exists_congr
      intro w'
      apply and_congr_right'
      constructor
      · intro hrun
        change ((orRaise (ports.createAccessToken (u.accessTokenClaims i audience) w'.draws) :
          M AuthorizeError String) >>= _).run (exec ports) { w' with draws := w'.draws + 1 } = _
            at hrun
        obtain ⟨issued, w₂, hissued, hrun₁⟩ := run_bind_ok.mp hrun
        obtain ⟨hissued₁, rfl⟩ := run_orRaise_ok.mp hissued
        obtain ⟨hash, w₃, hhash, hrun₂⟩ := run_bind_ok.mp hrun₁
        obtain ⟨hhash₁, rfl⟩ := run_orRaise_ok.mp hhash
        obtain ⟨hascii, rfl⟩ := hashArtefact_ok.mp hhash₁
        cases hrun₂
        exact ⟨hissued₁, hascii, rfl, rfl⟩
      · rintro ⟨hissued, hascii, rfl, rfl⟩
        show ((orRaise (ports.createAccessToken (u.accessTokenClaims i audience) w'.draws) :
          M AuthorizeError String) >>= _).run (exec ports) { w' with draws := w'.draws + 1 } = _
        refine run_bind_ok.mpr ⟨token, _, run_orRaise_ok.mpr ⟨hissued, rfl⟩, ?_⟩
        exact run_bind_ok.mpr ⟨_, _, run_orRaise_ok.mpr ⟨hashArtefact_ok.mpr ⟨hascii, rfl⟩, rfl⟩, rfl⟩

end Issuance

end AuthorizeUseCase

end PurIdentityServer

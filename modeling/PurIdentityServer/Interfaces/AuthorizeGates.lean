import PurIdentityServer.Interfaces.ConsentPage

/-!
# AuthorizeGates — what a request must pass before it is executed

The parts of the two interfaces, by the calls they make and the answers
they give. `prompt_none_answers` is about the requests that forbid
interaction.
-/

namespace PurIdentityServer

open Effects

/-! ## Footprints -/

theorem Responses.signByClientId_uses {ε : Type} (r : Responses) (clientId : String)
    (params : List (String × String)) :
    (r.signByClientId clientId params : M ε _).Uses Call.Passive := by
  unfold Responses.signByClientId
  cases r.signEnvelope with
  | none => exact Prog.uses_pure _ _
  | some sign =>
      refine Prog.uses_bind (Prog.uses_op rfl) fun client => ?_
      cases client with
      | none => exact Prog.uses_pure _ _
      | some client =>
          dsimp only
          split
          · exact Prog.uses_pure _ _
          · exact Prog.uses_bind (Prog.uses_op rfl) fun _ =>
              Prog.uses_bind (uses_orRaise _ _) fun _ => Prog.uses_pure _ _

theorem Responses.errorRedirect_uses {ε : Type} (r : Responses) (result : AuthorizeError) :
    (r.errorRedirect result : M ε _).Uses Call.Passive := by
  unfold Responses.errorRedirect
  split
  · exact Prog.uses_pure _ _
  · refine Prog.uses_bind (r.signByClientId_uses _ _) fun envelope => ?_
    split <;> exact Prog.uses_pure _ _
  · exact Prog.uses_pure _ _

theorem Responses.errorResponse_uses {ε : Type} (r : Responses) (result : AuthorizeError) :
    (r.errorResponse result : M ε _).Uses Call.Passive := by
  unfold Responses.errorResponse
  split
  · exact r.errorRedirect_uses result
  · exact Prog.uses_pure _ _

theorem refusing_uses {response : M Empty Response} {S : Call → Prop} (h : response.Uses S) :
    (refusing response).Uses S := Prog.uses_bind h fun _ => Prog.uses_pure _ _

theorem resolve_uses (requestUri clientId : String) :
    (PushedAuthorizationUseCase.resolve requestUri clientId).Uses
      (Call.In [.keys, .passive, .pushed]) := by
  refine Prog.uses_bind (Prog.uses_op rfl) fun found => ?_
  cases found with
  | none => exact Prog.uses_fail _ _
  | some pushed =>
      refine Prog.uses_bind (Prog.uses_op rfl) fun now => ?_
      split
      · exact Prog.uses_bind (Prog.uses_op rfl) fun _ => Prog.uses_fail _ _
      split
      · exact Prog.uses_bind (Prog.uses_op rfl) fun _ => Prog.uses_fail _ _
      · exact Prog.uses_bind (uses_refuseIf _ _ _) fun _ => Prog.uses_pure _ _

namespace AuthorizeEndpoint

variable (e : AuthorizeEndpoint)

theorem validated_uses (request : AuthorizeRequest) :
    (e.validated request).Uses Call.Passive :=
  uses_outcome (Call.uses_mono (validateAuthorizationRequest_uses ..) rfl)

theorem nonRedirectableError_uses (resolvers : Resolvers) (request : AuthorizeRequest) :
    (e.nonRedirectableError resolvers request).Uses Call.Passive := by
  unfold nonRedirectableError
  split
  · exact Prog.uses_pure _ _
  refine Prog.uses_bind (e.validated_uses request) fun validated => ?_
  cases validated with
  | ok validated => exact Prog.uses_pure _ _
  | error error =>
      dsimp only
      split
      · exact Prog.uses_pure _ _
      refine Prog.uses_bind (refusing_uses ?_) fun _ => Prog.uses_pure _ _
      split
      · exact e.bareResponses.errorResponse_uses _
      · exact e.bareResponses.errorRedirect_uses _

theorem refuseUser_uses (request : AuthorizeRequest) (error description : String) :
    (e.refuseUser request error description).Uses Call.Passive := by
  unfold refuseUser
  split
  · exact refusing_uses (e.responses.errorResponse_uses _)
  refine Prog.uses_bind (e.validated_uses request) fun validated => ?_
  cases validated with
  | ok validated => exact refusing_uses (e.responses.errorResponse_uses _)
  | error error => exact refusing_uses (e.responses.errorResponse_uses _)

theorem loginOrError_uses (request : AuthorizeRequest) (http : HttpRequest) (error : String) :
    (e.loginOrError request http error).Uses Call.Passive := by
  unfold loginOrError
  split
  · exact e.refuseUser_uses request error _
  · exact Prog.uses_pure _ _

theorem authenticationGate_uses (request : AuthorizeRequest) (http : HttpRequest) :
    (e.authenticationGate request http).Uses Call.Passive := by
  unfold authenticationGate
  split
  · unfold registrationGate
    dsimp only
    split
    · exact Prog.uses_bind (e.loginOrError_uses _ _ _) fun _ => Prog.uses_pure _ _
    split
    · exact Prog.uses_bind (e.refuseUser_uses _ _ _) fun _ => Prog.uses_pure _ _
    split
    · exact Prog.uses_bind (e.refuseUser_uses _ _ _) fun _ => Prog.uses_pure _ _
    split <;> exact Prog.uses_pure _ _
  split
  · exact Prog.uses_bind (e.loginOrError_uses _ _ _) fun _ => Prog.uses_pure _ _
  refine Prog.uses_bind (Prog.uses_op rfl) fun now => ?_
  split
  · split
    · exact Prog.uses_bind (Prog.uses_op rfl) fun _ =>
        Prog.uses_bind (e.loginOrError_uses _ _ _) fun _ => Prog.uses_pure _ _
    · exact Prog.uses_pure _ _
  split
  · exact Prog.uses_bind (e.loginOrError_uses _ _ _) fun _ => Prog.uses_pure _ _
  · exact Prog.uses_pure _ _

theorem consentRedirectIfRequired_uses (request : AuthorizeRequest) (reference : String) :
    (e.consentRedirectIfRequired request reference).Uses
      (Call.In [.keys, .passive, .consents]) := by
  unfold consentRedirectIfRequired
  split
  · exact Prog.uses_pure _ _
  split
  · exact Prog.uses_pure _ _
  refine Prog.uses_bind (Prog.uses_op rfl) fun client => ?_
  cases client with
  | none => exact Prog.uses_pure _ _
  | some client =>
      exact Prog.uses_bind (Call.uses_mono (ConsentUseCase.isRequired_uses ..) rfl) fun _ =>
        Prog.uses_pure _ _

theorem pushedParamResponse_uses (error : PushError) :
    (e.pushedParamResponse error).Uses Call.Passive := by
  unfold pushedParamResponse
  split
  · exact Prog.uses_pure _ _
  · exact refusing_uses (e.unsignedResponses.errorRedirect_uses _)

theorem directAuthorizeRequest_uses (resolvers : Resolvers) (http : HttpRequest) :
    (e.directAuthorizeRequest resolvers http).Uses Call.Passive := by
  unfold directAuthorizeRequest
  split
  · refine Prog.uses_bind ?_ fun _ => Prog.uses_pure _ _
    unfold requestObjectErrorResponse
    dsimp only
    split
    · exact Prog.uses_pure _ _
    refine Prog.uses_bind (Prog.uses_op rfl) fun client => ?_
    split
    · exact Prog.uses_pure _ _
    split
    · exact Prog.uses_pure _ _
    · exact refusing_uses (e.responses.errorRedirect_uses _)
  split
  · refine Prog.uses_bind ?_ fun _ => Prog.uses_pure _ _
    unfold refuseMissing
    dsimp only
    split
    · exact Prog.uses_pure _ _
    refine Prog.uses_bind (Prog.uses_op rfl) fun client => ?_
    cases client with
    | none => exact Prog.uses_pure _ _
    | some client =>
        dsimp only
        split
        · exact Prog.uses_pure _ _
        · exact refusing_uses (e.unsignedResponses.errorRedirect_uses _)
  refine Prog.uses_bind ?_ fun enforced => ?_
  · unfold enforceParRequirement
    split
    · exact Prog.uses_pure _ _
    refine Prog.uses_bind (Prog.uses_op rfl) fun client => ?_
    cases client with
    | none => exact Prog.uses_pure _ _
    | some client =>
        dsimp only
        split
        · exact Prog.uses_pure _ _
        split
        · exact Prog.uses_bind (refusing_uses (e.responses.errorRedirect_uses _)) fun _ =>
            Prog.uses_pure _ _
        · exact Prog.uses_pure _ _
  · cases enforced <;> exact Prog.uses_pure _ _

theorem entry_uses (resolvers : Resolvers) (http : HttpRequest) :
    (e.entry resolvers http).Uses (Call.In [.keys, .passive, .pushed]) := by
  unfold entry
  split
  · unfold resolvePushedRequest
    split
    · exact Prog.uses_bind (Call.uses_mono (e.pushedParamResponse_uses _) rfl) fun _ =>
        Prog.uses_pure _ _
    refine Prog.uses_bind (uses_outcome (resolve_uses _ _)) fun resolved => ?_
    cases resolved with
    | ok request => exact Prog.uses_pure _ _
    | error error =>
        exact Prog.uses_bind (Call.uses_mono (e.pushedParamResponse_uses _) rfl) fun _ =>
          Prog.uses_pure _ _
  · exact Call.uses_mono (e.directAuthorizeRequest_uses resolvers http) rfl

end AuthorizeEndpoint

/-! ## What the answers are -/

/-- A program that answers with a refusal, whatever the store replies. -/
abbrev Refuses (p : M Empty WebAnswer) : Prop :=
  Ensures Monitor.free p fun answer => ∃ response, answer = .refused response

theorem ensures_outcome {α ε ε' : Type} {p : M ε α} {Q : α → Prop}
    (h : Ensures Monitor.free p Q) :
    Ensures Monitor.free (outcome p : M ε' (Except ε α)) fun
      | .ok a => Q a
      | .error _ => True := by
  intro g
  refine (wp_handle _ _).mpr ((wp_bind _ _).mpr (wp_mono (h g) (fun _ _ ha => wp_pure.mpr ha) ?_))
  rintro g' (e | x) -
  · exact wp_pure.mpr trivial
  · exact wp_fail.mpr trivial

theorem refuses_refusing (response : M Empty Response) : Refuses (refusing response) :=
  (ensures_free response).bind fun r _ => ensures_pure ⟨r, rfl⟩

namespace AuthorizeEndpoint

variable (e : AuthorizeEndpoint)

theorem refuses_refuseUser (request : AuthorizeRequest) (error description : String) :
    Refuses (e.refuseUser request error description) := by
  unfold refuseUser
  split
  · exact refuses_refusing _
  refine (ensures_free _).bind fun validated _ => ?_
  cases validated with
  | ok validated => exact refuses_refusing _
  | error error => exact refuses_refusing _

/-- Without interaction, the user who must log in is an error. -/
theorem refuses_loginOrError {request : AuthorizeRequest} (hnone : request.prompts "none")
    (http : HttpRequest) (error : String) :
    Refuses (e.loginOrError request http error) := by
  unfold loginOrError
  rw [if_pos hnone]
  exact e.refuses_refuseUser _ _ _

/-- The gate that lets a request through, or refuses it. -/
abbrev Passes (p : M Empty (Option WebAnswer)) (passed : Prop) : Prop :=
  Ensures Monitor.free p fun
    | none => passed
    | some answer => ∃ response, answer = .refused response

theorem passes_of_refuses {p : M Empty WebAnswer} (h : Refuses p) (passed : Prop) :
    Passes (p >>= fun answer => pure (some answer)) passed :=
  h.bind fun _ hanswer => ensures_pure hanswer

/-- The requests that forbid interaction are let through when a user is logged in, or when
the server asks no login. -/
theorem passes_authenticationGate {request : AuthorizeRequest} (hnone : request.prompts "none")
    (http : HttpRequest) :
    Passes (e.authenticationGate request http)
      (http.user.isSome ∨ e.requireLogin = false) := by
  unfold authenticationGate
  split
  · unfold registrationGate
    dsimp only
    rw [if_pos hnone]
    exact passes_of_refuses (e.refuses_loginOrError hnone http _) _
  split
  · exact passes_of_refuses (e.refuses_loginOrError hnone http _) _
  refine (ensures_free _).bind fun now _ => ?_
  split
  · refine (ensures_free _).bind fun _ _ => ?_
    exact passes_of_refuses (e.refuses_loginOrError hnone http _) _
  split
  · exact passes_of_refuses (e.refuses_loginOrError hnone http _) _
  · rename_i hlogin
    refine ensures_pure ?_
    cases huser : http.user with
    | none =>
        right
        simpa using fun hrequire => hlogin ⟨by rw [huser]; rfl, .inl hrequire⟩
    | some user => exact .inl rfl

/-- An answer that neither interacts nor issues anything. -/
def Declines (answer : WebAnswer) : Prop := ¬answer.Interacts ∧ ¬answer.Issues

/-- What is answered before a request is resolved, and what a resolved request is. -/
abbrev Enters (p : M Empty (WebAnswer ⊕ AuthorizeRequest)) : Prop :=
  Ensures Monitor.free p fun
    | .inl answer => Declines answer
    | .inr request => request.subject = ""

theorem declines_refused {answer : WebAnswer} (h : ∃ response, answer = .refused response) :
    Declines answer := by
  obtain ⟨response, rfl⟩ := h
  exact ⟨nofun, nofun⟩

theorem enters_of_declines {p : M Empty WebAnswer}
    (h : Ensures Monitor.free p Declines) :
    Enters (p >>= fun answer => pure (.inl answer)) :=
  h.bind fun _ hanswer => ensures_pure hanswer

theorem declines_refusing (response : M Empty Response) :
    Ensures Monitor.free (refusing response) Declines :=
  (refuses_refusing response).mono fun _ => declines_refused

theorem declines_requestObjectError (resolvers : Resolvers) (error : RequestObjectError)
    (params : Params) :
    Ensures Monitor.free (e.requestObjectErrorResponse resolvers error params)
      Declines := by
  unfold requestObjectErrorResponse
  dsimp only
  split
  · exact ensures_pure ⟨nofun, nofun⟩
  refine (ensures_free _).bind fun client _ => ?_
  split
  · exact ensures_pure ⟨nofun, nofun⟩
  split
  · exact ensures_pure ⟨nofun, nofun⟩
  · exact declines_refusing _

theorem declines_refuseMissing (params : Params) :
    Ensures Monitor.free (e.refuseMissing params) Declines := by
  unfold refuseMissing
  dsimp only
  split
  · exact ensures_pure ⟨nofun, nofun⟩
  refine (ensures_free _).bind fun client _ => ?_
  cases client with
  | none => exact ensures_pure ⟨nofun, nofun⟩
  | some client =>
      dsimp only
      split
      · exact ensures_pure ⟨nofun, nofun⟩
      · exact declines_refusing _

theorem declines_enforceParRequirement (params : Params) :
    Ensures Monitor.free (e.enforceParRequirement params) fun
      | none => True
      | some answer => Declines answer := by
  unfold enforceParRequirement
  split
  · exact ensures_pure trivial
  refine (ensures_free _).bind fun client _ => ?_
  cases client with
  | none => exact ensures_pure trivial
  | some client =>
      dsimp only
      split
      · exact ensures_pure trivial
      split
      · exact (declines_refusing _).bind fun _ h => ensures_pure h
      · exact ensures_pure ⟨nofun, nofun⟩

theorem declines_pushedParamResponse (error : PushError) :
    Ensures Monitor.free (e.pushedParamResponse error) Declines := by
  unfold pushedParamResponse
  split
  · exact ensures_pure ⟨nofun, nofun⟩
  · exact declines_refusing _

/-- A pushed request is the user's only once the user is known. -/
theorem resolve_subject (requestUri clientId : String) :
    Ensures Monitor.free (PushedAuthorizationUseCase.resolve requestUri clientId)
      fun request => request.subject = "" := by
  unfold PushedAuthorizationUseCase.resolve
  refine (ensures_free _).bind fun found _ => ?_
  cases found with
  | none => exact ensures_fail _
  | some pushed =>
      refine (ensures_free _).bind fun now _ => ?_
      split
      · exact (ensures_free _).bind fun _ _ => ensures_fail _
      split
      · exact (ensures_free _).bind fun _ _ => ensures_fail _
      · exact (ensures_free _).bind fun _ _ => ensures_pure rfl

theorem enters_direct (resolvers : Resolvers) (http : HttpRequest) :
    Enters (e.directAuthorizeRequest resolvers http) := by
  unfold directAuthorizeRequest
  split
  · exact enters_of_declines (e.declines_requestObjectError _ _ _)
  split
  · exact enters_of_declines (e.declines_refuseMissing _)
  refine (e.declines_enforceParRequirement _).bind fun enforced henforced => ?_
  cases enforced with
  | none => exact ensures_pure rfl
  | some answer => exact ensures_pure henforced

theorem enters_entry (resolvers : Resolvers) (http : HttpRequest) :
    Enters (e.entry resolvers http) := by
  unfold entry
  split
  · unfold resolvePushedRequest
    split
    · exact enters_of_declines (e.declines_pushedParamResponse _)
    refine (ensures_outcome (resolve_subject _ _)).bind fun resolved hresolved => ?_
    cases resolved with
    | ok request => exact ensures_pure hresolved
    | error error => exact enters_of_declines (e.declines_pushedParamResponse _)
  · exact e.enters_direct resolvers http

/-! ## The consent that is asked -/

end AuthorizeEndpoint

/-- Two stores with the same clients and consents, at the same moment. -/
structure SameConsents (w w' : World) : Prop where
  clock : w'.clock = w.clock
  clients : w'.clients = w.clients
  consents : w'.consents = w.consents

namespace SameConsents

theorem refl (w : World) : SameConsents w w := ⟨rfl, rfl, rfl⟩

theorem trans {w w' w'' : World} (h : SameConsents w w') (h' : SameConsents w' w'') :
    SameConsents w w'' :=
  ⟨h'.clock.trans h.clock, h'.clients.trans h.clients, h'.consents.trans h.consents⟩

theorem symm {w w' : World} (h : SameConsents w w') : SameConsents w' w :=
  ⟨h.clock.symm, h.clients.symm, h.consents.symm⟩

/-- Only granting a consent changes them. -/
theorem exec (ports : Ports) {c : Call} (h : c.area ≠ .consents) (w : World) :
    SameConsents w (exec ports c w).2 := by
  refine ⟨exec_clock .., exec_clients .., ?_⟩
  cases c <;> first | rfl | exact absurd rfl h

theorem run {α ε : Type} {p : M ε α} {l : List Area} (hp : p.Uses (Call.In l))
    (hl : l.contains .consents = false) (ports : Ports) (w : World) :
    SameConsents w (p.run (PurIdentityServer.exec ports) w).2 := by
  have hwp : wp (Monitor.allowing (PurIdentityServer.exec ports) (Call.In l)) p
      (fun _ _ => True) (fun _ _ => True) w :=
    wp_of_uses hp (fun _ => True) (fun _ _ _ hc => ⟨hc, fun _ _ => trivial⟩) trivial
  have hstep : ∀ s c, SameConsents w s → Call.In l c →
      SameConsents w (PurIdentityServer.exec ports c s).2 := by
    intro s c hs hc
    refine hs.trans (exec ports (fun harea => ?_) s)
    have hmem : l.contains c.area = true := hc
    rw [harea, hl] at hmem
    cases hmem
  exact run_keeps (SameConsents w) hstep hwp (refl w)

theorem findClient {w w' : World} (h : SameConsents w w') (ports : Ports) (clientId : String) :
    w'.findClient ports clientId = w.findClient ports clientId := by
  unfold World.findClient
  rw [h.clients, h.clock]

end SameConsents

namespace AuthorizeEndpoint

variable (e : AuthorizeEndpoint) {ports : Ports}

/-- The user of a request is asked for consent. -/
def AsksConsent (ports : Ports) (w : World) (request : AuthorizeRequest) : Prop :=
  ∃ consent client, e.consent = some consent ∧ e.clients = true ∧
    w.findClient ports request.clientId = some client ∧
    consent.Asks w client request.subject (Scope.fromSpaceSeparated request.scope) ""
      (request.prompts "consent")

theorem AsksConsent.congr {w w' : World} (h : SameConsents w w') {request : AuthorizeRequest}
    (hasks : e.AsksConsent ports w' request) : e.AsksConsent ports w request := by
  obtain ⟨consent, client, hconsent, hclients, hfind, hask⟩ := hasks
  refine ⟨consent, client, hconsent, hclients, ?_, ?_⟩
  · rw [← hfind, h.findClient]
  · unfold ConsentUseCase.Asks at hask ⊢
    rwa [h.consents] at hask

/-- The browser is sent to the consent page exactly when consent is asked. -/
theorem run_consentRedirect {w w' : World} {request : AuthorizeRequest} {reference : String}
    {answer : Option WebAnswer}
    (hrun : (e.consentRedirectIfRequired request reference).run (exec ports) w =
      (.ok answer, w')) :
    (answer = none ∧ ¬e.AsksConsent ports w request) ∨
      (answer = some (.consent (consentUrl request reference)) ∧
        e.AsksConsent ports w request) := by
  unfold consentRedirectIfRequired at hrun
  cases hconsent : e.consent with
  | none =>
      rw [hconsent] at hrun
      cases hrun
      refine .inl ⟨rfl, ?_⟩
      rintro ⟨consent, client, hsome, -⟩
      cases hconsent.symm.trans hsome
  | some consent =>
      rw [hconsent] at hrun
      dsimp only at hrun
      by_cases hclients : e.clients = true
      · rw [if_neg (not_not.mpr hclients), run_ask_bind] at hrun
        have hreply : (exec ports (.findClient request.clientId) w).1 =
            w.findClient ports request.clientId := rfl
        rw [hreply] at hrun
        have hworld : (exec ports (.findClient request.clientId) w).2 = w := rfl
        rw [hworld] at hrun
        cases hfind : w.findClient ports request.clientId with
        | none =>
            rw [hfind] at hrun
            cases hrun
            refine .inl ⟨rfl, ?_⟩
            rintro ⟨_, client, -, -, hsome, -⟩
            cases hfind.symm.trans hsome
        | some client =>
            rw [hfind] at hrun
            obtain ⟨asks, hasks, hiff⟩ := consent.run_isRequired (ε := Empty) ports w client
              request.subject (Scope.fromSpaceSeparated request.scope) ""
              (request.prompts "consent")
            obtain ⟨required, w'', hrequired, hpure⟩ := Prog.run_bind_ok.mp hrun
            rw [hasks] at hrequired
            cases hrequired
            cases hpure
            cases asks with
            | false =>
                refine .inl ⟨rfl, ?_⟩
                rintro ⟨consent', client', hsome, -, hsome', hask⟩
                cases hconsent.symm.trans hsome
                cases hfind.symm.trans hsome'
                exact absurd (hiff.mpr hask) Bool.false_ne_true
            | true => exact .inr ⟨rfl, consent, client, hconsent, hclients, hfind, hiff.mp rfl⟩
      · rw [if_pos hclients] at hrun
        cases hrun
        refine .inl ⟨rfl, ?_⟩
        rintro ⟨_, _, -, hclients', -⟩
        exact hclients hclients'

theorem declines_nonRedirectableError (resolvers : Resolvers) (request : AuthorizeRequest) :
    Ensures Monitor.free (e.nonRedirectableError resolvers request) fun
      | none => True
      | some answer => Declines answer := by
  unfold nonRedirectableError
  split
  · exact ensures_pure trivial
  refine (ensures_free _).bind fun validated _ => ?_
  cases validated with
  | ok validated => exact ensures_pure trivial
  | error error =>
      dsimp only
      split
      · exact ensures_pure trivial
      · exact (declines_refusing _).bind fun _ h => ensures_pure h

end AuthorizeEndpoint

theorem executionRedirect_answers (usecase : AuthorizeUseCase) (par : Bool)
    (responses : Responses) (request : AuthorizeRequest) (reference : String) :
    Ensures Monitor.free
      (executionRedirect usecase par responses request reference) fun answer =>
        ¬answer.Interacts := by
  refine (ensures_free _).bind fun result _ => ?_
  cases result with
  | ok result => exact (ensures_free _).bind fun _ _ => ensures_pure nofun
  | error error => exact (AuthorizeEndpoint.declines_refusing _).mono fun _ h => h.1

namespace AuthorizeEndpoint

variable (e : AuthorizeEndpoint)

/-- A gate whose own answers issue nothing. -/
abbrev Guards (p : M Empty (Option WebAnswer)) : Prop :=
  Ensures Monitor.free p fun
    | none => True
    | some answer => ¬answer.Issues

theorem refuseUser_issues_nothing (request : AuthorizeRequest) (error description : String) :
    Ensures Monitor.free (e.refuseUser request error description) fun answer =>
      ¬answer.Issues :=
  (e.refuses_refuseUser request error description).mono fun _ h => (declines_refused h).2

theorem loginOrError_issues_nothing (request : AuthorizeRequest) (http : HttpRequest)
    (error : String) :
    Ensures Monitor.free (e.loginOrError request http error) fun answer => ¬answer.Issues := by
  unfold loginOrError
  split
  · exact e.refuseUser_issues_nothing request error _
  · exact ensures_pure nofun

theorem guards_authenticationGate (request : AuthorizeRequest) (http : HttpRequest) :
    Guards (e.authenticationGate request http) := by
  have hanswer : ∀ {p : M Empty WebAnswer},
      Ensures Monitor.free p (fun answer => ¬answer.Issues) →
      Guards (p >>= fun answer => pure (some answer)) :=
    fun h => h.bind fun _ hissues => ensures_pure hissues
  unfold authenticationGate
  split
  · unfold registrationGate
    dsimp only
    split
    · exact hanswer (e.loginOrError_issues_nothing _ _ _)
    split
    · exact hanswer (e.refuseUser_issues_nothing _ _ _)
    split
    · exact hanswer (e.refuseUser_issues_nothing _ _ _)
    split
    · exact ensures_pure trivial
    · exact ensures_pure nofun
  split
  · exact hanswer (e.loginOrError_issues_nothing _ _ _)
  refine (ensures_free _).bind fun now _ => ?_
  split
  · split
    · exact (ensures_free _).bind fun _ _ => hanswer (e.loginOrError_issues_nothing _ _ _)
    · exact ensures_pure nofun
  split
  · exact hanswer (e.loginOrError_issues_nothing _ _ _)
  · exact ensures_pure trivial

theorem guards_consentRedirect (request : AuthorizeRequest) (reference : String) :
    Guards (e.consentRedirectIfRequired request reference) := by
  unfold consentRedirectIfRequired
  split
  · exact ensures_pure trivial
  split
  · exact ensures_pure trivial
  refine (ensures_free _).bind fun client _ => ?_
  cases client with
  | none => exact ensures_pure trivial
  | some client =>
      refine (ensures_free _).bind fun required _ => ?_
      cases required with
      | true => exact ensures_pure nofun
      | false => exact ensures_pure trivial

end AuthorizeEndpoint

/-! ## Requests that forbid interaction -/

namespace AuthorizeEndpoint

variable (e : AuthorizeEndpoint) {ports : Ports}

/-- The request a browser's request stands for, once resolved. -/
def Resolves (ports : Ports) (resolvers : Resolvers) (http : HttpRequest) (w : World)
    (request : AuthorizeRequest) : Prop :=
  ∃ w', (e.entry resolvers http).run (exec ports) w = (.ok (.inr request), w')

/-- What a request that forbids interaction is answered, once resolved. -/
theorem run_proceed_none {resolvers : Resolvers} {request : AuthorizeRequest}
    {http : HttpRequest} {w w' : World} {answer : WebAnswer} (hnone : request.prompts "none")
    (hrun : (e.proceed resolvers request http).run (exec ports) w = (.ok answer, w')) :
    (∀ next, answer ≠ .login next ∧ answer ≠ .signup next) ∧
      (answer.Issues → (http.user.isSome ∨ e.requireLogin = false) ∧
        ¬e.AsksConsent ports w (withAuthenticatedSubject request http)) := by
  have hdeclined : ∀ {a : WebAnswer}, Declines a →
      (∀ next, a ≠ .login next ∧ a ≠ .signup next) ∧
        (a.Issues → (http.user.isSome ∨ e.requireLogin = false) ∧
          ¬e.AsksConsent ports w (withAuthenticatedSubject request http)) := by
    intro a ha
    refine ⟨fun next => ⟨?_, ?_⟩, fun h => absurd h ha.2⟩
    · rintro rfl
      exact ha.1 trivial
    · rintro rfl
      exact ha.1 trivial
  obtain ⟨refused, w₁, hfirst, hrun⟩ := Prog.run_bind_ok.mp hrun
  have hfirst' := (e.declines_nonRedirectableError resolvers request).of_run hfirst
  have hsame₁ : SameConsents w w₁ := by
    have h := SameConsents.run (e.nonRedirectableError_uses resolvers request) rfl ports w
    rwa [hfirst] at h
  cases refused with
  | some refused =>
      cases hrun
      exact hdeclined hfirst'
  | none =>
  obtain ⟨gated, w₂, hgate, hrun⟩ := Prog.run_bind_ok.mp hrun
  have hgate' := (e.passes_authenticationGate hnone http).of_run hgate
  have hsame₂ : SameConsents w w₂ := by
    have h := SameConsents.run (e.authenticationGate_uses request http) rfl ports w₁
    rw [hgate] at h
    exact hsame₁.trans h
  cases gated with
  | some refused =>
      cases hrun
      exact hdeclined (declines_refused hgate')
  | none =>
  obtain ⟨consented, w₃, hconsent, hrun⟩ := Prog.run_bind_ok.mp hrun
  rcases e.run_consentRedirect hconsent with ⟨rfl, hasks⟩ | ⟨rfl, hasks⟩
  · have hquiet := (executionRedirect_answers _ _ _ _ _).of_run hrun
    refine ⟨fun next => ⟨?_, ?_⟩, fun _ => ⟨hgate', ?_⟩⟩
    · rintro rfl
      exact hquiet trivial
    · rintro rfl
      exact hquiet trivial
    · exact fun h => hasks (h.congr e hsame₂.symm)
  · cases hrun
    exact ⟨fun _ => ⟨nofun, nofun⟩, fun h => absurd h nofun⟩

/-- A request that forbids interaction, whatever the session and the server, is sent neither
to the login nor to the signup page. It is issued a code or a token only if no consent is
asked, and for a user who is logged in, or for nobody on a server that asks no login. -/
theorem prompt_none_answers {resolvers : Resolvers} {http : HttpRequest} {w w' : World}
    {answer : WebAnswer}
    (hnone : ∀ request, e.Resolves ports resolvers http w request → request.prompts "none")
    (hanswer : (e.handle resolvers http).run (exec ports) w = (.ok answer, w')) :
    (∀ next, answer ≠ .login next ∧ answer ≠ .signup next) ∧
      (answer.Issues → ∃ request, e.Resolves ports resolvers http w request ∧
        (http.user.isSome ∨ e.requireLogin = false ∧ request.subject = "") ∧
        ¬e.AsksConsent ports w (withAuthenticatedSubject request http)) := by
  obtain ⟨entered, w₁, hentry, hrun⟩ := Prog.run_bind_ok.mp hanswer
  have henters := (e.enters_entry resolvers http).of_run hentry
  cases entered with
  | inl direct =>
      cases hrun
      refine ⟨fun next => ⟨?_, ?_⟩, fun h => absurd h henters.2⟩
      · rintro rfl
        exact henters.1 trivial
      · rintro rfl
        exact henters.1 trivial
  | inr request =>
      have hresolves : e.Resolves ports resolvers http w request := ⟨w₁, hentry⟩
      have hsame : SameConsents w w₁ := by
        have h := SameConsents.run (e.entry_uses resolvers http) rfl ports w
        rwa [hentry] at h
      obtain ⟨hpages, hissues⟩ := e.run_proceed_none (hnone request hresolves) hrun
      refine ⟨hpages, fun h => ⟨request, hresolves, ?_, ?_⟩⟩
      · exact (hissues h).1.imp id fun hopen => ⟨hopen, henters⟩
      · exact fun hasks => (hissues h).2 (hasks.congr e hsame.symm)

end AuthorizeEndpoint

namespace AuthorizeEndpoint.Sample

open PurIdentityServer.Sample (ports client world)

def endpoint : AuthorizeEndpoint where
  usecase :=
    { platform := PurIdentityServer.Sample.platform
      config := {}
      halfDigest := fun _ value => value }
  consent := some { platform := PurIdentityServer.Sample.platform }
  baseUrl := "https://op.example"
  responses := Responses.Sample.redirects

def resolvers : Resolvers where
  resolveObject := fun _ form => .ok form
  unverifiedClaim := fun _ _ => ""
  federatedRedirects := fun _ => ∅

/-- A request of the registered client, with a prompt. -/
def form (prompt : String) : Form where
  params := [("response_type", "code"), ("client_id", "app"),
    ("redirect_uri", "https://app.example/cb"), ("scope", "openid"), ("prompt", prompt)]
  nodup := by simp [Dict.keys]

/-- A browser asks at a URL for it. -/
def request (prompt query : String) (user : Option String) (session : BrowserSession) :
    HttpRequest where
  query := query
  params := form prompt
  user := user
  session := session

/-- A client whose users are asked for their consent. -/
def asking : World :=
  { world with clients := Table.empty.save { client with requireConsent := true } }

def answer (w : World) (http : HttpRequest) : Except (Stop Empty) WebAnswer :=
  ((endpoint.handle resolvers http).run (exec ports) w).1

def issuedAnswer {ε : Type} : Except (Stop ε) WebAnswer → Bool
  | .ok (.issued _ _) => true
  | _ => false

def consentAnswer {ε : Type} : Except (Stop ε) WebAnswer → Bool
  | .ok (.consent _) => true
  | _ => false

/-- What the sample browser asks for is resolved to the parameters it sends. -/
theorem resolves (prompt query : String) (user : Option String)
    (session : BrowserSession) :
    (endpoint.entry resolvers (request prompt query user session)).run (exec ports) world =
      (.ok (.inr (authorizeRequestOf (form prompt).params "app")), world) := rfl

end AuthorizeEndpoint.Sample

open AuthorizeEndpoint.Sample in
open PurIdentityServer.Sample (ports world) in
/-- With a user who is logged in, the client gets its code. -/
theorem prompt_none_answers_logged_in :
    ∃ answer w', (endpoint.handle resolvers (request "none" "prompt=none" (some "u") {})).run
        (exec ports) world = (.ok answer, w') ∧ answer.Issues ∧
      (∀ next, answer ≠ .login next ∧ answer ≠ .signup next) := by
  rcases hrun : (endpoint.handle resolvers (request "none" "prompt=none" (some "u") {})).run
    (exec ports) world with ⟨result, w'⟩
  have hissued : issuedAnswer ((endpoint.handle resolvers
      (request "none" "prompt=none" (some "u") {})).run (exec ports) world).1 = true := by
    decide +kernel
  rw [hrun] at hissued
  dsimp only at hissued
  unfold issuedAnswer at hissued
  split at hissued
  · rename_i result response
    have hnone : ∀ asked, endpoint.Resolves ports resolvers
        (request "none" "prompt=none" (some "u") {}) world asked → asked.prompts "none" := by
      rintro asked ⟨w'', hasked⟩
      cases (resolves "none" "prompt=none" (some "u") {}).symm.trans hasked
      decide
    exact ⟨_, _, rfl, trivial,
      (AuthorizeEndpoint.prompt_none_answers endpoint hnone hrun).1⟩
  · cases hissued

open AuthorizeEndpoint.Sample in
open PurIdentityServer.Sample (world) in
/-- A server that asks no login issues a code for nobody; a client that requires consent gets
a redirection to the consent page. -/
theorem prompt_none_serves_nobody :
    (∃ result response,
      answer world (request "none" "prompt=none" none {}) = .ok (.issued result response)) ∧
    ∃ location, answer asking (request "none" "prompt=none" none {}) =
      .ok (.consent location) := by
  constructor
  · have hissued : issuedAnswer (answer world (request "none" "prompt=none" none {})) = true := by
      decide +kernel
    unfold issuedAnswer at hissued
    split at hissued
    · rename_i result response hanswer
      exact ⟨result, response, hanswer⟩
    · cases hissued
  · have hconsent : consentAnswer (answer asking (request "none" "prompt=none" none {})) = true := by
      decide +kernel
    unfold consentAnswer at hconsent
    split at hconsent
    · rename_i location hanswer
      exact ⟨location, hanswer⟩
    · cases hconsent

end PurIdentityServer

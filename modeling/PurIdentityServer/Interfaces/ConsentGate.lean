import PurIdentityServer.Concurrency.Consents
import PurIdentityServer.Interfaces.AuthorizeGates
import PurIdentityServer.Interfaces.ConsentPage

/-!
# ConsentGate — when the consent screen is skipped

Two routes ask `ConsentUseCase.isRequired` whether a request needs the
screen: `/authorize`, which sends the browser to the page, and `/consent`,
which shows it. A skip is in order for a client that needs no consent and
is not a FAPI client, and for a request that the user has granted before.

`consent_gate` says when a skip is in order, in any state that visits to
the deployment lead to: `isRequired` lets a FAPI client without
`require_consent` through, and `/authorize` asks about the scopes of a
request only, not about its authorization details.
-/

namespace PurIdentityServer

open Effects

/-- The two routes of a deployment, with the use case they share. -/
structure ConsentSite where
  page : ConsentPage
  endpoint : AuthorizeEndpoint
  consent_eq : endpoint.consent = some page.consent
  clients_eq : endpoint.clients = true

/-- A program that writes no consent. -/
def Unconsenting (p : M Empty WebAnswer) : Prop := p.Uses fun call => ∀ row, call ≠ .saveConsent row

/-- A visit: the form of the consent page, or anything that writes no consent. -/
inductive ConsentVisit where
  | decision (params : Params) (user : Option String)
  | other (program : M Empty WebAnswer) (silent : Unconsenting program)

/-- What a visit grants, when it grants something. -/
def ConsentVisit.grant : ConsentVisit → ConsentGrant
  | decision params user =>
      { subject := user.getD ""
        clientId := params.text "client_id"
        scopes := Scope.fromSpaceSeparated (params.text "scope")
        authorizationDetails := params.text "authorization_details" }
  | other _ _ => { subject := "", clientId := "", scopes := ∅ }

/-- A FAPI client. -/
def Client.AsksAlways (client : Client) : Prop :=
  client.fapiEnabled = true ∨ client.fapi2Enabled = true

namespace ConsentSite

variable (site : ConsentSite)

def serve : ConsentVisit → M Empty WebAnswer
  | .decision params user => site.page.consentDecision params user
  | .other program _ => program

/-! ## The visits write what is granted -/

section
variable {c : ConsentUseCase} {α β : Type} {g : ConsentUseCase.Progress}

theorem quiet_grant {l : List Area} (hl : l.contains .consents = false) :
    c.grantMonitor.Quiet (Call.In l) := by
  intro g call hcall
  have hne : call.area ≠ .consents := by
    intro harea
    have hin : l.contains call.area = true := hcall
    rw [harea, hl] at hin
    cases hin
  cases call with
  | findConsent subject clientId => exact absurd rfl hne
  | saveConsent row => exact absurd rfl hne
  | _ => exact ⟨trivial, fun _ _ => rfl⟩

/-- A part that neither reads nor writes consents, in front of the rest. -/
theorem wp_before_grant {l : List Area} {p : M Empty α} {f : α → M Empty β}
    (hp : p.Uses (Call.In l)) (hl : l.contains .consents = false)
    (hf : ∀ a, wp c.grantMonitor (f a) (fun _ _ => True) (fun _ _ => True) g) :
    wp c.grantMonitor (p >>= f) (fun _ _ => True) (fun _ _ => True) g :=
  wp_quiet_bind hp (quiet_grant hl) (fun _ => trivial) hf

theorem wp_unconsenting {p : M Empty α} (hp : p.Uses fun call => ∀ row, call ≠ .saveConsent row) :
    wp c.grantMonitor p (fun _ _ => True) (fun _ _ => True) g := by
  refine wp_of_uses hp (fun _ => True) (fun g call _ hcall => ?_) trivial
  cases call with
  | saveConsent row => exact absurd rfl (hcall row)
  | _ => exact ⟨trivial, fun _ _ => trivial⟩

end

theorem executionRedirect_areas (usecase : AuthorizeUseCase) (par : Bool) (responses : Responses)
    (request : AuthorizeRequest) (reference : String) :
    (executionRedirect usecase par responses request reference).Uses
      (Call.In (.pushed :: AuthorizeUseCase.areas)) := by
  refine Prog.uses_bind (Call.uses_mono (uses_outcome (usecase.execute_uses request)) rfl)
    fun result => ?_
  cases result with
  | error error => exact refusing_uses (Call.uses_mono (responses.errorResponse_uses error) rfl)
  | ok result =>
      refine Prog.uses_bind ?_ fun _ => Prog.uses_pure _ _
      split
      · refine Prog.uses_bind (Prog.uses_op rfl) fun found => ?_
        cases found with
        | none => exact Prog.uses_pure _ _
        | some pushed => exact Prog.uses_bind (Prog.uses_op rfl) fun _ => Prog.uses_pure _ _
      · exact Prog.uses_pure _ _

/-- Without the area of consents nothing writes one. -/
theorem unconsenting_of_areas {l : List Area} {p : M Empty WebAnswer} (hp : p.Uses (Call.In l))
    (hl : l.contains .consents = false) : Unconsenting p := by
  refine hp.mono fun call hcall row h => ?_
  subst h
  have hin : l.contains .consents = true := hcall
  rw [hl] at hin
  cases hin

theorem wp_serve (visit : ConsentVisit) :
    wp site.page.consent.grantMonitor (site.serve visit) (fun _ _ => True) (fun _ _ => True)
      { grant := visit.grant } := by
  cases visit with
  | other program silent => exact wp_unconsenting silent
  | decision params user =>
      unfold serve ConsentPage.consentDecision
      dsimp only
      split
      · exact wp_pure.mpr trivial
      cases user with
      | none => exact wp_pure.mpr trivial
      | some subject =>
          unfold ConsentPage.revalidated
          dsimp only
          split
          · exact wp_pure.mpr trivial
          refine wp_before_grant (uses_outcome (validateAuthorizationRequest_uses ..)) rfl
            fun validated => ?_
          cases validated with
          | error error =>
              exact wp_unconsenting (unconsenting_of_areas
                (refusing_uses (site.page.responses.errorResponse_uses error)) rfl)
          | ok validated =>
              dsimp only
              split
              · exact wp_unconsenting (unconsenting_of_areas
                  (refusing_uses (site.page.responses.errorResponse_uses _)) rfl)
              · refine (wp_bind _ _).mpr (wp_mono (site.page.consent.wp_granting
                  (ConsentVisit.decision params (some subject)).grant) ?_ fun _ _ _ => trivial)
                intro g _ _
                exact wp_unconsenting
                  (unconsenting_of_areas (executionRedirect_areas _ _ _ _ _) rfl)

/-! ## What a skip needs -/

variable (ports : Ports) {ι : Type} [DecidableEq ι] (visits : ι → ConsentVisit)
  (tr : List (Event ι Call World))

/-- The scopes and the details of a request. -/
def asked (scope authorizationDetails : String) : Allowance :=
  (Scope.fromSpaceSeparated scope, parseDetailKeys site.page.consent.platform authorizationDetails)

/-- All of it was granted by the subject to the client, by the visits of the past. -/
def Consented (subject : String) (client : Client) (a : Allowance) : Prop :=
  site.page.consent.GrantedBefore ports (fun i => (visits i).grant) tr subject client.clientId a

/-- The screen may be skipped. -/
def MaySkip (subject : String) (client : Client) (a : Allowance) (force : Prop) : Prop :=
  client.requireConsent = false ∧ ¬client.AsksAlways ∨
    site.Consented ports visits tr subject client a ∧ ¬force ∧ ¬client.AsksAlways

/-- The `/authorize` route goes on without the screen. -/
def EndpointSkips (w : World) (request : AuthorizeRequest) (http : HttpRequest)
    (reference : String) : Prop :=
  ∃ w', (site.endpoint.consentRedirectIfRequired
    (AuthorizeEndpoint.withAuthenticatedSubject request http) reference).run (exec ports) w =
      (.ok none, w')

/-- The `/consent` route answers something else than the screen. -/
def PageSkips (w : World) (request : AuthorizeRequest) (subject reference : String) : Prop :=
  ∀ shown pushed w', (site.page.handleConsent request subject reference).run (exec ports) w ≠
    (.ok (.consentScreen shown pushed), w')

/-! ## The two routes -/

variable {site ports visits tr}

theorem covers_iff {stored : Consent} {scope details : String} :
    stored.covers (Scope.fromSpaceSeparated scope)
        (parseDetailKeys site.page.consent.platform details) = true ↔
      site.asked scope details ≤ stored.allowance := by
  unfold Consent.covers
  rw [Bool.and_eq_true, decide_eq_true_eq, decide_eq_true_eq]
  exact Iff.rfl

/-- Who is not asked: a client without the flag, and one that does not ask at each request
for what its stored consent covers. -/
theorem not_asks_iff {w : World} {client : Client} {subject scope details : String}
    {force : Prop} [Decidable force] :
    ¬site.page.consent.Asks w client subject (Scope.fromSpaceSeparated scope) details force ↔
      client.requireConsent = false ∨ ¬client.AsksAlways ∧ ¬force ∧
        ∃ stored, w.consents.find (subject, client.clientId) = some stored ∧
          site.asked scope details ≤ stored.allowance := by
  unfold ConsentUseCase.Asks Client.AsksAlways
  cases hrequire : client.requireConsent with
  | false => simp
  | true =>
      simp only [true_and, not_or, not_forall, decide_eq_true_eq, Bool.not_eq_false,
        Bool.true_eq_false, false_or]
      constructor
      · rintro ⟨hfapi, hfapi2, hforce, stored, hstored, hcovers⟩
        exact ⟨⟨hfapi, hfapi2⟩, hforce, stored, hstored, covers_iff.mp hcovers⟩
      · rintro ⟨⟨hfapi, hfapi2⟩, hforce, stored, hstored, hle⟩
        exact ⟨hfapi, hfapi2, hforce, stored, hstored, covers_iff.mpr hle⟩

theorem withAuthenticatedSubject_same (request : AuthorizeRequest) (http : HttpRequest) :
    (AuthorizeEndpoint.withAuthenticatedSubject request http).clientId = request.clientId ∧
      (AuthorizeEndpoint.withAuthenticatedSubject request http).scope = request.scope ∧
      (AuthorizeEndpoint.withAuthenticatedSubject request http).prompt = request.prompt := by
  unfold AuthorizeEndpoint.withAuthenticatedSubject
  cases http.user with
  | none => exact ⟨rfl, rfl, rfl⟩
  | some user => exact ⟨rfl, rfl, rfl⟩

theorem endpointSkips_iff {w : World} {request : AuthorizeRequest} {http : HttpRequest}
    {reference : String} {client : Client}
    (hclient : w.findClient ports request.clientId = some client) :
    site.EndpointSkips ports w request http reference ↔
      ¬site.page.consent.Asks w client
        (AuthorizeEndpoint.withAuthenticatedSubject request http).subject
        (Scope.fromSpaceSeparated request.scope) "" (request.prompts "consent") := by
  obtain ⟨hid, hscope, hprompt⟩ := withAuthenticatedSubject_same request http
  unfold EndpointSkips AuthorizeEndpoint.consentRedirectIfRequired
  rw [site.consent_eq]
  dsimp only
  rw [if_neg (not_not.mpr site.clients_eq), run_ask_bind]
  have hreply : (exec ports (.findClient
      (AuthorizeEndpoint.withAuthenticatedSubject request http).clientId) w).1 = some client := by
    rw [hid]
    exact hclient
  have hforce : (AuthorizeEndpoint.withAuthenticatedSubject request http).prompts "consent" =
      request.prompts "consent" := by
    unfold AuthorizeRequest.prompts
    rw [hprompt]
  rw [hreply, hscope]
  simp only [hforce]
  obtain ⟨asks, hasks, hiff⟩ := site.page.consent.run_isRequired (ε := Empty) ports w client
    (AuthorizeEndpoint.withAuthenticatedSubject request http).subject
    (Scope.fromSpaceSeparated request.scope) "" (request.prompts "consent")
  constructor
  · rintro ⟨w', hrun⟩ hask
    obtain ⟨required, w'', hrequired, hrest⟩ := Prog.run_bind_ok.mp hrun
    cases hasks.symm.trans hrequired
    rw [hiff.mpr hask] at hrest
    cases hrest
  · intro hask
    refine ⟨w, Prog.run_bind_ok.mpr ⟨asks, w, hasks, ?_⟩⟩
    cases asks with
    | false => rfl
    | true => exact absurd (hiff.mp rfl) hask

theorem pageSkips_iff {w w₁ : World} {request : AuthorizeRequest} {subject reference : String}
    {validated : ValidatedAuthorization} (hredirect : request.redirectUri ≠ "")
    (hvalid : (outcome (validateAuthorizationRequest site.page.usecase.platform none request) :
      M Empty _).run (exec ports) w = (.ok (.ok validated), w₁)) :
    site.PageSkips ports w request subject reference ↔
      ¬site.page.consent.Asks w validated.client subject (Scope.fromSpaceSeparated request.scope)
        request.authorizationDetails (request.prompts "consent") := by
  have hsame : SameConsents w w₁ := by
    have h := SameConsents.run (@uses_outcome _ Empty _ _ _
      (validateAuthorizationRequest_uses site.page.usecase.platform none request)) rfl ports w
    rwa [hvalid] at h
  have hasksSame : site.page.consent.Asks w₁ validated.client subject
        (Scope.fromSpaceSeparated request.scope) request.authorizationDetails
        (request.prompts "consent") ↔
      site.page.consent.Asks w validated.client subject (Scope.fromSpaceSeparated request.scope)
        request.authorizationDetails (request.prompts "consent") := by
    unfold ConsentUseCase.Asks
    rw [hsame.consents]
  obtain ⟨asks, hasks, hiff⟩ := site.page.consent.run_isRequired (ε := Empty) ports w₁
    validated.client subject (Scope.fromSpaceSeparated request.scope) request.authorizationDetails
    (request.prompts "consent")
  have hrun : (site.page.handleConsent request subject reference).run (exec ports) w =
      ((if asks then pure (.consentScreen { request with subject := subject } reference)
        else executionRedirect site.page.usecase site.page.par site.page.responses
          { request with subject := subject } reference) : M Empty WebAnswer).run
        (exec ports) w₁ := by
    have hforce : ({ request with subject := subject } : AuthorizeRequest).prompts "consent" =
        request.prompts "consent" := rfl
    unfold ConsentPage.handleConsent ConsentPage.revalidated
    rw [if_neg hredirect, Prog.run_bind, hvalid]
    dsimp only
    rw [Prog.run_bind]
    simp only [hforce]
    rw [hasks]
  unfold PageSkips
  rw [hrun, ← hasksSame, ← hiff]
  cases asks with
  | true =>
      constructor
      · intro hskips
        exact absurd rfl (hskips _ _ _)
      · intro h
        exact absurd rfl h
  | false =>
      constructor
      · intro _ h
        cases h
      · intro _ shown pushed w' hexecuted
        exact (executionRedirect_answers _ _ _ _ _).of_run hexecuted trivial

/-! ## When a skip is in order -/

/-- A skip by a route that asks about `scope` and `details`, of a request for `a`. -/
theorem maySkip_iff {w : World} {subject scope details : String} {client : Client}
    {a : Allowance} {force : Prop} [Decidable force] :
    ((¬site.page.consent.Asks w client subject (Scope.fromSpaceSeparated scope) details force →
        site.MaySkip ports visits tr subject client a force) ↔
      (client.requireConsent = true ∨ ¬client.AsksAlways) ∧
        (client.requireConsent = true → ¬client.AsksAlways → ¬force →
          ∀ stored, w.consents.find (subject, client.clientId) = some stored →
            site.asked scope details ≤ stored.allowance →
            site.Consented ports visits tr subject client a)) := by
  rw [not_asks_iff]
  unfold MaySkip
  cases hrequire : client.requireConsent with
  | false =>
      constructor
      · intro h
        rcases h (.inl rfl) with ⟨-, hfapi⟩ | ⟨-, -, hfapi⟩
        · exact ⟨.inr hfapi, nofun⟩
        · exact ⟨.inr hfapi, nofun⟩
      · rintro ⟨hfapi, -⟩ _
        rcases hfapi with h | hfapi
        · cases h
        · exact .inl ⟨rfl, hfapi⟩
  | true =>
      constructor
      · intro h
        refine ⟨.inl rfl, fun _ hfapi hforce stored hstored hle => ?_⟩
        rcases h (.inr ⟨hfapi, hforce, stored, hstored, hle⟩) with ⟨h', -⟩ | ⟨hconsented, -⟩
        · cases h'
        · exact hconsented
      · rintro ⟨-, hconsented⟩ hskips
        rcases hskips with h' | ⟨hfapi, hforce, stored, hstored, hle⟩
        · cases h'
        · exact .inr ⟨hconsented rfl hfapi hforce stored hstored hle, hforce, hfapi⟩

/-- In every state that visits lead to, each route skips the screen in order exactly when
the client is not a FAPI client without `require_consent`, and on `/authorize` when, besides,
the details of a request whose scopes are covered have been granted. -/
theorem consent_gate (site : ConsentSite) (ports : Ports) (visits : ι → ConsentVisit)
    {w₀ : World} (hnew : w₀.consents = .empty) {tr : List (Event ι Call World)}
    {cfg : Config ι Call Reply (Stop Empty) WebAnswer World}
    (hrun : Run (machine ports) ⟨w₀, fun i => site.serve (visits i)⟩ tr cfg)
    (request : AuthorizeRequest) :
    (∀ subject reference validated w₁, request.redirectUri ≠ "" →
      (outcome (validateAuthorizationRequest site.page.usecase.platform none request) :
        M Empty _).run (exec ports) cfg.store = (.ok (.ok validated), w₁) →
      ((site.PageSkips ports cfg.store request subject reference →
          site.MaySkip ports visits tr subject validated.client
            (site.asked request.scope request.authorizationDetails)
            (request.prompts "consent")) ↔
        (validated.client.requireConsent = true ∨ ¬validated.client.AsksAlways))) ∧
      ∀ http reference client, cfg.store.findClient ports request.clientId = some client →
        ((site.EndpointSkips ports cfg.store request http reference →
            site.MaySkip ports visits tr
              (AuthorizeEndpoint.withAuthenticatedSubject request http).subject client
              (site.asked request.scope request.authorizationDetails)
              (request.prompts "consent")) ↔
          (client.requireConsent = true ∨ ¬client.AsksAlways) ∧
            (client.requireConsent = true → ¬client.AsksAlways → ¬request.prompts "consent" →
              ∀ stored, cfg.store.consents.find
                  ((AuthorizeEndpoint.withAuthenticatedSubject request http).subject,
                    client.clientId) = some stored →
                site.asked request.scope "" ≤ stored.allowance →
                site.Consented ports visits tr
                  (AuthorizeEndpoint.withAuthenticatedSubject request http).subject client
                  (⊥, (site.asked request.scope request.authorizationDetails).2))) := by
  have hgranted : ∀ subject client stored,
      cfg.store.consents.find (subject, client.clientId) = some stored →
        site.Consented ports visits tr subject client stored.allowance := by
    intro subject client stored hstored
    have h := ConsentUseCase.allowance_granted hrun hnew (fun i => site.wp_serve (visits i))
      subject client.clientId
    unfold World.allowance at h
    rw [hstored] at h
    exact h
  constructor
  · intro subject reference validated w₁ hredirect hvalid
    rw [pageSkips_iff hredirect hvalid, maySkip_iff]
    refine and_iff_left ?_
    intro _ _ _ stored hstored hle
    exact (hgranted subject validated.client stored hstored).mono hle
  · intro http reference client hclient
    rw [endpointSkips_iff hclient, maySkip_iff]
    refine and_congr_right fun _ => forall_congr' fun _ => forall_congr' fun _ =>
      forall_congr' fun _ => forall_congr' fun stored => forall_congr' fun hstored =>
      forall_congr' fun hle => ?_
    constructor
    · intro hconsented
      refine hconsented.mono ⟨Finset.empty_subset _, le_refl _⟩
    · intro hdetails
      have hscopes := (hgranted _ client stored hstored).mono hle
      refine (hscopes.sup hdetails).mono ⟨?_, ?_⟩
      · exact Finset.subset_union_left
      · exact Finset.subset_union_right

end ConsentSite

/-! ## A FAPI client without the flag -/

namespace ConsentSite.Sample

open PurIdentityServer.Sample (ports platform)

def page : ConsentPage where
  consent := { platform := platform }
  usecase := AuthorizeEndpoint.Sample.endpoint.usecase
  responses := Responses.Sample.redirects

def site : ConsentSite where
  page := page
  endpoint := AuthorizeEndpoint.Sample.endpoint
  consent_eq := rfl
  clients_eq := rfl

def client : Client := { PurIdentityServer.Sample.client with fapi2Enabled := true }

def world : World := { clock := 0, clients := Table.empty.save client }

def request : AuthorizeRequest where
  responseType := "code"
  clientId := "app"
  redirectUri := "https://app.example/cb"
  scope := "openid"

/-- The request of a browser where alice is logged in. -/
def http : HttpRequest := AuthorizeEndpoint.Sample.request "" "" (some "alice") {}

/-- Nobody has visited the deployment. -/
def visits : Empty → ConsentVisit := Empty.elim

def start : Config Empty Call Reply (Stop Empty) WebAnswer World :=
  ⟨world, fun i => site.serve (visits i)⟩

theorem client_found : world.findClient ports request.clientId = some client := by rfl

end ConsentSite.Sample

open ConsentSite.Sample in
/-- Nobody has consented to anything, and the screen is skipped. -/
theorem ConsentSite.fapiClient_not_asked :
    Run (machine PurIdentityServer.Sample.ports) start [] start ∧
      site.EndpointSkips PurIdentityServer.Sample.ports world request http "" ∧
      ¬site.MaySkip PurIdentityServer.Sample.ports visits [] "alice" client
        (site.asked request.scope request.authorizationDetails) (request.prompts "consent") := by
  have hfapi : client.AsksAlways := .inr rfl
  refine ⟨.refl, ⟨_, rfl⟩, ?_⟩
  rintro (⟨-, h⟩ | ⟨-, -, h⟩)
  · exact h hfapi
  · exact h hfapi

open ConsentSite.Sample in
theorem ConsentSite.consent_gate_fapi :
    (site.EndpointSkips PurIdentityServer.Sample.ports world request http "" →
        site.MaySkip PurIdentityServer.Sample.ports visits []
          (AuthorizeEndpoint.withAuthenticatedSubject request http).subject client
          (site.asked request.scope request.authorizationDetails)
          (request.prompts "consent")) ↔
      (client.requireConsent = true ∨ ¬client.AsksAlways) ∧
        (client.requireConsent = true → ¬client.AsksAlways → ¬request.prompts "consent" →
          ∀ stored, world.consents.find
              ((AuthorizeEndpoint.withAuthenticatedSubject request http).subject,
                client.clientId) = some stored →
            site.asked request.scope "" ≤ stored.allowance →
            site.Consented PurIdentityServer.Sample.ports visits []
              (AuthorizeEndpoint.withAuthenticatedSubject request http).subject client
              (⊥, (site.asked request.scope request.authorizationDetails).2)) :=
  (ConsentSite.consent_gate site PurIdentityServer.Sample.ports visits rfl
    (show Run _ start [] start from .refl) request).2 http "" client client_found

end PurIdentityServer

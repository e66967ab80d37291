import PurIdentityServer.Concurrency.Traffic
import PurIdentityServer.Interfaces.AuthorizeGates

/-!
# PushedSingleUse — one answer for one pushed request

Any number of browsers visit `/authorize` and `/consent` at the same time.
A visit resolves the reference of a pushed request long before it
completes it, and the consent page completes the reference the browser
sends back. `one_answer_of_one_reference` says when a reference gets one
answer; `two_answers_of_one_reference` is the run of two visits that have
both resolved the reference before either completes it.
-/

namespace PurIdentityServer

open Effects

/-! ## Visits -/

/-- The two interfaces as one application wires them: both complete pushed
requests. -/
structure PushedSite where
  endpoint : AuthorizeEndpoint
  consent : ConsentUseCase
  par : endpoint.par = true

/-- What a browser visits. A visit to the consent page names the reference of
the request that `/authorize` redirected; what the browser sends is in the
parameters. -/
inductive Visit where
  | authorize (resolvers : Resolvers) (http : HttpRequest)
  | consentPrompt (origin : String) (params : Params) (user : Option String)
  | consentDecision (origin : String) (params : Params) (user : Option String)

namespace Visit

/-- The visit is part of a flow of the pushed request. -/
def About (reference : String) : Visit → Prop
  | authorize _ http => AuthorizeEndpoint.pushedReference http = reference
  | consentPrompt origin _ _ | consentDecision origin _ _ => origin = reference

/-- The visit is to the consent page: it resolves nothing. -/
def OnConsentPage : Visit → Prop
  | authorize _ _ => False
  | _ => True

/-- The consent page is sent back the reference of its flow. -/
def SendsBack : Visit → Prop
  | authorize _ _ => True
  | consentPrompt origin params _ | consentDecision origin params _ =>
      params.text "pushed_reference" = origin

end Visit

namespace PushedSite

variable (s : PushedSite)

/-- The consent page of the application. -/
def page : ConsentPage where
  consent := s.consent
  usecase := s.endpoint.usecase
  par := s.endpoint.par
  responses := s.endpoint.responses

def serve : Visit → M Empty WebAnswer
  | .authorize resolvers http => s.endpoint.handle resolvers http
  | .consentPrompt _ params user => s.page.consentPrompt params user
  | .consentDecision _ params user => s.page.consentDecision params user

/-- The visits before any of them is served. -/
def visits {ι : Type} (w : World) (arrivals : ι → Visit) :
    Config ι Call Reply (Stop Empty) WebAnswer World where
  store := w
  procs := fun i => s.serve (arrivals i)

end PushedSite

/-- No row of the reference is left to be used. -/
def PushedSpent (reference : String) (w : World) : Prop :=
  ∀ row, w.pushed.find reference = some row → row.isConsumed = true

/-- The machine of a deployment: time passes, and the rest of the server works on the store
without reviving a spent reference. -/
def webMachine (ports : Ports) : Machine Call Reply World where
  exec := exec ports
  env := fun w w' => ∀ reference, PushedSpent reference w → PushedSpent reference w'

/-! ## What a visit does with the reference -/

/-- How far a visit has come: whether it is watched, whether its next lookup of the reference
completes the request, and whether it has consumed the reference. -/
structure Completion where
  watched : Prop
  resolved : Prop
  completed : Prop

/-- The calls on one reference. A watched visit that completes finds the row. -/
def completionMonitor (reference : String) : Monitor Call Reply Completion where
  good := fun g c r =>
    match c, r with
    | .findByRequestUri uri, r => uri = reference → g.watched → g.resolved → r ≠ none
    | _, _ => True
  ok := fun _ c =>
    match c with
    | .savePushed _ => False
    | _ => True
  next := fun g c _ =>
    match c with
    | .findByRequestUri uri => { g with resolved := g.resolved ∨ uri = reference }
    | .consumePushed uri => { g with completed := g.completed ∨ uri = reference }
    | _ => g

section
variable (reference : String)

theorem completionMonitor_quiet {l : List Area} (hl : l.contains .pushed = false) :
    (completionMonitor reference).Quiet (Call.In l) := by
  intro g c hc
  unfold Call.In at hc
  cases c
  case findByRequestUri | savePushed | consumePushed | deletePushed =>
    exact absurd (hl.symm.trans hc) (by decide)
  all_goals exact ⟨trivial, fun _ _ => rfl⟩

theorem completionMonitor_watched (g : Completion) (c : Call) (r : Reply c) :
    ((completionMonitor reference).next g c r).watched = g.watched := by
  cases c <;> rfl

/-- A watched visit that issues an answer has consumed the reference. -/
def Completed (g : Completion) (answer : WebAnswer) : Prop :=
  g.watched → answer.Issues → g.completed

variable {reference} {g : Completion}

theorem completed_of_not_issues {answer : WebAnswer} (h : ¬answer.Issues) :
    Completed g answer := fun _ hissues => absurd hissues h

/-- A quiet part of a visit, and what it returns. -/
theorem wp_quiet_part {ε α β : Type} {l : List Area} {p : M ε α} {f : α → M ε β}
    {P : α → Prop} {Q : Completion → β → Prop} (hp : p.Uses (Call.In l))
    (hl : l.contains .pushed = false) (hP : Ensures Monitor.free p P)
    (hf : ∀ a, P a → wp (completionMonitor reference) (f a) Q (fun _ _ => True) g) :
    wp (completionMonitor reference) (p >>= f) Q (fun _ _ => True) g := by
  have hquiet : wp (completionMonitor reference) p (fun g' _ => g' = g) (fun _ _ => True) g :=
    wp_of_quiet hp (completionMonitor_quiet reference hl) (fun _ => rfl) fun _ => trivial
  refine (wp_bind _ _).mpr (wp_mono (hP.and_wp hquiet) ?_ fun _ _ h => h)
  rintro _ a ⟨rfl, ha⟩
  exact hf a ha

theorem wp_refusing {l : List Area} {response : M Empty Response}
    (h : response.Uses (Call.In l)) (hl : l.contains .pushed = false) :
    wp (completionMonitor reference) (refusing response) Completed (fun _ _ => True) g :=
  wp_quiet_part h hl (ensures_free _) fun _ _ => wp_pure.mpr (completed_of_not_issues nofun)

/-- The completion of a reference, which ends every visit that issues an answer. -/
theorem wp_successRedirect {par : Bool} {responses : Responses} {result : AuthorizeRedirect}
    {sent : String}
    (hstage : g.watched → par = true ∧ sent = reference ∧ reference ≠ "" ∧ g.resolved) :
    wp (completionMonitor reference) (successRedirect par responses result sent) Completed
      (fun _ _ => True) g := by
  unfold successRedirect
  split
  · refine (wp_bind _ _).mpr ?_
    unfold PushedAuthorizationUseCase.complete
    refine wp_ask_bind.mpr ⟨trivial, fun found hfound => ?_⟩
    cases found with
    | none =>
        refine wp_pure.mpr (wp_pure.mpr fun hwatched => ?_)
        obtain ⟨-, hsent, -, hresolved⟩ := hstage hwatched
        exact absurd rfl (hfound hsent hwatched hresolved)
    | some row =>
        refine wp_op.mpr ⟨trivial, fun _ _ => wp_pure.mpr fun hwatched _ => ?_⟩
        exact .inr (hstage hwatched).2.1
  · rename_i hskip
    refine wp_pure.mpr fun hwatched => ?_
    obtain ⟨hpar, hsent, hne, -⟩ := hstage hwatched
    exact absurd ⟨hpar, by rwa [hsent]⟩ hskip

theorem wp_executionRedirect {usecase : AuthorizeUseCase} {par : Bool} {responses : Responses}
    {request : AuthorizeRequest} {sent : String}
    (hstage : g.watched → par = true ∧ sent = reference ∧ reference ≠ "" ∧ g.resolved) :
    wp (completionMonitor reference)
      (executionRedirect usecase par responses request sent) Completed (fun _ _ => True) g := by
  refine wp_quiet_part (uses_outcome (usecase.execute_uses request)) rfl (ensures_free _)
    fun result _ => ?_
  cases result with
  | ok result => exact wp_successRedirect hstage
  | error error => exact wp_refusing (responses.errorResponse_uses error) rfl

/-- Resolving a reference looks it up once. -/
theorem wp_resolve (uri clientId : String) :
    wp (completionMonitor reference) (PushedAuthorizationUseCase.resolve uri clientId)
      (fun g' _ => g' = { g with resolved := g.resolved ∨ uri = reference })
      (fun g' _ => g' = { g with resolved := g.resolved ∨ uri = reference }) g := by
  refine wp_ask_bind.mpr ⟨trivial, fun found _ => ?_⟩
  cases found with
  | none => exact wp_fail.mpr rfl
  | some row =>
      refine wp_ask_bind.mpr ⟨trivial, fun now _ => ?_⟩
      split
      · exact wp_ask_bind.mpr ⟨trivial, fun _ _ => wp_fail.mpr rfl⟩
      split
      · exact wp_ask_bind.mpr ⟨trivial, fun _ _ => wp_fail.mpr rfl⟩
      · exact wp_refuseIf_bind.mpr ⟨fun _ => rfl, fun _ => wp_pure.mpr rfl⟩

end

/-! ## The visits -/

section
variable {reference : String} {g : Completion}

theorem wp_proceed (e : AuthorizeEndpoint) (resolvers : Resolvers) (request : AuthorizeRequest)
    (http : HttpRequest)
    (hstage : g.watched → e.par = true ∧ AuthorizeEndpoint.pushedReference http = reference ∧
      reference ≠ "" ∧ g.resolved) :
    wp (completionMonitor reference) (e.proceed resolvers request http) Completed
      (fun _ _ => True) g := by
  refine wp_quiet_part (e.nonRedirectableError_uses resolvers request) rfl
    (e.declines_nonRedirectableError resolvers request) fun refused hrefused => ?_
  cases refused with
  | some answer => exact wp_pure.mpr (completed_of_not_issues hrefused.2)
  | none =>
  refine wp_quiet_part (e.authenticationGate_uses request http) rfl
    (e.guards_authenticationGate request http) fun gated hgated => ?_
  cases gated with
  | some answer => exact wp_pure.mpr (completed_of_not_issues hgated)
  | none =>
  refine wp_quiet_part (e.consentRedirectIfRequired_uses _ _) rfl
    (e.guards_consentRedirect _ _) fun asked hasked => ?_
  cases asked with
  | some answer => exact wp_pure.mpr (completed_of_not_issues hasked)
  | none => exact wp_executionRedirect hstage

theorem wp_handle_visit (e : AuthorizeEndpoint) (hpar : e.par = true) (resolvers : Resolvers)
    (http : HttpRequest) (hne : reference ≠ "")
    (habout : g.watched → AuthorizeEndpoint.pushedReference http = reference) :
    wp (completionMonitor reference) (e.handle resolvers http) Completed (fun _ _ => True) g := by
  refine (wp_bind _ _).mpr ?_
  unfold AuthorizeEndpoint.entry
  split
  · unfold AuthorizeEndpoint.resolvePushedRequest
    rw [if_neg (not_not.mpr hpar)]
    refine (wp_bind _ _).mpr ((wp_handle _ _).mpr ((wp_bind _ _).mpr
      (wp_mono (wp_resolve _ _) ?_ ?_)))
    · rintro _ request rfl
      refine wp_pure.mpr (wp_pure.mpr (wp_proceed e resolvers request http fun hwatched => ?_))
      exact ⟨hpar, habout hwatched, hne, .inr (habout hwatched)⟩
    · rintro _ (error | raised) rfl
      · refine wp_pure.mpr (wp_quiet_part (e.pushedParamResponse_uses error) rfl
          (e.declines_pushedParamResponse error) fun answer h => wp_pure.mpr ?_)
        exact wp_pure.mpr (completed_of_not_issues h.2)
      · exact wp_fail.mpr trivial
  · rename_i hdirect
    have hunwatched : ¬g.watched := fun hwatched => hne ((habout hwatched).symm.trans
      (not_not.mp hdirect))
    have hquiet : wp (completionMonitor reference) (e.directAuthorizeRequest resolvers http)
        (fun g' _ => g' = g) (fun _ _ => True) g :=
      wp_of_quiet (e.directAuthorizeRequest_uses resolvers http)
        (completionMonitor_quiet reference rfl) (fun _ => rfl) fun _ => trivial
    refine wp_mono ((e.enters_direct resolvers http).and_wp hquiet) ?_ fun _ _ h => h
    rintro _ (answer | request) ⟨rfl, hentered⟩
    · exact wp_pure.mpr (completed_of_not_issues hentered.2)
    · exact wp_proceed e resolvers request http fun hwatched => absurd hwatched hunwatched

theorem wp_revalidated (c : ConsentPage) (request : AuthorizeRequest)
    {f : ValidatedAuthorization → M Empty WebAnswer}
    (hf : ∀ validated, wp (completionMonitor reference) (f validated) Completed
      (fun _ _ => True) g) :
    wp (completionMonitor reference) (c.revalidated request f) Completed (fun _ _ => True) g := by
  unfold ConsentPage.revalidated
  split
  · exact wp_pure.mpr (completed_of_not_issues nofun)
  refine wp_quiet_part (uses_outcome (validateAuthorizationRequest_uses ..)) rfl (ensures_free _)
    fun validated _ => ?_
  cases validated with
  | ok validated => exact hf validated
  | error error => exact wp_refusing (c.responses.errorResponse_uses error) rfl

theorem wp_consentPrompt (c : ConsentPage) (params : Params) (user : Option String)
    (hstage : g.watched → c.par = true ∧ params.text "pushed_reference" = reference ∧
      reference ≠ "" ∧ g.resolved) :
    wp (completionMonitor reference) (c.consentPrompt params user) Completed
      (fun _ _ => True) g := by
  cases user with
  | none => exact wp_pure.mpr (completed_of_not_issues nofun)
  | some subject =>
      refine wp_revalidated c _ fun validated => ?_
      refine wp_quiet_part (ConsentUseCase.isRequired_uses ..) rfl (ensures_free _)
        fun required _ => ?_
      cases required with
      | true => exact wp_pure.mpr (completed_of_not_issues nofun)
      | false => exact wp_executionRedirect hstage

theorem wp_consentDecision (c : ConsentPage) (params : Params) (user : Option String)
    (hstage : g.watched → c.par = true ∧ params.text "pushed_reference" = reference ∧
      reference ≠ "" ∧ g.resolved) :
    wp (completionMonitor reference) (c.consentDecision params user) Completed
      (fun _ _ => True) g := by
  unfold ConsentPage.consentDecision
  dsimp only
  split
  · exact wp_pure.mpr (completed_of_not_issues nofun)
  cases user with
  | none => exact wp_pure.mpr (completed_of_not_issues nofun)
  | some subject =>
      refine wp_revalidated c _ fun validated => ?_
      split
      · exact wp_refusing (c.responses.errorResponse_uses _) rfl
      · exact wp_quiet_part (ConsentUseCase.grant_uses ..) rfl (ensures_free _)
          fun _ _ => wp_executionRedirect hstage

end

/-! ## Runs of visits -/

section
variable {ι : Type} [DecidableEq ι]

/-- Where a visit starts: on the consent page, the next lookup completes the request. -/
def Visit.start (reference : String) (visit : Visit) : Completion where
  watched := visit.About reference
  resolved := visit.OnConsentPage
  completed := False

/-- A call of the visit by which it completes the pushed request: it consumes the reference,
or looks it up once it has been resolved. -/
def CompletingCall (reference : String) (arrivals : ι → Visit) (past : List (Event ι Call World))
    (e : Event ι Call World) : Prop :=
  (arrivals e.pid).About reference ∧
    (e.call = .consumePushed reference ∨ e.call = .findByRequestUri reference ∧
      ((arrivals e.pid).OnConsentPage ∨
        ∃ e' ∈ past, e'.pid = e.pid ∧ e'.call = .findByRequestUri reference))

/-- The visits of the reference send it back from the consent page, and every one that
completes the request finds the row of the reference, not consumed. -/
structure CompletesFirst (reference : String) (arrivals : ι → Visit)
    (tr : List (Event ι Call World)) : Prop where
  sendsBack : ∀ i, (arrivals i).About reference → (arrivals i).SendsBack
  finds : ∀ later e past, tr = later ++ e :: past → CompletingCall reference arrivals past e →
    ¬PushedSpent reference e.pre

/-- A visit of the reference that has been answered with a code or a token. -/
def Obtains (reference : String) (arrivals : ι → Visit)
    (cfg : Config ι Call Reply (Stop Empty) WebAnswer World) (i : ι) : Prop :=
  (arrivals i).About reference ∧ ∃ answer, cfg.procs i = .pure answer ∧ answer.Issues

theorem PushedSite.wp_serve (s : PushedSite) {reference : String} (hne : reference ≠ "")
    {visit : Visit} (hsends : visit.About reference → visit.SendsBack) :
    wp (completionMonitor reference) (s.serve visit) Completed (fun _ _ => True)
      (visit.start reference) := by
  cases visit with
  | authorize resolvers http =>
      exact wp_handle_visit s.endpoint s.par resolvers http hne fun hwatched => hwatched
  | consentPrompt origin params user =>
      refine wp_consentPrompt s.page params user fun hwatched => ⟨s.par, ?_, hne, trivial⟩
      exact (hsends hwatched).trans hwatched
  | consentDecision origin params user =>
      refine wp_consentDecision s.page params user fun hwatched => ⟨s.par, ?_, hne, trivial⟩
      exact (hsends hwatched).trans hwatched

omit [DecidableEq ι] in
/-- One call: a spent reference stays spent, and a consumption spends it. -/
theorem PushedSpent.exec {reference : String} {ports : Ports} {w : World} {c : Call}
    (hc : ∀ row, c ≠ .savePushed row)
    (h : PushedSpent reference w ∨ c = .consumePushed reference) :
    PushedSpent reference (exec ports c w).2 := by
  intro row hrow
  rw [exec_pushed] at hrow
  cases c
  case savePushed saved => exact absurd rfl (hc saved)
  case consumePushed uri =>
      simp only [World.consumePushed, Table.find_update] at hrow
      split at hrow
      · obtain ⟨old, -, rfl⟩ := Option.map_eq_some_iff.mp hrow
        rfl
      · rename_i huri
        rcases h with h | h
        · exact h row hrow
        · exact absurd (Call.consumePushed.inj h).symm huri
  case deletePushed uri =>
      simp only [Table.find_delete] at hrow
      split at hrow
      · cases hrow
      · rcases h with h | h
        · exact h row hrow
        · cases h
  all_goals
    rcases h with h | h
    · exact h row hrow
    · cases h

/-- The consumptions of the reference by its own visits. -/
def ConsumesPushed (reference : String) (arrivals : ι → Visit) (e : Event ι Call World) : Prop :=
  (arrivals e.pid).About reference ∧ e.call = .consumePushed reference

/-- What is watched of a visit does not change. -/
theorem ghost_watched (M : Machine Call Reply World) (reference : String) (g₀ : Completion)
    (i : ι) (tr : List (Event ι Call World)) :
    (ghost M (completionMonitor reference) g₀ i tr).watched = g₀.watched := by
  induction tr with
  | nil => rfl
  | cons e past ih =>
      by_cases hpid : e.pid = i
      · rw [ghost, if_pos hpid, completionMonitor_watched, ih]
      · rw [ghost, if_neg hpid, ih]

/-- A visit whose next lookup completes the request is on the consent page, or has looked the
reference up. -/
theorem ghost_resolved {M : Machine Call Reply World} {reference : String} {visit : Visit}
    {i : ι} {tr : List (Event ι Call World)}
    (h : (ghost M (completionMonitor reference) (visit.start reference) i tr).resolved) :
    visit.OnConsentPage ∨ ∃ e ∈ tr, e.pid = i ∧ e.call = .findByRequestUri reference := by
  by_cases hpage : visit.OnConsentPage
  · exact .inl hpage
  · obtain ⟨later, ⟨j, c, pre⟩, past, htr, hpid, hbefore, hafter⟩ :=
      exists_establishing (P := Completion.resolved) hpage h
    refine .inr ⟨⟨j, c, pre⟩, by rw [htr]; simp, hpid, ?_⟩
    cases c
    case findByRequestUri uri =>
        rcases hafter with hafter | rfl
        · exact absurd hafter hbefore
        · rfl
    all_goals exact absurd hafter hbefore

/-- However the visits of any number of browsers interleave: when the consent page is sent
back the reference and every visit that completes a request finds it unused, at most one visit
of the reference obtains a code or a token. -/
theorem one_answer_of_one_reference (ports : Ports) (s : PushedSite) (w : World)
    (arrivals : ι → Visit) {reference : String} (hne : reference ≠ "")
    {tr : List (Event ι Call World)}
    {cfg : Config ι Call Reply (Stop Empty) WebAnswer World}
    (hrun : Run (webMachine ports) (s.visits w arrivals) tr cfg)
    (hfirst : CompletesFirst reference arrivals tr) {i j : ι}
    (hi : Obtains reference arrivals cfg i) (hj : Obtains reference arrivals cfg j) : i = j := by
  obtain ⟨honce, hwp⟩ := hrun.invariant_after (completionMonitor reference)
    (fun i => (arrivals i).start reference)
    (Once (ConsumesPushed reference arrivals) (PushedSpent reference))
    (Once.nil _ _ _) (fun i => s.wp_serve hne (hfirst.sendsBack i))
    (fun past v v' honce hmove => honce.move (hmove reference))
    (by
      intro past v i c honce hcond hok
      have hsave : ∀ row, c ≠ .savePushed row := by
        rintro row rfl
        exact hok
      refine ⟨?_, honce.cons (fun hspent => .exec hsave (.inl hspent)) ?_⟩
      · cases c
        case findByRequestUri uri =>
            rintro rfl hwatched hresolved hnone
            rw [ghost_watched] at hwatched
            refine hcond ⟨hwatched, .inr ⟨rfl, ghost_resolved hresolved⟩⟩ ?_
            intro row hrow
            cases hnone.symm.trans hrow
        all_goals trivial
      · rintro ⟨habout, hconsumes⟩
        exact ⟨hcond ⟨habout, .inl hconsumes⟩, .exec hsave (.inr hconsumes)⟩)
    hfirst.finds
  have hconsumed : ∀ k, Obtains reference arrivals cfg k →
      (ghost (webMachine ports) (completionMonitor reference)
        ((arrivals k).start reference) k tr).watched ∧
      (ghost (webMachine ports) (completionMonitor reference)
        ((arrivals k).start reference) k tr).completed := by
    rintro k ⟨habout, answer, hanswer, hissues⟩
    have hwatched : (ghost (webMachine ports) (completionMonitor reference)
        ((arrivals k).start reference) k tr).watched := by
      rw [ghost_watched]
      exact habout
    have hk := hwp k
    rw [hanswer] at hk
    exact ⟨hwatched, wp_pure.mp hk hwatched hissues⟩
  have hstart : ∀ k, ¬(((arrivals k).start reference).watched ∧
      ((arrivals k).start reference).completed) := fun k h => h.2
  refine honce.unique_pid (M := webMachine ports) (m := completionMonitor reference)
    (fun g : Completion => g.watched ∧ g.completed) hstart ?_ (hconsumed i hi) (hconsumed j hj)
  rintro k past c pre hbefore ⟨hwatched, hcompleted⟩
  cases c
  case consumePushed uri =>
      have hbegan := ghost_watched (webMachine ports) reference ((arrivals k).start reference) k
        past
      have habout : (arrivals k).About reference := Eq.mp hbegan hwatched
      rcases hcompleted with hcompleted | rfl
      · exact absurd ⟨hwatched, hcompleted⟩ hbefore
      · exact ⟨habout, rfl⟩
  all_goals exact absurd ⟨hwatched, hcompleted⟩ hbefore

end

/-! ### Two visits of one reference -/

namespace PushedSite.Sample

open PurIdentityServer.Sample (ports world)
open AuthorizeEndpoint.Sample (resolvers)

def site : PushedSite where
  endpoint := AuthorizeEndpoint.Sample.endpoint
  consent := { platform := PurIdentityServer.Sample.platform }
  par := rfl

def reference : String := "urn:ietf:params:oauth:request_uri:p"

/-- The store after the client has pushed a request. -/
def pushedWorld : World :=
  { world with
    pushed := Table.empty.save
      { requestUri := reference
        clientId := "app"
        params := [("client_id", "app"), ("response_type", "code"),
          ("redirect_uri", "https://app.example/cb"), ("scope", "openid")]
        expiresAt := seconds 90 } }

/-- Two browser tabs open the URL of the pushed request. -/
def arrivals (_ : Bool) : Visit :=
  .authorize resolvers
    { query := ""
      params :=
        { params := [("client_id", "app"), ("request_uri", reference)]
          nodup := by simp [Dict.keys] }
      user := some "u" }

def start : Config Bool Call Reply (Stop Empty) WebAnswer World :=
  site.visits pushedWorld arrivals

def obtained (p : M Empty WebAnswer) : Bool :=
  match p with
  | .pure (.issued _ _) => true
  | _ => false

theorem obtains {cfg : Config Bool Call Reply (Stop Empty) WebAnswer World} {i : Bool}
    (h : obtained (cfg.procs i) = true) : Obtains reference arrivals cfg i := by
  refine ⟨rfl, ?_⟩
  unfold obtained at h
  split at h
  · rename_i result response hproc
    exact ⟨_, hproc, trivial⟩
  · cases h

/-- One tab after the other. -/
def sequential :
    List (Event Bool Call World) × Config Bool Call Reply (Stop Empty) WebAnswer World :=
  Config.schedule (webMachine ports) (List.replicate 11 false ++ List.replicate 3 true)
    ([], start)

def unused (w : World) : Bool :=
  match w.pushed.find reference with
  | some row => !row.isConsumed
  | none => false

theorem not_spent {w : World} (h : unused w = true) : ¬PushedSpent reference w := by
  intro hspent
  unfold unused at h
  split at h
  · rename_i row hrow
    rw [hspent row hrow] at h
    cases h
  · cases h

def isLookup (e : Event Bool Call World) : Bool :=
  match e.call with
  | .findByRequestUri uri => uri = reference
  | _ => false

/-- The calls that complete a request find it unused, along a trace. -/
def findsUnused : List (Event Bool Call World) → Bool
  | [] => true
  | e :: past =>
      findsUnused past &&
        match e.call with
        | .consumePushed _ => unused e.pre
        | .findByRequestUri _ =>
            unused e.pre || !(past.any fun e' => e'.pid == e.pid && isLookup e')
        | _ => true

theorem completesFirst {tr : List (Event Bool Call World)} (h : findsUnused tr = true) :
    CompletesFirst reference arrivals tr := by
  refine ⟨fun _ _ => trivial, ?_⟩
  rintro later ⟨i, c, pre⟩ past rfl ⟨-, hcall⟩
  have hpast : findsUnused (⟨i, c, pre⟩ :: past) = true := by
    induction later with
    | nil => exact h
    | cons e later ih =>
        rw [List.cons_append, findsUnused, Bool.and_eq_true] at h
        exact ih h.1
  rw [findsUnused, Bool.and_eq_true] at hpast
  rcases hcall with rfl | ⟨rfl, hpage | ⟨e, he, hpid, hlookup⟩⟩
  · exact not_spent hpast.2
  · exact absurd hpage id
  · rcases Bool.or_eq_true _ _ ▸ hpast.2 with hunused | hfirst
    · exact not_spent hunused
    · have hany : (past.any fun e' => e'.pid == i && isLookup e') = true := by
        refine List.any_eq_true.mpr ⟨e, he, ?_⟩
        simp [hpid, isLookup, hlookup]
      rw [hany] at hfirst
      cases hfirst

end PushedSite.Sample

open PushedSite.Sample in
/-- One tab after the other: only the first is answered with a code. -/
theorem one_answer_of_one_reference_sequential :
    Obtains reference arrivals sequential.2 false ∧
      ∀ i, Obtains reference arrivals sequential.2 i → i = false := by
  have hfalse : Obtains reference arrivals sequential.2 false := obtains (by decide +kernel)
  refine ⟨hfalse, fun i hi => ?_⟩
  exact one_answer_of_one_reference Sample.ports site pushedWorld arrivals (by decide)
    (Run.ofSchedule (webMachine Sample.ports) start
      (List.replicate 11 false ++ List.replicate 3 true))
    (completesFirst (by decide +kernel)) hi hfalse

open PushedSite.Sample in
/-- When both tabs have resolved the reference before either completes it, both are answered
with a code. -/
theorem two_answers_of_one_reference :
    ¬ ∀ (ports : Ports) (s : PushedSite) (w : World) (arrivals : Bool → Visit)
      (reference : String) (tr : List (Event Bool Call World))
      (cfg : Config Bool Call Reply (Stop Empty) WebAnswer World), reference ≠ "" →
      Run (webMachine ports) (s.visits w arrivals) tr cfg →
      ∀ i j, Obtains reference arrivals cfg i → Obtains reference arrivals cfg j → i = j := by
  intro h
  -- nine calls each, up to the code, then the completion of each
  let order := List.replicate 9 false ++ List.replicate 11 true ++ [false, false]
  have hrun := Run.ofSchedule (webMachine Sample.ports) start order
  have hfalse : Obtains reference arrivals
      (Config.schedule (webMachine Sample.ports) order ([], start)).2 false :=
    obtains (by decide +kernel)
  have htrue : Obtains reference arrivals
      (Config.schedule (webMachine Sample.ports) order ([], start)).2 true :=
    obtains (by decide +kernel)
  exact Bool.false_ne_true (h _ site pushedWorld arrivals reference _ _ (by decide) hrun _ _
    hfalse htrue)

end PurIdentityServer

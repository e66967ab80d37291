import PurIdentityServer.Interfaces.AuthorizeGates
import PurIdentityServer.Lib.History

/-!
# FreshAuthentication — the logins of a browser and the requests they serve

A login leaves its moment and the imprint of the URL it returns to in the
session cookie. The gate of `/authorize` reads them to tell whether the
user has authenticated for the request it is served. A request that comes
back at the same URL, long after, finds the same imprint.
-/

namespace PurIdentityServer

open Effects

/-! ## What the gate lets through -/

namespace AuthorizeEndpoint

variable (e : AuthorizeEndpoint) {ports : Ports}

/-- The session was opened for the URL of the request. -/
def LoggedInFor (http : HttpRequest) : Prop := http.session.reauth = e.urlHash http

/-- The session is as recent as the request wants it, at a moment. -/
def Recent (request : AuthorizeRequest) (http : HttpRequest) (now : Instant) : Prop :=
  ¬request.prompts "login" ∧ 0 < request.maxAge ∧
    now.epoch - http.session.authTime ≤ request.maxAge

/-- The request asks for a fresh authentication. -/
def WantsFresh (request : AuthorizeRequest) : Prop :=
  request.prompts "login" ∨ 0 ≤ request.maxAge

theorem fresh_of_not_required {request : AuthorizeRequest} {http : HttpRequest} {now : Instant}
    (hwants : WantsFresh request) (h : e.reauthenticationRequired request http now = false) :
    e.LoggedInFor http ∨ Recent request http now := by
  unfold reauthenticationRequired at h
  split at h
  · cases h
  rename_i hlogin
  by_cases hurl : http.session.reauth = e.urlHash http
  · exact .inl hurl
  have hnologin : ¬request.prompts "login" := fun hprompt => hlogin ⟨hprompt, hurl⟩
  have hage : 0 ≤ request.maxAge := hwants.resolve_left hnologin
  unfold maxAgeRequirementUnmet at h
  split at h
  · exact absurd h (by simp [hurl])
  split at h
  · omega
  split at h
  · cases h
  split at h
  · rename_i hzero _ _ hrecent
    exact .inr ⟨hnologin, by omega, hrecent⟩
  · exact absurd h (by simp [hurl])

/-- A request that asks for a fresh authentication passes the gate with a session that
satisfies it, or with nobody logged in when only the age of the session is asked and the
server asks no login. -/
theorem run_authenticationGate_none {request : AuthorizeRequest} {http : HttpRequest}
    {w w' : World} (hwants : WantsFresh request)
    (hrun : (e.authenticationGate request http).run (exec ports) w = (.ok none, w')) :
    (http.user.isSome ∧ (e.LoggedInFor http ∨ Recent request http w.clock)) ∨
      (http.user = none ∧ ¬request.prompts "login" ∧ e.requireLogin = false) := by
  have hstops : ∀ {p : M Empty WebAnswer} {v : World},
      (p >>= fun answer => pure (some answer)).run (exec ports) v ≠
        ((.ok none : Except (Stop Empty) (Option WebAnswer)), w') := by
    intro p v h
    obtain ⟨answer, v', -, hpure⟩ := Prog.run_bind_ok.mp h
    cases hpure
  unfold authenticationGate at hrun
  split at hrun
  · unfold registrationGate at hrun
    dsimp only at hrun
    split at hrun
    · exact absurd hrun hstops
    split at hrun
    · exact absurd hrun hstops
    split at hrun
    · exact absurd hrun hstops
    split at hrun
    · rename_i hcreated
      exact .inl ⟨hcreated.1, .inl hcreated.2⟩
    · cases hrun
  split at hrun
  · exact absurd hrun hstops
  rw [run_ask_bind] at hrun
  have hclock : (exec ports .now w) = (w.clock, w) := rfl
  rw [hclock] at hrun
  dsimp only at hrun
  split at hrun
  · split at hrun
    · rw [run_ask_bind] at hrun
      exact absurd hrun hstops
    · cases hrun
  rename_i hfresh
  split at hrun
  · exact absurd hrun hstops
  rename_i hlogin
  cases huser : http.user with
  | none =>
      refine .inr ⟨rfl, fun hprompt => ?_, ?_⟩
      · exact hlogin ⟨by rw [huser]; rfl, .inr hprompt⟩
      · simpa using fun hrequire => hlogin ⟨by rw [huser]; rfl, .inl hrequire⟩
  | some user =>
      refine .inl ⟨rfl, e.fresh_of_not_required hwants ?_⟩
      simpa [huser] using hfresh

/-- An answer of the endpoint that issues something has passed the gate. -/
theorem run_handle_passed {resolvers : Resolvers} {http : HttpRequest}
    {request : AuthorizeRequest} {w w' : World} {answer : WebAnswer}
    (hresolves : e.Resolves ports resolvers http w request)
    (hrun : (e.handle resolvers http).run (exec ports) w = (.ok answer, w'))
    (hissues : answer.Issues) :
    ∃ v v', (e.authenticationGate request http).run (exec ports) v = (.ok none, v') ∧
      v.clock = w.clock := by
  obtain ⟨entered, w₁, hentry, hrun⟩ := Prog.run_bind_ok.mp hrun
  obtain ⟨v, hresolved⟩ := hresolves
  rw [hresolved] at hentry
  cases hentry
  have hsame : SameConsents w w₁ := by
    have h := SameConsents.run (e.entry_uses resolvers http) rfl ports w
    rwa [hresolved] at h
  obtain ⟨refused, w₂, hfirst, hrun⟩ := Prog.run_bind_ok.mp hrun
  have hquiet := (e.declines_nonRedirectableError resolvers request).of_run hfirst
  have hsame₂ : SameConsents w w₂ := by
    have h := SameConsents.run (e.nonRedirectableError_uses resolvers request) rfl ports w₁
    rw [hfirst] at h
    exact hsame.trans h
  cases refused with
  | some refused =>
      cases hrun
      exact absurd hissues hquiet.2
  | none =>
  obtain ⟨gated, w₃, hgate, hrun⟩ := Prog.run_bind_ok.mp hrun
  have hguard := (e.guards_authenticationGate request http).of_run hgate
  cases gated with
  | some refused =>
      cases hrun
      exact absurd hissues hguard
  | none => exact ⟨w₂, w₃, hgate, hsame₂.clock⟩

end AuthorizeEndpoint

/-! ## A browser -/

/-- The session cookie: its user, and what it tells. -/
abbrev Cookie := Option (String × BrowserSession)

/-- The session a login opens, with the URL it returns to; the login of the identity API
names none. -/
def openedSession (p : Platform) (instant : Instant) (sid : String) (next : Option String) :
    BrowserSession where
  sid := sid
  authTime := instant.epoch
  reauth := (next.map (reauthContext p)).getD ""

inductive BrowserEvent where
  /-- a login or a registration that succeeds -/
  | login (user sid : String) (next : Option String)
  /-- the end of the session, or the expiry of its cookie -/
  | logout
  /-- a request to `/authorize`, on whatever store the server has; the account may have been
  disabled since the login -/
  | visit (store : World) (resolvers : Resolvers) (path query : String) (params : Form)
      (active : Bool)

structure BrowserArrival where
  instant : Instant
  event : BrowserEvent

inductive BrowserAnswer where
  | done
  /-- the answer to a visit, with what the endpoint got and the store it met -/
  | page (resolvers : Resolvers) (http : HttpRequest) (met : World)
      (result : Except (Stop Empty) WebAnswer)

namespace AuthorizeEndpoint

variable (e : AuthorizeEndpoint) (ports : Ports)

/-- What a visit sends with the cookie. -/
def sent (cookie : Cookie) (path query : String) (params : Form) (active : Bool) :
    HttpRequest where
  path := path
  query := query
  params := params
  user := if active then cookie.map Prod.fst else none
  session := (cookie.map Prod.snd).getD {}

def handleBrowser (arrival : BrowserArrival) (cookie : Cookie) : BrowserAnswer × Cookie :=
  match arrival.event with
  | .login user sid next =>
      (.done, some (user, openedSession e.platform arrival.instant sid next))
  | .logout => (.done, none)
  | .visit store resolvers path query params active =>
      let http := sent cookie path query params active
      let met := { store with clock := arrival.instant }
      (.page resolvers http met ((e.handle resolvers http).run (exec ports) met).1, cookie)

/-- One browser, at nondecreasing times. -/
def browser : Service Cookie BrowserArrival BrowserAnswer Instant where
  handle := e.handleBrowser ports
  begins := BrowserArrival.instant
  ends := BrowserArrival.instant
  begins_le_ends := fun _ => le_refl _

/-- A login among the entries opened the session. -/
def OpenedBy (entries : List (Entry BrowserArrival BrowserAnswer)) (now : Instant)
    (session : BrowserSession) (next : Option String) (made : Instant) : Prop :=
  made ≤ now ∧ ∃ entry ∈ entries, ∃ user sid,
    entry.request = ⟨made, .login user sid next⟩ ∧
    session = openedSession e.platform made sid next

variable {e ports}

/-- The session of a browser has been opened by a login of its run. -/
theorem cookie_opened {entries : List (Entry BrowserArrival BrowserAnswer)} {now : Instant}
    {cookie : Cookie} (h : History (e.browser ports) none entries now cookie) :
    ∀ user session, cookie = some (user, session) →
      ∃ next made, e.OpenedBy entries now session next made := by
  refine h.invariant (I := fun entries now cookie => ∀ user session,
    cookie = some (user, session) → ∃ next made, e.OpenedBy entries now session next made)
    (fun _ _ _ h => by cases h) ?_
  rintro entries now cookie ⟨instant, event⟩ ih hle - user session hcookie
  cases event with
  | login _ sid next =>
      cases hcookie
      exact ⟨next, instant, le_refl _, _, List.mem_append_right _ (List.mem_singleton_self _),
        _, sid, rfl, rfl⟩
  | logout => cases hcookie
  | visit store resolvers path query params active =>
      obtain ⟨next, made, hmade, entry, hentry, hopened⟩ := ih user session hcookie
      exact ⟨next, made, hmade.trans hle, entry, by simp [hentry], hopened⟩

/-- In every run of logins and visits of one browser, an answer to a request that asks for a
fresh authentication is given under a session opened for the URL of that request, or recent
enough for it; or to nobody, when only the age of the session is asked and the server asks no
login. -/
theorem answers_under_fresh_session {older newer : List (Entry BrowserArrival BrowserAnswer)}
    {arrival : BrowserArrival} {resolvers : Resolvers} {http : HttpRequest} {met : World}
    {answer : WebAnswer} {request : AuthorizeRequest} {now : Instant} {cookie : Cookie}
    (h : History (e.browser ports) none
      (older ++ ⟨arrival, .page resolvers http met (.ok answer)⟩ :: newer) now cookie)
    (hdigest : ∀ url, reauthContext e.platform url ≠ "")
    (hresolves : e.Resolves ports resolvers http met request) (hwants : WantsFresh request)
    (hissues : answer.Issues) :
    (http.user = none ∧ ¬request.prompts "login" ∧ e.requireLogin = false) ∨
      (http.user.isSome ∧ ∃ next made, e.OpenedBy older arrival.instant http.session next made ∧
        ((∃ url, next = some url ∧ reauthContext e.platform url = e.urlHash http) ∨
          (¬request.prompts "login" ∧ 0 < request.maxAge ∧
            arrival.instant.epoch - made.epoch ≤ request.maxAge))) := by
  obtain ⟨earlier, held, holder, hle, -, hanswer⟩ := h.before
  obtain ⟨instant, event⟩ := arrival
  cases event with
  | login => cases hanswer
  | logout => cases hanswer
  | visit store resolvers' path query params active =>
  have hpage : BrowserAnswer.page resolvers http met (.ok answer) =
      .page resolvers' (sent held path query params active) { store with clock := instant }
        ((e.handle resolvers' (sent held path query params active)).run (exec ports)
          { store with clock := instant }).1 := hanswer
  injection hpage with hresolvers hhttp hmet hresult
  subst hresolvers hhttp hmet
  obtain ⟨w', hrun⟩ : ∃ w', (e.handle resolvers (sent held path query params active)).run
      (exec ports) { store with clock := instant } = (.ok answer, w') :=
    ⟨_, Prod.ext hresult.symm rfl⟩
  obtain ⟨v, v', hgate, hclock⟩ := e.run_handle_passed hresolves hrun hissues
  rcases e.run_authenticationGate_none hwants hgate with ⟨huser, hfresh⟩ | hnobody
  · refine .inr ⟨huser, ?_⟩
    cases held with
    | none => cases active <;> cases huser
    | some session =>
        obtain ⟨next, made, hmade, entry, hentry, user, sid, hrequest, hopened⟩ :=
          cookie_opened holder session.1 session.2 rfl
        refine ⟨next, made, ⟨hmade.trans hle, entry, hentry, user, sid, hrequest, hopened⟩, ?_⟩
        rcases hfresh with hurl | ⟨hprompt, hage, hrecent⟩
        · left
          have himprint : session.2.reauth =
              e.urlHash (sent (some session) path query params active) := hurl
          rw [hopened] at himprint
          cases next with
          | none => exact absurd himprint.symm (hdigest _)
          | some url => exact ⟨url, rfl, himprint⟩
        · right
          have hauth : (sent (some session) path query params active).session.authTime =
              made.epoch := by
            show session.2.authTime = made.epoch
            rw [hopened]
            rfl
          rw [hauth, hclock] at hrecent
          exact ⟨hprompt, hage, hrecent⟩
  · exact .inl hnobody

end AuthorizeEndpoint

/-! ### A URL that comes back -/

namespace AuthorizeEndpoint.Sample

open PurIdentityServer.Sample (ports world)

theorem imprint_ne (url : String) : reauthContext endpoint.platform url ≠ "" := by
  intro h
  have hdigest : (endpoint.platform.sha256Hex url).toList ≠ [] := by
    intro hnil
    exact PurIdentityServer.Sample.digest_ne url (String.toList_inj.mp hnil)
  have htake : ((endpoint.platform.sha256Hex url).toList.take 32) = [] := by
    simpa [reauthContext] using congrArg String.toList h
  rcases List.take_eq_nil_iff.mp htake with hzero | hnil
  · cases hzero
  · exact hdigest hnil

/-- The user logs in to come back to the URL. -/
def loginAt (instant : Instant) : BrowserArrival :=
  ⟨instant, .login "u" "s" (some "https://op.example/authorize?prompt=login")⟩

/-- The browser opens the URL, which asks for a login. -/
def visitAt (instant : Instant) : BrowserArrival :=
  ⟨instant, .visit world resolvers "/authorize" "prompt=login" (form "login") true⟩

/-- The cookie of the session opened at one second. -/
def cookie : Cookie := ((endpoint.handleBrowser ports (loginAt (seconds 1)) none)).2

def entryOf (arrival : BrowserArrival) (held : Cookie) : Entry BrowserArrival BrowserAnswer :=
  ⟨arrival, (endpoint.handleBrowser ports arrival held).1⟩

/-- A login, a visit, and a visit at a later moment. -/
theorem history {later : Instant} (h : seconds 2 ≤ later) :
    History (endpoint.browser ports) none
      ([entryOf (loginAt (seconds 1)) none, entryOf (visitAt (seconds 2)) cookie] ++
        [entryOf (visitAt later) cookie]) later cookie := by
  have hlogin : History (endpoint.browser ports) none [entryOf (loginAt (seconds 1)) none]
      (seconds 1) cookie := .step (.start 0) (loginAt (seconds 1)) (by decide) trivial
  have hvisit : History (endpoint.browser ports) none
      [entryOf (loginAt (seconds 1)) none, entryOf (visitAt (seconds 2)) cookie] (seconds 2)
      cookie := .step hlogin (visitAt (seconds 2)) (by decide) trivial
  exact .step hvisit (visitAt later) h trivial

/-- What a visit sends, and the store it meets. -/
def http : HttpRequest := sent cookie "/authorize" "prompt=login" (form "login") true

def metAt (instant : Instant) : World := { world with clock := instant }

def isIssued : BrowserAnswer → Bool
  | .page _ _ _ (.ok (.issued _ _)) => true
  | _ => false

/-- A visit that is answered with a code. -/
theorem issued_of_isIssued {instant : Instant}
    (h : isIssued (entryOf (visitAt instant) cookie).answer = true) :
    ∃ answer, (entryOf (visitAt instant) cookie).answer =
      .page resolvers http (metAt instant) (.ok answer) ∧ answer.Issues := by
  have hpage : (entryOf (visitAt instant) cookie).answer =
      .page resolvers http (metAt instant)
        ((endpoint.handle resolvers http).run (exec ports) (metAt instant)).1 := rfl
  rw [hpage] at h ⊢
  unfold isIssued at h
  split at h
  · rename_i result response heq
    injection heq with _ _ _ hresult
    exact ⟨.issued result response, by rw [hresult], trivial⟩
  · cases h

end AuthorizeEndpoint.Sample

open AuthorizeEndpoint.Sample in
/-- The visit that follows the login is answered under the session it opened. -/
theorem answers_under_fresh_session_after_login :
    ∃ answer, (entryOf (visitAt (seconds 2)) cookie).answer =
        .page resolvers http (metAt (seconds 2)) (.ok answer) ∧ answer.Issues ∧
      ∃ next made, endpoint.OpenedBy [entryOf (loginAt (seconds 1)) none] (seconds 2)
        http.session next made ∧
        ∃ url, next = some url ∧ reauthContext endpoint.platform url = endpoint.urlHash http := by
  have hissued : isIssued (entryOf (visitAt (seconds 2)) cookie).answer = true := by
    decide +kernel
  obtain ⟨answer, hpage, hissues⟩ := issued_of_isIssued hissued
  refine ⟨answer, hpage, hissues, ?_⟩
  have hhistory : History (endpoint.browser Sample.ports) none
      ([entryOf (loginAt (seconds 1)) none] ++
        ⟨visitAt (seconds 2), .page resolvers http (metAt (seconds 2)) (.ok answer)⟩ ::
          [entryOf (visitAt (seconds 3)) cookie]) (seconds 3) cookie := by
    have hlater : seconds 2 ≤ seconds 3 := by decide
    have h := history hlater
    rw [show entryOf (visitAt (seconds 2)) cookie = ⟨visitAt (seconds 2),
      .page resolvers http (metAt (seconds 2)) (.ok answer)⟩ from by rw [← hpage]; rfl] at h
    exact h
  have hresolves : endpoint.Resolves Sample.ports resolvers http (metAt (seconds 2))
      (authorizeRequestOf (form "login").params "app") := ⟨_, rfl⟩
  have hfresh := AuthorizeEndpoint.answers_under_fresh_session hhistory imprint_ne hresolves
    (.inl (by decide)) hissues
  rcases hfresh with ⟨hnobody, -⟩ | ⟨-, next, made, hopened, hurl | ⟨hprompt, -⟩⟩
  · cases hnobody
  · exact ⟨next, made, hopened, hurl⟩
  · exact absurd (by decide) hprompt

open AuthorizeEndpoint.Sample in
/-- The URL that asks for a login is served before and long after: the only login of the run,
at one second, precedes both visits. -/
theorem replayed_url_counts_as_fresh :
    History (endpoint.browser Sample.ports) none
      ([entryOf (loginAt (seconds 1)) none, entryOf (visitAt (seconds 2)) cookie] ++
        [entryOf (visitAt (seconds 1000)) cookie]) (seconds 1000) cookie ∧
    (∃ answer, (entryOf (visitAt (seconds 2)) cookie).answer =
      .page resolvers http (metAt (seconds 2)) (.ok answer) ∧ answer.Issues) ∧
    (∃ answer, (entryOf (visitAt (seconds 1000)) cookie).answer =
      .page resolvers http (metAt (seconds 1000)) (.ok answer) ∧ answer.Issues) ∧
    endpoint.Resolves Sample.ports resolvers http (metAt (seconds 1000))
      (authorizeRequestOf (form "login").params "app") ∧
    (authorizeRequestOf (form "login").params "app").prompts "login" := by
  refine ⟨history (by decide), issued_of_isIssued (by decide +kernel),
    issued_of_isIssued (by decide +kernel), ⟨_, rfl⟩, by decide⟩

end PurIdentityServer

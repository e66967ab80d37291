import PurIdentityServer.Application.IssuedIdTokens
import PurIdentityServer.Application.Logout
import PurIdentityServer.Application.SenderConstraint
import PurIdentityServer.Interfaces.AuthorizeResponse

/-!
# EndSession — what the clients of a session are told at its end

`endSession` is the route: the session of the cookie and its user, the
`LogoutUseCase`, the notifications of the back channel, then the iframes
of the front channel. `SessionIdToken` says which `id_token`s a session
has given out: those of its authorization requests, of the exchange of
their codes, and of the renewals of those.

`correlated_iff` says when the notifications suit these tokens, and reach
each client that is to be told once.
-/

namespace PurIdentityServer

open Effects Effects.Prog

/-! ## The route -/

/-- A visit of `/end_session`: what the cookie says and what the query asks. -/
structure EndSessionVisit where
  /-- `str(user.id)`, when the session has an active user -/
  user : Option String := none
  sid : String := ""
  idTokenHint : String := ""
  postLogoutRedirectUri : String := ""
  state : String := ""

inductive EndSessionResponse where
  | errorPage (error : LogoutError)
  | redirect (location : String)
  | page (iframes : List String) (target : String)

namespace EndSessionVisit

def request (visit : EndSessionVisit) : LogoutRequest where
  idTokenHint := visit.idTokenHint
  postLogoutRedirectUri := visit.postLogoutRedirectUri
  state := visit.state
  sessionId := visit.sid

/-- The user of the session, or else the `sub` of the hint. -/
def subject (visit : EndSessionVisit) (result : LogoutResult) : String :=
  let subject := visit.user.getD ""
  if subject = "" then result.subject else subject

end EndSessionVisit

/-- The iframes of a page. -/
def EndSessionResponse.iframes : EndSessionResponse → List String
  | .page iframes _ => iframes
  | .errorPage _ | .redirect _ => []

namespace LogoutUseCase

variable {κ : Type} (u : LogoutUseCase κ) (ports : Ports) (w : World)

/-- `end_session`: the notifications sent, and the answer. -/
def endSession (visit : EndSessionVisit) :
    List BackchannelNotification × Raising EndSessionResponse :=
  match u.execute ports w visit.request with
  | .error x => ([], .error x)
  | .ok (.error e) => ([], .ok (.errorPage e))
  | .ok (.ok result) =>
      match u.broadcastBackchannelLogout w (visit.subject result) visit.sid with
      | (sent, .error x) => (sent, .error x)
      | (sent, .ok ()) =>
          let frontchannel := frontchannelUris w visit.sid
          let target := Responses.endSessionTarget result.postLogoutRedirectUri result.state
          (sent, .ok (if target ≠ "" ∧ frontchannel = [] then .redirect target
            else .page frontchannel target))

/-- The iframes of the answer, none when there is no page. -/
def iframes (visit : EndSessionVisit) : List String :=
  match (u.endSession ports w visit).2 with
  | .ok response => response.iframes
  | .error _ => []

end LogoutUseCase

/-! ## The tokens of a session -/

/-- A server, with what signs its `id_token`s and what ends its sessions: one platform and one
seed of the derived subjects. -/
structure SessionServer (κ : Type) extends AccessTokenIssuers where
  logout : LogoutUseCase κ
  tokens_platform : tokens.platform = logout.platform
  authorize_platform : authorize.platform = logout.platform
  tokens_seed : tokens.config.subjectSeed = logout.config.subjectSeed
  authorize_seed : authorize.config.subjectSeed = logout.config.subjectSeed

namespace SessionServer

variable {κ : Type} (d : SessionServer κ) (subject sid : String)

/-- A code of the session: an authorization request of it stores the row. -/
def SessionCode (row : AuthorizationCode) : Prop :=
  ∃ request w, request.subject = subject ∧ request.sessionId = sid ∧
    .saveCode row ∈ (d.authorize.execute request).calls (exec d.ports) w

/-- A refresh token of the session, and the code it comes from. -/
inductive SessionRefresh : String → RefreshToken → Prop
  | issued {row : AuthorizationCode} {request : TokenRequest} {w : World} {r : RefreshToken}
      (code : d.SessionCode subject sid row)
      (grant : request.grantType = "authorization_code")
      (found : w.codes.find request.code = some row)
      (saved : .saveRefreshToken r ∈ (d.tokens.execute request).calls (exec d.ports) w) :
      SessionRefresh row.code r
  | renewed {origin : String} {row r : RefreshToken} {request : TokenRequest} {w : World}
      (refresh : SessionRefresh origin row)
      (grant : request.grantType = "refresh_token")
      (found : w.refreshTokens.find (tokenHash d.tokens.platform request.refreshToken) = some row)
      (saved : .saveRefreshToken r ∈ (d.tokens.execute request).calls (exec d.ports) w) :
      SessionRefresh origin r

/-- An `id_token` of the session, signed under a registry of clients, and the code it comes
from: the one of its authorization response, empty when that had none. -/
inductive SessionIdToken (clients : Table Client.clientId) : String → IdTokenClaims → Prop
  | authorized {request : AuthorizeRequest} {w : World} {code : String} {claims : IdTokenClaims}
      (registry : w.clients = clients)
      (subject_eq : request.subject = subject) (sid_eq : request.sessionId = sid)
      (signed : .createIdToken claims ∈ (d.authorize.execute request).calls (exec d.ports) w)
      (coded : ∀ row, .saveCode row ∈ (d.authorize.execute request).calls (exec d.ports) w →
        row.code = code)
      (uncoded : (∀ row, .saveCode row ∉
        (d.authorize.execute request).calls (exec d.ports) w) → code = "") :
      SessionIdToken clients code claims
  | exchanged {row : AuthorizationCode} {request : TokenRequest} {w : World}
      {claims : IdTokenClaims}
      (registry : w.clients = clients)
      (code : d.SessionCode subject sid row)
      (grant : request.grantType = "authorization_code")
      (found : w.codes.find request.code = some row)
      (signed : .createIdToken claims ∈ (d.tokens.execute request).calls (exec d.ports) w) :
      SessionIdToken clients row.code claims
  | renewed {origin : String} {row : RefreshToken} {request : TokenRequest} {w : World}
      {claims : IdTokenClaims}
      (registry : w.clients = clients)
      (refresh : d.SessionRefresh subject sid origin row)
      (grant : request.grantType = "refresh_token")
      (found : w.refreshTokens.find (tokenHash d.tokens.platform request.refreshToken) = some row)
      (signed : .createIdToken claims ∈ (d.tokens.execute request).calls (exec d.ports) w) :
      SessionIdToken clients origin claims

/-- What the subjects of a session are derived from. -/
def material (sid code : String) : String := if sid ≠ "" then sid else code

variable {d subject sid}

theorem SessionCode.row {row : AuthorizationCode} (h : d.SessionCode subject sid row) :
    row.subject = subject ∧ row.sessionId = sid ∧
      row.subjectMaterial = material sid row.code ∧ ∃ n, row.code = d.ports.tokenUrlsafe n := by
  obtain ⟨request, w, rfl, rfl, hsaved⟩ := h
  obtain ⟨validated, w₀, -, -, rfl⟩ := AuthorizeUseCase.saveCode_mem_execute.mp hsaved
  exact ⟨rfl, rfl, rfl, w₀.draws, rfl⟩

/-- The grant of a request of the token endpoint is the one its `grant_type` names. -/
theorem grounds_of_execute {request : TokenRequest} {w : World} {c : Call}
    (hc : TokenUseCase.GivesOut c)
    (h : c ∈ (d.tokens.execute request).calls (exec d.ports) w) :
    ∃ clientId i, d.tokens.Grounds d.ports w { request with clientId := clientId } i ∧
      d.tokens.IssuedFor i c := by
  obtain ⟨clientId, hexecute⟩ := d.tokens.execute_cases request
  rw [hexecute] at h
  obtain ⟨i, hgrounds, hissued⟩ := TokenUseCase.issuedFor_of_dispatch hc h
  exact ⟨clientId, i, hgrounds, hissued⟩

theorem grounds_code {ports : Ports} {request : TokenRequest} {w : World} {i : Issuance}
    (h : d.tokens.Grounds ports w request i) (hgrant : request.grantType = "authorization_code")
    {row : AuthorizationCode} (hrow : w.codes.find request.code = some row) :
    w.findClient ports request.clientId = some i.client ∧ i.subject = row.subject ∧
      i.subjectMaterial = row.subjectMaterial ∧ i.context.sessionId = row.sessionId := by
  cases h with
  | code g grant found unconsumed client =>
      rw [hrow] at found
      cases found
      exact ⟨client, rfl, rfl, rfl⟩
  | refresh g grant found client => exact absurd (hgrant.symm.trans grant) (by decide)
  | device g tlsCertHash grant found client => exact absurd (hgrant.symm.trans grant) (by decide)
  | ciba g tlsCertHash grant found client => exact absurd (hgrant.symm.trans grant) (by decide)

theorem grounds_refresh {ports : Ports} {request : TokenRequest} {w : World} {i : Issuance}
    (h : d.tokens.Grounds ports w request i) (hgrant : request.grantType = "refresh_token")
    {row : RefreshToken}
    (hrow : w.refreshTokens.find (tokenHash d.tokens.platform request.refreshToken) = some row) :
    w.findClient ports request.clientId = some i.client ∧ i.subject = row.subject ∧
      i.subjectMaterial = row.subjectMaterial ∧ i.context.sessionId = "" := by
  cases h with
  | code g grant found unconsumed client => exact absurd (hgrant.symm.trans grant) (by decide)
  | refresh g grant found client =>
      rw [hrow] at found
      cases found
      exact ⟨client, rfl, rfl, rfl⟩
  | device g tlsCertHash grant found client => exact absurd (hgrant.symm.trans grant) (by decide)
  | ciba g tlsCertHash grant found client => exact absurd (hgrant.symm.trans grant) (by decide)

/-- A refresh token keeps the subject of the session and what it is derived from. -/
theorem SessionRefresh.row {origin : String} {r : RefreshToken}
    (h : d.SessionRefresh subject sid origin r) :
    r.subject = subject ∧ r.subjectMaterial = material sid origin ∧
      ∃ n, origin = d.ports.tokenUrlsafe n := by
  induction h with
  | issued code grant found saved =>
      obtain ⟨hsubject, -, hmaterial, hdrawn⟩ := code.row
      obtain ⟨clientId, i, hgrounds, hrenewed⟩ := grounds_of_execute (c := .saveRefreshToken _) trivial saved
      obtain ⟨-, hi, hm, -⟩ := grounds_code hgrounds grant found
      exact ⟨hrenewed.subject.trans (hi.trans hsubject),
        hrenewed.subjectMaterial.trans (hm.trans hmaterial), hdrawn⟩
  | renewed refresh grant found saved ih =>
      obtain ⟨hsubject, hmaterial, hdrawn⟩ := ih
      obtain ⟨clientId, i, hgrounds, hrenewed⟩ := grounds_of_execute (c := .saveRefreshToken _) trivial saved
      obtain ⟨-, hi, hm, -⟩ := grounds_refresh hgrounds grant found
      exact ⟨hrenewed.subject.trans (hi.trans hsubject),
        hrenewed.subjectMaterial.trans (hm.trans hmaterial), hdrawn⟩

/-- What an `id_token` of the session says to a registered client: the derived subject of the
user, and the session or none. -/
structure TellsSession (d : SessionServer κ) (subject sid code : String) (client : Client)
    (claims : IdTokenClaims) : Prop where
  displayed : displaySubject d.logout.platform client subject (material sid code)
    d.logout.config.subjectSeed = .ok claims.subject
  session : claims.sessionId = sid ∨ claims.sessionId = ""
  drawn : code = "" ∨ ∃ n, code = d.ports.tokenUrlsafe n

/-- The client of the registry under the name of an audience. -/
theorem client_of_audience {clients : Table Client.clientId} {w : World} {ports : Ports}
    {id : String} {found client : Client} (hregistry : w.clients = clients)
    (hfound : w.findClient ports id = some found)
    (hclient : clients.find found.clientId = some client) : found = client := by
  rw [World.findClient_clientId hfound] at hclient
  unfold World.findClient at hfound
  rw [hregistry, hclient] at hfound
  exact (Option.some.inj hfound).symm

theorem tellsSession_of_grounds {clients : Table Client.clientId} {w : World}
    {request : TokenRequest} {i : Issuance} {code : String} {claims : IdTokenClaims}
    {client : Client} (hregistry : w.clients = clients) (hsigns : d.tokens.SignsFor i claims)
    (hfound : w.findClient d.ports request.clientId = some i.client)
    (hclient : clients.find claims.audience = some client) (hsubject : i.subject = subject)
    (hmaterial : i.subjectMaterial = material sid code)
    (hsession : i.context.sessionId = sid ∨ i.context.sessionId = "")
    (hdrawn : ∃ n, code = d.ports.tokenUrlsafe n) :
    d.TellsSession subject sid code client claims := by
  rw [hsigns.audience] at hclient
  have hsame := client_of_audience hregistry hfound hclient
  refine ⟨?_, ?_, .inr hdrawn⟩
  · have hdisplayed := hsigns.subject
    rw [hsame, hsubject, hmaterial, d.tokens_platform, d.tokens_seed] at hdisplayed
    exact hdisplayed
  · rw [hsigns.sessionId]
    exact hsession

theorem SessionIdToken.tellsSession {clients : Table Client.clientId} {code : String}
    {claims : IdTokenClaims} (h : d.SessionIdToken subject sid clients code claims)
    {client : Client} (hclient : clients.find claims.audience = some client) :
    d.TellsSession subject sid code client claims := by
  cases h with
  | @authorized request w code claims registry subject_eq sid_eq signed coded uncoded =>
      obtain ⟨validated, w₀, token, atHash, w₁, hvalidates, -, hsigns⟩ :=
        AuthorizeUseCase.signs_of_execute signed
      obtain ⟨secret, displayed, additional, w', -, hdisplayed, -, -, -, rfl⟩ := hsigns
      have hsame := client_of_audience registry hvalidates.found hclient
      have hcode : (AuthorizeUseCase.codeOf d.ports validated w₀ = code) ∧
          (code = "" ∨ ∃ n, code = d.ports.tokenUrlsafe n) := by
        unfold AuthorizeUseCase.codeOf
        split
        · rename_i hwants
          have hcoded := coded _ (AuthorizeUseCase.saveCode_mem_execute.mpr
            ⟨validated, w₀, hvalidates, hwants, rfl⟩)
          exact ⟨hcoded, .inr ⟨w₀.draws, hcoded.symm⟩⟩
        · rename_i hwants
          have hempty : code = "" := by
            apply uncoded
            intro row hmem
            obtain ⟨validated', w₂, hvalidates', hwants', -⟩ :=
              AuthorizeUseCase.saveCode_mem_execute.mp hmem
            have hrun := hvalidates.symm.trans hvalidates'
            cases hrun
            exact hwants hwants'
          exact ⟨hempty.symm, .inl hempty⟩
      refine ⟨?_, .inl sid_eq, hcode.2⟩
      have hmaterial : (d.authorize.issuanceOf d.ports request validated w₀).subjectMaterial =
          material sid code := by
        rw [← hcode.1, ← sid_eq]
        rfl
      rw [hmaterial, d.authorize_platform, d.authorize_seed] at hdisplayed
      rw [← subject_eq, ← hsame]
      exact hdisplayed
  | @exchanged row request w claims registry code grant found signed =>
      obtain ⟨hsubject, hsid, hmaterial, hdrawn⟩ := code.row
      obtain ⟨clientId, i, hgrounds, hsigns⟩ := grounds_of_execute (c := .createIdToken _) trivial signed
      obtain ⟨hfound, hi, hm, hs⟩ := grounds_code hgrounds grant found
      exact tellsSession_of_grounds registry hsigns hfound hclient (hi.trans hsubject)
        (hm.trans hmaterial) (.inl (hs.trans hsid)) hdrawn
  | @renewed origin row request w claims registry refresh grant found signed =>
      obtain ⟨hsubject, hmaterial, hdrawn⟩ := refresh.row
      obtain ⟨clientId, i, hgrounds, hsigns⟩ := grounds_of_execute (c := .createIdToken _) trivial signed
      obtain ⟨hfound, hi, hm, hs⟩ := grounds_refresh hgrounds grant found
      exact tellsSession_of_grounds registry hsigns hfound hclient (hi.trans hsubject)
        (hm.trans hmaterial) (.inr hs) hdrawn

end SessionServer

/-! ## Derived subjects -/

/-- The digests of the subjects collide for no two messages. -/
def DerivesApart (p : Platform) : Prop := ∀ seed, Function.Injective (p.hmacBase64Url seed)

/-- The text has no character U+0000, which separates the parts of a derivation. -/
def Unseparated (text : String) : Prop := Char.ofNat 0 ∉ text.toList

theorem cut_unique {α : Type} {a : α} {s t rest rest' : List α} (hs : a ∉ s) (ht : a ∉ t)
    (h : s ++ a :: rest = t ++ a :: rest') : s = t ∧ rest = rest' := by
  induction s generalizing t with
  | nil =>
      cases t with
      | nil => exact ⟨rfl, (List.cons.inj h).2⟩
      | cons b t => exact absurd ((List.cons.inj h).1 ▸ List.mem_cons_self) ht
  | cons b s ih =>
      cases t with
      | nil => exact absurd ((List.cons.inj h).1 ▸ List.mem_cons_self) hs
      | cons b' t =>
          obtain ⟨hhead, htail⟩ := List.cons.inj h
          obtain ⟨hst, hrest⟩ := ih (fun hmem => hs (List.mem_cons_of_mem _ hmem))
            (fun hmem => ht (List.mem_cons_of_mem _ hmem)) htail
          exact ⟨by rw [hhead, hst], hrest⟩

/-- The last part of a derivation is read back from the end. -/
theorem join_pair_inj {subject subject' material material' : String}
    (hm : Unseparated material) (hm' : Unseparated material')
    (h : Text.join "\x00" ["ephemeral", subject, material] =
      Text.join "\x00" ["ephemeral", subject', material']) :
    subject = subject' ∧ material = material' := by
  have hlist := congrArg String.toList h
  simp only [Text.join, String.toList_append, List.append_assoc] at hlist
  have hreverse := congrArg List.reverse (List.append_cancel_left
    (List.append_cancel_left hlist))
  have hzero : "\x00".toList = [Char.ofNat 0] := rfl
  simp only [hzero, List.reverse_append, List.singleton_append, List.reverse_cons,
    List.append_assoc] at hreverse
  obtain ⟨hmaterial, hsubject⟩ := cut_unique (fun h => hm (List.mem_reverse.mp h))
    (fun h => hm' (List.mem_reverse.mp h)) hreverse
  exact ⟨String.toList_injective (List.reverse_injective hsubject),
    String.toList_injective (List.reverse_injective hmaterial)⟩

theorem join_sector_inj {sector subject subject' : String}
    (h : Text.join "\x00" ["pairwise", sector, subject] =
      Text.join "\x00" ["pairwise", sector, subject']) : subject = subject' := by
  have hlist := congrArg String.toList h
  simp only [Text.join, String.toList_append, List.append_assoc] at hlist
  exact String.toList_injective (List.append_cancel_left (List.append_cancel_left
    (List.append_cancel_left (List.append_cancel_left hlist))))

/-- The subject of the client depends on the session. -/
def Client.Ephemeral (seed : String) (client : Client) : Prop :=
  client.subjectType = .ephemeral ∧ seed ≠ ""

/-- A client sees one subject of two exactly when they are the same and, when its subjects
depend on the session, derived from the same material. -/
theorem displaySubject_eq_iff {p : Platform} (hderives : DerivesApart p) {client : Client}
    {subject subject' material material' seed displayed displayed' : String}
    (hsubject : subject ≠ "") (hsubject' : subject' ≠ "") (hm : Unseparated material)
    (hm' : Unseparated material')
    (h : displaySubject p client subject material seed = .ok displayed)
    (h' : displaySubject p client subject' material' seed = .ok displayed') :
    displayed = displayed' ↔
      subject = subject' ∧ (client.Ephemeral seed → material = material') := by
  have hplain : ¬client.Ephemeral seed → displayed = subject → displayed' = subject' →
      (displayed = displayed' ↔
        subject = subject' ∧ (client.Ephemeral seed → material = material')) := by
    rintro hnot rfl rfl
    exact ⟨fun heq => ⟨heq, fun h => absurd h hnot⟩, fun heq => heq.1⟩
  unfold displaySubject at h h'
  rw [if_neg hsubject] at h
  rw [if_neg hsubject'] at h'
  cases htype : client.subjectType with
  | publicSubject =>
      rw [htype] at h h'
      cases h
      cases h'
      exact hplain (fun h => by rw [h.1] at htype; cases htype) rfl rfl
  | pairwise =>
      have hnot : ¬client.Ephemeral seed := by
        intro hephemeral
        rw [hephemeral.1] at htype
        cases htype
      rw [htype] at h h'
      dsimp only at h h'
      cases hsector : client.subjectSector p with
      | error x =>
          rw [hsector] at h
          cases h
      | ok sector =>
          rw [hsector] at h h'
          change (if sector = "" ∨ seed = "" then Except.ok subject
            else .ok (pairwiseSubject p seed sector subject)) = _ at h
          change (if sector = "" ∨ seed = "" then Except.ok subject'
            else .ok (pairwiseSubject p seed sector subject')) = _ at h'
          by_cases hraw : sector = "" ∨ seed = ""
          · rw [if_pos hraw] at h h'
            cases h
            cases h'
            exact hplain hnot rfl rfl
          · rw [if_neg hraw] at h h'
            cases h
            cases h'
            constructor
            · intro heq
              exact ⟨join_sector_inj (hderives seed heq), fun h => absurd h hnot⟩
            · rintro ⟨rfl, -⟩
              rfl
  | ephemeral =>
      rw [htype] at h h'
      dsimp only at h h'
      by_cases hseed : seed = ""
      · rw [if_pos hseed] at h h'
        cases h
        cases h'
        exact hplain (fun h => h.2 hseed) rfl rfl
      · rw [if_neg hseed] at h h'
        cases h
        cases h'
        constructor
        · intro heq
          obtain ⟨hs, hmaterial⟩ := join_pair_inj hm hm' (hderives seed heq)
          exact ⟨hs, fun _ => hmaterial⟩
        · rintro ⟨rfl, hmaterial⟩
          rw [hmaterial ⟨htype, hseed⟩]

/-! ## Correlation -/

/-- The client is to be told of the end of a session: one that requires the session is told of
no session without a `sid`. -/
def Client.Due (channel : LogoutChannel) (sid : String) (client : Client) : Prop :=
  client.Notifiable channel ∧ (client.logoutSessionRequired channel = true → sid ≠ "")

instance (channel : LogoutChannel) (sid : String) (client : Client) :
    Decidable (client.Due channel sid) :=
  inferInstanceAs (Decidable (_ ∧ _))

/-- A logout token has the subject of an `id_token`, and its session when it has one. -/
def Correlates (logoutToken : ServerToken) (claims : IdTokenClaims) : Prop :=
  Dict.get logoutToken.payload "sub" = Dict.get claims.payload "sub" ∧
    (claims.sessionId ≠ "" →
      Dict.get logoutToken.payload "sid" = Dict.get claims.payload "sid")

/-- Where a notification goes, and for whom. -/
def BackchannelNotification.address (n : BackchannelNotification) : String × Option Json :=
  (n.url, Dict.get n.logoutToken.payload "aud")

def Client.address (client : Client) : String × Option Json :=
  (client.backchannelLogoutUri, some (.str client.clientId))

namespace SessionServer

variable {κ : Type} (d : SessionServer κ) (w : World) (visit : EndSessionVisit) (subject : String)
  (result : LogoutResult)

def sent : List BackchannelNotification := (d.logout.endSession d.ports w visit).1

/-- A visit tells the clients of the session what their `id_token`s say, a client that requires
the session with its `sid` only, and each of the others once on a channel. -/
structure LogoutCorrelated : Prop where
  tokens : ∀ n ∈ d.sent w visit, ∀ code claims,
    d.SessionIdToken subject visit.sid w.clients code claims →
      Dict.get n.logoutToken.payload "aud" = some (.str claims.audience) →
        Correlates n.logoutToken claims
  carried : ∀ n ∈ d.sent w visit, ∀ client ∈ w.clients.rows,
    Dict.get n.logoutToken.payload "aud" = some (.str client.clientId) →
      client.backchannelLogoutSessionRequired = true →
        visit.sid ≠ "" ∧ Dict.get n.logoutToken.payload "sid" = some (.str visit.sid)
  backchannel : ((d.sent w visit).map BackchannelNotification.address).Perm
    ((w.clients.rows.filter fun client => client.Due .backchannel visit.sid).map Client.address)
  frontchannel : (d.logout.iframes d.ports w visit).Perm
    ((w.clients.rows.filter fun client => client.Due .frontchannel visit.sid).map
      (Client.frontchannelUri visit.sid))

/-- There is a notifier, and a subject to notify about. -/
def Broadcasts : Prop := d.logout.notifier = true ∧ visit.subject result ≠ ""

/-- When the clients of a session are told what they are to be told. -/
structure LogoutFits : Prop where
  frontchannel : ∀ client ∈ w.clients.rows, client.Notifiable .frontchannel →
    client.Due .frontchannel visit.sid
  backchannel : ∀ client ∈ w.clients.rows, client.Notifiable .backchannel →
    (d.Broadcasts visit result ↔ client.Due .backchannel visit.sid)
  subjects : d.Broadcasts visit result → ∀ client ∈ w.clients.rows,
    client.Notifiable .backchannel → ∀ code claims,
      d.SessionIdToken subject visit.sid w.clients code claims →
        claims.audience = client.clientId →
          visit.subject result = subject ∧
            (client.Ephemeral d.logout.config.subjectSeed → visit.sid ≠ "" ∨ code = "")

variable {d w visit subject result}

/-! ### What is sent -/

theorem perm_filter_iff {α β : Type} {l : List α} {p q : α → Prop} [DecidablePred p]
    [DecidablePred q] (hqp : ∀ a ∈ l, q a → p a) (f : α → β) :
    ((l.filter fun a => p a).map f).Perm ((l.filter fun a => q a).map f) ↔
      ∀ a ∈ l, p a → q a := by
  have hnested : (l.filter fun a => p a).filter (fun a => q a) = l.filter fun a => q a := by
    rw [List.filter_filter]
    refine List.filter_congr fun a ha => ?_
    by_cases hq : q a
    · simp [hq, hqp a ha hq]
    · simp [hq]
  constructor
  · intro hperm
    have hlength := hperm.length_eq
    rw [List.length_map, List.length_map, ← hnested] at hlength
    have hall := List.length_filter_eq_length_iff.mp hlength.symm
    intro a ha hp
    simpa using hall a (List.mem_filter.mpr ⟨ha, by simpa using hp⟩)
  · intro h
    have hsame : (l.filter fun a => p a) = l.filter fun a => q a := by
      refine List.filter_congr fun a ha => ?_
      rw [decide_eq_decide]
      exact ⟨h a ha, hqp a ha⟩
    rw [hsame]

theorem get_sub_payload (claims : IdTokenClaims) :
    Dict.get claims.payload "sub" = some (.str claims.subject) :=
  Dict.get_setDefaults_of_some rfl _

theorem get_sid_payload {claims : IdTokenClaims} (h : claims.sessionId ≠ "") :
    Dict.get claims.payload "sid" = some (.str claims.sessionId) := by
  refine Dict.get_setDefaults_of_some ?_ _
  have hnonce : Dict.get (textClaim "nonce" claims.nonce) "sid" = none := by
    unfold textClaim
    split
    · rfl
    · simp [Dict.get_cons]
  have hsid : Dict.get (textClaim "sid" claims.sessionId) "sid" =
      some (.str claims.sessionId) := by
    unfold textClaim
    rw [if_neg h]
    rfl
  simp [Dict.get_append, Dict.get_cons, hnonce, hsid]

section
variable {κ : Type} (u : LogoutUseCase κ) (w : World) (client : Client)
  (displayed sessionId : String) (jwtId : Nat)

theorem get_sub_logoutToken :
    Dict.get (u.logoutToken w client displayed sessionId jwtId).payload "sub" =
      some (.str displayed) := rfl

theorem get_aud_logoutToken :
    Dict.get (u.logoutToken w client displayed sessionId jwtId).payload "aud" =
      some (.str client.clientId) := rfl

theorem get_sid_logoutToken (h : sessionId ≠ "") :
    Dict.get (u.logoutToken w client displayed sessionId jwtId).payload "sid" =
      some (.str sessionId) := by
  show Dict.get (_ ++ ServerToken.logoutEvent ++ textClaim "sid" sessionId) "sid" = _
  have hsid : Dict.get (textClaim "sid" sessionId) "sid" = some (.str sessionId) := by
    unfold textClaim
    rw [if_neg h]
    rfl
  simp [Dict.get_cons, ServerToken.logoutEvent, hsid]

end

theorem forall₂_addresses {clients : List Client} {sent : List BackchannelNotification}
    {subject sessionId : String} {u : LogoutUseCase κ}
    (h : List.Forall₂ (u.NotifiedAs w subject sessionId) clients sent) :
    sent.map BackchannelNotification.address = clients.map Client.address := by
  induction h with
  | nil => rfl
  | cons hnotified hrest ih =>
      obtain ⟨displayed, jwtId, -, rfl⟩ := hnotified
      rw [List.map_cons, List.map_cons, ih]
      rfl

/-- Each notification is for a client of the list. -/
theorem client_of_mem {clients : List Client} {sent : List BackchannelNotification}
    {subject sessionId : String} {u : LogoutUseCase κ}
    (h : List.Forall₂ (u.NotifiedAs w subject sessionId) clients sent)
    {n : BackchannelNotification} (hn : n ∈ sent) :
    ∃ client ∈ clients, u.NotifiedAs w subject sessionId client n := by
  induction h with
  | nil => cases hn
  | cons hnotified hrest ih =>
      rcases List.mem_cons.mp hn with rfl | hn
      · exact ⟨_, List.mem_cons_self, hnotified⟩
      · obtain ⟨client, hmem, hclient⟩ := ih hn
        exact ⟨client, List.mem_cons_of_mem _ hmem, hclient⟩

/-- Each client of the list has its notification. -/
theorem notification_of_mem {clients : List Client} {sent : List BackchannelNotification}
    {subject sessionId : String} {u : LogoutUseCase κ}
    (h : List.Forall₂ (u.NotifiedAs w subject sessionId) clients sent) {client : Client}
    (hclient : client ∈ clients) : ∃ n ∈ sent, u.NotifiedAs w subject sessionId client n := by
  induction h with
  | nil => cases hclient
  | cons hnotified hrest ih =>
      rcases List.mem_cons.mp hclient with rfl | hclient
      · exact ⟨_, List.mem_cons_self, hnotified⟩
      · obtain ⟨n, hmem, hn⟩ := ih hclient
        exact ⟨n, List.mem_cons_of_mem _ hmem, hn⟩

/-- The run of an accepted visit. -/
structure VisitRun (d : SessionServer κ) (w : World) (visit : EndSessionVisit)
    (result : LogoutResult) : Prop where
  frontchannel : d.logout.iframes d.ports w visit =
    LogoutUseCase.frontchannelUris w visit.sid
  notified : d.Broadcasts visit result →
    List.Forall₂ (d.logout.NotifiedAs w (visit.subject result) visit.sid)
      (LogoutUseCase.targets w .backchannel) (d.sent w visit)
  silent : ¬d.Broadcasts visit result → d.sent w visit = []

theorem visitRun (haccepted : d.logout.execute d.ports w visit.request = .ok (.ok result))
    (hsectors : LogoutUseCase.SectorsReadable d.logout.platform w.clients.rows) :
    d.VisitRun w visit result := by
  have htargets : LogoutUseCase.SectorsReadable d.logout.platform
      (LogoutUseCase.targets w .backchannel) := fun client hmem =>
    hsectors client (LogoutUseCase.mem_targets.mp hmem).1
  have hiframes : ∀ sent, d.logout.broadcastBackchannelLogout w (visit.subject result) visit.sid =
      (sent, .ok ()) → d.sent w visit = sent ∧
        d.logout.iframes d.ports w visit = LogoutUseCase.frontchannelUris w visit.sid := by
    intro sent hsent
    unfold SessionServer.sent LogoutUseCase.iframes LogoutUseCase.endSession
    rw [haccepted]
    dsimp only
    rw [hsent]
    refine ⟨rfl, ?_⟩
    dsimp only
    split
    · rename_i h
      exact h.2.symm
    · rfl
  by_cases hbroadcasts : d.Broadcasts visit result
  · have hrun := d.logout.notifyTargets_total w (visit.subject result) visit.sid htargets 0
    have hbroadcast : d.logout.broadcastBackchannelLogout w (visit.subject result) visit.sid =
        d.logout.notifyTargets w (visit.subject result) visit.sid
          (LogoutUseCase.targets w .backchannel) 0 := by
      unfold LogoutUseCase.broadcastBackchannelLogout
      rw [if_neg]
      rintro (h | h)
      · exact h hbroadcasts.1
      · exact hbroadcasts.2 h
    obtain ⟨hsent, hfront⟩ := hiframes _ (hbroadcast.trans (Prod.ext rfl hrun.1))
    refine ⟨hfront, fun _ => ?_, fun h => absurd hbroadcasts h⟩
    rw [hsent]
    exact hrun.2
  · have hbroadcast : d.logout.broadcastBackchannelLogout w (visit.subject result) visit.sid =
        ([], .ok ()) := by
      unfold LogoutUseCase.broadcastBackchannelLogout
      rw [if_pos]
      by_contra h
      rw [not_or, not_not] at h
      exact hbroadcasts h
    obtain ⟨hsent, hfront⟩ := hiframes _ hbroadcast
    exact ⟨hfront, fun h => absurd h hbroadcasts, fun _ => hsent⟩

/-! ### When it suits the tokens -/

/-- The values the server draws have no character U+0000. -/
def DrawsUnseparated (ports : Ports) : Prop := ∀ n, Unseparated (ports.tokenUrlsafe n)

theorem material_eq_iff {sid code : String} : sid = material sid code ↔ sid ≠ "" ∨ code = "" := by
  unfold material
  by_cases h : sid = ""
  · simp [h, eq_comm]
  · simp [h]

/-- A logout token suits an `id_token` of the session exactly when it is made for the user of
the session, and from the material the `id_token` was made from. -/
theorem correlates_iff (hderives : DerivesApart d.logout.platform)
    (hdraws : DrawsUnseparated d.ports) (hsid : Unseparated visit.sid) (hsubject : subject ≠ "")
    (htold : visit.subject result ≠ "") {client : Client} {n : BackchannelNotification}
    (hn : d.logout.NotifiedAs w (visit.subject result) visit.sid client n) {code : String}
    {claims : IdTokenClaims} (htells : d.TellsSession subject visit.sid code client claims) :
    Correlates n.logoutToken claims ↔ visit.subject result = subject ∧
      (client.Ephemeral d.logout.config.subjectSeed → visit.sid ≠ "" ∨ code = "") := by
  obtain ⟨displayed, jwtId, hdisplayed, rfl⟩ := hn
  have hmaterial : Unseparated (material visit.sid code) := by
    unfold material
    split
    · exact hsid
    · rcases htells.drawn with rfl | ⟨n, rfl⟩
      · exact List.not_mem_nil
      · exact hdraws n
  have hsession : claims.sessionId ≠ "" →
      Dict.get (d.logout.logoutToken w client displayed visit.sid jwtId).payload "sid" =
        Dict.get claims.payload "sid" := by
    intro hne
    have hsame : claims.sessionId = visit.sid := htells.session.resolve_right hne
    rw [get_sid_payload hne, hsame]
    exact get_sid_logoutToken _ _ _ _ _ _ (hsame ▸ hne)
  have hsub : Dict.get (d.logout.logoutToken w client displayed visit.sid jwtId).payload "sub" =
      Dict.get claims.payload "sub" ↔ displayed = claims.subject := by
    rw [get_sub_payload, get_sub_logoutToken]
    simp
  unfold Correlates
  rw [and_iff_left hsession, hsub, displaySubject_eq_iff hderives htold hsubject hsid hmaterial
    hdisplayed htells.displayed, material_eq_iff]

/-- What a visit tells the clients of a session is what their tokens say, exactly when the
conditions hold. -/
theorem correlated_iff (d : SessionServer κ) (w : World) (visit : EndSessionVisit)
    (result : LogoutResult) (subject : String)
    (haccepted : d.logout.execute d.ports w visit.request = .ok (.ok result))
    (hsectors : LogoutUseCase.SectorsReadable d.logout.platform w.clients.rows)
    (hderives : DerivesApart d.logout.platform) (hdraws : DrawsUnseparated d.ports)
    (hsid : Unseparated visit.sid) (hsubject : subject ≠ "") :
    d.LogoutCorrelated w visit subject ↔ d.LogoutFits w visit subject result := by
  have hrun := d.visitRun haccepted hsectors
  have hdue : ∀ channel, ∀ client ∈ w.clients.rows, client.Due channel visit.sid →
      client.Notifiable channel := fun _ _ _ h => h.1
  have hfront : (d.logout.iframes d.ports w visit).Perm
        ((w.clients.rows.filter fun client => client.Due .frontchannel visit.sid).map
          (Client.frontchannelUri visit.sid)) ↔
      ∀ client ∈ w.clients.rows, client.Notifiable .frontchannel →
        client.Due .frontchannel visit.sid := by
    rw [hrun.frontchannel]
    exact perm_filter_iff (hdue .frontchannel) _
  have hback : ((d.sent w visit).map BackchannelNotification.address).Perm
        ((w.clients.rows.filter fun client => client.Due .backchannel visit.sid).map
          Client.address) ↔
      ∀ client ∈ w.clients.rows, client.Notifiable .backchannel →
        (d.Broadcasts visit result ↔ client.Due .backchannel visit.sid) := by
    by_cases hbroadcasts : d.Broadcasts visit result
    · rw [forall₂_addresses (hrun.notified hbroadcasts)]
      simp only [hbroadcasts, true_iff]
      exact perm_filter_iff (hdue .backchannel) _
    · rw [hrun.silent hbroadcasts]
      simp only [hbroadcasts, false_iff]
      rw [List.map_nil, List.nil_perm, List.map_eq_nil_iff, List.filter_eq_nil_iff]
      constructor
      · intro h client hmem _ hclient
        exact h client hmem (by simpa using hclient)
      · intro h client hmem hclient
        exact h client hmem (hdue _ client hmem (by simpa using hclient)) (by simpa using hclient)
  have haudience : ∀ {client : Client} {n : BackchannelNotification} {id : String},
      d.logout.NotifiedAs w (visit.subject result) visit.sid client n →
        (Dict.get n.logoutToken.payload "aud" = some (.str id) ↔ client.clientId = id) := by
    rintro client n id ⟨displayed, jwtId, -, rfl⟩
    rw [get_aud_logoutToken]
    simp
  constructor
  · intro h
    refine ⟨hfront.mp h.frontchannel, hback.mp h.backchannel, ?_⟩
    intro hbroadcasts client hregistered hnotifiable code claims hclaims hclient
    obtain ⟨n, hn, hnotified⟩ := notification_of_mem (hrun.notified hbroadcasts)
      (LogoutUseCase.mem_targets.mpr ⟨hregistered, hnotifiable⟩)
    have htells : d.TellsSession subject visit.sid code client claims :=
      hclaims.tellsSession (hclient ▸ Table.find_of_mem hregistered)
    have hcorrelates := h.tokens n hn code claims hclaims
      ((haudience hnotified).mpr hclient.symm)
    exact (correlates_iff hderives hdraws hsid hsubject hbroadcasts.2 hnotified htells).mp
      hcorrelates
  · intro h
    have hsent : ∀ n ∈ d.sent w visit, d.Broadcasts visit result ∧ ∃ client ∈ w.clients.rows,
        client.Notifiable .backchannel ∧
          d.logout.NotifiedAs w (visit.subject result) visit.sid client n := by
      intro n hn
      by_cases hbroadcasts : d.Broadcasts visit result
      · obtain ⟨client, hmem, hnotified⟩ := client_of_mem (hrun.notified hbroadcasts) hn
        obtain ⟨hregistered, hnotifiable⟩ := LogoutUseCase.mem_targets.mp hmem
        exact ⟨hbroadcasts, client, hregistered, hnotifiable, hnotified⟩
      · rw [hrun.silent hbroadcasts] at hn
        cases hn
    refine ⟨?_, ?_, hback.mpr h.backchannel, hfront.mpr h.frontchannel⟩
    · intro n hn code claims hclaims haddressed
      obtain ⟨hbroadcasts, client, hregistered, hnotifiable, hnotified⟩ := hsent n hn
      have hclient : client.clientId = claims.audience := (haudience hnotified).mp haddressed
      have htells : d.TellsSession subject visit.sid code client claims :=
        hclaims.tellsSession (hclient ▸ Table.find_of_mem hregistered)
      rw [correlates_iff hderives hdraws hsid hsubject hbroadcasts.2 hnotified htells]
      exact h.subjects hbroadcasts client hregistered hnotifiable code claims hclaims hclient.symm
    · intro n hn client hregistered haddressed hrequired
      obtain ⟨hbroadcasts, told, htold, hnotifiable, hnotified⟩ := hsent n hn
      have hid : told.clientId = client.clientId := (haudience hnotified).mp haddressed
      have hsame : told = client := by
        have hfind := Table.find_of_mem htold
        rw [hid, Table.find_of_mem hregistered] at hfind
        exact (Option.some.inj hfind).symm
      subst hsame
      have hne : visit.sid ≠ "" :=
        ((h.backchannel told htold hnotifiable).mp hbroadcasts).2 hrequired
      obtain ⟨displayed, jwtId, -, rfl⟩ := hnotified
      exact ⟨hne, get_sid_logoutToken _ _ _ _ _ _ hne⟩

end SessionServer

/-! ### A client that requires the session -/

namespace SessionServer.Sample

open PurIdentityServer.Sample (platform ports)

/-- A client told on both channels, that requires the session on both. -/
def client : Client :=
  { PurIdentityServer.Sample.client with
    sectorIdentifierUri := "https://app.example/sector"
    frontchannelLogoutUri := "https://app.example/front"
    frontchannelLogoutSessionRequired := true
    backchannelLogoutUri := "https://app.example/back"
    backchannelLogoutSessionRequired := true }

def world : World := { clock := 0, clients := Table.empty.save client }

def server : SessionServer Unit where
  tokens := PurIdentityServer.Sample.tokens
  authorize := AuthorizeUseCase.Sample.useCase
  ports := ports
  logout :=
    { platform := platform
      config := { issuer := "https://op.example" }
      manager := ServerToken.Sample.manager
      uuid4Hex := fun n => String.ofList (List.replicate n 'a') }
  tokens_platform := rfl
  authorize_platform := rfl
  tokens_seed := rfl
  authorize_seed := rfl

/-- The end of a session of alice. -/
def visit (sid : String) : EndSessionVisit := { user := some "alice", sid := sid }

theorem accepted (sid : String) :
    server.logout.execute ports world (visit sid).request = .ok (.ok { sessionId := sid }) := rfl

theorem sectors : LogoutUseCase.SectorsReadable platform world.clients.rows := by
  intro client hmem
  cases List.mem_singleton.mp hmem
  exact ⟨"", rfl⟩

theorem derives : DerivesApart platform := fun _ _ _ h => h

theorem draws : DrawsUnseparated ports := by
  intro n
  unfold Unseparated
  simp [ports, List.mem_replicate]

end SessionServer.Sample

open SessionServer.Sample in
/-- Without a `sid`, the client that requires one is told all the same, on both channels. -/
theorem SessionServer.session_not_required :
    server.logout.execute server.ports world (visit "").request = .ok (.ok {}) ∧
      server.logout.iframes server.ports world (visit "") =
        ["https://app.example/front?sid="] ∧
      ¬server.LogoutCorrelated world (visit "") "alice" := by
  refine ⟨rfl, by decide +kernel, ?_⟩
  intro h
  exact absurd h.frontchannel.length_eq (by decide +kernel)

open SessionServer.Sample in
theorem SessionServer.correlated_iff_session :
    server.LogoutCorrelated world (visit "s1") "alice" ↔
      server.LogoutFits world (visit "s1") "alice" { sessionId := "s1" } :=
  SessionServer.correlated_iff server world (visit "s1") { sessionId := "s1" } "alice" (accepted "s1") sectors
    derives draws (by unfold Unseparated; decide) (by decide)

end PurIdentityServer

import PurIdentityServer.Application.TokenTypes

/-!
# Logout — the end of a session, as the clients learn of it

`LogoutUseCase` resolves the `id_token_hint` of a logout, checks where the
browser may go afterwards, and tells the clients: the ones with a
`frontchannel_logout_uri` by an iframe of the page, the ones with a
`backchannel_logout_uri` by a signed `logout_token`.

The notifications are the trace of `broadcastBackchannelLogout`: those sent
before an exception stay sent.
-/

namespace PurIdentityServer

open Effects

/-! ## Requests and results -/

structure LogoutConfig where
  issuer : String
  logoutTokenTtlSeconds : Int := 60
  subjectSeed : String := ""

structure LogoutRequest where
  idTokenHint : String := ""
  postLogoutRedirectUri : String := ""
  state : String := ""
  sessionId : String := ""

structure LogoutResult where
  postLogoutRedirectUri : String := ""
  state : String := ""
  subject : String := ""
  clientId : String := ""
  sessionId : String := ""

structure LogoutError where
  error : String
  errorDescription : String := ""

/-- One call of `BackchannelNotifier.notify`, with what its token says. -/
structure BackchannelNotification where
  url : String
  logoutToken : ServerToken

/-- `LogoutUseCase`; `notifier` tells whether a notifier is injected. -/
structure LogoutUseCase (κ : Type) where
  platform : Platform
  config : LogoutConfig
  manager : TokenManager κ
  notifier : Bool := true
  /-- the `n`-th `uuid4().hex` -/
  uuid4Hex : Nat → String

namespace LogoutUseCase

variable {κ : Type} (u : LogoutUseCase κ) (ports : Ports) (w : World)

/-! ## The request -/

/-- `str` of a claim. -/
def claimText : Json → String
  | .str s => s
  | value => u.platform.pyStr value

/-- The `sub` of a hint, as text. -/
def hintSubject (claims : Members) : String :=
  match Dict.get claims "sub" with
  | none | some .null => ""
  | some value => u.claimText value

/-- The client a hint was issued to, when it is a text. -/
def hintAudience (claims : Members) : String :=
  ((Dict.get claims "aud").bind Json.asStr).getD ""

/-- `_resolve_hint` -/
def resolveHint (idTokenHint : String) : Raising (Except LogoutError (Option Client × String)) :=
  if idTokenHint = "" then .ok (.ok (none, ""))
  else
    match u.manager.validateIdToken w.clock idTokenHint u.config.issuer false with
    | .error x => .error x
    | .ok none => .ok (.error ⟨"invalid_request", "id_token_hint invalide"⟩)
    | .ok (some claims) =>
        match (w.findClient ports (hintAudience claims)).filter (·.isActive) with
        | none =>
            .ok (.error ⟨"invalid_request", "id_token_hint d'un client inconnu ou inactif"⟩)
        | some candidate => .ok (.ok (some candidate, u.hintSubject claims))

/-- `_client_for_post_logout_uri` -/
def clientForPostLogoutUri (uri : String) : Option Client :=
  w.clients.rows.find? fun candidate =>
    candidate.isActive && decide (uri ∈ candidate.postLogoutRedirectUris)

/-- `execute` -/
def execute (request : LogoutRequest) : Raising (Except LogoutError LogoutResult) :=
  match u.resolveHint ports w request.idTokenHint with
  | .error x => .error x
  | .ok (.error e) => .ok (.error e)
  | .ok (.ok (hinted, subject)) =>
      if request.postLogoutRedirectUri = "" then
        .ok (.ok
          { state := request.state
            subject := subject
            clientId := (hinted.map Client.clientId).getD ""
            sessionId := request.sessionId })
      else
        match hinted <|> clientForPostLogoutUri w request.postLogoutRedirectUri with
        | none => .ok (.error ⟨"invalid_request", "post_logout_redirect_uri non enregistrée"⟩)
        | some client =>
            if request.postLogoutRedirectUri ∈ client.postLogoutRedirectUris then
              .ok (.ok
                { postLogoutRedirectUri := request.postLogoutRedirectUri
                  state := request.state
                  subject := subject
                  clientId := client.clientId
                  sessionId := request.sessionId })
            else
              .ok (.error ⟨"invalid_request", "post_logout_redirect_uri non enregistrée"⟩)

/-! ## The notifications -/

end LogoutUseCase

/-- The two ways a client is told of a logout. -/
inductive LogoutChannel where
  | frontchannel
  | backchannel
  deriving DecidableEq, Repr

namespace Client

def logoutUri (client : Client) : LogoutChannel → String
  | .frontchannel => client.frontchannelLogoutUri
  | .backchannel => client.backchannelLogoutUri

def logoutSessionRequired (client : Client) : LogoutChannel → Bool
  | .frontchannel => client.frontchannelLogoutSessionRequired
  | .backchannel => client.backchannelLogoutSessionRequired

/-- The candidates of `frontchannel_uris` and the targets of
`broadcast_backchannel_logout`: active, with an URI. -/
def Notifiable (channel : LogoutChannel) (client : Client) : Prop :=
  client.isActive = true ∧ client.logoutUri channel ≠ ""

instance (channel : LogoutChannel) (client : Client) : Decidable (client.Notifiable channel) :=
  inferInstanceAs (Decidable (_ ∧ _))

/-- The iframe of a client. -/
def frontchannelUri (sessionId : String) (client : Client) : String :=
  if client.frontchannelLogoutSessionRequired then
    let separator := if '?' ∈ client.frontchannelLogoutUri.toList then "&" else "?"
    client.frontchannelLogoutUri ++ separator ++ "sid=" ++ sessionId
  else client.frontchannelLogoutUri

end Client

namespace LogoutUseCase

variable {κ : Type} (u : LogoutUseCase κ) (w : World)

/-- The clients of a channel. -/
def targets (channel : LogoutChannel) : List Client :=
  w.clients.rows.filter fun client => client.Notifiable channel

/-- `frontchannel_uris` -/
def frontchannelUris (sessionId : String) : List String :=
  (targets w .frontchannel).map (Client.frontchannelUri sessionId)

/-- The `logout_token` of a client, its subject derived. -/
def logoutToken (client : Client) (displayed sessionId : String) (jwtId : Nat) : ServerToken :=
  let issuedAt := Instant.epoch w.clock
  .logoutToken u.config.issuer displayed client.clientId sessionId
    (issuedAt + u.config.logoutTokenTtlSeconds) issuedAt (u.uuid4Hex jwtId)

/-- The loop of `broadcast_backchannel_logout`. -/
def notifyTargets (subject sessionId : String) :
    List Client → Nat → List BackchannelNotification × Raising Unit
  | [], _ => ([], .ok ())
  | candidate :: rest, jwtId =>
      match displaySubject u.platform candidate subject sessionId u.config.subjectSeed with
      | .error x => ([], .error x)
      | .ok displayed =>
          let (sent, ended) := notifyTargets subject sessionId rest (jwtId + 1)
          (⟨candidate.backchannelLogoutUri, u.logoutToken w candidate displayed sessionId jwtId⟩ ::
            sent, ended)

/-- `broadcast_backchannel_logout`: the notifications it sends, and how it ends. -/
def broadcastBackchannelLogout (subject sessionId : String) :
    List BackchannelNotification × Raising Unit :=
  if ¬ u.notifier ∨ subject = "" then ([], .ok ())
  else u.notifyTargets w subject sessionId (targets w .backchannel) 0

variable {w}

theorem mem_targets {channel : LogoutChannel} {client : Client} :
    client ∈ targets w channel ↔ client ∈ w.clients.rows ∧ client.Notifiable channel := by
  simp [targets]

/-- The registered clients: registration has split the URIs their sector is read from. -/
def SectorsReadable (p : Platform) (clients : List Client) : Prop :=
  ∀ client ∈ clients, ∃ sector, client.subjectSector p = .ok sector

/-- The subject of a client whose sector is readable is displayed. -/
theorem displaySubject_ok {p : Platform} {client : Client} (subject material seed : String)
    (h : ∃ sector, client.subjectSector p = .ok sector) :
    ∃ displayed, displaySubject p client subject material seed = .ok displayed := by
  obtain ⟨sector, hsector⟩ := h
  unfold displaySubject
  split
  · exact ⟨_, rfl⟩
  split
  · rw [hsector]
    show ∃ displayed, (if sector = "" ∨ seed = "" then Except.ok subject
      else .ok (pairwiseSubject p seed sector subject)) = .ok displayed
    split <;> exact ⟨_, rfl⟩
  · split <;> exact ⟨_, rfl⟩
  · exact ⟨_, rfl⟩

/-- What is sent to a client of the list. -/
def NotifiedAs (u : LogoutUseCase κ) (w : World) (subject sessionId : String) (client : Client)
    (n : BackchannelNotification) : Prop :=
  ∃ displayed jwtId,
    displaySubject u.platform client subject sessionId u.config.subjectSeed = .ok displayed ∧
      n = ⟨client.backchannelLogoutUri, u.logoutToken w client displayed sessionId jwtId⟩

/-- Each client of the list gets its notification, in their order. -/
theorem notifyTargets_total (w : World) (subject sessionId : String) {clients : List Client}
    (h : SectorsReadable u.platform clients) (jwtId : Nat) :
    (u.notifyTargets w subject sessionId clients jwtId).2 = .ok () ∧
      List.Forall₂ (u.NotifiedAs w subject sessionId) clients
        (u.notifyTargets w subject sessionId clients jwtId).1 := by
  induction clients generalizing jwtId with
  | nil => exact ⟨rfl, .nil⟩
  | cons candidate rest ih =>
      obtain ⟨displayed, hdisplayed⟩ := displaySubject_ok subject sessionId
        u.config.subjectSeed (h candidate List.mem_cons_self)
      obtain ⟨hended, hsent⟩ := ih (fun client hmem => h client (List.mem_cons_of_mem _ hmem))
        (jwtId + 1)
      unfold notifyTargets
      rw [hdisplayed]
      exact ⟨hended, .cons ⟨displayed, jwtId, hdisplayed, rfl⟩ hsent⟩

end LogoutUseCase

end PurIdentityServer

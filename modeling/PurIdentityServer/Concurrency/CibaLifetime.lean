import PurIdentityServer.Application.BackchannelAuthorize
import PurIdentityServer.Concurrency.SessionIssuance
import PurIdentityServer.Lib.History

/-!
# CibaLifetime — a backchannel request and the clock

Backchannel requests, approvals, polls and changes of the registry of
clients, at nondecreasing instants. A poll compares the stored expiry with
the clock and looks the client up; an approval does neither, and in push
mode it issues the tokens itself. In the runs whose approvals come in time,
and for active clients in push mode, no request is approved and no token
is issued after the expiry that was stored with the request.
-/

namespace PurIdentityServer

open Effects

/-! ## What a request may do -/

/-- The request of the key is stored and has not expired. -/
def LiveRow (w : World) (key : String) : Prop :=
  ∃ row, w.backchannelAuth.find key = some row ∧ w.clock ≤ row.expiresAt

/-- It has not, and its client is active. -/
def LiveSession (ports : Ports) (w : World) (key : String) : Prop :=
  ∃ row client, w.backchannelAuth.find key = some row ∧ w.clock ≤ row.expiresAt ∧
    w.findClient ports row.clientId = some client ∧ client.isActive = true

/-- A call that signs or stores a token. -/
def Call.issuesToken : Call → Bool
  | .createIdToken _ | .createAccessToken _ | .saveRefreshToken _ => true
  | _ => false

/-- The row is one of the store, polled. -/
def Rewrites (w : World) (row : BackchannelAuthenticationRequest) : Prop :=
  row.status ≠ .approved ∧ ∃ old, w.backchannelAuth.find row.authReqIdHash = some old ∧
    row.expiresAt = old.expiresAt ∧ row.clientId = old.clientId

/-- The calls of a request that meets the store `w`: tokens of a live request only, an
approval before the expiry, and no other row. -/
def Timed (ports : Ports) (p : Platform) (w : World) (request : Request) (c : Call) : Prop :=
  (c.issuesToken = true → ∀ key, Family.ciba.Concerns p key request → LiveSession ports w key) ∧
    match c with
    | .approveBackchannel key => LiveRow w key
    | .saveBackchannel row => Rewrites w row
    | _ => True

/-- The approval of a stored request with the code it asks for comes before its expiry, and
for an active client when it is to be notified with tokens. -/
def InTime (s : Server) (ports : Ports) (w : World) : Request → Prop
  | .decideCiba authReqId true userCode => ∀ row,
      w.backchannelAuth.find (tokenHash s.token.platform authReqId) = some row →
      row.status = .pending → s.ciba.userCodeMatches row userCode = true →
        w.clock ≤ row.expiresAt ∧
          (s.pushNotifier = true → row.deliveryMode = "push" →
            row.clientNotificationEndpoint ≠ "" → row.clientNotificationToken ≠ "" →
              ∀ client, w.findClient ports row.clientId = some client → client.isActive = true)
  | _ => True

section
variable {ports : Ports} {p : Platform} {w s : World} {request : Request} {ε α β : Type}

/-- The clock and the registry of clients do not change within a request. -/
structure SameClients (w s : World) : Prop where
  clock : s.clock = w.clock
  clients : s.clients = w.clients

theorem SameClients.findClient (h : SameClients w s) (clientId : String) :
    s.findClient ports clientId = w.findClient ports clientId := by
  unfold World.findClient
  rw [h.clock, h.clients]

theorem SameClients.exec (h : SameClients w s) (c : Call) : SameClients w (exec ports c s).2 :=
  ⟨(exec_clock ..).trans h.clock, (exec_clients ..).trans h.clients⟩

/-- The store a request has only read so far. -/
structure Unmoved (w s : World) : Prop extends SameClients w s where
  backchannel : s.backchannelAuth = w.backchannelAuth

theorem Unmoved.refl (w : World) : Unmoved w w := ⟨⟨rfl, rfl⟩, rfl⟩

theorem Unmoved.exec (h : Unmoved w s) {c : Call} (hc : c.area ≠ .backchannel) :
    Unmoved w (exec ports c s).2 := by
  refine ⟨h.toSameClients.exec c, ?_⟩
  rw [exec_backchannelAuth]
  cases c <;> first
    | exact h.backchannel
    | exact absurd rfl hc

/-- A call outside the backchannel store that issues no token is always allowed. -/
theorem timed_of_silent {c : Call} (h : c.In [.passive, .draws, .notices]) :
    Timed ports p w request c := by
  unfold Call.In at h
  cases c
  case createIdToken | createAccessToken | saveRefreshToken | approveBackchannel
      | saveBackchannel => cases h
  all_goals exact ⟨nofun, trivial⟩

/-- What a live request allows. -/
theorem timed_of_live {l : List Area} {c : Call} (hl : l.contains .backchannel = false)
    (hlive : ∀ key, Family.ciba.Concerns p key request → LiveSession ports w key)
    (h : c.In l) : Timed ports p w request c := by
  refine ⟨fun _ => hlive, ?_⟩
  unfold Call.In at h
  cases c
  case approveBackchannel | saveBackchannel => exact absurd (hl.symm.trans h) (by decide)
  all_goals trivial

variable {Q : World → α → Prop} {E : World → Stop ε → Prop}

/-- A part that only reads, in front of the rest. -/
theorem timed_bind {l : List Area} {x : M ε β} {f : β → M ε α}
    (hl : l.all ([Area.passive, .draws].contains ·) = true) (hx : x.Uses (Call.In l))
    (hs : Unmoved w s) (hE : ∀ s' e, Unmoved w s' → E s' e)
    (hf : ∀ b s', Unmoved w s' →
      wp (Monitor.allowing (exec ports) (Timed ports p w request)) (f b) Q E s') :
    wp (Monitor.allowing (exec ports) (Timed ports p w request)) (x >>= f) Q E s := by
  have hsame : wp (Monitor.allowing (exec ports) (Timed ports p w request)) x
      (fun s' _ => Unmoved w s') (fun s' _ => Unmoved w s') s := by
    refine wp_of_uses hx (Unmoved w) ?_ hs
    intro s' c hs' hc
    have hin : c.In [.passive, .draws] := Call.In.mono hl c hc
    refine ⟨timed_of_silent (Call.In.mono rfl c hin), ?_⟩
    rintro _ _
    refine hs'.exec ?_
    intro harea
    unfold Call.In at hin
    rw [harea] at hin
    cases hin
  exact (wp_bind _ _).mpr (wp_mono hsame (fun s' b h => hf b s' h) hE)

/-- A program all of whose calls are allowed. -/
theorem timed_of_uses {S : Call → Prop} {x : M ε α} (hx : x.Uses S)
    (hS : ∀ c, S c → Timed ports p w request c) (hs : SameClients w s) :
    wp (Monitor.allowing (exec ports) (Timed ports p w request)) x
      (fun s' _ => SameClients w s') (fun s' _ => SameClients w s') s := by
  refine wp_of_uses hx (SameClients w) ?_ hs
  intro s' c hs' hc
  refine ⟨hS c hc, ?_⟩
  rintro _ _
  exact hs'.exec c

end

/-! ## Polls -/

section
variable {ports : Ports} {w s : World} {request : TokenRequest} (u : TokenUseCase)

/-- The approved flow of a live session. -/
theorem cibaApprovedFlow_timed {p : Platform} {r : Request}
    (hlive : ∀ key, Family.ciba.Concerns p key r → LiveSession ports w key)
    (g : Granted BackchannelAuthenticationRequest) (tlsCertHash : String)
    (hs : SameClients w s) :
    wp (Monitor.allowing (exec ports) (Timed ports p w r)) (u.cibaApprovedFlow g tlsCertHash)
      (fun s' _ => SameClients w s') (fun s' _ => SameClients w s') s := by
  refine wp_refuseIf_bind.mpr ⟨fun _ => hs, fun _ => ?_⟩
  refine wp_ask_bind.mpr ⟨⟨nofun, trivial⟩, ?_⟩
  rintro _ _
  exact timed_of_uses (u.issueSession_uses _ _) (fun c hc => timed_of_live rfl hlive hc)
    (hs.exec _)

/-- The session a poll has found, on the store it met. -/
structure Found (ports : Ports) (w : World) (key : String)
    (stored : BackchannelAuthenticationRequest) : Prop where
  row : w.backchannelAuth.find key = some stored
  unexpired : w.clock ≤ stored.expiresAt
  active : ∃ client, w.findClient ports stored.clientId = some client ∧ client.isActive = true

theorem Found.live {key : String} {stored : BackchannelAuthenticationRequest}
    (h : Found ports w key stored) : LiveSession ports w key := by
  obtain ⟨client, hfind, hactive⟩ := h.active
  exact ⟨stored, client, h.row, h.unexpired, hfind, hactive⟩

variable {p : Platform} {r : Request}

theorem activeClient_timed (hs : Unmoved w s) (clientId description : String) :
    wp (Monitor.allowing (exec ports) (Timed ports p w r))
      (TokenUseCase.activeClient clientId description)
      (fun s' client => Unmoved w s' ∧ w.findClient ports clientId = some client ∧
        client.isActive = true) (fun _ _ => True) s := by
  refine wp_orRefuse_bind.mpr (wp_op.mpr ⟨⟨nofun, trivial⟩, ?_⟩)
  rintro _ rfl
  refine ⟨fun _ => trivial, fun client hfind => ?_⟩
  have hfind' : s.findClient ports clientId = some client := hfind
  refine wp_refuseIf_bind.mpr ⟨fun _ => trivial, fun hactive => ?_⟩
  exact wp_pure.mpr ⟨hs, (hs.toSameClients.findClient clientId).symm.trans hfind',
    by simpa using hactive⟩

theorem loadCibaSession_timed (hs : Unmoved w s) :
    wp (Monitor.allowing (exec ports) (Timed ports p w r)) (u.loadCibaSession request)
      (fun s' stored => Unmoved w s' ∧ stored.clientId = request.clientId ∧
        w.backchannelAuth.find (tokenHash u.platform request.authReqId) = some stored ∧
          w.clock ≤ stored.expiresAt) (fun _ _ => True) s := by
  unfold TokenUseCase.loadCibaSession
  refine wp_orRefuse_bind.mpr (wp_op.mpr ⟨⟨(by intro h; cases h), trivial⟩, ?_⟩)
  rintro _ rfl
  refine ⟨fun _ => trivial, fun stored hfind => ?_⟩
  have hfind' : s.backchannelAuth.find (tokenHash u.platform request.authReqId) = some stored :=
    hfind
  refine wp_refuseIf_bind.mpr ⟨fun _ => trivial, fun hclient => ?_⟩
  refine wp_ask_bind.mpr ⟨⟨(by intro h; cases h), trivial⟩, ?_⟩
  rintro _ rfl
  split
  · exact wp_ask_bind.mpr ⟨⟨(by intro h; cases h), trivial⟩, fun _ _ => wp_fail.mpr trivial⟩
  rename_i hexpires
  refine wp_refuseIf_bind.mpr ⟨fun _ => trivial, fun _ => ?_⟩
  refine wp_refuseIf_bind.mpr ⟨fun _ => trivial, fun _ => ?_⟩
  rw [hs.backchannel] at hfind'
  have hclock : ¬stored.expiresAt < s.clock := hexpires
  rw [hs.clock] at hclock
  exact wp_pure.mpr ⟨hs, not_not.mp hclient, hfind', not_lt.mp hclock⟩

/-- A poll that passes its checks has found a live session. -/
theorem checkCiba_timed :
    wp (Monitor.allowing (exec ports) (Timed ports p w r)) (u.checkCiba request)
      (fun s' g => Unmoved w s' ∧ Found ports w (tokenHash u.platform request.authReqId) g.stored)
      (fun _ _ => True) w := by
  unfold TokenUseCase.checkCiba
  refine wp_refuseIf_bind.mpr ⟨fun _ => trivial, fun _ => ?_⟩
  refine wp_refuseIf_bind.mpr ⟨fun _ => trivial, fun _ => ?_⟩
  refine (wp_bind _ _).mpr (wp_mono (activeClient_timed (.refl w) _ _) ?_ fun _ _ h => h)
  rintro s client ⟨hs, hfind, hactive⟩
  refine timed_bind rfl (u.authenticateClient_uses _ _) hs (fun _ _ _ => trivial) ?_
  intro _ s hs
  refine timed_bind rfl (u.evaluateDpop_uses _ _ _) hs (fun _ _ _ => trivial) ?_
  intro binding s hs
  refine (wp_bind _ _).mpr (wp_mono (loadCibaSession_timed u hs) ?_ fun _ _ h => h)
  rintro s stored ⟨hs, hclient, hrow, hunexpired⟩
  refine timed_bind rfl (u.effectiveResources_uses _ _) hs (fun _ _ _ => trivial) ?_
  intro resources s hs
  refine wp_ask_bind.mpr ⟨⟨nofun, trivial⟩, fun now _ =>
    wp_pure.mpr ⟨hs, hrow, hunexpired, client, ?_, hactive⟩⟩
  rw [hclient]
  exact hfind

/-- A poll issues tokens of a live session, and writes back the row it found. -/
theorem ciba_timed {whole : TokenRequest} (hkey : whole.authReqId = request.authReqId) :
    wp (Monitor.allowing (exec ports) (Timed ports u.platform w (.token whole)))
      (u.ciba request) (fun _ _ => True) (fun _ _ => True) w := by
  refine (wp_bind _ _).mpr (wp_mono (checkCiba_timed u) ?_ fun _ _ h => h)
  rintro s g ⟨hs, hfound⟩
  unfold TokenUseCase.pollCiba
  split
  · refine wp_mono (cibaApprovedFlow_timed u ?_ g _ hs.toSameClients) (fun _ _ _ => trivial)
      fun _ _ _ => trivial
    rintro key ⟨-, rfl⟩
    rw [hkey]
    exact hfound.live
  · rename_i hpending
    have hrewrites : ∀ tooFast, Rewrites w (TokenUseCase.polledCiba g.stored g.now tooFast) := by
      intro tooFast
      refine ⟨hpending, g.stored, ?_, rfl, rfl⟩
      have hkey : g.stored.authReqIdHash = tokenHash u.platform request.authReqId :=
        Table.find_key hfound.row
      show w.backchannelAuth.find g.stored.authReqIdHash = some g.stored
      rw [hkey]
      exact hfound.row
    unfold TokenUseCase.cibaPendingResponse
    split
    · exact wp_ask_bind.mpr ⟨⟨nofun, hrewrites true⟩, fun _ _ => wp_fail.mpr trivial⟩
    · exact wp_ask_bind.mpr ⟨⟨nofun, hrewrites false⟩, fun _ _ => wp_fail.mpr trivial⟩

/-- A token request of any grant. -/
theorem execute_timed :
    wp (Monitor.allowing (exec ports) (Timed ports u.platform w (.token request)))
      (u.execute request) (fun _ _ => True) (fun _ _ => True) w := by
  obtain ⟨clientId, hexec⟩ := u.execute_cases request
  rw [hexec]
  by_cases hgrant : request.grantType = cibaGrantType
  · have hgrant' : { request with clientId := clientId }.grantType = cibaGrantType := hgrant
    rw [u.dispatch_ciba hgrant']
    exact ciba_timed u rfl
  · have hother : ∀ key, Family.ciba.Concerns u.platform key (.token request) →
        LiveSession ports w key := fun key h => absurd h.1 hgrant
    have huses : ∀ {l : List Area} {x : M TokenError TokenResponse}, x.Uses (Call.In l) →
        l.contains .backchannel = false →
        wp (Monitor.allowing (exec ports) (Timed ports u.platform w (.token request))) x
          (fun _ _ => True) (fun _ _ => True) w := fun hx hl =>
      wp_mono (timed_of_uses hx (fun c hc => timed_of_live hl hother hc) ⟨rfl, rfl⟩)
        (fun _ _ _ => trivial) fun _ _ _ => trivial
    unfold TokenUseCase.dispatch
    split
    · exact huses (u.exchangeCode_uses _) rfl
    split
    · exact huses (u.refresh_uses _) rfl
    split
    · exact huses (u.clientCredentials_uses _) rfl
    split
    · exact huses (u.jwtBearer_uses _) rfl
    split
    · exact huses (u.deviceCode_uses _) rfl
    split
    · exact huses (u.preAuthorizedCode_uses _) rfl
    · exact wp_fail.mpr trivial

end

/-! ## Decisions -/

section
variable {ports : Ports} {w s : World} {ε : Type}

theorem issueCibaPushTokens_timed (u : TokenUseCase) {p : Platform} {r : Request}
    {stored : BackchannelAuthenticationRequest}
    (hlive : ∀ client, w.findClient ports stored.clientId = some client →
      ∀ key, Family.ciba.Concerns p key r → LiveSession ports w key) (hs : SameClients w s) :
    wp (Monitor.allowing (exec ports) (Timed ports p w r))
      (outcome (u.issueCibaPushTokens stored) : M ε (Except TokenError TokenResponse))
      (fun s' _ => SameClients w s') (fun s' _ => SameClients w s') s := by
  refine (wp_handle _ _).mpr ((wp_bind _ _).mpr (wp_mono (Q := fun s' _ => SameClients w s')
    (E := fun s' _ => SameClients w s') ?_ (fun _ _ h => wp_pure.mpr h) ?_))
  · refine wp_refuseIf_bind.mpr ⟨fun _ => hs, fun _ => ?_⟩
    refine wp_orRefuse_bind.mpr (wp_op.mpr ⟨⟨nofun, trivial⟩, ?_⟩)
    rintro _ rfl
    refine ⟨fun _ => hs, fun client hfind => ?_⟩
    have hfind' : s.findClient ports stored.clientId = some client := hfind
    rw [hs.findClient] at hfind'
    exact wp_ask_bind.mpr ⟨⟨nofun, trivial⟩, fun now _ =>
      cibaApprovedFlow_timed u (hlive client hfind') _ _ hs⟩
  · intro s' stop hs'
    cases stop with
    | refused e => exact wp_pure.mpr hs'
    | raised x => exact wp_fail.mpr hs'

theorem pushNotification_timed (u : TokenUseCase) {p : Platform} {r : Request}
    {stored : BackchannelAuthenticationRequest} (authReqId : String)
    (hlive : ∀ client, w.findClient ports stored.clientId = some client →
      ∀ key, Family.ciba.Concerns p key r → LiveSession ports w key) (hs : SameClients w s) :
    wp (Monitor.allowing (exec ports) (Timed ports p w r))
      (CibaApprovalUseCase.pushNotification u stored authReqId : M ε String)
      (fun s' _ => SameClients w s') (fun s' _ => SameClients w s') s := by
  refine (wp_bind _ _).mpr (wp_mono (issueCibaPushTokens_timed u hlive hs) ?_ fun _ _ h => h)
  intro s' candidate hs'
  refine (wp_bind _ _).mpr (wp_mono (Q := fun s' _ => SameClients w s')
    (E := fun s' _ => SameClients w s') ?_ ?_ fun _ _ h => h)
  · cases candidate.toOption with
    | some response => exact wp_pure.mpr hs'
    | none =>
        refine (wp_bind _ _).mpr (wp_mono (issueCibaPushTokens_timed u hlive hs') ?_
          fun _ _ h => h)
        exact fun s'' issued h => wp_pure.mpr h
  · intro s' response hs'
    have huses : (do
        let now ← ask .now
        let jti ← ask .tokenUrlsafe
        let claims := [("auth_req_id", Json.str authReqId),
          ("exp", .num (toString (Instant.epoch (now + seconds 300)))), ("jti", .str jti)]
        ask (.createUserinfoJwt u.config.issuer stored.clientId u.config.signingAlgorithm
          (claims ++ (response.map TokenUseCase.notifiedTokens).getD [])) >>= orRaise :
          M ε String).Uses fun c => c.issuesToken = false ∧ c.area ≠ .backchannel := by
      refine Prog.uses_bind (Prog.uses_op ⟨rfl, nofun⟩) fun now => ?_
      refine Prog.uses_bind (Prog.uses_op ⟨rfl, nofun⟩) fun jti => ?_
      exact Prog.uses_bind (Prog.uses_op ⟨rfl, nofun⟩) fun _ => uses_orRaise _ _
    refine timed_of_uses huses ?_ hs'
    rintro c ⟨hissues, harea⟩
    refine ⟨fun h => absurd (hissues.symm.trans h) (by decide), ?_⟩
    cases c
    case approveBackchannel | saveBackchannel => exact absurd rfl harea
    all_goals trivial

theorem notifyPing_timed (d : Server) {p : Platform} {r : Request}
    (stored : BackchannelAuthenticationRequest) (authReqId : String) (hs : SameClients w s) :
    wp (Monitor.allowing (exec ports) (Timed ports p w r))
      (d.ciba.notifyPing stored authReqId : M ε Unit)
      (fun s' _ => SameClients w s') (fun s' _ => SameClients w s') s := by
  unfold CibaApprovalUseCase.notifyPing
  split
  · exact wp_pure.mpr hs
  · refine wp_op.mpr ⟨⟨nofun, trivial⟩, ?_⟩
    rintro _ _
    exact hs.exec _

/-- A decision in time. -/
theorem cibaExecute_timed (d : Server) {authReqId : String} {allow : Bool} {userCode : String}
    (hin : InTime d ports w (.decideCiba authReqId allow userCode)) :
    wp (Monitor.allowing (exec ports)
        (Timed ports d.token.platform w (.decideCiba authReqId allow userCode)))
      (d.ciba.execute authReqId allow userCode : M ε Bool) (fun _ _ => True)
      (fun _ _ => True) w := by
  unfold CibaApprovalUseCase.execute
  split
  · exact wp_pure.mpr trivial
  refine wp_ask_bind.mpr ⟨⟨nofun, trivial⟩, ?_⟩
  rintro _ rfl
  have hreply : (exec ports (.findByAuthReqIdHash (tokenHash d.ciba.platform authReqId)) w).1 =
      w.backchannelAuth.find (tokenHash d.token.platform authReqId) := rfl
  rw [hreply]
  cases hrow : w.backchannelAuth.find (tokenHash d.token.platform authReqId) with
  | none => exact wp_pure.mpr trivial
  | some stored =>
      dsimp only
      split
      · exact wp_pure.mpr trivial
      rename_i hpending
      split
      · exact wp_pure.mpr trivial
      rename_i hcode
      have hpending' : stored.status = .pending := not_not.mp hpending
      have hcode' : d.ciba.userCodeMatches stored userCode = true := not_not.mp hcode
      have hstart : SameClients w w := ⟨rfl, rfl⟩
      refine (wp_bind _ _).mpr (wp_mono (Q := fun s' _ => SameClients w s')
        (E := fun _ _ => True) ?_ ?_ fun _ _ h => h)
      · cases allow with
        | true =>
            have hunexpired := (hin stored hrow hpending' hcode').1
            refine wp_op.mpr ⟨⟨nofun, stored, hrow, hunexpired⟩, ?_⟩
            rintro _ _
            exact hstart.exec _
        | false =>
            refine wp_op.mpr ⟨⟨nofun, trivial⟩, ?_⟩
            rintro _ _
            exact hstart.exec _
      intro s _ hs
      refine (wp_bind _ _).mpr (wp_mono (notifyPing_timed d stored authReqId hs) ?_
        fun _ _ _ => trivial)
      intro s _ hs
      refine (wp_bind _ _).mpr (wp_mono (Q := fun _ _ => True) (E := fun _ _ => True) ?_
        (fun _ _ _ => wp_pure.mpr trivial) fun _ _ h => h)
      unfold CibaApprovalUseCase.notifyPush
      split
      · exact wp_pure.mpr trivial
      rename_i hpush
      simp only [not_or, not_not] at hpush
      obtain ⟨hnotifier, hmode, hendpoint, htoken⟩ := hpush
      refine (wp_bind _ _).mpr (wp_mono (Q := fun s' _ => SameClients w s')
        (E := fun _ _ => True) ?_ ?_ fun _ _ h => h)
      · cases allow with
        | false => exact wp_pure.mpr hs
        | true =>
            obtain ⟨hunexpired, hactive⟩ := hin stored hrow hpending' hcode'
            refine (wp_bind _ _).mpr (wp_mono (pushNotification_timed d.token authReqId ?_ hs)
              (fun _ _ h => wp_pure.mpr h) fun _ _ _ => trivial)
            rintro client hfind key ⟨-, rfl⟩
            exact ⟨stored, client, hrow, hunexpired, hfind,
              hactive hnotifier hmode hendpoint htoken client hfind⟩
      · intro s' notification hs'
        exact wp_op.mpr ⟨⟨nofun, trivial⟩, fun _ _ => trivial⟩

/-- Any request. -/
theorem serve_timed (d : Server) {request : Request} (hin : InTime d ports w request) :
    wp (Monitor.allowing (exec ports) (Timed ports d.token.platform w request))
      (d.serve request) (fun _ _ => True) (fun _ _ => True) w := by
  have hdevice : ∀ userCode subject, ∀ r, (∀ key, ¬Family.ciba.Concerns d.token.platform key r) →
      wp (Monitor.allowing (exec ports) (Timed ports d.token.platform w r))
        (DeviceAuthorizationUseCase.decide d.token.platform userCode subject :
          M TokenError DeviceDecision) (fun _ _ => True) (fun _ _ => True) w := by
    intro userCode subject r hr
    refine wp_mono (timed_of_uses (d.decide_uses userCode subject) ?_ ⟨rfl, rfl⟩)
      (fun _ _ _ => trivial) fun _ _ _ => trivial
    intro c hc
    exact timed_of_live rfl (fun key h => absurd h (hr key)) hc
  cases request with
  | token request =>
      refine (wp_bind _ _).mpr (wp_mono (execute_timed d.token) ?_ fun _ _ h => h)
      exact fun _ _ _ => wp_pure.mpr trivial
  | approveDevice userCode subject =>
      refine (wp_bind _ _).mpr (wp_mono (hdevice userCode (some subject) _ fun _ h => h) ?_
        fun _ _ h => h)
      exact fun _ _ _ => wp_pure.mpr trivial
  | denyDevice userCode =>
      refine (wp_bind _ _).mpr (wp_mono (hdevice userCode none _ fun _ h => h) ?_
        fun _ _ h => h)
      exact fun _ _ _ => wp_pure.mpr trivial
  | decideCiba authReqId allow userCode =>
      refine (wp_bind _ _).mpr (wp_mono (cibaExecute_timed d hin) ?_ fun _ _ h => h)
      exact fun _ _ _ => wp_pure.mpr trivial

end

/-! ## What a request leaves of the rows -/

/-- The rows of a store come from those of `w`: no other request, expiry or client, and an
approval only of a live one. -/
def Descends (w s : World) : Prop :=
  ∀ key row, s.backchannelAuth.find key = some row →
    (∃ old, w.backchannelAuth.find key = some old ∧ row.expiresAt = old.expiresAt ∧
      row.clientId = old.clientId) ∧
    (row.status = .approved →
      (∃ old, w.backchannelAuth.find key = some old ∧ old.status = .approved) ∨ LiveRow w key)

section
variable {ports : Ports} {p : Platform} {w s : World} {request : Request}

theorem Descends.refl (w : World) : Descends w w := fun _ row h =>
  ⟨⟨row, h, rfl, rfl⟩, fun happroved => .inl ⟨row, h, happroved⟩⟩

theorem Descends.exec (h : Descends w s) {c : Call} (hc : Timed ports p w request c) :
    Descends w (exec ports c s).2 := by
  intro key row hfind
  rw [exec_backchannelAuth] at hfind
  cases c with
  | saveBackchannel written =>
      obtain ⟨-, hpending, old, hold, hexpires, hclient⟩ := hc
      have hfind' : (s.backchannelAuth.save written).find key = some row := hfind
      rw [Table.find_save] at hfind'
      split at hfind'
      · rename_i hkey
        cases hfind'
        subst hkey
        exact ⟨⟨old, hold, hexpires, hclient⟩, fun happroved => absurd happroved hpending⟩
      · exact h key row hfind'
  | approveBackchannel approved =>
      have hlive : LiveRow w approved := hc.2
      have hfind' : (s.approveBackchannel approved).backchannelAuth.find key = some row := hfind
      unfold World.approveBackchannel at hfind'
      by_cases hkey : key = approved
      · subst hkey
        rw [Table.find_update_self] at hfind'
        obtain ⟨found, hfound, rfl⟩ := Option.map_eq_some_iff.mp hfind'
        exact ⟨(h key found hfound).1, fun _ => .inr hlive⟩
      · rw [Table.find_update_of_ne _ hkey] at hfind'
        exact h key row hfind'
  | denyBackchannel denied =>
      have hfind' : (s.denyBackchannel denied).backchannelAuth.find key = some row := hfind
      unfold World.denyBackchannel at hfind'
      by_cases hkey : key = denied
      · subst hkey
        rw [Table.find_update_self] at hfind'
        obtain ⟨found, hfound, rfl⟩ := Option.map_eq_some_iff.mp hfind'
        exact ⟨(h key found hfound).1, nofun⟩
      · rw [Table.find_update_of_ne _ hkey] at hfind'
        exact h key row hfind'
  | deleteBackchannel deleted =>
      have hfind' : (s.backchannelAuth.delete deleted).find key = some row := hfind
      rw [Table.find_delete] at hfind'
      split at hfind'
      · cases hfind'
      · exact h key row hfind'
  | _ => exact h key row hfind

end

/-! ## Runs at nondecreasing instants -/

/-- A deployment with its backchannel endpoint. -/
structure CibaDeployment (κ : Type) where
  backchannel : BackchannelAuthenticationUseCase κ
  ports : Ports
  pingNotifier : Bool := true
  pushNotifier : Bool := true

inductive CibaEvent where
  | authorize (params : BackchannelAuthenticationParams)
  | request (request : Request)
  /-- the administration writes the registry of clients -/
  | register (clients : Table Client.clientId)

structure Arrival where
  instant : Instant
  event : CibaEvent

/-- What an event met, did and left. -/
structure Handled where
  before : World
  calls : List Call
  after : World

namespace CibaDeployment

variable {κ : Type} (d : CibaDeployment κ)

def server : Server where
  token := d.backchannel.endpoints.tokens
  pingNotifier := d.pingNotifier
  pushNotifier := d.pushNotifier

/-- Handle an event on the store it meets. -/
def handleOn (w : World) : CibaEvent → Handled
  | .authorize params =>
      ⟨w, (d.backchannel.execute params).calls (exec d.ports) w,
        ((d.backchannel.execute params).run (exec d.ports) w).2⟩
  | .request request =>
      ⟨w, (d.server.serve request).calls (exec d.ports) w,
        ((d.server.serve request).run (exec d.ports) w).2⟩
  | .register clients => ⟨w, [], { w with clients := clients }⟩

@[simp] theorem handleOn_before (w : World) (event : CibaEvent) :
    (d.handleOn w event).before = w := by
  cases event <;> rfl

/-- Handle an event at its instant. -/
def handle (arrival : Arrival) (w : World) : Handled × World :=
  let handled := d.handleOn { w with clock := arrival.instant } arrival.event
  (handled, handled.after)

def service : Service World Arrival Handled Instant where
  handle := d.handle
  begins := Arrival.instant
  ends := Arrival.instant
  begins_le_ends := fun _ => le_refl _

/-- The entry is about the backchannel request of the key. -/
def Concerns (key : String) (e : Entry Arrival Handled) : Prop :=
  ∃ request, e.request.event = .request request ∧
    Family.ciba.Concerns d.server.token.platform key request

/-- The entry stored a new backchannel request. -/
def Stores (e : Entry Arrival Handled) (row : BackchannelAuthenticationRequest) : Prop :=
  (∃ params, e.request.event = .authorize params) ∧ Call.saveBackchannel row ∈ e.answer.calls

/-- An approval comes in time. -/
def Approves (e : Entry Arrival Handled) : Prop :=
  ∀ request, e.request.event = .request request →
    PurIdentityServer.InTime d.server d.ports e.answer.before request

/-! ### One event -/

/-- An accepted backchannel request is stored under a fresh key. -/
theorem authorize_stores (params : BackchannelAuthenticationParams) (w : World) :
    (((d.backchannel.execute params).run (exec d.ports) w).2.backchannelAuth = w.backchannelAuth ∧
        ∀ row, Call.saveBackchannel row ∉ (d.backchannel.execute params).calls (exec d.ports) w) ∨
      ∃ row n, w.draws ≤ n ∧
        row.authReqIdHash = tokenHash d.server.token.platform (d.ports.tokenUrlsafe n) ∧
        row.status = .pending ∧
        n < ((d.backchannel.execute params).run (exec d.ports) w).2.draws ∧
        ((d.backchannel.execute params).run (exec d.ports) w).2.backchannelAuth =
          w.backchannelAuth.save row ∧
        ∀ row', Call.saveBackchannel row' ∈
          (d.backchannel.execute params).calls (exec d.ports) w ↔ row' = row := by
  have huses := d.backchannel.check_uses params
  have hquiet : ∀ row, Call.saveBackchannel row ∉
      (d.backchannel.check params).calls (exec d.ports) w := by
    intro row hmem
    exact absurd (mem_calls_of_uses huses _ hmem) (by unfold Call.In; exact Bool.false_ne_true)
  have hkeep : Unmoved w ((d.backchannel.check params).run (exec d.ports) w).2 ∧
      w.draws ≤ ((d.backchannel.check params).run (exec d.ports) w).2.draws := by
    have hallowed : wp (Monitor.allowing (exec d.ports) (Call.In [.keys, .passive, .draws]))
        (d.backchannel.check params) (fun _ _ => True) (fun _ _ => True) w :=
      wp_of_uses huses (fun _ => True) (fun _ c _ hc => ⟨hc, fun _ _ => trivial⟩) trivial
    refine run_keeps (fun s => Unmoved w s ∧ w.draws ≤ s.draws) ?_ hallowed ⟨.refl w, le_refl _⟩
    rintro s c ⟨hs, hle⟩ hc
    refine ⟨hs.exec ?_, hle.trans (exec_draws_le c s)⟩
    intro harea
    unfold Call.In at hc
    rw [harea] at hc
    cases hc
  unfold BackchannelAuthenticationUseCase.execute
  rw [Prog.run_bind]
  simp only [mem_calls_bind]
  rcases hrun : (d.backchannel.check params).run (exec d.ports) w with ⟨e | accepted, w'⟩
  · left
    rw [hrun] at hkeep
    refine ⟨hkeep.1.backchannel, ?_⟩
    rintro row (h | ⟨_, _, h, _⟩)
    · exact hquiet row h
    · cases h
  · right
    rw [hrun] at hkeep
    obtain ⟨hsame, hle⟩ := hkeep
    refine ⟨d.backchannel.row accepted (d.ports.tokenUrlsafe w'.draws) w'.clock, w'.draws, hle,
      rfl, rfl, Nat.lt_succ_self _, ?_, ?_⟩
    · rw [← hsame.backchannel]
      rfl
    · intro row'
      have hstored : (d.backchannel.store accepted).calls (exec d.ports) w' =
          [.tokenUrlsafe, .now, .saveBackchannel
            (d.backchannel.row accepted (d.ports.tokenUrlsafe w'.draws) w'.clock)] := rfl
      constructor
      · rintro (h | ⟨accepted', s, hrun', h⟩)
        · exact absurd h (hquiet row')
        · cases hrun'
          rw [hstored] at h
          simpa using h
      · rintro rfl
        refine .inr ⟨accepted, w', rfl, ?_⟩
        rw [hstored]
        simp

theorem authorize_draws (params : BackchannelAuthenticationParams) (w : World) :
    w.draws ≤ ((d.backchannel.execute params).run (exec d.ports) w).2.draws :=
  run_keeps (fun s => w.draws ≤ s.draws) (fun s c hle _ => hle.trans (exec_draws_le c s))
    (wp_of_uses (Prog.uses_all _) (fun _ => True) (fun _ _ _ _ => ⟨trivial, fun _ _ => trivial⟩)
      trivial : wp (Monitor.allowing (exec d.ports) fun _ => True) _ (fun _ _ => True)
        (fun _ _ => True) w) (le_refl _)

/-- A request in time writes no row of its own. -/
theorem request_descends {request : Request} {w : World}
    (hin : InTime d.server d.ports w request) :
    Descends w ((d.server.serve request).run (exec d.ports) w).2 ∧
      w.draws ≤ ((d.server.serve request).run (exec d.ports) w).2.draws := by
  refine run_keeps (fun s => Descends w s ∧ w.draws ≤ s.draws) ?_ (serve_timed d.server hin)
    ⟨.refl w, le_refl _⟩
  rintro s c ⟨hs, hle⟩ hc
  exact ⟨hs.exec hc, hle.trans (exec_draws_le c s)⟩

/-! ### The rows and the requests they come from -/

/-- Every row of the store is a request that was stored, with the expiry and the client it
was stored with; each has a key of its own, and the value drawn for it. -/
structure Recorded (entries : List (Entry Arrival Handled)) (w : World) : Prop where
  origin : ∀ key row, w.backchannelAuth.find key = some row →
    ∃ e ∈ entries, ∃ first, Stores e first ∧ first.authReqIdHash = key ∧
      row.expiresAt = first.expiresAt ∧ row.clientId = first.clientId
  drawn : ∀ e ∈ entries, ∀ row, Stores e row → ∃ n < w.draws,
    row.authReqIdHash = tokenHash d.server.token.platform (d.ports.tokenUrlsafe n)
  alone : ∀ e ∈ entries, ∀ e' ∈ entries, ∀ row row', Stores e row → Stores e' row' →
    row.authReqIdHash = row'.authReqIdHash → row = row'

section
variable {d} {entries : List (Entry Arrival Handled)} {w w' : World}
  {row row' : BackchannelAuthenticationRequest} {e : Entry Arrival Handled}

/-- A row under the key of a stored request is that request. -/
theorem Recorded.find (h : d.Recorded entries w) (hmem : e ∈ entries) (hstores : Stores e row)
    (hfind : w.backchannelAuth.find row.authReqIdHash = some row') :
    row'.expiresAt = row.expiresAt ∧ row'.clientId = row.clientId := by
  obtain ⟨e', hmem', first, hstores', hkey, hexpires, hclient⟩ := h.origin _ _ hfind
  have heq := h.alone e' hmem' e hmem first row hstores' hstores hkey
  rw [← heq]
  exact ⟨hexpires, hclient⟩

/-- The rows of a store that come from recorded rows are recorded. -/
theorem Recorded.keep (h : d.Recorded entries w) (hnone : ∀ row, ¬Stores e row)
    (hrows : ∀ key row, w'.backchannelAuth.find key = some row →
      ∃ old, w.backchannelAuth.find key = some old ∧ row.expiresAt = old.expiresAt ∧
        row.clientId = old.clientId) (hdraws : w.draws ≤ w'.draws) :
    d.Recorded (entries ++ [e]) w' := by
  have hold : ∀ e' ∈ entries ++ [e], ∀ row, Stores e' row → e' ∈ entries := by
    intro e' hmem row hstores
    rcases List.mem_append.mp hmem with hmem | hmem
    · exact hmem
    · rw [List.mem_singleton.mp hmem] at hstores
      exact absurd hstores (hnone row)
  constructor
  case origin =>
    intro key row hfind
    obtain ⟨old, hfind', hexpires, hclient⟩ := hrows key row hfind
    obtain ⟨e', hmem, first, hstores, hkey, hexpires', hclient'⟩ := h.origin key old hfind'
    exact ⟨e', List.mem_append_left _ hmem, first, hstores, hkey, hexpires.trans hexpires',
      hclient.trans hclient'⟩
  case drawn =>
    intro e' hmem row hstores
    obtain ⟨n, hn, hkey⟩ := h.drawn e' (hold e' hmem row hstores) row hstores
    exact ⟨n, hn.trans_le hdraws, hkey⟩
  case alone =>
    intro e₁ hmem₁ e₂ hmem₂ row₁ row₂ hstores₁ hstores₂ hkey
    exact h.alone e₁ (hold e₁ hmem₁ row₁ hstores₁) e₂ (hold e₂ hmem₂ row₂ hstores₂) row₁ row₂
      hstores₁ hstores₂ hkey

variable (hdigest : Function.Injective fun n =>
  tokenHash d.server.token.platform (d.ports.tokenUrlsafe n))
include hdigest

/-- A request stored under a fresh key is recorded. -/
theorem Recorded.add (h : d.Recorded entries w) {n : Nat} (hn : w.draws ≤ n)
    (hkey : row.authReqIdHash = tokenHash d.server.token.platform (d.ports.tokenUrlsafe n))
    (hdraws : n < w'.draws) (hrows : w'.backchannelAuth = w.backchannelAuth.save row)
    (hstores : ∀ row', Stores e row' ↔ row' = row) : d.Recorded (entries ++ [e]) w' := by
  have hfresh : ∀ e' ∈ entries, ∀ row', Stores e' row' →
      row'.authReqIdHash ≠ row.authReqIdHash := by
    intro e' hmem row' hstores' heq
    obtain ⟨n', hn', hkey'⟩ := h.drawn e' hmem row' hstores'
    rw [hkey, hkey'] at heq
    have := hdigest heq
    omega
  constructor
  case origin =>
    intro key row' hfind
    rw [hrows, Table.find_save] at hfind
    split at hfind
    · rename_i heq
      cases hfind
      exact ⟨e, by simp, row, (hstores row).mpr rfl, heq.symm, rfl, rfl⟩
    · obtain ⟨e', hmem, first, hrest⟩ := h.origin key row' hfind
      exact ⟨e', List.mem_append_left _ hmem, first, hrest⟩
  case drawn =>
    intro e' hmem row' hstores'
    rcases List.mem_append.mp hmem with hmem | hmem
    · obtain ⟨n', hn', hkey'⟩ := h.drawn e' hmem row' hstores'
      exact ⟨n', by omega, hkey'⟩
    · rw [List.mem_singleton.mp hmem] at hstores'
      rw [(hstores row').mp hstores']
      exact ⟨n, hdraws, hkey⟩
  case alone =>
    intro e₁ hmem₁ e₂ hmem₂ row₁ row₂ hstores₁ hstores₂ heq
    rcases List.mem_append.mp hmem₁ with hmem₁ | hmem₁ <;>
      rcases List.mem_append.mp hmem₂ with hmem₂ | hmem₂
    · exact h.alone e₁ hmem₁ e₂ hmem₂ row₁ row₂ hstores₁ hstores₂ heq
    · rw [List.mem_singleton.mp hmem₂] at hstores₂
      rw [(hstores row₂).mp hstores₂] at heq
      exact absurd heq (hfresh e₁ hmem₁ row₁ hstores₁)
    · rw [List.mem_singleton.mp hmem₁] at hstores₁
      rw [(hstores row₁).mp hstores₁] at heq
      exact absurd heq.symm (hfresh e₂ hmem₂ row₂ hstores₂)
    · rw [List.mem_singleton.mp hmem₁] at hstores₁
      rw [List.mem_singleton.mp hmem₂] at hstores₂
      rw [(hstores row₁).mp hstores₁, (hstores row₂).mp hstores₂]

/-- One event keeps the record. -/
theorem Recorded.step (h : d.Recorded entries w) (arrival : Arrival)
    (hin : d.Approves ⟨arrival, (d.handle arrival w).1⟩) :
    d.Recorded (entries ++ [⟨arrival, (d.handle arrival w).1⟩]) (d.handle arrival w).2 := by
  obtain ⟨instant, event⟩ := arrival
  cases event with
  | authorize params =>
      rcases d.authorize_stores params { w with clock := instant } with
        ⟨hrows, hnone⟩ | ⟨row, n, hn, hkey, -, hdraws, hrows, hcalls⟩
      · have hdraws := d.authorize_draws params { w with clock := instant }
        refine h.keep ?_ ?_ hdraws
        · rintro row ⟨-, hmem⟩
          exact hnone row hmem
        · intro key row hfind
          have hfind' : w.backchannelAuth.find key = some row := by
            rw [← hfind]
            exact congrArg (·.find key) hrows.symm
          exact ⟨row, hfind', rfl, rfl⟩
      · refine h.add hdigest hn hkey hdraws hrows fun row' => ?_
        constructor
        · rintro ⟨-, hmem⟩
          exact (hcalls row').mp hmem
        · intro heq
          exact ⟨⟨params, rfl⟩, (hcalls row').mpr heq⟩
  | request request =>
      obtain ⟨hdescends, hdraws⟩ := d.request_descends (hin request rfl)
      refine h.keep ?_ (fun key row hfind => (hdescends key row hfind).1) hdraws
      rintro row ⟨⟨_, hevent⟩, -⟩
      cases hevent
  | register clients =>
      refine h.keep ?_ (fun key row hfind => ⟨row, hfind, rfl, rfl⟩) (le_refl _)
      rintro row ⟨⟨_, hevent⟩, -⟩
      cases hevent

/-- Every run in time is recorded. -/
theorem recorded {initial : World} {now : Instant}
    (hempty : initial.backchannelAuth = .empty) (hrun : History d.service initial entries now w)
    (hin : ∀ e ∈ entries, d.Approves e) : d.Recorded entries w := by
  refine hrun.invariant (I := fun entries _ w => (∀ e ∈ entries, d.Approves e) →
    d.Recorded entries w) ?_ ?_ hin
  · intro _ _
    constructor
    case origin =>
      intro key row hfind
      rw [hempty] at hfind
      cases hfind
    all_goals exact fun e hmem => absurd hmem List.not_mem_nil
  · intro entries now w arrival ih _ _ hin
    refine Recorded.step hdigest (ih fun e hmem => hin e (List.mem_append_left _ hmem)) arrival ?_
    exact hin _ (List.mem_append_right _ (List.mem_singleton_self _))

end

/-! ### What one event does to a recorded request -/

/-- The request of the key has been approved. -/
def Approved (w : World) (key : String) : Prop :=
  ∃ row, w.backchannelAuth.find key = some row ∧ row.status = .approved

/-- The event accepts the request of the key, or leaves it approved. -/
def BecomesApproved (e : Entry Arrival Handled) (key : String) : Prop :=
  Call.approveBackchannel key ∈ e.answer.calls ∨
    Approved e.answer.after key ∧ ¬Approved e.answer.before key

/-- The request is found unexpired, for an active client. -/
def MayIssue (w : World) (row : BackchannelAuthenticationRequest) : Prop :=
  w.clock ≤ row.expiresAt ∧
    ∃ client, w.findClient d.ports row.clientId = some client ∧ client.isActive = true

section
variable {d} {w : World} {row : BackchannelAuthenticationRequest}

/-- What is known of a recorded row under its key. -/
def Keeps (w : World) (row : BackchannelAuthenticationRequest) : Prop :=
  ∀ row', w.backchannelAuth.find row.authReqIdHash = some row' →
    row'.expiresAt = row.expiresAt ∧ row'.clientId = row.clientId

/-- A token is issued for the request of an event when it may be. -/
theorem issues_live (hkeeps : Keeps w row) (event : CibaEvent)
    (hin : ∀ request, event = .request request → InTime d.server d.ports w request)
    {request : Request} (hevent : event = .request request)
    (hconcerns : Family.ciba.Concerns d.server.token.platform row.authReqIdHash request)
    {c : Call} (hmem : c ∈ (d.handleOn w event).calls) (hissues : c.issuesToken = true) :
    d.MayIssue w row := by
  subst hevent
  have htimed := allowed_of_mem_calls (serve_timed d.server (hin request rfl)) c hmem
  obtain ⟨row', client, hfind, hunexpired, hclient, hactive⟩ :=
    htimed.1 hissues row.authReqIdHash hconcerns
  obtain ⟨hexpires, hclientId⟩ := hkeeps row' hfind
  rw [hexpires] at hunexpired
  rw [hclientId] at hclient
  exact ⟨hunexpired, client, hclient, hactive⟩

/-- A request is accepted before it expires. -/
theorem accepts_live (hkeeps : Keeps w row) (event : CibaEvent)
    (hin : ∀ request, event = .request request → InTime d.server d.ports w request)
    (hmem : Call.approveBackchannel row.authReqIdHash ∈ (d.handleOn w event).calls) :
    w.clock ≤ row.expiresAt := by
  cases event with
  | authorize params =>
      rcases mem_calls_of_uses (d.backchannel.execute_uses params) _ hmem with h | ⟨_, h⟩
      · unfold Call.In at h
        cases h
      · cases h
  | request request =>
      have htimed := allowed_of_mem_calls (serve_timed d.server (hin request rfl)) _ hmem
      obtain ⟨live, hlive, hunexpired⟩ : LiveRow w row.authReqIdHash := htimed.2
      rw [(hkeeps live hlive).1] at hunexpired
      exact hunexpired
  | register clients => cases hmem

/-- A request is left approved before it expires. -/
theorem approves_live (hkeeps : Keeps w row) (event : CibaEvent)
    (hin : ∀ request, event = .request request → InTime d.server d.ports w request)
    (hafter : Approved (d.handleOn w event).after row.authReqIdHash)
    (hbefore : ¬Approved w row.authReqIdHash) : w.clock ≤ row.expiresAt := by
  obtain ⟨row', hfind, happroved⟩ := hafter
  cases event with
  | authorize params =>
      rcases d.authorize_stores params w with ⟨hrows, -⟩ | ⟨stored, n, -, -, hpending, -, hrows, -⟩
      · have hfind' : w.backchannelAuth.find row.authReqIdHash = some row' := by
          rw [← hrows]
          exact hfind
        exact absurd ⟨row', hfind', happroved⟩ hbefore
      · have hfind' : (w.backchannelAuth.save stored).find row.authReqIdHash = some row' := by
          rw [← hrows]
          exact hfind
        rw [Table.find_save] at hfind'
        split at hfind'
        · cases hfind'
          rw [hpending] at happroved
          cases happroved
        · exact absurd ⟨row', hfind', happroved⟩ hbefore
  | request request =>
      obtain ⟨hdescends, -⟩ := d.request_descends (hin request rfl)
      rcases (hdescends _ row' hfind).2 happroved with hold | ⟨live, hlive, hunexpired⟩
      · exact absurd hold hbefore
      · rw [(hkeeps live hlive).1] at hunexpired
        exact hunexpired
  | register clients => exact absurd ⟨row', hfind, happroved⟩ hbefore

end

/-- In a run whose approvals come in time, an event that follows the storing of a backchannel
request issues its tokens, and approves it, no later than it expires, and issues them for a
client active at that instant. -/
theorem ciba_expires
    (hdigest : Function.Injective fun n =>
      tokenHash d.server.token.platform (d.ports.tokenUrlsafe n))
    {initial w : World} {now : Instant} {older newer : List (Entry Arrival Handled)}
    {e first : Entry Arrival Handled} {row : BackchannelAuthenticationRequest}
    (hempty : initial.backchannelAuth = .empty)
    (hrun : History d.service initial (older ++ e :: newer) now w)
    (hin : ∀ e' ∈ older ++ e :: newer, d.Approves e') (hfirst : first ∈ older)
    (hstored : Stores first row) :
    (d.Concerns row.authReqIdHash e → (∃ c ∈ e.answer.calls, c.issuesToken = true) →
        e.request.instant ≤ row.expiresAt ∧
          ∃ client, e.answer.before.findClient d.ports row.clientId = some client ∧
            client.isActive = true) ∧
      (BecomesApproved e row.authReqIdHash → e.request.instant ≤ row.expiresAt) := by
  obtain ⟨earlier, reached, holder, -, -, hanswer⟩ := hrun.before
  have hrecorded : d.Recorded older reached :=
    recorded hdigest hempty holder fun e' hmem => hin e' (List.mem_append_left _ hmem)
  have happroves : d.Approves e := hin e (List.mem_append_right _ List.mem_cons_self)
  obtain ⟨⟨instant, event⟩, answer⟩ := e
  replace hanswer : answer = d.handleOn { reached with clock := instant } event := hanswer
  subst hanswer
  simp only [Approves, BecomesApproved, handleOn_before] at happroves ⊢
  have hkeeps : Keeps { reached with clock := instant } row := fun row' hfind =>
    hrecorded.find hfirst hstored hfind
  constructor
  · rintro ⟨request, hevent, hconcerns⟩ ⟨c, hmem, hissues⟩
    exact issues_live hkeeps event happroves hevent hconcerns hmem hissues
  · rintro (hmem | ⟨hafter, hbefore⟩)
    · exact accepts_live hkeeps event happroves hmem
    · exact approves_live hkeeps event happroves hafter hbefore

/-! ### A client notified with its tokens -/

namespace Sample

def client : Client where
  clientId := "tv"
  clientType := .confidential
  clientSecretHash := PurIdentityServer.Sample.sha256Hex "r"
  backchannelTokenDeliveryMode := "push"
  backchannelClientNotificationEndpoint := "https://tv.example/cb"

def deployment : CibaDeployment Unit where
  backchannel :=
    { endpoints := ClientEndpoints.Sample.server, lower := fun s => s, jsonText := fun _ => "" }
  ports := PurIdentityServer.Sample.ports

def world : World where
  clock := 0
  clients := Table.empty.save client

def request : Arrival where
  instant := 0
  event := .authorize
    { clientId := "tv", clientSecret := "r", scope := "openid", loginHint := "alice",
      clientNotificationToken := "t" }

/-- The user approves after some seconds. -/
def approval (after : Int) : Arrival where
  instant := seconds after
  event := .request (.decideCiba "v" true "")

def requested : Entry Arrival Handled := ⟨request, (deployment.handle request world).1⟩

def reached : World := (deployment.handle request world).2

def approved (after : Int) : Entry Arrival Handled :=
  ⟨approval after, (deployment.handle (approval after) reached).1⟩

/-- What the request stored. -/
def stored : BackchannelAuthenticationRequest where
  authReqIdHash := PurIdentityServer.Sample.sha256Hex "v"
  clientId := "tv"
  scopes := Scope.fromSpaceSeparated "openid"
  subject := "alice"
  deliveryMode := "push"
  clientNotificationToken := "t"
  clientNotificationEndpoint := "https://tv.example/cb"
  expiresAt := seconds 600

theorem history (after : Int) (h : 0 ≤ after) :
    History deployment.service world ([requested] ++ approved after :: []) (seconds after)
      (deployment.handle (approval after) reached).2 := by
  have hle : (0 : Int) ≤ seconds after := by
    simp only [seconds]
    omega
  exact .step (.step (.start 0) request (le_refl _) trivial) (approval after) hle trivial

theorem requested_stores : Stores requested stored := by
  refine ⟨⟨_, rfl⟩, ?_⟩
  have hcalls : requested.answer.calls.getLast? = some (.saveBackchannel stored) := rfl
  exact List.mem_of_getLast? hcalls

theorem approved_concerns (after : Int) :
    deployment.Concerns stored.authReqIdHash (approved after) :=
  ⟨_, rfl, rfl, rfl⟩

end Sample

open CibaDeployment.Sample in
/-- An approval ten seconds after the request is in time. -/
theorem ciba_expires_in_time :
    (∃ c ∈ (approved 10).answer.calls, c.issuesToken = true) ∧
      BecomesApproved (approved 10) stored.authReqIdHash ∧
      (approved 10).request.instant ≤ stored.expiresAt ∧
      ∃ client, (approved 10).answer.before.findClient deployment.ports stored.clientId =
        some client ∧ client.isActive = true := by
  have hissues : ∃ c ∈ (approved 10).answer.calls, c.issuesToken = true :=
    List.any_eq_true.mp (by decide +kernel)
  have happroved : BecomesApproved (approved 10) stored.authReqIdHash := by
    left
    have hcall : (approved 10).answer.calls[1]? =
        some (.approveBackchannel stored.authReqIdHash) := rfl
    exact List.mem_of_getElem? hcall
  have hin : ∀ e ∈ [requested] ++ approved 10 :: [], deployment.Approves e := by
    intro e hmem request hevent
    rcases List.mem_cons.mp hmem with rfl | hmem
    · cases hevent
    · cases List.mem_singleton.mp hmem
      cases hevent
      intro row hfind _ _
      have hstored : (approved 10).answer.before.backchannelAuth.find stored.authReqIdHash =
          some stored := rfl
      cases hstored.symm.trans hfind
      refine ⟨by decide +kernel, ?_⟩
      intro _ _ _ _ client hclient
      have hfound : (approved 10).answer.before.findClient deployment.ports "tv" =
          some Sample.client := rfl
      cases hfound.symm.trans hclient
      rfl
  have hexpires := deployment.ciba_expires PurIdentityServer.Sample.drawn_inj rfl
    (history 10 (by decide)) hin (List.mem_singleton_self _) requested_stores
  exact ⟨hissues, happroved, hexpires.1 (approved_concerns 10) hissues⟩

open CibaDeployment.Sample in
/-- An approval after the expiry is accepted, and issues tokens. -/
theorem ciba_not_expires :
    ¬∀ (κ : Type) (d : CibaDeployment κ) (initial w : World) (now : Instant)
      (older newer : List (Entry Arrival Handled)) (e first : Entry Arrival Handled)
      (row : BackchannelAuthenticationRequest),
      (Function.Injective fun n =>
        tokenHash d.server.token.platform (d.ports.tokenUrlsafe n)) →
      initial.backchannelAuth = .empty →
      History d.service initial (older ++ e :: newer) now w → first ∈ older →
      Stores first row →
        (d.Concerns row.authReqIdHash e → (∃ c ∈ e.answer.calls, c.issuesToken = true) →
          e.request.instant ≤ row.expiresAt ∧
            ∃ client, e.answer.before.findClient d.ports row.clientId = some client ∧
              client.isActive = true) ∧
        (BecomesApproved e row.authReqIdHash → e.request.instant ≤ row.expiresAt) := by
  intro h
  have hexpires := h Unit deployment world _ _ [requested] [] (approved 601) requested stored
    PurIdentityServer.Sample.drawn_inj rfl (history 601 (by decide))
    (List.mem_singleton_self _) requested_stores
  have hissues : ∃ c ∈ (approved 601).answer.calls, c.issuesToken = true :=
    List.any_eq_true.mp (by decide +kernel)
  exact absurd (hexpires.1 (approved_concerns 601) hissues).1 (by decide +kernel)

end CibaDeployment

end PurIdentityServer

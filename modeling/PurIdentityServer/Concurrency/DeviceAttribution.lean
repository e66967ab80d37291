import PurIdentityServer.Application.DeviceAuthorize
import PurIdentityServer.Concurrency.Sessions

/-!
# DeviceAttribution — whom the tokens of a device are for

A device asks for a code, a user types the code it shows, and the device
polls. Nothing ties the three requests together but the digest of the
device code and the user code. However they interleave with the rest of
the traffic, a token signed for a device code is for the user who typed
the code shown with it, and for the scopes asked for with it.
-/

namespace PurIdentityServer

open Effects

/-! ## The traffic -/

/-- A deployment with its device authorization endpoint. -/
structure DeviceServer extends Server where
  device : DeviceAuthorizationUseCase
  device_platform : device.platform = token.platform

inductive DeviceArrival where
  | start (request : DeviceAuthorizationRequest)
  | other (request : Request)

inductive DeviceAnswer where
  | started (result : Except DeviceAuthorizationError DeviceAuthorizationResult)
  | served (answer : Answer)

namespace DeviceServer

def serveDevice (s : DeviceServer) : DeviceArrival → M TokenError DeviceAnswer
  | .start request => do
      let result ← outcome (s.device.execute request)
      pure (.started result)
  | .other request => do
      let answer ← s.toServer.serve request
      pure (.served answer)

/-- Every process about to serve its request, on the store `w`. -/
def deviceTraffic {ι : Type} (s : DeviceServer) (w : World) (arrivals : ι → DeviceArrival) :
    Config ι Call Reply (Stop TokenError) DeviceAnswer World :=
  ⟨w, fun i => s.serveDevice (arrivals i)⟩

end DeviceServer

/-! ## What a request may do -/

/-- The calls of a request with their replies. -/
abbrev DeviceLog := List ((c : Call) × Reply c)

/-- The request has asked `c` and was answered `r`. -/
def Heard (log : DeviceLog) (c : Call) (r : Reply c) : Prop := ⟨c, r⟩ ∈ log

/-- The row of a new session: for a client found, with scopes of the client, and with the codes
drawn. -/
structure Opens (d : DeviceAuthorizationUseCase) (request : DeviceAuthorizationRequest)
    (log : DeviceLog) (row : DeviceAuthorization) (client : Client)
    (deviceCode userCode : String) : Prop where
  found : Heard log (.findClient request.clientId) (some client)
  active : client.isActive = true
  registered : DeviceAuthorizationUseCase.requestedScopes client request ⊆ client.scopes
  coded : Heard log .tokenUrlsafe deviceCode
  shown : Heard log .generateUserCode userCode
  row : ∃ now, row = d.session client
    (DeviceAuthorizationUseCase.requestedScopes client request) deviceCode userCode now

/-- No session is saved yet. -/
def SavesNone (log : DeviceLog) : Prop := ∀ x ∈ log, ∀ row, x.1 ≠ .saveDevice row

theorem savesNone_nil : SavesNone [] := fun _ hx => absurd hx List.not_mem_nil

theorem SavesNone.of_gains {log log' : DeviceLog} {l : List Area} (h : SavesNone log)
    (hl : l.contains .devices = false) (hgains : Gains (Call.In l) log log') : SavesNone log' := by
  intro x hx row hrow
  refine h x (hgains.mem_of_not hx ?_) row hrow
  intro hin
  rw [hrow] at hin
  exact absurd (hl.symm.trans hin) (by decide)

theorem SavesNone.cons {log : DeviceLog} (h : SavesNone log) {c : Call}
    (hc : ∀ row, c ≠ .saveDevice row) (r : Reply c) : SavesNone (⟨c, r⟩ :: log) := by
  intro x hx row
  rcases List.mem_cons.mp hx with rfl | hx
  · exact hc row
  · exact h x hx row

/-- A poll writes back a session it has read, which was not approved. -/
def Polls (log : DeviceLog) (row : DeviceAuthorization) : Prop :=
  ∃ h stored, Heard log (.findByDeviceCodeHash h) (some stored) ∧ stored.status ≠ .approved ∧
    ∃ now tooFast, row = TokenUseCase.polledDevice stored now tooFast

/-- The session a poll issues from. -/
structure IssuesFrom (u : TokenUseCase) (request : TokenRequest) (log : DeviceLog)
    (claims : AccessTokenClaims) (stored : DeviceAuthorization) : Prop where
  read : Heard log (.findByDeviceCodeHash (tokenHash u.platform request.deviceCode)) (some stored)
  approved : stored.status = .approved
  clientId : stored.clientId = (u.deduceClientId request).clientId
  subject : claims.subject = stored.subject
  scopes : claims.scopes = stored.scopes

namespace DeviceServer

variable (s : DeviceServer)

/-- A session is saved by the request that opens it or by a poll, approved under the code typed,
and a poll issues from the session it has read. -/
def Allows (arrival : DeviceArrival) (log : DeviceLog) : Call → Prop
  | .saveDevice row =>
      (∃ request, arrival = .start request ∧ SavesNone log ∧
        ∃ client deviceCode userCode, Opens s.device request log row client deviceCode userCode) ∨
      (∃ request, arrival = .other request) ∧ Polls log row
  | .approveDevice h subject => ∃ userCode stored,
      arrival = .other (.approveDevice userCode subject) ∧
      Heard log (.findByUserCode (normalizeUserCode s.token.platform userCode)) (some stored) ∧
      stored.deviceCodeHash = h
  | .createAccessToken claims => ∀ request, arrival = .other (.token request) →
      request.grantType = deviceCodeGrantType →
        ∃ stored, IssuesFrom s.token request log claims stored
  | _ => True

/-- The answer of the endpoint shows the codes of the session saved. -/
def Shows (arrival : DeviceArrival) (log : DeviceLog) (answer : DeviceAnswer) : Prop :=
  ∀ request result, arrival = .start request → answer = .started (.ok result) →
    ∃ row, Heard log (.saveDevice row) () ∧
      row.deviceCodeHash = tokenHash s.token.platform result.deviceCode ∧
      ∃ userCode, Heard log .generateUserCode userCode ∧ row.userCode = userCode ∧
        result.userCode = DeviceAuthorizationUseCase.formatUserCode s.token.platform userCode

/-- The requests are watched with the calls they have made. -/
def watch (arrival : DeviceArrival) : Monitor Call Reply DeviceLog :=
  Monitor.log (fun _ _ => True) (s.Allows arrival)

variable {s} {arrival : DeviceArrival} {log : DeviceLog}

theorem allows_of_area {l : List Area} (hdevices : l.contains .devices = false)
    (htokens : l.contains .accessTokens = false) (log : DeviceLog) (c : Call) (hc : c.In l) :
    s.Allows arrival log c := by
  unfold Call.In at hc
  cases c
  case saveDevice | approveDevice => exact absurd (hdevices.symm.trans hc) (by decide)
  case createAccessToken => exact absurd (htokens.symm.trans hc) (by decide)
  all_goals trivial

/-- A request that polls no session may sign any token. -/
theorem allows_undevised (harrival : ∀ request, arrival = .other (.token request) →
      request.grantType ≠ deviceCodeGrantType) {l : List Area}
    (hdevices : l.contains .devices = false) (log : DeviceLog) (c : Call) (hc : c.In l) :
    s.Allows arrival log c := by
  unfold Call.In at hc
  cases c
  case saveDevice | approveDevice => exact absurd (hdevices.symm.trans hc) (by decide)
  case createAccessToken => exact fun request h hgrant => absurd hgrant (harrival request h)
  all_goals trivial

/-! ## The endpoint -/

/-- A part of a request that neither saves nor approves a session nor signs. -/
theorem wp_quietly_bind {ε α β : Type} {l : List Area} {q : M ε β} {f : β → M ε α}
    {Q : DeviceLog → α → Prop} (hq : q.Uses (Call.In l)) (hdevices : l.contains .devices = false)
    (htokens : l.contains .accessTokens = false)
    (hf : ∀ log' b, Gains (Call.In l) log log' →
      wp (s.watch arrival) (f b) Q (fun _ _ => True) log') :
    wp (s.watch arrival) (q >>= f) Q (fun _ _ => True) log :=
  wp_log_bind hq (allows_of_area hdevices htokens) (Prog.stopsWith_all q)
    (fun _ _ _ _ => trivial) hf

theorem wp_start (request : DeviceAuthorizationRequest) :
    wp (s.watch (.start request)) (s.serveDevice (.start request)) (s.Shows (.start request))
      (fun _ _ => True) [] := by
  refine (wp_bind _ _).mpr ((wp_handle _ _).mpr ((wp_bind _ _).mpr ?_))
  refine wp_mono (Q := fun log result => s.Shows (.start request) log (.started (.ok result)))
    (E := fun _ _ => True) ?_ (fun _ _ h => wp_pure.mpr (wp_pure.mpr h)) ?_
  · unfold DeviceAuthorizationUseCase.execute
    rw [wp_bind]
    unfold DeviceAuthorizationUseCase.checkClient
    refine wp_orRefuse_bind.mpr (wp_op.mpr ⟨trivial, fun found _ => ⟨fun _ => trivial, ?_⟩⟩)
    rintro client rfl
    refine wp_refuseIf_bind.mpr ⟨fun _ => trivial, fun hactive => ?_⟩
    refine wp_refuseIf_bind.mpr ⟨fun _ => trivial, fun _ => wp_pure.mpr ?_⟩
    refine wp_refuseIf_bind.mpr ⟨fun _ => trivial, fun hregistered => ?_⟩
    refine wp_quietly_bind (s.device.checkRegistered_uses _) rfl rfl fun log _ hgains => ?_
    have hnone : SavesNone log := by
      refine (savesNone_nil.cons ?_ _).of_gains rfl hgains
      rintro row h
      cases h
    have hfound : Heard log (.findClient request.clientId) (some client) :=
      hgains.mem List.mem_cons_self
    refine wp_ask_bind.mpr ⟨trivial, fun deviceCode _ => ?_⟩
    refine wp_ask_bind.mpr ⟨trivial, fun userCode _ => ?_⟩
    refine wp_ask_bind.mpr ⟨trivial, fun now _ => ?_⟩
    refine wp_ask_bind.mpr ⟨.inl ⟨request, rfl, ?_, client, deviceCode, userCode, ?_⟩,
      fun _ _ => ?_⟩
    · exact ((hnone.cons (by rintro row h; cases h) _).cons (by rintro row h; cases h) _).cons
        (by rintro row h; cases h) _
    · constructor
      case found =>
        exact List.mem_cons_of_mem _ (List.mem_cons_of_mem _ (List.mem_cons_of_mem _ hfound))
      case active => exact not_not.mp hactive
      case registered => exact not_not.mp hregistered
      case coded =>
        exact List.mem_cons_of_mem _ (List.mem_cons_of_mem _ List.mem_cons_self)
      case shown => exact List.mem_cons_of_mem _ List.mem_cons_self
      case row => exact ⟨now, rfl⟩
    · refine wp_pure.mpr ?_
      rintro - result - h
      cases h
      refine ⟨_, List.mem_cons_self, ?_, userCode,
        List.mem_cons_of_mem _ (List.mem_cons_of_mem _ List.mem_cons_self), rfl, ?_⟩
      · show tokenHash s.device.platform deviceCode = _
        rw [s.device_platform]
        rfl
      · show DeviceAuthorizationUseCase.formatUserCode s.device.platform userCode = _
        rw [s.device_platform]
  · intro log stop _
    cases stop with
    | refused e =>
        refine wp_pure.mpr (wp_pure.mpr fun request' result _ h => ?_)
        cases h
    | raised x => exact wp_fail.mpr trivial

/-! ## Decisions -/

/-- A decision approves the session it has found under the code typed. -/
theorem wp_decide (userCode : String) (subject : Option String)
    (harrival : ∀ name, subject = some name → arrival = .other (.approveDevice userCode name)) :
    wp (s.watch arrival) (DeviceAuthorizationUseCase.decide s.token.platform userCode subject :
      M TokenError DeviceDecision) (fun _ _ => True) (fun _ _ => True) log := by
  unfold DeviceAuthorizationUseCase.decide
  dsimp only
  split
  · exact wp_pure.mpr trivial
  refine wp_ask_bind.mpr ⟨trivial, fun found _ => ?_⟩
  cases found with
  | none => exact wp_pure.mpr trivial
  | some stored =>
      refine wp_ask_bind.mpr ⟨trivial, fun now _ => ?_⟩
      split
      · exact wp_ask_bind.mpr ⟨trivial, fun _ _ => wp_pure.mpr trivial⟩
      cases stored.status with
      | approved => exact wp_pure.mpr trivial
      | denied => exact wp_pure.mpr trivial
      | pending =>
          cases subject with
          | none => exact wp_ask_bind.mpr ⟨trivial, fun _ _ => wp_pure.mpr trivial⟩
          | some name =>
              refine wp_ask_bind.mpr ⟨⟨userCode, stored, harrival name rfl, ?_, rfl⟩,
                fun _ _ => wp_pure.mpr trivial⟩
              exact List.mem_cons_of_mem _ List.mem_cons_self

/-! ## Polls -/

/-- The checks of a poll end with a session it has read, of the client it names. -/
theorem wp_checkDevice (request : TokenRequest) :
    wp (s.watch arrival) (s.token.checkDevice request)
      (fun log granted =>
        Heard log (.findByDeviceCodeHash (tokenHash s.token.platform request.deviceCode))
          (some granted.stored) ∧ granted.stored.clientId = request.clientId)
      (fun _ _ => True) log := by
  unfold TokenUseCase.checkDevice
  refine wp_refuseIf_bind.mpr ⟨fun _ => trivial, fun _ => ?_⟩
  refine wp_refuseIf_bind.mpr ⟨fun _ => trivial, fun _ => ?_⟩
  refine wp_quietly_bind (TokenUseCase.activeClient_uses _ _) rfl rfl fun log client _ => ?_
  refine wp_quietly_bind (s.token.authenticateClient_uses _ _) rfl rfl fun log _ _ => ?_
  refine wp_quietly_bind (s.token.evaluateDpop_uses _ _ _) rfl rfl fun log binding _ => ?_
  rw [wp_bind]
  unfold TokenUseCase.loadDeviceSession
  refine wp_orRefuse_bind.mpr (wp_op.mpr ⟨trivial, fun found _ => ⟨fun _ => trivial, ?_⟩⟩)
  rintro stored rfl
  refine wp_refuseIf_bind.mpr ⟨fun _ => trivial, fun hclient => ?_⟩
  refine wp_ask_bind.mpr ⟨trivial, fun now _ => ?_⟩
  split
  · exact wp_ask_bind.mpr ⟨trivial, fun _ _ => wp_fail.mpr trivial⟩
  refine wp_refuseIf_bind.mpr ⟨fun _ => trivial, fun _ => ?_⟩
  show wp _ _ _ _ _
  refine wp_pure.mpr (wp_quietly_bind (s.token.effectiveResources_uses _ _) rfl rfl
    fun log resources hgains => ?_)
  refine wp_ask_bind.mpr ⟨trivial, fun now _ => wp_pure.mpr ⟨?_, not_not.mp hclient⟩⟩
  exact List.mem_cons_of_mem _
    (hgains.mem (List.mem_cons_of_mem _ List.mem_cons_self))

/-- What is issued to a poll comes from the session it has read. -/
theorem wp_createAccessToken {request : TokenRequest} {i : Issuance}
    {stored : DeviceAuthorization} (claimsRequest : Option ClaimsRequest)
    (hread : Heard log
      (.findByDeviceCodeHash (tokenHash s.token.platform request.deviceCode)) (some stored))
    (happroved : stored.status = .approved)
    (hclient : stored.clientId = (s.token.deduceClientId request).clientId)
    (hsubject : i.subject = stored.subject) (hscopes : i.scopes = stored.scopes) :
    wp (s.watch (.other (.token request))) (s.token.createAccessToken i claimsRequest)
      (fun _ _ => True) (fun _ _ => True) log := by
  refine wp_quietly_bind (s.token.resolveAudience_uses _ _ _) rfl rfl fun log audience hgains => ?_
  refine (wp_bind _ _).mpr (wp_op.mpr ⟨?_, fun r _ => ?_⟩)
  · rintro request' h -
    cases h
    exact ⟨stored, hgains.mem hread, happroved, hclient, hsubject, hscopes⟩
  · exact wp_orRaise.mpr ⟨fun _ _ => trivial, fun _ _ => trivial⟩

theorem wp_issueSession {request : TokenRequest} {i : Issuance} {stored : DeviceAuthorization}
    (dpopBound : Bool)
    (hread : Heard log
      (.findByDeviceCodeHash (tokenHash s.token.platform request.deviceCode)) (some stored))
    (happroved : stored.status = .approved)
    (hclient : stored.clientId = (s.token.deduceClientId request).clientId)
    (hsubject : i.subject = stored.subject) (hscopes : i.scopes = stored.scopes) :
    wp (s.watch (.other (.token request))) (s.token.issueSession i dpopBound)
      (fun _ _ => True) (fun _ _ => True) log := by
  refine wp_quietly_bind (s.token.offlineRefreshToken_uses _) rfl rfl fun log _ hgains => ?_
  refine (wp_bind _ _).mpr (wp_mono (Q := fun _ _ => True) (E := fun _ _ => True) ?_
    (fun _ _ _ => wp_pure.mpr trivial) fun _ _ h => h)
  have hread := hgains.mem hread
  unfold TokenUseCase.issueTokens
  split
  · refine (wp_bind _ _).mpr ((wp_bind _ _).mpr (wp_mono
      (wp_createAccessToken none hread happroved hclient hsubject hscopes)
      (fun _ _ _ => wp_pure.mpr (wp_pure.mpr trivial)) fun _ _ h => h))
  · refine wp_quietly_bind (s.token.issueIdToken_uses _ _) rfl rfl fun log _ hgains => ?_
    exact (wp_bind _ _).mpr (wp_mono
      (wp_createAccessToken _ (hgains.mem hread) happroved hclient hsubject hscopes)
      (fun _ _ _ => wp_pure.mpr trivial) fun _ _ h => h)

/-- A poll of a device code. -/
theorem wp_poll {request : TokenRequest} (hgrant : request.grantType = deviceCodeGrantType) :
    wp (s.watch (.other (.token request))) (s.token.execute request) (fun _ _ => True)
      (fun _ _ => True) [] := by
  have hcode : (s.token.deduceClientId request).deviceCode = request.deviceCode ∧
      (s.token.deduceClientId request).grantType = request.grantType := by
    unfold TokenUseCase.deduceClientId
    split
    · exact ⟨rfl, rfl⟩
    dsimp only
    split <;> exact ⟨rfl, rfl⟩
  unfold TokenUseCase.execute
  rw [s.token.dispatch_deviceCode (hcode.2.trans hgrant)]
  refine (wp_bind _ _).mpr (wp_mono (wp_checkDevice _) ?_ fun _ _ h => h)
  rintro log granted ⟨hread, hclient⟩
  rw [hcode.1] at hread
  unfold TokenUseCase.pollDevice
  split
  · rename_i happroved
    refine wp_refuseIf_bind.mpr ⟨fun _ => trivial, fun _ => ?_⟩
    refine wp_ask_bind.mpr ⟨trivial, fun _ _ => ?_⟩
    exact wp_issueSession _ (List.mem_cons_of_mem _ hread) happroved hclient rfl rfl
  · rename_i happroved
    have hpolls : ∀ tooFast, Polls log
        (TokenUseCase.polledDevice granted.stored granted.now tooFast) :=
      fun tooFast => ⟨_, granted.stored, hread, happroved, granted.now, tooFast, rfl⟩
    unfold TokenUseCase.devicePendingResponse
    split
    · exact wp_ask_bind.mpr ⟨.inr ⟨⟨_, rfl⟩, hpolls true⟩, fun _ _ => wp_fail.mpr trivial⟩
    · exact wp_ask_bind.mpr ⟨.inr ⟨⟨_, rfl⟩, hpolls false⟩, fun _ _ => wp_fail.mpr trivial⟩

/-! ## Every request -/

theorem deduceClientId_grantType (u : TokenUseCase) (request : TokenRequest) :
    (u.deduceClientId request).grantType = request.grantType := by
  unfold TokenUseCase.deduceClientId
  split
  · rfl
  dsimp only
  split <;> rfl

/-- The other grants work on no device session. -/
theorem execute_undevised (u : TokenUseCase) {request : TokenRequest}
    (hgrant : request.grantType ≠ deviceCodeGrantType) :
    (u.execute request).Uses (Call.In [.keys, .passive, .draws, .accessTokens, .codes,
      .refreshTokens, .newRefreshTokens, .revoked, .backchannel]) := by
  have hother : (u.deduceClientId request).grantType ≠ deviceCodeGrantType := by
    rw [deduceClientId_grantType]
    exact hgrant
  unfold TokenUseCase.execute TokenUseCase.dispatch
  rw [if_neg hother]
  split
  · exact Call.uses_mono (u.exchangeCode_uses _) rfl
  split
  · exact Call.uses_mono (u.refresh_uses _) rfl
  split
  · exact Call.uses_mono (u.clientCredentials_uses _) rfl
  split
  · exact Call.uses_mono (u.jwtBearer_uses _) rfl
  split
  · exact Call.uses_mono (u.ciba_uses _) rfl
  split
  · exact Call.uses_mono (u.preAuthorizedCode_uses _) rfl
  · exact Prog.uses_fail _ _

theorem wp_undevised {ε α : Type} {l : List Area} {q : M ε α} (hq : q.Uses (Call.In l))
    (hdevices : l.contains .devices = false)
    (harrival : ∀ request, arrival = .other (.token request) →
      request.grantType ≠ deviceCodeGrantType) :
    wp (s.watch arrival) q (fun _ _ => True) (fun _ _ => True) log :=
  wp_mono (wp_log_of_uses hq (allows_undevised harrival hdevices)) (fun _ _ _ => trivial)
    fun _ _ _ => trivial

theorem wp_other (request : Request) :
    wp (s.watch (.other request)) (s.toServer.serve request) (fun _ _ => True)
      (fun _ _ => True) [] := by
  cases request with
  | token request =>
      refine (wp_bind _ _).mpr (wp_mono (Q := fun _ _ => True) (E := fun _ _ => True) ?_
        (fun _ _ _ => wp_pure.mpr trivial) fun _ _ h => h)
      by_cases hgrant : request.grantType = deviceCodeGrantType
      · exact wp_poll hgrant
      · refine wp_undevised (execute_undevised s.token hgrant) rfl ?_
        intro request' h
        cases h
        exact hgrant
  | approveDevice userCode subject =>
      refine (wp_bind _ _).mpr (wp_mono (wp_decide userCode (some subject) ?_)
        (fun _ _ _ => wp_pure.mpr trivial) fun _ _ h => h)
      intro name h
      cases h
      rfl
  | denyDevice userCode =>
      refine (wp_bind _ _).mpr (wp_mono (wp_decide userCode none ?_)
        (fun _ _ _ => wp_pure.mpr trivial) fun _ _ h => h)
      intro name h
      cases h
  | decideCiba authReqId allow userCode =>
      refine (wp_bind _ _).mpr (wp_mono (wp_undevised
        (s.toServer.cibaExecute_uses authReqId allow userCode) rfl ?_)
        (fun _ _ _ => wp_pure.mpr trivial) fun _ _ h => h)
      intro request h
      cases h

/-- A request makes the calls it may make, and the endpoint shows the codes it saves. -/
theorem wp_serveDevice (arrival : DeviceArrival) :
    wp (s.watch arrival) (s.serveDevice arrival) (s.Shows arrival) (fun _ _ => True) [] := by
  cases arrival with
  | start request => exact wp_start request
  | other request =>
      refine (wp_bind _ _).mpr (wp_mono (wp_other request) ?_ fun _ _ h => h)
      refine fun log answer _ => wp_pure.mpr fun request' result h => ?_
      cases h

/-! ## Runs -/

section
variable {ι : Type} [DecidableEq ι] {ports : Ports} {w : World} {arrivals : ι → DeviceArrival}
  {tr past : List (Event ι Call World)}
  {cfg : Config ι Call Reply (Stop TokenError) DeviceAnswer World}

/-- Every call of a run is one its request may make. -/
theorem allowed_of_run (hrun : Run (machine ports) (s.deviceTraffic w arrivals) tr cfg)
    {later : List (Event ι Call World)} {e : Event ι Call World}
    (htr : tr = later ++ e :: past) :
    s.Allows (arrivals e.pid) (exchanges (machine ports) e.pid past) e.call := by
  have hprocess := (hrun.process_allowed (i := e.pid)
    (show wp (s.watch (arrivals e.pid)) _ _ _ _ from s.wp_serveDevice (arrivals e.pid))
    fun _ _ _ _ => trivial).2 later e past htr rfl
  rw [watch, ghost_log] at hprocess
  exact hprocess

/-- The endpoint has shown the codes of the session it saved. -/
theorem shows_of_run (hrun : Run (machine ports) (s.deviceTraffic w arrivals) tr cfg) {i : ι}
    {answer : DeviceAnswer} (hanswer : cfg.procs i = .pure answer) :
    s.Shows (arrivals i) (exchanges (machine ports) i tr) answer := by
  have hprocess := (hrun.process_allowed (i := i)
    (show wp (s.watch (arrivals i)) _ _ _ _ from s.wp_serveDevice (arrivals i))
    fun _ _ _ _ => trivial).1
  rw [hanswer, watch, ghost_log] at hprocess
  exact wp_pure.mp hprocess

/-- The event saves the session a request has asked for. -/
def StartsSession (arrivals : ι → DeviceArrival) (e : Event ι Call World)
    (row : DeviceAuthorization) : Prop :=
  (∃ request, arrivals e.pid = .start request) ∧ e.call = .saveDevice row

/-- What no decision and no poll changes of a session. -/
def fixed (row : DeviceAuthorization) : String × String × String × Finset Scope × Instant :=
  (row.deviceCodeHash, row.userCode, row.clientId, row.scopes, row.expiresAt)

/-- A session was started in the run, and approved for its subject if it is approved. -/
structure Attested (arrivals : ι → DeviceArrival) (past : List (Event ι Call World))
    (row : DeviceAuthorization) : Prop where
  started : ∃ e ∈ past, ∃ first, StartsSession arrivals e first ∧ fixed first = fixed row
  approved : row.status = .approved →
    ∃ e ∈ past, e.call = .approveDevice row.deviceCodeHash row.subject

omit [DecidableEq ι] in
theorem Attested.cons {row : DeviceAuthorization} (h : Attested arrivals past row)
    (e : Event ι Call World) : Attested arrivals (e :: past) row := by
  constructor
  · obtain ⟨o, ho, hrest⟩ := h.started
    exact ⟨o, List.mem_cons_of_mem _ ho, hrest⟩
  · intro happroved
    obtain ⟨a, ha, hcall⟩ := h.approved happroved
    exact ⟨a, List.mem_cons_of_mem _ ha, hcall⟩

/-- The event read the session. -/
def ReadsSession (e : Event ι Call World) (row : DeviceAuthorization) : Prop :=
  (∃ h, e.call = .findByDeviceCodeHash h ∧ e.pre.deviceCodes.find h = some row) ∨
    ∃ code, e.call = .findByUserCode code ∧
      (e.pre.deviceCodes.select fun d => d.userCode = code).head? = some row

/-- A request that was told of a session by its digest has read it. -/
theorem reads_of_hash {i : ι} {h : String} {row : DeviceAuthorization}
    (hheard : Heard (exchanges (machine ports) i tr) (.findByDeviceCodeHash h) (some row)) :
    ∃ e ∈ tr, ReadsSession e row ∧ row.deviceCodeHash = h := by
  obtain ⟨⟨pid, call, pre⟩, he, -, heq⟩ := mem_exchanges.mp hheard
  obtain ⟨rfl, hreply⟩ := Sigma.mk.inj heq
  have hfind : pre.deviceCodes.find h = some row := eq_of_heq hreply
  exact ⟨_, he, .inl ⟨h, rfl, hfind⟩, Table.find_key hfind⟩

theorem reads_of_userCode {i : ι} {code : String} {row : DeviceAuthorization}
    (hheard : Heard (exchanges (machine ports) i tr) (.findByUserCode code) (some row)) :
    ∃ e ∈ tr, ReadsSession e row ∧ row.userCode = code := by
  obtain ⟨⟨pid, call, pre⟩, he, -, heq⟩ := mem_exchanges.mp hheard
  obtain ⟨rfl, hreply⟩ := Sigma.mk.inj heq
  have hhead : (pre.deviceCodes.select fun d => d.userCode = code).head? = some row :=
    eq_of_heq hreply
  refine ⟨_, he, .inr ⟨code, rfl, hhead⟩, ?_⟩
  simpa using List.of_mem_filter (List.mem_of_head? hhead)

omit [DecidableEq ι] in
/-- A session that is read is in the store. -/
theorem ReadsSession.find {e : Event ι Call World} {row : DeviceAuthorization}
    (h : ReadsSession e row) : e.pre.deviceCodes.find row.deviceCodeHash = some row := by
  rcases h with ⟨key, -, hfind⟩ | ⟨code, -, hhead⟩
  · rw [Table.find_key hfind]
    exact hfind
  · exact Table.find_of_mem (List.mem_filter.mp (List.mem_of_head? hhead)).1

/-- The sessions of one digest, in the store and in what was read, are attested. -/
structure AttestedUnder (arrivals : ι → DeviceArrival) (key : String)
    (past : List (Event ι Call World)) (w : World) : Prop where
  stored : ∀ row, w.deviceCodes.find key = some row → Attested arrivals past row
  read : ∀ e ∈ past, ∀ row, ReadsSession e row → row.deviceCodeHash = key →
    Attested arrivals past row

/-- What a call leaves in the store is attested. -/
theorem attested_exec {key : String} {i : ι} {c : Call}
    (h : AttestedUnder arrivals key past w)
    (hallowed : s.Allows (arrivals i) (exchanges (machine ports) i past) c)
    {row : DeviceAuthorization} (hrow : (exec ports c w).2.deviceCodes.find key = some row) :
    Attested arrivals (⟨i, c, w⟩ :: past) row := by
  rw [exec_deviceCodes] at hrow
  cases c
  case saveDevice saved =>
      dsimp only at hrow
      rw [Table.find_save] at hrow
      split at hrow
      · rename_i hkey
        obtain rfl : saved = row := Option.some.inj hrow
        rcases hallowed with ⟨request, harrival, hsaves, client, deviceCode, userCode, hopens⟩ |
          ⟨-, hash, stored, hheard, hstatus, now, tooFast, rfl⟩
        · obtain ⟨now, hsaved⟩ := hopens.row
          refine ⟨⟨_, List.mem_cons_self, saved, ⟨⟨request, harrival⟩, rfl⟩, rfl⟩, ?_⟩
          intro happroved
          rw [hsaved] at happroved
          cases happroved
        · obtain ⟨r, hr, hreads, -⟩ := reads_of_hash hheard
          have hattested : Attested arrivals
              (⟨i, .saveDevice (TokenUseCase.polledDevice stored now tooFast), w⟩ :: past) stored :=
            (h.read r hr stored hreads hkey.symm).cons _
          exact ⟨hattested.started, fun happroved => absurd happroved hstatus⟩
      · exact (h.stored row hrow).cons _
  case approveDevice hash subject =>
      simp only [World.approveDevice, Table.find_update] at hrow
      split at hrow
      · rename_i hkey
        obtain ⟨old, hold, heq⟩ := Option.map_eq_some_iff.mp hrow
        subst heq
        refine ⟨((h.stored old hold).cons _).started, fun _ => ⟨_, List.mem_cons_self, ?_⟩⟩
        show Call.approveDevice hash subject = .approveDevice old.deviceCodeHash subject
        rw [Table.find_key hold, hkey]
      · exact (h.stored row hrow).cons _
  case denyDevice hash =>
      simp only [World.denyDevice, Table.find_update] at hrow
      split at hrow
      · rename_i hkey
        obtain ⟨old, hold, heq⟩ := Option.map_eq_some_iff.mp hrow
        subst heq
        refine ⟨((h.stored old hold).cons _).started, fun happroved => ?_⟩
        cases happroved
      · exact (h.stored row hrow).cons _
  case deleteDevice hash =>
      dsimp only at hrow
      rw [Table.find_delete] at hrow
      split at hrow
      · cases hrow
      · exact (h.stored row hrow).cons _
  all_goals exact (h.stored row hrow).cons _

/-- The sessions of a digest the run starts without are attested. -/
theorem attested_of_run (hrun : Run (machine ports) (s.deviceTraffic w arrivals) tr cfg)
    {key : String} (hnew : w.deviceCodes.find key = none) :
    AttestedUnder arrivals key tr cfg.store := by
  have hstart : AttestedUnder arrivals key [] w := by
    constructor
    · intro row hrow
      cases hnew.symm.trans hrow
    · intro e he
      exact absurd he List.not_mem_nil
  have hallowed : ∀ later e past, tr = later ++ e :: past →
      s.Allows (arrivals e.pid) (exchanges (machine ports) e.pid past) e.call :=
    fun later e past htr => allowed_of_run hrun htr
  refine (hrun.invariant_after Monitor.free (fun _ => ()) (AttestedUnder arrivals key)
    (Q := fun _ _ _ => True) (E := fun _ _ _ => True) hstart ?_ ?_ ?_ hallowed).1
  · exact fun i => wp_of_uses (Prog.uses_all _) (fun _ => True)
      (fun _ _ _ _ => ⟨trivial, fun _ _ => trivial⟩) trivial
  · rintro past v v' h ⟨t, -, rfl⟩
    exact ⟨h.stored, h.read⟩
  · intro past v i c h hcall _
    refine ⟨trivial, fun row hrow => attested_exec h hcall hrow, ?_⟩
    intro e he row hreads hkey
    rcases List.mem_cons.mp he with rfl | he
    · exact (h.stored row (hkey ▸ hreads.find)).cons _
    · exact (h.read e he row hreads hkey).cons _

/-! ### One session for each device code -/

/-- What a request that starts a session was told. -/
theorem opens_of_starts (hrun : Run (machine ports) (s.deviceTraffic w arrivals) tr cfg)
    {later : List (Event ι Call World)} {e : Event ι Call World}
    (htr : tr = later ++ e :: past) {row : DeviceAuthorization}
    (hstarts : StartsSession arrivals e row) :
    SavesNone (exchanges (machine ports) e.pid past) ∧
      ∃ request client deviceCode userCode, arrivals e.pid = .start request ∧
        Opens s.device request (exchanges (machine ports) e.pid past) row client deviceCode
          userCode := by
  obtain ⟨⟨request, harrival⟩, hcall⟩ := hstarts
  have hallowed := allowed_of_run hrun htr
  rw [hcall] at hallowed
  rcases hallowed with ⟨request', harrival', hsaves, client, deviceCode, userCode, hopens⟩ |
    ⟨⟨request', harrival'⟩, -⟩
  · exact ⟨hsaves, request', client, deviceCode, userCode, harrival', hopens⟩
  · rw [harrival] at harrival'
    cases harrival'

/-- The digest of a session started is the one of a value its request drew. -/
theorem drawn_of_starts (hrun : Run (machine ports) (s.deviceTraffic w arrivals) tr cfg)
    {e : Event ι Call World} (he : e ∈ tr) {row : DeviceAuthorization}
    (hstarts : StartsSession arrivals e row) :
    ∃ d ∈ tr, d.pid = e.pid ∧ d.call = .tokenUrlsafe ∧
      row.deviceCodeHash = tokenHash s.token.platform (ports.tokenUrlsafe d.pre.draws) := by
  obtain ⟨later, past, htr⟩ := List.append_of_mem he
  obtain ⟨-, request, client, deviceCode, userCode, -, hopens⟩ := opens_of_starts hrun htr hstarts
  obtain ⟨⟨pid, call, pre⟩, hd, hpid, heq⟩ := mem_exchanges.mp hopens.coded
  obtain ⟨rfl, hreply⟩ := Sigma.mk.inj heq
  have hcode : ports.tokenUrlsafe pre.draws = deviceCode := eq_of_heq hreply
  obtain ⟨now, hrow⟩ := hopens.row
  refine ⟨_, by rw [htr]; simp [hd], hpid, rfl, ?_⟩
  rw [hrow, ← s.device_platform, hcode]
  rfl

/-- A request starts one session. -/
theorem starts_once (hrun : Run (machine ports) (s.deviceTraffic w arrivals) tr cfg) (i : ι) :
    tr.Pairwise fun e e' => ¬((e.pid = i ∧ ∃ row, StartsSession arrivals e row) ∧
      (e'.pid = i ∧ ∃ row, StartsSession arrivals e' row)) := by
  refine pairwise_of_past ?_
  rintro later e past htr e' he' ⟨⟨hpid, row, hstarts⟩, hpid', row', hstarts'⟩
  obtain ⟨hsaves, -⟩ := opens_of_starts hrun htr hstarts
  refine hsaves ⟨e'.call, e'.reply (machine ports)⟩ ?_ row' hstarts'.2
  exact mem_exchanges.mpr ⟨e', he', hpid'.trans hpid.symm, rfl⟩

/-- Two sessions started under one digest are one. -/
theorem eq_of_starts (hrun : Run (machine ports) (s.deviceTraffic w arrivals) tr cfg)
    (hdraws : Function.Injective fun n => tokenHash s.token.platform (ports.tokenUrlsafe n))
    {e e' : Event ι Call World} (he : e ∈ tr) (he' : e' ∈ tr) {row row' : DeviceAuthorization}
    (hstarts : StartsSession arrivals e row) (hstarts' : StartsSession arrivals e' row')
    (hkey : row.deviceCodeHash = row'.deviceCodeHash) : e = e' ∧ row = row' := by
  obtain ⟨d, hd, hpid, hcall, hdrawn⟩ := drawn_of_starts hrun he hstarts
  obtain ⟨d', hd', hpid', hcall', hdrawn'⟩ := drawn_of_starts hrun he' hstarts'
  have hsame : d.pre.draws = d'.pre.draws := by
    rw [hdrawn, hdrawn'] at hkey
    exact hdraws hkey
  have hevent : d = d' :=
    (draws_once hrun d'.pre.draws).unique hd hd' ⟨hcall, hsame⟩ ⟨hcall', rfl⟩
  subst hevent
  have heq : e = e' := eq_of_pairwise (starts_once hrun d.pid) he he' ⟨hpid.symm, row, hstarts⟩
    ⟨hpid'.symm, row', hstarts'⟩
  subst heq
  exact ⟨rfl, Call.saveDevice.inj (hstarts.2.symm.trans hstarts'.2)⟩

/-! ### Whom a token is for -/

/-- The session of a device code, as its request asked for it. -/
structure OpenedBy (s : DeviceServer) (ports : Ports) (arrivals : ι → DeviceArrival)
    (past : List (Event ι Call World)) (i : ι) (row : DeviceAuthorization)
    (opening : DeviceAuthorizationRequest) (client : Client) : Prop where
  arrival : arrivals i = .start opening
  found : ∃ f ∈ past, f.call = .findClient opening.clientId ∧
    f.pre.findClient ports opening.clientId = some client
  active : client.isActive = true
  scopes : row.scopes = DeviceAuthorizationUseCase.requestedScopes client opening
  registered : row.scopes ⊆ client.scopes
  clientId : row.clientId = client.clientId
  drawn : ∃ n, row.userCode = ports.generateUserCode n

/-- The session was approved by a user who typed its user code. -/
structure TypedBy (s : DeviceServer) (arrivals : ι → DeviceArrival)
    (past : List (Event ι Call World)) (row : DeviceAuthorization) (subject userCode : String) :
    Prop where
  approved : ∃ a ∈ past, arrivals a.pid = .other (.approveDevice userCode subject) ∧
    a.call = .approveDevice row.deviceCodeHash subject
  typed : normalizeUserCode s.token.platform userCode = row.userCode

theorem openedBy_of_starts (hrun : Run (machine ports) (s.deviceTraffic w arrivals) tr cfg)
    {later : List (Event ι Call World)} {e : Event ι Call World}
    (htr : tr = later ++ e :: past) {row : DeviceAuthorization}
    (hstarts : StartsSession arrivals e row) :
    ∃ opening client, OpenedBy s ports arrivals past e.pid row opening client := by
  obtain ⟨-, request, client, deviceCode, userCode, harrival, hopens⟩ :=
    opens_of_starts hrun htr hstarts
  obtain ⟨now, hrow⟩ := hopens.row
  refine ⟨request, client, harrival, ?_, hopens.active, ?_, ?_, ?_, ?_⟩
  · obtain ⟨⟨pid, call, pre⟩, hf, -, heq⟩ := mem_exchanges.mp hopens.found
    obtain ⟨rfl, hreply⟩ := Sigma.mk.inj heq
    exact ⟨_, hf, rfl, eq_of_heq hreply⟩
  · rw [hrow]
    rfl
  · rw [hrow]
    exact hopens.registered
  · rw [hrow]
    rfl
  · obtain ⟨⟨pid, call, pre⟩, -, -, heq⟩ := mem_exchanges.mp hopens.shown
    obtain ⟨rfl, hreply⟩ := Sigma.mk.inj heq
    refine ⟨pre.draws, ?_⟩
    rw [hrow]
    exact (eq_of_heq hreply).symm

/-- An approval in a run was asked for under the user code of the session. -/
theorem typedBy_of_approves (hrun : Run (machine ports) (s.deviceTraffic w arrivals) tr cfg)
    (hdraws : Function.Injective fun n => tokenHash s.token.platform (ports.tokenUrlsafe n))
    {o a : Event ι Call World} (ho : o ∈ tr) {row : DeviceAuthorization}
    (hstarts : StartsSession arrivals o row) {subject : String}
    (hnew : w.deviceCodes.find row.deviceCodeHash = none) (ha : a ∈ tr)
    (happroves : a.call = .approveDevice row.deviceCodeHash subject) :
    ∃ userCode, arrivals a.pid = .other (.approveDevice userCode subject) ∧
      normalizeUserCode s.token.platform userCode = row.userCode := by
  obtain ⟨later, past, htr⟩ := List.append_of_mem ha
  have hallowed := allowed_of_run hrun htr
  rw [happroves] at hallowed
  obtain ⟨userCode, stored, harrival, hheard, hkey⟩ := hallowed
  obtain ⟨r, hr, hreads, hcode⟩ := reads_of_userCode hheard
  have hattested := (attested_of_run hrun hnew).read r (by rw [htr]; simp [hr]) stored hreads hkey
  obtain ⟨o', ho', first, hstarts', hfixed⟩ := hattested.started
  have hhash : row.deviceCodeHash = first.deviceCodeHash := by
    rw [← hkey]
    exact (congrArg Prod.fst hfixed).symm
  obtain ⟨-, rfl⟩ := eq_of_starts hrun hdraws ho ho' hstarts hstarts' hhash
  refine ⟨userCode, harrival, ?_⟩
  rw [← hcode]
  exact (congrArg (fun f => f.2.1) hfixed).symm

end

end DeviceServer

/-- A token signed for a device code is for the user who typed the user code shown with it, for
the client that asked for it, and for the scopes it asked for. -/
theorem device_tokens_attributed {ι : Type} [DecidableEq ι] (s : DeviceServer) (ports : Ports)
    (w : World) (arrivals : ι → DeviceArrival)
    (hdraws : Function.Injective fun n => tokenHash s.token.platform (ports.tokenUrlsafe n))
    (hcodes : ∀ n, ∀ c ∈ (ports.generateUserCode n).toList, c ∈ userCodeAlphabet)
    (hupper : DeviceAuthorizationUseCase.KeepsUpper s.token.platform)
    {tr later past : List (Event ι Call World)}
    {cfg : Config ι Call Reply (Stop TokenError) DeviceAnswer World}
    (hrun : Run (machine ports) (s.deviceTraffic w arrivals) tr cfg)
    {e : Event ι Call World} (htr : tr = later ++ e :: past) {request : TokenRequest}
    (hpoll : arrivals e.pid = .other (.token request))
    (hgrant : request.grantType = deviceCodeGrantType) {claims : AccessTokenClaims}
    (hsigns : e.call = .createAccessToken claims)
    (hnew : w.deviceCodes.find (tokenHash s.token.platform request.deviceCode) = none) :
    ∃ i row opening client userCode,
      s.OpenedBy ports arrivals past i row opening client ∧
      s.TypedBy arrivals past row claims.subject userCode ∧
      row.deviceCodeHash = tokenHash s.token.platform request.deviceCode ∧
      client.clientId = (s.token.deduceClientId request).clientId ∧
      claims.scopes = row.scopes ∧
      ∀ result, cfg.procs i = .pure (.started (.ok result)) →
        tokenHash s.token.platform result.deviceCode =
            tokenHash s.token.platform request.deviceCode ∧
          normalizeUserCode s.token.platform result.userCode =
            normalizeUserCode s.token.platform userCode := by
  have hallowed := DeviceServer.allowed_of_run hrun htr
  rw [hsigns] at hallowed
  obtain ⟨stored, hissues⟩ := hallowed request hpoll hgrant
  -- the session the poll has read, and the request that started it
  obtain ⟨before, hpast, -⟩ := hrun.at_event htr
  obtain ⟨r, hr, hreads, hkey⟩ := DeviceServer.reads_of_hash hissues.read
  have hattested := (DeviceServer.attested_of_run hpast hnew).read r hr stored hreads hkey
  obtain ⟨o, ho, row, hstarts, hfixed⟩ := hattested.started
  have hrow : row.deviceCodeHash = stored.deviceCodeHash := congrArg Prod.fst hfixed
  have hrowKey := hrow.trans hkey
  obtain ⟨later', past', hpastEq⟩ := List.append_of_mem ho
  obtain ⟨opening, client, hopened⟩ := DeviceServer.openedBy_of_starts hpast hpastEq hstarts
  have hopened' : s.OpenedBy ports arrivals past o.pid row opening client := by
    obtain ⟨f, hf, hfound⟩ := hopened.found
    exact { hopened with found := ⟨f, by rw [hpastEq]; simp [hf], hfound⟩ }
  -- the approval, and the code it was asked for with
  obtain ⟨a, ha, happroves⟩ := hattested.approved hissues.approved
  rw [← hrow, ← hissues.subject] at happroves
  obtain ⟨userCode, harrival, htyped⟩ := DeviceServer.typedBy_of_approves hpast hdraws ho hstarts
    (by rw [hrowKey]; exact hnew) ha happroves
  refine ⟨o.pid, row, opening, client, userCode, hopened', ⟨⟨a, ha, harrival, happroves⟩, htyped⟩,
    hrowKey, ?_, ?_, ?_⟩
  · have hclient : row.clientId = stored.clientId := congrArg (fun f => f.2.2.1) hfixed
    rw [← hissues.clientId, ← hclient, hopened.clientId]
  · have hscopes : row.scopes = stored.scopes := congrArg (fun f => f.2.2.2.1) hfixed
    rw [hissues.scopes, hscopes]
  · intro result hresult
    obtain ⟨row', hsaved, hcode, shown, hdrawn, hshown, hformat⟩ :=
      DeviceServer.shows_of_run hrun hresult opening result hopened.arrival rfl
    -- the session that was answered is the one the request started
    obtain ⟨⟨pid, call, pre⟩, ho', hpid, heq⟩ := mem_exchanges.mp hsaved
    obtain ⟨rfl, -⟩ := Sigma.mk.inj heq
    have hmem : o ∈ tr := by rw [htr]; simp [ho]
    have hsame := eq_of_pairwise (DeviceServer.starts_once hrun o.pid) hmem ho' ⟨rfl, row, hstarts⟩
      ⟨hpid, row', ⟨opening, hpid ▸ hopened.arrival⟩, rfl⟩
    have hsaves : row = row' := by
      have hcall := hstarts.2
      rw [hsame] at hcall
      exact (Call.saveDevice.inj hcall).symm
    subst hsaves
    refine ⟨by rw [← hcode, hrowKey], ?_⟩
    obtain ⟨n, hn⟩ := hopened.drawn
    rw [htyped, hformat, ← hshown, hn]
    exact DeviceAuthorizationUseCase.normalize_format hupper (hcodes n)

/-! ### A device, its user and its polls -/

namespace DeviceServer.Sample

open PurIdentityServer.Sample (platform ports tokens world)

/-- The client may ask for two scopes. -/
def client : Client :=
  { PurIdentityServer.Sample.client with scopes := {"openid", "email"} }

def server : DeviceServer where
  toServer := PurIdentityServer.Sample.server
  device := { platform := platform, config := { issuer := "https://op.example" } }
  device_platform := rfl

def start : World := { clock := 0, clients := Table.empty.save client }

/-- The device asking for a code, its user, and its poll. -/
inductive Party where
  | device | user | poll
  deriving DecidableEq

def poll : TokenRequest where
  grantType := deviceCodeGrantType
  deviceCode := "v"
  clientId := "app"

def arrivals : Party → DeviceArrival
  | .device => .start { clientId := "app", scope := "email" }
  | .user => .other (.approveDevice "BCDF-GHJK" "alice")
  | .poll => .other (.token poll)

/-- One after the other. -/
def run : List (Event Party Call World) ×
    Config Party Call Reply (Stop TokenError) DeviceAnswer World :=
  Config.schedule (machine ports)
    (List.replicate 5 .device ++ List.replicate 3 .user ++ List.replicate 7 .poll)
    ([], server.deviceTraffic start arrivals)

theorem keepsUpper : DeviceAuthorizationUseCase.KeepsUpper server.token.platform :=
  fun _ _ => rfl

theorem drawnCodes (n : Nat) : ∀ c ∈ (ports.generateUserCode n).toList, c ∈ userCodeAlphabet := by
  have hall : ("BCDFGHJK" : String).toList.all userCodeAlphabet.contains = true := by decide
  intro c hc
  exact List.contains_iff_mem.mp (List.all_eq_true.mp hall c hc)

/-- The poll is signed a token for alice. -/
theorem signed : ∃ later e past claims, run.1 = later ++ e :: past ∧ e.pid = .poll ∧
    e.call = .createAccessToken claims ∧ claims.subject = "alice" :=
  ⟨[], _, _, _, rfl, rfl, rfl, rfl⟩

end DeviceServer.Sample

open DeviceServer.Sample PurIdentityServer.Sample in
/-- Alice has typed the code shown with the device code of the poll. -/
theorem device_tokens_attributed_alice :
    ∃ i row opening client userCode past,
      server.OpenedBy ports arrivals past i row opening client ∧
      server.TypedBy arrivals past row "alice" userCode ∧
      row.deviceCodeHash = sha256Hex "v" := by
  obtain ⟨later, e, past, claims, htr, hpid, hcall, hsubject⟩ := signed
  have hpoll : arrivals e.pid = .other (.token poll) := by
    rw [hpid]
    rfl
  obtain ⟨i, row, opening, client, userCode, hopened, htyped, hkey, -⟩ :=
    device_tokens_attributed server ports start arrivals drawn_inj drawnCodes keepsUpper
      (Run.ofSchedule (machine ports) (server.deviceTraffic start arrivals) _) htr hpoll rfl hcall
      rfl
  rw [hsubject] at htyped
  exact ⟨i, row, opening, client, userCode, past, hopened, htyped, hkey⟩

end PurIdentityServer

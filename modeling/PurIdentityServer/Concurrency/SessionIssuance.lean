import PurIdentityServer.Concurrency.Sessions

/-!
# SessionIssuance — tokens issued from one session

A device or backchannel session is deleted and then its tokens are issued,
on three paths: the poll of a device code, the poll of an `auth_req_id`,
and the approval of a push mode request. The deletion does not say whether
it removed a row, so two requests that both read the session as approved
both issue. As long as the deletions of the requests that issue remove the
row, and no poll writes a deleted row back, one request issues at most.
-/

namespace PurIdentityServer

open Effects

variable {ι : Type} [DecidableEq ι]

/-! ## What a request on the session has done -/

/-- The request is about the session of the key: a poll, or a decision of a
backchannel session. -/
def Family.Concerns (f : Family) (p : Platform) (key : String) : Request → Prop
  | .token request =>
      match f with
      | .device => request.grantType = deviceCodeGrantType ∧
          tokenHash p request.deviceCode = key
      | .ciba => request.grantType = cibaGrantType ∧ tokenHash p request.authReqId = key
  | .decideCiba authReqId _ _ => f = .ciba ∧ tokenHash p authReqId = key
  | _ => False

/-- How far a request on the session is. -/
structure Issuing where
  concerned : Prop
  deleted : Bool := false
  issued : Bool := false
  notified : Bool := false

/-- A request on the session issues after deleting, once, and notifies
once. -/
def issueMonitor (f : Family) (key : String) : Monitor Call Reply Issuing where
  good := fun _ c => Family.keyed c
  ok := fun g c =>
    match c with
    | .createAccessToken _ => g.concerned → g.deleted = true ∧ g.issued = false
    | .notifyPush _ _ _ (some _) => g.concerned → g.notified = false
    | _ => True
  next := fun g c =>
    match c with
    | .createAccessToken _ => fun r : Raising String =>
        { g with issued := g.issued || r.isOk }
    | .notifyPush _ _ _ (some _) => fun _ => { g with notified := true }
    | c => fun _ => { g with deleted := g.deleted || f.edit key c = .delete }

section
variable {f : Family} {key : String} {g : Issuing}

theorem issueMonitor_quiet {l : List Area} (hf : l.contains f.area = false)
    (ha : l.contains .accessTokens = false) (hn : l.contains .notices = false) :
    (issueMonitor f key).Quiet (Call.In l) := by
  intro g c hc
  have hkeep : f.edit key c = .keep := by
    refine Family.edit_of_area ?_
    intro harea
    unfold Call.In at hc
    rw [harea, hf] at hc
    cases hc
  have hsame : { g with deleted := g.deleted || f.edit key c = .delete } = g := by
    rw [hkeep]
    simp
  unfold Call.In at hc
  cases c
  case createAccessToken => exact absurd (ha.symm.trans hc) (by decide)
  case notifyPush | notifyPing => exact absurd (hn.symm.trans hc) (by decide)
  all_goals exact ⟨trivial, fun _ _ => hsame⟩

/-- A request that does not concern the session may do anything. -/
theorem wp_of_not_concerned {ε α : Type} {p : M ε α} (hg : ¬ g.concerned) :
    wp (issueMonitor f key) p (fun g' _ => ¬ g'.concerned) (fun g' _ => ¬ g'.concerned) g := by
  refine wp_of_uses (Prog.uses_all p) (fun g' : Issuing => ¬ g'.concerned) ?_ hg
  intro g c hg _
  constructor
  · cases c
    case createAccessToken => exact fun h => absurd h hg
    case notifyPush url token id notification =>
        cases notification
        case none => trivial
        case some => exact fun h => absurd h hg
    all_goals trivial
  · intro r _
    cases c
    case notifyPush url token id notification reply => cases notification <;> exact hg
    all_goals exact hg

variable (u : TokenUseCase)

/-- Issuing is signing one access token: either it is issued, or the ghost
has not changed. -/
theorem createAccessToken_issues (hdeleted : g.deleted = true) (hissued : g.issued = false) (i : Issuance)
    (claimsRequest : Option ClaimsRequest) :
    wp (issueMonitor f key) (u.createAccessToken i claimsRequest)
      (fun g' _ => g' = { g with issued := true }) (fun g' _ => g' = g) g := by
  refine wp_quiet_bind (u.resolveAudience_uses _ _ _)
    (issueMonitor_quiet (by cases f <;> rfl) rfl rfl) (fun _ => rfl) fun audience => ?_
  refine (wp_bind _ _).mpr (wp_op.mpr ⟨fun _ => ⟨hdeleted, hissued⟩, fun r _ => ?_⟩)
  cases r
  case ok => simp [orRaise, wp, issueMonitor, Except.isOk, Except.toBool]
  case error => simp [orRaise, raise, issueMonitor, Except.isOk, Except.toBool]

theorem issueTokens_issues (hdeleted : g.deleted = true) (hissued : g.issued = false)
    (i : Issuance) :
    wp (issueMonitor f key) (u.issueTokens i)
      (fun g' _ => g' = { g with issued := true }) (fun g' _ => g' = g) g := by
  unfold TokenUseCase.issueTokens
  split
  · refine (wp_bind _ _).mpr ((wp_bind _ _).mpr
      (wp_mono (createAccessToken_issues u hdeleted hissued i none) ?_ fun _ _ h => h))
    exact fun g' _ h => wp_pure.mpr (wp_pure.mpr h)
  · refine wp_quiet_bind (u.issueIdToken_uses _ _)
      (issueMonitor_quiet (by cases f <;> rfl) rfl rfl) (fun _ => rfl) fun idToken => ?_
    refine (wp_bind _ _).mpr
      (wp_mono (createAccessToken_issues u hdeleted hissued i _) ?_ fun _ _ h => h)
    exact fun g' _ h => wp_pure.mpr h

/-- The end of the flows, once the session is deleted. -/
theorem issueSession_issues (hdeleted : g.deleted = true) (hissued : g.issued = false)
    (i : Issuance) (dpopBound : Bool) :
    wp (issueMonitor f key) (u.issueSession i dpopBound)
      (fun g' _ => g' = { g with issued := true }) (fun g' _ => g' = g) g := by
  refine wp_quiet_bind (u.offlineRefreshToken_uses _)
    (issueMonitor_quiet (by cases f <;> rfl) rfl rfl) (fun _ => rfl) fun refreshToken => ?_
  refine (wp_bind _ _).mpr
    (wp_mono (issueTokens_issues u hdeleted hissued i) ?_ fun _ _ h => h)
  exact fun g' _ h => wp_pure.mpr h

/-! ## The three paths -/

/-- A poll of the device code issues once, and only after its deletion. -/
theorem deviceCode_issues (hissued : g.issued = false) {request : TokenRequest}
    (hkey : tokenHash u.platform request.deviceCode = key) :
    wp (issueMonitor .device key) (u.deviceCode request)
      (fun g' _ => g'.issued = true) (fun _ _ => True) g := by
  have hpassive : (issueMonitor .device key).Quiet (Call.In [.passive]) :=
    issueMonitor_quiet rfl rfl rfl
  refine (wp_bind _ _).mpr (wp_mono (Q := fun g' granted => g'.issued = false ∧
    granted.stored.deviceCodeHash = key) (E := fun _ _ => True) ?_ ?_ fun _ _ h => h)
  · unfold TokenUseCase.checkDevice
    refine wp_refuseIf_bind.mpr ⟨fun _ => trivial, fun _ => ?_⟩
    refine wp_refuseIf_bind.mpr ⟨fun _ => trivial, fun _ => ?_⟩
    refine wp_quiet_bind (TokenUseCase.activeClient_uses _ _) hpassive (fun _ => trivial)
      fun client => ?_
    refine wp_quiet_bind (u.authenticateClient_uses _ _) hpassive (fun _ => trivial)
      fun _ => ?_
    refine wp_quiet_bind (u.evaluateDpop_uses _ _ _) hpassive (fun _ => trivial)
      fun binding => ?_
    rw [wp_bind]
    unfold TokenUseCase.loadDeviceSession
    refine wp_orRefuse_bind.mpr (wp_op.mpr ⟨trivial, fun found hfound => ⟨fun _ => trivial, ?_⟩⟩)
    rintro row rfl
    refine wp_refuseIf_bind.mpr ⟨fun _ => trivial, fun _ => ?_⟩
    refine wp_ask_bind.mpr ⟨trivial, fun now _ => ?_⟩
    split
    · exact wp_ask_bind.mpr ⟨trivial, fun _ _ => wp_fail.mpr trivial⟩
    refine wp_refuseIf_bind.mpr ⟨fun _ => trivial, fun _ => wp_pure.mpr ?_⟩
    refine wp_quiet_bind (u.effectiveResources_uses _ _) hpassive (fun _ => trivial)
      fun resources => ?_
    exact wp_ask_bind.mpr ⟨trivial, fun now _ =>
      wp_pure.mpr ⟨hissued, (hfound row rfl).trans hkey⟩⟩
  rintro g granted ⟨hissued, hstored⟩
  unfold TokenUseCase.pollDevice
  split
  · refine wp_refuseIf_bind.mpr ⟨fun _ => trivial, fun _ => ?_⟩
    refine wp_ask_bind.mpr ⟨trivial, fun r _ => ?_⟩
    have hdeleted : (issueMonitor .device key).next g
        (.deleteDevice granted.stored.deviceCodeHash) r = { g with deleted := true } := by
      simp [issueMonitor, Family.edit, hstored]
    rw [hdeleted]
    refine wp_mono (issueSession_issues u (g := { g with deleted := true }) rfl hissued _ _)
      ?_ fun _ _ _ => trivial
    rintro g' response rfl
    rfl
  · unfold TokenUseCase.devicePendingResponse
    split <;> exact wp_ask_bind.mpr ⟨trivial, fun _ _ => wp_fail.mpr trivial⟩

/-- The approved flow of a backchannel session: it issues, or the ghost says
at most that the session was deleted. -/
theorem cibaApprovedFlow_issues (hissued : g.issued = false)
    {granted : Granted BackchannelAuthenticationRequest}
    (hstored : granted.stored.authReqIdHash = key) (tlsCertHash : String) :
    wp (issueMonitor .ciba key) (u.cibaApprovedFlow granted tlsCertHash)
      (fun g' _ => g' = { g with deleted := true, issued := true })
      (fun g' _ => g' = g ∨ g' = { g with deleted := true }) g := by
  refine wp_refuseIf_bind.mpr ⟨fun _ => .inl rfl, fun _ => ?_⟩
  refine wp_ask_bind.mpr ⟨trivial, fun r _ => ?_⟩
  have hdeleted : (issueMonitor .ciba key).next g
      (.deleteBackchannel granted.stored.authReqIdHash) r = { g with deleted := true } := by
    simp [issueMonitor, Family.edit, hstored]
  rw [hdeleted]
  refine wp_mono (issueSession_issues u (g := { g with deleted := true }) rfl hissued _ _)
    ?_ ?_
  · rintro g' response rfl
    rfl
  · rintro g' stop rfl
    exact .inr rfl

/-- A poll of the `auth_req_id` issues once, and only after its deletion. -/
theorem ciba_issues (hissued : g.issued = false) {request : TokenRequest}
    (hkey : tokenHash u.platform request.authReqId = key) :
    wp (issueMonitor .ciba key) (u.ciba request)
      (fun g' _ => g'.issued = true) (fun _ _ => True) g := by
  have hpassive : (issueMonitor .ciba key).Quiet (Call.In [.passive]) :=
    issueMonitor_quiet rfl rfl rfl
  refine (wp_bind _ _).mpr (wp_mono (Q := fun g' granted => g'.issued = false ∧
    granted.stored.authReqIdHash = key) (E := fun _ _ => True) ?_ ?_ fun _ _ h => h)
  · unfold TokenUseCase.checkCiba
    refine wp_refuseIf_bind.mpr ⟨fun _ => trivial, fun _ => ?_⟩
    refine wp_refuseIf_bind.mpr ⟨fun _ => trivial, fun _ => ?_⟩
    refine wp_quiet_bind (TokenUseCase.activeClient_uses _ _) hpassive (fun _ => trivial)
      fun client => ?_
    refine wp_quiet_bind (u.authenticateClient_uses _ _) hpassive (fun _ => trivial)
      fun _ => ?_
    refine wp_quiet_bind (u.evaluateDpop_uses _ _ _) hpassive (fun _ => trivial)
      fun binding => ?_
    rw [wp_bind]
    unfold TokenUseCase.loadCibaSession
    refine wp_orRefuse_bind.mpr (wp_op.mpr ⟨trivial, fun found hfound => ⟨fun _ => trivial, ?_⟩⟩)
    rintro row rfl
    refine wp_refuseIf_bind.mpr ⟨fun _ => trivial, fun _ => ?_⟩
    refine wp_ask_bind.mpr ⟨trivial, fun now _ => ?_⟩
    split
    · exact wp_ask_bind.mpr ⟨trivial, fun _ _ => wp_fail.mpr trivial⟩
    refine wp_refuseIf_bind.mpr ⟨fun _ => trivial, fun _ => ?_⟩
    refine wp_refuseIf_bind.mpr ⟨fun _ => trivial, fun _ => wp_pure.mpr ?_⟩
    refine wp_quiet_bind (u.effectiveResources_uses _ _) hpassive (fun _ => trivial)
      fun resources => ?_
    exact wp_ask_bind.mpr ⟨trivial, fun now _ =>
      wp_pure.mpr ⟨hissued, (hfound row rfl).trans hkey⟩⟩
  rintro g granted ⟨hissued, hstored⟩
  unfold TokenUseCase.pollCiba
  split
  · refine wp_mono (cibaApprovedFlow_issues u hissued hstored _) ?_ fun _ _ _ => trivial
    rintro g' response rfl
    rfl
  · unfold TokenUseCase.cibaPendingResponse
    split <;> exact wp_ask_bind.mpr ⟨trivial, fun _ _ => wp_fail.mpr trivial⟩

/-- The issuance of an approval in push mode; a refusal leaves room for the
second attempt of the notification. -/
theorem issueCibaPushTokens_issues {ε : Type} (hissued : g.issued = false)
    {stored : BackchannelAuthenticationRequest} (hstored : stored.authReqIdHash = key) :
    wp (issueMonitor .ciba key)
      (outcome (u.issueCibaPushTokens stored) : M ε (Except TokenError TokenResponse))
      (fun g' r => g'.notified = g.notified ∧ (r.toOption = none → g'.issued = false))
      (fun _ _ => True) g := by
  refine (wp_handle _ _).mpr ((wp_bind _ _).mpr (wp_mono
    (Q := fun g' _ => g'.notified = g.notified)
    (E := fun g' _ => g'.notified = g.notified ∧ g'.issued = false) ?_ ?_ ?_))
  · refine wp_refuseIf_bind.mpr ⟨fun _ => ⟨rfl, hissued⟩, fun _ => ?_⟩
    refine wp_orRefuse_bind.mpr (wp_op.mpr ⟨trivial, fun found _ => ⟨fun _ => ⟨rfl, hissued⟩, ?_⟩⟩)
    intro client hclient
    refine wp_ask_bind.mpr ⟨trivial, fun now _ => ?_⟩
    have hsame : (issueMonitor .ciba key).next ((issueMonitor .ciba key).next g
        (.findClient stored.clientId) found) .now now = g := by
      simp [issueMonitor, Family.edit]
    rw [hsame]
    refine wp_mono (cibaApprovedFlow_issues u hissued hstored _) ?_ ?_
    · rintro g' response rfl
      rfl
    · rintro g' stop (rfl | rfl)
      · exact ⟨rfl, hissued⟩
      · exact ⟨rfl, hissued⟩
  · exact fun g' response h => wp_pure.mpr ⟨h, fun hnone => by cases hnone⟩
  · rintro g' stop ⟨hnotified, hissued'⟩
    cases stop
    case refused => exact wp_pure.mpr ⟨hnotified, fun _ => hissued'⟩
    case raised => exact wp_fail.mpr trivial

/-- The notification is built from the tokens at hand, or from a second
attempt to issue them. -/
theorem createCibaPushNotification_issues {ε : Type}
    {stored : BackchannelAuthenticationRequest} (hstored : stored.authReqIdHash = key)
    (authReqId : String) (response : Option TokenResponse)
    (hissued : response = none → g.issued = false) :
    wp (issueMonitor .ciba key)
      (u.createCibaPushNotification stored authReqId response : M ε String)
      (fun g' _ => g'.notified = g.notified) (fun _ _ => True) g := by
  unfold TokenUseCase.createCibaPushNotification
  refine (wp_bind _ _).mpr (wp_mono (Q := fun g' _ => g'.notified = g.notified)
    (E := fun _ _ => True) ?_ ?_ fun _ _ h => h)
  · cases response
    case some => exact wp_pure.mpr rfl
    case none =>
        refine (wp_bind _ _).mpr (wp_mono
          (issueCibaPushTokens_issues u (hissued rfl) hstored) ?_ fun _ _ h => h)
        exact fun g' r h => wp_pure.mpr h.1
  · intro g' response hnotified
    exact wp_of_quiet (S := Call.In [.keys, .passive, .draws])
      (Prog.uses_bind (Prog.uses_op rfl) fun _ => Prog.uses_bind (Prog.uses_op rfl)
        fun _ => Prog.uses_bind (Prog.uses_op rfl) fun _ => uses_orRaise _ _)
      (issueMonitor_quiet rfl rfl rfl) (fun _ => hnotified) fun _ => trivial

/-- An approval, or a denial, notifies once. -/
theorem cibaExecute_issues {ε : Type} (s : Server) (hissued : g.issued = false)
    (hnotified : g.notified = false) {authReqId : String}
    (hkey : tokenHash s.token.platform authReqId = key) (allow : Bool) (userCode : String) :
    wp (issueMonitor .ciba key) (s.ciba.execute authReqId allow userCode : M ε Bool)
      (fun _ _ => True) (fun _ _ => True) g := by
  unfold CibaApprovalUseCase.execute
  split
  · exact wp_pure.mpr trivial
  refine wp_ask_bind.mpr ⟨trivial, fun found hfound => ?_⟩
  rcases found with _ | stored
  · exact wp_pure.mpr trivial
  dsimp only
  split
  · exact wp_pure.mpr trivial
  split
  · exact wp_pure.mpr trivial
  have hstored : stored.authReqIdHash = key := (hfound stored rfl).trans hkey
  refine (wp_bind _ _).mpr (wp_mono
    (Q := fun g' _ => g'.issued = false ∧ g'.notified = false)
    (E := fun _ _ => True) ?_ ?_ fun _ _ h => h)
  · split <;> exact wp_op.mpr ⟨trivial, fun _ _ => ⟨hissued, hnotified⟩⟩
  rintro g - ⟨hissued, hnotified⟩
  refine (wp_bind _ _).mpr (wp_mono
    (Q := fun g' _ => g'.issued = false ∧ g'.notified = false)
    (E := fun _ _ => True) ?_ ?_ fun _ _ h => h)
  · unfold CibaApprovalUseCase.notifyPing
    split
    · exact wp_pure.mpr ⟨hissued, hnotified⟩
    · exact wp_op.mpr ⟨trivial, fun _ _ => ⟨hissued, hnotified⟩⟩
  rintro g - ⟨hissued, hnotified⟩
  refine (wp_bind _ _).mpr (wp_mono (Q := fun _ _ => True) (E := fun _ _ => True) ?_
    (fun _ _ _ => wp_pure.mpr trivial) fun _ _ h => h)
  unfold CibaApprovalUseCase.notifyPush
  split
  · exact wp_pure.mpr trivial
  refine (wp_bind _ _).mpr (wp_mono (Q := fun g' _ => g'.notified = false)
    (E := fun _ _ => True) ?_ ?_ fun _ _ h => h)
  · split
    · rename_i v hv
      cases hv
      refine (wp_bind _ _).mpr ((wp_bind _ _).mpr (wp_mono
        (issueCibaPushTokens_issues s.token hissued hstored) ?_ fun _ _ h => h))
      rintro g' r ⟨hsame, hnone⟩
      refine wp_mono (createCibaPushNotification_issues s.token hstored authReqId
        r.toOption hnone) ?_ fun _ _ h => h
      exact fun g'' _ h => wp_pure.mpr (h.trans (hsame.trans hnotified))
    · exact wp_pure.mpr hnotified
  · intro g' notification hnotified'
    refine wp_op.mpr ⟨?_, fun _ _ => trivial⟩
    cases notification
    case none => trivial
    case some => exact fun _ => hnotified'

end

/-- Where a request starts. -/
def issueStart (f : Family) (p : Platform) (key : String) (r : Request) : Issuing where
  concerned := f.Concerns p key r

/-- A request on the session issues after deleting, once, notifies once, and
obtains no tokens without issuing. -/
theorem serve_issues (f : Family) (s : Server) (key : String) (r : Request) :
    wp (issueMonitor f key) (s.serve r)
      (fun g answer => f.Concerns s.token.platform key r →
        ∀ response, answer = .tokens response → g.issued = true)
      (fun _ _ => True) (issueStart f s.token.platform key r) := by
  by_cases hconcerned : f.Concerns s.token.platform key r
  · cases r
    case token request =>
        obtain ⟨clientId, hexec⟩ := s.token.execute_cases request
        refine (wp_bind _ _).mpr (wp_mono (Q := fun g' _ => g'.issued = true)
          (E := fun _ _ => True) ?_ (fun _ _ h => wp_pure.mpr fun _ _ _ => h) fun _ _ h => h)
        generalize hpoll : ({ request with clientId := clientId } : TokenRequest) = poll at hexec
        rw [hexec]
        cases f
        case device =>
            have hgrant : poll.grantType = deviceCodeGrantType := by
              rw [← hpoll]
              exact hconcerned.1
            rw [s.token.dispatch_deviceCode hgrant]
            refine deviceCode_issues s.token rfl ?_
            rw [← hpoll]
            exact hconcerned.2
        case ciba =>
            have hgrant : poll.grantType = cibaGrantType := by
              rw [← hpoll]
              exact hconcerned.1
            rw [s.token.dispatch_ciba hgrant]
            refine ciba_issues s.token rfl ?_
            rw [← hpoll]
            exact hconcerned.2
    case decideCiba authReqId allow userCode =>
        obtain ⟨rfl, hkey⟩ := hconcerned
        refine (wp_bind _ _).mpr (wp_mono
          (cibaExecute_issues s rfl rfl hkey allow userCode) ?_ fun _ _ h => h)
        exact fun _ _ _ => wp_pure.mpr fun _ _ h => by cases h
    case approveDevice => exact absurd hconcerned id
    case denyDevice => exact absurd hconcerned id
  · refine wp_mono (wp_of_not_concerned hconcerned) ?_ fun _ _ _ => trivial
    exact fun _ _ _ h => absurd h hconcerned

/-! ## One issuance -/

/-- The call deletes the row of the key, or would. -/
def Deletes (f : Family) (key : String) (e : Event ι Call World) : Prop :=
  f.edit key e.call = .delete

/-- A request on the session is issued an access token. -/
def Issues (ports : Ports) (s : Server) (requests : ι → Request) (f : Family) (key : String)
    (e : Event ι Call World) : Prop :=
  f.Concerns s.token.platform key (requests e.pid) ∧
    ∃ claims token, e.call = .createAccessToken claims ∧
      ports.createAccessToken claims e.pre.draws = .ok token

/-- A request that is issued tokens in the run notifies the client. -/
def NotifiesTokens (ports : Ports) (s : Server) (requests : ι → Request) (f : Family)
    (key : String) (tr : List (Event ι Call World)) (e : Event ι Call World) : Prop :=
  (∃ url token authReqId notification,
    e.call = .notifyPush url token authReqId (some notification)) ∧
    ∃ e' ∈ tr, e'.pid = e.pid ∧ Issues ports s requests f key e'

/-- The deletions of a request that later issues remove the row, the first
of each request at least. -/
def DeletionsRemove (ports : Ports) (s : Server) (requests : ι → Request) (f : Family)
    (key : String) (tr : List (Event ι Call World)) : Prop :=
  ∀ later e past, tr = later ++ e :: past → Deletes f key e →
    (∃ e' ∈ later, e'.pid = e.pid ∧ Issues ports s requests f key e') →
    f.session e.pre key ≠ none ∨ ∃ r ∈ past, r.pid = e.pid ∧ Deletes f key r

/-- The row of the key is only written over. -/
def WritesOver (f : Family) (key : String) (e : Event ι Call World) : Prop :=
  ∀ status subject, f.edit key e.call = .write status subject → f.session e.pre key ≠ none

section
variable {ports : Ports} {s : Server} {requests : ι → Request} {f : Family} {key : String}
  {tr past : List (Event ι Call World)} {i : ι}

/-- The ghost of a request after a trace. -/
def issuing (ports : Ports) (s : Server) (requests : ι → Request) (f : Family) (key : String)
    (i : ι) (past : List (Event ι Call World)) : Issuing :=
  ghost (machine ports) (issueMonitor f key)
    (issueStart f s.token.platform key (requests i)) i past

theorem issueMonitor_concerned (g : Issuing) (c : Call) (r : Reply c) :
    ((issueMonitor f key).next g c r).concerned = g.concerned := by
  cases c
  case notifyPush url token id notification => cases notification <;> rfl
  all_goals rfl

theorem issuing_concerned (i : ι) (past : List (Event ι Call World)) :
    (issuing ports s requests f key i past).concerned
      = f.Concerns s.token.platform key (requests i) := by
  unfold issuing
  induction past with
  | nil => rfl
  | cons e past ih =>
      unfold ghost
      split
      · rw [issueMonitor_concerned, ih]
      · exact ih

omit [DecidableEq ι] in
theorem issueMonitor_deleted {g : Issuing} {e : Event ι Call World}
    (hbefore : g.deleted ≠ true)
    (hafter : ((issueMonitor f key).next g e.call (e.reply (machine ports))).deleted = true) :
    Deletes f key e := by
  obtain ⟨pid, c, pre⟩ := e
  unfold Deletes
  cases c
  case createAccessToken => exact absurd hafter hbefore
  case notifyPush url token id notification =>
      cases notification
      case some => exact absurd hafter hbefore
      case none => simpa [issueMonitor, hbefore] using hafter
  all_goals simpa [issueMonitor, hbefore] using hafter

omit [DecidableEq ι] in
theorem issueMonitor_of_deletes (g : Issuing) (e : Event ι Call World)
    (h : Deletes f key e) :
    ((issueMonitor f key).next g e.call (e.reply (machine ports))).deleted = true := by
  obtain ⟨pid, c, pre⟩ := e
  unfold Deletes at h
  cases c
  case createAccessToken => cases f <;> cases h
  case notifyPush url token id notification => cases f <;> cases h
  all_goals simp only [issueMonitor, h, decide_true, Bool.or_true]

/-- Nothing done is undone. -/
theorem issueMonitor_keeps (g : Issuing) (c : Call) (r : Reply c) :
    (g.deleted = true → ((issueMonitor f key).next g c r).deleted = true) ∧
    (g.issued = true → ((issueMonitor f key).next g c r).issued = true) ∧
    (g.notified = true → ((issueMonitor f key).next g c r).notified = true) := by
  cases c
  case createAccessToken =>
      exact ⟨id, fun h => by simp [issueMonitor, h], id⟩
  case notifyPush url token id notification =>
      cases notification
      case some => exact ⟨fun h => h, fun h => h, fun _ => rfl⟩
      case none => exact ⟨fun h => by simp [issueMonitor, h], fun h => h, fun h => h⟩
  all_goals exact ⟨fun h => by simp [issueMonitor, h], fun h => h, fun h => h⟩

/-- A request that issues in a run has deleted the row, finding it there. -/
theorem exists_removal (hremove : DeletionsRemove ports s requests f key tr)
    {later past : List (Event ι Call World)} {e : Event ι Call World}
    (htr : tr = later ++ e :: past) (hissues : Issues ports s requests f key e)
    (hdeleted : (issuing ports s requests f key e.pid past).deleted = true) :
    ∃ d ∈ tr, d.pid = e.pid ∧ Deletes f key d ∧ f.session d.pre key ≠ none := by
  obtain ⟨between, d, before, hpast, hpid, hfirst, hnow⟩ :=
    exists_establishing (P := fun g : Issuing => g.deleted = true)
      (Bool.false_ne_true) hdeleted
  have hdeletes : Deletes f key d := issueMonitor_deleted hfirst hnow
  have htr' : tr = (later ++ e :: between) ++ d :: before := by
    rw [htr, hpast]
    simp
  rcases hremove _ d before htr' hdeletes ⟨e, by simp, hpid.symm, hissues⟩ with h | h
  · exact ⟨d, by rw [htr']; simp, hpid, hdeletes, h⟩
  · obtain ⟨r, hr, hrpid, hrdeletes⟩ := h
    refine absurd (ghost_of_mem (fun g : Issuing => g.deleted = true)
      (fun g c r => (issueMonitor_keeps g c r).1) (Deletes f key)
      issueMonitor_of_deletes hr (hrpid.trans hpid) hrdeletes) hfirst

/-- A request that has issued does not issue again. -/
theorem issued_of_mem {e : Event ι Call World} (he : e ∈ past) (hpid : e.pid = i)
    (hissues : Issues ports s requests f key e) :
    (issuing ports s requests f key i past).issued = true := by
  refine ghost_of_mem (fun g : Issuing => g.issued = true)
    (fun g c r => (issueMonitor_keeps g c r).2.1)
    (fun e => Issues ports s requests f key e) ?_ he hpid hissues
  rintro g ⟨pid, c, pre⟩ ⟨-, claims, token, hcall, hok⟩
  dsimp only at hcall hok
  subst hcall
  show (g.issued || (ports.createAccessToken claims pre.draws).isOk) = true
  rw [hok]
  simp [Except.isOk, Except.toBool]

theorem notified_of_mem {e : Event ι Call World} (he : e ∈ past) (hpid : e.pid = i)
    (hnotifies : ∃ url token authReqId notification,
      e.call = .notifyPush url token authReqId (some notification)) :
    (issuing ports s requests f key i past).notified = true := by
  refine ghost_of_mem (fun g : Issuing => g.notified = true)
    (fun g c r => (issueMonitor_keeps g c r).2.2)
    (fun e => ∃ url token authReqId notification,
      e.call = .notifyPush url token authReqId (some notification)) ?_ he hpid hnotifies
  rintro g ⟨pid, c, pre⟩ ⟨url, token, authReqId, notification, hcall⟩
  dsimp only at hcall
  subst hcall
  rfl

/-- A request obtains tokens by issuing them. -/
theorem exists_issues (hconcerns : f.Concerns s.token.platform key (requests i))
    (hissued : (issuing ports s requests f key i tr).issued = true) :
    ∃ e ∈ tr, e.pid = i ∧ Issues ports s requests f key e := by
  obtain ⟨later, ⟨pid, c, pre⟩, past, htr, hpid, hfirst, hnow⟩ :=
    exists_establishing (P := fun g : Issuing => g.issued = true)
      (Bool.false_ne_true) hissued
  refine ⟨_, by rw [htr]; simp, hpid, hpid ▸ hconcerns, ?_⟩
  cases c
  case createAccessToken claims =>
      have hor := (Bool.or_eq_true _ _).mp hnow
      have hok : (ports.createAccessToken claims pre.draws).isOk = true :=
        hor.resolve_left hfirst
      cases htoken : ports.createAccessToken claims pre.draws
      case ok token => exact ⟨claims, token, rfl, htoken⟩
      case error => rw [htoken] at hok; cases hok
  case notifyPush url token id notification =>
      cases notification <;> exact absurd hnow hfirst
  all_goals exact absurd hnow hfirst

end

/-- The removals of the row happen once, as long as it is only written
over. -/
theorem removals_once {ports : Ports} {f : Family} {key : String}
    {start cfg : Config ι Call Reply (Stop TokenError) Answer World}
    {tr : List (Event ι Call World)} (hrun : Run (machine ports) start tr cfg)
    (hwrites : ∀ e ∈ tr, WritesOver f key e) :
    Once (fun e : Event ι Call World => Deletes f key e ∧ f.session e.pre key ≠ none)
      (fun w => f.session w key = none) tr cfg.store := by
  refine hrun.stable (fun past w => Once (fun e : Event ι Call World => Deletes f key e ∧
    f.session e.pre key ≠ none) (fun w => f.session w key = none) past w)
    (.nil _ _ _) ?_ ?_ hwrites
  · rintro past v v' h ⟨t, -, rfl⟩
    refine h.move fun hnone => ?_
    cases f <;> exact hnone
  · intro past v i c h hover
    have hafter : f.session ((machine ports).exec c v).2 key
        = (f.edit key c).apply (f.session v key) := f.session_exec ports c v key
    refine h.cons (fun hnone => ?_) fun hdeletes => ⟨hdeletes.2, ?_⟩
    · rw [hafter, hnone]
      cases hedit : f.edit key c
      case write status subject => exact absurd hnone (hover status subject hedit)
      all_goals rfl
    · rw [hafter, show f.edit key c = .delete from hdeletes.1]
      rfl

/-- In a run where the deletions of the requests that issue remove the row,
and no poll writes a deleted row back, one set of tokens is issued from the
session and one notification carries them, at most. -/
theorem one_issuance_of_one_session (ports : Ports) (s : Server) (w : World)
    (requests : ι → Request) (f : Family) (key : String) {tr : List (Event ι Call World)}
    {cfg : Config ι Call Reply (Stop TokenError) Answer World}
    (hrun : Run (machine ports) (s.traffic w requests) tr cfg)
    (hremove : DeletionsRemove ports s requests f key tr)
    (hwrites : ∀ e ∈ tr, WritesOver f key e) :
    (tr.Pairwise fun e e' =>
      ¬ (Issues ports s requests f key e ∧ Issues ports s requests f key e')) ∧
    (tr.Pairwise fun e e' => ¬ (NotifiesTokens ports s requests f key tr e ∧
      NotifiesTokens ports s requests f key tr e')) ∧
    ∀ i j, f.Concerns s.token.platform key (requests i) →
      f.Concerns s.token.platform key (requests j) →
      ∀ x y, cfg.procs i = .pure (.tokens x) → cfg.procs j = .pure (.tokens y) → i = j := by
  obtain ⟨hallowed, hwp⟩ := hrun.allowed (m := issueMonitor f key)
    (fun i => serve_issues f s key (requests i)) (fun _ c v => Family.keyed_exec ports c v)
  have honce := removals_once hrun hwrites
  -- what is known of an issuance: its request has deleted, and had not issued
  have hissue : ∀ later e past, tr = later ++ e :: past →
      Issues ports s requests f key e →
      (issuing ports s requests f key e.pid past).deleted = true ∧
        (issuing ports s requests f key e.pid past).issued = false := by
    intro later e past htr hissues
    obtain ⟨claims, token, hcall, -⟩ := hissues.2
    have hok := hallowed later e past htr
    rw [hcall] at hok
    have hconcerned : (issuing ports s requests f key e.pid past).concerned := by
      rw [issuing_concerned]
      exact hissues.1
    exact hok hconcerned
  have hpid : ∀ e ∈ tr, ∀ e' ∈ tr, Issues ports s requests f key e →
      Issues ports s requests f key e' → e.pid = e'.pid := by
    intro e he e' he' hissues hissues'
    obtain ⟨later, past, htr⟩ := List.append_of_mem he
    obtain ⟨later', past', htr'⟩ := List.append_of_mem he'
    obtain ⟨d, hd, hdpid, hdel⟩ :=
      exists_removal hremove htr hissues (hissue _ _ _ htr hissues).1
    obtain ⟨d', hd', hdpid', hdel'⟩ :=
      exists_removal hremove htr' hissues' (hissue _ _ _ htr' hissues').1
    rw [← hdpid, ← hdpid', honce.unique hd hd' hdel hdel']
  refine ⟨?_, ?_, ?_⟩
  · refine pairwise_of_past ?_
    rintro later e past htr e' he' ⟨hissues, hissues'⟩
    have hsame : e'.pid = e.pid :=
      hpid e' (by rw [htr]; simp [he']) e (by rw [htr]; simp) hissues' hissues
    have htwice := issued_of_mem he' hsame hissues'
    rw [(hissue later e past htr hissues).2] at htwice
    cases htwice
  · refine pairwise_of_past ?_
    rintro later e past htr e' he' ⟨⟨hnotifies, x, hx, hxpid, hxissues⟩,
      ⟨hnotifies', x', hx', hxpid', hxissues'⟩⟩
    have hsame : e'.pid = e.pid := by
      rw [← hxpid, ← hxpid']
      exact hpid x' hx' x hx hxissues' hxissues
    have htwice : (issuing ports s requests f key e.pid past).notified = true :=
      notified_of_mem he' hsame hnotifies'
    obtain ⟨url, token, authReqId, notification, hcall⟩ := hnotifies
    have hok := hallowed later e past htr
    rw [hcall] at hok
    have hconcerned : (issuing ports s requests f key e.pid past).concerned := by
      rw [issuing_concerned, ← hxpid]
      exact hxissues.1
    have hnotified : (issuing ports s requests f key e.pid past).notified = false :=
      hok hconcerned
    rw [hnotified] at htwice
    cases htwice
  · intro i j hi hj x y hx hy
    have hwpi := hwp i
    have hwpj := hwp j
    rw [hx] at hwpi
    rw [hy] at hwpj
    obtain ⟨e, he, hei, hissues⟩ := exists_issues hi (wp_pure.mp hwpi hi x rfl)
    obtain ⟨e', he', hej, hissues'⟩ := exists_issues hj (wp_pure.mp hwpj hj y rfl)
    rw [← hei, ← hej]
    exact hpid e he e' he' hissues hissues'

/-! ### Two polls of an approved session -/

namespace Sample

def approvedDevice : DeviceAuthorization :=
  { deviceAuthorization with status := .approved, subject := "alice" }

/-- Two polls of the approved session. -/
def twoPolls : Config Bool Call Reply (Stop TokenError) Answer World :=
  server.traffic { world with deviceCodes := Table.empty.save approvedDevice }
    fun _ => .token pollRequest

end Sample

/-- When the second poll starts after the first has ended, it is issued
nothing. -/
theorem one_issuance_of_one_session_sequential :
    let run := Config.schedule (machine Sample.ports)
      (List.replicate 8 false ++ List.replicate 8 true) ([], Sample.twoPolls)
    (issued (run.2.procs false)).isSome = true ∧
      (∀ y, run.2.procs true ≠ .pure (.tokens y)) ∧
      run.1.Pairwise fun e e' =>
        ¬ (Issues Sample.ports Sample.server (fun _ => .token Sample.pollRequest) .device
            (Sample.sha256Hex "d") e ∧
          Issues Sample.ports Sample.server (fun _ => .token Sample.pollRequest) .device
            (Sample.sha256Hex "d") e') := by
  have hfirst : (issued ((Config.schedule (machine Sample.ports)
      (List.replicate 8 false ++ List.replicate 8 true)
      ([], Sample.twoPolls)).2.procs false)).isSome = true := by decide +kernel
  have hdeletions : ∀ e ∈ (Config.schedule (machine Sample.ports)
      (List.replicate 8 false ++ List.replicate 8 true) ([], Sample.twoPolls)).1,
      Family.device.edit (Sample.sha256Hex "d") e.call = .keep ∨
        Family.device.edit (Sample.sha256Hex "d") e.call = .delete ∧
          Family.device.session e.pre (Sample.sha256Hex "d") ≠ none := by decide +kernel
  have hconcerns : Family.device.Concerns Sample.server.token.platform (Sample.sha256Hex "d")
      (.token Sample.pollRequest) := ⟨rfl, rfl⟩
  have hone := one_issuance_of_one_session Sample.ports Sample.server _
    (fun _ => .token Sample.pollRequest) .device (Sample.sha256Hex "d")
    (Run.ofSchedule (machine Sample.ports) Sample.twoPolls
      (List.replicate 8 false ++ List.replicate 8 true))
    (by
      intro later e past htr hdeletes _
      rcases hdeletions e (by rw [htr]; simp) with hkeep | hremoves
      · exact absurd (hdeletes.symm.trans hkeep) (by decide)
      · exact .inl hremoves.2)
    (by
      intro e he status subject hwrite
      rcases hdeletions e he with hkeep | hremoves
      · cases hwrite.symm.trans hkeep
      · exact hremoves.2)
  refine ⟨hfirst, fun y hy => ?_, hone.1⟩
  obtain ⟨x, hx⟩ := eq_of_issued hfirst
  exact Bool.false_ne_true (hone.2.2 false true hconcerns hconcerns x y hx hy)

/-- When both polls read the session as approved before either deletes it,
both are issued tokens. -/
theorem two_issuances_of_one_session :
    ¬ ∀ (ports : Ports) (s : Server) (w : World) (requests : Bool → Request) (f : Family)
      (key : String) (tr : List (Event Bool Call World))
      (cfg : Config Bool Call Reply (Stop TokenError) Answer World),
      Run (machine ports) (s.traffic w requests) tr cfg →
      ∀ i j, f.Concerns s.token.platform key (requests i) →
        f.Concerns s.token.platform key (requests j) →
        ∀ x y, cfg.procs i = .pure (.tokens x) → cfg.procs j = .pure (.tokens y) →
          i = j := by
  intro h
  -- four calls each up to the deletion, then the rest of each
  let order := List.replicate 4 false ++ List.replicate 4 true ++
    (List.replicate 4 false ++ List.replicate 4 true)
  obtain ⟨x, hx⟩ := eq_of_issued (p := (Config.schedule (machine Sample.ports) order
    ([], Sample.twoPolls)).2.procs false) (by decide +kernel)
  obtain ⟨y, hy⟩ := eq_of_issued (p := (Config.schedule (machine Sample.ports) order
    ([], Sample.twoPolls)).2.procs true) (by decide +kernel)
  have hsame := h Sample.ports Sample.server _ (fun _ => .token Sample.pollRequest) .device
    (Sample.sha256Hex "d") _ _
    (Run.ofSchedule (machine Sample.ports) Sample.twoPolls order) false true
    ⟨rfl, rfl⟩ ⟨rfl, rfl⟩ x y hx hy
  exact Bool.false_ne_true hsame

end PurIdentityServer

import PurIdentityServer.Application.TokenCalls

/-!
# Traffic — concurrent requests to one deployment

A deployment serves token requests and the users' decisions on device and
backchannel sessions. `Server.serve` is the program of one request and
`Server.traffic` the configuration where every process serves one
request on one store; the index of the processes is any type, so there
are as many requests as one likes.

The end of the module is a small deployment for concrete runs.
-/

namespace PurIdentityServer

open Effects

/-- A deployment: its token endpoint and what its approval page notifies. -/
structure Server where
  token : TokenUseCase
  pingNotifier : Bool := true
  pushNotifier : Bool := true

/-- The requests a deployment serves concurrently. -/
inductive Request where
  | token (request : TokenRequest)
  | approveDevice (userCode subject : String)
  | denyDevice (userCode : String)
  | decideCiba (authReqId : String) (allow : Bool) (userCode : String)

inductive Answer where
  | tokens (response : TokenResponse)
  | device (decision : DeviceDecision)
  | ciba (done : Bool)

/-- The tokens a process ended with, if it did. -/
def issued : M TokenError Answer → Option TokenResponse
  | .pure (.tokens response) => some response
  | _ => none

theorem eq_of_issued_some {p : M TokenError Answer} {response : TokenResponse}
    (h : issued p = some response) : p = .pure (.tokens response) := by
  unfold issued at h
  split at h
  · cases h
    rfl
  · cases h

theorem eq_of_issued {p : M TokenError Answer} (h : (issued p).isSome = true) :
    ∃ response, p = .pure (.tokens response) := by
  obtain ⟨response, hresponse⟩ := Option.isSome_iff_exists.mp h
  exact ⟨response, eq_of_issued_some hresponse⟩

namespace Server

variable (s : Server)

def ciba : CibaApprovalUseCase where
  platform := s.token.platform
  pingNotifier := s.pingNotifier
  pushNotifier := s.pushNotifier
  tokenUseCase := some s.token

def serve : Request → M TokenError Answer
  | .token request => do
      let response ← s.token.execute request
      pure (.tokens response)
  | .approveDevice userCode subject => do
      let decision ← DeviceAuthorizationUseCase.approve s.token.platform userCode subject
      pure (.device decision)
  | .denyDevice userCode => do
      let decision ← DeviceAuthorizationUseCase.deny s.token.platform userCode
      pure (.device decision)
  | .decideCiba authReqId allow userCode => do
      let done ← s.ciba.execute authReqId allow userCode
      pure (.ciba done)

/-- Every process about to serve its request, on the store `w`. -/
def traffic {ι : Type} (w : World) (requests : ι → Request) :
    Config ι Call Reply (Stop TokenError) Answer World :=
  ⟨w, fun i => s.serve (requests i)⟩

/-! ## Footprints of the decisions -/

theorem decide_uses {ε : Type} (userCode : String) (subject : Option String) :
    (DeviceAuthorizationUseCase.decide s.token.platform userCode subject :
      M ε DeviceDecision).Uses (Call.In [.keys, .passive, .devices]) := by
  unfold DeviceAuthorizationUseCase.decide
  dsimp only
  split
  · exact Prog.uses_pure _ _
  refine Prog.uses_bind (Prog.uses_op rfl) fun found => ?_
  cases found with
  | none => exact Prog.uses_pure _ _
  | some stored =>
      refine Prog.uses_bind (Prog.uses_op rfl) fun now => ?_
      split
      · exact Prog.uses_bind (Prog.uses_op rfl) fun _ => Prog.uses_pure _ _
      split
      · exact Prog.uses_pure _ _
      · exact Prog.uses_pure _ _
      · exact Prog.uses_bind (Prog.uses_op rfl) fun _ => Prog.uses_pure _ _
      · exact Prog.uses_bind (Prog.uses_op rfl) fun _ => Prog.uses_pure _ _

theorem issueCibaPushTokens_uses (u : TokenUseCase)
    (stored : BackchannelAuthenticationRequest) :
    (u.issueCibaPushTokens stored).Uses
      (Call.In [.keys, .passive, .draws, .accessTokens, .newRefreshTokens, .backchannel]) := by
  refine Prog.uses_bind (uses_refuseIf _ _ _) fun _ => ?_
  refine Prog.uses_bind (Prog.uses_bind (Prog.uses_op rfl) fun _ => uses_orRefuse _ _ _)
    fun client => ?_
  exact Prog.uses_bind (Prog.uses_op rfl) fun now => u.cibaApprovedFlow_uses _ _

theorem createCibaPushNotification_uses {ε : Type} (u : TokenUseCase)
    (stored : BackchannelAuthenticationRequest) (authReqId : String)
    (response : Option TokenResponse) :
    (u.createCibaPushNotification stored authReqId response : M ε String).Uses
      (Call.In [.keys, .passive, .draws, .accessTokens, .newRefreshTokens, .backchannel]) := by
  unfold TokenUseCase.createCibaPushNotification
  refine Prog.uses_bind ?_ fun response => ?_
  · cases response with
    | none =>
        exact Prog.uses_bind (uses_outcome (issueCibaPushTokens_uses u stored))
          fun _ => Prog.uses_pure _ _
    | some response => exact Prog.uses_pure _ _
  refine Prog.uses_bind (Prog.uses_op rfl) fun now => ?_
  refine Prog.uses_bind (Prog.uses_op rfl) fun jti => ?_
  exact Prog.uses_bind (Prog.uses_op rfl) fun _ => uses_orRaise _ _

theorem cibaExecute_uses {ε : Type} (authReqId : String) (allow : Bool)
    (userCode : String) :
    (s.ciba.execute authReqId allow userCode : M ε Bool).Uses
      (Call.In [.keys, .passive, .draws, .accessTokens, .newRefreshTokens, .backchannel, .notices]) := by
  unfold CibaApprovalUseCase.execute
  split
  · exact Prog.uses_pure _ _
  refine Prog.uses_bind (Prog.uses_op rfl) fun found => ?_
  cases found with
  | none => exact Prog.uses_pure _ _
  | some stored =>
      dsimp only
      split
      · exact Prog.uses_pure _ _
      split
      · exact Prog.uses_pure _ _
      refine Prog.uses_bind ?_ fun _ => Prog.uses_bind ?_ fun _ =>
        Prog.uses_bind ?_ fun _ => Prog.uses_pure _ _
      · split <;> exact Prog.uses_op rfl
      · unfold CibaApprovalUseCase.notifyPing
        split
        · exact Prog.uses_pure _ _
        · exact Prog.uses_op rfl
      · unfold CibaApprovalUseCase.notifyPush
        split
        · exact Prog.uses_pure _ _
        refine Prog.uses_bind ?_ fun notification => Prog.uses_op rfl
        split
        · refine Prog.uses_bind (Prog.uses_bind ?_ fun candidate => ?_)
            fun _ => Prog.uses_pure _ _
          · exact Call.uses_mono (uses_outcome (issueCibaPushTokens_uses _ stored)) rfl
          · exact Call.uses_mono (createCibaPushNotification_uses _ stored _ _) rfl
        · exact Prog.uses_pure _ _

/-- A decision of a user leaves codes and the denylist alone. -/
theorem serve_decision_uses {r : Request} (h : ∀ request, r ≠ .token request) :
    (s.serve r).Uses
      (Call.In [.keys, .passive, .draws, .accessTokens, .newRefreshTokens, .devices, .backchannel,
        .notices]) := by
  cases r with
  | token request => exact absurd rfl (h request)
  | approveDevice userCode subject =>
      exact Prog.uses_bind (Call.uses_mono (s.decide_uses _ _) rfl)
        fun _ => Prog.uses_pure _ _
  | denyDevice userCode =>
      exact Prog.uses_bind (Call.uses_mono (s.decide_uses _ _) rfl)
        fun _ => Prog.uses_pure _ _
  | decideCiba authReqId allow userCode =>
      exact Prog.uses_bind (Call.uses_mono (s.cibaExecute_uses _ _ _) rfl)
        fun _ => Prog.uses_pure _ _

end Server

/-! ## Every refresh token stored is one just drawn -/

/-- The values drawn so far: every refresh token saved has the digest of
one of them. -/
def drawMonitor (p : Platform) : Monitor Call Reply (List String) where
  good := fun _ _ _ => True
  ok := fun drawn c =>
    match c with
    | .saveRefreshToken row => ∃ value ∈ drawn, row.tokenHash = tokenHash p value
    | _ => True
  next := fun drawn c =>
    match c with
    | .tokenUrlsafe => fun value : String => value :: drawn
    | _ => fun _ => drawn

section

theorem drawMonitor_safe {ε α : Type} {p : Platform} {l : List Area} {x : M ε α}
    (hx : x.Uses (Call.In l)) (hl : l.contains .newRefreshTokens = false) :
    Safe (drawMonitor p) x := by
  refine safe_of_uses hx fun g c hc => ?_
  unfold Call.In at hc
  cases c
  case saveRefreshToken => exact absurd (hl.symm.trans hc) (by decide)
  all_goals trivial

theorem ask_draws {ε : Type} {p : Platform} {c : Call}
    (hc : [c.area].contains .newRefreshTokens = false) :
    Safe (drawMonitor p) (ask c : M ε (Reply c)) :=
  drawMonitor_safe (Prog.uses_op (by simp [Call.In])) hc

theorem refuseIf_draws {ε : Type} {p : Platform} (b : Prop) [Decidable b] (error : ε) :
    Safe (drawMonitor p) (refuseIf b error) :=
  drawMonitor_safe (uses_refuseIf (Call.In []) b error) rfl

namespace TokenUseCase

variable (u : TokenUseCase)

theorem issueRefreshToken_draws (i : Issuance) :
    Safe (drawMonitor u.platform) (u.issueRefreshToken i) := by
  intro g
  refine wp_ask_bind.mpr ⟨trivial, fun value _ => ?_⟩
  exact wp_ask_bind.mpr ⟨⟨value, List.mem_cons_self, rfl⟩, fun _ _ => wp_pure.mpr trivial⟩

theorem offlineRefreshToken_draws (i : Issuance) :
    Safe (drawMonitor u.platform) (u.offlineRefreshToken i) := by
  unfold offlineRefreshToken
  split
  · exact u.issueRefreshToken_draws i
  · exact safe_pure _

theorem issueSession_draws (i : Issuance) (dpopBound : Bool) :
    Safe (drawMonitor u.platform) (u.issueSession i dpopBound) :=
  (u.offlineRefreshToken_draws i).bind fun _ =>
    (drawMonitor_safe (u.issueTokens_uses i) rfl).bind fun _ => safe_pure _

theorem exchangeCode_draws (request : TokenRequest) :
    Safe (drawMonitor u.platform) (u.exchangeCode request) := by
  refine (drawMonitor_safe (u.checkCode_uses request) rfl).bind fun granted => ?_
  unfold redeemCode
  refine (ask_draws (by rfl)).bind fun _ => ?_
  refine (u.offlineRefreshToken_draws _).bind fun refreshToken => ?_
  refine (drawMonitor_safe (u.issueTokens_uses _) rfl).bind fun issued => ?_
  exact (ask_draws (by rfl)).bind fun _ => safe_pure _

theorem preAuthorizedCode_draws (request : TokenRequest) :
    Safe (drawMonitor u.platform) (u.preAuthorizedCode request) := by
  refine (drawMonitor_safe (u.checkPreAuthorizedCode_uses request) rfl).bind fun granted => ?_
  refine (ask_draws (by rfl)).bind fun _ => ?_
  exact (drawMonitor_safe (u.issueAccessToken_uses _) rfl).bind fun _ => safe_pure _

theorem refresh_draws (request : TokenRequest) :
    Safe (drawMonitor u.platform) (u.refresh request) := by
  refine (drawMonitor_safe (u.checkRefresh_uses request) rfl).bind fun granted => ?_
  unfold renew
  refine Safe.bind ?_ fun refreshToken =>
    (drawMonitor_safe (u.issueTokens_uses _) rfl).bind fun _ => safe_pure _
  unfold rotate
  split
  · exact safe_pure _
  · exact (ask_draws (by rfl)).bind fun _ =>
      u.issueRefreshToken_draws _

theorem deviceCode_draws (request : TokenRequest) :
    Safe (drawMonitor u.platform) (u.deviceCode request) := by
  refine (drawMonitor_safe (u.checkDevice_uses request) rfl).bind fun granted => ?_
  unfold pollDevice
  split
  · refine (refuseIf_draws _ _).bind fun _ => ?_
    exact (ask_draws (by rfl)).bind fun _ =>
      u.issueSession_draws _ _
  · exact drawMonitor_safe (devicePendingResponse_uses _ _) rfl

theorem cibaApprovedFlow_draws (granted : Granted BackchannelAuthenticationRequest)
    (tlsCertHash : String) :
    Safe (drawMonitor u.platform) (u.cibaApprovedFlow granted tlsCertHash) := by
  refine (refuseIf_draws _ _).bind fun _ => ?_
  exact (ask_draws (by rfl)).bind fun _ =>
    u.issueSession_draws _ _

theorem ciba_draws (request : TokenRequest) :
    Safe (drawMonitor u.platform) (u.ciba request) := by
  refine (drawMonitor_safe (u.checkCiba_uses request) rfl).bind fun granted => ?_
  unfold pollCiba
  split
  · exact u.cibaApprovedFlow_draws _ _
  · exact drawMonitor_safe (cibaPendingResponse_uses _ _) rfl

theorem execute_draws (request : TokenRequest) :
    Safe (drawMonitor u.platform) (u.execute request) := by
  obtain ⟨clientId, hexec⟩ := u.execute_cases request
  rw [hexec]
  unfold dispatch
  split
  · exact u.exchangeCode_draws _
  split
  · exact u.refresh_draws _
  split
  · exact drawMonitor_safe (u.clientCredentials_uses _) rfl
  split
  · exact drawMonitor_safe (u.jwtBearer_uses _) rfl
  split
  · exact u.deviceCode_draws _
  split
  · exact u.ciba_draws _
  split
  · exact u.preAuthorizedCode_draws _
  · exact safe_fail _

theorem issueCibaPushTokens_draws (stored : BackchannelAuthenticationRequest) :
    Safe (drawMonitor u.platform) (u.issueCibaPushTokens stored) := by
  refine (refuseIf_draws _ _).bind fun _ => ?_
  refine Safe.bind (drawMonitor_safe (Prog.uses_bind (Prog.uses_op rfl) fun _ =>
    uses_orRefuse _ _ _) (l := [.keys, .passive]) rfl) fun client => ?_
  exact (ask_draws (by rfl)).bind fun now =>
    u.cibaApprovedFlow_draws _ _

theorem outcome_draws {ε ε' α : Type} {p : Platform} {x : M ε α}
    (hx : Safe (drawMonitor p) x) :
    Safe (drawMonitor p) (outcome x : M ε' (Except ε α)) := by
  refine Safe.handle (hx.bind fun _ => safe_pure _) fun stop => ?_
  cases stop with
  | refused e => exact safe_pure _
  | raised x => exact safe_fail _

end TokenUseCase

theorem Server.cibaExecute_draws (s : Server) {ε : Type} (authReqId : String) (allow : Bool)
    (userCode : String) :
    Safe (drawMonitor s.token.platform)
      (s.ciba.execute authReqId allow userCode : M ε Bool) := by
  unfold CibaApprovalUseCase.execute
  split
  · exact safe_pure _
  refine (ask_draws (by rfl)).bind fun found => ?_
  cases found with
  | none => exact safe_pure _
  | some stored =>
      dsimp only
      split
      · exact safe_pure _
      split
      · exact safe_pure _
      refine Safe.bind ?_ fun _ => Safe.bind ?_ fun _ => Safe.bind ?_ fun _ => safe_pure _
      · split <;> exact ask_draws (by rfl)
      · unfold CibaApprovalUseCase.notifyPing
        split
        · exact safe_pure _
        · exact ask_draws (by rfl)
      · unfold CibaApprovalUseCase.notifyPush
        split
        · exact safe_pure _
        refine Safe.bind ?_ fun _ =>
          ask_draws (by rfl)
        split
        · refine Safe.bind (Safe.bind ?_ fun candidate => ?_) fun _ => safe_pure _
          · rename_i hu
            cases hu
            exact TokenUseCase.outcome_draws (s.token.issueCibaPushTokens_draws stored)
          · rename_i hu
            cases hu
            unfold TokenUseCase.createCibaPushNotification
            refine Safe.bind ?_ fun response => ?_
            · cases candidate.toOption with
              | none =>
                  exact (TokenUseCase.outcome_draws
                    (s.token.issueCibaPushTokens_draws stored)).bind fun _ => safe_pure _
              | some response => exact safe_pure _
            · refine drawMonitor_safe (Prog.uses_bind (Prog.uses_op rfl) fun _ =>
                Prog.uses_bind (Prog.uses_op rfl) fun _ => Prog.uses_bind
                  (Prog.uses_op rfl) fun _ => uses_orRaise _ _) (l := [.keys, .passive, .draws]) rfl
        · exact safe_pure _

/-- Whatever the request, the refresh tokens it stores are values it drew. -/
theorem Server.serve_draws (s : Server) (r : Request) :
    Safe (drawMonitor s.token.platform) (s.serve r) := by
  cases r with
  | token request => exact (s.token.execute_draws request).bind fun _ => safe_pure _
  | approveDevice userCode subject =>
      exact (drawMonitor_safe (s.decide_uses _ _) rfl).bind fun _ => safe_pure _
  | denyDevice userCode =>
      exact (drawMonitor_safe (s.decide_uses _ _) rfl).bind fun _ => safe_pure _
  | decideCiba authReqId allow userCode =>
      exact (s.cibaExecute_draws _ _ _).bind fun _ => safe_pure _

variable {ι : Type} [DecidableEq ι] {ports : Ports}

theorem exists_draw {p : Platform} {i : ι} {value : String}
    {tr : List (Event ι Call World)}
    (h : value ∈ ghost (machine ports) (drawMonitor p) [] i tr) :
    ∃ d ∈ tr, d.pid = i ∧ d.call = .tokenUrlsafe ∧
      value = ports.tokenUrlsafe d.pre.draws := by
  induction tr with
  | nil => exact absurd h List.not_mem_nil
  | cons e past ih =>
      by_cases hnew : e.pid = i ∧ e.call = .tokenUrlsafe ∧
          value = ports.tokenUrlsafe e.pre.draws
      · exact ⟨e, List.mem_cons_self, hnew⟩
      · have hbefore : value ∈ ghost (machine ports) (drawMonitor p) [] i past := by
          obtain ⟨pid, c, pre⟩ := e
          unfold ghost at h
          split at h
          · rename_i hpid
            cases c
            case tokenUrlsafe =>
                rcases List.mem_cons.mp h with rfl | h
                · exact absurd ⟨hpid, rfl, rfl⟩ hnew
                · exact h
            all_goals exact h
          · exact h
        obtain ⟨d, hd, rest⟩ := ih hbefore
        exact ⟨d, List.mem_cons_of_mem _ hd, rest⟩

/-- In a run, a refresh token saved is a value its process drew before. -/
theorem Server.traffic_draws {s : Server} {w : World} {requests : ι → Request}
    {tr : List (Event ι Call World)}
    {cfg : Config ι Call Reply (Stop TokenError) Answer World}
    (hrun : Run (machine ports) (s.traffic w requests) tr cfg)
    {later : List (Event ι Call World)} {e : Event ι Call World}
    {past : List (Event ι Call World)} (htr : tr = later ++ e :: past) {row : RefreshToken}
    (hsave : e.call = .saveRefreshToken row) :
    ∃ d ∈ past, d.pid = e.pid ∧ d.call = .tokenUrlsafe ∧
      row.tokenHash = tokenHash s.token.platform (ports.tokenUrlsafe d.pre.draws) := by
  have hsafe : ∀ i, wp (drawMonitor s.token.platform) ((s.traffic w requests).procs i)
      (fun _ _ => True) (fun _ _ => True) [] := fun i => s.serve_draws (requests i) []
  have hok := (hrun.allowed hsafe fun _ _ _ => trivial).1 later e past htr
  rw [hsave] at hok
  obtain ⟨value, hvalue, hhash⟩ := hok
  obtain ⟨d, hd, hpid, hcall, rfl⟩ := exists_draw hvalue
  exact ⟨d, hd, hpid, hcall, hhash⟩

theorem exec_draws_le (c : Call) (w : World) : w.draws ≤ (exec ports c w).2.draws := by
  rw [exec_draws]
  split <;> omega

/-- Draws count up from the start of the run. -/
theorem draws_of_mem {ε α : Type} {start cfg : Config ι Call Reply ε α World}
    {tr : List (Event ι Call World)} (hrun : Run (machine ports) start tr cfg) :
    ∀ e ∈ tr, start.store.draws ≤ e.pre.draws := by
  have h := hrun.stable
    (fun past v => start.store.draws ≤ v.draws ∧ ∀ e ∈ past, start.store.draws ≤ e.pre.draws)
    ⟨le_rfl, fun _ he => absurd he List.not_mem_nil⟩
    (by
      rintro past v v' hinv ⟨t, -, rfl⟩
      exact hinv)
    (by
      rintro past v i c ⟨hdraws, hpast⟩ -
      refine ⟨hdraws.trans (exec_draws_le c v), fun e he => ?_⟩
      rcases List.mem_cons.mp he with rfl | hmem
      · exact hdraws
      · exact hpast e hmem)
    (show ∀ e ∈ tr, True from fun _ _ => trivial)
  exact h.2

/-- Each value is drawn once. -/
theorem draws_once {ε α : Type} {start cfg : Config ι Call Reply ε α World}
    {tr : List (Event ι Call World)} (hrun : Run (machine ports) start tr cfg) (n : Nat) :
    Once (fun e : Event ι Call World => e.call = .tokenUrlsafe ∧ e.pre.draws = n)
      (fun v : World => n < v.draws) tr cfg.store := by
  refine hrun.stable (fun past v => Once _ _ past v) (Once.nil _ _ _) ?_ ?_
    (show ∀ e ∈ tr, True from fun _ _ => trivial)
  · rintro past v v' h ⟨t, -, rfl⟩
    exact h.move id
  · rintro past v i c h -
    refine h.cons (fun hlt => Nat.lt_of_lt_of_le hlt (exec_draws_le c v)) ?_
    rintro ⟨hcall, hn⟩
    cases hcall
    cases hn
    exact ⟨Nat.lt_irrefl _, Nat.lt_succ_self _⟩

/-- In a run, every refresh token saved has a digest of a value drawn after
the start. -/
theorem Server.traffic_saves {V : String → Prop} {s : Server} {w : World}
    {requests : ι → Request} {tr : List (Event ι Call World)}
    {cfg : Config ι Call Reply (Stop TokenError) Answer World}
    (hrun : Run (machine ports) (s.traffic w requests) tr cfg)
    (hV : ∀ n, w.draws ≤ n → V (tokenHash s.token.platform (ports.tokenUrlsafe n))) :
    ∀ e ∈ tr, ∀ row, e.call = .saveRefreshToken row → V row.tokenHash := by
  intro e he row hsave
  obtain ⟨later, past, htr⟩ := List.append_of_mem he
  obtain ⟨d, hd, -, -, hhash⟩ := s.traffic_draws hrun htr hsave
  rw [hhash]
  exact hV _ (draws_of_mem hrun d (by rw [htr]; simp [hd]))

end

/-! ## A small deployment -/

namespace Sample

def server : Server where
  token := tokens

/-- Two requests renewing with the token. -/
def refreshTraffic : Config Bool Call Reply (Stop TokenError) Answer World :=
  server.traffic refreshWorld fun _ => .token refreshRequest

end Sample

end PurIdentityServer

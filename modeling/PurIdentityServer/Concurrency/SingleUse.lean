import PurIdentityServer.Concurrency.Traffic

/-!
# SingleUse — authorization codes and refresh tokens under concurrency

A code is found, tested, and only later consumed, by an update that does
not say whether it changed anything; a refresh token likewise. Two
requests that both read the row before either consumes it both succeed.
What the code does guarantee is conditional on the schedule: as long as
every consumption meets a row that is still unconsumed, one request
succeeds at most.
-/

namespace PurIdentityServer

open Effects

variable {ι : Type} [DecidableEq ι]

/-! ## Authorization codes -/

/-- The request presents the code, by either of the two grants. -/
def PresentsCode (code : String) (request : TokenRequest) : Prop :=
  (request.grantType = "authorization_code" ∧ request.code = code) ∨
    (request.grantType = preAuthorizedCodeGrantType ∧ request.preAuthorizedCode = code)

/-- No unconsumed row is left for the code. -/
def CodeSpent (code : String) (w : World) : Prop :=
  ∀ row, w.codes.find code = some row → row.isConsumed = true

instance (code : String) (w : World) : Decidable (CodeSpent code w) :=
  decidable_of_iff (((w.codes.find code).map AuthorizationCode.isConsumed).getD true = true)
    (by cases h : w.codes.find code <;> simp [CodeSpent, h])

/-- A call that consumes the code. -/
def ConsumesCode (code : String) (e : Event ι Call World) : Prop :=
  e.call = .consumeCode code

instance (code : String) (e : Event ι Call World) : Decidable (ConsumesCode code e) :=
  decidable_of_iff ((match e.call with | .consumeCode k => k = code | _ => false) = true)
    (by unfold ConsumesCode; cases e.call <;> simp)

/-- What a request did with the code: whether it consumed it, the value it
drew last and the row it saved for it. -/
structure CodeUse where
  consumed : Bool := false
  drawn : Option String := none
  recorded : Option AuthorizationCode := none

/-- A row found has the code asked for, and a row saved is a consumed one
that the request itself consumed. -/
def codeMonitor (code : String) : Monitor Call Reply CodeUse where
  good := fun _ c =>
    match c with
    | .findByCode k => fun r : Option AuthorizationCode => ∀ row, r = some row → row.code = k
    | _ => fun _ => True
  ok := fun g c =>
    match c with
    | .saveCode row => row.isConsumed = true ∧ (row.code = code → g.consumed = true)
    | _ => True
  next := fun g c =>
    match c with
    | .consumeCode k => fun _ => { g with consumed := g.consumed || k = code }
    | .tokenUrlsafe => fun value : String => { g with drawn := some value }
    | .saveCode row => fun _ => if row.code = code then { g with recorded := some row } else g
    | _ => fun _ => g

theorem codeMonitor_quiet (code : String) {l : List Area}
    (hl : l.contains .codes = false) (hl' : l.contains .draws = false) :
    (codeMonitor code).Quiet (Call.In l) := by
  intro g c hc
  unfold Call.In at hc
  cases c
  case findByCode | consumeCode | saveCode => exact absurd (hl.symm.trans hc) (by decide)
  case tokenUrlsafe => exact absurd (hl'.symm.trans hc) (by decide)
  all_goals exact ⟨trivial, fun _ _ => rfl⟩

/-- Nothing is asked of a program that works on no code. -/
theorem wp_codeless {ε α : Type} {code : String} {l : List Area} {x : M ε α}
    (hx : x.Uses (Call.In l)) (hl : l.contains .codes = false) (g : CodeUse) :
    wp (codeMonitor code) x (fun _ _ => True) (fun _ _ => True) g := by
  refine wp_of_uses hx (fun _ => True) (fun g c _ hc => ?_) trivial
  unfold Call.In at hc
  cases c
  case saveCode => exact absurd (hl.symm.trans hc) (by decide)
  all_goals exact ⟨trivial, fun _ _ => trivial⟩

/-- The row holds the digests of the tokens of the response. -/
structure RecordsTokens (p : Platform) (row : AuthorizationCode)
    (response : TokenResponse) : Prop where
  consumed : row.isConsumed = true
  accessToken : row.accessTokenHash = tokenHash p response.accessToken
  refreshToken : row.refreshTokenHash
    = if response.refreshToken = "" then "" else tokenHash p response.refreshToken

/-- The request recorded the tokens of the response on the code, the refresh
token being the value it drew last. -/
def CodeUse.Recorded (g : CodeUse) (p : Platform) (code : String)
    (response : TokenResponse) : Prop :=
  (∃ row, g.recorded = some row ∧ row.code = code ∧ RecordsTokens p row response) ∧
    (response.refreshToken ≠ "" → g.drawn = some response.refreshToken)

omit [DecidableEq ι] in
/-- A call after which a request has consumed the code, and not before,
consumes it. -/
theorem consumesCode_of_consumed {code : String} {g : CodeUse} {i : ι} {c : Call}
    {pre : World} {r : Reply c} (hbefore : ¬ g.consumed = true)
    (hafter : ((codeMonitor code).next g c r).consumed = true) :
    ConsumesCode code ⟨i, c, pre⟩ := by
  cases c
  case consumeCode k =>
      simp only [codeMonitor, Bool.or_eq_true, decide_eq_true_eq] at hafter
      rcases hafter with h | rfl
      · exact absurd h hbefore
      · rfl
  case saveCode row =>
      simp only [codeMonitor] at hafter
      split at hafter <;> exact absurd hafter hbefore
  all_goals exact absurd hafter hbefore

section
variable (u : TokenUseCase) {code : String} {used : CodeUse}

/-- The checks of an exchange consume nothing and end with the row of the
presented code. -/
theorem checkCode_code (request : TokenRequest) :
    wp (codeMonitor code) (u.checkCode request)
      (fun g granted => g = used ∧ granted.stored.code = request.code) (fun _ _ => True)
      used := by
  unfold TokenUseCase.checkCode
  refine wp_orRefuse_bind.mpr (wp_op.mpr ⟨trivial, fun found hfound => ⟨fun _ => trivial, ?_⟩⟩)
  intro row hrow
  split
  · exact wp_quiet_bind (u.revokeIssuedTokens_uses row) (codeMonitor_quiet code rfl rfl)
      (fun _ => trivial) fun _ => wp_fail.mpr trivial
  refine wp_ask_bind.mpr ⟨trivial, fun now _ => ?_⟩
  refine wp_refuseIf_bind.mpr ⟨fun _ => trivial, fun _ => ?_⟩
  refine wp_quiet_bind (u.validateCodeExchange_uses row request)
    (codeMonitor_quiet code rfl rfl) (fun _ => trivial) fun client => ?_
  refine wp_quiet_bind (u.evaluateDpop_uses _ _ _) (codeMonitor_quiet code rfl rfl)
    (fun _ => trivial) fun binding => ?_
  refine wp_quiet_bind (u.effectiveResources_uses _ _) (codeMonitor_quiet code rfl rfl)
    (fun _ => trivial) fun resources => ?_
  exact wp_pure.mpr ⟨rfl, hfound row hrow⟩

theorem offlineRefreshToken_drawn (i : Issuance) :
    wp (codeMonitor code) (u.offlineRefreshToken i)
      (fun g refreshToken => g.consumed = used.consumed ∧
        (refreshToken ≠ "" → g.drawn = some refreshToken)) (fun _ _ => True) used := by
  unfold TokenUseCase.offlineRefreshToken
  split
  · refine wp_ask_bind.mpr ⟨trivial, fun value _ => ?_⟩
    exact wp_ask_bind.mpr ⟨trivial, fun _ _ => wp_pure.mpr ⟨rfl, fun _ => rfl⟩⟩
  · exact wp_pure.mpr ⟨rfl, fun h => absurd rfl h⟩

/-- From `consume` on, the ghost says that the code was consumed; in the
end, that the tokens are recorded on it. -/
theorem redeemCode_used (request : TokenRequest) (granted : Granted AuthorizationCode) :
    wp (codeMonitor code) (u.redeemCode request granted)
      (fun g response => granted.stored.code = code →
        g.consumed = true ∧ g.Recorded u.platform code response) (fun _ _ => True) used := by
  unfold TokenUseCase.redeemCode
  refine wp_ask_bind.mpr ⟨trivial, fun _ _ => ?_⟩
  refine (wp_bind _ _).mpr (wp_mono (offlineRefreshToken_drawn u _) ?_ fun _ _ h => h)
  rintro g refreshToken ⟨hconsumed, hdrawn⟩
  have hused : granted.stored.code = code → g.consumed = true := by
    intro hcode
    rw [hconsumed]
    simp [codeMonitor, hcode]
  refine wp_quiet_bind (u.issueTokens_uses _) (codeMonitor_quiet code rfl rfl)
    (fun _ => trivial) fun issued => ?_
  refine wp_ask_bind.mpr ⟨⟨rfl, hused⟩, fun _ _ => wp_pure.mpr fun hcode => ?_⟩
  have hrecorded : (u.recordedCode granted.stored issued.2.1 issued.2.2 refreshToken
      granted.now).code = code := hcode
  simp only [codeMonitor, if_pos hrecorded]
  exact ⟨hused hcode, ⟨_, rfl, hrecorded, rfl, rfl, rfl⟩, hdrawn⟩

theorem checkPreAuthorizedCode_code (request : TokenRequest) :
    wp (codeMonitor code) (u.checkPreAuthorizedCode request)
      (fun g granted => g = used ∧ granted.stored.code = request.preAuthorizedCode)
      (fun _ _ => True) used := by
  unfold TokenUseCase.checkPreAuthorizedCode
  refine wp_ask_bind.mpr ⟨trivial, fun now _ => ?_⟩
  rw [wp_bind]
  unfold TokenUseCase.resolvePreAuthorizedCode
  refine wp_orRefuse_bind.mpr (wp_op.mpr ⟨trivial, fun found hfound => ⟨fun _ => trivial, ?_⟩⟩)
  intro row hrow
  refine wp_refuseIf_bind.mpr ⟨fun _ => trivial, fun _ => ?_⟩
  split
  · exact wp_quiet_bind (u.revokeIssuedTokens_uses row) (codeMonitor_quiet code rfl rfl)
      (fun _ => trivial) fun _ => wp_fail.mpr trivial
  refine wp_refuseIf_bind.mpr ⟨fun _ => trivial, fun _ => wp_pure.mpr ?_⟩
  refine wp_quiet_bind (TokenUseCase.activeClient_uses _ _) (codeMonitor_quiet code rfl rfl)
    (fun _ => trivial) fun client => ?_
  refine wp_quiet_bind (u.authenticateClient_uses _ _) (codeMonitor_quiet code rfl rfl)
    (fun _ => trivial) fun _ => ?_
  refine wp_refuseIf_bind.mpr ⟨fun _ => trivial, fun _ => ?_⟩
  refine wp_refuseIf_bind.mpr ⟨fun _ => trivial, fun _ => ?_⟩
  refine wp_quiet_bind (u.evaluateDpop_uses _ _ _) (codeMonitor_quiet code rfl rfl)
    (fun _ => trivial) fun binding => ?_
  refine wp_quiet_bind (u.effectiveResources_uses _ _) (codeMonitor_quiet code rfl rfl)
    (fun _ => trivial) fun resources => ?_
  exact wp_pure.mpr ⟨rfl, hfound row hrow⟩

theorem redeemPreAuthorizedCode_used (request : TokenRequest)
    (granted : Granted AuthorizationCode) :
    wp (codeMonitor code) (u.redeemPreAuthorizedCode request granted)
      (fun g _ => granted.stored.code = code → g.consumed = true) (fun _ _ => True) used := by
  unfold TokenUseCase.redeemPreAuthorizedCode
  refine wp_ask_bind.mpr ⟨trivial, fun _ _ => ?_⟩
  refine wp_quiet_bind (u.issueAccessToken_uses _) (codeMonitor_quiet code rfl rfl)
    (fun _ => trivial) fun issued => ?_
  refine wp_pure.mpr ?_
  intro hcode
  simp [codeMonitor, hcode]

/-- What a request that presents the code did when it succeeds. -/
def Redeemed (p : Platform) (code : String) (request : TokenRequest) (g : CodeUse)
    (response : TokenResponse) : Prop :=
  PresentsCode code request → g.consumed = true ∧
    (request.grantType = "authorization_code" → g.Recorded p code response)

/-- A request that presents the code and succeeds has consumed it; by the
authorization code grant, it has recorded its tokens. -/
theorem execute_used (request : TokenRequest) :
    wp (codeMonitor code) (u.execute request) (Redeemed u.platform code request)
      (fun _ _ => True) {} := by
  have hskip : ∀ {g : String} {l : List Area} {x : M TokenError TokenResponse},
      request.grantType = g → g ≠ "authorization_code" → g ≠ preAuthorizedCodeGrantType →
      x.Uses (Call.In l) → l.contains .codes = false →
      wp (codeMonitor code) x (Redeemed u.platform code request) (fun _ _ => True) {} := by
    rintro g l x rfl hcode hpre hx hl
    refine wp_mono (wp_codeless hx hl _) ?_ fun _ _ h => h
    rintro g response - (⟨hgrant, -⟩ | ⟨hgrant, -⟩)
    · exact absurd hgrant hcode
    · exact absurd hgrant hpre
  obtain ⟨clientId, hexec⟩ := u.execute_cases request
  rw [hexec]
  unfold TokenUseCase.dispatch
  split
  · rename_i hgrant
    refine (wp_bind _ _).mpr (wp_mono (checkCode_code u _) ?_ fun _ _ h => h)
    rintro g granted ⟨-, hstored⟩
    refine wp_mono (redeemCode_used u _ granted) ?_ fun _ _ h => h
    rintro g response hused (⟨-, hcode⟩ | ⟨hother, -⟩)
    · exact ⟨(hused (hstored.trans hcode)).1, fun _ => (hused (hstored.trans hcode)).2⟩
    · exact absurd (hgrant.symm.trans hother) (by decide)
  rename_i hcodeGrant
  split
  · rename_i hgrant
    exact hskip hgrant (by decide) (by decide) (u.refresh_uses _) rfl
  split
  · rename_i hgrant
    exact hskip hgrant (by decide) (by decide) (u.clientCredentials_uses _) rfl
  split
  · rename_i hgrant
    exact hskip hgrant (by decide) (by decide) (u.jwtBearer_uses _) rfl
  split
  · rename_i hgrant
    exact hskip hgrant (by decide) (by decide) (u.deviceCode_uses _) rfl
  split
  · rename_i hgrant
    exact hskip hgrant (by decide) (by decide) (u.ciba_uses _) rfl
  split
  · refine (wp_bind _ _).mpr (wp_mono (checkPreAuthorizedCode_code u _) ?_ fun _ _ h => h)
    rintro g granted ⟨-, hstored⟩
    refine wp_mono (redeemPreAuthorizedCode_used u _ granted) ?_ fun _ _ h => h
    rintro g response hused (⟨hother, -⟩ | ⟨-, hcode⟩)
    · exact absurd hother hcodeGrant
    · exact ⟨hused (hstored.trans hcode), fun hother => absurd hother hcodeGrant⟩
  · exact wp_fail.mpr trivial

end

/-- The same of any request the deployment serves. -/
def Answered (p : Platform) (code : String) (r : Request) (g : CodeUse) (answer : Answer) :
    Prop :=
  ∀ request response, r = .token request → answer = .tokens response →
    Redeemed p code request g response

theorem serve_used (s : Server) (code : String) (r : Request) :
    wp (codeMonitor code) (s.serve r) (Answered s.token.platform code r)
      (fun _ _ => True) {} := by
  by_cases h : ∃ request, r = .token request
  · obtain ⟨request, rfl⟩ := h
    refine (wp_bind _ _).mpr (wp_mono (execute_used s.token request) ?_ fun _ _ h => h)
    refine fun g response hused => wp_pure.mpr fun request' response' hr hanswer => ?_
    cases hr
    cases hanswer
    exact hused
  · have huses := s.serve_decision_uses fun request hr => h ⟨request, hr⟩
    refine wp_mono (wp_codeless huses rfl _) ?_ fun _ _ h => h
    exact fun _ _ _ request _ hr => absurd ⟨request, hr⟩ h

/-- One call: a spent code stays spent, and a consumption spends it. -/
theorem CodeSpent.exec {code : String} {ports : Ports} {w : World} {c : Call}
    (hok : ∀ row, c = .saveCode row → row.isConsumed = true)
    (h : CodeSpent code w ∨ c = .consumeCode code) :
    CodeSpent code (exec ports c w).2 := by
  intro row hrow
  rw [exec_codes] at hrow
  cases c
  case consumeCode k =>
      simp only [World.consumeCode, Table.find_update] at hrow
      split at hrow
      · obtain ⟨old, -, rfl⟩ := Option.map_eq_some_iff.mp hrow
        rfl
      · rename_i hk
        rcases h with h | h
        · exact h row hrow
        · exact absurd (Call.consumeCode.inj h).symm hk
  case saveCode saved =>
      simp only [Table.find_save] at hrow
      split at hrow
      · cases hrow
        exact hok _ rfl
      · rcases h with h | h
        · exact h row hrow
        · cases h
  all_goals
    rcases h with h | h
    · exact h row hrow
    · cases h

/-- In a run where every consumption of the code meets an unconsumed row,
one request presenting the code obtains tokens at most. -/
theorem one_exchange_of_one_code (ports : Ports) (s : Server) (w : World)
    (requests : ι → Request) (code : String) {tr : List (Event ι Call World)}
    {cfg : Config ι Call Reply (Stop TokenError) Answer World}
    (hrun : Run (machine ports) (s.traffic w requests) tr cfg)
    (hfresh : ∀ e ∈ tr, ConsumesCode code e → ¬ CodeSpent code e.pre)
    {i j : ι} {a b : TokenRequest} (hi : requests i = .token a) (hj : requests j = .token b)
    (ha : PresentsCode code a) (hb : PresentsCode code b) {x y : TokenResponse}
    (hx : cfg.procs i = .pure (.tokens x)) (hy : cfg.procs j = .pure (.tokens y)) :
    i = j := by
  obtain ⟨honce, hwp⟩ := hrun.invariant (codeMonitor code) (fun _ => {})
    (fun past w => Once (ConsumesCode code) (CodeSpent code) past w)
    (Once.nil _ _ _) (fun i => serve_used s code (requests i))
    (by
      rintro past v v' h ⟨t, -, rfl⟩
      exact h.move id)
    (by
      intro past v i c h hcond hok
      have hsave : ∀ row, c = .saveCode row → row.isConsumed = true := by
        rintro row rfl
        exact hok.1
      refine ⟨?_, h.cons (fun hspent => .exec hsave (.inl hspent))
        fun hc => ⟨hcond hc, .exec hsave (.inr hc)⟩⟩
      cases c
      case findByCode k => exact fun row hrow => Table.find_key hrow
      all_goals trivial)
    hfresh
  refine honce.unique_pid (M := machine ports) (m := codeMonitor code)
    (fun g => g.consumed = true)
    (show ∀ _ : ι, ¬ ({} : CodeUse).consumed = true from fun _ => Bool.false_ne_true)
    ?_ ?_ ?_
  · exact fun k past c pre hbefore hafter => consumesCode_of_consumed hbefore hafter
  · have h := hwp i
    rw [hx] at h
    exact (wp_pure.mp h a x hi rfl ha).1
  · have h := hwp j
    rw [hy] at h
    exact (wp_pure.mp h b y hj rfl hb).1

/-! ### Two requests for one code -/

namespace Sample

/-- Two requests exchanging the code. -/
def codeTraffic : Config Bool Call Reply (Stop TokenError) Answer World :=
  server.traffic { world with codes := Table.empty.save authorizationCode }
    fun _ => .token codeRequest

/-- One request after the other. -/
def oneAfterTheOther : List Bool := List.replicate 12 false ++ List.replicate 12 true

end Sample

/-- When the second request starts after the first has ended, it obtains
no tokens. -/
theorem one_exchange_of_one_code_sequential :
    let run := Config.schedule (machine Sample.ports) Sample.oneAfterTheOther
      ([], Sample.codeTraffic)
    (issued (run.2.procs false)).isSome = true ∧
      ∀ y, run.2.procs true ≠ .pure (.tokens y) := by
  have hfirst : (issued ((Config.schedule (machine Sample.ports) Sample.oneAfterTheOther
      ([], Sample.codeTraffic)).2.procs false)).isSome = true := by decide +kernel
  refine ⟨hfirst, fun y hy => ?_⟩
  obtain ⟨x, hx⟩ := eq_of_issued hfirst
  have hsame := one_exchange_of_one_code Sample.ports Sample.server _ _ "c"
    (Run.ofSchedule (machine Sample.ports) Sample.codeTraffic Sample.oneAfterTheOther)
    (by decide +kernel) (i := false) (j := true) rfl rfl (.inl ⟨rfl, rfl⟩)
    (.inl ⟨rfl, rfl⟩) hx hy
  exact Bool.false_ne_true hsame

/-- When both requests read the code before either consumes it, both obtain
tokens. -/
theorem two_exchanges_of_one_code :
    ¬ ∀ (ports : Ports) (s : Server) (w : World) (requests : Bool → Request)
      (code : String) (tr : List (Event Bool Call World))
      (cfg : Config Bool Call Reply (Stop TokenError) Answer World),
      Run (machine ports) (s.traffic w requests) tr cfg →
      ∀ i j a b, requests i = .token a → requests j = .token b →
        PresentsCode code a → PresentsCode code b →
        ∀ x y, cfg.procs i = .pure (.tokens x) → cfg.procs j = .pure (.tokens y) →
          i = j := by
  intro h
  -- three calls each up to `consume`, then the rest of each
  let order := [false, false, false, true, true, true, false, false, false, true, true, true]
  obtain ⟨x, hx⟩ := eq_of_issued (p := (Config.schedule (machine Sample.ports) order
    ([], Sample.codeTraffic)).2.procs false) (by decide +kernel)
  obtain ⟨y, hy⟩ := eq_of_issued (p := (Config.schedule (machine Sample.ports) order
    ([], Sample.codeTraffic)).2.procs true) (by decide +kernel)
  have hsame := h Sample.ports Sample.server _ _ "c" _ _
    (Run.ofSchedule (machine Sample.ports) Sample.codeTraffic order) false true _ _ rfl rfl
    (.inl ⟨rfl, rfl⟩) (.inl ⟨rfl, rfl⟩) x y hx hy
  exact Bool.false_ne_true hsame

/-! ## Refresh tokens -/

/-- The request renews with the token. -/
def PresentsRefreshToken (token : String) (request : TokenRequest) : Prop :=
  request.grantType = "refresh_token" ∧ request.refreshToken = token

/-- No unconsumed row is left for the digest. -/
def RefreshSpent (h : String) (w : World) : Prop :=
  ∀ row, w.refreshTokens.find h = some row → row.isConsumed = true

instance (h : String) (w : World) : Decidable (RefreshSpent h w) :=
  decidable_of_iff (((w.refreshTokens.find h).map RefreshToken.isConsumed).getD true = true)
    (by cases hw : w.refreshTokens.find h <;> simp [RefreshSpent, hw])

/-- The client of the identifier, at any time, has its refresh tokens
rotated: it is no FAPI2 client. -/
def Rotates (ports : Ports) (w : World) (clientId : String) : Prop :=
  ∀ t client, ({ w with clock := t }).findClient ports clientId = some client →
    client.fapi2Enabled = false

instance (h : String) (c : Call) : Decidable (c = .consumeRefreshToken h) :=
  decidable_of_iff ((match c with | .consumeRefreshToken k => k = h | _ => false) = true)
    (by cases c <;> simp)

section
variable (requests : ι → Request) (token h : String)

/-- A request renewing with the token consumes it. -/
def ConsumesRefreshToken (e : Event ι Call World) : Prop :=
  e.call = .consumeRefreshToken h ∧
    ∃ a, requests e.pid = .token a ∧ PresentsRefreshToken token a

/-- A request renewing with the token stores a refresh token. -/
def StoresSuccessor (e : Event ι Call World) : Prop :=
  (∃ row, e.call = .saveRefreshToken row) ∧
    ∃ a, requests e.pid = .token a ∧ PresentsRefreshToken token a

end

/-- How far a request is in a renewal: whether it presents the token, and
how many of the two writes of the rotation it made. -/
structure Renewal where
  presents : Prop
  stage : Nat

/-- A request that presents the token of digest `h`, issued to `clientId`,
consumes it first and stores its successor next, once. -/
def renewalMonitor (h clientId : String) : Monitor Call Reply Renewal where
  good := fun _ c =>
    match c with
    | .findByTokenHash k => fun r : Option RefreshToken => ∀ row, r = some row →
        row.tokenHash = k ∧ (k = h → row.clientId = clientId)
    | .findClient id => fun r : Option Client => ∀ client, r = some client →
        id = clientId → client.fapi2Enabled = false
    | _ => fun _ => True
  ok := fun g c =>
    match c with
    | .consumeRefreshToken k => g.presents → g.stage = 0 ∧ k = h
    | .saveRefreshToken _ => g.presents → g.stage = 1
    | _ => True
  next := fun g c _ =>
    match c with
    | .consumeRefreshToken _ => { g with stage := 1 }
    | .saveRefreshToken _ => { g with stage := 2 }
    | _ => g

section
variable {h clientId : String}

theorem renewalMonitor_quiet {l : List Area} (hl : l.contains .refreshTokens = false)
    (hl' : l.contains .newRefreshTokens = false) :
    (renewalMonitor h clientId).Quiet (Call.In l) := by
  intro g c hc
  unfold Call.In at hc
  cases c
  case findByTokenHash | consumeRefreshToken => exact absurd (hl.symm.trans hc) (by decide)
  case saveRefreshToken => exact absurd (hl'.symm.trans hc) (by decide)
  all_goals exact ⟨trivial, fun _ _ => rfl⟩

theorem renewalMonitor_presents (g : Renewal) (c : Call) (r : Reply c) :
    ((renewalMonitor h clientId).next g c r).presents = g.presents := by
  cases c <;> rfl

/-- A request that does not present the token may do anything. -/
theorem wp_of_not_presents {α : Type} (x : M TokenError α) {g : Renewal}
    (hg : ¬ g.presents) :
    wp (renewalMonitor h clientId) x (fun g' _ => ¬ g'.presents) (fun g' _ => ¬ g'.presents)
      g := by
  refine wp_of_uses (Prog.uses_all x) (fun g' : Renewal => ¬ g'.presents) ?_ hg
  intro g' c hg' _
  refine ⟨?_, fun r _ => by rwa [renewalMonitor_presents]⟩
  cases c
  case consumeRefreshToken => exact fun hp => absurd hp hg'
  case saveRefreshToken => exact fun hp => absurd hp hg'
  all_goals trivial

variable (u : TokenUseCase) {g : Renewal}

/-- The checks of a renewal write nothing, and end with the presented token
and a client whose tokens rotate. -/
theorem checkRefresh_stored (request : TokenRequest)
    (hh : tokenHash u.platform request.refreshToken = h) :
    wp (renewalMonitor h clientId) (u.checkRefresh request)
      (fun g' granted => g' = g ∧ granted.stored.1.tokenHash = h ∧
        granted.client.fapi2Enabled = false) (fun _ _ => True) g := by
  unfold TokenUseCase.checkRefresh
  refine wp_refuseIf_bind.mpr ⟨fun _ => trivial, fun _ => ?_⟩
  unfold TokenUseCase.activeClient
  rw [wp_bind]
  refine wp_orRefuse_bind.mpr (wp_op.mpr ⟨trivial, fun found hfound => ⟨fun _ => trivial, ?_⟩⟩)
  intro client hclient
  refine wp_refuseIf_bind.mpr ⟨fun _ => trivial, fun _ => wp_pure.mpr ?_⟩
  refine wp_quiet_bind (u.authenticateClient_uses _ _) (renewalMonitor_quiet rfl rfl)
    (fun _ => trivial) fun _ => ?_
  rw [wp_bind]
  unfold TokenUseCase.resolveRefreshGrant
  refine wp_orRefuse_bind.mpr (wp_op.mpr ⟨trivial, fun stored? hstored => ⟨fun _ => trivial, ?_⟩⟩)
  intro stored hsome
  obtain ⟨hkey, howner⟩ := hstored stored hsome
  refine wp_refuseIf_bind.mpr ⟨fun _ => trivial, fun hsame => ?_⟩
  refine wp_refuseIf_bind.mpr ⟨fun _ => trivial, fun _ => ?_⟩
  refine wp_ask_bind.mpr ⟨trivial, fun now _ => ?_⟩
  refine wp_refuseIf_bind.mpr ⟨fun _ => trivial, fun _ => ?_⟩
  refine wp_refuseIf_bind.mpr ⟨fun _ => trivial, fun _ => wp_pure.mpr ?_⟩
  refine wp_refuseIf_bind.mpr ⟨fun _ => trivial, fun _ => ?_⟩
  refine wp_ask_bind.mpr ⟨trivial, fun now _ => ?_⟩
  refine wp_quiet_bind (u.evaluateDpop_uses _ _ _) (renewalMonitor_quiet rfl rfl)
    (fun _ => trivial) fun binding => ?_
  refine wp_quiet_bind (u.effectiveResources_uses _ _) (renewalMonitor_quiet rfl rfl)
    (fun _ => trivial) fun resources => ?_
  have hid : request.clientId = clientId :=
    (not_not.mp hsame).symm.trans (howner hh)
  exact wp_pure.mpr ⟨rfl, hkey.trans hh, hfound client hclient hid⟩

/-- A renewal that succeeds made both writes. -/
theorem renew_stage (request : TokenRequest) (granted : Granted (RefreshToken × Finset Scope))
    (hstored : granted.stored.1.tokenHash = h)
    (hrotates : granted.client.fapi2Enabled = false) (hg : g.stage = 0) :
    wp (renewalMonitor h clientId) (u.renew request granted) (fun g' _ => g'.stage = 2)
      (fun _ _ => True) g := by
  unfold TokenUseCase.renew
  rw [wp_bind]
  unfold TokenUseCase.rotate
  rw [if_neg (by simp [hrotates])]
  refine wp_ask_bind.mpr ⟨fun _ => ⟨hg, hstored⟩, fun _ _ => ?_⟩
  refine wp_ask_bind.mpr ⟨trivial, fun value _ => ?_⟩
  refine wp_ask_bind.mpr ⟨fun _ => rfl, fun _ _ => wp_pure.mpr ?_⟩
  refine wp_quiet_bind (u.issueTokens_uses _) (renewalMonitor_quiet rfl rfl)
    (fun _ => trivial) fun issued => ?_
  exact wp_pure.mpr rfl

/-- A request that presents the token and succeeds went through the whole
rotation. -/
theorem serve_renewal (s : Server) (token : String) (r : Request)
    (hh : tokenHash s.token.platform token = h) :
    wp (renewalMonitor h clientId) (s.serve r)
      (fun g' answer => ∀ a x, r = .token a → answer = .tokens x →
        PresentsRefreshToken token a → g'.stage = 2)
      (fun _ _ => True) ⟨∃ a, r = .token a ∧ PresentsRefreshToken token a, 0⟩ := by
  by_cases hp : ∃ a, r = .token a ∧ PresentsRefreshToken token a
  · obtain ⟨request, rfl, hgrant, htoken⟩ := hp
    refine (wp_bind _ _).mpr ?_
    obtain ⟨id, hexec⟩ := s.token.execute_cases request
    rw [hexec]
    unfold TokenUseCase.dispatch
    rw [if_neg (by simp [hgrant]), if_pos (by simp [hgrant])]
    refine (wp_bind _ _).mpr (wp_mono (checkRefresh_stored s.token _ (by simp [htoken, hh]))
      ?_ fun _ _ h => h)
    rintro g' granted ⟨rfl, hstored, hrotates⟩
    refine wp_mono (renew_stage s.token _ granted hstored hrotates rfl) ?_ fun _ _ h => h
    exact fun g' response hstage => wp_pure.mpr fun _ _ _ _ _ => hstage
  · refine wp_mono (wp_of_not_presents (s.serve r) hp) ?_ fun _ _ _ => trivial
    exact fun g' answer _ a x ha _ hpa => absurd ⟨a, ha, hpa⟩ hp

end

/-! ### Runs -/

/-- The ghosts of a run: who presents the token, no write made yet. -/
def renewalStart (requests : ι → Request) (token : String) (i : ι) : Renewal :=
  ⟨∃ a, requests i = .token a ∧ PresentsRefreshToken token a, 0⟩

/-- What a run of renewals keeps, past and store: the token stays its
client's, it is consumed once at most, and a request that stored a
successor is at its end, after a consumption of its own. -/
structure RenewalInv (ports : Ports) (w : World) (requests : ι → Request)
    (token h clientId : String) (past : List (Event ι Call World)) (v : World) : Prop where
  clients : v.clients = w.clients
  owner : ∀ row, v.refreshTokens.find h = some row → row.clientId = clientId
  once : Once (ConsumesRefreshToken requests token h) (RefreshSpent h) past v
  stored : ∀ e ∈ past, StoresSuccessor requests token e →
    (ghost (machine ports) (renewalMonitor h clientId) (renewalStart requests token e.pid)
      e.pid past).stage = 2
  single : past.Pairwise fun e e' =>
    ¬ (StoresSuccessor requests token e ∧ StoresSuccessor requests token e')
  consumed : ∀ i, (∃ a, requests i = .token a ∧ PresentsRefreshToken token a) →
    (ghost (machine ports) (renewalMonitor h clientId) (renewalStart requests token i) i
      past).stage ≠ 0 →
    ∃ e ∈ past, e.pid = i ∧ ConsumesRefreshToken requests token h e

/-- One call: the row keeps its client, when no row of its digest is
saved. -/
theorem refreshOwner_exec (ports : Ports) {h clientId : String} {v : World} {c : Call}
    (hne : ∀ row, c = .saveRefreshToken row → row.tokenHash ≠ h)
    (howner : ∀ row, v.refreshTokens.find h = some row → row.clientId = clientId) :
    ∀ row, (exec ports c v).2.refreshTokens.find h = some row → row.clientId = clientId := by
  rw [exec_refreshTokens]
  cases c
  case consumeRefreshToken k =>
      intro row hrow
      simp only [World.consumeRefreshToken, Table.find_update] at hrow
      split at hrow
      · obtain ⟨old, hold, rfl⟩ := Option.map_eq_some_iff.mp hrow
        exact howner old hold
      · exact howner row hrow
  case saveRefreshToken row =>
      have hrow : h ≠ row.tokenHash := fun heq => hne row rfl heq.symm
      simpa only [Table.find_save_of_ne _ hrow] using howner
  all_goals exact howner

/-- One call: a spent token stays spent, and a consumption spends it. -/
theorem RefreshSpent.exec {ports : Ports} {h : String} {v : World} {c : Call}
    (hne : ∀ row, c = .saveRefreshToken row → row.tokenHash ≠ h)
    (hor : RefreshSpent h v ∨ c = .consumeRefreshToken h) :
    RefreshSpent h (exec ports c v).2 := by
  unfold RefreshSpent at *
  rw [exec_refreshTokens]
  cases c
  case consumeRefreshToken k =>
      intro row hrow
      simp only [World.consumeRefreshToken, Table.find_update] at hrow
      split at hrow
      · obtain ⟨old, hold, rfl⟩ := Option.map_eq_some_iff.mp hrow
        rfl
      · rename_i hk
        rcases hor with hspent | hc
        · exact hspent row hrow
        · exact absurd (Call.consumeRefreshToken.inj hc).symm hk
  case saveRefreshToken row =>
      have hrow : h ≠ row.tokenHash := fun heq => hne row rfl heq.symm
      simp only [Table.find_save_of_ne _ hrow]
      exact hor.resolve_right fun hc => by cases hc
  all_goals exact hor.resolve_right fun hc => by cases hc

section
variable {ports : Ports} {w v : World} {requests : ι → Request} {token h clientId : String}
  {past : List (Event ι Call World)} {i : ι} {c : Call}

theorem ghost_presents (ports : Ports) (requests : ι → Request) (token h clientId : String)
    (i : ι) (past : List (Event ι Call World)) :
    (ghost (machine ports) (renewalMonitor h clientId) (renewalStart requests token i) i
      past).presents = ∃ a, requests i = .token a ∧ PresentsRefreshToken token a := by
  induction past with
  | nil => rfl
  | cons e past ih =>
      unfold ghost
      split
      · rw [renewalMonitor_presents, ih]
      · exact ih

/-- A presenting request that stores a successor is the first one to. -/
theorem RenewalInv.first_successor (hinv : RenewalInv ports w requests token h clientId past v)
    (hpresents : ∃ a, requests i = .token a ∧ PresentsRefreshToken token a)
    (hstage : (ghost (machine ports) (renewalMonitor h clientId)
      (renewalStart requests token i) i past).stage = 1) :
    ∀ e ∈ past, ¬ StoresSuccessor requests token e := by
  intro e he hstores
  have htwo := hinv.stored e he hstores
  obtain ⟨mine, hmine, hpid, hcons⟩ := hinv.consumed i hpresents (by omega)
  obtain ⟨theirs, htheirs, hpid', hcons'⟩ :=
    hinv.consumed e.pid hstores.2 (by omega)
  have hsame := hinv.once.unique hmine htheirs hcons hcons'
  have hi : i = e.pid := by rw [← hpid, ← hpid', hsame]
  rw [← hi] at htwo
  omega

/-- One more call. -/
theorem RenewalInv.call (hinv : RenewalInv ports w requests token h clientId past v)
    (hne : ∀ row, c = .saveRefreshToken row → row.tokenHash ≠ h)
    (hfresh : ConsumesRefreshToken requests token h ⟨i, c, v⟩ → ¬ RefreshSpent h v)
    (hok : (renewalMonitor h clientId).ok (ghost (machine ports)
      (renewalMonitor h clientId) (renewalStart requests token i) i past) c) :
    RenewalInv ports w requests token h clientId (⟨i, c, v⟩ :: past) (exec ports c v).2 := by
  have howner := refreshOwner_exec ports hne hinv.owner
  have hspent : RefreshSpent h v ∨ c = .consumeRefreshToken h →
      RefreshSpent h (exec ports c v).2 := RefreshSpent.exec hne
  have hpres := ghost_presents ports requests token h clientId i past
  have hold : ∀ e ∈ past, StoresSuccessor requests token e → e.pid = i →
      (∃ row, c = .saveRefreshToken row) ∨ ∀ k, c ≠ .consumeRefreshToken k := by
    intro e he hstores hpid
    refine .inr ?_
    rintro k rfl
    have htwo := hinv.stored e he hstores
    have hzero := (hok (by rw [hpres, ← hpid]; exact hstores.2)).1
    rw [hpid] at htwo
    omega
  refine ⟨(exec_clients ports c v).trans hinv.clients, howner, ?_, ?_, ?_, ?_⟩
  · exact hinv.once.cons (fun hs => hspent (.inl hs))
      fun hc => ⟨hfresh hc, hspent (.inr hc.1)⟩
  · intro e he hstores
    rcases List.mem_cons.mp he with rfl | hmem
    · obtain ⟨⟨row, rfl⟩, -⟩ := hstores
      rw [ghost_cons_self]
      rfl
    · have htwo := hinv.stored e hmem hstores
      by_cases hpid : i = e.pid
      · subst hpid
        rw [ghost_cons_self]
        rcases hold e hmem hstores rfl with ⟨row, rfl⟩ | hother
        · rfl
        · cases c
          case consumeRefreshToken k => exact absurd rfl (hother k)
          case saveRefreshToken => rfl
          all_goals exact htwo
      · rwa [ghost_cons_ne hpid]
  · refine .cons ?_ hinv.single
    rintro e' he' ⟨⟨⟨row, hc⟩, hpresents⟩, hstores⟩
    dsimp only at hc
    subst hc
    exact hinv.first_successor hpresents (hok (by rw [hpres]; exact hpresents)) e' he' hstores
  · intro j hpresents hstage
    by_cases hij : i = j
    · subst hij
      rw [ghost_cons_self] at hstage
      have hprev : (ghost (machine ports) (renewalMonitor h clientId)
          (renewalStart requests token i) i past).stage ≠ 0 →
          ∃ e ∈ ⟨i, c, v⟩ :: past, e.pid = i ∧ ConsumesRefreshToken requests token h e := by
        intro hne0
        obtain ⟨e, he, hrest⟩ := hinv.consumed i hpresents hne0
        exact ⟨e, List.mem_cons_of_mem _ he, hrest⟩
      cases c
      case consumeRefreshToken k =>
          have hk := (hok (by rw [hpres]; exact hpresents)).2
          subst hk
          exact ⟨_, List.mem_cons_self, rfl, rfl, hpresents⟩
      case saveRefreshToken row =>
          have hone : _ = 1 := hok (by rw [hpres]; exact hpresents)
          exact hprev (by omega)
      all_goals exact hprev hstage
    · rw [ghost_cons_ne hij] at hstage
      obtain ⟨e, he, hrest⟩ := hinv.consumed j hpresents hstage
      exact ⟨e, List.mem_cons_of_mem _ he, hrest⟩

/-- What the store answers, as long as the invariant holds. -/
theorem RenewalInv.good (hinv : RenewalInv ports w requests token h clientId past v)
    (hrotates : Rotates ports w clientId) (g : Renewal) :
    (renewalMonitor h clientId).good g c (exec ports c v).1 := by
  cases c
  case findByTokenHash k =>
      intro row hrow
      refine ⟨Table.find_key hrow, ?_⟩
      rintro rfl
      exact hinv.owner row hrow
  case findClient id =>
      rintro client hclient rfl
      refine hrotates v.clock client ?_
      change World.findClient ports v id = some client at hclient
      rw [← hclient]
      unfold World.findClient
      rw [hinv.clients]
  all_goals trivial

end

/-- In a run where every renewal that consumes the token meets an unconsumed
row, one renewal succeeds at most and one successor is stored at most. -/
theorem one_renewal_of_one_token (ports : Ports) (s : Server) (w : World)
    (requests : ι → Request) (token : String) {row : RefreshToken}
    (hrow : w.refreshTokens.find (tokenHash s.token.platform token) = some row)
    (hrotates : Rotates ports w row.clientId)
    (hdraws : ∀ n, w.draws ≤ n →
      tokenHash s.token.platform (ports.tokenUrlsafe n) ≠ tokenHash s.token.platform token)
    {tr : List (Event ι Call World)}
    {cfg : Config ι Call Reply (Stop TokenError) Answer World}
    (hrun : Run (machine ports) (s.traffic w requests) tr cfg)
    (hfresh : ∀ e ∈ tr,
      ConsumesRefreshToken requests token (tokenHash s.token.platform token) e →
        ¬ RefreshSpent (tokenHash s.token.platform token) e.pre) :
    (∀ i j a b, requests i = .token a → requests j = .token b →
      PresentsRefreshToken token a → PresentsRefreshToken token b →
      ∀ x y, cfg.procs i = .pure (.tokens x) → cfg.procs j = .pure (.tokens y) → i = j) ∧
    tr.Pairwise fun e e' =>
      ¬ (StoresSuccessor requests token e ∧ StoresSuccessor requests token e') := by
  generalize hh : tokenHash s.token.platform token = h at hrow hdraws hfresh
  have hsaved := Server.traffic_saves hrun (V := fun k => k ≠ h) hdraws
  obtain ⟨hinv, hwp⟩ := hrun.invariant (renewalMonitor h row.clientId)
    (renewalStart requests token) (RenewalInv ports w requests token h row.clientId)
    { clients := rfl
      owner := fun row' hrow' => by cases hrow.symm.trans hrow'; rfl
      once := Once.nil _ _ _
      stored := fun _ he => absurd he List.not_mem_nil
      single := .nil
      consumed := fun _ _ hstage => absurd rfl hstage }
    (fun i => serve_renewal s token (requests i) hh)
    (by
      rintro past v v' hinv ⟨t, -, rfl⟩
      exact ⟨hinv.clients, hinv.owner, hinv.once.move id, hinv.stored, hinv.single,
        hinv.consumed⟩)
    (fun past v i c hinv hcond hok =>
      ⟨hinv.good hrotates _, hinv.call hcond.1 hcond.2 hok⟩)
    (fun e he => And.intro (hsaved e he) (hfresh e he))
  refine ⟨?_, hinv.single⟩
  have key : ∀ k a x, requests k = .token a → PresentsRefreshToken token a →
      cfg.procs k = .pure (.tokens x) →
      ∃ e ∈ tr, e.pid = k ∧ ConsumesRefreshToken requests token h e := by
    intro k a x ha hp hx
    have hdone := hwp k
    rw [hx] at hdone
    have hstage := wp_pure.mp hdone a x ha rfl hp
    exact hinv.consumed k ⟨a, ha, hp⟩ (by omega)
  intro i j a b ha hb hpa hpb x y hx hy
  obtain ⟨e, he, hei, hce⟩ := key i a x ha hpa hx
  obtain ⟨e', he', hej, hce'⟩ := key j b y hb hpb hy
  rw [← hei, ← hej, hinv.once.unique he he' hce hce']

/-! ### Two renewals with one token -/

namespace Sample

theorem refreshWorld_rotates : Rotates ports refreshWorld "app" := by
  intro t c hc
  rw [client_of_findClient rfl t hc]
  rfl

/-- No value drawn has the digest of the token. -/
theorem drawn_ne (n : Nat) : sha256Hex (ports.tokenUrlsafe n) ≠ sha256Hex "r" := by
  intro h
  have hnot : ∀ d ∈ digests, d.2 ≠ ports.tokenUrlsafe n := drawn_not_digest n
  have hvalue : ports.tokenUrlsafe n = "r" := sha256Hex_inj hnot (by decide) h
  have hhead := congrArg (fun s : String => s.toList.head?) hvalue
  simp [ports] at hhead

end Sample

/-- When the second renewal starts after the first has ended, it is refused
and stores nothing. -/
theorem one_renewal_of_one_token_sequential :
    let run := Config.schedule (machine Sample.ports) Sample.oneAfterTheOther
      ([], Sample.refreshTraffic)
    (issued (run.2.procs false)).isSome = true ∧
      (∀ y, run.2.procs true ≠ .pure (.tokens y)) ∧
      run.1.Pairwise fun e e' =>
        ¬ (StoresSuccessor (fun _ => .token Sample.refreshRequest) "r" e ∧
          StoresSuccessor (fun _ => .token Sample.refreshRequest) "r" e') := by
  have hfirst : (issued ((Config.schedule (machine Sample.ports) Sample.oneAfterTheOther
      ([], Sample.refreshTraffic)).2.procs false)).isSome = true := by decide +kernel
  have hfresh : ∀ e ∈ (Config.schedule (machine Sample.ports) Sample.oneAfterTheOther
      ([], Sample.refreshTraffic)).1, e.call = .consumeRefreshToken (Sample.sha256Hex "r") →
        ¬ RefreshSpent (Sample.sha256Hex "r") e.pre := by
    decide +kernel
  have hone := one_renewal_of_one_token Sample.ports Sample.server Sample.refreshWorld
    (fun _ => .token Sample.refreshRequest) "r"
    (show Sample.refreshWorld.refreshTokens.find _ = some Sample.refreshToken by
      decide +kernel) Sample.refreshWorld_rotates (fun n _ => Sample.drawn_ne n)
    (Run.ofSchedule (machine Sample.ports) Sample.refreshTraffic Sample.oneAfterTheOther)
    (fun e he hc => hfresh e he hc.1)
  refine ⟨hfirst, fun y hy => ?_, hone.2⟩
  obtain ⟨x, hx⟩ := eq_of_issued hfirst
  exact Bool.false_ne_true
    (hone.1 false true _ _ rfl rfl ⟨rfl, rfl⟩ ⟨rfl, rfl⟩ x y hx hy)

/-- When both renewals read the token before either consumes it, both
succeed. -/
theorem two_renewals_of_one_token :
    ¬ ∀ (ports : Ports) (s : Server) (w : World) (requests : Bool → Request)
      (token : String) (row : RefreshToken),
      w.refreshTokens.find (tokenHash s.token.platform token) = some row →
      Rotates ports w row.clientId →
      (∀ n, w.draws ≤ n →
        tokenHash s.token.platform (ports.tokenUrlsafe n) ≠
          tokenHash s.token.platform token) →
      ∀ (tr : List (Event Bool Call World))
        (cfg : Config Bool Call Reply (Stop TokenError) Answer World),
        Run (machine ports) (s.traffic w requests) tr cfg →
        ∀ i j a b, requests i = .token a → requests j = .token b →
          PresentsRefreshToken token a → PresentsRefreshToken token b →
          ∀ x y, cfg.procs i = .pure (.tokens x) → cfg.procs j = .pure (.tokens y) →
            i = j := by
  intro h
  -- four calls each up to `consume`, then the rest of each
  let order := [false, false, false, false, true, true, true, true,
    false, false, false, false, true, true, true, true]
  obtain ⟨x, hx⟩ := eq_of_issued (p := (Config.schedule (machine Sample.ports) order
    ([], Sample.refreshTraffic)).2.procs false) (by decide +kernel)
  obtain ⟨y, hy⟩ := eq_of_issued (p := (Config.schedule (machine Sample.ports) order
    ([], Sample.refreshTraffic)).2.procs true) (by decide +kernel)
  have hsame := h Sample.ports Sample.server Sample.refreshWorld
    (fun _ => .token Sample.refreshRequest) "r" Sample.refreshToken
    (by decide +kernel) Sample.refreshWorld_rotates (fun n _ => Sample.drawn_ne n) _ _
    (Run.ofSchedule (machine Sample.ports) Sample.refreshTraffic order) false true _ _
    rfl rfl ⟨rfl, rfl⟩ ⟨rfl, rfl⟩ x y hx hy
  exact Bool.false_ne_true hsame

end PurIdentityServer

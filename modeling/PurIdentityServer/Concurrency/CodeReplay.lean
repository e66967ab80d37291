import PurIdentityServer.Concurrency.SingleUse

/-!
# CodeReplay — a code presented again after its exchange

An exchange records on the code the digests of the two tokens it issued,
after it consumed the code and as its last call. A request that reads the
code from then on finds them, puts the access token on the denylist and
consumes the refresh token. Neither undoes itself: the denylist only
grows, and a refresh token stored later is another one. What descends
from that refresh token by renewals is on no record, and stays as it is.
-/

namespace PurIdentityServer

open Effects

section

variable {ι : Type} [DecidableEq ι] {ports : Ports}

/-! ## The exchange records its tokens -/

/-- What the calls of a run keep of the code: it was consumed once, the
requests that say so did it, and the row one of them recorded stands. -/
structure Recording (ports : Ports) (code : String) (past : List (Event ι Call World))
    (v : World) : Prop where
  once : Once (ConsumesCode code) (CodeSpent code) past v
  consumed : ∀ i row,
    (ghost (machine ports) (codeMonitor code) {} i past).recorded = some row →
      (ghost (machine ports) (codeMonitor code) {} i past).consumed = true
  stands : ∀ i row,
    (ghost (machine ports) (codeMonitor code) {} i past).recorded = some row →
      row.isConsumed = true ∧ v.codes.find code = some row

section
variable {code : String} {past : List (Event ι Call World)} {v : World}

/-- One call: a consumed row stays, unless one is saved in its place. -/
theorem codeRow_stays {code : String} {v : World} {c : Call} {row : AuthorizationCode}
    (hsave : ¬ ∃ row', c = .saveCode row' ∧ row'.code = code)
    (hconsumed : row.isConsumed = true) (hfound : v.codes.find code = some row) :
    (exec ports c v).2.codes.find code = some row := by
  rw [exec_codes]
  cases c
  case consumeCode k =>
      simp only [World.consumeCode, Table.find_update, hfound]
      split
      · simp [← hconsumed]
      · rfl
  case saveCode row' =>
      have hne : code ≠ row'.code := fun hcode => hsave ⟨row', rfl, hcode.symm⟩
      simpa only [Table.find_save_of_ne _ hne] using hfound
  all_goals exact hfound

/-- Two requests that consumed the code are the same. -/
theorem Recording.unique (h : Recording ports code past v) {i j : ι}
    (hi : (ghost (machine ports) (codeMonitor code) {} i past).consumed = true)
    (hj : (ghost (machine ports) (codeMonitor code) {} j past).consumed = true) : i = j := by
  refine h.once.unique_pid (M := machine ports) (m := codeMonitor code)
    (fun g => g.consumed = true)
    (show ∀ _ : ι, ¬ ({} : CodeUse).consumed = true from fun _ => Bool.false_ne_true)
    ?_ hi hj
  intro k past c pre hbefore hafter
  exact consumesCode_of_consumed hbefore hafter

/-- One more call. -/
theorem Recording.call (h : Recording ports code past v) {i : ι} {c : Call}
    (hfresh : ConsumesCode code ⟨i, c, v⟩ → ¬ CodeSpent code v)
    (hok : (codeMonitor code).ok (ghost (machine ports) (codeMonitor code) {} i past) c) :
    Recording ports code (⟨i, c, v⟩ :: past) (exec ports c v).2 := by
  have hsaved : ∀ row, c = .saveCode row → row.isConsumed = true := by
    rintro row rfl
    exact hok.1
  refine ⟨h.once.cons (fun hspent => .exec hsaved (.inl hspent))
    fun hc => ⟨hfresh hc, .exec hsaved (.inr hc)⟩, fun k row hrow => ?_, fun k row hrow => ?_⟩
  · by_cases hik : i = k
    · subst hik
      rw [ghost_cons_self] at hrow ⊢
      cases c
      case saveCode row' =>
          simp only [codeMonitor] at hrow ⊢
          split at hrow
          · rename_i hcode
            rw [if_pos hcode]
            exact hok.2 hcode
          · rename_i hcode
            rw [if_neg hcode]
            exact h.consumed i row hrow
      case consumeCode k =>
          have hconsumed := h.consumed i row hrow
          exact Bool.or_eq_true_iff.mpr (.inl hconsumed)
      all_goals exact h.consumed i row hrow
    · rw [ghost_cons_ne hik] at hrow ⊢
      exact h.consumed k row hrow
  · by_cases hsave : ∃ row', c = .saveCode row' ∧ row'.code = code
    · obtain ⟨row', rfl, hcode⟩ := hsave
      by_cases hik : i = k
      · subst hik
        rw [ghost_cons_self] at hrow
        simp only [codeMonitor, if_pos hcode, Option.some.injEq] at hrow
        subst hrow
        refine ⟨hok.1, ?_⟩
        rw [← hcode]
        exact Table.find_save_self _ _
      · rw [ghost_cons_ne hik] at hrow
        exact absurd (h.unique (hok.2 hcode) (h.consumed k row hrow)) hik
    · have hbefore : (ghost (machine ports) (codeMonitor code) {} k past).recorded
          = some row := by
        by_cases hik : i = k
        · subst hik
          rw [ghost_cons_self] at hrow
          cases c
          case saveCode row' =>
              have hcode : row'.code ≠ code := fun hcode => hsave ⟨row', rfl, hcode⟩
              simpa only [codeMonitor, if_neg hcode] using hrow
          all_goals exact hrow
        · rwa [ghost_cons_ne hik] at hrow
      obtain ⟨hconsumed, hfound⟩ := h.stands k row hbefore
      exact ⟨hconsumed, codeRow_stays hsave hconsumed hfound⟩

end

/-- In a run where every consumption of the code meets an unconsumed row. -/
theorem recording {s : Server} {w : World} {requests : ι → Request} {code : String}
    {tr : List (Event ι Call World)}
    {cfg : Config ι Call Reply (Stop TokenError) Answer World}
    (hrun : Run (machine ports) (s.traffic w requests) tr cfg)
    (hfresh : ∀ e ∈ tr, ConsumesCode code e → ¬ CodeSpent code e.pre) :
    Recording ports code tr cfg.store ∧
      ∀ i, wp (codeMonitor code) (cfg.procs i)
        (Answered s.token.platform code (requests i)) (fun _ _ => True)
        (ghost (machine ports) (codeMonitor code) {} i tr) := by
  refine hrun.invariant (codeMonitor code) (fun _ => {})
    (fun past v => Recording ports code past v) ?_
    (fun i => serve_used s code (requests i)) ?_ ?_ hfresh
  · refine ⟨Once.nil _ _ _, fun i row hrow => ?_, fun i row hrow => ?_⟩
    · cases hrow
    · cases hrow
  · rintro past v v' h ⟨t, -, rfl⟩
    exact ⟨h.once.move id, h.consumed, h.stands⟩
  · intro past v i c h hcond hok
    refine ⟨?_, h.call hcond hok⟩
    cases c
    case findByCode k => exact fun row hrow => Table.find_key hrow
    all_goals trivial

/-- The last value drawn was drawn by a call of the request. -/
theorem exists_drawn {code : String} {i : ι} {value : String}
    {tr : List (Event ι Call World)}
    (h : (ghost (machine ports) (codeMonitor code) {} i tr).drawn = some value) :
    ∃ d ∈ tr, d.pid = i ∧ d.call = .tokenUrlsafe ∧
      value = ports.tokenUrlsafe d.pre.draws := by
  obtain ⟨later, ⟨pid, c, pre⟩, past, htr, hpid, hbefore, hafter⟩ :=
    exists_establishing (P := fun g : CodeUse => g.drawn = some value)
      (fun h => by cases h) h
  refine ⟨⟨pid, c, pre⟩, by rw [htr]; simp, hpid, ?_⟩
  cases c
  case tokenUrlsafe => exact ⟨rfl, (Option.some.inj hafter).symm⟩
  case saveCode row =>
      simp only [codeMonitor] at hafter
      split at hafter <;> exact absurd hafter hbefore
  all_goals exact absurd hafter hbefore

/-! ## The replay revokes what is recorded -/

/-- What a request did since it read the code: the access token put on the
denylist, the refresh token consumed. -/
structure Revocation where
  read : Bool := false
  revoked : Bool := false
  consumed : Bool := false

/-- The code is found as it was recorded. -/
def replayMonitor (recorded : AuthorizationCode) : Monitor Call Reply Revocation where
  good := fun _ c =>
    match c with
    | .findByCode k => fun r : Option AuthorizationCode =>
        k = recorded.code → r = some recorded
    | _ => fun _ => True
  ok := fun _ _ => True
  next := fun g c _ =>
    match c with
    | .findByCode k => { g with read := g.read || k = recorded.code }
    | .saveRevoked row =>
        { g with revoked := g.revoked || g.read && row.tokenHash = recorded.accessTokenHash }
    | .consumeRefreshToken h =>
        { g with consumed := g.consumed || g.read && h = recorded.refreshTokenHash }
    | _ => g

theorem replayMonitor_quiet {recorded : AuthorizationCode} {l : List Area}
    (hl : l.contains .codes = false) (hl' : l.contains .revoked = false)
    (hl'' : l.contains .refreshTokens = false) :
    (replayMonitor recorded).Quiet (Call.In l) := by
  intro g c hc
  unfold Call.In at hc
  cases c
  case findByCode | consumeCode | saveCode => exact absurd (hl.symm.trans hc) (by decide)
  case saveRevoked => exact absurd (hl'.symm.trans hc) (by decide)
  case findByTokenHash | consumeRefreshToken =>
      exact absurd (hl''.symm.trans hc) (by decide)
  all_goals exact ⟨trivial, fun _ _ => rfl⟩

/-- Both recorded tokens are revoked. -/
def Revocation.Done (g : Revocation) (u : TokenUseCase) (recorded : AuthorizationCode) :
    Prop :=
  (recorded.accessTokenHash ≠ "" → u.revokedTokens = true → g.revoked = true) ∧
    (recorded.refreshTokenHash ≠ "" → g.consumed = true)

/-- The request presents the code where a consumed one is a replay: at the
grant of authorization codes, or at that of pre-authorized codes when the
code is one. -/
def Replays (code : AuthorizationCode) (request : TokenRequest) : Prop :=
  (request.grantType = "authorization_code" ∧ request.code = code.code) ∨
    (request.grantType = preAuthorizedCodeGrantType ∧
      request.preAuthorizedCode = code.code ∧ code.preAuthorized = true)

section
variable (u : TokenUseCase) {recorded : AuthorizationCode}

theorem revokeIssuedTokens_done {g : Revocation} (hread : g.read = true) :
    wp (replayMonitor recorded) (u.revokeIssuedTokens recorded)
      (fun g' _ => g'.Done u recorded) (fun _ _ => False) g := by
  unfold TokenUseCase.revokeIssuedTokens
  refine (wp_bind _ _).mpr (wp_mono (Q := fun g' _ => g'.read = true ∧
    (recorded.accessTokenHash ≠ "" → u.revokedTokens = true → g'.revoked = true))
    (E := fun _ _ => False) ?_ ?_ fun _ _ h => h)
  · split
    · refine wp_op.mpr ⟨trivial, fun _ _ => ⟨hread, fun _ _ => ?_⟩⟩
      simp [replayMonitor, hread]
    · rename_i hnot
      exact wp_pure.mpr ⟨hread, fun hhash hinjected => absurd ⟨hhash, hinjected⟩ hnot⟩
  · rintro g' - ⟨hread', hrevoked⟩
    split
    · refine wp_op.mpr ⟨trivial, fun _ _ => ⟨hrevoked, fun _ => ?_⟩⟩
      simp [replayMonitor, hread']
    · rename_i hnot
      exact wp_pure.mpr ⟨hrevoked, fun hhash => absurd hhash hnot⟩

theorem checkCode_done (hconsumed : recorded.isConsumed = true) {request : TokenRequest}
    (hcode : request.code = recorded.code) :
    wp (replayMonitor recorded) (u.checkCode request) (fun _ _ => False)
      (fun g _ => g.Done u recorded) {} := by
  unfold TokenUseCase.checkCode
  refine wp_orRefuse_bind.mpr (wp_op.mpr ⟨trivial, fun found hfound => ?_⟩)
  have hsome : found = some recorded := hfound hcode
  refine ⟨fun hnone => absurd (hsome.symm.trans hnone) (Option.some_ne_none _),
    fun row hrow => ?_⟩
  cases hsome.symm.trans hrow
  rw [if_pos hconsumed]
  refine (wp_bind _ _).mpr (wp_mono (revokeIssuedTokens_done u ?_) (fun _ _ h => wp_fail.mpr h)
    fun _ _ h => absurd h id)
  simp [replayMonitor, hcode]

theorem checkPreAuthorizedCode_done (hconsumed : recorded.isConsumed = true)
    (hpre : recorded.preAuthorized = true) {request : TokenRequest}
    (hcode : request.preAuthorizedCode = recorded.code) :
    wp (replayMonitor recorded) (u.checkPreAuthorizedCode request) (fun _ _ => False)
      (fun g _ => g.Done u recorded) {} := by
  unfold TokenUseCase.checkPreAuthorizedCode
  refine wp_ask_bind.mpr ⟨trivial, fun now _ => ?_⟩
  refine (wp_bind _ _).mpr (wp_mono (Q := fun _ _ => False) ?_ (fun _ _ h => absurd h id)
    fun _ _ h => h)
  unfold TokenUseCase.resolvePreAuthorizedCode
  refine wp_orRefuse_bind.mpr (wp_op.mpr ⟨trivial, fun found hfound => ?_⟩)
  have hsome : found = some recorded := hfound hcode
  refine ⟨fun hnone => absurd (hsome.symm.trans hnone) (Option.some_ne_none _),
    fun row hrow => ?_⟩
  cases hsome.symm.trans hrow
  refine wp_refuseIf_bind.mpr ⟨fun h => absurd hpre h, fun _ => ?_⟩
  rw [if_pos hconsumed]
  refine (wp_bind _ _).mpr (wp_mono (revokeIssuedTokens_done u ?_) (fun _ _ h => wp_fail.mpr h)
    fun _ _ h => absurd h id)
  simp [replayMonitor, hcode]

/-- A replay ends in a refusal, with both tokens revoked. -/
theorem execute_done (hconsumed : recorded.isConsumed = true) {request : TokenRequest}
    (hreplays : Replays recorded request) :
    wp (replayMonitor recorded) (u.execute request) (fun _ _ => False)
      (fun g _ => g.Done u recorded) {} := by
  obtain ⟨clientId, hexec⟩ := u.execute_cases request
  rw [hexec]
  unfold TokenUseCase.dispatch
  rcases hreplays with ⟨hgrant, hcode⟩ | ⟨hgrant, hcode, hpre⟩
  · rw [if_pos hgrant]
    exact (wp_bind _ _).mpr (wp_mono (checkCode_done u hconsumed hcode)
      (fun _ _ h => absurd h id) fun _ _ h => h)
  · have hother : ∀ {g : String}, g ≠ preAuthorizedCodeGrantType → request.grantType ≠ g :=
      fun hne heq => hne (heq.symm.trans hgrant)
    rw [if_neg (hother (by decide)), if_neg (hother (by decide)), if_neg (hother (by decide)),
      if_neg (hother (by decide)), if_neg (hother (by decide)), if_neg (hother (by decide)),
      if_pos hgrant]
    exact (wp_bind _ _).mpr (wp_mono (checkPreAuthorizedCode_done u hconsumed hpre hcode)
      (fun _ _ h => absurd h id) fun _ _ h => h)

end

/-- As long as the request has not read the code, its ghost is blank. -/
theorem revocation_unread {recorded : AuthorizationCode} {j : ι}
    {tr : List (Event ι Call World)}
    (h : ∀ e ∈ tr, e.pid = j → e.call ≠ .findByCode recorded.code) :
    ghost (machine ports) (replayMonitor recorded) {} j tr = {} := by
  induction tr with
  | nil => rfl
  | cons e past ih =>
      have hpast := ih fun e' he' => h e' (List.mem_cons_of_mem _ he')
      have hcall := h e List.mem_cons_self
      unfold ghost
      split
      · rename_i hpid
        rw [hpast]
        obtain ⟨pid, c, pre⟩ := e
        cases c
        case findByCode k =>
            have hk : k ≠ recorded.code := fun hk => hcall hpid (by rw [hk])
            simp [replayMonitor, hk]
        all_goals rfl
      · exact hpast

/-- The calls behind the flags. -/
theorem exists_saveRevoked {recorded : AuthorizationCode} {j : ι}
    {tr : List (Event ι Call World)}
    (h : (ghost (machine ports) (replayMonitor recorded) {} j tr).revoked = true) :
    ∃ e ∈ tr, ∃ row, e.call = .saveRevoked row ∧
      row.tokenHash = recorded.accessTokenHash := by
  obtain ⟨later, ⟨pid, c, pre⟩, past, htr, -, hbefore, hafter⟩ :=
    exists_establishing (P := fun g : Revocation => g.revoked = true)
      (fun h => Bool.false_ne_true h) h
  refine ⟨⟨pid, c, pre⟩, by rw [htr]; simp, ?_⟩
  cases c
  case saveRevoked row =>
      refine ⟨row, rfl, ?_⟩
      rcases Bool.or_eq_true_iff.mp hafter with h | h
      · exact absurd h hbefore
      · exact of_decide_eq_true (Bool.and_eq_true_iff.mp h).2
  all_goals exact absurd hafter hbefore

theorem exists_consumeRefreshToken {recorded : AuthorizationCode} {j : ι}
    {tr : List (Event ι Call World)}
    (h : (ghost (machine ports) (replayMonitor recorded) {} j tr).consumed = true) :
    ∃ e ∈ tr, e.call = .consumeRefreshToken recorded.refreshTokenHash := by
  obtain ⟨later, ⟨pid, c, pre⟩, past, htr, -, hbefore, hafter⟩ :=
    exists_establishing (P := fun g : Revocation => g.consumed = true)
      (fun h => Bool.false_ne_true h) h
  refine ⟨⟨pid, c, pre⟩, by rw [htr]; simp, ?_⟩
  cases c
  case consumeRefreshToken k =>
      rcases Bool.or_eq_true_iff.mp hafter with h | h
      · exact absurd h hbefore
      · have hk : k = recorded.refreshTokenHash :=
          of_decide_eq_true (Bool.and_eq_true_iff.mp h).2
        rw [hk]
  all_goals exact absurd hafter hbefore

/-! ## Revocations last -/

theorem revoked_stays {ε α : Type} {start cfg : Config ι Call Reply ε α World}
    {tr : List (Event ι Call World)} (hrun : Run (machine ports) start tr cfg) :
    ∀ e ∈ tr, ∀ row, e.call = .saveRevoked row →
      (cfg.store.revoked.find row.tokenHash).isSome = true := by
  refine hrun.stable (fun past v => ∀ e ∈ past, ∀ row, e.call = .saveRevoked row →
      (v.revoked.find row.tokenHash).isSome = true)
    (fun _ he => absurd he List.not_mem_nil) ?_ ?_
    (show ∀ e ∈ tr, True from fun _ _ => trivial)
  · rintro past v v' h ⟨t, -, rfl⟩
    exact h
  · intro past v i c h _ e he row hcall
    rcases List.mem_cons.mp he with rfl | hmem
    · dsimp only at hcall
      subst hcall
      show ((v.revoked.save row).find row.tokenHash).isSome = true
      rw [Table.find_save_self]
      rfl
    · have hbefore := h e hmem row hcall
      show ((exec ports c v).2.revoked.find row.tokenHash).isSome = true
      rw [exec_revoked]
      cases c
      case saveRevoked saved =>
          rw [Table.find_save]
          split
          · rfl
          · exact hbefore
      all_goals exact hbefore

theorem spent_stays {ε α : Type} {start cfg : Config ι Call Reply ε α World}
    {tr : List (Event ι Call World)} {h : String}
    (hrun : Run (machine ports) start tr cfg)
    (hne : ∀ e ∈ tr, ∀ row, e.call = .saveRefreshToken row → row.tokenHash ≠ h) :
    (∃ e ∈ tr, e.call = .consumeRefreshToken h) → RefreshSpent h cfg.store := by
  refine hrun.stable (fun past v => (∃ e ∈ past, e.call = .consumeRefreshToken h) →
    RefreshSpent h v) (fun ⟨_, he, _⟩ => absurd he List.not_mem_nil) ?_ ?_ hne
  · rintro past v v' hspent ⟨t, -, rfl⟩
    exact hspent
  · rintro past v i c hspent hcond ⟨e, he, hcall⟩
    refine RefreshSpent.exec hcond ?_
    rcases List.mem_cons.mp he with rfl | hmem
    · exact .inr hcall
    · exact .inl (hspent ⟨e, hmem, hcall⟩)

/-- The refresh token of a request that has ended is not stored again: the
values drawn have digests of their own. -/
theorem saves_after {s : Server} {w : World} {requests : ι → Request}
    (hinj : Function.Injective fun n => tokenHash s.token.platform (ports.tokenUrlsafe n))
    {tr tr' : List (Event ι Call World)}
    {cfg cfg' : Config ι Call Reply (Stop TokenError) Answer World}
    (hrun : Run (machine ports) (s.traffic w requests) tr cfg)
    (hrun' : Run (machine ports) cfg tr' cfg') {i : ι} {a : Answer}
    (hi : cfg.procs i = .pure a) {d : Event ι Call World} (hd : d ∈ tr) (hpid : d.pid = i)
    (hdraw : d.call = .tokenUrlsafe) :
    ∀ e ∈ tr', ∀ row, e.call = .saveRefreshToken row →
      row.tokenHash ≠ tokenHash s.token.platform (ports.tokenUrlsafe d.pre.draws) := by
  intro e he row hsave heq
  have hall := hrun.trans hrun'
  obtain ⟨later, past, htr⟩ := List.append_of_mem he
  have hsplit : tr' ++ tr = later ++ e :: (past ++ tr) := by rw [htr]; simp
  obtain ⟨d', hd', hpid', hdraw', hhash⟩ := s.traffic_draws hall hsplit hsave
  have hn : d'.pre.draws = d.pre.draws := hinj (hhash.symm.trans heq)
  have hsame : d' = d :=
    (draws_once hall d.pre.draws).unique (by rw [hsplit]; simp [hd'])
      (List.mem_append_right _ hd) ⟨hdraw', hn⟩ ⟨hdraw, rfl⟩
  exact hrun'.silent hi e he (by rw [← hpid', hsame, hpid])

/-- Replaying a code revokes what its exchange issued: once a request that
reads the code after the exchange has ended is over, the access token is
on the denylist and the refresh token is consumed. -/
theorem replay_revokes_first_exchange (ports : Ports) (s : Server) (w : World)
    (requests : ι → Request) (code : String)
    (hinj : Function.Injective fun n => tokenHash s.token.platform (ports.tokenUrlsafe n))
    (hdigest : ∀ token, tokenHash s.token.platform token ≠ "")
    {tr tr' : List (Event ι Call World)}
    {cfg cfg' : Config ι Call Reply (Stop TokenError) Answer World}
    (hrun : Run (machine ports) (s.traffic w requests) tr cfg)
    (hrun' : Run (machine ports) cfg tr' cfg')
    (hfresh : ∀ e ∈ tr' ++ tr, ConsumesCode code e → ¬ CodeSpent code e.pre)
    {i j : ι} {a b : TokenRequest} (hi : requests i = .token a) (hj : requests j = .token b)
    (ha : a.grantType = "authorization_code" ∧ a.code = code) {x : TokenResponse}
    (hx : cfg.procs i = .pure (.tokens x))
    (hb : ∀ row, cfg.store.codes.find code = some row → Replays row b)
    (hunread : ∀ e ∈ tr, e.pid = j → e.call ≠ .findByCode code)
    (hended : (cfg'.procs j).ended = true) :
    (s.token.revokedTokens = true →
      (cfg'.store.revoked.find (tokenHash s.token.platform x.accessToken)).isSome = true) ∧
    (x.refreshToken ≠ "" →
      RefreshSpent (tokenHash s.token.platform x.refreshToken) cfg'.store) := by
  have hall := hrun.trans hrun'
  -- the exchange recorded its tokens, and the record stands from then on
  obtain ⟨hinv, hwp⟩ := recording hrun fun e he => hfresh e (List.mem_append_right _ he)
  have hanswer := hwp i
  rw [hx] at hanswer
  obtain ⟨⟨row, hrow, hcode, hrecords⟩, hdrawn⟩ :=
    (wp_pure.mp hanswer a x hi rfl (.inl ha)).2 ha.1
  obtain ⟨hconsumed, hfound⟩ := hinv.stands i row hrow
  have hstands : ∀ e ∈ tr', e.pre.codes.find code = some row := by
    intro e he
    obtain ⟨later, past, htr⟩ := List.append_of_mem he
    have hsplit : tr' ++ tr = later ++ e :: (past ++ tr) := by rw [htr]; simp
    obtain ⟨mid, hmid, hpre⟩ := hall.at_event hsplit
    have hkeep := (recording hmid fun e' he' => hfresh e' (by rw [hsplit]; simp_all)).1
    have hsilent : ∀ e' ∈ past, e'.pid ≠ i := fun e' he' =>
      hrun'.silent hx e' (by rw [htr]; simp [he'])
    rw [← hpre]
    refine (hkeep.stands i row ?_).2
    rw [ghost_append, ghost_of_silent hsilent]
    exact hrow
  -- the replay reads the record, and revokes both tokens
  have hreplays : Replays row b := hb row hfound
  have hstart : wp (replayMonitor row) ((s.traffic w requests).procs j)
      (fun g _ => g.Done s.token row) (fun g _ => g.Done s.token row) {} := by
    show wp (replayMonitor row) (s.serve (requests j)) _ _ _
    rw [hj]
    exact (wp_bind _ _).mpr (wp_mono (execute_done s.token hconsumed hreplays)
      (fun _ _ h => absurd h id) fun _ _ h => h)
  have hdone := wp_ended (hall.process hstart (by
    intro e he hpid g
    obtain ⟨pid, c, pre⟩ := e
    cases c
    case findByCode k =>
        intro hk
        rcases List.mem_append.mp he with hlater | hearlier
        · have hread : pre.codes.find code = some row := hstands _ hlater
          rw [← hcode, ← hk] at hread
          exact hread
        · exact absurd (by rw [hk, hcode]) (hunread _ hearlier hpid)
    all_goals trivial)) hended
  rw [ghost_append, revocation_unread (by rw [hcode]; exact hunread)] at hdone
  refine ⟨fun hinjected => ?_, fun hrefresh => ?_⟩
  · have hhash : row.accessTokenHash ≠ "" := by rw [hrecords.accessToken]; exact hdigest _
    obtain ⟨e, he, revoked, hcall, hrevoked⟩ :=
      exists_saveRevoked (hdone.1 hhash hinjected)
    have hstays := revoked_stays hrun' e he revoked hcall
    rwa [hrevoked, hrecords.accessToken] at hstays
  · have hhash : row.refreshTokenHash = tokenHash s.token.platform x.refreshToken := by
      rw [hrecords.refreshToken, if_neg hrefresh]
    have hset : row.refreshTokenHash ≠ "" := by rw [hhash]; exact hdigest _
    obtain ⟨e, he, hcall⟩ := exists_consumeRefreshToken (hdone.2 hset)
    obtain ⟨d, hd, hpid, hdraw, hvalue⟩ := exists_drawn (hdrawn hrefresh)
    rw [hhash] at hcall
    refine spent_stays hrun' ?_ ⟨e, he, hcall⟩
    rw [hvalue]
    exact saves_after hinj hrun hrun' hx hd hpid hdraw

end

/-! ## A replayed code, and a renewal before it -/

namespace Sample

def offlineCode : AuthorizationCode :=
  { authorizationCode with scopes := {Scope.openid, Scope.offlineAccess} }

def offlineWorld : World := { world with codes := Table.empty.save offlineCode }

/-- An exchange, a renewal with the refresh token it issues, a replay. -/
inductive Visit where
  | exchange | renewal | replay
  deriving DecidableEq

def replayRequests : Visit → Request
  | .exchange => .token codeRequest
  | .renewal => .token { refreshRequest with refreshToken := "v" }
  | .replay => .token codeRequest

def replayTraffic : Config Visit Call Reply (Stop TokenError) Answer World :=
  server.traffic offlineWorld replayRequests

/-- After the exchange and the renewal, and after the replay. -/
def beforeReplay : List (Event Visit Call World) ×
    Config Visit Call Reply (Stop TokenError) Answer World :=
  Config.schedule (machine ports) (List.replicate 12 .exchange ++ List.replicate 12 .renewal)
    ([], replayTraffic)

def afterReplay : List (Event Visit Call World) ×
    Config Visit Call Reply (Stop TokenError) Answer World :=
  Config.schedule (machine ports) (List.replicate 12 .replay) ([], beforeReplay.2)

theorem run_beforeReplay :
    Run (machine ports) replayTraffic beforeReplay.1 beforeReplay.2 :=
  Run.ofSchedule _ _ _

theorem run_afterReplay :
    Run (machine ports) beforeReplay.2 afterReplay.1 afterReplay.2 :=
  Run.ofSchedule _ _ _

theorem replay_unstarted : ∀ e ∈ beforeReplay.1, e.pid ≠ .replay := by decide +kernel

theorem replay_ended : (afterReplay.2.procs .replay).ended = true := by decide +kernel

/-- The exchange and the renewal issue the refresh tokens `v` and `v__`. -/
theorem issued_beforeReplay :
    ∃ x y, beforeReplay.2.procs .exchange = .pure (.tokens x) ∧ x.refreshToken = "v" ∧
      beforeReplay.2.procs .renewal = .pure (.tokens y) ∧ y.refreshToken = "v__" := by
  have hfirst : (issued (beforeReplay.2.procs .exchange)).map TokenResponse.refreshToken
      = some "v" := by decide +kernel
  have hnext : (issued (beforeReplay.2.procs .renewal)).map TokenResponse.refreshToken
      = some "v__" := by decide +kernel
  obtain ⟨x, hx, hv⟩ := Option.map_eq_some_iff.mp hfirst
  obtain ⟨y, hy, hv'⟩ := Option.map_eq_some_iff.mp hnext
  exact ⟨x, y, eq_of_issued_some hx, hv, eq_of_issued_some hy, hv'⟩

end Sample

/-- The replay of an exchanged code puts the access token on the denylist and
spends the refresh token. -/
theorem replay_revokes_first_exchange_sequential :
    ∃ x, Sample.beforeReplay.2.procs .exchange = .pure (.tokens x) ∧ x.refreshToken = "v" ∧
      (Sample.afterReplay.2.store.revoked.find
        (tokenHash Sample.platform x.accessToken)).isSome = true ∧
      RefreshSpent (tokenHash Sample.platform "v") Sample.afterReplay.2.store := by
  obtain ⟨x, y, hx, hv, -, -⟩ := Sample.issued_beforeReplay
  have hfresh : ∀ e ∈ Sample.afterReplay.1 ++ Sample.beforeReplay.1,
      ConsumesCode "c" e → ¬ CodeSpent "c" e.pre := by decide +kernel
  have hreplays : ∀ row, Sample.beforeReplay.2.store.codes.find "c" = some row →
      Replays row Sample.codeRequest := by
    intro row hrow
    exact .inl ⟨rfl, (Table.find_key hrow).symm⟩
  obtain ⟨hrevoked, hspent⟩ := replay_revokes_first_exchange Sample.ports Sample.server
    Sample.offlineWorld Sample.replayRequests "c" Sample.drawn_inj Sample.digest_ne
    Sample.run_beforeReplay Sample.run_afterReplay hfresh (i := .exchange) (j := .replay)
    rfl rfl ⟨rfl, rfl⟩ hx hreplays
    (fun e he hpid => absurd hpid (Sample.replay_unstarted e he)) Sample.replay_ended
  refine ⟨x, hx, hv, hrevoked rfl, ?_⟩
  rw [← hv]
  refine hspent ?_
  rw [hv]
  decide

/-- A refresh token renewed before the replay has a successor the replay
leaves usable. -/
theorem successor_survives_replay :
    ¬ ∀ (ports : Ports) (s : Server) (w : World) (requests : Sample.Visit → Request)
      (code : String) (tr tr' : List (Event Sample.Visit Call World))
      (cfg cfg' : Config Sample.Visit Call Reply (Stop TokenError) Answer World),
      Run (machine ports) (s.traffic w requests) tr cfg → Run (machine ports) cfg tr' cfg' →
      ∀ i j k a b c, requests i = .token a → requests j = .token b → requests k = .token c →
        PresentsCode code a → PresentsCode code c →
        ∀ x y, cfg.procs i = .pure (.tokens x) → PresentsRefreshToken x.refreshToken b →
          cfg.procs j = .pure (.tokens y) → (∀ e ∈ tr, e.pid ≠ k) → (cfg'.procs k).ended = true →
          RefreshSpent (tokenHash s.token.platform y.refreshToken) cfg'.store := by
  intro h
  obtain ⟨x, y, hx, hv, hy, hv'⟩ := Sample.issued_beforeReplay
  have hspent := h Sample.ports Sample.server Sample.offlineWorld Sample.replayRequests "c"
    _ _ _ _ Sample.run_beforeReplay Sample.run_afterReplay .exchange .renewal .replay _ _ _
    rfl rfl rfl (.inl ⟨rfl, rfl⟩) (.inl ⟨rfl, rfl⟩) x y hx ⟨rfl, hv.symm⟩ hy
    Sample.replay_unstarted Sample.replay_ended
  rw [hv'] at hspent
  revert hspent
  decide +kernel

end PurIdentityServer

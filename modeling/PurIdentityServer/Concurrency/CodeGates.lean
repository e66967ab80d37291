import PurIdentityServer.Application.AuthorizeCalls
import PurIdentityServer.Application.TokenAcceptance
import PurIdentityServer.Application.TokenCalls

/-!
# CodeGates — what a code asks of whoever redeems it

The codes of the authorization endpoint and those of credential offers lie
in one table, and two grants of the token endpoint redeem them.
`gates_hold` says, for every run of the three endpoints, that no tokens
are issued past the challenge or the transaction code of a code, and that
nothing but an error answers a value that does not match, unless a
verifier that is not ASCII reaches the digest (`verifier_raises`).
-/

namespace PurIdentityServer

open Effects

/-! ## Codes and their gates -/

/-- A code as the authorization endpoint or a credential offer creates it. -/
structure Minted (row : AuthorizationCode) : Prop where
  /-- the code of an offer is made out to no client, and has no challenge -/
  offered : row.preAuthorized = true → row.clientId = "" ∧ row.codeChallenge = ""
  guarded : row.txCodeHash ≠ "" → row.preAuthorized = true

/-- The verifier matches the challenge of the code, under the method it records. -/
def VerifierMatches (p : Platform) (row : AuthorizationCode) (verifier : String) : Prop :=
  verifier ≠ "" ∧
    if p.upper row.codeChallengeMethod = "S256" then
      Text.isAscii verifier = true ∧ p.sha256Base64Url verifier = row.codeChallenge
    else verifier = row.codeChallenge

/-- The transaction code is the one whose digest the code records. -/
def TxCodeMatches (p : Platform) (row : AuthorizationCode) (txCode : String) : Prop :=
  txCode ≠ "" ∧ p.sha256Hex txCode = row.txCodeHash

/-- The request presents what the code asks for. -/
structure PassesGates (p : Platform) (row : AuthorizationCode) (request : TokenRequest) :
    Prop where
  txCode : row.txCodeHash ≠ "" → TxCodeMatches p row request.txCode
  verifier : row.codeChallenge ≠ "" → VerifierMatches p row request.codeVerifier

/-- The verifier is to be digested and cannot be encoded. -/
def Undecodable (p : Platform) (row : AuthorizationCode) (request : TokenRequest) : Prop :=
  row.codeChallenge ≠ "" ∧ p.upper row.codeChallengeMethod = "S256" ∧
    Text.isAscii request.codeVerifier = false

/-- A platform tells the verifiers that match. -/
theorem verifyPkce_ok_iff {u : TokenUseCase} {row : AuthorizationCode} {verifier : String} :
    u.verifyPkce row verifier = .ok true ↔ VerifierMatches u.platform row verifier := by
  unfold TokenUseCase.verifyPkce VerifierMatches
  split
  · rename_i hempty
    simp [hempty]
  · rename_i hverifier
    split
    · split
      · rename_i hascii
        simp [hverifier, hascii]
      · rename_i hascii
        simp [hascii]
    · simp [hverifier]

theorem verifyPkce_error {u : TokenUseCase} {row : AuthorizationCode} {verifier : String}
    {x : Raised} (h : u.verifyPkce row verifier = .error x) :
    u.platform.upper row.codeChallengeMethod = "S256" ∧ Text.isAscii verifier = false := by
  unfold TokenUseCase.verifyPkce at h
  split at h
  · cases h
  split at h
  · rename_i hmethod
    split at h
    · cases h
    · rename_i hascii
      exact ⟨hmethod, by simpa using hascii⟩
  · cases h

/-! ## The endpoints -/

/-- A deployment of the endpoints that create and redeem codes. -/
structure CodeSite (κ : Type) where
  tokens : TokenUseCase
  authorize : AuthorizeUseCase
  resources : ResourceServer κ

/-- What reaches the deployment; the rest of the server saves no code. -/
inductive CodeArrival where
  | token (request : TokenRequest)
  | authorize (request : AuthorizeRequest)
  | offer (request : BearerRequest) (configurationIds : List String) (subject : String)
      (txCode : Bool) (transactionCode : String)
  | other (p : M Empty Unit) (savesNoCode : p.Uses fun c => ∀ row, c ≠ .saveCode row)

inductive CodeAnswer where
  | token (result : Except TokenError TokenResponse)
  | authorize (result : Except AuthorizeError AuthorizeRedirect)
  | offer (result : AccessResult ResourceResponse)
  | other

namespace CodeSite

variable {κ : Type} (s : CodeSite κ)

/-- `CredentialOfferUseCase.create`, with what it draws and saves. -/
def createOffer (request : BearerRequest) (configurationIds : List String) (subject : String)
    (txCode : Bool) (transactionCode : String) : M Empty (AccessResult ResourceResponse) := do
  let now ← ask .now
  let code ← ask .tokenUrlsafe
  let offerId ← ask .tokenUrlsafe
  match s.resources.createOffer now ⟨code, offerId, transactionCode⟩ request configurationIds
      subject txCode with
  | .ok (.offer offer row) => do
      let _ ← ask (.saveCode row)
      pure (.ok (.offer offer row))
  | answer => pure answer

def serve : CodeArrival → M Empty CodeAnswer
  | .token request => do
      let result ← outcome (s.tokens.execute request)
      pure (.token result)
  | .authorize request => do
      let result ← outcome (s.authorize.execute request)
      pure (.authorize result)
  | .offer request configurationIds subject txCode transactionCode => do
      let result ← s.createOffer request configurationIds subject txCode transactionCode
      pure (.offer result)
  | .other p _ => do
      p
      pure .other

/-- The requests before any of them is served. -/
def requests {ι : Type} (w : World) (arrivals : ι → CodeArrival) :
    Config ι Call Reply (Stop Empty) CodeAnswer World where
  store := w
  procs := fun i => s.serve (arrivals i)

end CodeSite

/-! ## What is watched -/

abbrev CallLog := List ((c : Call) × Reply c)

/-- The codes found are minted, a client found is not called `""`, and the codes saved are
minted. -/
def codeLog : Monitor Call Reply CallLog :=
  Monitor.log
    (fun c r =>
      match c, r with
      | .findByCode _, found => ∀ row, found = some row → Minted row
      | .findClient id, found => ∀ client, found = some client → client.clientId = id ∧ id ≠ ""
      | _, _ => True)
    fun _ c => ∀ row, c = .saveCode row → Minted row

/-- The calls that look no code up and save minted ones. -/
def Call.Mints (c : Call) : Prop :=
  (∀ code, c ≠ .findByCode code) ∧ ∀ row, c = .saveCode row → Minted row

theorem Call.Mints.of_area {l : List Area} (hl : l.contains .codes = false) (c : Call)
    (hc : c.In l) : c.Mints := by
  unfold Call.In at hc
  constructor
  · rintro code rfl
    exact absurd (hl.symm.trans hc) (by decide)
  · rintro row rfl
    exact absurd (hl.symm.trans hc) (by decide)

/-- A call that is not about codes. -/
theorem Call.Mints.of_area_ne {c : Call} (harea : c.area ≠ .codes) : c.Mints := by
  constructor
  · rintro code rfl
    exact harea rfl
  · rintro row rfl
    exact absurd rfl harea

theorem Call.Mints.save {row : AuthorizationCode} (h : Minted row) : (Call.saveCode row).Mints := by
  refine ⟨fun _ hlookup => (nomatch hlookup), fun _ hsave => ?_⟩
  cases hsave
  exact h

theorem Call.Mints.consume (code : String) : (Call.consumeCode code).Mints :=
  ⟨fun _ hlookup => (nomatch hlookup), fun _ hsave => nomatch hsave⟩

theorem mints_of_uses {ε α : Type} {l : List Area} {p : M ε α} (hp : p.Uses (Call.In l))
    (hl : l.contains .codes = false) : p.Uses Call.Mints :=
  hp.mono (Call.Mints.of_area hl)

/-- The codes a request has looked up. -/
def LooksUp (log : CallLog) (row : AuthorizationCode) : Prop :=
  ∃ code, (⟨.findByCode code, some row⟩ : (c : Call) × Reply c) ∈ log

/-- A request has passed the gates of the codes it has looked up, for a client that may
redeem them. -/
def Redeems (p : Platform) (request : TokenRequest) (log : CallLog) : Prop :=
  ∀ row, LooksUp log row → PassesGates p row request ∧
    ∃ client, (⟨.findClient request.clientId, some client⟩ : (c : Call) × Reply c) ∈ log ∧
      (client.clientType = .publicClient → row.preAuthorized = false → row.codeChallenge ≠ "")

/-- How a request ends without tokens: an exception comes past the gates, or from a verifier
that cannot be encoded. -/
def Interrupted (p : Platform) (request : TokenRequest) (log : CallLog) :
    Stop TokenError → Prop
  | .refused _ => True
  | .raised _ => ∀ row, LooksUp log row →
      PassesGates p row request ∨ Undecodable p row request

theorem LooksUp.of_gains {log log' : CallLog} {row : AuthorizationCode}
    (hgains : Gains Call.Mints log log') (h : LooksUp log' row) : LooksUp log row := by
  obtain ⟨code, hmem⟩ := h
  exact ⟨code, hgains.mem_of_not hmem fun hmints => hmints.1 code rfl⟩

section
variable {p : Platform} {request : TokenRequest} {log log' : CallLog}

theorem Redeems.of_gains (h : Redeems p request log) (hgains : Gains Call.Mints log log') :
    Redeems p request log' := by
  intro row hrow
  obtain ⟨hgates, client, hclient, hpublic⟩ := h row (hrow.of_gains hgains)
  exact ⟨hgates, client, hgains.mem hclient, hpublic⟩

theorem Redeems.interrupted (h : Redeems p request log) (stop : Stop TokenError) :
    Interrupted p request log stop := by
  cases stop with
  | refused e => trivial
  | raised x => exact fun row hrow => .inl (h row hrow).1

/-- The rest of a request that has passed the gates. -/
theorem wp_redeemed {α : Type} {q : M TokenError α} (hq : q.Uses Call.Mints)
    (h : Redeems p request log) :
    wp codeLog q (fun log' _ => Redeems p request log') (Interrupted p request) log := by
  refine wp_mono (wp_log_of_uses hq fun _ c hc => hc.2) ?_ ?_
  · exact fun log' _ hgains => h.of_gains hgains
  · exact fun log' stop hgains => (h.of_gains hgains).interrupted stop

theorem wp_redeemed_bind {α β : Type} {q : M TokenError β} {f : β → M TokenError α}
    {Q : CallLog → α → Prop} (hq : q.Uses Call.Mints) (h : Redeems p request log)
    (hf : ∀ log' b, Redeems p request log' →
      wp codeLog (f b) Q (Interrupted p request) log') :
    wp codeLog (q >>= f) Q (Interrupted p request) log :=
  (wp_bind _ _).mpr (wp_mono (wp_redeemed hq h) hf fun _ _ h => h)

theorem redeems_nil : Redeems p request [] := by
  rintro row ⟨code, hmem⟩
  cases hmem

end

/-! ## The checks of the two grants -/

/-- Stopping with an error response. -/
def Refused (stop : Stop TokenError) : Prop := ∃ e, stop = .refused e

theorem Refused.interrupted {p : Platform} {request : TokenRequest} {log : CallLog}
    {stop : Stop TokenError} (h : Refused stop) : Interrupted p request log stop := by
  obtain ⟨e, rfl⟩ := h
  trivial

namespace TokenUseCase

variable (u : TokenUseCase)

theorem revokeIssuedTokens_refused (row : AuthorizationCode) :
    (u.revokeIssuedTokens row).StopsWith Refused := by
  unfold revokeIssuedTokens
  refine Prog.stopsWith_bind ?_ fun _ => ?_
  · split
    · exact Prog.stopsWith_op _ _
    · trivial
  · split
    · exact Prog.stopsWith_op _ _
    · trivial

theorem authenticateClient_refused (client : Client) (request : TokenRequest) :
    (u.authenticateClient client request).StopsWith Refused := by
  refine Prog.stopsWith_bind (Prog.stopsWith_stopIf _ ⟨_, rfl⟩) fun _ => ?_
  refine Prog.stopsWith_bind ?_ fun detail => ?_
  · unfold PurIdentityServer.authenticateClient
    split
    case h_3 | h_4 =>
      unfold authenticateAssertion
      split
      · trivial
      split
      · trivial
      split
      · trivial
      refine Prog.stopsWith_bind (Prog.stopsWith_op _ _) fun claims => ?_
      cases claims with
      | none => trivial
      | some claims =>
          dsimp only
          split <;> trivial
    case h_7 => trivial
    all_goals split <;> trivial
  · cases detail with
    | none => trivial
    | some detail => exact ⟨_, rfl⟩

section
variable {u} {request : TokenRequest} {log : CallLog} {α : Type}
  {Q : CallLog → α → Prop}

/-- A client the request names is found, or the request is refused. -/
theorem wp_activeClient_bind {description : String} {f : Client → M TokenError α}
    (hf : ∀ client, client.clientId = request.clientId → request.clientId ≠ "" →
      wp codeLog (f client) Q (Interrupted u.platform request)
        (⟨.findClient request.clientId, some client⟩ :: log)) :
    wp codeLog (activeClient request.clientId description >>= f) Q
      (Interrupted u.platform request) log := by
  rw [wp_bind]
  unfold activeClient
  refine wp_orRefuse_bind.mpr (wp_op.mpr ⟨(by intro _ h; cases h), fun found hfound =>
    ⟨fun _ => trivial, ?_⟩⟩)
  rintro client rfl
  refine wp_refuseIf_bind.mpr ⟨fun _ => trivial, fun _ => ?_⟩
  obtain ⟨hname, hne⟩ := hfound client rfl
  exact wp_pure.mpr (hf client hname hne)

/-- A part of the checks that refuses or goes on. -/
theorem wp_refusing_bind {β : Type} {q : M TokenError β} {f : β → M TokenError α}
    {l : List Area} (hq : q.Uses (Call.In l)) (hl : l.contains .codes = false)
    (hstop : q.StopsWith Refused)
    (hf : ∀ log' b, Gains Call.Mints log log' →
      wp codeLog (f b) Q (Interrupted u.platform request) log') :
    wp codeLog (q >>= f) Q (Interrupted u.platform request) log :=
  wp_log_bind (mints_of_uses hq hl) (fun _ _ hc => hc.2) hstop
    (fun _ _ _ hrefused => hrefused.interrupted) hf

end

/-- What the checks of an exchange establish of the code they have found. -/
theorem wp_validateCodeExchange {row : AuthorizationCode} {request : TokenRequest}
    {log : CallLog} (hminted : Minted row) (hrow : ∀ row', LooksUp log row' → row' = row) :
    wp codeLog (u.validateCodeExchange row request)
      (fun log' _ => Redeems u.platform request log') (Interrupted u.platform request) log := by
  unfold validateCodeExchange
  refine wp_activeClient_bind fun client hname hne => ?_
  refine wp_refuseIf_bind.mpr ⟨fun _ => trivial, fun _ => ?_⟩
  refine wp_refusing_bind (u.authenticateClient_uses _ _) rfl
    (u.authenticateClient_refused _ _) fun log' _ hgains => ?_
  refine wp_refuseIf_bind.mpr ⟨fun _ => trivial, fun hclient => ?_⟩
  refine wp_refuseIf_bind.mpr ⟨fun _ => trivial, fun hpublic => ?_⟩
  have hfound : ∀ row', LooksUp log' row' → row' = row := by
    intro row' hlook
    obtain ⟨code, hmem⟩ := hlook.of_gains hgains
    rcases List.mem_cons.mp hmem with hmem | hmem
    · cases hmem
    · exact hrow row' ⟨code, hmem⟩
  -- a code made out to the client is no offer, and has no transaction code
  have hunguarded : row.txCodeHash = "" := by
    by_contra hhash
    have hoffered := (hminted.offered (hminted.guarded hhash)).1
    exact hne (hname.symm.trans ((not_not.mp hclient).symm.trans hoffered))
  have hredeems : (row.codeChallenge ≠ "" →
      VerifierMatches u.platform row request.codeVerifier) →
        Redeems u.platform request log' := by
    intro hmatches row' hlook
    obtain rfl := hfound row' hlook
    refine ⟨⟨fun hhash => absurd hunguarded hhash, hmatches⟩, client,
      hgains.mem List.mem_cons_self, fun htype _ hchallenge => hpublic ⟨htype, hchallenge⟩⟩
  by_cases hchallenge : row.codeChallenge = ""
  · rw [if_pos hchallenge]
    refine wp_refuseIf_bind.mpr ⟨fun _ => trivial, fun _ => ?_⟩
    exact wp_pure.mpr (hredeems fun hne => absurd hchallenge hne)
  · rw [if_neg hchallenge]
    cases hverify : u.verifyPkce row request.codeVerifier with
    | error x =>
        obtain ⟨hmethod, hascii⟩ := verifyPkce_error hverify
        refine wp_fail.mpr fun row' hlook => ?_
        obtain rfl := hfound row' hlook
        exact .inr ⟨hchallenge, hmethod, hascii⟩
    | ok matched =>
        refine wp_refuseIf_bind.mpr ⟨fun _ => trivial, fun hmatches => ?_⟩
        refine wp_pure.mpr (hredeems fun _ => verifyPkce_ok_iff.mp ?_)
        rw [hverify]
        simpa using hmatches

theorem wp_checkCode (request : TokenRequest) :
    wp codeLog (u.checkCode request)
      (fun log g => Redeems u.platform request log ∧ Minted g.stored)
      (Interrupted u.platform request) [] := by
  unfold checkCode
  refine wp_orRefuse_bind.mpr (wp_op.mpr ⟨(by intro _ h; cases h), fun found hfound =>
    ⟨fun _ => trivial, ?_⟩⟩)
  rintro row rfl
  have hminted : Minted row := hfound row rfl
  have hrow : ∀ row', LooksUp [⟨.findByCode request.code, some row⟩] row' → row' = row := by
    rintro row' ⟨code, hmem⟩
    cases List.mem_singleton.mp hmem
    rfl
  split
  · exact wp_refusing_bind (u.revokeIssuedTokens_uses row) rfl
      (u.revokeIssuedTokens_refused row) fun _ _ _ => wp_fail.mpr trivial
  refine wp_ask_bind.mpr ⟨(by intro _ h; cases h), fun now _ => ?_⟩
  refine wp_refuseIf_bind.mpr ⟨fun _ => trivial, fun _ => ?_⟩
  have hrow' : ∀ row', LooksUp [⟨.now, now⟩, ⟨.findByCode request.code, some row⟩] row' →
      row' = row := by
    rintro row' ⟨code, hmem⟩
    rcases List.mem_cons.mp hmem with hmem | hmem
    · cases hmem
    · exact hrow row' ⟨code, hmem⟩
  refine (wp_bind _ _).mpr (wp_mono (u.wp_validateCodeExchange hminted hrow') ?_
    fun _ _ h => h)
  intro log client hredeems
  refine wp_redeemed_bind (mints_of_uses (u.evaluateDpop_uses _ _ _) rfl) hredeems
    fun log' binding hredeems => ?_
  refine wp_redeemed_bind (mints_of_uses (u.effectiveResources_uses _ _) rfl) hredeems
    fun log' resources hredeems => ?_
  exact wp_pure.mpr ⟨hredeems, hminted⟩

/-- The checks of the pre-authorized grant: its codes have no challenge. -/
theorem wp_checkPreAuthorizedCode (request : TokenRequest) :
    wp codeLog (u.checkPreAuthorizedCode request)
      (fun log g => Redeems u.platform request log ∧ Minted g.stored)
      (Interrupted u.platform request) [] := by
  unfold checkPreAuthorizedCode
  refine wp_ask_bind.mpr ⟨(by intro _ h; cases h), fun now _ => ?_⟩
  rw [wp_bind]
  unfold resolvePreAuthorizedCode
  refine wp_orRefuse_bind.mpr (wp_op.mpr ⟨(by intro _ h; cases h), fun found hfound =>
    ⟨fun _ => trivial, ?_⟩⟩)
  rintro row rfl
  have hminted : Minted row := hfound row rfl
  refine wp_refuseIf_bind.mpr ⟨fun _ => trivial, fun hoffered => ?_⟩
  have hunchallenged : row.codeChallenge = "" := (hminted.offered (not_not.mp hoffered)).2
  split
  · exact wp_refusing_bind (u.revokeIssuedTokens_uses row) rfl
      (u.revokeIssuedTokens_refused row) fun _ _ _ => wp_fail.mpr trivial
  refine wp_refuseIf_bind.mpr ⟨fun _ => trivial, fun _ => ?_⟩
  refine wp_pure.mpr (wp_activeClient_bind fun client _ _ => ?_)
  refine wp_refusing_bind (u.authenticateClient_uses _ _) rfl
    (u.authenticateClient_refused _ _) fun log _ hgains => ?_
  refine wp_refuseIf_bind.mpr ⟨fun _ => trivial, fun _ => ?_⟩
  refine wp_refuseIf_bind.mpr ⟨fun _ => trivial, fun htx => ?_⟩
  have hredeems : Redeems u.platform request log := by
    intro row' hlook
    obtain ⟨code, hmem⟩ := hlook.of_gains hgains
    have hrow' : row' = row := by
      rcases List.mem_cons.mp hmem with hmem | hmem
      · cases hmem
      · rcases List.mem_cons.mp hmem with hmem | hmem
        · cases hmem
          rfl
        · cases List.mem_singleton.mp hmem
    subst hrow'
    refine ⟨⟨fun hhash => ?_, fun hchallenge => absurd hunchallenged hchallenge⟩, client,
      hgains.mem List.mem_cons_self, fun _ hplain => ?_⟩
    · -- the request was not refused for its transaction code
      by_contra hmismatch
      refine htx ⟨hhash, ?_⟩
      by_contra hmatch
      rw [not_or, not_not] at hmatch
      exact hmismatch hmatch
    · rw [not_not.mp hoffered] at hplain
      cases hplain
  refine wp_redeemed_bind (mints_of_uses (u.evaluateDpop_uses _ _ _) rfl) hredeems
    fun log' binding hredeems => ?_
  refine wp_redeemed_bind (mints_of_uses (u.effectiveResources_uses _ _) rfl) hredeems
    fun log' resources hredeems => ?_
  exact wp_pure.mpr ⟨hredeems, hminted⟩

/-! ## The grants -/

theorem redeemCode_mints {request : TokenRequest} {g : Granted AuthorizationCode}
    (h : Minted g.stored) : (u.redeemCode request g).Uses Call.Mints := by
  unfold redeemCode
  refine Prog.uses_bind (Prog.uses_op (.consume _)) fun _ => ?_
  refine Prog.uses_bind (mints_of_uses (u.offlineRefreshToken_uses _) rfl) fun refreshToken => ?_
  refine Prog.uses_bind (mints_of_uses (u.issueTokens_uses _) rfl) fun issued => ?_
  exact Prog.uses_bind (Prog.uses_op (.save ⟨h.offered, h.guarded⟩)) fun _ => Prog.uses_pure _ _

theorem redeemPreAuthorizedCode_mints (request : TokenRequest) (g : Granted AuthorizationCode) :
    (u.redeemPreAuthorizedCode request g).Uses Call.Mints := by
  unfold redeemPreAuthorizedCode
  refine Prog.uses_bind (Prog.uses_op (.consume _)) fun _ => ?_
  exact Prog.uses_bind (mints_of_uses (u.issueAccessToken_uses _) rfl) fun _ =>
    Prog.uses_pure _ _

theorem wp_dispatch (request : TokenRequest) :
    wp codeLog (u.dispatch request) (fun log _ => Redeems u.platform request log)
      (Interrupted u.platform request) [] := by
  unfold dispatch
  split
  · refine (wp_bind _ _).mpr (wp_mono (u.wp_checkCode request) ?_ fun _ _ h => h)
    rintro log g ⟨hredeems, hminted⟩
    exact wp_redeemed (u.redeemCode_mints hminted) hredeems
  split
  · exact wp_redeemed (mints_of_uses (u.refresh_uses request) rfl) redeems_nil
  split
  · exact wp_redeemed (mints_of_uses (u.clientCredentials_uses request) rfl) redeems_nil
  split
  · exact wp_redeemed (mints_of_uses (u.jwtBearer_uses request) rfl) redeems_nil
  split
  · exact wp_redeemed (mints_of_uses (u.deviceCode_uses request) rfl) redeems_nil
  split
  · exact wp_redeemed (mints_of_uses (u.ciba_uses request) rfl) redeems_nil
  split
  · refine (wp_bind _ _).mpr (wp_mono (u.wp_checkPreAuthorizedCode request) ?_ fun _ _ h => h)
    rintro log g ⟨hredeems, -⟩
    exact wp_redeemed (u.redeemPreAuthorizedCode_mints request g) hredeems
  · exact wp_fail.mpr trivial

end TokenUseCase

/-! ## The endpoints, watched -/

namespace CodeSite

variable {κ : Type} (s : CodeSite κ)

/-- What is known of an answer. -/
def Answers : CodeArrival → CallLog → CodeAnswer → Prop
  | .token request, log, .token (.ok _) =>
      Redeems s.tokens.platform (s.tokens.deduceClientId request) log
  | _, _, _ => True

/-- What is known of an exception. -/
def Raises : CodeArrival → CallLog → Stop Empty → Prop
  | .token request, log, .raised _ => ∀ row, LooksUp log row →
      PassesGates s.tokens.platform row request ∨ Undecodable s.tokens.platform row request
  | _, _, _ => True

theorem gates_of_deduced {row : AuthorizationCode} {request : TokenRequest}
    (h : PassesGates s.tokens.platform row (s.tokens.deduceClientId request) ∨
      Undecodable s.tokens.platform row (s.tokens.deduceClientId request)) :
    PassesGates s.tokens.platform row request ∨ Undecodable s.tokens.platform row request := by
  have hrequest : (s.tokens.deduceClientId request).codeVerifier = request.codeVerifier ∧
      (s.tokens.deduceClientId request).txCode = request.txCode := by
    unfold TokenUseCase.deduceClientId
    split
    · exact ⟨rfl, rfl⟩
    dsimp only
    split <;> exact ⟨rfl, rfl⟩
  rcases h with h | ⟨hchallenge, hmethod, hascii⟩
  · refine .inl ⟨fun hhash => ?_, fun hchallenge => ?_⟩
    · rw [← hrequest.2]
      exact h.txCode hhash
    · rw [← hrequest.1]
      exact h.verifier hchallenge
  · refine .inr ⟨hchallenge, hmethod, ?_⟩
    rw [← hrequest.1]
    exact hascii

/-- The code an offer saves. -/
theorem minted_offer {now : Instant} {draws : OfferDraws} {request : BearerRequest}
    {configurationIds : List String} {subject : String} {txCode : Bool} {offer : CredentialOffer}
    {row : AuthorizationCode}
    (h : s.resources.createOffer now draws request configurationIds subject txCode =
      .ok (.offer offer row)) : Minted row := by
  unfold ResourceServer.createOffer at h
  obtain ⟨claims, -, h⟩ := bind_eq_ok.mp h
  obtain ⟨caller, -, h⟩ := bind_eq_ok.mp h
  obtain ⟨configurations, -, h⟩ := bind_eq_ok.mp h
  obtain ⟨resolved, -, h⟩ := bind_eq_ok.mp h
  cases h
  exact ⟨fun _ => ⟨rfl, rfl⟩, fun _ => rfl⟩

theorem createOffer_mints (request : BearerRequest) (configurationIds : List String)
    (subject : String) (txCode : Bool) (transactionCode : String) :
    (s.createOffer request configurationIds subject txCode transactionCode).Uses Call.Mints := by
  refine Prog.uses_bind (Prog.uses_op (.of_area_ne (by decide))) fun now => ?_
  refine Prog.uses_bind (Prog.uses_op (.of_area_ne (by decide))) fun code => ?_
  refine Prog.uses_bind (Prog.uses_op (.of_area_ne (by decide))) fun offerId => ?_
  split
  · rename_i offer row hoffer
    have hminted := s.minted_offer hoffer
    exact Prog.uses_bind (Prog.uses_op (.save hminted)) fun _ => Prog.uses_pure _ _
  · exact Prog.uses_pure _ _

theorem authorize_mints (request : AuthorizeRequest) :
    (s.authorize.execute request).Uses Call.Mints := by
  refine Prog.uses_bind (mints_of_uses (validateAuthorizationRequest_uses ..) rfl)
    fun validated => ?_
  unfold AuthorizeUseCase.respond
  refine Prog.uses_bind ?_ fun code => ?_
  · split
    · unfold AuthorizeUseCase.issueCode
      refine Prog.uses_bind (Prog.uses_op (.of_area_ne (by decide))) fun now => ?_
      refine Prog.uses_bind (Prog.uses_op (.of_area_ne (by decide))) fun value => ?_
      refine Prog.uses_bind (Prog.uses_op (.save ?_)) fun _ => Prog.uses_pure _ _
      exact ⟨nofun, fun hhash => absurd rfl hhash⟩
    · exact Prog.uses_pure _ _
  refine Prog.uses_bind ?_ fun tokens => ?_
  · split
    · exact mints_of_uses (s.authorize.issueTokens_uses _ _ _ _ _ _) rfl
    · exact Prog.uses_pure _ _
  refine Prog.uses_bind (mints_of_uses (s.authorize.resolveSessionState_uses _) rfl)
    fun state => ?_
  exact Prog.uses_bind (mints_of_uses (s.authorize.responseRedirectUri_uses _ _ _) rfl)
    fun _ => Prog.uses_pure _ _

theorem wp_serve (arrival : CodeArrival) :
    wp codeLog (s.serve arrival) (s.Answers arrival) (s.Raises arrival) [] := by
  cases arrival with
  | token request =>
      refine (wp_bind _ _).mpr ((wp_handle _ _).mpr ((wp_bind _ _).mpr (wp_mono
        (s.tokens.wp_dispatch (s.tokens.deduceClientId request)) ?_ ?_)))
      · exact fun log response hredeems => wp_pure.mpr (wp_pure.mpr hredeems)
      · intro log stop hinterrupted
        cases stop with
        | refused e => exact wp_pure.mpr (wp_pure.mpr trivial)
        | raised x =>
            exact wp_fail.mpr fun row hrow => s.gates_of_deduced (hinterrupted row hrow)
  | authorize request =>
      refine (wp_bind _ _).mpr (wp_mono (wp_log_of_uses (uses_outcome
        (s.authorize_mints request)) fun _ c hc => hc.2) ?_ ?_)
      · exact fun _ _ _ => wp_pure.mpr trivial
      · exact fun _ _ _ => trivial
  | offer request configurationIds subject txCode transactionCode =>
      refine (wp_bind _ _).mpr (wp_mono (wp_log_of_uses
        (s.createOffer_mints request configurationIds subject txCode transactionCode)
        fun _ c hc => hc.2) ?_ ?_)
      · exact fun _ _ _ => wp_pure.mpr trivial
      · exact fun _ _ _ => trivial
  | other p savesNoCode =>
      refine (wp_bind _ _).mpr (wp_mono (wp_log_of_uses savesNoCode
        fun _ c hc row hrow => absurd hrow (hc row)) ?_ ?_)
      · exact fun _ _ _ => wp_pure.mpr trivial
      · exact fun _ _ _ => trivial

end CodeSite

/-! ## Runs -/

/-- The stored codes are minted, and no client is registered under an empty name. -/
structure CodesMinted (w : World) : Prop where
  codes : ∀ code row, w.codes.find code = some row → Minted row
  named : w.clients.find "" = none

theorem CodesMinted.good {ports : Ports} (hchains : ∀ now, ports.resolveTrustChain "" now = none)
    {w : World} (h : CodesMinted w) (log : CallLog) (c : Call) :
    codeLog.good log c (exec ports c w).1 := by
  cases c
  case findByCode code => exact fun row hrow => h.codes code row hrow
  case findClient id =>
      intro client hclient
      refine ⟨World.findClient_clientId hclient, ?_⟩
      rintro rfl
      have hnone : w.findClient ports "" = none := by
        unfold World.findClient
        rw [h.named, hchains]
        rfl
      exact absurd (hclient.symm.trans hnone) (by simp)
  all_goals trivial

theorem CodesMinted.exec {ports : Ports} {w : World} (h : CodesMinted w) {log : CallLog}
    {c : Call} (hok : codeLog.ok log c) : CodesMinted (exec ports c w).2 := by
  refine ⟨fun code row hrow => ?_, ?_⟩
  · rw [exec_codes] at hrow
    cases c
    case consumeCode consumed =>
        simp only [World.consumeCode, Table.find_update] at hrow
        split at hrow
        · obtain ⟨old, hold, rfl⟩ := Option.map_eq_some_iff.mp hrow
          exact ⟨(h.codes _ old hold).offered, (h.codes _ old hold).guarded⟩
        · exact h.codes code row hrow
    case saveCode saved =>
        simp only [Table.find_save] at hrow
        split at hrow
        · cases hrow
          exact hok row rfl
        · exact h.codes code row hrow
    all_goals exact h.codes code row hrow
  · rw [exec_clients]
    exact h.named

/-- However the requests interleave: tokens are issued for the codes whose gates the request
passes, to a public client for those that have a challenge, and a request that ends with an
exception has passed them too, when the verifiers that are digested are ASCII. -/
theorem gates_hold {ι κ : Type} [DecidableEq ι] (s : CodeSite κ) (ports : Ports) (w : World)
    (arrivals : ι → CodeArrival) (hminted : CodesMinted w)
    (hchains : ∀ now, ports.resolveTrustChain "" now = none)
    {tr : List (Event ι Call World)}
    {cfg : Config ι Call Reply (Stop Empty) CodeAnswer World}
    (hrun : Run (machine ports) (s.requests w arrivals) tr cfg)
    (hascii : ∀ i request row, arrivals i = .token request →
      LooksUp (exchanges (machine ports) i tr) row → row.codeChallenge ≠ "" →
        s.tokens.platform.upper row.codeChallengeMethod = "S256" →
          Text.isAscii request.codeVerifier = true) :
    CodesMinted cfg.store ∧ ∀ i request, arrivals i = .token request →
      (∀ response, cfg.procs i = .pure (.token (.ok response)) →
        ∀ row, LooksUp (exchanges (machine ports) i tr) row →
          PassesGates s.tokens.platform row request ∧
            ∃ client, (⟨.findClient (s.tokens.deduceClientId request).clientId, some client⟩ :
                (c : Call) × Reply c) ∈ exchanges (machine ports) i tr ∧
              (client.clientType = .publicClient → row.preAuthorized = false →
                row.codeChallenge ≠ "")) ∧
      ∀ x, cfg.procs i = .fail (.raised x) →
        ∀ row, LooksUp (exchanges (machine ports) i tr) row →
          PassesGates s.tokens.platform row request := by
  obtain ⟨hstore, hwp⟩ := hrun.invariant codeLog (fun _ => []) (fun _ v => CodesMinted v)
    hminted (fun i => s.wp_serve (arrivals i))
    (by
      rintro past v v' hv ⟨t, -, rfl⟩
      exact ⟨hv.codes, hv.named⟩)
    (fun past v i c hv _ hok => ⟨hv.good hchains _ c, hv.exec hok⟩)
    (show ∀ e ∈ tr, True from fun _ _ => trivial)
  have hdecoded : ∀ i request row, arrivals i = .token request →
      LooksUp (exchanges (machine ports) i tr) row →
        PassesGates s.tokens.platform row request ∨
          Undecodable s.tokens.platform row request →
            PassesGates s.tokens.platform row request := by
    intro i request row hi hlook hgates
    rcases hgates with hgates | ⟨hchallenge, hmethod, hnot⟩
    · exact hgates
    · rw [hascii i request row hi hlook hchallenge hmethod] at hnot
      cases hnot
  refine ⟨hstore, fun i request hi => ⟨fun response hresponse row hlook => ?_,
    fun x hx row hlook => ?_⟩⟩
  · have hredeems := hwp i
    rw [hresponse, hi] at hredeems
    rw [codeLog, ghost_log] at hredeems
    obtain ⟨hgates, hclient⟩ := wp_pure.mp hredeems row hlook
    exact ⟨hdecoded i request row hi hlook (s.gates_of_deduced (.inl hgates)),
      hclient⟩
  · have hraises := hwp i
    rw [hx, hi] at hraises
    rw [codeLog, ghost_log] at hraises
    exact hdecoded i request row hi hlook (wp_fail.mp hraises row hlook)

/-! ## One exchange -/

namespace CodeSite.Sample

open PurIdentityServer.Sample (platform ports world authorizationCode codeRequest)

def site : CodeSite Unit where
  tokens := PurIdentityServer.Sample.tokens
  authorize :=
    { platform := platform
      config := { issuer := "https://op.example" }
      halfDigest := fun _ value => value }
  resources := ResourceServer.Sample.server

/-- The store with one code, whose challenge is to be digested. -/
def codeWorld : World := { world with codes := Table.empty.save authorizationCode }

theorem codesMinted : CodesMinted codeWorld := by
  refine ⟨fun code row hrow => ?_, by decide +kernel⟩
  rw [codeWorld, Table.find_save] at hrow
  split at hrow
  · cases hrow
    exact ⟨nofun, fun hhash => absurd rfl hhash⟩
  · cases hrow

def exchange (request : TokenRequest) :
    List (Event Unit Call World) × Config Unit Call Reply (Stop Empty) CodeAnswer World :=
  Config.schedule (machine ports) (List.replicate 9 ())
    ([], site.requests codeWorld fun _ => .token request)

theorem exchange_run (request : TokenRequest) :
    Run (machine ports) (site.requests codeWorld fun _ => .token request)
      (exchange request).1 (exchange request).2 :=
  Run.ofSchedule _ _ _

/-- A verifier that is no ASCII text. -/
def accented : TokenRequest := { codeRequest with codeVerifier := "é" }

theorem looksUp {request : TokenRequest}
    (h : (exchanges (machine ports) () (exchange request).1).getLast? =
      some ⟨.findByCode "c", some authorizationCode⟩) :
    LooksUp (exchanges (machine ports) () (exchange request).1) authorizationCode :=
  ⟨"c", List.mem_of_getLast? h⟩

def raised (p : M Empty CodeAnswer) : Bool :=
  match p with
  | .fail (.raised _) => true
  | _ => false

end CodeSite.Sample

open CodeSite.Sample PurIdentityServer.Sample in
/-- An exchange with the verifier of the challenge, answered with tokens. -/
theorem gates_hold_exchange :
    (∃ response, (exchange codeRequest).2.procs () = .pure (.token (.ok response))) ∧
      PassesGates platform authorizationCode codeRequest := by
  have hanswer : ∃ response, (exchange codeRequest).2.procs () =
      .pure (.token (.ok response)) := ⟨_, rfl⟩
  refine ⟨hanswer, ?_⟩
  obtain ⟨response, hresponse⟩ := hanswer
  have hgates := (gates_hold site Sample.ports codeWorld (fun _ => .token codeRequest)
    codesMinted (fun _ => rfl) (exchange_run codeRequest)
    (by
      rintro i request row harrival - - -
      cases harrival
      decide +kernel)).2 () codeRequest rfl
  exact (hgates.1 response hresponse authorizationCode (looksUp rfl)).1

open CodeSite.Sample PurIdentityServer.Sample in
/-- An exchange with a verifier that is not ASCII ends with an exception. -/
theorem verifier_raises :
    ¬ ∀ (s : CodeSite Unit) (ports : Ports) (w : World) (arrivals : Unit → CodeArrival)
      (tr : List (Event Unit Call World))
      (cfg : Config Unit Call Reply (Stop Empty) CodeAnswer World), CodesMinted w →
      (∀ now, ports.resolveTrustChain "" now = none) →
      Run (machine ports) (s.requests w arrivals) tr cfg →
      ∀ i request x, arrivals i = .token request → cfg.procs i = .fail (.raised x) →
        ∀ row, LooksUp (exchanges (machine ports) i tr) row →
          PassesGates s.tokens.platform row request := by
  intro h
  have hraised : ∃ x, (exchange accented).2.procs () = .fail (.raised x) := ⟨_, rfl⟩
  obtain ⟨x, hx⟩ := hraised
  have hgates := h site Sample.ports codeWorld (fun _ => .token accented) _ _ codesMinted
    (fun _ => rfl) (exchange_run accented) () accented x rfl hx authorizationCode (looksUp rfl)
  have hchallenged : authorizationCode.codeChallenge ≠ "" := by decide +kernel
  obtain ⟨-, hmatches⟩ := hgates.verifier hchallenged
  have hmethod : platform.upper authorizationCode.codeChallengeMethod = "S256" := rfl
  have hmatches' := (if_pos hmethod).mp hmatches
  exact absurd hmatches'.1 (by decide +kernel)

end PurIdentityServer

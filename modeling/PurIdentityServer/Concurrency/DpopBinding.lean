import PurIdentityServer.Concurrency.RefreshChain
import PurIdentityServer.Application.SenderConstraint

/-!
# DpopBinding — the key a grant is bound to, followed through a run

A code or a refresh token may name the key of a client (`dpop_jkt`). The
ghost of a request is the key of the code or token it read last and the
key of the proof it validated. Every access token is signed, and every
refresh token stored, with the two in agreement; so a chain of renewals
that starts from a bound refresh token of a public client stays bound,
however the requests interleave.
-/

namespace PurIdentityServer

open Effects ResourceServer AccessTokenIssuers

variable {ι : Type} [DecidableEq ι]

/-! ## What a request is bound by -/

/-- The key the grant that was read last names, empty for none, and the key proved. -/
structure Bond where
  wanted : String := ""
  proved : Option String := none
  deriving DecidableEq

namespace Bond

/-- The thumbprint proved, empty for none. -/
def key (bond : Bond) : String := bond.proved.getD ""

/-- A key that is asked for is the one proved. -/
def Honoured (bond : Bond) : Prop := bond.wanted ≠ "" → bond.proved = some bond.wanted

/-- The `cnf` of a token names the key proved, and no other. -/
def Confirms (bond : Bond) (claims : AccessTokenClaims) : Prop :=
  ∀ jti, confirmation (claims.payload jti) "jkt" =
    if bond.key = "" then none else some (.str bond.key)

def next (bond : Bond) : (c : Call) → Reply c → Bond
  | .findByCode _ => fun r : Option AuthorizationCode =>
      { bond with wanted := (r.map AuthorizationCode.dpopJkt).getD bond.wanted }
  | .findByTokenHash _ => fun r : Option RefreshToken =>
      { bond with wanted := (r.map RefreshToken.dpopJkt).getD bond.wanted }
  | .checkDpopProof _ _ _ => fun r : Except DpopValidationError DPoPProof =>
      { bond with proved := (r.toOption.map DPoPProof.jkt).or bond.proved }
  | _ => fun _ => bond

end Bond

/-- A refresh token names the key proved, unless its client is confidential. -/
def Bond.Keeps (registered : Client → Prop) (bond : Bond) (row : RefreshToken) : Prop :=
  ∃ client, registered client ∧ client.clientId = row.clientId ∧
    row.dpopJkt = if client.clientType = .confidential then "" else bond.key

/-- `registered` is what is known of the clients looked up. -/
def bondMonitor (registered : Client → Prop) : Monitor Call Reply Bond where
  good := fun _ c =>
    match c with
    | .findClient _ => fun r : Option Client => ∀ found, r = some found → registered found
    | _ => fun _ => True
  ok := fun bond c =>
    match c with
    | .createAccessToken claims => bond.Honoured ∧ bond.Confirms claims
    | .saveRefreshToken row => bond.Honoured ∧ bond.Keeps registered row
    | _ => True
  next := Bond.next

/-- The calls that read no key and sign or store nothing that names one. -/
def Call.Unbound : Call → Prop
  | .findByCode _ | .findByTokenHash _ | .checkDpopProof _ _ _ | .createAccessToken _
  | .saveRefreshToken _ => False
  | _ => True

/-- The areas of such calls only. -/
def unboundAreas : List Area :=
  [.keys, .draws, .devices, .backchannel, .pushed, .consents, .revoked, .notices]

theorem Call.In.unbound {l : List Area} (hl : l.all (unboundAreas.contains ·) = true) {c : Call}
    (h : c.In l) : c.Unbound := by
  have hin : unboundAreas.contains c.area = true := Call.In.mono hl c h
  cases c
  case findByCode | findByTokenHash | checkDpopProof | createAccessToken | saveRefreshToken =>
    exact absurd hin Bool.false_ne_true
  all_goals trivial

section
variable {registered : Client → Prop} {bond : Bond} {ε α β : Type}

theorem bond_quiet : (bondMonitor registered).Quiet Call.Unbound := by
  intro bond c hc
  cases c
  case findByCode | findByTokenHash | checkDpopProof | createAccessToken | saveRefreshToken =>
    exact hc.elim
  all_goals exact ⟨trivial, fun _ _ => rfl⟩

/-- A part with such calls, in front of the rest. -/
theorem bond_bind {p : M ε α} {f : α → M ε β} {Q : Bond → β → Prop} (hp : p.Uses Call.Unbound)
    (hf : ∀ a, wp (bondMonitor registered) (f a) Q (fun _ _ => True) bond) :
    wp (bondMonitor registered) (p >>= f) Q (fun _ _ => True) bond :=
  wp_quiet_bind hp bond_quiet (fun _ => trivial) hf

/-- A part that signs no access token and stores no refresh token. -/
theorem bond_safe {l : List Area} {p : M ε α} (hp : p.Uses (Call.In l))
    (hnew : l.contains .newRefreshTokens = false) (hsigned : l.contains .accessTokens = false) :
    Safe (bondMonitor registered) p := by
  refine safe_of_uses hp fun bond c hc => ?_
  unfold Call.In at hc
  cases c
  case saveRefreshToken =>
    rw [show (Call.saveRefreshToken _).area = Area.newRefreshTokens from rfl, hnew] at hc
    cases hc
  case createAccessToken =>
    rw [show (Call.createAccessToken _).area = Area.accessTokens from rfl, hsigned] at hc
    cases hc
  all_goals trivial

end

/-! ## The parts that look at no key -/

section
variable {ε : Type} (u : TokenUseCase)

theorem activeClient_unbound (id description : String) :
    (TokenUseCase.activeClient id description).Uses Call.Unbound :=
  Prog.uses_bind (Prog.uses_bind (Prog.uses_op trivial) fun _ => uses_orRefuse _ _ _)
    fun _ => Prog.uses_bind (uses_refuseIf _ _ _) fun _ => Prog.uses_pure _ _

theorem authenticateAssertion_unbound (client : Client) (assertions : Bool)
    (assertionType assertion : String) (audience : List String) :
    (authenticateAssertion client assertions assertionType assertion audience :
      M ε (Option String)).Uses Call.Unbound := by
  unfold authenticateAssertion
  split
  · exact Prog.uses_pure _ _
  split
  · exact Prog.uses_pure _ _
  split
  · exact Prog.uses_pure _ _
  refine Prog.uses_bind (Prog.uses_op trivial) fun claims => ?_
  cases claims with
  | none => exact Prog.uses_pure _ _
  | some claims =>
      dsimp only
      split <;> exact Prog.uses_pure _ _

theorem authenticateClient_unbound (client : Client) (request : TokenRequest) :
    (u.authenticateClient client request).Uses Call.Unbound := by
  unfold TokenUseCase.authenticateClient
  refine Prog.uses_bind (uses_refuseIf _ _ _) fun _ => Prog.uses_bind ?_ fun detail => ?_
  · unfold PurIdentityServer.authenticateClient
    split
    case h_3 | h_4 => exact authenticateAssertion_unbound _ _ _ _ _
    case h_7 => exact Prog.uses_pure _ _
    all_goals split <;> exact Prog.uses_pure _ _
  · cases detail with
    | none => exact Prog.uses_pure _ _
    | some detail => exact Prog.uses_fail _ _

theorem unknownScopes_unbound (registry : ScopeRegistry) (scopes : Finset Scope) :
    (registry.unknownScopes scopes : M ε (List String)).Uses Call.Unbound := by
  refine Prog.uses_bind ?_ fun _ => Prog.uses_pure _ _
  unfold ScopeRegistry.knownScopeNames
  refine Prog.uses_bind ?_ fun identity => Prog.uses_bind ?_ fun api => Prog.uses_pure _ _
  · split
    · exact Prog.uses_op trivial
    · exact Prog.uses_pure _ _
  · split
    · exact Prog.uses_op trivial
    · exact Prog.uses_pure _ _

theorem unknownResources_unbound (registry : ScopeRegistry) (resources : List String) :
    (registry.unknownResources resources : M ε (List String)).Uses Call.Unbound := by
  unfold ScopeRegistry.unknownResources
  split
  · exact Prog.uses_pure _ _
  · exact Prog.uses_bind (Prog.uses_op trivial) fun _ => Prog.uses_pure _ _

theorem effectiveScope_unbound (client : Client) (requested : String) (default : Finset Scope) :
    (u.effectiveScope client requested default).Uses Call.Unbound := by
  unfold TokenUseCase.effectiveScope
  refine Prog.uses_bind (uses_refuseIf _ _ _) fun _ => ?_
  dsimp only
  split
  · exact Prog.uses_pure _ _
  · exact Prog.uses_bind (unknownScopes_unbound _ _) fun _ =>
      Prog.uses_bind (uses_refuseIf _ _ _) fun _ => Prog.uses_pure _ _

theorem effectiveResources_unbound (request : TokenRequest) (bound : List String) :
    (u.effectiveResources request bound).Uses Call.Unbound := by
  unfold TokenUseCase.effectiveResources
  generalize parseResourceParameter u.platform request.resource = resources
  dsimp only
  split
  · exact Prog.uses_pure _ _
  split
  · exact Prog.uses_bind (uses_refuseIf _ _ _) fun _ => Prog.uses_pure _ _
  refine Prog.uses_bind (uses_orRaise _ _) fun malformed => ?_
  refine Prog.uses_bind (uses_refuseIf _ _ _) fun _ => ?_
  split
  · exact Prog.uses_pure _ _
  · exact Prog.uses_bind (unknownResources_unbound _ _) fun _ =>
      Prog.uses_bind (uses_refuseIf _ _ _) fun _ => Prog.uses_pure _ _

theorem resolveAudience_unbound (client : Client) (scopes : Finset Scope)
    (resources : List String) : (u.resolveAudience client scopes resources).Uses Call.Unbound := by
  unfold TokenUseCase.resolveAudience
  split
  · exact Prog.uses_pure _ _
  split
  · exact Prog.uses_pure _ _
  unfold ScopeRegistry.audiencesFor
  split
  · exact Prog.uses_pure _ _
  · refine Prog.uses_bind (Prog.uses_op trivial) fun stored => ?_
    dsimp only
    split <;> exact Prog.uses_pure _ _

end

/-! ## The proof of a request -/

/-- What the checks of a grant leave: the key proved is the one asked for, the binding is the one
of that key, and the client is of the registry. -/
structure ProofSettled (registered : Client → Prop) (bond : Bond) (found : Client)
    (binding : DpopBinding) : Prop where
  honoured : bond.Honoured
  key : binding.boundJkt = bond.key
  bound : binding.bound = bond.proved.isSome
  record : registered found

section
variable {registered : Client → Prop} {u : TokenUseCase}

theorem validateProof_bond {bond : Bond} (proof htu : String) :
    wp (bondMonitor registered)
      (validateProof u.platform proof htu "POST" : M TokenError (Except _ DPoPProof))
      (fun bond' result => bond'.wanted = bond.wanted ∧
        ∀ validated, result = .ok validated → bond'.proved = some validated.jkt)
      (fun _ _ => True) bond := by
  unfold validateProof
  split
  · exact wp_pure.mpr ⟨rfl, fun _ h => absurd h (by simp)⟩
  refine wp_ask_bind.mpr ⟨trivial, fun checked _ => ?_⟩
  cases checked with
  | error e => exact wp_pure.mpr ⟨rfl, fun _ h => absurd h (by simp)⟩
  | ok payload =>
      have hbond : (bondMonitor registered).next bond (.checkDpopProof proof htu "POST")
          (.ok payload) = { bond with proved := some payload.jkt } := rfl
      rw [hbond]
      refine wp_ask_bind.mpr ⟨trivial, fun now _ => wp_ask_bind.mpr ⟨trivial, fun used _ => ?_⟩⟩
      cases used with
      | true => exact wp_pure.mpr ⟨rfl, fun _ h => absurd h (by simp)⟩
      | false =>
          have hsave : (ask (.saveReplay ⟨u.platform.sha256Hex payload.jti,
              now + seconds (2 * dpopIatSkewSeconds)⟩) >>= orRaise :
                M TokenError Unit).Uses Call.Unbound :=
            Prog.uses_bind (Prog.uses_op trivial) fun saved => uses_orRaise _ _
          refine bond_bind hsave fun _ => bond_bind (Prog.uses_op trivial) fun _ => ?_
          refine wp_pure.mpr ⟨rfl, ?_⟩
          intro validated h
          cases h
          rfl

theorem evaluateDpop_bond (hdpop : u.dpop = true) {bond : Bond} (hproved : bond.proved = none)
    (found : Client) (request : TokenRequest) :
    wp (bondMonitor registered) (u.evaluateDpop found request bond.wanted)
      (fun bond' binding => bond'.Honoured ∧ bond'.wanted = bond.wanted ∧
        binding.boundJkt = bond'.key ∧ binding.bound = bond'.proved.isSome)
      (fun _ _ => True) bond := by
  unfold TokenUseCase.evaluateDpop
  rw [if_neg (not_not.mpr hdpop), wp_bind]
  unfold DpopGuard.evaluate
  by_cases hproof : request.dpopProof = ""
  · rw [if_pos hproof]
    unfold DpopGuard.missingProof
    by_cases hrequire : found.requireDpop = true
    · rw [if_pos hrequire]
      exact wp_pure.mpr (wp_fail.mpr trivial)
    rw [if_neg hrequire]
    by_cases hwanted : bond.wanted = ""
    · rw [if_neg (not_not.mpr hwanted)]
      refine wp_pure.mpr (wp_pure.mpr ⟨fun h => absurd hwanted h, rfl, ?_, ?_⟩)
      · simp [DpopBinding.boundJkt, Bond.key, hproved]
      · simp [hproved]
    · rw [if_pos hwanted]
      exact wp_pure.mpr (wp_fail.mpr trivial)
  · rw [if_neg hproof, wp_bind]
    refine wp_mono (validateProof_bond _ _) ?_ fun _ _ h => h
    rintro bond' result ⟨hwanted, hvalidated⟩
    cases result with
    | error e => exact wp_pure.mpr (wp_fail.mpr trivial)
    | ok validated =>
        have hkey := hvalidated validated rfl
        dsimp only
        by_cases hother : bond.wanted ≠ "" ∧ validated.jkt ≠ bond.wanted
        · rw [if_pos hother]
          exact wp_pure.mpr (wp_fail.mpr trivial)
        · rw [if_neg hother]
          refine wp_pure.mpr (wp_pure.mpr ⟨?_, hwanted, ?_, ?_⟩)
          · intro hne
            rw [hwanted] at hne ⊢
            by_contra hdiffers
            refine hother ⟨hne, fun hsame => hdiffers ?_⟩
            rw [hkey, hsame]
          · simp [DpopBinding.boundJkt, Bond.key, hkey]
          · simp [hkey]

/-! ## Signing and storing -/

/-- What is issued is bound to the key proved. -/
structure Issuance.Bound (i : Issuance) (registered : Client → Prop) (bond : Bond) : Prop where
  honoured : bond.Honoured
  key : i.dpopJkt = bond.key
  record : registered i.client

variable {bond : Bond} {i : Issuance}

theorem Issuance.Bound.confirms (h : i.Bound registered bond) (audience : Audience)
    (claimsRequest : Option ClaimsRequest) :
    bond.Confirms (u.accessTokenClaims i audience claimsRequest) := by
  intro jti
  rw [confirmation_accessTokenClaims, get_cnfOf_jkt, h.key]

theorem Issuance.Bound.keeps (h : i.Bound registered bond) (value : String) :
    bond.Keeps registered (u.refreshTokenRow i value) := by
  refine ⟨i.client, h.record, rfl, ?_⟩
  show (if i.client.clientType = .confidential then "" else i.dpopJkt) = _
  rw [h.key]

theorem createAccessToken_bond (h : i.Bound registered bond)
    (claimsRequest : Option ClaimsRequest) :
    wp (bondMonitor registered) (u.createAccessToken i claimsRequest)
      (fun bond' _ => bond' = bond) (fun bond' _ => bond' = bond) bond := by
  refine wp_quiet_bind (resolveAudience_unbound u _ _ _) bond_quiet (fun _ => rfl)
    fun audience => ?_
  refine wp_ask_bind.mpr ⟨⟨h.honoured, h.confirms audience claimsRequest⟩, fun r _ => ?_⟩
  exact wp_orRaise.mpr ⟨fun _ _ => rfl, fun _ _ => rfl⟩

theorem issueAccessToken_bond (h : i.Bound registered bond) :
    wp (bondMonitor registered) (u.issueAccessToken i)
      (fun bond' _ => bond' = bond) (fun bond' _ => bond' = bond) bond :=
  (wp_bind _ _).mpr (wp_mono (createAccessToken_bond h none) (fun _ _ h => wp_pure.mpr h)
    fun _ _ h => h)

theorem issueTokens_bond (h : i.Bound registered bond) :
    wp (bondMonitor registered) (u.issueTokens i)
      (fun bond' _ => bond' = bond) (fun bond' _ => bond' = bond) bond := by
  unfold TokenUseCase.issueTokens
  split
  · exact (wp_bind _ _).mpr (wp_mono (issueAccessToken_bond h) (fun _ _ h => wp_pure.mpr h)
      fun _ _ h => h)
  · have hkeys : (u.issueIdToken i (u.claimsRequest i)).Uses Call.Unbound :=
      (u.issueIdToken_uses _ _).mono fun _ => Call.In.unbound rfl
    refine wp_quiet_bind hkeys bond_quiet (fun _ => rfl) fun idToken => ?_
    exact (wp_bind _ _).mpr (wp_mono (createAccessToken_bond h _) (fun _ _ h => wp_pure.mpr h)
      fun _ _ h => h)

theorem issueRefreshToken_bond (h : i.Bound registered bond) :
    wp (bondMonitor registered) (u.issueRefreshToken i)
      (fun bond' _ => bond' = bond) (fun bond' _ => bond' = bond) bond := by
  refine wp_ask_bind.mpr ⟨trivial, fun value _ => ?_⟩
  exact wp_ask_bind.mpr ⟨⟨h.honoured, h.keeps value⟩, fun _ _ => wp_pure.mpr rfl⟩

theorem offlineRefreshToken_bond (h : i.Bound registered bond) :
    wp (bondMonitor registered) (u.offlineRefreshToken i)
      (fun bond' _ => bond' = bond) (fun bond' _ => bond' = bond) bond := by
  unfold TokenUseCase.offlineRefreshToken
  split
  · exact issueRefreshToken_bond h
  · exact wp_pure.mpr rfl

/-- The type of the tokens tells whether a key was proved. -/
def Bond.Told (bond : Bond) (response : TokenResponse) : Prop :=
  response.tokenType = if bond.proved.isSome = true then "DPoP" else "Bearer"

theorem success_told {bond : Bond} {bound : Bool} (h : bound = bond.proved.isSome)
    {idToken accessToken : String} {tokenTtl : Int} {scopes : Finset Scope}
    {refreshToken : String} {details : List Json} :
    bond.Told (TokenUseCase.success idToken accessToken tokenTtl scopes refreshToken bound
      details) := by
  rw [Bond.Told, ← h]
  rfl

theorem issueSession_bond (h : i.Bound registered bond) {bound : Bool}
    (hbound : bound = bond.proved.isSome) :
    wp (bondMonitor registered) (u.issueSession i bound)
      (fun bond' response => bond' = bond ∧ bond'.Told response)
      (fun bond' _ => bond' = bond) bond := by
  refine (wp_bind _ _).mpr (wp_mono (offlineRefreshToken_bond h) ?_ fun _ _ h => h)
  rintro _ refreshToken rfl
  refine (wp_bind _ _).mpr (wp_mono (issueTokens_bond h) ?_ fun _ _ h => h)
  rintro _ ⟨idToken, accessToken, tokenTtl⟩ rfl
  exact wp_pure.mpr ⟨rfl, success_told hbound⟩

/-! ## The grants -/

/-- The client found is a registered one. -/
theorem activeClient_bond (id description : String) :
    wp (bondMonitor registered) (TokenUseCase.activeClient id description)
      (fun bond' found => bond' = bond ∧ registered found) (fun _ _ => True) bond := by
  unfold TokenUseCase.activeClient
  refine wp_orRefuse_bind.mpr (wp_op.mpr ⟨trivial, fun r hr => ⟨fun _ => trivial, ?_⟩⟩)
  intro found hfound
  exact wp_refuseIf_bind.mpr ⟨fun _ => trivial, fun _ => wp_pure.mpr ⟨rfl, hr found hfound⟩⟩

/-- The evaluation of the proof, with the client of the registry. -/
theorem evaluateDpop_settled (hdpop : u.dpop = true) {found : Client}
    (hrecord : registered found) (request : TokenRequest)
    (wanted : String) :
    wp (bondMonitor registered) (u.evaluateDpop found request wanted)
      (fun bond binding => ProofSettled registered bond found binding ∧ bond.wanted = wanted)
      (fun _ _ => True) { wanted := wanted } := by
  have hproved : ({ wanted := wanted } : Bond).proved = none := rfl
  refine wp_mono (evaluateDpop_bond hdpop hproved found request) ?_ fun _ _ h => h
  rintro bond binding ⟨hhonoured, hwanted, hkey, hbound⟩
  exact ⟨⟨hhonoured, hkey, hbound, hrecord⟩, hwanted⟩

theorem checkCode_bond (hdpop : u.dpop = true) (request : TokenRequest) :
    wp (bondMonitor registered) (u.checkCode request)
      (fun bond g => ProofSettled registered bond g.client g.binding) (fun _ _ => True) {} := by
  unfold TokenUseCase.checkCode
  refine wp_orRefuse_bind.mpr (wp_op.mpr ⟨trivial, fun found _ => ⟨fun _ => trivial, ?_⟩⟩)
  rintro row rfl
  split
  · refine (wp_bind _ _).mpr (wp_mono (bond_safe (u.revokeIssuedTokens_uses row) rfl rfl _) ?_
      fun _ _ h => h)
    exact fun _ _ _ => wp_fail.mpr trivial
  refine wp_ask_bind.mpr ⟨trivial, fun now _ => ?_⟩
  refine wp_refuseIf_bind.mpr ⟨fun _ => trivial, fun _ => ?_⟩
  change wp (bondMonitor registered) _ _ _ { wanted := row.dpopJkt }
  refine (wp_bind _ _).mpr (wp_mono (Q := fun bond found => bond = { wanted := row.dpopJkt } ∧
    registered found) (E := fun _ _ => True) ?_ ?_ fun _ _ h => h)
  · unfold TokenUseCase.validateCodeExchange
    refine (wp_bind _ _).mpr (wp_mono (activeClient_bond _ _) ?_ fun _ _ h => h)
    rintro _ found ⟨rfl, hrecord⟩
    refine wp_refuseIf_bind.mpr ⟨fun _ => trivial, fun _ => ?_⟩
    refine bond_bind (authenticateClient_unbound u _ _) fun _ => ?_
    refine wp_refuseIf_bind.mpr ⟨fun _ => trivial, fun _ => ?_⟩
    refine wp_refuseIf_bind.mpr ⟨fun _ => trivial, fun _ => ?_⟩
    refine bond_bind ?_ fun verified => ?_
    · split
      · exact Prog.uses_pure _ _
      · exact uses_orRaise _ _
    · exact wp_refuseIf_bind.mpr ⟨fun _ => trivial, fun _ => wp_pure.mpr ⟨rfl, hrecord⟩⟩
  rintro _ found ⟨rfl, hrecord⟩
  refine (wp_bind _ _).mpr (wp_mono (evaluateDpop_settled hdpop hrecord request _) ?_
    fun _ _ h => h)
  rintro bond binding ⟨hsettled, -⟩
  exact bond_bind (effectiveResources_unbound u _ _) fun resources => wp_pure.mpr hsettled

theorem exchangeCode_bond (hdpop : u.dpop = true) (request : TokenRequest) :
    wp (bondMonitor registered) (u.exchangeCode request)
      (fun bond response => bond.Told response) (fun _ _ => True) {} := by
  refine (wp_bind _ _).mpr (wp_mono (checkCode_bond hdpop request) ?_ fun _ _ h => h)
  intro bond g hsettled
  have hbound : (u.codeIssuance request g).Bound registered bond :=
    ⟨hsettled.honoured, hsettled.key, hsettled.record⟩
  unfold TokenUseCase.redeemCode
  refine wp_ask_bind.mpr ⟨trivial, fun _ _ => ?_⟩
  refine (wp_bind _ _).mpr (wp_mono (offlineRefreshToken_bond hbound) ?_ fun _ _ _ => trivial)
  rintro _ refreshToken rfl
  refine (wp_bind _ _).mpr (wp_mono (issueTokens_bond hbound) ?_ fun _ _ _ => trivial)
  rintro _ ⟨idToken, accessToken, tokenTtl⟩ rfl
  exact wp_ask_bind.mpr ⟨trivial, fun _ _ => wp_pure.mpr (success_told hsettled.bound)⟩

theorem preAuthorizedCode_bond (hdpop : u.dpop = true) (request : TokenRequest) :
    wp (bondMonitor registered) (u.preAuthorizedCode request)
      (fun bond response => bond.Told response) (fun _ _ => True) {} := by
  refine (wp_bind _ _).mpr (wp_mono (Q := fun bond g =>
    ProofSettled registered bond g.client g.binding) (E := fun _ _ => True) ?_ ?_ fun _ _ h => h)
  · unfold TokenUseCase.checkPreAuthorizedCode
    refine wp_ask_bind.mpr ⟨trivial, fun now _ => ?_⟩
    rw [wp_bind]
    unfold TokenUseCase.resolvePreAuthorizedCode
    refine wp_orRefuse_bind.mpr (wp_op.mpr ⟨trivial, fun found _ => ⟨fun _ => trivial, ?_⟩⟩)
    rintro row rfl
    refine wp_refuseIf_bind.mpr ⟨fun _ => trivial, fun _ => ?_⟩
    split
    · refine (wp_bind _ _).mpr (wp_mono (bond_safe (u.revokeIssuedTokens_uses row) rfl rfl _) ?_
        fun _ _ h => h)
      exact fun _ _ _ => wp_fail.mpr trivial
    refine wp_refuseIf_bind.mpr ⟨fun _ => trivial, fun _ => ?_⟩
    change wp (bondMonitor registered) _ _ _ { wanted := row.dpopJkt }
    refine wp_pure.mpr ((wp_bind _ _).mpr (wp_mono (activeClient_bond _ _) ?_ fun _ _ h => h))
    rintro _ found ⟨rfl, hrecord⟩
    refine bond_bind (authenticateClient_unbound u _ _) fun _ => ?_
    refine wp_refuseIf_bind.mpr ⟨fun _ => trivial, fun _ => ?_⟩
    refine wp_refuseIf_bind.mpr ⟨fun _ => trivial, fun _ => ?_⟩
    refine (wp_bind _ _).mpr (wp_mono (evaluateDpop_settled hdpop hrecord request _) ?_
      fun _ _ h => h)
    rintro bond binding ⟨hsettled, -⟩
    exact bond_bind (effectiveResources_unbound u _ _) fun resources => wp_pure.mpr hsettled
  intro bond g hsettled
  have hbound : (u.preAuthorizedIssuance request g).Bound registered bond :=
    ⟨hsettled.honoured, hsettled.key, hsettled.record⟩
  unfold TokenUseCase.redeemPreAuthorizedCode
  refine wp_ask_bind.mpr ⟨trivial, fun _ _ => ?_⟩
  refine (wp_bind _ _).mpr (wp_mono (issueAccessToken_bond hbound) ?_ fun _ _ _ => trivial)
  rintro _ ⟨accessToken, expiresIn⟩ rfl
  exact wp_pure.mpr (success_told hsettled.bound)

/-- The checks of a renewal: the key asked for is the one the refresh token names. -/
theorem checkRefresh_bond (hdpop : u.dpop = true) (request : TokenRequest) :
    wp (bondMonitor registered) (u.checkRefresh request)
      (fun bond g => ProofSettled registered bond g.client g.binding ∧
        bond.wanted = g.stored.1.dpopJkt) (fun _ _ => True) {} := by
  unfold TokenUseCase.checkRefresh
  refine wp_refuseIf_bind.mpr ⟨fun _ => trivial, fun _ => ?_⟩
  refine (wp_bind _ _).mpr (wp_mono (activeClient_bond _ _) ?_ fun _ _ h => h)
  rintro _ found ⟨rfl, hrecord⟩
  refine bond_bind (authenticateClient_unbound u _ _) fun _ => ?_
  refine (wp_bind _ _).mpr (wp_mono (Q := fun bond x => bond = { wanted := x.1.dpopJkt })
    (E := fun _ _ => True) ?_ ?_ fun _ _ h => h)
  · unfold TokenUseCase.resolveRefreshGrant
    refine wp_orRefuse_bind.mpr (wp_op.mpr ⟨trivial, fun r _ => ⟨fun _ => trivial, ?_⟩⟩)
    rintro row rfl
    refine wp_refuseIf_bind.mpr ⟨fun _ => trivial, fun _ => ?_⟩
    refine wp_refuseIf_bind.mpr ⟨fun _ => trivial, fun _ => ?_⟩
    refine wp_ask_bind.mpr ⟨trivial, fun now _ => ?_⟩
    refine wp_refuseIf_bind.mpr ⟨fun _ => trivial, fun _ => ?_⟩
    exact wp_refuseIf_bind.mpr ⟨fun _ => trivial, fun _ => wp_pure.mpr rfl⟩
  rintro _ ⟨row, scopes⟩ rfl
  refine wp_refuseIf_bind.mpr ⟨fun _ => trivial, fun _ => ?_⟩
  refine wp_ask_bind.mpr ⟨trivial, fun now _ => ?_⟩
  refine (wp_bind _ _).mpr (wp_mono (evaluateDpop_settled hdpop hrecord request _) ?_
    fun _ _ h => h)
  rintro bond binding ⟨hsettled, hwanted⟩
  exact bond_bind (effectiveResources_unbound u _ _) fun resources =>
    wp_pure.mpr ⟨hsettled, hwanted⟩

/-- A refresh token that names a key is renewed with the proof of that key. -/
theorem ProofSettled.renews {bond : Bond} {stored : RefreshToken} {found : Client}
    {binding : DpopBinding} (h : ProofSettled registered bond found binding)
    (hwanted : bond.wanted = stored.dpopJkt) :
    (if found.clientType = .confidential then ""
      else TokenUseCase.refreshDpopJkt found stored binding) =
      if found.clientType = .confidential then "" else bond.key := by
  by_cases hconfidential : found.clientType = .confidential
  · simp [hconfidential]
  rw [if_neg hconfidential, if_neg hconfidential]
  unfold TokenUseCase.refreshDpopJkt
  by_cases hstored : stored.dpopJkt = ""
  · rw [if_neg (not_not.mpr hstored), if_neg hconfidential, h.key]
  · have hproved := h.honoured
    rw [Bond.Honoured, hwanted] at hproved
    rw [if_pos hstored, Bond.key, hproved hstored]
    rfl

theorem refresh_bond (hdpop : u.dpop = true) (request : TokenRequest) :
    wp (bondMonitor registered) (u.refresh request)
      (fun bond response => bond.Told response) (fun _ _ => True) {} := by
  refine (wp_bind _ _).mpr (wp_mono (checkRefresh_bond hdpop request) ?_ fun _ _ h => h)
  rintro bond g ⟨hsettled, hwanted⟩
  have hbound : (u.refreshIssuance request g).Bound registered bond :=
    ⟨hsettled.honoured, hsettled.key, hsettled.record⟩
  unfold TokenUseCase.renew
  refine (wp_bind _ _).mpr (wp_mono (Q := fun bond' _ => bond' = bond) (E := fun _ _ => True)
    ?_ ?_ fun _ _ h => h)
  · unfold TokenUseCase.rotate
    split
    · exact wp_pure.mpr rfl
    refine wp_ask_bind.mpr ⟨trivial, fun _ _ => wp_ask_bind.mpr ⟨trivial, fun value _ => ?_⟩⟩
    refine wp_ask_bind.mpr ⟨⟨hsettled.honoured, g.client, hsettled.record, rfl, ?_⟩,
      fun _ _ => wp_pure.mpr rfl⟩
    exact hsettled.renews hwanted
  · rintro _ refreshToken rfl
    refine (wp_bind _ _).mpr (wp_mono (issueTokens_bond hbound) ?_ fun _ _ _ => trivial)
    rintro _ ⟨idToken, accessToken, tokenTtl⟩ rfl
    exact wp_pure.mpr (success_told hsettled.bound)

/-- `_client_credentials` and `_jwt_bearer`: no grant is read. -/
theorem accessTokenOnly_bond (hdpop : u.dpop = true) {found : Client}
    (hrecord : registered found) (subject : String)
    (request : TokenRequest) :
    wp (bondMonitor registered) (u.accessTokenOnly found subject request)
      (fun bond response => bond.Told response) (fun _ _ => True) {} := by
  unfold TokenUseCase.accessTokenOnly
  refine bond_bind (effectiveScope_unbound u _ _ _) fun scopes => ?_
  refine (wp_bind _ _).mpr (wp_mono (evaluateDpop_settled hdpop hrecord request _) ?_
    fun _ _ h => h)
  rintro bond binding ⟨hsettled, -⟩
  refine bond_bind (effectiveResources_unbound u _ _) fun resources => ?_
  refine wp_ask_bind.mpr ⟨trivial, fun now _ => ?_⟩
  refine (wp_bind _ _).mpr (wp_mono (issueAccessToken_bond
    ⟨hsettled.honoured, hsettled.key, hsettled.record⟩) ?_ fun _ _ _ => trivial)
  rintro _ ⟨accessToken, tokenTtl⟩ rfl
  exact wp_pure.mpr (success_told hsettled.bound)

theorem clientCredentials_bond (hdpop : u.dpop = true) (request : TokenRequest) :
    wp (bondMonitor registered) (u.clientCredentials request)
      (fun bond response => bond.Told response) (fun _ _ => True) {} := by
  refine (wp_bind _ _).mpr (wp_mono (activeClient_bond _ _) ?_ fun _ _ h => h)
  rintro _ found ⟨rfl, hrecord⟩
  refine wp_refuseIf_bind.mpr ⟨fun _ => trivial, fun _ => ?_⟩
  refine bond_bind (authenticateClient_unbound u _ _) fun _ => ?_
  exact accessTokenOnly_bond hdpop hrecord _ _

theorem jwtBearer_bond (hdpop : u.dpop = true) (request : TokenRequest) :
    wp (bondMonitor registered) (u.jwtBearer request)
      (fun bond response => bond.Told response) (fun _ _ => True) {} := by
  refine (wp_bind _ _).mpr (wp_mono (Q := fun bond x => bond = {} ∧
    registered x.1) (E := fun _ _ => True) ?_ ?_ fun _ _ h => h)
  · unfold TokenUseCase.jwtBearerSubject
    refine wp_refuseIf_bind.mpr ⟨fun _ => trivial, fun _ => ?_⟩
    refine wp_refuseIf_bind.mpr ⟨fun _ => trivial, fun _ => ?_⟩
    refine bond_bind (uses_orRefuse _ _ _) fun preliminary => ?_
    refine wp_refuseIf_bind.mpr ⟨fun _ => trivial, fun _ => ?_⟩
    refine (wp_bind _ _).mpr (wp_mono (activeClient_bond _ _) ?_ fun _ _ h => h)
    rintro _ found ⟨rfl, hrecord⟩
    refine bond_bind (Prog.uses_bind (Prog.uses_op trivial) fun _ => uses_orRefuse _ _ _)
      fun verified => ?_
    split
    · exact wp_fail.mpr trivial
    · exact wp_pure.mpr ⟨rfl, hrecord⟩
    · exact wp_fail.mpr trivial
  · rintro _ ⟨found, subject⟩ ⟨rfl, hrecord⟩
    exact accessTokenOnly_bond hdpop hrecord _ _

/-- A poll that finds its session pending only writes it back. -/
theorem pendingDevice_bond {bond : Bond} (stored : DeviceAuthorization) (now : Instant) :
    wp (bondMonitor registered) (TokenUseCase.devicePendingResponse stored now)
      (fun bond' response => bond'.Told response) (fun _ _ => True) bond := by
  unfold TokenUseCase.devicePendingResponse
  split <;> exact wp_ask_bind.mpr ⟨trivial, fun _ _ => wp_fail.mpr trivial⟩

theorem pendingCiba_bond {bond : Bond} (stored : BackchannelAuthenticationRequest)
    (now : Instant) :
    wp (bondMonitor registered) (TokenUseCase.cibaPendingResponse stored now)
      (fun bond' response => bond'.Told response) (fun _ _ => True) bond := by
  unfold TokenUseCase.cibaPendingResponse
  split <;> exact wp_ask_bind.mpr ⟨trivial, fun _ _ => wp_fail.mpr trivial⟩

theorem deviceCode_bond (hdpop : u.dpop = true) (request : TokenRequest) :
    wp (bondMonitor registered) (u.deviceCode request)
      (fun bond response => bond.Told response) (fun _ _ => True) {} := by
  refine (wp_bind _ _).mpr (wp_mono (Q := fun bond g =>
    ProofSettled registered bond g.client g.binding) (E := fun _ _ => True) ?_ ?_ fun _ _ h => h)
  · unfold TokenUseCase.checkDevice
    refine wp_refuseIf_bind.mpr ⟨fun _ => trivial, fun _ => ?_⟩
    refine wp_refuseIf_bind.mpr ⟨fun _ => trivial, fun _ => ?_⟩
    refine (wp_bind _ _).mpr (wp_mono (activeClient_bond _ _) ?_ fun _ _ h => h)
    rintro _ found ⟨rfl, hrecord⟩
    refine bond_bind (authenticateClient_unbound u _ _) fun _ => ?_
    refine (wp_bind _ _).mpr (wp_mono (evaluateDpop_settled hdpop hrecord request _) ?_
      fun _ _ h => h)
    rintro bond binding ⟨hsettled, -⟩
    have hload : (u.loadDeviceSession request).Uses Call.Unbound := by
      unfold TokenUseCase.loadDeviceSession
      refine Prog.uses_bind (Prog.uses_bind (Prog.uses_op trivial) fun _ => uses_orRefuse _ _ _)
        fun stored => Prog.uses_bind (uses_refuseIf _ _ _) fun _ =>
          Prog.uses_bind (Prog.uses_op trivial) fun now => ?_
      split
      · exact Prog.uses_bind (Prog.uses_op trivial) fun _ => Prog.uses_fail _ _
      · exact Prog.uses_bind (uses_refuseIf _ _ _) fun _ => Prog.uses_pure _ _
    refine bond_bind hload fun stored => ?_
    refine bond_bind (effectiveResources_unbound u _ _) fun resources => ?_
    exact wp_ask_bind.mpr ⟨trivial, fun now _ => wp_pure.mpr hsettled⟩
  intro bond g hsettled
  unfold TokenUseCase.pollDevice
  split
  · refine wp_refuseIf_bind.mpr ⟨fun _ => trivial, fun _ => ?_⟩
    refine wp_ask_bind.mpr ⟨trivial, fun _ _ => ?_⟩
    refine wp_mono (issueSession_bond ⟨hsettled.honoured, hsettled.key, hsettled.record⟩
      hsettled.bound) ?_ fun _ _ _ => trivial
    exact fun _ _ h => h.2
  · exact pendingDevice_bond _ _

theorem cibaApprovedFlow_bond {bond : Bond} {g : Granted BackchannelAuthenticationRequest}
    (hsettled : ProofSettled registered bond g.client g.binding) (tlsCertHash : String) :
    wp (bondMonitor registered) (u.cibaApprovedFlow g tlsCertHash)
      (fun bond' response => bond' = bond ∧ bond'.Told response)
      (fun bond' _ => bond' = bond) bond := by
  refine wp_refuseIf_bind.mpr ⟨fun _ => rfl, fun _ => ?_⟩
  refine wp_ask_bind.mpr ⟨trivial, fun _ _ => ?_⟩
  exact issueSession_bond ⟨hsettled.honoured, hsettled.key, hsettled.record⟩ hsettled.bound

theorem ciba_bond (hdpop : u.dpop = true) (request : TokenRequest) :
    wp (bondMonitor registered) (u.ciba request)
      (fun bond response => bond.Told response) (fun _ _ => True) {} := by
  refine (wp_bind _ _).mpr (wp_mono (Q := fun bond g =>
    ProofSettled registered bond g.client g.binding) (E := fun _ _ => True) ?_ ?_ fun _ _ h => h)
  · unfold TokenUseCase.checkCiba
    refine wp_refuseIf_bind.mpr ⟨fun _ => trivial, fun _ => ?_⟩
    refine wp_refuseIf_bind.mpr ⟨fun _ => trivial, fun _ => ?_⟩
    refine (wp_bind _ _).mpr (wp_mono (activeClient_bond _ _) ?_ fun _ _ h => h)
    rintro _ found ⟨rfl, hrecord⟩
    refine bond_bind (authenticateClient_unbound u _ _) fun _ => ?_
    refine (wp_bind _ _).mpr (wp_mono (evaluateDpop_settled hdpop hrecord request _) ?_
      fun _ _ h => h)
    rintro bond binding ⟨hsettled, -⟩
    have hload : (u.loadCibaSession request).Uses Call.Unbound := by
      unfold TokenUseCase.loadCibaSession
      refine Prog.uses_bind (Prog.uses_bind (Prog.uses_op trivial) fun _ => uses_orRefuse _ _ _)
        fun stored => Prog.uses_bind (uses_refuseIf _ _ _) fun _ =>
          Prog.uses_bind (Prog.uses_op trivial) fun now => ?_
      split
      · exact Prog.uses_bind (Prog.uses_op trivial) fun _ => Prog.uses_fail _ _
      · exact Prog.uses_bind (uses_refuseIf _ _ _) fun _ =>
          Prog.uses_bind (uses_refuseIf _ _ _) fun _ => Prog.uses_pure _ _
    refine bond_bind hload fun stored => ?_
    refine bond_bind (effectiveResources_unbound u _ _) fun resources => ?_
    exact wp_ask_bind.mpr ⟨trivial, fun now _ => wp_pure.mpr hsettled⟩
  intro bond g hsettled
  unfold TokenUseCase.pollCiba
  split
  · exact wp_mono (cibaApprovedFlow_bond hsettled _) (fun _ _ h => h.2) fun _ _ _ => trivial
  · exact pendingCiba_bond _ _

/-- The issuance of a push approval, which may be tried twice: no proof comes with it. -/
theorem issueCibaPushTokens_bond {ε : Type} (stored : BackchannelAuthenticationRequest) :
    wp (bondMonitor registered)
      (outcome (u.issueCibaPushTokens stored) : M ε (Except TokenError TokenResponse))
      (fun bond _ => bond = {}) (fun _ _ => True) {} := by
  refine (wp_handle _ _).mpr ((wp_bind _ _).mpr (wp_mono
    (Q := fun (bond : Bond) _ => bond = {}) (E := fun (bond : Bond) _ => bond = {}) ?_
    (fun _ _ h => wp_pure.mpr h) ?_))
  · refine wp_refuseIf_bind.mpr ⟨fun _ => rfl, fun _ => ?_⟩
    refine wp_orRefuse_bind.mpr (wp_op.mpr ⟨trivial, fun r hr => ⟨fun _ => rfl, ?_⟩⟩)
    intro found hfound
    refine wp_ask_bind.mpr ⟨trivial, fun now _ => ?_⟩
    refine wp_mono (cibaApprovedFlow_bond (g := ⟨stored, found, now, {}, stored.resourceUris⟩)
      ⟨fun h => absurd rfl h, rfl, rfl, hr found hfound⟩ "")
      (fun _ _ h => h.1) fun _ _ h => h
  · intro bond stop h
    cases stop
    case refused => exact wp_pure.mpr h
    case raised => exact wp_fail.mpr trivial

theorem execute_bond (hdpop : u.dpop = true) (request : TokenRequest) :
    wp (bondMonitor registered) (u.execute request)
      (fun bond response => bond.Told response) (fun _ _ => True) {} := by
  obtain ⟨clientId, hexec⟩ := u.execute_cases request
  rw [hexec]
  unfold TokenUseCase.dispatch
  split
  · exact exchangeCode_bond hdpop _
  split
  · exact refresh_bond hdpop _
  split
  · exact clientCredentials_bond hdpop _
  split
  · exact jwtBearer_bond hdpop _
  split
  · exact deviceCode_bond hdpop _
  split
  · exact ciba_bond hdpop _
  split
  · exact preAuthorizedCode_bond hdpop _
  · exact wp_fail.mpr trivial

/-- The answer to a token request tells whether a key was proved. -/
def Bond.Answered (bond : Bond) : Answer → Prop
  | .tokens response => bond.Told response
  | _ => True

theorem cibaExecute_bond {ε : Type} (s : Server) (authReqId : String) (allow : Bool)
    (userCode : String) :
    wp (bondMonitor registered) (s.ciba.execute authReqId allow userCode : M ε Bool)
      (fun _ _ => True) (fun _ _ => True) {} := by
  unfold CibaApprovalUseCase.execute
  split
  · exact wp_pure.mpr trivial
  refine wp_ask_bind.mpr ⟨trivial, fun found _ => ?_⟩
  rcases found with _ | stored
  · exact wp_pure.mpr trivial
  dsimp only
  split
  · exact wp_pure.mpr trivial
  split
  · exact wp_pure.mpr trivial
  change wp (bondMonitor registered) _ _ _ {}
  refine bond_bind ?_ fun _ => bond_bind ?_ fun _ => ?_
  · split <;> exact Prog.uses_op trivial
  · unfold CibaApprovalUseCase.notifyPing
    split
    · exact Prog.uses_pure _ _
    · exact Prog.uses_op trivial
  refine (wp_bind _ _).mpr (wp_mono (Q := fun _ _ => True) (E := fun _ _ => True) ?_
    (fun _ _ _ => wp_pure.mpr trivial) fun _ _ h => h)
  unfold CibaApprovalUseCase.notifyPush
  split
  · exact wp_pure.mpr trivial
  refine (wp_bind _ _).mpr (wp_mono (Q := fun _ _ => True) (E := fun _ _ => True) ?_ ?_
    fun _ _ h => h)
  · split
    · rename_i v hv
      cases hv
      refine (wp_bind _ _).mpr ((wp_bind _ _).mpr (wp_mono
        (issueCibaPushTokens_bond stored) ?_ fun _ _ h => h))
      rintro _ candidate rfl
      unfold TokenUseCase.createCibaPushNotification
      refine (wp_bind _ _).mpr (wp_mono (Q := fun bond _ => bond = {})
        (E := fun _ _ => True) ?_ ?_ fun _ _ h => h)
      · cases candidate.toOption
        case some => exact wp_pure.mpr rfl
        case none =>
            refine (wp_bind _ _).mpr (wp_mono (issueCibaPushTokens_bond stored) ?_
              fun _ _ h => h)
            exact fun _ _ h => wp_pure.mpr h
      · rintro _ response rfl
        exact wp_of_quiet (S := Call.Unbound)
          (Prog.uses_bind (Prog.uses_op trivial) fun _ => Prog.uses_bind (Prog.uses_op trivial)
            fun _ => Prog.uses_bind (Prog.uses_op trivial) fun _ => uses_orRaise _ _)
          bond_quiet (fun _ => wp_pure.mpr trivial) fun _ => trivial
    · exact wp_pure.mpr trivial
  · exact fun _ notification _ => wp_op.mpr ⟨trivial, fun _ _ => trivial⟩

/-- Whatever the request, what it signs and stores is bound to the key it proved. -/
theorem serve_bond (s : Server) (hdpop : s.token.dpop = true) (r : Request) :
    wp (bondMonitor registered) (s.serve r) Bond.Answered (fun _ _ => True) {} := by
  cases r
  case token request =>
      refine (wp_bind _ _).mpr (wp_mono (execute_bond hdpop request) ?_ fun _ _ h => h)
      exact fun _ _ h => wp_pure.mpr h
  case approveDevice userCode subject =>
      refine (wp_bind _ _).mpr (wp_mono (bond_safe (s.decide_uses userCode (some subject))
        rfl rfl _) ?_ fun _ _ h => h)
      exact fun _ _ _ => wp_pure.mpr trivial
  case denyDevice userCode =>
      refine (wp_bind _ _).mpr (wp_mono (bond_safe (s.decide_uses userCode none) rfl rfl _) ?_
        fun _ _ h => h)
      exact fun _ _ _ => wp_pure.mpr trivial
  case decideCiba authReqId allow userCode =>
      refine (wp_bind _ _).mpr (wp_mono (cibaExecute_bond s authReqId allow userCode) ?_
        fun _ _ h => h)
      exact fun _ _ _ => wp_pure.mpr trivial

end

/-! ## Runs -/

/-- What process `i` read and proved up to now. -/
def bondOf (ports : Ports) (i : ι) : List (Event ι Call World) → Bond
  | [] => {}
  | e :: past =>
      if e.pid = i then (bondOf ports i past).next e.call (e.reply (machine ports))
      else bondOf ports i past

/-- Process `i` presented a proof of the key `jkt`, and the proof was accepted. -/
def Proved (ports : Ports) (i : ι) (past : List (Event ι Call World)) (jkt : String) : Prop :=
  ∃ e ∈ past, e.pid = i ∧ ∃ (proof htu method : String) (payload : DPoPProof),
    e.call = .checkDpopProof proof htu method ∧
      ports.checkDpopProof proof htu method e.pre.clock = .ok payload ∧ payload.jkt = jkt

/-- `client` is what the registry has under its name, at some time. -/
def InRegistry (ports : Ports) (w : World) (client : Client) : Prop :=
  ∃ t, World.findClient ports { w with clock := t } client.clientId = some client

theorem ghost_bondOf (ports : Ports) (registered : Client → Prop) (i : ι)
    (past : List (Event ι Call World)) :
    ghost (machine ports) (bondMonitor registered) {} i past = bondOf ports i past := by
  induction past with
  | nil => rfl
  | cons e past ih =>
      unfold ghost bondOf
      rw [ih]
      rfl

omit [DecidableEq ι] in
/-- One more call: a proof that is accepted sets the key proved, every other call leaves it. -/
theorem Bond.next_proved {ports : Ports} {bond : Bond} {e : Event ι Call World} {jkt : String}
    (h : (bond.next e.call (e.reply (machine ports))).proved = some jkt) :
    bond.proved = some jkt ∨ Proved ports e.pid [e] jkt := by
  obtain ⟨pid, call, pre⟩ := e
  cases call
  case checkDpopProof proof htu method =>
    have hreply : (Event.reply (machine ports) ⟨pid, .checkDpopProof proof htu method, pre⟩ :
        Except DpopValidationError DPoPProof)
          = ports.checkDpopProof proof htu method pre.clock := rfl
    simp only [Bond.next, hreply] at h
    cases hchecked : ports.checkDpopProof proof htu method pre.clock with
    | error e =>
        rw [hchecked] at h
        exact .inl h
    | ok payload =>
        rw [hchecked] at h
        exact .inr ⟨_, List.mem_singleton_self _, rfl, proof, htu, method, payload, rfl, hchecked,
          Option.some.inj h⟩
  all_goals exact .inl h

theorem Proved.of_bondOf {ports : Ports} {i : ι} {past : List (Event ι Call World)}
    {jkt : String} (h : (bondOf ports i past).proved = some jkt) : Proved ports i past jkt := by
  induction past with
  | nil => cases h
  | cons e past ih =>
      have hpast : (bondOf ports i past).proved = some jkt → Proved ports i (e :: past) jkt := by
        intro h
        obtain ⟨e', he', hproved⟩ := ih h
        exact ⟨e', List.mem_cons_of_mem _ he', hproved⟩
      unfold bondOf at h
      by_cases hpid : e.pid = i
      · rw [if_pos hpid] at h
        rcases Bond.next_proved h with h | ⟨e', he', hproved⟩
        · exact hpast h
        · rw [List.mem_singleton] at he'
          rw [hpid, he'] at hproved
          exact ⟨e, List.mem_cons_self, hproved⟩
      · rw [if_neg hpid] at h
        exact hpast h

/-- One more call: a request that reads a grant with a key is asked for that key. -/
theorem Bond.next_wanted {bond : Bond} {read : Option Grant} {g : Grant}
    (hbond : read = some g → bond.wanted = g.dpopJkt) (hjkt : g.dpopJkt ≠ "") (c : Call)
    (r : Reply c) (h : (grantRead c r).or read = some g) :
    (bond.next c r).wanted = g.dpopJkt := by
  cases c
  case findByCode code =>
    cases r with
    | none => exact hbond h
    | some row =>
        -- the grant of a code names no key, whatever the code is bound to
        obtain rfl : row.grant = g := Option.some.inj h
        exact absurd rfl hjkt
  case findByTokenHash hash =>
    cases r with
    | none => exact hbond h
    | some row =>
        obtain rfl : row.grant = g := Option.some.inj h
        rfl
  case findByDeviceCodeHash hash =>
    cases r with
    | none => exact hbond h
    | some row =>
        obtain rfl : row.grant = g := Option.some.inj h
        exact absurd rfl hjkt
  case findByAuthReqIdHash hash =>
    cases r with
    | none => exact hbond h
    | some row =>
        obtain rfl : row.grant = g := Option.some.inj h
        exact absurd rfl hjkt
  all_goals exact hbond h

theorem wanted_of_lastRead {ports : Ports} {i : ι} {past : List (Event ι Call World)}
    {g : Grant} (h : lastRead ports i past = some g) (hjkt : g.dpopJkt ≠ "") :
    (bondOf ports i past).wanted = g.dpopJkt := by
  induction past with
  | nil => cases h
  | cons e past ih =>
      unfold lastRead at h
      unfold bondOf
      by_cases hpid : e.pid = i
      · rw [if_pos hpid] at h ⊢
        exact Bond.next_wanted ih hjkt e.call (e.reply (machine ports)) h
      · rw [if_neg hpid] at h ⊢
        exact ih h

/-- In any run, a request signs and stores what its monitor allows, and answers so. -/
theorem binding_allowed {ports : Ports} {s : Server} {w : World} {requests : ι → Request}
    (hdpop : s.token.dpop = true) {tr : List (Event ι Call World)}
    {cfg : Config ι Call Reply (Stop TokenError) Answer World}
    (hrun : Run (machine ports) (s.traffic w requests) tr cfg) :
    (∀ later e past, tr = later ++ e :: past →
      (bondMonitor (InRegistry ports w)).ok (bondOf ports e.pid past) e.call) ∧
    ∀ i, wp (bondMonitor (InRegistry ports w)) (cfg.procs i) Bond.Answered (fun _ _ => True)
      (bondOf ports i tr) := by
  have h := hrun.allowed_on (m := bondMonitor (InRegistry ports w))
    (fun v => v.clients = w.clients) (fun i => serve_bond s hdpop (requests i)) rfl
    (by
      rintro v v' h ⟨t, -, rfl⟩
      exact h)
    (fun c v h => (exec_clients ports c v).trans h)
    (by
      intro bond c v hclients
      cases c
      case findClient id =>
          intro found hfound
          have hid : found.clientId = id := World.findClient_clientId hfound
          refine ⟨v.clock, ?_⟩
          have hfound' : World.findClient ports v id = some found := hfound
          unfold World.findClient at hfound' ⊢
          rw [hid, ← hclients]
          exact hfound'
      all_goals trivial)
  refine ⟨fun later e past htr => ?_, fun i => ?_⟩
  · rw [← ghost_bondOf ports (InRegistry ports w)]
    exact h.1 later e past htr
  · rw [← ghost_bondOf ports (InRegistry ports w)]
    exact h.2 i

/-- Whatever the requests and however they interleave: a request signs an access token or stores
a refresh token only once it proved the key its grant asks for, if it asks for one; the access
token is confirmed by the key proved and by no other, the refresh token of a client that is not
confidential names it, and the answer tells whether there is one. -/
theorem tokens_bound_to_proved_key (ports : Ports) (s : Server) (w : World)
    (requests : ι → Request) (hdpop : s.token.dpop = true) {tr : List (Event ι Call World)}
    {cfg : Config ι Call Reply (Stop TokenError) Answer World}
    (hrun : Run (machine ports) (s.traffic w requests) tr cfg) :
    (∀ later e past, tr = later ++ e :: past →
      (∀ claims, e.call = .createAccessToken claims →
        (bondOf ports e.pid past).Honoured ∧ (bondOf ports e.pid past).Confirms claims) ∧
      ∀ row, e.call = .saveRefreshToken row →
        (bondOf ports e.pid past).Honoured ∧
          (bondOf ports e.pid past).Keeps (InRegistry ports w) row) ∧
    ∀ i response, issued (cfg.procs i) = some response →
      (bondOf ports i tr).Told response := by
  obtain ⟨hallowed, hanswers⟩ := binding_allowed hdpop hrun
  refine ⟨fun later e past htr => ⟨fun claims hcall => ?_, fun row hcall => ?_⟩, ?_⟩
  · have hok := hallowed later e past htr
    rw [hcall] at hok
    exact hok
  · have hok := hallowed later e past htr
    rw [hcall] at hok
    exact hok
  · intro i response hissued
    have hanswer := hanswers i
    rw [eq_of_issued_some hissued] at hanswer
    have htold := wp_pure.mp hanswer
    exact htold

/-! ### A refresh token with a key -/

namespace Sample

/-- The only proof accepted is one of the key `thumbprint`. -/
def provingPorts : Ports :=
  { ports with
    checkDpopProof := fun proof htu method _ =>
      if proof = "proof" then .ok ⟨"thumbprint", "jti", method, htu, ""⟩
      else .error ⟨"invalid_dpop_proof", ""⟩ }

def boundToken : RefreshToken := { refreshToken with dpopJkt := "thumbprint" }

def boundWorld : World := { world with refreshTokens := Table.empty.save boundToken }

def provingServer : Server where
  token := { tokens with dpop := true }

/-- Two requests renewing with the token and the proof. -/
def boundTraffic : Config Bool Call Reply (Stop TokenError) Answer World :=
  provingServer.traffic boundWorld fun _ =>
    .token { refreshRequest with dpopProof := "proof" }

end Sample

/-- The renewal of a request alone, to its end. -/
theorem tokens_bound_to_proved_key_once :
    ∃ response, issued ((Config.schedule (machine Sample.provingPorts)
        (List.replicate 24 false) ([], Sample.boundTraffic)).2.procs false) = some response ∧
      (bondOf Sample.provingPorts false (Config.schedule (machine Sample.provingPorts)
        (List.replicate 24 false) ([], Sample.boundTraffic)).1).Told response := by
  have hdone : (issued ((Config.schedule (machine Sample.provingPorts)
      (List.replicate 24 false) ([], Sample.boundTraffic)).2.procs false)).isSome = true := by
    decide +kernel
  obtain ⟨response, hresponse⟩ := Option.isSome_iff_exists.mp hdone
  have hbound := tokens_bound_to_proved_key Sample.provingPorts Sample.provingServer
    Sample.boundWorld (fun _ => .token { Sample.refreshRequest with dpopProof := "proof" }) rfl
    (Run.ofSchedule (machine Sample.provingPorts) Sample.boundTraffic (List.replicate 24 false))
  exact ⟨response, hresponse, hbound.2 false response hresponse⟩

/-- A chain of renewals of a public client that starts from a refresh token with a key keeps the
key, and every access token signed along it is confirmed by that key, which the request that
signed it proved. -/
theorem refresh_chain_bound (ports : Ports) (s : Server) (w : World) (requests : ι → Request)
    (client : Client) {g₀ g : Grant} (hdpop : s.token.dpop = true)
    (hrecord : RecordStays ports w g₀.clientId client)
    (hpublic : client.clientType = .publicClient) (hjkt : g₀.dpopJkt ≠ "")
    {tr : List (Event ι Call World)}
    {cfg : Config ι Call Reply (Stop TokenError) Answer World}
    (hrun : Run (machine ports) (s.traffic w requests) tr cfg)
    (hchain : Relation.ReflTransGen (Renews ports tr) g₀ g) :
    g.dpopJkt = g₀.dpopJkt ∧
      ∀ later e past claims, tr = later ++ e :: past → e.call = .createAccessToken claims →
        lastRead ports e.pid past = some g →
        Proved ports e.pid past g₀.dpopJkt ∧
          ∀ jti, confirmation (claims.payload jti) "jkt" = some (.str g₀.dpopJkt) := by
  have hconfined : Confined client g₀ g := by
    have hallowed := renewal_allowed hrecord hrun
    induction hchain with
    | refl => exact .refl client g₀
    | tail chain renews ih => exact ih.trans (renews.confined hallowed ih.clientId)
  have hkept : g.dpopJkt = g₀.dpopJkt := hconfined.dpopJkt hpublic hjkt
  refine ⟨hkept, fun later e past claims htr hcall hread => ?_⟩
  have hok := (binding_allowed hdpop hrun).1 later e past htr
  rw [hcall] at hok
  obtain ⟨hhonoured, hconfirms⟩ := hok
  have hwanted : (bondOf ports e.pid past).wanted = g₀.dpopJkt := by
    rw [wanted_of_lastRead hread (hkept ▸ hjkt), hkept]
  have hproved : (bondOf ports e.pid past).proved = some g₀.dpopJkt := by
    rw [← hwanted]
    exact hhonoured (hwanted ▸ hjkt)
  have hkey : (bondOf ports e.pid past).key = g₀.dpopJkt := by
    rw [Bond.key, hproved, Option.getD_some]
  refine ⟨.of_bondOf hproved, fun jti => ?_⟩
  rw [hconfirms jti, hkey, if_neg hjkt]

/-- The renewal of a request alone, up to the refresh token it stores. -/
theorem refresh_chain_bound_once :
    ∃ g, lastRenewal Sample.provingPorts (Config.schedule (machine Sample.provingPorts)
        (List.replicate 12 false) ([], Sample.boundTraffic)).1
          = some (Sample.boundToken.grant, g) ∧ g.dpopJkt = "thumbprint" := by
  have hfirst : (lastRenewal Sample.provingPorts (Config.schedule (machine Sample.provingPorts)
      (List.replicate 12 false) ([], Sample.boundTraffic)).1).map Prod.fst
        = some Sample.boundToken.grant := by decide
  obtain ⟨⟨g, g'⟩, hrenewal, rfl⟩ := Option.map_eq_some_iff.mp hfirst
  have hkept := refresh_chain_bound Sample.provingPorts Sample.provingServer Sample.boundWorld
    (fun _ => .token { Sample.refreshRequest with dpopProof := "proof" }) Sample.client rfl
    (show RecordStays Sample.provingPorts Sample.boundWorld Sample.boundToken.grant.clientId
      Sample.client from fun t c hc => Sample.client_of_findClient rfl t hc)
    rfl (by decide)
    (Run.ofSchedule (machine Sample.provingPorts) Sample.boundTraffic (List.replicate 12 false))
    (Relation.ReflTransGen.single (Renews.of_lastRenewal hrenewal))
  exact ⟨g', hrenewal, hkept.1⟩

end PurIdentityServer

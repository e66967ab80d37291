import PurIdentityServer.Application.AuthorizeCalls
import PurIdentityServer.Application.ClientEndpoints
import PurIdentityServer.Application.RequestObjectBinding

/-!
# Par — pushed authorization requests

`POST /par` authenticates the client, validates its authorization request
and stores the parameters under a fresh `request_uri`. `resolve` rebuilds
the request when `/authorize` presents the reference, and `complete`
marks it as used once a response has been issued.
-/

namespace PurIdentityServer

open Effects

/-! ## Parameters -/

/-- The parameters of a request as a dictionary: each name once. -/
structure Form where
  params : Params
  nodup : (Dict.keys params).Nodup

namespace Form

/-- `{**params, name: value}` -/
def set (form : Form) (name value : String) : Form :=
  ⟨Dict.set form.params name value, Dict.nodup_keys_set form.nodup name value⟩

/-- The dictionary without the given names. -/
def without (form : Form) (names : List String) : Form :=
  ⟨form.params.filter fun item => item.1 ∉ names, Dict.nodup_keys_filter form.nodup _⟩

end Form

/-- What the resolver of request objects answers to a dictionary is a dictionary. -/
theorem RequestObjectResolver.resolve_nodup {κ : Type} {resolver : RequestObjectResolver κ}
    {at_ : Readings} {form : Form} {merged : Params} {sessionScope : String}
    {replays replays' : ReplayStore}
    (h : resolver.resolve at_ form.params sessionScope replays = .ok (.ok merged, replays')) :
    (Dict.keys merged).Nodup := by
  have hwithout : ∀ p : String × String → Bool, (Dict.keys (form.params.filter p)).Nodup :=
    Dict.nodup_keys_filter form.nodup
  cases hpresented : resolver.presented form.params with
  | error e =>
      unfold RequestObjectResolver.resolve at h
      rw [hpresented] at h
      cases h
  | ok document =>
      by_cases hne : document = ""
      · unfold RequestObjectResolver.resolve at h
        rw [hpresented] at h
        simp only [hne, if_true] at h
        have hplain : RequestObjectResolver.withoutRequestObject form.params
            (resolver.findClient (form.params.text "client_id")) = .ok merged :=
          congrArg Prod.fst (Except.ok.inj h)
        have hmerged : merged = form.params := by
          unfold RequestObjectResolver.withoutRequestObject at hplain
          split at hplain
          · split at hplain <;> cases hplain
            rfl
          · cases hplain
            rfl
        rw [hmerged]
        exact form.nodup
      · cases RequestObjectResolver.resolve_readAs hpresented hne h with
        | unsigned claims _ _ _ hmerged =>
            rw [hmerged]
            exact Dict.nodup_keys_update (hwithout _) _
        | signed client claims _ _ _ _ _ hmerged =>
            rw [hmerged]
            exact Dict.nodup_keys_update (hwithout _) _
        | fapi client claims _ _ _ hmerged =>
            rw [hmerged]
            exact Dict.nodup_keys_update (hwithout _) _

/-- `parse_max_age` -/
def parseMaxAge (value : String) : Int :=
  if value = "" then -1
  else
    match (Json.str value).toInt with
    | .error _ => -2
    | .ok parsed => if 0 ≤ parsed then parsed else -2

/-- The authorization request of a dictionary of parameters. -/
def authorizeRequestOf (params : Params) (clientId : String) : AuthorizeRequest where
  responseType := params.text "response_type"
  clientId := clientId
  redirectUri := params.text "redirect_uri"
  scope := params.text "scope"
  state := params.text "state"
  nonce := params.text "nonce"
  codeChallenge := params.text "code_challenge"
  codeChallengeMethod := (Dict.get params "code_challenge_method").getD "S256"
  responseMode := params.text "response_mode"
  prompt := params.text "prompt"
  maxAge := parseMaxAge (params.text "max_age")
  acrValues := params.text "acr_values"
  claims := params.text "claims"
  dpopJkt := params.text "dpop_jkt"
  resource := params.text "resource"
  openid2Realm := params.text "openid2_realm"
  authorizationDetails := params.text "authorization_details"

/-! ## Answers -/

structure PushResult where
  requestUri : String
  expiresIn : Int

structure PushError where
  error : String
  errorDescription : String := ""
  statusCode : Int := 400
  redirectUri : String := ""
  state : String := ""
  responseMode : ResponseMode := .query

/-- `_fapi_pkce_error` -/
def checkFapiPkce (params : Params) (fapi2 : Bool) : M PushError Unit := do
  let fapiName := if fapi2 then "FAPI2" else "FAPI1"
  let requirement := if fapi2 then "FAPI2-SP-5.3.2.2-5" else "FAPI1-ADV-5.2.2-18"
  refuseIf (params.text "code_challenge" = "")
    { error := "invalid_request"
      errorDescription := "PKCE (code_challenge) requis pour un client " ++ fapiName ++
        " via PAR (" ++ requirement ++ ")" }
  refuseIf ((Dict.get params "code_challenge_method").getD "S256" ≠ "S256")
    { error := "invalid_request"
      errorDescription := "code_challenge_method doit être 'S256' pour un client " ++
        fapiName ++ " (" ++ requirement ++ ")" }

/-- `_validated_push_error` -/
def validatedPushError (validated : AuthorizeError) : PushError :=
  let unregistered := validated.error = "invalid_redirect_uri"
  let error := if unregistered then "invalid_request" else validated.error
  { error := error
    errorDescription :=
      if unregistered ∧ validated.errorDescription = "" then
        "redirect_uri non enregistrée pour ce client (RFC 6749 §4.1.2.1)"
      else validated.errorDescription
    statusCode := if error = "invalid_client" then 401 else 400 }

/-- `_invalid_pushed_error` -/
def invalidPushedError (pushed : PushedAuthorization) (error description : String) :
    PushError where
  error := error
  errorDescription := description
  redirectUri := Params.text pushed.params "redirect_uri"
  state := Params.text pushed.params "state"
  responseMode :=
    if Params.text pushed.params "response_mode" = "fragment" then .fragment
    else if Params.text pushed.params "response_mode" = "form_post" then .formPost
    else .query

/-- A use case that refuses with another error. -/
def refusingWith {ε ε' α : Type} (f : ε → ε') (p : M ε α) : M ε' α :=
  p.handle fun
    | .refused e => refuse (f e)
    | .raised x => raise x

/-! ## The use case -/

/-- What the resolver of request objects answers at one moment; `.ok` without one. -/
abbrev FormResolution := Form → Except RequestObjectError Form

/-- `PushedAuthorizationUseCase`, behind the client authentication of the server. -/
structure PushedAuthorizationUseCase (κ : Type) where
  endpoints : ClientEndpoints κ
  ttlSeconds : Int := 90
  scopeRegistry : Option ScopeRegistry := none
  /-- a validator of DPoP proofs is injected -/
  dpop : Bool := true

namespace PushedAuthorizationUseCase

variable {κ : Type} (b : PushedAuthorizationUseCase κ)

abbrev platform : Platform := b.endpoints.tokens.platform

/-- `_check_dpop_proof` -/
def checkDpopProof (params : Params) (dpopProof : String) :
    M PushError (Option DPoPProof) :=
  if dpopProof = "" then pure none
  else do
    refuseIf (¬b.dpop)
      { error := "invalid_dpop_proof"
        errorDescription := "Validation DPoP indisponible : preuve refusée" }
    match ← validateProof b.platform dpopProof b.endpoints.par.parEndpoint "POST" with
    | .error e =>
        refuse { error := "invalid_dpop_proof", errorDescription := e.errorDescription }
    | .ok result => do
        refuseIf (params.text "dpop_jkt" ≠ "" ∧ params.text "dpop_jkt" ≠ result.jkt)
          { error := "invalid_dpop_proof"
            errorDescription :=
              "dpop_jkt ne correspond pas à la preuve DPoP (RFC 9449 §10.1)" }
        pure (some result)

/-- The parameters with the thumbprint of an accepted proof, unless they have one. -/
def bindProof (form : Form) : Option DPoPProof → Form
  | none => form
  | some proof =>
      if (Dict.get form.params "dpop_jkt").isNone then form.set "dpop_jkt" proof.jkt else form

/-- What a push has settled before it stores the request. -/
structure Checked where
  client : Client
  form : Form
  proof : Option DPoPProof
  validated : ValidatedAuthorization

/-- The request a push validates. -/
def Checked.request (checked : Checked) : AuthorizeRequest :=
  authorizeRequestOf checked.form.params checked.client.clientId

/-- `push` from the authentication of the client to the validation. -/
def checkForm (form : Form) (dpopProof : String) : M PushError Checked := do
  let client ← refusingWith (fun e => ⟨e.error, e.errorDescription, e.statusCode, "", "", .query⟩)
    (b.endpoints.pushClient form.params)
  let form := form.set "client_id" client.clientId
  if client.fapiEnabled ∨ client.fapi2Enabled then
    checkFapiPkce form.params client.fapi2Enabled
  let proof ← b.checkDpopProof form.params dpopProof
  let form := bindProof form proof
  let validated ← refusingWith validatedPushError (validateAuthorizationRequest b.platform
    b.scopeRegistry (authorizeRequestOf form.params client.clientId))
  pure ⟨client, form, proof, validated⟩

/-- `push` up to the draw of the reference. -/
def check (resolveObject : FormResolution) (form : Form) (dpopProof : String) :
    M PushError Checked := do
  refuseIf (form.params.text "request_uri" ≠ "")
    { error := "invalid_request"
      errorDescription :=
        "request_uri ne doit pas être inclus dans la requête de push (RFC 9126 §2)" }
  match resolveObject form with
  | .error e => refuse { error := e.error, errorDescription := e.errorDescription }
  | .ok resolved => b.checkForm resolved dpopProof

/-- The row of an accepted push. -/
def row (checked : Checked) (reference : String) (now : Instant) : PushedAuthorization where
  requestUri := pushedRequestUriPrefix ++ reference
  clientId := checked.client.clientId
  params := (checked.form.without ["client_secret"]).params
  expiresAt := now + seconds b.ttlSeconds

/-- The end of `push`. -/
def store (checked : Checked) : M PushError PushResult := do
  let reference ← ask .tokenUrlsafe
  let now ← ask .now
  let _ ← ask (.savePushed (b.row checked reference now))
  pure ⟨pushedRequestUriPrefix ++ reference, b.ttlSeconds⟩

/-- `push` -/
def push (resolveObject : FormResolution) (form : Form) (dpopProof : String) :
    M PushError PushResult :=
  b.check resolveObject form dpopProof >>= b.store

/-- `resolve` -/
def resolve (requestUri clientId : String) : M PushError AuthorizeRequest := do
  match ← ask (.findByRequestUri requestUri) with
  | none =>
      refuse
        { error := "invalid_request_uri", errorDescription := "request_uri inconnu ou expiré" }
  | some pushed => do
      let now ← ask .now
      if pushed.expiresAt ≤ now then do
        let _ ← ask (.deletePushed requestUri)
        refuse (invalidPushedError pushed "invalid_request_uri" "request_uri expiré")
      else if pushed.isConsumed then do
        let _ ← ask (.deletePushed requestUri)
        refuse (invalidPushedError pushed "invalid_request_uri" "request_uri déjà utilisé")
      else do
        refuseIf (pushed.clientId ≠ clientId) (invalidPushedError pushed "invalid_request"
          "client_id ne correspond pas à la requête poussée")
        pure (authorizeRequestOf pushed.params
          ((Dict.get pushed.params "client_id").getD clientId))

/-- `complete` -/
def complete {ε : Type} (requestUri : String) : M ε Unit := do
  match ← ask (.findByRequestUri requestUri) with
  | none => pure ()
  | some _ => do
      let _ ← ask (.consumePushed requestUri)
      pure ()

end PushedAuthorizationUseCase

/-! ## What the parts of a push call -/

theorem refusingWith_uses {ε ε' α : Type} {S : Call → Prop} (f : ε → ε') {p : M ε α}
    (hp : p.Uses S) : (refusingWith f p).Uses S := by
  refine Prog.uses_handle hp fun stop => ?_
  cases stop with
  | refused e => exact Prog.uses_fail _ _
  | raised x => exact Prog.uses_fail _ _

theorem ClientEndpoints.pushClient_uses {κ : Type} (s : ClientEndpoints κ) (params : Params) :
    (s.pushClient params).Uses Call.Passive := by
  refine Prog.uses_bind (uses_refuseIf _ _ _) fun _ => ?_
  refine Prog.uses_bind (Prog.uses_bind (Prog.uses_op rfl) fun _ => uses_orRefuse _ _ _)
    fun client => ?_
  refine Prog.uses_bind (uses_refuseIf _ _ _) fun _ => ?_
  refine Prog.uses_bind (uses_refuseIf _ _ _) fun _ => ?_
  refine Prog.uses_bind (Call.uses_mono (authenticateClient_uses ..) rfl) fun detail => ?_
  cases detail with
  | none => exact Prog.uses_pure _ _
  | some detail => exact Prog.uses_fail _ _

namespace PushedAuthorizationUseCase

variable {κ : Type} (b : PushedAuthorizationUseCase κ)

theorem checkDpopProof_uses (params : Params) (dpopProof : String) :
    (b.checkDpopProof params dpopProof).Uses Call.Passive := by
  unfold checkDpopProof
  split
  · exact Prog.uses_pure _ _
  refine Prog.uses_bind (uses_refuseIf _ _ _) fun _ => ?_
  refine Prog.uses_bind (Call.uses_mono (validateProof_uses ..) rfl) fun result => ?_
  cases result with
  | error e => exact Prog.uses_fail _ _
  | ok result => exact Prog.uses_bind (uses_refuseIf _ _ _) fun _ => Prog.uses_pure _ _

theorem checkForm_uses (form : Form) (dpopProof : String) :
    (b.checkForm form dpopProof).Uses Call.Passive := by
  refine Prog.uses_bind (refusingWith_uses _ (b.endpoints.pushClient_uses _)) fun client => ?_
  have hrest : ∀ form : Form, (do
      let proof ← b.checkDpopProof form.params dpopProof
      let form := bindProof form proof
      let validated ← refusingWith validatedPushError (validateAuthorizationRequest b.platform
        b.scopeRegistry (authorizeRequestOf form.params client.clientId))
      pure ⟨client, form, proof, validated⟩ : M PushError Checked).Uses Call.Passive := by
    intro form
    refine Prog.uses_bind (b.checkDpopProof_uses _ _) fun proof => ?_
    refine Prog.uses_bind (refusingWith_uses _ (Call.uses_mono
      (validateAuthorizationRequest_uses _ _ _) rfl)) fun validated => ?_
    exact Prog.uses_pure _ _
  dsimp only
  split
  · refine Prog.uses_bind ?_ fun _ => hrest _
    exact Prog.uses_bind (uses_refuseIf _ _ _) fun _ => uses_refuseIf _ _ _
  · exact hrest _

theorem check_uses (resolveObject : FormResolution) (form : Form) (dpopProof : String) :
    (b.check resolveObject form dpopProof).Uses Call.Passive := by
  refine Prog.uses_bind (uses_refuseIf _ _ _) fun _ => ?_
  cases resolveObject form with
  | error e => exact Prog.uses_fail _ _
  | ok resolved => exact b.checkForm_uses _ _

/-! ## What an accepted push has validated -/

theorem run_refusingWith_ok {ε ε' α : Type} {ports : Ports} (f : ε → ε') {p : M ε α} {a : α}
    {w w' : World} : (refusingWith f p).run (exec ports) w = (.ok a, w') ↔
      p.run (exec ports) w = (.ok a, w') := by
  unfold refusingWith
  induction p generalizing w with
  | pure b => simp [Prog.handle, Prog.run]
  | fail stop => cases stop <;> simp [Prog.handle, Prog.run, refuse, raise]
  | call c k ih => exact ih _

theorem bindProof_get (form : Form) (proof : Option DPoPProof) {name : String}
    (h : name ≠ "dpop_jkt") :
    Dict.get (bindProof form proof).params name = Dict.get form.params name := by
  cases proof with
  | none => rfl
  | some proof =>
      rw [bindProof]
      split
      · exact Dict.get_set_of_ne _ h _
      · rfl

/-- What is known of a push that has passed its checks. -/
structure Passed (ports : Ports) (checked : Checked) (w' : World) : Prop where
  named : Dict.get checked.form.params "client_id" = some checked.client.clientId
  validated : ∃ w, (validateAuthorizationRequest b.platform b.scopeRegistry
    checked.request).run (exec ports) w = (.ok checked.validated, w')

theorem checkForm_passed {ports : Ports} {form : Form} {dpopProof : String} {checked : Checked}
    {w w' : World}
    (h : (b.checkForm form dpopProof).run (exec ports) w = (.ok checked, w')) :
    b.Passed ports checked w' := by
  obtain ⟨client, w₁, -, h⟩ := Prog.run_bind_ok.mp h
  have hend : ∀ w, (do
      let proof ← b.checkDpopProof (form.set "client_id" client.clientId).params dpopProof
      let form := bindProof (form.set "client_id" client.clientId) proof
      let validated ← refusingWith validatedPushError (validateAuthorizationRequest b.platform
        b.scopeRegistry (authorizeRequestOf form.params client.clientId))
      pure ⟨client, form, proof, validated⟩ : M PushError Checked).run (exec ports) w =
        (.ok checked, w') → b.Passed ports checked w' := by
    intro w h
    obtain ⟨proof, w₂, -, h⟩ := Prog.run_bind_ok.mp h
    obtain ⟨validated, w₃, hvalidate, h⟩ := Prog.run_bind_ok.mp h
    obtain ⟨rfl, rfl⟩ := Prog.run_pure_ok.mp h
    refine ⟨?_, w₂, (run_refusingWith_ok _).mp hvalidate⟩
    show Dict.get (bindProof _ proof).params "client_id" = some client.clientId
    rw [bindProof_get _ _ (by decide)]
    exact Dict.get_set_self _ _ _
  dsimp only at h
  split at h
  · obtain ⟨_, w₂, -, h⟩ := Prog.run_bind_ok.mp h
    exact hend w₂ h
  · exact hend w₁ h

theorem check_passed {ports : Ports} {resolveObject : FormResolution} {form : Form}
    {dpopProof : String} {checked : Checked} {w w' : World}
    (h : (b.check resolveObject form dpopProof).run (exec ports) w = (.ok checked, w')) :
    b.Passed ports checked w' := by
  obtain ⟨-, h⟩ := run_refuseIf_bind_ok.mp h
  cases hresolved : resolveObject form with
  | error e =>
      rw [hresolved] at h
      cases h
  | ok resolved =>
      rw [hresolved] at h
      exact b.checkForm_passed h

/-! ## What is stored is what was validated -/

theorem text_without (form : Form) {names : List String} {name : String} (h : name ∉ names) :
    Dict.get (form.without names).params name = Dict.get form.params name := by
  show Dict.get (form.params.filter fun item => item.1 ∉ names) name = _
  rw [Dict.get_filter (fun key => decide (key ∉ names))]
  simp [h]

/-- The stored parameters give the request that was validated. -/
theorem authorizeRequestOf_row {ports : Ports} {checked : Checked} {w : World}
    (h : b.Passed ports checked w) (reference clientId : String) (now : Instant) :
    authorizeRequestOf (b.row checked reference now).params
      ((Dict.get (b.row checked reference now).params "client_id").getD clientId) =
        checked.request := by
  have hkeep : ∀ name, name ∉ ["client_secret"] →
      Dict.get (b.row checked reference now).params name = Dict.get checked.form.params name :=
    fun name hname => text_without checked.form hname
  rw [hkeep "client_id" (by decide), h.named]
  simp only [authorizeRequestOf, Checked.request, Params.text, Option.getD_some]
  simp (disch := decide) only [hkeep]

end PushedAuthorizationUseCase

end PurIdentityServer

import PurIdentityServer.Application.Decisions
import PurIdentityServer.Application.TokenCalls

/-!
# DeviceAuthorize — the device authorization endpoint

`/device_authorization` draws a device code for the client to poll with and
a user code to show. The row it stores has the digest of the first and the
second as it is; what is shown is the second with a dash in its middle,
which the page that takes a decision strips again.
-/

namespace PurIdentityServer

open Effects

/-- `_USER_CODE_ALPHABET` -/
def userCodeAlphabet : List Char := "ABCDEFGHJKLMNPQRSTUVWXYZ23456789".toList

/-- `DeviceConfig` -/
structure DeviceConfig where
  issuer : String
  baseUrl : String := ""
  ttlSeconds : Int := 900
  intervalSeconds : Int := 5

structure DeviceAuthorizationRequest where
  clientId : String
  clientSecret : String := ""
  scope : String := ""

structure DeviceAuthorizationResult where
  deviceCode : String
  userCode : String
  verificationUri : String
  verificationUriComplete : String
  expiresIn : Int
  interval : Int

structure DeviceAuthorizationError where
  error : String
  errorDescription : String := ""
  deriving DecidableEq

/-- `DeviceAuthorizationUseCase` -/
structure DeviceAuthorizationUseCase where
  platform : Platform
  config : DeviceConfig
  scopeRegistry : Option ScopeRegistry := none

namespace DeviceAuthorizationUseCase

/-! ## User codes -/

/-- `format_user_code` -/
def formatUserCode (p : Platform) (code : String) : String :=
  let compact := (normalizeUserCode p code).toList
  String.ofList (compact.take 4) ++ "-" ++ String.ofList (compact.drop 4)

/-- The platform leaves capital letters, digits and dashes in upper case. -/
def KeepsUpper (p : Platform) : Prop :=
  ∀ text : String, (∀ c ∈ text.toList, c ∈ userCodeAlphabet ∨ c = '-') → p.upper text = text

/-- `[^0-9A-Z]` is stripped. -/
def isCodeChar (c : Char) : Bool := ('0' ≤ c && c ≤ '9') || ('A' ≤ c && c ≤ 'Z')

theorem isCodeChar_of_mem {c : Char} (h : c ∈ userCodeAlphabet) : isCodeChar c = true := by
  have hall : userCodeAlphabet.all isCodeChar = true := by decide
  exact List.all_eq_true.mp hall c h

variable {p : Platform} {code : String}

theorem normalize_toList (hupper : p.upper code = code) :
    (normalizeUserCode p code).toList = code.toList.filter isCodeChar := by
  unfold normalizeUserCode
  rw [hupper, String.toList_ofList]
  rfl

/-- A drawn code is its own compact form. -/
theorem normalize_of_alphabet (hkeeps : KeepsUpper p)
    (h : ∀ c ∈ code.toList, c ∈ userCodeAlphabet) : normalizeUserCode p code = code := by
  rw [← String.toList_inj, normalize_toList (hkeeps code fun c hc => .inl (h c hc)),
    List.filter_eq_self]
  intro c hc
  exact isCodeChar_of_mem (h c hc)

/-- What is shown for a drawn code is read back as that code. -/
theorem normalize_format (hkeeps : KeepsUpper p)
    (h : ∀ c ∈ code.toList, c ∈ userCodeAlphabet) :
    normalizeUserCode p (formatUserCode p code) = code := by
  have hshown : (formatUserCode p code).toList =
      code.toList.take 4 ++ '-' :: code.toList.drop 4 := by
    unfold formatUserCode
    rw [normalize_of_alphabet hkeeps h]
    simp
  have hupper : p.upper (formatUserCode p code) = formatUserCode p code := by
    refine hkeeps _ fun c hc => ?_
    rw [hshown] at hc
    rcases List.mem_append.mp hc with hc | hc
    · exact .inl (h c (List.mem_of_mem_take hc))
    · rcases List.mem_cons.mp hc with rfl | hc
      · exact .inr rfl
      · exact .inl (h c (List.mem_of_mem_drop hc))
  have hall : ∀ c ∈ code.toList, isCodeChar c = true := fun c hc => isCodeChar_of_mem (h c hc)
  have hdash : isCodeChar '-' = false := by decide
  rw [← String.toList_inj, normalize_toList hupper, hshown, List.filter_append,
    List.filter_cons_of_neg (by simp [hdash]), ← List.filter_append, List.take_append_drop,
    List.filter_eq_self.mpr hall]

/-! ## The endpoint -/

variable (d : DeviceAuthorizationUseCase)

def resolveBaseUrl : String :=
  Text.rstripSlash (if d.config.baseUrl ≠ "" then d.config.baseUrl else d.config.issuer)

/-- The scopes of a request: those it asks for, or all the ones of the client. -/
def requestedScopes (client : Client) (request : DeviceAuthorizationRequest) : Finset Scope :=
  if request.scope = "" then client.scopes else Scope.fromSpaceSeparated request.scope

/-- The refusal of scopes no registry knows. -/
def checkRegistered (scopes : Finset Scope) : M DeviceAuthorizationError Unit :=
  match d.scopeRegistry with
  | none => pure ()
  | some registry => do
      let unknown ← registry.unknownScopes scopes
      refuseIf (unknown ≠ [])
        ⟨"invalid_scope", "Scope(s) non enregistré(s) : " ++ Text.join ", " unknown⟩

/-- The client of a request, once its secret is checked. -/
def checkClient (request : DeviceAuthorizationRequest) :
    M DeviceAuthorizationError Client := do
  let client ← ask (.findClient request.clientId) >>=
    orRefuse ⟨"invalid_client", clientUnknownError⟩
  refuseIf (¬client.isActive) ⟨"invalid_client", clientUnknownError⟩
  refuseIf (client.clientType = .confidential ∧
      ¬verifyClientSecret d.platform client request.clientSecret)
    ⟨"invalid_client", "Secret client invalide"⟩
  pure client

/-- The row of a new session. -/
def session (client : Client) (scopes : Finset Scope) (deviceCode userCode : String)
    (now : Instant) : DeviceAuthorization where
  deviceCodeHash := tokenHash d.platform deviceCode
  userCode := userCode
  clientId := client.clientId
  scopes := scopes
  expiresAt := now + seconds
    (resolveLifetimeSeconds client.deviceCodeLifetimeSeconds d.config.ttlSeconds)
  interval := resolveLifetimeSeconds client.deviceCodeIntervalSeconds d.config.intervalSeconds

/-- The answer to the client. -/
def result (client : Client) (deviceCode userCode : String) : DeviceAuthorizationResult :=
  let formatted := formatUserCode d.platform userCode
  let verificationUri := d.resolveBaseUrl ++ "/device"
  { deviceCode := deviceCode
    userCode := formatted
    verificationUri := verificationUri
    verificationUriComplete := verificationUri ++ "?user_code=" ++ formatted
    expiresIn := resolveLifetimeSeconds client.deviceCodeLifetimeSeconds d.config.ttlSeconds
    interval :=
      resolveLifetimeSeconds client.deviceCodeIntervalSeconds d.config.intervalSeconds }

/-- `execute` -/
def execute (request : DeviceAuthorizationRequest) :
    M DeviceAuthorizationError DeviceAuthorizationResult := do
  let client ← d.checkClient request
  let scopes := requestedScopes client request
  refuseIf (¬scopes ⊆ client.scopes)
    ⟨"invalid_scope", "Portée jamais enregistrée pour le client"⟩
  d.checkRegistered scopes
  let deviceCode ← ask .tokenUrlsafe
  let userCode ← ask .generateUserCode
  let now ← ask .now
  let _ ← ask (.saveDevice (d.session client scopes deviceCode userCode now))
  pure (d.result client deviceCode userCode)

theorem checkRegistered_uses (scopes : Finset Scope) :
    (d.checkRegistered scopes).Uses (Call.In [.passive]) := by
  unfold checkRegistered
  cases d.scopeRegistry with
  | none => exact Prog.uses_pure _ _
  | some registry =>
      exact Prog.uses_bind (ScopeRegistry.unknownScopes_uses ..) fun _ => uses_refuseIf _ _ _

end DeviceAuthorizationUseCase

end PurIdentityServer

import PurIdentityServer.Application.Token

/-!
# Decisions — the user's answer to a device or backchannel session

`DeviceAuthorizationUseCase` approves or denies the session of a user
code, `CibaApprovalUseCase` the session of an `auth_req_id`, and then
notifies the client: a ping, or in push mode the tokens themselves.
-/

namespace PurIdentityServer

open Effects

/-- `normalize_user_code`. -/
def normalizeUserCode (p : Platform) (code : String) : String :=
  String.ofList ((p.upper code).toList.filter fun c =>
    ('0' ≤ c && c ≤ '9') || ('A' ≤ c && c ≤ 'Z'))

structure DeviceDecision where
  accepted : Bool
  message : String
  deriving DecidableEq, Repr

namespace DeviceAuthorizationUseCase

variable {ε : Type} (p : Platform)

/-- `_decide`; `none` denies, `some subject` approves. -/
def decide (userCode : String) (subject : Option String) : M ε DeviceDecision :=
  let code := normalizeUserCode p userCode
  if code = "" then pure ⟨false, "Saisissez le code affiché sur votre appareil."⟩
  else do
    match ← ask (.findByUserCode code) with
    | none => pure ⟨false, "Code inconnu : vérifiez la saisie."⟩
    | some stored => do
        let now ← ask .now
        if stored.expiresAt < now then do
          let _ ← ask (.deleteDevice stored.deviceCodeHash)
          pure ⟨false, "Ce code a expiré : relancez la demande sur l'appareil."⟩
        else
          match stored.status, subject with
          | .approved, _ => pure ⟨false, "Cet appareil est déjà autorisé."⟩
          | .denied, _ => pure ⟨false, "Cet appareil a déjà été refusé."⟩
          | .pending, some subject => do
              let _ ← ask (.approveDevice stored.deviceCodeHash subject)
              pure ⟨true, "Appareil autorisé : vous pouvez retourner à l'appareil."⟩
          | .pending, none => do
              let _ ← ask (.denyDevice stored.deviceCodeHash)
              pure ⟨true, "Appareil refusé : vous pouvez retourner à l'appareil."⟩

/-- `approve`. -/
def approve (userCode subject : String) : M ε DeviceDecision :=
  decide p userCode (some subject)

/-- `deny`. -/
def deny (userCode : String) : M ε DeviceDecision := decide p userCode none

end DeviceAuthorizationUseCase

/-- `CibaApprovalUseCase`; the flags tell which notifiers are injected. -/
structure CibaApprovalUseCase where
  platform : Platform
  pingNotifier : Bool := true
  pushNotifier : Bool := true
  tokenUseCase : Option TokenUseCase := none

namespace CibaApprovalUseCase

variable {ε : Type} (a : CibaApprovalUseCase)

/-- `_notify_ping`. -/
def notifyPing (stored : BackchannelAuthenticationRequest) (authReqId : String) :
    M ε Unit :=
  if ¬ a.pingNotifier ∨ stored.deliveryMode ≠ "ping" ∨
      stored.clientNotificationEndpoint = "" ∨ stored.clientNotificationToken = "" then
    pure ()
  else ask (.notifyPing stored.clientNotificationEndpoint stored.clientNotificationToken
    authReqId)

/-- The notification `_notify_push` builds from the token use case. -/
def pushNotification (u : TokenUseCase) (stored : BackchannelAuthenticationRequest)
    (authReqId : String) : M ε String := do
  let candidate ← outcome (u.issueCibaPushTokens stored)
  u.createCibaPushNotification stored authReqId candidate.toOption

/-- `_notify_push`. -/
def notifyPush (stored : BackchannelAuthenticationRequest) (authReqId : String)
    (allow : Bool) : M ε Unit :=
  if ¬ a.pushNotifier ∨ stored.deliveryMode ≠ "push" ∨
      stored.clientNotificationEndpoint = "" ∨ stored.clientNotificationToken = "" then
    pure ()
  else do
    let notification ← (match allow, a.tokenUseCase with
      | true, some u => do
          let notification ← pushNotification u stored authReqId
          pure (some notification)
      | _, _ => pure none : M ε (Option String))
    ask (.notifyPush stored.clientNotificationEndpoint stored.clientNotificationToken
      authReqId notification)

/-- Whether the user code typed for a session is the one it asks for. -/
def userCodeMatches (stored : BackchannelAuthenticationRequest) (userCode : String) :
    Bool :=
  stored.userCode = "" ||
    normalizeUserCode a.platform userCode = normalizeUserCode a.platform stored.userCode

/-- `CibaApprovalUseCase.execute`. -/
def execute (authReqId : String) (allow : Bool) (userCode : String) : M ε Bool :=
  if authReqId = "" then pure false
  else do
    let authReqIdHash := tokenHash a.platform authReqId
    match ← ask (.findByAuthReqIdHash authReqIdHash) with
    | none => pure false
    | some stored =>
        if stored.status ≠ .pending then pure true
        else if ¬ a.userCodeMatches stored userCode then pure false
        else do
          let _ ← (if allow then ask (.approveBackchannel authReqIdHash)
            else ask (.denyBackchannel authReqIdHash) : M ε Unit)
          a.notifyPing stored authReqId
          a.notifyPush stored authReqId allow
          pure true

end CibaApprovalUseCase

end PurIdentityServer

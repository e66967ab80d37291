import PurIdentityServer.Domain.Authorization
import PurIdentityServer.Lib.Interleave
import PurIdentityServer.Lib.Table

/-!
# Ports — the calls a use case makes and the store that answers them

`Call` lists every repository and port call of the modelled use cases,
`Reply` the type of its answer. `World` is the shared store: one table
per SQL repository, the clock and the number of random values drawn so
far. `exec` answers a call on a world, atomically, as the SQL
repositories do: `save` replaces the whole row (that of the replay store
inserts one), `consume`, `approve` and `deny` rewrite a row that is there
and do nothing otherwise, `delete` likewise. What lies outside the repository (keys, signatures, remote
services) is a `Ports` value; its answers may depend on the clock and on
the draw, never on the tables.
-/

namespace PurIdentityServer

open Effects

/-! ## Arguments and answers of the ports -/

/-- The `aud` of a token: a name or a list of names. -/
inductive Audience where
  | one (name : String)
  | many (names : List String)
  deriving DecidableEq, Repr

def Audience.toList : Audience → List String
  | .one name => [name]
  | .many names => names

/-- The arguments of `create_id_token`. -/
structure IdTokenClaims where
  algorithm : JWTAlgorithm
  issuer : String
  subject : String
  audience : String
  expiresAt : Int
  issuedAt : Int
  nonce : String := ""
  sessionId : String := ""
  authTime : Int := 0
  atHash : String := ""
  cHash : String := ""
  sHash : String := ""
  sharedSecret : String := ""
  additionalClaims : List (String × Json) := []

/-- The arguments of `create_access_token`. -/
structure AccessTokenClaims where
  algorithm : JWTAlgorithm
  issuer : String
  subject : String
  audience : Audience
  expiresAt : Int
  issuedAt : Int
  scopes : Finset Scope
  additionalClaims : List (String × Json) := []

structure DPoPProof where
  jkt : String
  jti : String
  htm : String
  htu : String
  nonce : String := ""

structure DpopValidationError where
  error : String
  errorDescription : String := ""

/-- `UserClaims` -/
structure UserClaims where
  subject : String
  claims : List (String × Json) := []

/-- `LoginHintTokenResult` -/
structure LoginHintTokenResult where
  claims : Option (List (String × Json)) := none
  expired : Bool := false

/-- The outcome of a port that may raise. -/
abbrev Raising (α : Type) := Except Raised α

/-- What the server asks of code outside the repository. -/
structure Ports where
  /-- the `n`-th value of `secrets.token_urlsafe` -/
  tokenUrlsafe : Nat → String
  /-- the `n`-th choice of eight characters of the alphabet of user codes -/
  generateUserCode : Nat → String
  createIdToken : IdTokenClaims → Raising String
  createAccessToken : AccessTokenClaims → Nat → Raising String
  createUserinfoJwt : (issuer audience : String) → JWTAlgorithm → List (String × Json) →
    Raising String
  encryptIdToken : (idToken : String) → Client → (sharedSecret : String) → Raising String
  decryptSecret : (ciphertext : String) → Raising String
  verifyAssertion : (token : String) → Client → (audience : List String) →
    (requireIssEqSub : Bool) → Instant → Option (List (String × Json))
  checkDpopProof : (proof htu method : String) → Instant →
    Except DpopValidationError DPoPProof
  decodeLoginHintToken : (token : String) → Client → Instant → LoginHintTokenResult
  /-- the claims of a signed request object, or the reason of the refusal -/
  verifyRequestObject : (token : String) → Client → (issuer : String) →
    (allowedAlgorithms : List String) → Instant → Except String (List (String × Json))
  /-- the claims of an `id_token` of the server, expired or not -/
  validateIdToken : (token issuer : String) → Option (List (String × Json))
  findUserBySubject : (subject : String) → Option UserClaims
  findAllUsers : List UserClaims
  getClaims : (subject : String) → Raising (List (String × Json))
  verifiedClaims : (request : Json) → (subject : String) → Raising (Option Json)
  openid20Identifier : (subject realm : String) → Raising String
  /-- the metadata of a federated relying party, when its trust chain is accepted -/
  resolveTrustChain : (entity : String) → Instant → Option Client

/-! ## Calls and replies -/

inductive Call where
  | now
  | tokenUrlsafe
  | generateUserCode
  -- client registry
  | findClient (clientId : String)
  -- authorization codes
  | findByCode (code : String)
  | consumeCode (code : String)
  | saveCode (row : AuthorizationCode)
  -- refresh tokens
  | findByTokenHash (tokenHash : String)
  | consumeRefreshToken (tokenHash : String)
  | saveRefreshToken (row : RefreshToken)
  -- device sessions
  | findByDeviceCodeHash (deviceCodeHash : String)
  | findByUserCode (userCode : String)
  | saveDevice (row : DeviceAuthorization)
  | approveDevice (deviceCodeHash subject : String)
  | denyDevice (deviceCodeHash : String)
  | deleteDevice (deviceCodeHash : String)
  -- backchannel sessions
  | findByAuthReqIdHash (authReqIdHash : String)
  | saveBackchannel (row : BackchannelAuthenticationRequest)
  | approveBackchannel (authReqIdHash : String)
  | denyBackchannel (authReqIdHash : String)
  | deleteBackchannel (authReqIdHash : String)
  -- pushed requests and consents
  | findByRequestUri (requestUri : String)
  | savePushed (row : PushedAuthorization)
  | consumePushed (requestUri : String)
  | deletePushed (requestUri : String)
  | findConsent (subject clientId : String)
  | saveConsent (row : Consent)
  -- denylist and DPoP replays
  | saveRevoked (row : RevokedToken)
  | isUsedJti (jtiHash : String)
  | saveReplay (row : DPoPReplay)
  | purgeReplays
  -- resource registries
  | findIdentityResources
  | findApiResources
  -- signing, secrets and remote services
  | createIdToken (claims : IdTokenClaims)
  | createAccessToken (claims : AccessTokenClaims)
  | createUserinfoJwt (issuer audience : String) (algorithm : JWTAlgorithm)
      (claims : List (String × Json))
  | encryptIdToken (idToken : String) (client : Client) (sharedSecret : String)
  | decryptSecret (ciphertext : String)
  | verifyAssertion (token : String) (client : Client) (audience : List String)
      (requireIssEqSub : Bool)
  | checkDpopProof (proof htu method : String)
  | decodeLoginHintToken (token : String) (client : Client)
  | verifyRequestObject (token : String) (client : Client) (issuer : String)
      (allowedAlgorithms : List String)
  | validateIdToken (token issuer : String)
  | findUserBySubject (subject : String)
  | findAllUsers
  | getClaims (subject : String)
  | verifiedClaims (request : Json) (subject : String)
  | openid20Identifier (subject realm : String)
  | notifyPing (url token authReqId : String)
  | notifyPush (url token authReqId : String) (notification : Option String)

/-- The part of the store a call works on. -/
inductive Area where
  /-- keys, secrets and directories of users: no part of the store -/
  | keys
  /-- clock, clients, registries, proofs and the DPoP replay store -/
  | passive
  /-- random values -/
  | draws
  | accessTokens
  | codes
  /-- reading and consuming refresh tokens; saving one is apart -/
  | refreshTokens | newRefreshTokens
  | devices | backchannel | pushed | consents | revoked | notices
  deriving DecidableEq, Repr

def Call.area : Call → Area
  | .createIdToken _ | .createUserinfoJwt _ _ _ _ | .encryptIdToken _ _ _
  | .decryptSecret _ | .getClaims _ | .verifiedClaims _ _
  | .openid20Identifier _ _ | .validateIdToken _ _ | .findUserBySubject _
  | .findAllUsers => .keys
  | .now | .findClient _ | .isUsedJti _ | .saveReplay _ | .purgeReplays
  | .findIdentityResources | .findApiResources | .verifyAssertion _ _ _ _
  | .checkDpopProof _ _ _ | .decodeLoginHintToken _ _
  | .verifyRequestObject _ _ _ _ => .passive
  | .tokenUrlsafe | .generateUserCode => .draws
  | .createAccessToken _ => .accessTokens
  | .findByCode _ | .consumeCode _ | .saveCode _ => .codes
  | .findByTokenHash _ | .consumeRefreshToken _ => .refreshTokens
  | .saveRefreshToken _ => .newRefreshTokens
  | .findByDeviceCodeHash _ | .findByUserCode _ | .saveDevice _ | .approveDevice _ _
  | .denyDevice _ | .deleteDevice _ => .devices
  | .findByAuthReqIdHash _ | .saveBackchannel _ | .approveBackchannel _
  | .denyBackchannel _ | .deleteBackchannel _ => .backchannel
  | .findByRequestUri _ | .savePushed _ | .consumePushed _ | .deletePushed _ => .pushed
  | .findConsent _ _ | .saveConsent _ => .consents
  | .saveRevoked _ => .revoked
  | .notifyPing _ _ _ | .notifyPush _ _ _ _ => .notices

/-- The call works on one of the areas. -/
def Call.In (areas : List Area) (c : Call) : Prop := areas.contains c.area = true

/-- The calls to keys, secrets and directories of users that sign no `id_token`. -/
def Call.Service : Call → Prop
  | .createUserinfoJwt _ _ _ _ | .encryptIdToken _ _ _ | .decryptSecret _ | .getClaims _
  | .verifiedClaims _ _ | .openid20Identifier _ _ | .validateIdToken _ _
  | .findUserBySubject _ | .findAllUsers => True
  | _ => False

theorem Call.Service.in_keys {c : Call} (h : c.Service) : c.In [.keys] := by
  cases c <;> first
    | rfl
    | exact h.elim

/-- The calls that read and write no grant, consent or denylist row. -/
abbrev Call.Passive : Call → Prop := Call.In [.keys, .passive]

theorem Call.In.mono {l l' : List Area} (h : l.all (l'.contains ·) = true) (c : Call)
    (hc : c.In l) : c.In l' := by
  unfold Call.In at *
  rw [List.all_eq_true] at h
  exact h c.area (List.contains_iff_mem.mp hc)

@[reducible] def Reply : Call → Type
  | .now => Instant
  | .tokenUrlsafe => String
  | .generateUserCode => String
  | .findClient _ => Option Client
  | .findByCode _ => Option AuthorizationCode
  | .findByTokenHash _ => Option RefreshToken
  | .findByDeviceCodeHash _ => Option DeviceAuthorization
  | .findByUserCode _ => Option DeviceAuthorization
  | .findByAuthReqIdHash _ => Option BackchannelAuthenticationRequest
  | .findByRequestUri _ => Option PushedAuthorization
  | .findConsent _ _ => Option Consent
  | .isUsedJti _ => Bool
  | .saveReplay _ => Raising Unit
  | .findIdentityResources => List IdentityResource
  | .findApiResources => List ApiResource
  | .createIdToken _ => Raising String
  | .createAccessToken _ => Raising String
  | .createUserinfoJwt _ _ _ _ => Raising String
  | .encryptIdToken _ _ _ => Raising String
  | .decryptSecret _ => Raising String
  | .verifyAssertion _ _ _ _ => Option (List (String × Json))
  | .checkDpopProof _ _ _ => Except DpopValidationError DPoPProof
  | .decodeLoginHintToken _ _ => LoginHintTokenResult
  | .verifyRequestObject _ _ _ _ => Except String (List (String × Json))
  | .validateIdToken _ _ => Option (List (String × Json))
  | .findUserBySubject _ => Option UserClaims
  | .findAllUsers => List UserClaims
  | .getClaims _ => Raising (List (String × Json))
  | .verifiedClaims _ _ => Raising (Option Json)
  | .openid20Identifier _ _ => Raising String
  | _ => Unit

/-! ## The store -/

structure World where
  clock : Instant
  draws : Nat := 0
  clients : Table Client.clientId := .empty
  codes : Table AuthorizationCode.code := .empty
  refreshTokens : Table RefreshToken.tokenHash := .empty
  deviceCodes : Table DeviceAuthorization.deviceCodeHash := .empty
  backchannelAuth : Table BackchannelAuthenticationRequest.authReqIdHash := .empty
  pushed : Table PushedAuthorization.requestUri := .empty
  consents : Table (fun c : Consent => (c.subject, c.clientId)) := .empty
  revoked : Table RevokedToken.tokenHash := .empty
  replays : Table DPoPReplay.jtiHash := .empty
  identityResources : List IdentityResource := []
  apiResources : List ApiResource := []

namespace World

/-- Change the rows of one key of one table. -/
def consumeCode (w : World) (code : String) : World :=
  { w with codes := w.codes.update code ({ · with isConsumed := true }) fun _ => rfl }

def consumeRefreshToken (w : World) (tokenHash : String) : World :=
  { w with
    refreshTokens :=
      w.refreshTokens.update tokenHash ({ · with isConsumed := true }) fun _ => rfl }

def approveDevice (w : World) (deviceCodeHash subject : String) : World :=
  { w with
    deviceCodes :=
      w.deviceCodes.update deviceCodeHash
        ({ · with status := .approved, subject := subject }) fun _ => rfl }

def denyDevice (w : World) (deviceCodeHash : String) : World :=
  { w with
    deviceCodes :=
      w.deviceCodes.update deviceCodeHash ({ · with status := .denied }) fun _ => rfl }

def approveBackchannel (w : World) (authReqIdHash : String) : World :=
  { w with
    backchannelAuth :=
      w.backchannelAuth.update authReqIdHash ({ · with status := .approved })
        fun _ => rfl }

def denyBackchannel (w : World) (authReqIdHash : String) : World :=
  { w with
    backchannelAuth :=
      w.backchannelAuth.update authReqIdHash ({ · with status := .denied })
        fun _ => rfl }

def consumePushed (w : World) (requestUri : String) : World :=
  { w with
    pushed := w.pushed.update requestUri ({ · with isConsumed := true }) fun _ => rfl }

/-- `save` of the DPoP replay store: an insertion, which a row under the same key makes fail. -/
def insertReplay (w : World) (row : DPoPReplay) : Raising Unit × World :=
  let used := (w.replays.find row.jtiHash).isSome
  (if used then .error (.other "IntegrityError") else .ok (),
    { w with replays := if used then w.replays else w.replays.save row })

/-- `purge_expired` of the DPoP replay store. -/
def purgeReplays (w : World) : World :=
  { w with
    replays :=
      { rows := w.replays.rows.filter fun r => w.clock < r.expiresAt
        nodup := w.replays.nodup.sublist (List.filter_sublist.map _) } }

/-- `FederatedClientReader.find_by_id`: the registry first, then the
client derived from the trust chain of the entity, under its name. -/
def findClient (ports : Ports) (w : World) (clientId : String) : Option Client :=
  match w.clients.find clientId with
  | some client => some client
  | none =>
      (ports.resolveTrustChain clientId w.clock).map fun c =>
        { c with clientId := clientId, federated := true }

theorem findClient_clientId {ports : Ports} {w : World} {clientId : String}
    {client : Client} (h : w.findClient ports clientId = some client) :
    client.clientId = clientId := by
  unfold findClient at h
  split at h
  · rename_i c hc
    cases h
    exact Table.find_key hc
  · obtain ⟨c, -, rfl⟩ := Option.map_eq_some_iff.mp h
    rfl

end World

/-- One atomic call. -/
def exec (ports : Ports) : (c : Call) → World → Reply c × World
  | .now, w => (w.clock, w)
  | .tokenUrlsafe, w => (ports.tokenUrlsafe w.draws, { w with draws := w.draws + 1 })
  | .generateUserCode, w =>
      (ports.generateUserCode w.draws, { w with draws := w.draws + 1 })
  | .findClient id, w => (w.findClient ports id, w)
  | .findByCode code, w => (w.codes.find code, w)
  | .consumeCode code, w => ((), w.consumeCode code)
  | .saveCode row, w => ((), { w with codes := w.codes.save row })
  | .findByTokenHash h, w => (w.refreshTokens.find h, w)
  | .consumeRefreshToken h, w => ((), w.consumeRefreshToken h)
  | .saveRefreshToken row, w => ((), { w with refreshTokens := w.refreshTokens.save row })
  | .findByDeviceCodeHash h, w => (w.deviceCodes.find h, w)
  | .findByUserCode code, w => ((w.deviceCodes.select fun d => d.userCode = code).head?, w)
  | .saveDevice row, w => ((), { w with deviceCodes := w.deviceCodes.save row })
  | .approveDevice h subject, w => ((), w.approveDevice h subject)
  | .denyDevice h, w => ((), w.denyDevice h)
  | .deleteDevice h, w => ((), { w with deviceCodes := w.deviceCodes.delete h })
  | .findByAuthReqIdHash h, w => (w.backchannelAuth.find h, w)
  | .saveBackchannel row, w =>
      ((), { w with backchannelAuth := w.backchannelAuth.save row })
  | .approveBackchannel h, w => ((), w.approveBackchannel h)
  | .denyBackchannel h, w => ((), w.denyBackchannel h)
  | .deleteBackchannel h, w =>
      ((), { w with backchannelAuth := w.backchannelAuth.delete h })
  | .findByRequestUri uri, w => (w.pushed.find uri, w)
  | .savePushed row, w => ((), { w with pushed := w.pushed.save row })
  | .consumePushed uri, w => ((), w.consumePushed uri)
  | .deletePushed uri, w => ((), { w with pushed := w.pushed.delete uri })
  | .findConsent subject clientId, w => (w.consents.find (subject, clientId), w)
  | .saveConsent row, w => ((), { w with consents := w.consents.save row })
  | .saveRevoked row, w => ((), { w with revoked := w.revoked.save row })
  | .isUsedJti h, w => ((w.replays.find h).isSome, w)
  | .saveReplay row, w => w.insertReplay row
  | .purgeReplays, w => ((), w.purgeReplays)
  | .findIdentityResources, w => (w.identityResources, w)
  | .findApiResources, w => (w.apiResources, w)
  | .createIdToken claims, w => (ports.createIdToken claims, w)
  | .createAccessToken claims, w =>
      (ports.createAccessToken claims w.draws, { w with draws := w.draws + 1 })
  | .createUserinfoJwt issuer audience algorithm claims, w =>
      (ports.createUserinfoJwt issuer audience algorithm claims, w)
  | .encryptIdToken idToken client sharedSecret, w =>
      (ports.encryptIdToken idToken client sharedSecret, w)
  | .decryptSecret ciphertext, w => (ports.decryptSecret ciphertext, w)
  | .verifyAssertion token client audience require, w =>
      (ports.verifyAssertion token client audience require w.clock, w)
  | .checkDpopProof proof htu method, w =>
      (ports.checkDpopProof proof htu method w.clock, w)
  | .decodeLoginHintToken token client, w =>
      (ports.decodeLoginHintToken token client w.clock, w)
  | .verifyRequestObject token client issuer algorithms, w =>
      (ports.verifyRequestObject token client issuer algorithms w.clock, w)
  | .validateIdToken token issuer, w => (ports.validateIdToken token issuer, w)
  | .findUserBySubject subject, w => (ports.findUserBySubject subject, w)
  | .findAllUsers, w => (ports.findAllUsers, w)
  | .getClaims subject, w => (ports.getClaims subject, w)
  | .verifiedClaims request subject, w => (ports.verifiedClaims request subject, w)
  | .openid20Identifier subject realm, w => (ports.openid20Identifier subject realm, w)
  | .notifyPing _ _ _, w => ((), w)
  | .notifyPush _ _ _ _, w => ((), w)

/-! ## What a call changes

Each table is changed by the calls of its area only. -/

section
variable (ports : Ports) (c : Call) (w : World)

theorem exec_codes : (exec ports c w).2.codes =
    match c with
    | .consumeCode code => (w.consumeCode code).codes
    | .saveCode row => w.codes.save row
    | _ => w.codes := by
  cases c <;> rfl

theorem exec_refreshTokens : (exec ports c w).2.refreshTokens =
    match c with
    | .consumeRefreshToken h => (w.consumeRefreshToken h).refreshTokens
    | .saveRefreshToken row => w.refreshTokens.save row
    | _ => w.refreshTokens := by
  cases c <;> rfl

theorem exec_deviceCodes : (exec ports c w).2.deviceCodes =
    match c with
    | .saveDevice row => w.deviceCodes.save row
    | .approveDevice h subject => (w.approveDevice h subject).deviceCodes
    | .denyDevice h => (w.denyDevice h).deviceCodes
    | .deleteDevice h => w.deviceCodes.delete h
    | _ => w.deviceCodes := by
  cases c <;> rfl

theorem exec_backchannelAuth : (exec ports c w).2.backchannelAuth =
    match c with
    | .saveBackchannel row => w.backchannelAuth.save row
    | .approveBackchannel h => (w.approveBackchannel h).backchannelAuth
    | .denyBackchannel h => (w.denyBackchannel h).backchannelAuth
    | .deleteBackchannel h => w.backchannelAuth.delete h
    | _ => w.backchannelAuth := by
  cases c <;> rfl

theorem exec_pushed : (exec ports c w).2.pushed =
    match c with
    | .savePushed row => w.pushed.save row
    | .consumePushed uri => (w.consumePushed uri).pushed
    | .deletePushed uri => w.pushed.delete uri
    | _ => w.pushed := by
  cases c <;> rfl

theorem exec_revoked : (exec ports c w).2.revoked =
    match c with
    | .saveRevoked row => w.revoked.save row
    | _ => w.revoked := by
  cases c <;> rfl

theorem exec_replays : (exec ports c w).2.replays =
    match c with
    | .saveReplay row => if (w.replays.find row.jtiHash).isSome then w.replays
        else w.replays.save row
    | .purgeReplays => w.purgeReplays.replays
    | _ => w.replays := by
  cases c <;> rfl

theorem exec_draws : (exec ports c w).2.draws =
    match c with
    | .tokenUrlsafe | .generateUserCode | .createAccessToken _ => w.draws + 1
    | _ => w.draws := by
  cases c <;> rfl

theorem exec_clients : (exec ports c w).2.clients = w.clients := by
  cases c <;> rfl

theorem exec_apiResources : (exec ports c w).2.apiResources = w.apiResources := by
  cases c <;> rfl

theorem exec_clock : (exec ports c w).2.clock = w.clock := by
  cases c <;> rfl

end

/-! ## Use cases as programs -/

/-- How a use case ends when it returns no value: an error response, or
an exception it lets through. -/
inductive Stop (ε : Type) where
  | refused (error : ε)
  | raised (exception : Raised)
  deriving Repr

/-- The programs of the use cases; `ε` is their error response. -/
abbrev M (ε α : Type) := Prog Call Reply (Stop ε) α

section
variable {ε ε' α : Type}

/-- One call. -/
def ask (c : Call) : M ε (Reply c) := Prog.op c

def refuse (error : ε) : M ε α := .fail (.refused error)

def raise (exception : Raised) : M ε α := .fail (.raised exception)

/-- Return the error when `b` holds. -/
def refuseIf (b : Prop) [Decidable b] (error : ε) : M ε Unit :=
  Prog.stopIf b (.refused error)

/-- The value found, or the error. -/
def orRefuse (error : ε) (o : Option α) : M ε α := Prog.getOr (.refused error) o

/-- The value of a port that may raise. -/
def orRaise : Raising α → M ε α
  | .ok a => .pure a
  | .error x => raise x

/-- The use case as a value: its response or its error response. Exceptions
still pass through. -/
def outcome (p : M ε α) : M ε' (Except ε α) :=
  (p >>= fun a => pure (.ok a) : M ε (Except ε α)).handle fun
    | .refused e => pure (.error e)
    | .raised x => raise x

/-- `except JWEUnavailableError`. -/
def catchJwe (p : M ε α) (h : M ε α) : M ε α :=
  p.handle fun
    | .raised (.jweUnavailable _) => h
    | stop => .fail stop

end

/-! ## Running a use case alone -/

section
variable {ports : Ports} {ε α : Type} {w w' : World}

@[simp] theorem run_refuse_ok {error : ε} {a : α} :
    (refuse error : M ε α).run (exec ports) w = (.ok a, w') ↔ False :=
  Prog.run_fail_ok

/-- A use case that returns has passed the check it begins with. -/
theorem run_refuseIf_bind_ok {b : Prop} [Decidable b] {error : ε} {f : Unit → M ε α} {a : α} :
    (refuseIf b error >>= f).run (exec ports) w = (.ok a, w') ↔
      ¬b ∧ (f ()).run (exec ports) w = (.ok a, w') :=
  Prog.run_stopIf_bind_ok

/-- A use case that returns has found the client it begins with. -/
theorem run_findClient_bind_ok {clientId : String} {error : ε} {f : Client → M ε α} {a : α} :
    (ask (.findClient clientId) >>= orRefuse error >>= f).run (exec ports) w = (.ok a, w') ↔
      ∃ client, w.findClient ports clientId = some client ∧
        (f client).run (exec ports) w = (.ok a, w') := by
  show ((orRefuse error (w.findClient ports clientId) : M ε Client) >>= f).run (exec ports) w
    = (.ok a, w') ↔ _
  exact Prog.run_getOr_bind_ok

theorem run_ask_bind {c : Call} {f : Reply c → M ε α} :
    (ask c >>= f).run (exec ports) w =
      (f (exec ports c w).1).run (exec ports) (exec ports c w).2 :=
  rfl

theorem run_verifyAssertion_bind {token : String} {client : Client} {audience : List String}
    {requireIssEqSub : Bool} {f : Option (List (String × Json)) → M ε α} :
    (ask (.verifyAssertion token client audience requireIssEqSub) >>= f).run (exec ports) w =
      (f (ports.verifyAssertion token client audience requireIssEqSub w.clock)).run (exec ports) w :=
  rfl

end

/-! ## Stepping through a use case -/

section
variable {ε α β γ : Type} {m : Monitor Call Reply γ} {E : γ → Stop ε → Prop} {g : γ}

theorem wp_ask_bind {c : Call} {f : Reply c → M ε β} {Q : γ → β → Prop} :
    wp m (ask c >>= f) Q E g ↔
      m.ok g c ∧ ∀ r, m.good g c r → wp m (f r) Q E (m.next g c r) :=
  wp_call

theorem wp_refuseIf_bind {b : Prop} [Decidable b] {error : ε} {f : Unit → M ε β}
    {Q : γ → β → Prop} :
    wp m (refuseIf b error >>= f) Q E g ↔
      (b → E g (.refused error)) ∧ (¬ b → wp m (f ()) Q E g) := by
  rw [wp_bind]
  exact wp_stopIf b _

theorem wp_orRefuse_bind {error : ε} {p : M ε (Option α)} {f : α → M ε β}
    {Q : γ → β → Prop} :
    wp m (p >>= orRefuse error >>= f) Q E g ↔
      wp m p (fun g o => (o = none → E g (.refused error)) ∧
        ∀ a, o = some a → wp m (f a) Q E g) E g := by
  rw [wp_bind, wp_bind]
  simp only [orRefuse, wp_getOr]

theorem wp_orRaise {r : Raising α} {Q : γ → α → Prop} :
    wp m (orRaise r : M ε α) Q E g ↔
      (∀ x, r = .error x → E g (.raised x)) ∧ ∀ a, r = .ok a → Q g a := by
  cases r <;> simp [orRaise, raise, wp]

theorem wp_orRaise_bind {p : M ε (Raising α)} {f : α → M ε β} {Q : γ → β → Prop} :
    wp m (p >>= orRaise >>= f) Q E g ↔
      wp m p (fun g r => (∀ x, r = .error x → E g (.raised x)) ∧
        ∀ a, r = .ok a → wp m (f a) Q E g) E g := by
  rw [wp_bind, wp_bind]
  simp only [wp_orRaise]

end

/-- The machine of a deployment: atomic calls, and a clock that moves on
its own. -/
def machine (ports : Ports) : Machine Call Reply World where
  exec := exec ports
  env := fun w w' => ∃ t, w.clock ≤ t ∧ w' = { w with clock := t }

end PurIdentityServer
